import TransitDwell.Text.Decimal

/-!
# JSON

A JSON text is read into a tree that loses nothing: numbers keep their spelling, so that `1`,
`1.0` and `-0` stay apart, and objects keep their members in order with their repetitions. A
string that contains half of a surrogate pair spells no text; it is read as `none`, and it is for
whoever needs the text to refuse it.
-/

namespace TransitDwell

/-- A JSON value. -/
inductive Json where
  /-- The value `null`. -/
  | null
  /-- A truth value. -/
  | bool (value : Bool)
  /-- A number as it is spelled. -/
  | number (spelling : String)
  /-- A string, if its escapes spell a text. -/
  | string (text : Option String)
  /-- An array. -/
  | array (items : List Json)
  /-- An object: its members in order. -/
  | object (members : List (Option String × Json))

namespace Json

/-! ### Strings -/

/-- A piece of a string: a character that stands for itself, or a 16-bit unit from an escape. -/
inductive Piece where
  /-- A character. -/
  | char (c : Char)
  /-- A unit. -/
  | unit (n : Nat)

/-- Where in a string reading stands. -/
inductive Mode where
  /-- Between characters. -/
  | plain
  /-- Behind a backslash. -/
  | escape
  /-- Within the unit of an escape: digits still to come, and the number of those before. -/
  | unit (missing n : Nat)

/-- The character that a one-letter escape stands for. -/
def simpleEscape? (c : Char) : Option Char :=
  match c with
  | '"' => some '"'
  | '\\' => some '\\'
  | '/' => some '/'
  | 'b' => some '\x08'
  | 'f' => some '\x0c'
  | 'n' => some '\n'
  | 'r' => some '\r'
  | 't' => some '\t'
  | _ => none

/-- The pieces of a string up to its closing quote, last piece first, and what follows the quote.
Control characters must be escaped. -/
def pieces (mode : Mode) (found : List Piece) : List Char → Option (List Piece × List Char)
  | [] => none
  | c :: cs =>
    match mode with
    | .plain =>
      if c = '"' then some (found, cs)
      else if c = '\\' then pieces .escape found cs
      else if c.toNat < 32 then none
      else pieces .plain (.char c :: found) cs
    | .escape =>
      if c = 'u' then pieces (.unit 4 0) found cs
      else
        match simpleEscape? c with
        | some d => pieces .plain (.char d :: found) cs
        | none => none
    | .unit missing n =>
      match Digits.value? c with
      | none => none
      | some d =>
        if missing ≤ 1 then pieces .plain (.unit (n * 16 + d) :: found) cs
        else pieces (.unit (missing - 1) (n * 16 + d)) found cs

/-- Whether a unit is the first half of a surrogate pair. -/
def isHighHalf (n : Nat) : Bool := 0xD800 ≤ n && n < 0xDC00

/-- Whether a unit is the second half of a surrogate pair. -/
def isLowHalf (n : Nat) : Bool := 0xDC00 ≤ n && n < 0xE000

/-- The text that pieces spell, read from the last to the first; `chars` is the text after them,
and `low` the second half of a pair that waits for its first. -/
def spell : List Piece → (low : Option Nat) → (chars : List Char) → Option (List Char)
  | [], none, chars => some chars
  | [], some _, _ => none
  | .char c :: before, none, chars => spell before none (c :: chars)
  | .char _ :: _, some _, _ => none
  | .unit n :: before, none, chars =>
    if isLowHalf n then spell before (some n) chars
    else if isHighHalf n then none
    else spell before none (Char.ofNat n :: chars)
  | .unit n :: before, some low, chars =>
    if isHighHalf n then
      spell before none (Char.ofNat (0x10000 + (n - 0xD800) * 0x400 + (low - 0xDC00)) :: chars)
    else none

/-- Reads a string after its opening quote. -/
def stringTail? (cs : List Char) : Option (Option String × List Char) :=
  (pieces .plain [] cs).map fun (found, cs) =>
    ((spell found none []).map String.ofList, cs)

/-! ### Numbers -/

/-- One digit at least, and what follows the digits. -/
def someDigits? (cs : List Char) : Option (List Char × List Char) :=
  match cs.takeWhile Char.isDigit with
  | [] => none
  | ds => some (ds, cs.dropWhile Char.isDigit)

/-- The whole part of a number: zero, or digits that do not begin with zero. -/
def wholePart? : List Char → Option (List Char × List Char)
  | '0' :: cs => some (['0'], cs)
  | cs => someDigits? cs

/-- The fraction of a number, if there is one. -/
def fractionPart? : List Char → Option (List Char × List Char)
  | '.' :: cs => (someDigits? cs).map fun (ds, cs) => ('.' :: ds, cs)
  | cs => some ([], cs)

/-- The exponent of a number, if there is one. -/
def exponentPart? : List Char → Option (List Char × List Char)
  | c :: cs =>
    if c = 'e' || c = 'E' then
      match cs with
      | '+' :: cs => (someDigits? cs).map fun (ds, cs) => (c :: '+' :: ds, cs)
      | '-' :: cs => (someDigits? cs).map fun (ds, cs) => (c :: '-' :: ds, cs)
      | cs => (someDigits? cs).map fun (ds, cs) => (c :: ds, cs)
    else some ([], c :: cs)
  | [] => some ([], [])

/-- The spelling of a number. -/
def number? (cs : List Char) : Option (List Char × List Char) := do
  let (sign, cs) : List Char × List Char :=
    match cs with
    | '-' :: cs => (['-'], cs)
    | cs => ([], cs)
  let (whole, cs) ← wholePart? cs
  let (fraction, cs) ← fractionPart? cs
  let (exponent, cs) ← exponentPart? cs
  return (sign ++ whole ++ fraction ++ exponent, cs)

/-! ### Values -/

/-- What follows blanks. -/
def skipBlanks (cs : List Char) : List Char :=
  cs.dropWhile fun c => c = ' ' || c = '\t' || c = '\n' || c = '\r'

/-- What follows a word at the beginning of a text, if the text begins with it. -/
def afterWord? : List Char → List Char → Option (List Char)
  | [], cs => some cs
  | w :: word, c :: cs => if w = c then afterWord? word cs else none
  | _ :: _, [] => none

mutual

/-- Reads a value. The fuel bounds the depth of the recursion; twice the length of the text is
enough. -/
def value? : (fuel : Nat) → List Char → Option (Json × List Char)
  | 0, _ => none
  | fuel + 1, cs =>
    match cs with
    | '"' :: cs => (stringTail? cs).map fun (text, cs) => (.string text, cs)
    | '[' :: cs =>
      match skipBlanks cs with
      | ']' :: cs => some (.array [], cs)
      | cs => items? fuel [] cs
    | '\x7b' :: cs =>
      match skipBlanks cs with
      | '\x7d' :: cs => some (.object [], cs)
      | cs => members? fuel [] cs
    | 'n' :: cs => (afterWord? ['u', 'l', 'l'] cs).map fun cs => (.null, cs)
    | 't' :: cs => (afterWord? ['r', 'u', 'e'] cs).map fun cs => (.bool true, cs)
    | 'f' :: cs => (afterWord? ['a', 'l', 's', 'e'] cs).map fun cs => (.bool false, cs)
    | cs => (number? cs).map fun (spelling, cs) => (.number (String.ofList spelling), cs)

/-- Reads the items of an array that is not empty; those read before come last first. -/
def items? : (fuel : Nat) → List Json → List Char → Option (Json × List Char)
  | 0, _, _ => none
  | fuel + 1, found, cs =>
    match value? fuel (skipBlanks cs) with
    | none => none
    | some (item, cs) =>
      match skipBlanks cs with
      | ',' :: cs => items? fuel (item :: found) cs
      | ']' :: cs => some (.array (item :: found).reverse, cs)
      | _ => none

/-- Reads the members of an object that is not empty; those read before come last first. -/
def members? : (fuel : Nat) → List (Option String × Json) → List Char → Option (Json × List Char)
  | 0, _, _ => none
  | fuel + 1, found, cs =>
    match skipBlanks cs with
    | '"' :: cs =>
      match stringTail? cs with
      | none => none
      | some (name, cs) =>
        match skipBlanks cs with
        | ':' :: cs =>
          match value? fuel (skipBlanks cs) with
          | none => none
          | some (value, cs) =>
            match skipBlanks cs with
            | ',' :: cs => members? fuel ((name, value) :: found) cs
            | '\x7d' :: cs => some (.object ((name, value) :: found).reverse, cs)
            | _ => none
        | _ => none
    | _ => none

end

/-- Reads a text that is one value, with nothing but blanks before and after it. -/
def ofText? (s : String) : Option Json :=
  let cs := s.toList
  match value? (2 * cs.length + 2) (skipBlanks cs) with
  | some (value, cs) => if (skipBlanks cs).isEmpty then some value else none
  | none => none

/-! ### Written form -/

/-- A hexadecimal digit. -/
def hexDigit (n : Nat) : Char :=
  if n < 10 then Char.ofNat ('0'.toNat + n) else Char.ofNat ('a'.toNat + n - 10)

/-- How a character is written in a string. Only what must be escaped is. -/
def escaped (c : Char) : List Char :=
  if c = '"' then ['\\', '"']
  else if c = '\\' then ['\\', '\\']
  else if c = '\x08' then ['\\', 'b']
  else if c = '\x0c' then ['\\', 'f']
  else if c = '\n' then ['\\', 'n']
  else if c = '\r' then ['\\', 'r']
  else if c = '\t' then ['\\', 't']
  else if c.toNat < 32 then
    ['\\', 'u', '0', '0', hexDigit (c.toNat / 16), hexDigit (c.toNat % 16)]
  else [c]

/-- A text as a string. -/
def quoted (s : String) : String := "\"" ++ String.ofList (s.toList.flatMap escaped) ++ "\""

/-- A string with a text. -/
def ofString (s : String) : Json := .string (some s)

/-- A whole number. -/
def ofInt (n : Int) : Json := .number (toString n)

/-- A value or `null`. -/
def ofOption {β : Type} (f : β → Json) : Option β → Json
  | some b => f b
  | none => .null

/-- An object with distinct names. -/
def record (members : List (String × Json)) : Json :=
  .object (members.map fun (name, value) => (some name, value))

mutual

/-- The written form of a value, without blanks. A string without a text is written as `null`. -/
def text : Json → String
  | .null => "null"
  | .bool true => "true"
  | .bool false => "false"
  | .number spelling => spelling
  | .string (some s) => quoted s
  | .string none => "null"
  | .array items => "[" ++ ",".intercalate (itemTexts items) ++ "]"
  | .object members => "\x7b" ++ ",".intercalate (memberTexts members) ++ "\x7d"

/-- The written forms of items. -/
def itemTexts : List Json → List String
  | [] => []
  | item :: items => text item :: itemTexts items

/-- The written forms of members. -/
def memberTexts : List (Option String × Json) → List String
  | [] => []
  | (name, value) :: members =>
    (quoted (name.getD "") ++ ":" ++ text value) :: memberTexts members

end

end Json

end TransitDwell
