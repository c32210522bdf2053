import TransitDwell.Text.Decimal
import TransitDwell.Text.WordChar

/-!
# Lexemes of settings

Settings are written as named fields in parentheses, `(name: value, …)`. This module reads the
smallest parts of that notation: blanks and comments, words, numbers and quoted text. Each reader
gives what it has read and the rest of the text, or nothing if the text does not begin with it.
-/

namespace TransitDwell

namespace Settings

/-- A reader of something at the beginning of a text. -/
abbrev Reader (β : Type) := List Char → Option (β × List Char)

/-! ### Blanks and comments -/

/-- Whether a character is blank: spaces, line ends and direction marks. -/
def isBlank (c : Char) : Bool :=
  [' ', '\t', '\n', '\r', '\x0b', '\x0c', '\u0085', '\u200e', '\u200f', '\u2028',
    '\u2029'].contains c

/-- What follows a block comment within which the text begins, `depth` comments deep. -/
def afterBlockComment : (depth : Nat) → List Char → Option (List Char)
  | 0, cs => some cs
  | _ + 1, [] => none
  | depth + 1, '/' :: '*' :: cs => afterBlockComment (depth + 2) cs
  | depth + 1, '*' :: '/' :: cs => afterBlockComment depth cs
  | depth + 1, _ :: cs => afterBlockComment (depth + 1) cs

/-- What follows blanks and comments; each step of the recursion takes a character at least. -/
def skipWith : (fuel : Nat) → List Char → Option (List Char)
  | 0, cs => some cs
  | fuel + 1, cs =>
    match cs.dropWhile isBlank with
    | '/' :: '/' :: cs => skipWith fuel (cs.dropWhile (· ≠ '\n'))
    | '/' :: '*' :: cs => (afterBlockComment 1 cs).bind (skipWith fuel)
    | '/' :: _ => none
    | cs => some cs

/-- What follows blanks and comments. A line comment ends with its line, a block comment may hold
others and must be closed, and a slash that begins no comment is an error. -/
def skip (cs : List Char) : Option (List Char) :=
  match cs.dropWhile isBlank with
  | '/' :: cs => skipWith (cs.length + 2) ('/' :: cs)
  | cs => some cs

/-! ### Words -/

/-- Whether a text begins with a word. -/
def startsWith (word : String) (cs : List Char) : Bool := word.toList.isPrefixOf cs

/-- What follows a word, if the text begins with it. -/
def after? (word : String) (cs : List Char) : Option (List Char) :=
  if startsWith word cs then some (cs.drop word.length) else none

/-- Whether a text goes on with a word. -/
def goesOn : List Char → Bool
  | c :: _ => WordChar.isContinue c
  | [] => false

/-- What follows a whole word, if the text begins with it. -/
def afterWord? (word : String) (cs : List Char) : Option (List Char) :=
  (after? word cs).bind fun cs => if goesOn cs then none else some cs

/-- What follows the first of some words that the text begins with. -/
def afterOneOf? (words : List String) (cs : List Char) : Option (List Char) :=
  words.findSome? fun word => afterWord? word cs

/-- Whether a word may begin with a character. -/
def isWordStart (c : Char) : Bool := c = '_' || WordChar.isStart c

/-- Whether a raw word may contain a character. -/
def isRawChar (c : Char) : Bool := c = '.' || c = '+' || c = '-' || WordChar.isContinue c

/-- Whether what looks like a word is the beginning of quoted text or of a byte. -/
def startsQuoted (cs : List Char) : Bool :=
  ["b\"", "b'", "br#", "br\"", "r\"", "r##"].any fun start => startsWith start cs

/-- Reads the name of a field. A raw word `r#word` stands for the word, and may contain points and
signs; other words must not run into these. -/
def name? : Reader String := fun cs =>
  match cs with
  | [] => none
  | c :: _ =>
    if !isWordStart c || startsQuoted cs then none
    else
      match cs with
      | 'r' :: '#' :: raw =>
        match raw.takeWhile isRawChar with
        | [] => none
        | word => some (String.ofList word, raw.dropWhile isRawChar)
      | _ =>
        let rest := cs.dropWhile WordChar.isContinue
        match rest with
        | d :: _ =>
          if isRawChar d then none
          else some (String.ofList (cs.takeWhile WordChar.isContinue), rest)
        | [] => some (String.ofList cs, [])

/-- What follows a word of any kind at the beginning of a value. -/
def afterAnyWord? (cs : List Char) : Option (List Char) :=
  if startsQuoted cs || startsWith "r#\"" cs then none
  else
    match cs with
    | 'r' :: '#' :: raw =>
      match raw.takeWhile isRawChar with
      | [] => none
      | _ => some (raw.dropWhile isRawChar)
    | c :: rest => if isWordStart c then some (rest.dropWhile WordChar.isContinue) else none
    | [] => none

/-! ### Whole numbers -/

/-- The signs of a number. -/
def sign : List Char → Bool × List Char
  | '+' :: cs => (false, cs)
  | '-' :: cs => (true, cs)
  | cs => (false, cs)

/-- Whether a whole number may contain a character: a digit in some base, or an underscore. -/
def isWholeChar (c : Char) : Bool :=
  c.isDigit || ('a' ≤ c && c ≤ 'f') || ('A' ≤ c && c ≤ 'F') || c = '_'

/-- Reads a whole number without a sign: digits in base ten, or in base two, eight or sixteen
after `0b`, `0o` or `0x`. Underscores may stand between digits and after them. -/
def magnitude? : Reader Nat := fun cs =>
  let (base, cs) : Nat × List Char :=
    match cs with
    | '0' :: 'b' :: cs => (2, cs)
    | '0' :: 'o' :: cs => (8, cs)
    | '0' :: 'x' :: cs => (16, cs)
    | cs => (10, cs)
  match cs.takeWhile isWholeChar with
  | [] => none
  | '_' :: _ => none
  | ds => (Digits.toNat? base (ds.filter (· ≠ '_'))).map fun n => (n, cs.dropWhile isWholeChar)

/-- The kinds of whole numbers, by the suffix that names them, with their bounds. -/
def wholeKinds : List (String × Int × Int) := [
  ("i8", -128, 127), ("i16", -32768, 32767), ("i32", -2147483648, 2147483647),
  ("i64", -9223372036854775808, 9223372036854775807),
  ("u8", 0, 255), ("u16", 0, 65535), ("u32", 0, 4294967295), ("u64", 0, 18446744073709551615)]

/-- The suffix of a whole number that begins here, if it has one, and what follows it. -/
def suffix? (cs : List Char) : Option (String × List Char) :=
  let rest := cs.dropWhile isWholeChar
  wholeKinds.findSome? fun kind => (afterWord? kind.1 rest).map fun rest => (kind.1, rest)

/-- A whole number with its suffix. -/
structure Whole where
  /-- Whether there is a minus sign. -/
  negative : Bool
  /-- The digits, read as a number. -/
  magnitude : Nat
  /-- The suffix. -/
  suffix : Option String

namespace Whole

/-- The number. -/
def value (w : Whole) : Int := if w.negative then -w.magnitude else w.magnitude

/-- Whether the number is within the bounds of a kind. -/
def fits (w : Whole) (kind : String) : Bool :=
  wholeKinds.any fun (name, lo, hi) => name == kind && lo ≤ w.value && w.value ≤ hi

end Whole

/-- Reads a whole number. -/
def whole? : Reader Whole := fun cs =>
  let (negative, cs) := sign cs
  match magnitude? cs with
  | none => none
  | some (magnitude, rest) =>
    match suffix? cs with
    | some (suffix, rest) => some (⟨negative, magnitude, some suffix⟩, rest)
    | none => some (⟨negative, magnitude, none⟩, rest)

/-! ### Decimal numbers -/

/-- Whether a decimal number may contain a character. -/
def isDecimalChar (c : Char) : Bool :=
  c.isDigit || c = 'e' || c = 'E' || c = '.' || c = '+' || c = '-' || c = '_'

/-- Removes underscores, which may stand after a digit or the letter of the exponent, but not at
the beginning or after the point. -/
def dropUnderscores (allowed : Bool) : List Char → Option (List Char)
  | [] => some []
  | c :: cs =>
    if c = '_' then if allowed then dropUnderscores true cs else none
    else if c.isDigit || c = 'e' || c = 'E' then (dropUnderscores true cs).map (c :: ·)
    else if c = '.' then (dropUnderscores false cs).map (c :: ·)
    else (dropUnderscores allowed cs).map (c :: ·)

/-- The words for what is no ordinary number. -/
def extraordinary : List (String × Float) := [
  ("inf", 1.0 / 0.0), ("+inf", 1.0 / 0.0), ("-inf", -1.0 / 0.0),
  ("NaN", 0.0 / 0.0), ("+NaN", 0.0 / 0.0), ("-NaN", 0.0 / 0.0)]

/-- Reads an infinity or what is no number, followed by one of some suffixes. -/
def extraordinary? (suffixes : List String) : Reader Float := fun cs =>
  extraordinary.findSome? fun (word, value) =>
    (afterOneOf? (suffixes.map (word ++ ·)) cs).map fun rest => (value, rest)

/-- Reads a decimal number, with or without one of some suffixes. Any other suffix is left unread,
so that whatever should come next does not. -/
def decimal? (suffixes : List String) : Reader Float := fun cs =>
  match extraordinary? ("" :: suffixes) cs with
  | some found => some found
  | none =>
    match (dropUnderscores false (cs.takeWhile isDecimalChar)).bind Decimal.ofChars? with
    | none => none
    | some d =>
      let rest := cs.dropWhile isDecimalChar
      match afterOneOf? suffixes rest with
      | some rest => some (d.toFloat, rest)
      | none => some (d.toFloat, rest)

/-! ### Quoted text -/

/-- Reads two hexadecimal digits. -/
def byte? : Reader UInt8
  | a :: b :: cs => (Digits.toNat? 16 [a, b]).map fun n => (n.toUInt8, cs)
  | _ => none

/-- Reads one to six hexadecimal digits and the brace that closes them; the number of those read
before and of those that may still come are given. -/
def scalarTail? : (missing n : Nat) → (isFirst : Bool) → Reader Char
  | _, _, _, [] => none
  | missing, n, isFirst, c :: cs =>
    if c = '\x7d' then
      if isFirst then none
      else if h : n.isValidChar then some (Char.ofNatAux n h, cs)
      else none
    else
      match missing, Digits.value? c with
      | missing + 1, some d => scalarTail? missing (n * 16 + d) false cs
      | _, _ => none

/-- What an escape stands for. -/
inductive Escape where
  /-- A byte. -/
  | byte (b : UInt8)
  /-- A character. -/
  | char (c : Char)

/-- The byte that a one-letter escape stands for. -/
def simpleEscape? (c : Char) : Option UInt8 :=
  match c with
  | '"' => some 34
  | '\'' => some 39
  | '\\' => some 92
  | 'n' => some 10
  | 'r' => some 13
  | 't' => some 9
  | '0' => some 0
  | _ => none

/-- Reads an escape, after its backslash. -/
def escape? : Reader Escape
  | 'x' :: cs => (byte? cs).map fun (b, cs) => (.byte b, cs)
  | 'u' :: '\x7b' :: cs => (scalarTail? 6 0 true cs).map fun (c, cs) => (.char c, cs)
  | c :: cs => (simpleEscape? c).map fun b => (.byte b, cs)
  | [] => none

/-- The bytes of a character in UTF-8. -/
def utf8 (c : Char) : List UInt8 := (String.singleton c).toUTF8.toList

/-- Reads the rest of a character whose bytes are escaped one by one, given the bytes read before
and how many more may come. -/
def charOfBytes? : (missing : Nat) → (found : List UInt8) → Reader Char
  | missing, found, cs =>
    match (String.fromUTF8? ⟨found.toArray⟩).map String.toList with
    | some (c :: _) => some (c, cs)
    | _ =>
      match missing, cs with
      | missing + 1, '\\' :: 'x' :: cs =>
        match byte? cs with
        | some (b, cs) => charOfBytes? missing (found ++ [b]) cs
        | none => none
      | _, _ => none

/-- Reads the character that an escape in a text stands for, after its backslash. One escape for
each of its bytes may stand for it. -/
def charEscape? : Reader (List Char) := fun cs =>
  match escape? cs with
  | some (.byte b, cs) => (charOfBytes? 3 [b] cs).map fun (c, cs) => ([c], cs)
  | some (.char c, cs) => some ([c], cs)
  | none => none

/-- Reads the bytes that an escape in a text of bytes stands for, after its backslash. -/
def bytesEscape? : Reader (List UInt8) := fun cs =>
  match escape? cs with
  | some (.byte b, cs) => some ([b], cs)
  | some (.char c, cs) => some (utf8 c, cs)
  | none => none

/-- What is quoted up to the closing quote, last first, given what a character stands for and how
to read an escape. -/
def quotedWith {β : Type} (plain : Char → List β) (escape : Reader (List β)) :
    (fuel : Nat) → (found : List β) → Reader (List β)
  | 0, _, _ => none
  | _ + 1, _, [] => none
  | fuel + 1, found, c :: cs =>
    if c = '"' then some (found, cs)
    else if c = '\\' then
      match escape cs with
      | some (escaped, cs) => quotedWith plain escape fuel (escaped.reverse ++ found) cs
      | none => none
    else quotedWith plain escape fuel ((plain c).reverse ++ found) cs

/-- Reads what is quoted, after the opening quote. -/
def quoted? {β : Type} (plain : Char → List β) (escape : Reader (List β)) : Reader (List β) :=
  fun cs => (quotedWith plain escape (cs.length + 1) [] cs).map fun (found, cs) =>
    (found.reverse, cs)

/-- Reads a text with escapes, after its opening quote. -/
def chars? : Reader (List Char) := quoted? (fun c => [c]) charEscape?

/-- Reads a text of bytes with escapes, after its opening quote. -/
def bytes? : Reader (List UInt8) := quoted? utf8 bytesEscape?

/-- Whether no quote closes a text with escapes; each step of the recursion takes a backslash at
least. Behind a backslash that begins no escape any quote counts. -/
def runsOutWith {β : Type} (escape : Reader β) : (fuel : Nat) → List Char → Bool
  | 0, _ => true
  | fuel + 1, cs =>
    match cs.dropWhile fun c => c ≠ '"' && c ≠ '\\' with
    | '\\' :: cs =>
      match escape cs with
      | some (_, cs) => runsOutWith escape fuel cs
      | none => !cs.contains '"'
    | cs => cs.isEmpty

/-- Whether nothing closes a text with escapes, after its opening quote. -/
def charsRunOut (cs : List Char) : Bool := runsOutWith charEscape? (cs.length + 1) cs

/-- Whether nothing closes a text of bytes with escapes, after its opening quote. -/
def bytesRunOut (cs : List Char) : Bool := runsOutWith bytesEscape? (cs.length + 1) cs

/-- The text up to a quote that is followed by a number of hash marks, last character first. -/
def rawTail? (closing : List Char) : List Char → Reader (List Char)
  | _, [] => none
  | found, c :: cs =>
    if closing.isPrefixOf (c :: cs) then some (found, (c :: cs).drop closing.length)
    else rawTail? closing (c :: found) cs

/-- Reads text in which nothing is escaped, after the letter that announces it: a number of hash
marks and a quote open it, and a quote and as many hash marks close it. -/
def raw? : Reader (List Char) := fun cs =>
  let hashes := cs.takeWhile (· = '#')
  match cs.dropWhile (· = '#') with
  | '"' :: cs => (rawTail? ('"' :: hashes) [] cs).map fun (found, cs) => (found.reverse, cs)
  | _ => none

/-- Whether a text in which nothing is escaped is opened, after the letter that announces it, and
nothing closes it. -/
def rawRunsOut (cs : List Char) : Bool :=
  startsWith "\"" (cs.dropWhile (· = '#')) && (raw? cs).isNone

/-- Reads a text. -/
def text? : Reader String
  | '"' :: cs => (chars? cs).map fun (chars, cs) => (String.ofList chars, cs)
  | 'r' :: cs => (raw? cs).map fun (chars, cs) => (String.ofList chars, cs)
  | _ => none

/-- What follows a single character in quotes, after the opening quote; `isByte` tells whether it
stands for a byte. -/
def afterQuotedChar? (isByte : Bool) : List Char → Option (List Char)
  | '\\' :: cs =>
    match escape? cs with
    | some (.byte b, '\'' :: cs) => if isByte || b < 128 then some cs else none
    | some (.char _, '\'' :: cs) => if isByte then none else some cs
    | _ => none
  | c :: '\'' :: cs => if isByte && 128 ≤ c.toNat then none else some cs
  | _ => none

end Settings

end TransitDwell
