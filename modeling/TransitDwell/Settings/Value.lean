import TransitDwell.Settings.Lexeme

/-!
# Values of settings

Values are read as the kind that a setting calls for: whole numbers within bounds, decimal
numbers, truth values, texts, lists, and values that may be absent. A setting of an unknown name
may hold any value that is well formed, which is passed over.

Fields and rows of values stand in parentheses. A `Some` has parentheses of its own, in which its
value stands; with the switch for it those of the value may be left out, and the `Some` then holds
nothing, fields or a row itself.

Values within values are limited in depth: a container takes one level, and each value in it
another.
-/

namespace TransitDwell

namespace Settings

/-- What a text may switch on before its settings. -/
structure Switches where
  /-- A value that may be absent may be given without saying that it is present. -/
  implicitSome : Bool := false
  /-- The value that a `Some` holds may be given without its own parentheses. -/
  barePresent : Bool := false
  /-- The settings must be named as such. -/
  explicitNames : Bool := false

/-- Levels of values within values. -/
def depthLimit : Nat := 128

/-! ### Sequences -/

/-- Reads things separated by commas up to a closing character, which is left unread. The last
thing may be followed by a comma. `ready` tells whether another thing may come: at the beginning
and after a comma. -/
def separated {σ : Type} (closing : Char) (item : σ → Reader σ) :
    (fuel : Nat) → (ready : Bool) → σ → Reader σ
  | 0, _, _, _ => none
  | fuel + 1, ready, state, cs =>
    match skip cs with
    | none => none
    | some [] => none
    | some (c :: cs) =>
      if c = closing then some (state, c :: cs)
      else if ready then
        match item state (c :: cs) with
        | none => none
        | some (state, cs) =>
          match skip cs with
          | some (',' :: cs) => separated closing item fuel true state cs
          | some cs => separated closing item fuel false state cs
          | none => none
      else none

/-- Reads things in brackets of some kind. -/
def enclosed {σ : Type} (opening closing : Char) (item : σ → Reader σ) (state : σ) : Reader σ
  | [] => none
  | c :: cs =>
    if c = opening then
      (separated closing item (cs.length + 1) true state cs).map fun (state, cs) =>
        (state, cs.drop 1)
    else none

/-- Reads a colon with blanks around it, and what follows them. -/
def afterColon? (cs : List Char) : Option (List Char) :=
  match skip cs with
  | some (':' :: cs) => skip cs
  | _ => none

/-! ### Kinds of values -/

/-- Reads a whole number of a kind. A suffix must be that of the kind. -/
def wholeOf (kind : String) : Reader Int := fun cs =>
  match whole? cs with
  | some (w, cs) =>
    if w.fits kind && (w.suffix.getD kind == kind) then some (w.value, cs) else none
  | none => none

/-- Reads a whole number of a kind without negative numbers. -/
def countOf (kind : String) : Reader Nat := fun cs =>
  (wholeOf kind cs).map fun (n, cs) => (n.toNat, cs)

/-- Reads a decimal number. -/
def double : Reader Float := decimal? ["f64"]

/-- Reads a truth value. -/
def truth : Reader Bool := fun cs =>
  match afterWord? "true" cs with
  | some cs => some (true, cs)
  | none => (afterWord? "false" cs).map fun cs => (false, cs)

/-- Reads a list. -/
def listOf {β : Type} (item : Reader β) : Reader (List β) := fun cs =>
  (enclosed '[' ']' (fun found cs => (item cs).map fun (x, cs) => (x :: found, cs)) [] cs).map
    fun (found, cs) => (found.reverse, cs)

/-- Reads a value that may be absent, given how to read it in the parentheses of a `Some` and on its
own: `None`, or `Some` and the value in parentheses, where a comma may follow the value. With the
switch for it the value may also stand alone, with or without a `Some` before it. -/
def optionalWith {β : Type} (w : Switches) (held alone : Reader β) : Reader (Option β) := fun cs =>
  match afterWord? "None" cs with
  | some cs => some (none, cs)
  | none =>
    let implied (cs : List Char) : Option (Option β × List Char) :=
      if w.implicitSome then (alone cs).map fun (x, cs) => (some x, cs) else none
    match afterWord? "Some" cs with
    | none => implied cs
    | some cs =>
      match skip cs with
      | some ('(' :: cs) => do
        let (x, cs) ← held (← skip cs)
        let cs ← skip cs
        let cs ← match cs with
          | ',' :: cs => skip cs
          | cs => some cs
        match cs with
        | ')' :: cs => some (some x, cs)
        | _ => none
      | some cs => implied cs
      | none => none

/-- Reads a value that may be absent and is written in the same way wherever it stands. -/
def optional {β : Type} (w : Switches) (item : Reader β) : Reader (Option β) :=
  optionalWith w item item

/-! ### Values of any kind -/

/-- Passes over a number. -/
def passNumber (cs : List Char) : Option (List Char) :=
  let unsigned := (sign cs).2
  let decimal := (decimal? ["f32", "f64"] cs).map Prod.snd
  let digits := (unsigned.takeWhile isWholeChar).length
  if digits < (unsigned.takeWhile isDecimalChar).length then decimal
  else
    match whole? cs with
    | some (w, rest) =>
      let fits := match w.suffix with
        | some kind => w.fits kind
        | none => w.fits "i64" || w.fits "u64"
      if fits then some rest
      else decimal.filter fun rest => rest.length + digits ≤ unsigned.length
    | none => decimal.filter fun rest => rest.length + digits ≤ unsigned.length

/-- Passes over things in brackets of some kind. -/
def passEnclosed (opening closing : Char) (item : List Char → Option (List Char))
    (cs : List Char) : Option (List Char) :=
  (enclosed opening closing (fun (_ : Unit) cs => (item cs).map fun cs => ((), cs)) () cs).map
    Prod.snd

/-- Passes over a name or a key, a colon and a value. -/
def passEntry (key value : List Char → Option (List Char)) (cs : List Char) : Option (List Char) :=
  ((key cs).bind afterColon?).bind value

/-- Whether parentheses hold named fields: they begin with a word and a colon. -/
def holdsFields (cs : List Char) : Option Bool :=
  match skip cs with
  | none => none
  | some (')' :: _) => some false
  | some cs =>
    match afterAnyWord? cs with
    | none => some false
    | some cs =>
      match skip cs with
      | some (':' :: _) => some true
      | some _ => some false
      | none => none

/-- Passes over parentheses, if the text begins with one: named fields, or a list of values. -/
def passParenthesised (item : List Char → Option (List Char)) (cs : List Char) :
    Option (List Char) :=
  match cs with
  | '(' :: inner =>
    match holdsFields inner with
    | none => none
    | some true =>
      passEnclosed '(' ')' (passEntry (fun cs => (name? cs).map Prod.snd) item) cs
    | some false => passEnclosed '(' ')' item cs
  | cs => some cs

/-- Passes over a value that is present or absent, given how to pass over it in the parentheses of
a `Some` and on its own. -/
def passOptional (w : Switches) (held alone : List Char → Option (List Char)) (cs : List Char) :
    Option (List Char) :=
  (optionalWith w (fun cs => (held cs).map fun cs => ((), cs))
    (fun cs => (alone cs).map fun cs => ((), cs)) cs).map Prod.snd

/-! ### What a `Some` holds -/

/-- What may stand in the parentheses of a `Some`. -/
inductive Held where
  /-- The fields of a value. -/
  | fields
  /-- The row of a value: several values. -/
  | row
  /-- A value. -/
  | value
  deriving DecidableEq

/-- What is held where a comma follows the first thing: a comma before the closing parenthesis
follows a value. -/
def heldBefore (cs : List Char) : Option Held :=
  (skip cs).map fun cs => if startsWith ")" cs then .value else .row

/-- What follows quoted text, if it can be read. What cannot be read is left to be looked at
character by character, unless nothing closes it: then there is no looking further. -/
def afterClosed (read? : Option (List Char)) (runsOut : Bool) (cs : List Char) :
    Option (List Char) :=
  match read? with
  | some cs => some cs
  | none => if runsOut then none else some cs

/-- What follows a text, if there is one at the beginning. -/
def afterText (cs : List Char) : Option (List Char) :=
  match cs with
  | '"' :: inner => afterClosed ((text? cs).map Prod.snd) (charsRunOut inner) cs
  | 'r' :: inner => afterClosed ((text? cs).map Prod.snd) (rawRunsOut inner) cs
  | cs => some cs

/-- What follows a text of bytes, if there is one at the beginning. -/
def afterBytes (cs : List Char) : Option (List Char) :=
  match cs with
  | 'b' :: '"' :: inner => afterClosed ((bytes? inner).map Prod.snd) (bytesRunOut inner) cs
  | 'b' :: 'r' :: inner => afterClosed ((raw? inner).map Prod.snd) (rawRunsOut inner) cs
  | cs => some cs

/-- What follows quoted text of some kind, if the text begins with it: characters, texts and bytes
are looked for in this order, each behind the one before. -/
def afterQuoted (cs : List Char) : Option (List Char) :=
  let cs := match cs with
    | '\'' :: inner => (afterQuotedChar? false inner).getD cs
    | cs => cs
  (afterText cs).bind afterBytes

/-- What is held, decided by the first comma outside brackets and quotes before the parenthesis
that closes the last of `depth`. Blanks and comments are looked for before each step, so that a
slash must begin a comment there, and what begins a text must be closed. -/
def heldAhead : (fuel depth : Nat) → List Char → Option Held
  | _, 0, _ => some .value
  | 0, _, _ => none
  | fuel + 1, depth + 1, cs =>
    match (skipWith (fuel + 1) cs).bind afterQuoted with
    | none => none
    | some [] => none
    | some (c :: cs) =>
      if c = '(' || c = '[' || c = '\x7b' then heldAhead fuel (depth + 2) cs
      else if c = ')' || c = ']' || c = '\x7d' then heldAhead fuel depth cs
      else if c = ',' && depth = 0 then heldBefore cs
      else heldAhead fuel (depth + 1) cs

/-- What a `Some` holds, after its opening parenthesis: a word and a colon begin fields. -/
def held? (cs : List Char) : Option Held :=
  match afterAnyWord? cs with
  | none => heldAhead (cs.length + 1) 1 cs
  | some cs =>
    match skip cs with
    | none => none
    | some (':' :: _) => some .fields
    | some (',' :: cs) => heldBefore cs
    | some (')' :: _) => some .value
    | some cs => heldAhead (cs.length + 1) 1 cs

/-- Passes over things up to a closing parenthesis, which is left. -/
def passUpTo (item : List Char → Option (List Char)) (cs : List Char) : Option (List Char) :=
  (separated ')' (fun (_ : Unit) cs => (item cs).map fun cs => ((), cs)) (cs.length + 1) true ()
    cs).map Prod.snd

/-- Passes over what a `Some` holds, given how to pass over a value and over an item of a
container. -/
def passHeld (w : Switches) (value item : List Char → Option (List Char)) (container : Bool)
    (cs : List Char) : Option (List Char) :=
  if !w.barePresent then value cs
  else if startsWith ")" cs then some cs
  else
    match held? cs with
    | none => none
    | some .value => value cs
    | some .fields =>
      if container then passUpTo (passEntry (fun cs => (name? cs).map Prod.snd) item) cs else none
    | some .row => if container then passUpTo item cs else none

/-! ### Passing over a value -/

/-- Passes over a value, given how to pass over what a `Some` holds in parentheses, over a value
that follows a `Some` without them, and over an item of a container. -/
def passWith (w : Switches) (inSome alone inItem : List Char → Option (List Char))
    (container : Bool) (cs : List Char) : Option (List Char) :=
  let within (p : Option (List Char)) : Option (List Char) := if container then p else none
  let parenthesised (cs : List Char) : Option (List Char) :=
    if startsWith "(" cs then within (passParenthesised inItem cs) else some cs
  match afterOneOf? ["true", "false"] cs with
  | some cs => some cs
  | none =>
    if (afterOneOf? ["Some", "None"] cs).isSome then passOptional w inSome alone cs
    else if startsWith "()" cs then some (cs.drop 2)
    else
      match afterOneOf? ["inf", "inff32", "inff64", "NaN", "NaNf32", "NaNf64"] cs with
      | some cs => some cs
      | none =>
        match afterAnyWord? cs with
        | some cs => (skip cs).bind parenthesised
        | none =>
          match cs with
          | '(' :: _ => parenthesised cs
          | '[' :: _ => within (passEnclosed '[' ']' inItem cs)
          | '\x7b' :: _ => within (passEnclosed '\x7b' '\x7d' (passEntry inItem inItem) cs)
          | '"' :: _ => (text? cs).map Prod.snd
          | 'r' :: _ => (text? cs).map Prod.snd
          | 'b' :: '\'' :: cs => afterQuotedChar? true cs
          | 'b' :: '"' :: cs => (bytes? cs).map Prod.snd
          | 'b' :: 'r' :: cs => (raw? cs).map Prod.snd
          | '\'' :: cs => afterQuotedChar? false cs
          | c :: _ => if c.isDigit || c = '+' || c = '-' || c = '.' then passNumber cs else none
          | [] => none

/-- Passes over a value of any kind, within a number of levels. -/
def pass (w : Switches) : (levels : Nat) → List Char → Option (List Char)
  | 0 => passWith w (fun _ => none) (fun _ => none) (fun _ => none) false
  | 1 =>
    passWith w (passHeld w (pass w 0) (fun _ => none) false) (pass w 0) (fun _ => none) true
  | 2 => passWith w (passHeld w (pass w 1) (fun _ => none) true) (pass w 1) (pass w 0) true
  | levels + 3 =>
    passWith w (passHeld w (pass w (levels + 2)) (pass w levels) true) (pass w (levels + 2))
      (pass w (levels + 1)) true

end Settings

end TransitDwell
