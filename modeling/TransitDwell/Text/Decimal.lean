/-!
# Decimal numbers

Reading numbers that are written in digits. A decimal is kept exactly, as digits and a power of
ten, until it is rounded to the nearest double.
-/

namespace TransitDwell

namespace Digits

/-- The value of a digit in bases up to sixteen. -/
def value? (c : Char) : Option Nat :=
  if '0' ≤ c && c ≤ '9' then some (c.toNat - '0'.toNat)
  else if 'a' ≤ c && c ≤ 'f' then some (c.toNat - 'a'.toNat + 10)
  else if 'A' ≤ c && c ≤ 'F' then some (c.toNat - 'A'.toNat + 10)
  else none

/-- The number written by digits in a base; there must be one digit at least, and nothing else. -/
def toNat? (base : Nat) : List Char → Option Nat
  | [] => none
  | cs => cs.foldl (fun acc c => do
      let n ← acc
      let d ← value? c
      if d < base then some (n * base + d) else none) (some 0)

/-- The number of leading decimal digits, and the number they write together. -/
def run (cs : List Char) : Nat × Nat × List Char :=
  let ds := cs.takeWhile Char.isDigit
  (ds.length, ds.foldl (fun n c => n * 10 + (c.toNat - '0'.toNat)) 0, cs.dropWhile Char.isDigit)

/-- A whole number: an optional sign and digits in a base. -/
def toInt? (base : Nat) : List Char → Option Int
  | '-' :: cs => (toNat? base cs).map fun n => -n
  | '+' :: cs => (toNat? base cs).map Int.ofNat
  | cs => (toNat? base cs).map Int.ofNat

end Digits

/-- A number in decimal notation. -/
structure Decimal where
  /-- Whether there is a minus sign; zero may have one too. -/
  negative : Bool
  /-- The digits, read as a whole number. -/
  digits : Nat
  /-- The power of ten that they are multiplied by. -/
  exponent : Int
  deriving DecidableEq

namespace Decimal

/-- An exponent: nothing, or `e` with an optional sign and digits, and nothing after it. -/
def exponent? : List Char → Option Int
  | [] => some 0
  | c :: cs => if c = 'e' || c = 'E' then Digits.toInt? 10 cs else none

/-- Reads a decimal: an optional sign, digits with an optional point among, before or after them,
and an optional exponent. -/
def ofChars? (cs : List Char) : Option Decimal :=
  let (negative, cs) : Bool × List Char :=
    match cs with
    | '-' :: cs => (true, cs)
    | '+' :: cs => (false, cs)
    | cs => (false, cs)
  let (wholeLength, whole, cs) := Digits.run cs
  let (fractionLength, fraction, cs) : Nat × Nat × List Char :=
    match cs with
    | '.' :: cs => Digits.run cs
    | cs => (0, 0, cs)
  if wholeLength + fractionLength = 0 then none
  else (exponent? cs).map fun e =>
    ⟨negative, whole * Nat.pow 10 fractionLength + fraction, e - fractionLength⟩

/-- The nearest double. From 10^400 on every number is as good as infinite, and below 10^-400 as
good as zero. -/
def toFloat (d : Decimal) : Float :=
  let magnitude : Int := d.exponent + (toString d.digits).length
  let size : Float :=
    if d.digits = 0 || magnitude < -400 then 0.0
    else if 400 < magnitude then 1.0 / 0.0
    else if d.exponent < 0 then Float.ofScientific d.digits true d.exponent.natAbs
    else Float.ofScientific d.digits false d.exponent.natAbs
  if d.negative then -size else size

end Decimal

end TransitDwell
