/-!
# Scalars

Rates, dwells, variances and filter errors are real quantities. The program computes them in
double precision, and its laws are about real arithmetic. Both readings share one set of
formulas: a formula is written over any `Scalar`, run at `Float`, and reasoned about at `Rat`,
where the operations are the exact ones of the rational numbers.

A scalar has the four operations and decimal literals, and five ways to and from the rest of the
program: whole numbers in, an order test, a zero test, a test for ordinary numbers, and
truncation to whole numbers out.

Instants, and whatever else is counted in seconds or milliseconds, are whole numbers. The program
keeps them in 64 bits and looks after no result that does not fit. Where settings and observations
that pass every check lead to such results, the number that the program goes on with is given by
`wrapWhole`: so with the retention, the longest headway and the window of a batch. (The program may
also be built to stop there.) All other sums, differences and products are taken as exact. The
program agrees with them as long as they fit, as they do while instants stay farther from either end
of the 64 bits than the retention lasts and the join of an observation reaches.
-/

namespace TransitDwell

/-- The least whole number of 64 bits. -/
def minWhole : Int := -9223372036854775808

/-- The greatest whole number of 64 bits. -/
def maxWhole : Int := 9223372036854775807

/-- The whole number of 64 bits nearest to `k`. -/
def clampWhole (k : Int) : Int := max minWhole (min maxWhole k)

/-- The whole number of 64 bits that differs from `k` by a multiple of `2 ^ 64`. -/
def wrapWhole (k : Int) : Int := Int.bmod k 18446744073709551616

/-- What fits is left as it is. -/
theorem wrapWhole_eq {k : Int} (hlow : minWhole ≤ k) (hhigh : k ≤ maxWhole) : wrapWhole k = k := by
  unfold minWhole at hlow
  unfold maxWhole at hhigh
  exact Int.bmod_eq_of_le (by omega) (by omega)

/-- Of numbers that are not negative none becomes greater. -/
theorem wrapWhole_le {k : Int} (h : 0 ≤ k) : wrapWhole k ≤ k := by
  simp only [wrapWhole, Int.bmod]
  split <;> omega

/-- The greatest number, taken for seconds, comes to less than nothing in milliseconds. -/
example : wrapWhole (maxWhole * 1000) = -1000 := by decide

/-- Numbers that dwell formulas are computed in. -/
class Scalar (α : Type) extends Add α, Sub α, Mul α, Div α, OfScientific α where
  /-- The whole number `k` as a scalar. -/
  ofInt : Int → α
  /-- Whether the first number is below the second; never so for something that is no number. -/
  below : α → α → Bool
  /-- Whether the number is zero, of either sign. -/
  isZero : α → Bool
  /-- Whether this is an ordinary number: neither infinite nor the result of an undefined
  operation. -/
  isFinite : α → Bool
  /-- The number cut off at its decimal point. What lies beyond 64 bits becomes the nearest end
  of that range, and what is no number becomes zero. -/
  truncate : α → Int

namespace Scalar

variable {α : Type} [Scalar α]

/-- The sum of a list, added from left to right, beginning with zero. -/
def sum (xs : List α) : α := xs.foldl (· + ·) (ofInt 0)

/-- Whether the number is ordinary and not below zero. -/
def isSize (x : α) : Bool := isFinite x && !below x (ofInt 0)

end Scalar

/-- Double precision, as the program runs. -/
instance : Scalar Float where
  ofInt := Float.ofInt
  below a b := a < b
  isZero a := a == 0.0
  isFinite := Float.isFinite
  truncate a := a.toInt64.toInt

/-- Exact rational numbers, as the laws are stated. Every one of them is ordinary. -/
instance : Scalar Rat where
  add := Rat.add
  sub := Rat.sub
  mul := Rat.mul
  div := Rat.div
  ofScientific := Rat.ofScientific
  ofInt := Rat.ofInt
  below := Rat.blt
  isZero a := a.num == 0
  isFinite _ := true
  truncate a := clampWhole (a.num.tdiv a.den)

end TransitDwell
