/-!
# Lookups

A question to a source of facts has three outcomes: the value, word that there is none, or word
that the source failed. Whoever asks treats a failure as missing data.
-/

namespace TransitDwell

/-- Why a source did not answer. -/
inductive LookupFailure where
  /-- The source could not be reached. -/
  | unavailable (detail : String)
  /-- The source broke down. -/
  | backend (detail : String)
  deriving DecidableEq

/-- What is said of a source that did not answer. -/
def LookupFailure.message : LookupFailure → String
  | unavailable detail => "lookup source unavailable: " ++ detail
  | backend detail => "lookup backend failed: " ++ detail

/-- The outcome of a question. -/
abbrev Lookup (α : Type) := Except LookupFailure (Option α)

namespace Lookup

variable {α : Type}

/-- The value, where there is one. -/
def value? : Lookup α → Option α
  | .ok answer => answer
  | .error _ => none

@[simp] theorem value?_ok (a : Option α) : value? (.ok a) = a := rfl

@[simp] theorem value?_error (e : LookupFailure) : value? (.error e : Lookup α) = none := rfl

end Lookup

end TransitDwell
