import TransitDwell.Time.Bucket

/-!
# Searching days back

Facts about earlier service days are asked for one day at a time, beginning with yesterday, until
as many as are wanted have been found or no more days are to be searched. Nothing is asked after
the search is over.

For historical dwells the program sets room aside, before it asks, for as many answers as are wanted.
It fails if there is not so much, and in any case from `2 ^ 60` answers on. This is left out here.
-/

namespace TransitDwell

namespace DaysBack

variable {β : Type} (ask : Nat → Option β)

/-- The answers to asking day after day, from `day` days back on: at most `wanted` answers from at
most `days` days, nearest day first. -/
def gatherFrom : (wanted days day : Nat) → List β
  | 0, _, _ => []
  | _ + 1, 0, _ => []
  | wanted + 1, days + 1, day =>
    match ask day with
    | some answer => answer :: gatherFrom wanted days (day + 1)
    | none => gatherFrom (wanted + 1) days (day + 1)

/-- The day that would be asked next when that search is over. -/
def nextFrom : (wanted days day : Nat) → Nat
  | 0, _, day => day
  | _ + 1, 0, day => day
  | wanted + 1, days + 1, day =>
    match ask day with
    | some _ => nextFrom wanted days (day + 1)
    | none => nextFrom (wanted + 1) days (day + 1)

/-- The answers to asking from yesterday on. -/
def gather (wanted days : Nat) : List β := gatherFrom ask wanted days 1

/-- The number of days asked in doing so. -/
def asked (wanted days : Nat) : Nat := nextFrom ask wanted days 1 - 1

/-- The answer of the nearest earlier day that has one, among a number of days. -/
def latest? (days : Nat) : Option β := (gather ask 1 days).head?

/-- The instant a number of days of twenty-four hours before an instant. -/
def before (ts : Int) (days : Nat) : Int := ts - days * msPerDay

/-! ### What a search comes to -/

/-- The answers of a number of days, of those that have one, nearest day first. -/
def found (days : Nat) : List β := (List.range' 1 days).filterMap ask

theorem gatherFrom_eq_take (wanted days day : Nat) :
    gatherFrom ask wanted days day = ((List.range' day days).filterMap ask).take wanted := by
  fun_induction gatherFrom ask wanted days day with
  | case1 => rw [List.take_zero]
  | case2 => rfl
  | case3 wanted days day answer hanswer ih =>
    rw [ih, List.range'_succ, List.filterMap_cons_some hanswer, List.take_succ_cons]
  | case4 wanted days day hnone ih =>
    rw [ih, List.range'_succ, List.filterMap_cons_none hnone]

/-- The answers gathered are the first of those that there are. -/
theorem gather_eq_take (wanted days : Nat) : gather ask wanted days = (found ask days).take wanted :=
  gatherFrom_eq_take ask wanted days 1

/-- The nearest answer is the first that there is. -/
theorem latest?_eq_head? (days : Nat) : latest? ask days = (found ask days).head? := by
  rw [latest?, gather_eq_take, List.head?_take, if_neg Nat.one_ne_zero]

/-- It is that of the first day that has one. -/
theorem latest?_eq_some_iff {days : Nat} {answer : β} :
    latest? ask days = some answer ↔ ∃ back, 1 ≤ back ∧ back ≤ days ∧ ask back = some answer ∧
      ∀ nearer, 1 ≤ nearer → nearer < back → ask nearer = none := by
  rw [latest?_eq_head?, found, List.head?_filterMap, List.findSome?_eq_some_iff]
  constructor
  · rintro ⟨nearer, back, farther, hsplit, hask, hnone⟩
    obtain ⟨k, hk, rfl, hrest⟩ := List.range'_eq_append_iff.mp hsplit
    obtain ⟨rfl, hpos, -⟩ := List.range'_eq_cons_iff.mp hrest.symm
    refine ⟨1 + k * 1, by omega, by omega, hask, fun nearer hone hlt => ?_⟩
    exact hnone nearer (List.mem_range'_1.mpr ⟨hone, by omega⟩)
  · rintro ⟨back, hone, hle, hask, hnone⟩
    have hsplit : List.range' 1 days =
        List.range' 1 (back - 1) ++ back :: List.range' (back + 1) (days - back) := by
      refine List.range'_eq_append_iff.mpr ⟨back - 1, by omega, rfl, ?_⟩
      exact (List.range'_eq_cons_iff.mpr ⟨by omega, by omega, by congr 1; omega⟩).symm
    refine ⟨_, back, _, hsplit, hask, fun nearer hnearer => ?_⟩
    obtain ⟨hfirst, hlast⟩ := List.mem_range'_1.mp hnearer
    exact hnone nearer hfirst (by omega)

/-- There is none if no day has one. -/
theorem latest?_eq_none_iff {days : Nat} :
    latest? ask days = none ↔ ∀ back, 1 ≤ back → back ≤ days → ask back = none := by
  rw [latest?_eq_head?, List.head?_eq_none_iff, found, List.filterMap_eq_nil_iff]
  simp only [List.mem_range'_1, and_imp, Nat.add_comm 1 days, Nat.lt_succ_iff]

/-- With an answer for every day as many are gathered as are wanted and may be asked for. -/
theorem length_gather_of_isSome {wanted days : Nat}
    (h : ∀ back, 1 ≤ back → back ≤ days → (ask back).isSome) :
    (gather ask wanted days).length = min wanted days := by
  have hall : (found ask days).length = days := by
    rw [found, List.length_filterMap_eq_countP, List.countP_eq_length.mpr, List.length_range']
    intro back hback
    obtain ⟨hone, hlt⟩ := List.mem_range'_1.mp hback
    exact h back hone (by omega)
  rw [gather_eq_take, List.length_take, hall]

theorem le_nextFrom (wanted days day : Nat) : day ≤ nextFrom ask wanted days day := by
  fun_induction nextFrom ask wanted days day with
  | case1 days day => exact Nat.le_refl day
  | case2 day wanted => exact Nat.le_refl day
  | case3 wanted days day answer hanswer ih => exact Nat.le_of_succ_le ih
  | case4 wanted days day hnone ih => exact Nat.le_of_succ_le ih

/-- A search goes on to a day exactly if the day may be asked for and the days before it do not
complete the answers. -/
theorem lt_nextFrom_iff (wanted days day : Nat) {back : Nat} (hback : day ≤ back) :
    back < nextFrom ask wanted days day ↔
      back < day + days ∧ ((List.range' day (back - day)).filterMap ask).length < wanted := by
  fun_induction nextFrom ask wanted days day with
  | case1 days day => omega
  | case2 day wanted => omega
  | case3 wanted days day answer hanswer ih =>
    rcases Nat.eq_or_lt_of_le hback with rfl | hlater
    · have hnext := le_nextFrom ask wanted days (day + 1)
      rw [Nat.sub_self]
      simp only [List.range'_zero, List.filterMap_nil, List.length_nil]
      omega
    · have hsplit : back - day = back - (day + 1) + 1 := by omega
      rw [ih hlater, hsplit, List.range'_succ, List.filterMap_cons_some hanswer, List.length_cons]
      omega
  | case4 wanted days day hnone ih =>
    rcases Nat.eq_or_lt_of_le hback with rfl | hlater
    · have hnext := le_nextFrom ask (wanted + 1) days (day + 1)
      rw [Nat.sub_self]
      simp only [List.range'_zero, List.filterMap_nil, List.length_nil]
      omega
    · have hsplit : back - day = back - (day + 1) + 1 := by omega
      rw [ih hlater, hsplit, List.range'_succ, List.filterMap_cons_none hnone]
      omega

/-- More than a number of days are asked exactly if there are more and these do not complete the
answers. -/
theorem lt_asked_iff (wanted days : Nat) {back : Nat} :
    back < asked ask wanted days ↔ back < days ∧ (found ask back).length < wanted := by
  have hnext := lt_nextFrom_iff ask wanted days 1 (Nat.succ_le_succ (Nat.zero_le back))
  rw [Nat.succ_sub_one] at hnext
  unfold asked found
  omega

end DaysBack

end TransitDwell
