/-!
# Keyed tables

A finite table with one value for each key, in the order in which the keys were first entered.
Every store of this library is such a table, so that its size is a number of keys and a reader
never meets a stale second entry: the type itself says that no key occurs twice. A table is known
by what it answers, and each operation is described by what is answered after it: `get?_upsert`,
`get?_insert`, `get?_filterMap` and `get?_filter`.
-/

namespace TransitDwell

/-- A table from keys to values. -/
structure Keyed (κ ν : Type) where
  /-- The rows, in the order in which their keys were first entered. -/
  entries : List (κ × ν)
  /-- No key has two rows. -/
  nodup : (entries.map Prod.fst).Nodup

namespace Keyed

variable {κ ν μ : Type}

/-- The table without rows. -/
def empty : Keyed κ ν := ⟨[], List.nodup_nil⟩

instance : Inhabited (Keyed κ ν) := ⟨empty⟩

/-- The keys, in the order in which they were first entered. -/
def keys (t : Keyed κ ν) : List κ := t.entries.map Prod.fst

/-- The number of keys. -/
def size (t : Keyed κ ν) : Nat := t.entries.length

/-- Whether the table has no rows. -/
def isEmpty (t : Keyed κ ν) : Bool := t.entries.isEmpty

/-! ### Rows -/

/-- Changes the value at `k` by `f`, or appends the row `(k, fresh)` where there is none. -/
def upsertRows [DecidableEq κ] (k : κ) (fresh : ν) (f : ν → ν) : List (κ × ν) → List (κ × ν)
  | [] => [(k, fresh)]
  | (j, v) :: rows => if j = k then (j, f v) :: rows else (j, v) :: upsertRows k fresh f rows

theorem mem_keys_upsertRows [DecidableEq κ] (k : κ) (fresh : ν) (f : ν → ν)
    (rows : List (κ × ν)) (j : κ) :
    j ∈ (upsertRows k fresh f rows).map Prod.fst ↔ j = k ∨ j ∈ rows.map Prod.fst := by
  induction rows with
  | nil => simp [upsertRows]
  | cons row rows ih =>
    obtain ⟨i, v⟩ := row
    by_cases h : i = k
    · subst h; simp [upsertRows]
    · simp only [upsertRows, h, ite_false, List.map_cons, List.mem_cons, ih]
      constructor
      · rintro (h | h | h)
        · exact .inr (.inl h)
        · exact .inl h
        · exact .inr (.inr h)
      · rintro (h | h | h)
        · exact .inr (.inl h)
        · exact .inl h
        · exact .inr (.inr h)

theorem nodup_upsertRows [DecidableEq κ] (k : κ) (fresh : ν) (f : ν → ν) (rows : List (κ × ν))
    (h : (rows.map Prod.fst).Nodup) : ((upsertRows k fresh f rows).map Prod.fst).Nodup := by
  induction rows with
  | nil => simp [upsertRows]
  | cons row rows ih =>
    obtain ⟨i, v⟩ := row
    simp only [List.map_cons, List.nodup_cons] at h
    by_cases hi : i = k
    · simp only [upsertRows, hi, ite_true, List.map_cons, List.nodup_cons]
      exact ⟨hi ▸ h.1, h.2⟩
    · simp only [upsertRows, hi, ite_false, List.map_cons, List.nodup_cons]
      refine ⟨fun hm => ?_, ih h.2⟩
      rcases (mem_keys_upsertRows k fresh f rows i).1 hm with hk | hm
      · exact hi hk
      · exact h.1 hm

/-- Keeps the rows for which `f` gives a value, with that value. -/
def filterRows (f : κ → ν → Option μ) (rows : List (κ × ν)) : List (κ × μ) :=
  rows.filterMap fun row => (f row.1 row.2).map fun v => (row.1, v)

theorem keys_filterRows_sublist (f : κ → ν → Option μ) (rows : List (κ × ν)) :
    ((filterRows f rows).map Prod.fst).Sublist (rows.map Prod.fst) := by
  induction rows with
  | nil => exact List.Sublist.refl _
  | cons row rows ih =>
    unfold filterRows at ih ⊢
    cases h : f row.1 row.2 with
    | none => simpa [List.filterMap_cons, h] using ih.cons row.1
    | some v => simpa [List.filterMap_cons, h] using ih.cons_cons row.1

theorem filterRows_eq_self {f : κ → ν → Option ν} {rows : List (κ × ν)}
    (h : ∀ row ∈ rows, f row.1 row.2 = some row.2) : filterRows f rows = rows := by
  induction rows with
  | nil => rfl
  | cons row rows ih =>
    obtain ⟨hrow, hrows⟩ := List.forall_mem_cons.mp h
    have hrest : filterRows f rows = rows := ih hrows
    unfold filterRows at hrest ⊢
    simp only [List.filterMap_cons, hrow, hrest, Option.map_some]

/-! ### Operations -/

variable [DecidableEq κ]

/-- The value at a key. -/
def get? (t : Keyed κ ν) (k : κ) : Option ν := (t.entries.find? fun row => row.1 = k).map Prod.snd

/-- Changes the value at `k` by `f`, or enters `fresh` there where there is none. -/
def upsert (t : Keyed κ ν) (k : κ) (fresh : ν) (f : ν → ν) : Keyed κ ν :=
  ⟨upsertRows k fresh f t.entries, nodup_upsertRows k fresh f t.entries t.nodup⟩

/-- Enters a value; a value already at that key is given up. -/
def insert (t : Keyed κ ν) (k : κ) (v : ν) : Keyed κ ν := t.upsert k v fun _ => v

/-- Keeps the rows for which `f` gives a value, with that value. -/
def filterMap (t : Keyed κ ν) (f : κ → ν → Option μ) : Keyed κ μ :=
  ⟨filterRows f t.entries, t.nodup.sublist (keys_filterRows_sublist f t.entries)⟩

/-- Keeps the rows that `p` accepts. -/
def filter (t : Keyed κ ν) (p : κ → ν → Bool) : Keyed κ ν :=
  t.filterMap fun k v => if p k v then some v else none

/-! ### What operations do to the values -/

@[simp] theorem get?_empty (k : κ) : (empty : Keyed κ ν).get? k = none := rfl

/-- The rows are what the table answers: the value of a row is found at its key, and a value found
has a row. -/
theorem mem_entries_iff (t : Keyed κ ν) (k : κ) (v : ν) :
    (k, v) ∈ t.entries ↔ t.get? k = some v := by
  obtain ⟨rows, h⟩ := t
  unfold get?
  induction rows with
  | nil => simp
  | cons row rows ih =>
    obtain ⟨j, w⟩ := row
    simp only [List.map_cons, List.nodup_cons] at h
    by_cases hj : j = k
    · subst hj
      have hv : (j, v) ∉ rows := fun hm => h.1 (List.mem_map_of_mem hm)
      simp [hv, eq_comm]
    · have hk : ¬ k = j := fun e => hj e.symm
      simpa [List.find?_cons, hj, hk] using ih h.2

theorem find?_upsertRows (k : κ) (fresh : ν) (f : ν → ν) (rows : List (κ × ν)) (j : κ) :
    ((upsertRows k fresh f rows).find? fun row => row.1 = j).map Prod.snd =
      if j = k then some (((rows.find? fun row => row.1 = k).map fun row => f row.2).getD fresh)
      else (rows.find? fun row => row.1 = j).map Prod.snd := by
  induction rows with
  | nil =>
    by_cases h : j = k
    · simp [upsertRows, h]
    · have h' : ¬ k = j := fun e => h e.symm
      simp [upsertRows, h, h']
  | cons row rows ih =>
    obtain ⟨i, w⟩ := row
    by_cases hi : i = k <;> by_cases hj : i = j <;> grind [upsertRows]

/-- A change at a key leaves all other keys as they were. -/
theorem get?_upsert (t : Keyed κ ν) (k : κ) (fresh : ν) (f : ν → ν) (j : κ) :
    (t.upsert k fresh f).get? j =
      if j = k then some (((t.get? k).map f).getD fresh) else t.get? j := by
  simpa [get?, upsert, Function.comp_def] using find?_upsertRows k fresh f t.entries j

theorem get?_insert (t : Keyed κ ν) (k : κ) (v : ν) (j : κ) :
    (t.insert k v).get? j = if j = k then some v else t.get? j := by
  rw [insert, get?_upsert]
  by_cases h : j = k
  · cases t.get? k <;> simp [h]
  · simp [h]

theorem get?_filterMap (t : Keyed κ ν) (f : κ → ν → Option μ) (k : κ) :
    (t.filterMap f).get? k = (t.get? k).bind (f k) := by
  apply Option.ext
  intro v
  rw [← mem_entries_iff]
  simp only [filterMap, filterRows, List.mem_filterMap, Option.map_eq_some_iff, Prod.mk.injEq,
    Option.bind_eq_some_iff]
  constructor
  · rintro ⟨⟨j, w⟩, hm, u, hu, rfl, rfl⟩
    exact ⟨w, (mem_entries_iff t j w).1 hm, hu⟩
  · rintro ⟨w, hw, hv⟩
    exact ⟨(k, w), (mem_entries_iff t k w).2 hw, v, hv, rfl, rfl⟩

theorem get?_filter (t : Keyed κ ν) (p : κ → ν → Bool) (k : κ) :
    (t.filter p).get? k = (t.get? k).filter (p k) := by
  rw [filter, get?_filterMap]
  cases t.get? k <;> simp [Option.filter]

/-! ### What holds of every row -/

/-- Every row has a property. -/
def Each (P : κ → ν → Prop) (t : Keyed κ ν) : Prop := ∀ k v, t.get? k = some v → P k v

namespace Each

variable {P : κ → ν → Prop} {t : Keyed κ ν}

theorem empty : Each P (.empty : Keyed κ ν) := by
  intro k v hv
  cases hv

theorem upsert (h : Each P t) {k : κ} {fresh : ν} {f : ν → ν} (hfresh : P k fresh)
    (hf : ∀ v, P k v → P k (f v)) : Each P (t.upsert k fresh f) := by
  intro j w hw
  rw [get?_upsert] at hw
  split at hw
  · next hj =>
    subst hj
    cases hv : t.get? j with
    | none =>
      rw [hv] at hw
      exact Option.some.inj hw ▸ hfresh
    | some v =>
      rw [hv] at hw
      exact Option.some.inj hw ▸ hf v (h j v hv)
  · exact h j w hw

theorem insert (h : Each P t) {k : κ} {v : ν} (hv : P k v) : Each P (t.insert k v) :=
  h.upsert hv fun _ _ => hv

theorem filter (h : Each P t) (p : κ → ν → Bool) : Each P (t.filter p) := by
  intro k v hv
  rw [get?_filter] at hv
  exact h k v (Option.filter_eq_some_iff.mp hv).1

end Each

/-- Where every row stays as it is, so does the table. -/
theorem filterMap_eq_self {t : Keyed κ ν} {f : κ → ν → Option ν}
    (h : t.Each fun k v => f k v = some v) : t.filterMap f = t := by
  have hrows : filterRows f t.entries = t.entries :=
    filterRows_eq_self fun row hrow => h row.1 row.2 ((t.mem_entries_iff row.1 row.2).mp hrow)
  cases t
  simpa only [filterMap, mk.injEq] using hrows

theorem filter_eq_self {t : Keyed κ ν} {p : κ → ν → Bool}
    (h : t.Each fun k v => p k v = true) : t.filter p = t :=
  filterMap_eq_self fun k v hv => if_pos (h k v hv)

end Keyed

end TransitDwell
