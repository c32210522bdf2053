import Mathlib.Data.List.Basic
import TransitDwell.EventStore

/-!
# Events in order

Events are ordered by time and, at one instant, arrivals before departures. Events of one instant
and one direction *tie*: the order says nothing of them, and where it matters they are left as they
stood. `SortedFrom xs ys` says that `ys` are the events `xs` put into order in this way, without
saying how that was done.

## What is proved

* `SortedFrom.unique`: there is only one way. Two lists in order with the same events in every tie
  are the same list (`eq_of_ties`).
* `sortedFrom_mergeSort`, `SortedFrom.insert` and `SortedFrom.filter`: sorting at once, inserting
  the newest event, and leaving events out afterwards or before, all come to it.
* `mem_tiesBefore_iff`: an event that is held is found among those that it ties with, so that adding
  it once more changes nothing (`SortedFrom.add`).
-/

namespace TransitDwell

namespace StopEvent

theorem ties_eq_true {a b : StopEvent} :
    a.ties b = true ↔ a.time = b.time ∧ a.isArrival = b.isArrival := by
  simp [ties]

theorem ties_self (a : StopEvent) : a.ties a = true := by simp [ties]

theorem notAfter_self (a : StopEvent) : a.notAfter a = true := by
  simpa using notAfter_total a a

/-- Events tie if each is not after the other. -/
theorem ties_iff_notAfter {a b : StopEvent} :
    a.ties b = true ↔ a.notAfter b = true ∧ b.notAfter a = true := by
  rw [ties_eq_true]
  cases ha : a.isArrival <;> cases hb : b.isArrival <;> simp [notAfter, ha, hb] <;> omega

theorem time_le_of_notAfter {a b : StopEvent} (h : a.notAfter b = true) : a.time ≤ b.time := by
  simp only [notAfter, Bool.or_eq_true, Bool.and_eq_true, decide_eq_true_eq] at h
  omega

theorem ties_symm {a b : StopEvent} (h : a.ties b = true) : b.ties a = true := by
  rw [ties_iff_notAfter] at h ⊢
  exact h.symm

theorem ties_trans {a b c : StopEvent} (hab : a.ties b = true) (hbc : b.ties c = true) :
    a.ties c = true := by
  rw [ties_iff_notAfter] at *
  exact ⟨notAfter_trans hab.1 hbc.1, notAfter_trans hbc.2 hab.2⟩

end StopEvent

open StopEvent

/-- A list of events that stands in order. -/
def InOrder (xs : List StopEvent) : Prop := xs.Pairwise fun a b => a.notAfter b = true

/-- The first of events in order is not after any of them. -/
theorem InOrder.notAfter_of_mem {x y : StopEvent} {xs : List StopEvent} (h : InOrder (x :: xs))
    (hy : y ∈ x :: xs) : x.notAfter y = true := by
  rcases List.mem_cons.mp hy with rfl | hm
  · exact notAfter_self _
  · exact List.rel_of_pairwise_cons h hm

/-- `ys` are the events `xs` put into order, ties left as they stood. -/
structure SortedFrom (xs ys : List StopEvent) : Prop where
  /-- The events are the same. -/
  perm : ys.Perm xs
  /-- They stand in order. -/
  ordered : InOrder ys
  /-- Those that tie stand as they stood. -/
  tied : ∀ e : StopEvent, ys.filter e.ties = xs.filter e.ties

/-! ### There is one way to put events into order -/

/-- Lists in order that agree on every tie are the same: their first events are neither before
the other, so they tie, and being first in the same tie they are one event. -/
theorem eq_of_ties {xs ys : List StopEvent} (hx : InOrder xs) (hy : InOrder ys)
    (h : ∀ e : StopEvent, xs.filter e.ties = ys.filter e.ties) : xs = ys := by
  induction xs generalizing ys with
  | nil =>
    cases ys with
    | nil => rfl
    | cons y ys => simpa [ties_self] using h y
  | cons x xs ih =>
    cases ys with
    | nil => simpa [ties_self] using h x
    | cons y ys =>
      have hxy : x ∈ y :: ys := by
        have : x ∈ (y :: ys).filter x.ties := by rw [← h x]; simp [ties_self]
        exact List.mem_of_mem_filter this
      have hyx : y ∈ x :: xs := by
        have : y ∈ (x :: xs).filter y.ties := by rw [h y]; simp [ties_self]
        exact List.mem_of_mem_filter this
      have hties : x.ties y = true :=
        ties_iff_notAfter.mpr ⟨hx.notAfter_of_mem hyx, hy.notAfter_of_mem hxy⟩
      have heq : x = y := by
        have := h x
        simp only [List.filter_cons, ties_self, hties, if_true] at this
        exact (List.cons.inj this).1
      subst heq
      refine congrArg (x :: ·) (ih hx.tail hy.tail fun e => ?_)
      have := h e
      simp only [List.filter_cons] at this
      split at this
      · exact (List.cons.inj this).2
      · exact this

namespace SortedFrom

variable {xs ys zs : List StopEvent}

theorem unique (hy : SortedFrom xs ys) (hz : SortedFrom xs zs) : ys = zs :=
  eq_of_ties hy.ordered hz.ordered fun e => (hy.tied e).trans (hz.tied e).symm

theorem nil : SortedFrom [] [] := ⟨.nil, .nil, fun _ => rfl⟩

theorem mem_iff (h : SortedFrom xs ys) {e : StopEvent} : e ∈ ys ↔ e ∈ xs := h.perm.mem_iff

/-! ### Ways that come to it -/

/-- Events may be left out before or afterwards. -/
theorem filter (h : SortedFrom xs ys) (p : StopEvent → Bool) :
    SortedFrom (xs.filter p) (ys.filter p) where
  perm := h.perm.filter p
  ordered := h.ordered.filter p
  tied e := by rw [List.filter_comm, h.tied, List.filter_comm]

end SortedFrom

theorem insertInOrder_perm (e : StopEvent) (xs : List StopEvent) :
    (insertInOrder e xs).Perm (e :: xs) := by
  induction xs with
  | nil => exact .refl _
  | cons d ds ih =>
    unfold insertInOrder
    split
    · exact (ih.cons d).trans (.swap e d ds)
    · exact .refl _

/-- Among events in order the inserted one comes behind those it ties with. -/
theorem filter_ties_insertInOrder {xs : List StopEvent} (h : InOrder xs) (e d : StopEvent) :
    (insertInOrder e xs).filter d.ties = (xs ++ [e]).filter d.ties := by
  induction xs with
  | nil => rfl
  | cons c cs ih =>
    unfold insertInOrder
    by_cases hc : c.notAfter e = true
    · simp only [hc, if_true, List.cons_append, List.filter_cons]
      rw [ih h.tail]
    · rw [if_neg hc]
      by_cases hd : d.ties e = true
      · -- nothing in the list ties with the event that all of it comes after
        have hnone : (c :: cs).filter d.ties = [] := by
          refine List.filter_eq_nil_iff.mpr fun b hb hdb => hc ?_
          have hbe : b.notAfter e = true :=
            (ties_iff_notAfter.mp (ties_trans (ties_symm hdb) hd)).1
          rcases List.mem_cons.mp hb with rfl | hm
          · exact hbe
          · exact notAfter_trans (List.rel_of_pairwise_cons h hm) hbe
        rw [List.filter_append, hnone, List.filter_cons, hnone]
        simp [hd]
      · simp [List.filter_cons, List.filter_append, hd]

/-- An event that is inserted is sorted in behind all others. -/
theorem SortedFrom.insert {xs ys : List StopEvent} (h : SortedFrom xs ys) (e : StopEvent) :
    SortedFrom (xs ++ [e]) (insertInOrder e ys) where
  perm := calc
    (insertInOrder e ys).Perm (e :: ys) := insertInOrder_perm e ys
    (e :: ys).Perm (e :: xs) := h.perm.cons e
    (e :: xs).Perm (xs ++ [e]) := (List.perm_append_singleton e xs).symm
  ordered := pairwise_insertInOrder e ys h.ordered
  tied d := by
    rw [filter_ties_insertInOrder h.ordered, List.filter_append, List.filter_append, h.tied]

/-- What a list has is found by a search that goes on as long as it must: from the front, past
everything that may stand before it. -/
theorem mem_takeWhile_of_pairwise {R : StopEvent → StopEvent → Prop} {p : StopEvent → Bool}
    {e : StopEvent} {xs : List StopEvent} (h : xs.Pairwise R) (he : e ∈ xs) (hself : p e = true)
    (hpast : ∀ d ∈ xs, R d e → p d = true) : e ∈ xs.takeWhile p := by
  induction xs with
  | nil => cases he
  | cons c cs ih =>
    rcases List.mem_cons.mp he with rfl | hm
    · rw [List.takeWhile_cons_of_pos hself]
      exact List.mem_cons_self
    · have hc : p c = true := hpast c List.mem_cons_self (List.rel_of_pairwise_cons h hm)
      rw [List.takeWhile_cons_of_pos hc]
      exact List.mem_cons_of_mem c
        (ih h.tail hm fun d hd => hpast d (List.mem_cons_of_mem c hd))

/-- In events in order a search for an event may end with those that it ties with. -/
theorem mem_tiesBefore_iff {xs : List StopEvent} (h : InOrder xs) (e : StopEvent) :
    e ∈ tiesBefore e xs ↔ e ∈ xs := by
  refine ⟨mem_of_mem_tiesBefore, fun he => ?_⟩
  have hbefore : e ∈ xs.takeWhile fun d => d.notAfter e :=
    mem_takeWhile_of_pairwise h he (notAfter_self e) fun d _ hd => hd
  have hback : (xs.takeWhile fun d => d.notAfter e).reverse.Pairwise fun a b =>
      b.notAfter a = true :=
    List.pairwise_reverse.mpr (h.sublist (List.takeWhile_sublist _))
  refine mem_takeWhile_of_pairwise hback (List.mem_reverse.mpr hbefore) (ties_self e)
    fun d hd hle => ?_
  have hge : d.notAfter e = true :=
    List.all_eq_true.mp List.all_takeWhile d (List.mem_reverse.mp hd)
  exact ties_iff_notAfter.mpr ⟨hge, hle⟩

/-- An event that is added is sorted in behind all others, unless it is there already. -/
theorem SortedFrom.add {xs ys : List StopEvent} (h : SortedFrom xs ys) (e : StopEvent) :
    SortedFrom (if e ∈ xs then xs else xs ++ [e]) (addEvent e ys) := by
  unfold addEvent
  simp only [mem_tiesBefore_iff h.ordered, h.mem_iff]
  split
  · exact h
  · exact h.insert e

theorem sortedFrom_mergeSort (xs : List StopEvent) : SortedFrom xs (xs.mergeSort notAfter) where
  perm := List.mergeSort_perm xs notAfter
  ordered := @List.pairwise_mergeSort _ notAfter (fun _ _ _ => notAfter_trans) notAfter_total xs
  tied e := by
    -- a tie stands in order as it is, so that the stable sort keeps it, and keeps no more
    have htie : (xs.filter e.ties).Pairwise fun a b => a.notAfter b = true := by
      refine List.pairwise_of_forall_mem_list fun a ha b hb => ?_
      have hea := (List.mem_filter.mp ha).2
      have heb := (List.mem_filter.mp hb).2
      exact (ties_iff_notAfter.mp (ties_trans (ties_symm hea) heb)).1
    have hsub : (xs.filter e.ties).Sublist (xs.mergeSort notAfter) :=
      @List.sublist_mergeSort _ notAfter xs (fun _ _ _ => notAfter_trans) notAfter_total _ htie
        List.filter_sublist
    have hsub' : (xs.filter e.ties).Sublist ((xs.mergeSort notAfter).filter e.ties) := by
      simpa using hsub.filter e.ties
    exact (hsub'.eq_of_length ((List.mergeSort_perm xs notAfter).filter e.ties).length_eq.symm).symm

end TransitDwell
