import TransitDwell.Proofs.EventLog

/-!
# Snapshots of the event store

A range of time is read across all stop-days at once. What such a reading gives is said by
`IsSnapshot`: the events that a reader of single stop-days is shown, in order, and those of one
stop-day as its reader is shown them. Nothing else is laid down, so that events of different stops
at one instant and in one direction may stand either way (`SameUpToStops`), as the order of the
visit has it.

## What is proved

* `EventStore.between_eq`: a range is cut out of the reading of all current events.
* `EventStore.Holds.isSnapshot_current`: that reading is a snapshot, in whatever order the stop-days
  are visited.
* `EventStore.IsSnapshot.filter_stop_eq`: in every snapshot the events of one stop stand alike.
* `EventStore.IsSnapshot.filter_same`: what is picked from two snapshots by one rule is the same up
  to the order of different stops.
-/

namespace TransitDwell

open StopEvent

/-! ### The same up to the order of stops -/

/-- The same events in the same order, up to the order of different stops at one instant and in one
direction. -/
structure SameUpToStops (xs ys : List StopEvent) : Prop where
  /-- The events are the same. -/
  perm : xs.Perm ys
  /-- Instants and directions follow each other alike. -/
  order : xs.map (fun e => (e.time, e.isArrival)) = ys.map fun e => (e.time, e.isArrival)
  /-- Events of one stop that tie stand alike. -/
  tied : ∀ d : StopEvent, xs.filter (fun e => d.ties e && e.stop = d.stop) =
    ys.filter fun e => d.ties e && e.stop = d.stop

namespace SameUpToStops

variable {xs ys xs' ys' : List StopEvent}

theorem refl (xs : List StopEvent) : SameUpToStops xs xs := ⟨.refl xs, rfl, fun _ => rfl⟩

theorem append (h : SameUpToStops xs ys) (h' : SameUpToStops xs' ys') :
    SameUpToStops (xs ++ xs') (ys ++ ys') where
  perm := h.perm.append h'.perm
  order := by rw [List.map_append, List.map_append, h.order, h'.order]
  tied d := by rw [List.filter_append, List.filter_append, h.tied, h'.tied]

theorem flatMap {κ : Type} {f g : κ → List StopEvent} (h : ∀ k, SameUpToStops (f k) (g k))
    (ks : List κ) : SameUpToStops (ks.flatMap f) (ks.flatMap g) := by
  induction ks with
  | nil => exact refl []
  | cons k ks ih => exact (h k).append ih

/-- Of lists that stand in order only the ties need be looked at. -/
theorem of_ordered (hx : InOrder xs) (hy : InOrder ys) (perm : xs.Perm ys)
    (tied : ∀ d : StopEvent, xs.filter (fun e => d.ties e && e.stop = d.stop) =
      ys.filter fun e => d.ties e && e.stop = d.stop) : SameUpToStops xs ys where
  perm := perm
  order := by
    have hpair {zs : List StopEvent} (hz : InOrder zs) :
        (zs.map fun e => (e.time, e.isArrival)).Pairwise fun a b : Int × Bool =>
          a.1 < b.1 ∨ a.1 = b.1 ∧ (a.2 = true ∨ b.2 = false) := by
      rw [List.pairwise_map]
      refine List.Pairwise.imp (fun {a b} h => ?_) hz
      simpa [notAfter] using h
    refine (perm.map _).eq_of_pairwise (fun a b _ _ hab hba => ?_) (hpair hx) (hpair hy)
    obtain ⟨t, d⟩ := a
    obtain ⟨t', d'⟩ := b
    cases d <;> cases d' <;> simp at hab hba ⊢ <;> omega
  tied := tied

end SameUpToStops

/-! ### One stop -/

/-- Events of one stop that tie are on one date. -/
theorem filter_ties_eq (zone : Zone) (stop : String) {xs : List StopEvent}
    (hx : ∀ e ∈ xs, ∃ date, e.isOn zone ⟨stop, date⟩ = true) (d : StopEvent) :
    xs.filter d.ties =
      match zone.serviceDate d.time with
      | none => []
      | some date => (xs.filter fun e => e.isOn zone ⟨stop, date⟩).filter d.ties := by
  cases hdate : zone.serviceDate d.time with
  | none =>
    refine List.filter_eq_nil_iff.mpr fun e he hties => ?_
    obtain ⟨date, hon⟩ := hx e he
    rw [(ties_eq_true.mp hties).1, (isOn_iff.mp hon).2] at hdate
    cases hdate
  | some date =>
    simp only [List.filter_filter]
    refine List.filter_congr fun e he => ?_
    obtain ⟨date', hon⟩ := hx e he
    rw [Bool.eq_iff_iff, Bool.and_eq_true]
    refine ⟨fun hties => ⟨hties, isOn_iff.mpr ⟨(isOn_iff.mp hon).1, ?_⟩⟩, fun hboth => hboth.1⟩
    rw [← (ties_eq_true.mp hties).1]
    exact hdate

/-- So events of one stop are put into order if on each date they stand as they stood. -/
theorem sortedFrom_of_dates (zone : Zone) (stop : String) {xs ys : List StopEvent}
    (hx : ∀ e ∈ xs, ∃ date, e.isOn zone ⟨stop, date⟩ = true)
    (hy : ∀ e ∈ ys, ∃ date, e.isOn zone ⟨stop, date⟩ = true) (hordered : InOrder ys)
    (hdate : ∀ date, ys.filter (fun e => e.isOn zone ⟨stop, date⟩) =
      xs.filter fun e => e.isOn zone ⟨stop, date⟩) : SortedFrom xs ys where
  perm := by
    refine List.perm_iff_count.mpr fun e => ?_
    by_cases hon : ∃ date, e.isOn zone ⟨stop, date⟩ = true
    · obtain ⟨date, hon⟩ := hon
      rw [← List.count_filter (p := fun e => e.isOn zone ⟨stop, date⟩) hon, hdate,
        List.count_filter hon]
    · rw [List.count_eq_zero_of_not_mem fun he => hon (hy e he),
        List.count_eq_zero_of_not_mem fun he => hon (hx e he)]
  ordered := hordered
  tied d := by
    rw [filter_ties_eq zone stop hy, filter_ties_eq zone stop hx]
    simp only [hdate]

namespace EventStore

/-! ### Reading all current events -/

/-- All current events in order, the stop-days being visited in an order of their own. -/
def current (s : EventStore) (scan : ScanOrder) (now : Int) : List StopEvent :=
  (((scan.visit s.days.entries).flatMap Prod.snd).filter (s.isCurrent now)).mergeSort notAfter

/-- What a range of time takes of a stop-day is cut out of its current events. -/
theorem filter_range_eq (s : EventStore) (now start stop : Int) (events : List StopEvent) :
    (events.filter fun e => max start (s.cutoff now) ≤ e.time && e.time < stop) =
      (events.filter (s.isCurrent now)).filter fun e => start ≤ e.time && e.time < stop := by
  rw [List.filter_filter]
  refine List.filter_congr fun e _ => ?_
  rw [Bool.eq_iff_iff]
  simp only [Bool.and_eq_true, decide_eq_true_eq, isCurrent_iff]
  unfold cutoff
  omega

/-- A range of time is cut out of all current events. -/
theorem between_eq (s : EventStore) (scan : ScanOrder) (now start stop : Int) :
    s.between scan now start stop =
      (s.current scan now).filter fun e => start ≤ e.time && e.time < stop := by
  have hfound : ((scan.visit s.days.entries).flatMap fun row =>
      row.2.filter fun e => max start (s.cutoff now) ≤ e.time && e.time < stop) =
      (((scan.visit s.days.entries).flatMap Prod.snd).filter (s.isCurrent now)).filter
        fun e => start ≤ e.time && e.time < stop := by
    rw [List.filter_flatMap, List.filter_flatMap]
    exact List.flatMap_congr fun row _ => s.filter_range_eq now start stop row.2
  unfold between current
  simp only [hfound]
  exact (sortedFrom_mergeSort _).unique ((sortedFrom_mergeSort _).filter _)

/-- What may be read of all current events: those that readers of single stop-days are shown, in
order, and those of one stop-day as its reader is shown them. -/
structure IsSnapshot (s : EventStore) (now : Int) (xs : List StopEvent) : Prop where
  /-- The events stand in order. -/
  ordered : InOrder xs
  /-- They are those of all stop-days. -/
  mem_iff : ∀ e, e ∈ xs ↔ ∃ day, e ∈ s.get now day
  /-- Those of one stop-day stand as they do on it. -/
  on : ∀ day, xs.filter (fun e => e.isOn s.zone day) = s.get now day

/-! ### Visits -/

/-- Where some of the stop-days are visited in the order of all, only those left out that show
something are missed. -/
theorem flatMap_eq_of_sublist {κ : Type} {f : κ → List StopEvent} {ks ks' : List κ}
    (hsub : ks.Sublist ks') (hnodup : ks'.Nodup) (hrest : ∀ k ∈ ks', k ∉ ks → f k = []) :
    ks.flatMap f = ks'.flatMap f := by
  induction hsub with
  | slnil => rfl
  | cons k hsub ih =>
    obtain ⟨hk, hnodup⟩ := List.nodup_cons.mp hnodup
    obtain ⟨hfirst, hrest⟩ := List.forall_mem_cons.mp hrest
    rw [List.flatMap_cons, hfirst fun hmem => hk (hsub.subset hmem), List.nil_append]
    exact ih hnodup hrest
  | cons_cons k hsub ih =>
    obtain ⟨hk, hnodup⟩ := List.nodup_cons.mp hnodup
    rw [List.flatMap_cons, List.flatMap_cons, ih hnodup fun j hj hnot => ?_]
    refine hrest j (List.mem_cons_of_mem k hj) fun hmem => ?_
    rcases List.mem_cons.mp hmem with rfl | hmem
    · exact hk hj
    · exact hnot hmem

/-- Where all but one give nothing, that one is met. -/
theorem flatMap_eq_of_mem {κ : Type} {f : κ → List StopEvent} {ks : List κ} {k : κ} (hk : k ∈ ks)
    (hnodup : ks.Nodup) (hrest : ∀ j ∈ ks, j ≠ k → f j = []) : ks.flatMap f = f k := by
  rw [← flatMap_eq_of_sublist (List.singleton_sublist.mpr hk) hnodup fun j hj hne =>
    hrest j hj fun heq => hne (List.mem_singleton.mpr heq), List.flatMap_singleton]

namespace Holds

variable {retention : Int} {zone : Zone} {s : EventStore} {log : List StopEvent}

/-- Whatever the order of the visit, a stop-day is met as it stands. -/
theorem filter_visit (h : Holds retention zone s log) (scan : ScanOrder) (day : StopDay) :
    (((scan.visit s.days.entries).flatMap Prod.snd).filter fun e => e.isOn zone day) =
      s.eventsOn day := by
  have hperm := scan.perm s.days.entries
  have hkeys : ((scan.visit s.days.entries).map Prod.fst).Nodup :=
    (hperm.map Prod.fst).nodup_iff.mpr s.days.nodup
  have hevents {row} (hrow : row ∈ scan.visit s.days.entries) : s.eventsOn row.1 = row.2 :=
    eventsOn_of_mem (hperm.mem_iff.mp hrow)
  have hother {row} (hrow : row ∈ scan.visit s.days.entries) (hne : row.1 ≠ day) :
      row.2.filter (fun e => e.isOn zone day) = [] := by
    refine List.filter_eq_nil_iff.mpr fun e he hon => hne ?_
    rw [← hevents hrow] at he
    exact isOn_unique (h.mem_eventsOn.mp he).2 hon
  rw [List.filter_flatMap]
  cases hget : s.days.get? day with
  | none =>
    rw [eventsOn, hget]
    refine List.flatMap_eq_nil_iff.mpr fun row hrow => hother hrow ?_
    rintro rfl
    rw [(Keyed.mem_entries_iff _ _ _).mp (hperm.mem_iff.mp hrow)] at hget
    cases hget
  | some events =>
    have hday : (day, events) ∈ scan.visit s.days.entries :=
      hperm.mem_iff.mpr ((Keyed.mem_entries_iff _ _ _).mpr hget)
    have hsame : ∀ row ∈ scan.visit s.days.entries, row.1 = day → row = (day, events) :=
      fun row hrow heq => List.inj_on_of_nodup_map hkeys hrow hday heq
    rw [flatMap_eq_of_mem hday hkeys.of_map fun row hrow hne =>
      hother hrow fun heq => hne (hsame row hrow heq), ← hevents hday]
    exact List.filter_eq_self.mpr fun e he => (h.mem_eventsOn.mp he).2

theorem visit_perm (h : Holds retention zone s log) (scan : ScanOrder) :
    ((scan.visit s.days.entries).flatMap Prod.snd).Perm log :=
  ((scan.perm s.days.entries).flatMap_right Prod.snd).trans h.all_perm

/-- A reading of all current events has the current events of the log. -/
theorem current_perm (h : Holds retention zone s log) (scan : ScanOrder) (now : Int) :
    (s.current scan now).Perm (log.filter (s.isCurrent now)) :=
  (List.mergeSort_perm _ _).trans ((h.visit_perm scan).filter _)

/-- **Every reading of all current events is a snapshot.** -/
theorem isSnapshot_current (h : Holds retention zone s log) (scan : ScanOrder) (now : Int) :
    s.IsSnapshot now (s.current scan now) where
  ordered := (sortedFrom_mergeSort _).ordered
  mem_iff e := by
    rw [(h.current_perm scan now).mem_iff, List.mem_filter]
    constructor
    · rintro ⟨he, hcurrent⟩
      obtain ⟨day, hday⟩ := h.exists_isOn he
      exact ⟨day, List.mem_filter.mpr ⟨h.mem_eventsOn.mpr ⟨he, hday⟩, hcurrent⟩⟩
    · rintro ⟨day, he⟩
      obtain ⟨he, hcurrent⟩ := List.mem_filter.mp he
      exact ⟨(h.mem_eventsOn.mp he).1, hcurrent⟩
  on day := by
    -- what is on one stop-day stands in order already
    have hday := (sortedFrom_mergeSort
      (((scan.visit s.days.entries).flatMap Prod.snd).filter (s.isCurrent now))).filter
        fun e => e.isOn s.zone day
    rw [List.filter_comm, h.zone_eq, h.filter_visit scan day] at hday
    rw [h.zone_eq]
    exact hday.unique ⟨.refl _, (h.sorted day).ordered.filter _, fun _ => rfl⟩

end Holds

namespace IsSnapshot

variable {retention : Int} {zone : Zone} {s : EventStore} {log xs ys : List StopEvent} {now : Int}

theorem isOn_of_mem (h : Holds retention zone s log) (hx : s.IsSnapshot now xs) {e : StopEvent}
    (he : e ∈ xs) : ∃ day, e.isOn zone day = true := by
  obtain ⟨day, he⟩ := (hx.mem_iff e).mp he
  exact ⟨day, (h.mem_eventsOn.mp (List.mem_of_mem_filter he)).2⟩

/-- No event stands twice in a snapshot, since it does not on its stop-day. -/
theorem nodup (h : Holds retention zone s log) (hx : s.IsSnapshot now xs) : xs.Nodup := by
  refine List.nodup_iff_count_le_one.mpr fun e => ?_
  by_cases he : e ∈ xs
  · obtain ⟨day, hday⟩ := hx.isOn_of_mem h he
    rw [← List.count_filter (p := fun e => e.isOn s.zone day) (h.zone_eq.symm ▸ hday), hx.on]
    have hget : (s.get now day).Nodup :=
      ((h.sorted day).perm.nodup_iff.mpr (h.once.filter _)).filter _
    exact List.nodup_iff_count_le_one.mp hget e
  · rw [List.count_eq_zero_of_not_mem he]
    exact Nat.zero_le 1

theorem perm (h : Holds retention zone s log) (hx : s.IsSnapshot now xs)
    (hy : s.IsSnapshot now ys) : xs.Perm ys :=
  (List.perm_ext_iff_of_nodup (hx.nodup h) (hy.nodup h)).mpr fun e =>
    (hx.mem_iff e).trans (hy.mem_iff e).symm

/-! The events of one stop. -/

theorem exists_date (h : Holds retention zone s log) (hx : s.IsSnapshot now xs) {stop : String} :
    ∀ e ∈ xs.filter (fun e => e.stop = stop), ∃ date, e.isOn zone ⟨stop, date⟩ = true := by
  intro e he
  obtain ⟨he, hstop⟩ := List.mem_filter.mp he
  obtain ⟨day, hday⟩ := hx.isOn_of_mem h he
  refine ⟨day.date, isOn_iff.mpr ⟨of_decide_eq_true hstop, (isOn_iff.mp hday).2⟩⟩

theorem filter_date (h : Holds retention zone s log) (hx : s.IsSnapshot now xs) (stop : String)
    (date : CivilDate) :
    (xs.filter fun e => e.stop = stop).filter (fun e => e.isOn zone ⟨stop, date⟩) =
      s.get now ⟨stop, date⟩ := by
  rw [← hx.on ⟨stop, date⟩, h.zone_eq, List.filter_filter]
  refine List.filter_congr fun e _ => ?_
  rw [Bool.eq_iff_iff, Bool.and_eq_true, decide_eq_true_eq]
  exact ⟨fun hboth => hboth.1, fun hon => ⟨hon, (isOn_iff.mp hon).1⟩⟩

/-- In every snapshot the events of one stop stand alike. -/
theorem filter_stop_eq (h : Holds retention zone s log) (hx : s.IsSnapshot now xs)
    (hy : s.IsSnapshot now ys) (stop : String) :
    xs.filter (fun e => e.stop = stop) = ys.filter fun e => e.stop = stop := by
  have hsorted : SortedFrom (ys.filter fun e => e.stop = stop) (xs.filter fun e => e.stop = stop) :=
    sortedFrom_of_dates zone stop (hy.exists_date h) (hx.exists_date h) (hx.ordered.filter _)
      fun date => by rw [hx.filter_date h, hy.filter_date h]
  exact hsorted.unique ⟨.refl _, hy.ordered.filter _, fun _ => rfl⟩

/-- **What is picked from two snapshots by one rule is the same** up to the order of different
stops. -/
theorem filter_same (h : Holds retention zone s log) (hx : s.IsSnapshot now xs)
    (hy : s.IsSnapshot now ys) (p : StopEvent → Bool) :
    SameUpToStops (xs.filter p) (ys.filter p) := by
  refine .of_ordered (hx.ordered.filter p) (hy.ordered.filter p) ((hx.perm h hy).filter p)
    fun d => ?_
  have htied : xs.filter (fun e => d.ties e && e.stop = d.stop) =
      ys.filter fun e => d.ties e && e.stop = d.stop := by
    rw [← List.filter_filter, ← List.filter_filter, hx.filter_stop_eq h hy]
  rw [List.filter_comm, htied, List.filter_comm]

end IsSnapshot

end EventStore

end TransitDwell
