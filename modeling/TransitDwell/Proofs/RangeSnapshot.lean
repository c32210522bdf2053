import TransitDwell.Proofs.Snapshot

/-!
# Ranges of time

A range of time is read across all stop-days. What is read is the merge of what readers of single
stop-days are shown (`EventStore.IsMerge`): their events, as far as they are in the range, each once
and in order. The events of one stop may be on several dates, and stand as the readings of these
dates put into order.

A range is cut anywhere without losing or repeating an event, since it has its first instant and has
not its last.

Main statement: `range_is_merge_of_stop_days`.
-/

namespace TransitDwell

open StopEvent

/-! ### Cutting events in order -/

/-- Events in order are cut at an instant into those before it and those from it on. -/
theorem InOrder.filter_cut {xs : List StopEvent} (h : InOrder xs) (p : StopEvent → Bool)
    (mid : Int) :
    xs.filter p =
      (xs.filter fun e => p e && e.time < mid) ++ xs.filter fun e => p e && mid ≤ e.time := by
  induction xs with
  | nil => rfl
  | cons x xs ih =>
    by_cases hbefore : x.time < mid
    · have hlater : ¬ mid ≤ x.time := Int.not_le.mpr hbefore
      cases hp : p x <;> simp [hp, hbefore, hlater, ih h.tail]
    · -- nothing that comes later is before that instant either
      have hlate : ∀ e ∈ x :: xs, mid ≤ e.time := fun e he =>
        Int.le_trans (Int.not_lt.mp hbefore) (time_le_of_notAfter (h.notAfter_of_mem he))
      have hnone : ((x :: xs).filter fun e => p e && e.time < mid) = [] := by
        refine List.filter_eq_nil_iff.mpr fun e he => ?_
        simp [hlate e he]
      rw [hnone, List.nil_append]
      exact List.filter_congr fun e he => by simp [hlate e he]

namespace EventStore

/-! ### Readings of stop-days and their merge -/

/-- What readers of a stop are shown on some dates, one date after the other. -/
def getDates (s : EventStore) (now : Int) (stop : String) (dates : List CivilDate) :
    List StopEvent :=
  dates.flatMap fun date => s.get now ⟨stop, date⟩

/-- Whether an event is in a range of time: it is not before its start, and before its end. -/
def inRange (start finish : Int) (e : StopEvent) : Bool := start ≤ e.time && e.time < finish

/-- A reading of a range of time is the merge of what readers of single stop-days are shown. -/
structure IsMerge (s : EventStore) (now start finish : Int) (xs : List StopEvent) : Prop where
  /-- The events are those of all stop-days that are in the range. -/
  mem_iff : ∀ e, e ∈ xs ↔ (∃ day, e ∈ s.get now day) ∧ start ≤ e.time ∧ e.time < finish
  /-- Each stands once. -/
  once : xs.Nodup
  /-- They stand in order. -/
  ordered : InOrder xs
  /-- Those of one stop-day stand as they do on it. -/
  on_day : ∀ day, xs.filter (fun e => e.isOn s.zone day) =
    (s.get now day).filter (inRange start finish)
  /-- Those of one stop are the readings of all its dates put into order. -/
  at_stop : ∀ stop dates, dates.Nodup → (∀ date, s.get now ⟨stop, date⟩ ≠ [] → date ∈ dates) →
    SortedFrom ((s.getDates now stop dates).filter (inRange start finish))
      (xs.filter fun e => e.stop = stop)

namespace Holds

variable {retention : Int} {zone : Zone} {s : EventStore} {log : List StopEvent}

theorem isOn_of_mem_get (h : Holds retention zone s log) {now : Int} {day : StopDay}
    {e : StopEvent} (he : e ∈ s.get now day) : e.isOn zone day = true :=
  (h.mem_eventsOn.mp (List.mem_of_mem_filter he)).2

/-- Among the readings of all dates of a stop, one date is met as it is shown. -/
theorem filter_getDates (h : Holds retention zone s log) {now : Int} {stop : String}
    {dates : List CivilDate} (hdates : dates.Nodup)
    (hall : ∀ date, s.get now ⟨stop, date⟩ ≠ [] → date ∈ dates) (date : CivilDate) :
    (s.getDates now stop dates).filter (fun e => e.isOn zone ⟨stop, date⟩) =
      s.get now ⟨stop, date⟩ := by
  have hother {date' : CivilDate} (hne : date' ≠ date) :
      (s.get now ⟨stop, date'⟩).filter (fun e => e.isOn zone ⟨stop, date⟩) = [] := by
    refine List.filter_eq_nil_iff.mpr fun e he hon => hne ?_
    exact congrArg StopDay.date (isOn_unique (h.isOn_of_mem_get he) hon)
  have hself : (s.get now ⟨stop, date⟩).filter (fun e => e.isOn zone ⟨stop, date⟩) =
      s.get now ⟨stop, date⟩ :=
    List.filter_eq_self.mpr fun e he => h.isOn_of_mem_get he
  rw [getDates, List.filter_flatMap]
  by_cases hmem : date ∈ dates
  · rw [flatMap_eq_of_mem hmem hdates fun date' _ => hother, hself]
  · have hempty : s.get now ⟨stop, date⟩ = [] := by
      by_contra hne
      exact hmem (hall date hne)
    rw [hempty]
    exact List.flatMap_eq_nil_iff.mpr fun date' hdate' => hother fun heq => hmem (heq ▸ hdate')

/-- What a snapshot has of a stop are the readings of all its dates put into order. -/
theorem sortedFrom_getDates (h : Holds retention zone s log) {now : Int} {xs : List StopEvent}
    (hx : s.IsSnapshot now xs) {stop : String} {dates : List CivilDate} (hdates : dates.Nodup)
    (hall : ∀ date, s.get now ⟨stop, date⟩ ≠ [] → date ∈ dates) :
    SortedFrom (s.getDates now stop dates) (xs.filter fun e => e.stop = stop) := by
  refine sortedFrom_of_dates zone stop (fun e he => ?_) (hx.exists_date h) (hx.ordered.filter _)
    fun date => ?_
  · obtain ⟨date, -, he⟩ := List.mem_flatMap.mp he
    exact ⟨date, h.isOn_of_mem_get he⟩
  · rw [h.filter_getDates hdates hall, hx.filter_date h]

/-- **Every reading of a range is the merge of the stop-days.** -/
theorem isMerge_between (h : Holds retention zone s log) (scan : ScanOrder)
    (now start finish : Int) : s.IsMerge now start finish (s.between scan now start finish) := by
  have hx : s.IsSnapshot now (s.current scan now) := h.isSnapshot_current scan now
  have hcut : s.between scan now start finish =
      (s.current scan now).filter (inRange start finish) := s.between_eq scan now start finish
  rw [hcut]
  refine ⟨fun e => ?_, (hx.nodup h).filter _, hx.ordered.filter _, fun day => ?_,
    fun stop dates hdates hall => ?_⟩
  · rw [List.mem_filter, hx.mem_iff, inRange, Bool.and_eq_true, decide_eq_true_eq,
      decide_eq_true_eq]
  · rw [List.filter_comm, hx.on]
  · rw [List.filter_comm]
    exact (h.sortedFrom_getDates hx hdates hall).filter _

/-- A range is cut anywhere. -/
theorem between_append (h : Holds retention zone s log) (scan : ScanOrder) (now : Int)
    {start mid finish : Int} (hstart : start ≤ mid) (hfinish : mid ≤ finish) :
    s.between scan now start finish =
      s.between scan now start mid ++ s.between scan now mid finish := by
  have hordered : InOrder (s.current scan now) := (h.isSnapshot_current scan now).ordered
  rw [between_eq, between_eq, between_eq, hordered.filter_cut _ mid]
  congr 1
  · refine List.filter_congr fun e _ => ?_
    rw [Bool.eq_iff_iff]
    simp only [Bool.and_eq_true, decide_eq_true_eq]
    omega
  · refine List.filter_congr fun e _ => ?_
    rw [Bool.eq_iff_iff]
    simp only [Bool.and_eq_true, decide_eq_true_eq]
    omega

end Holds

end EventStore

/-- **A range of time is the merge of the stop-days.** Whatever was done with an event store, and
whatever the order in which stop-days are visited, a reading of a range has the events that are
shown on some stop-day and are in the range, each once and in order, and has those of a stop in the
order in which its stop-days are shown. A range that is cut into two is read as the first part and
then the second. -/
theorem range_is_merge_of_stop_days (retention : Int) (zone : Zone)
    (actions : List (Int × EventStore.Action)) (scan : ScanOrder) (now start finish : Int) :
    let s := Run.after EventStore.act (.empty retention zone) actions
    s.IsMerge now start finish (s.between scan now start finish) ∧
      ∀ mid, start ≤ mid → mid ≤ finish →
        s.between scan now start finish =
          s.between scan now start mid ++ s.between scan now mid finish := by
  intro s
  have hholds := EventStore.holds_after retention zone actions
  exact ⟨hholds.isMerge_between scan now start finish,
    fun mid hstart hfinish => hholds.between_append scan now hstart hfinish⟩

/-- A departure in the last millisecond of a day is read in the range that ends with the day, an
arrival at the same stop at midnight in the one that begins there. -/
example :
    let departure : StopEvent := ⟨"1", "pier", "t1", "r", 86399999, false, 0⟩
    let arrival : StopEvent := ⟨"2", "pier", "t2", "r", 86400000, true, 0⟩
    let s := Run.after EventStore.act (.empty 345600000 .utc)
      [(86400000, .populate [arrival, departure])]
    s.between .entered 86400000 0 86400000 = [departure] ∧
      s.between .entered 86400000 86400000 172800000 = [arrival] := by
  decide +kernel

end TransitDwell
