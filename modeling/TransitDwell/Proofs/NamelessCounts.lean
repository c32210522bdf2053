import TransitDwell.Proofs.DailySums
import TransitDwell.Proofs.DoorReach

/-!
# Observations without a vehicle

An observation that names no vehicle is malformed. It joins no event, so that nothing is counted for
it, and as long as the window of its batch does not wrap around, it does not matter to the others.
But nothing looks at its name before its doors are learned: they are filed under the empty name, and
a later request that names no vehicle either is answered by them.

That is all that such an observation does. A batch is compared here with what remains of it without
them (`nameless_counts_leave_only_doors`), and how far the doors reach from there is
`doors_reach_only_their_vehicle`.
-/

namespace TransitDwell

/-- Whether an observation names its vehicle. -/
def Observation.isComplete (o : Observation) : Bool := o.missing?.isNone

theorem Observation.isComplete_iff (o : Observation) : o.isComplete = true ↔ o.vehicle ≠ "" := by
  by_cases h : o.vehicle = "" <;> simp [isComplete, missing?, h]

/-- An observation that names no vehicle matches nothing. -/
theorem EventIndex.matchOne_of_not_isComplete (r : MatchRule) (index : EventIndex)
    {o : Observation} (h : o.isComplete = false) : matchOne r index o = ⟨o, []⟩ := by
  have hvehicle : o.vehicle = "" := by
    rwa [← Bool.not_eq_true, Observation.isComplete_iff, not_not] at h
  rw [matchOne, if_pos hvehicle]

namespace Service

variable {α : Type} [Scalar α]

theorem events_eq_nil_of_mem_matchBatch {s : Service α} {scan : ScanOrder} {now : Int}
    {batch : List Observation} {m : CountMatch} (hm : m ∈ s.matchBatch scan now batch)
    (h : m.observation.isComplete = false) : m.events = [] := by
  rw [matchBatch_eq_filter] at hm
  obtain ⟨o, -, rfl⟩ := List.mem_map.mp hm
  simp only [EventIndex.matchOne_of_not_isComplete _ _ h, List.filter_nil]

/-- The observations of a batch that name their vehicle are matched as they are without the others,
if 64 bits hold what is in reach of all of them. -/
theorem filter_matchBatch (s : Service α) (scan : ScanOrder) (now : Int)
    {batch : List Observation} (hfits : ∀ o ∈ batch, s.config.matchRule.ReachFits o) :
    (s.matchBatch scan now batch).filter (·.observation.isComplete) =
      s.matchBatch scan now (batch.filter Observation.isComplete) := by
  have hnamed : ∀ o ∈ batch.filter Observation.isComplete, s.config.matchRule.ReachFits o :=
    fun o ho => hfits o (List.mem_of_mem_filter ho)
  rw [matchBatch_eq s scan now hfits, matchBatch_eq s scan now hnamed, List.filter_map]
  congr 2
  funext o
  exact congrArg Observation.isComplete (EventIndex.matchOne_observation _ _ o)

/-- Whoever names no vehicle is not counted. -/
theorem recordAll_filter_matchBatch (s : Service α) (scan : ScanOrder) (now : Int)
    {batch : List Observation} (hfits : ∀ o ∈ batch, s.config.matchRule.ReachFits o) :
    s.history.recordAll s.events now (s.matchBatch scan now (batch.filter Observation.isComplete)) =
      s.history.recordAll s.events now (s.matchBatch scan now batch) := by
  have hmatched : ((s.matchBatch scan now batch).filter (·.observation.isComplete)).filter
      (·.isMatched) = (s.matchBatch scan now batch).filter (·.isMatched) := by
    rw [List.filter_filter]
    refine List.filter_congr fun m hm => ?_
    -- a match has events only if its observation names a vehicle
    cases hcomplete : m.observation.isComplete with
    | true => rw [Bool.and_true]
    | false => simp [CountMatch.isMatched, events_eq_nil_of_mem_matchBatch hm hcomplete]
  rw [← s.filter_matchBatch scan now hfits, ← PassengerHistory.recordAll_filter_isMatched, hmatched,
    PassengerHistory.recordAll_filter_isMatched]

theorem lastDoors?_filter (batch : List Observation) (vehicle : String) :
    lastDoors? (batch.filter Observation.isComplete) vehicle =
      if vehicle = "" then none else lastDoors? batch vehicle := by
  unfold lastDoors?
  rw [List.filterMap_filter]
  by_cases hvehicle : vehicle = ""
  · rw [if_pos hvehicle, List.getLast?_eq_none_iff, List.filterMap_eq_nil_iff]
    intro o _
    by_cases ho : o.vehicle = "" <;> simp [o.isComplete_iff, hvehicle, ho]
  · rw [if_neg hvehicle]
    congr 2
    funext o
    by_cases ho : o.vehicle = vehicle <;> simp [o.isComplete_iff, hvehicle, ho]

/-- Observations that do not tell doors teach none. -/
theorem foldl_learnDoors_filter {batch : List Observation}
    (h : ∀ o ∈ batch, o.isComplete = false → o.doors = none) (doors : Keyed String Nat) :
    (batch.filter Observation.isComplete).foldl learnDoors doors =
      batch.foldl learnDoors doors := by
  rw [List.foldl_filter]
  refine List.foldl_ext _ _ doors fun doors o ho => ?_
  cases hcomplete : o.isComplete with
  | true => rfl
  | false => simp [learnDoors, h o ho hcomplete]

/-- Without the observations that name no vehicle, a batch leaves the service as it does with them,
but for the doors of vehicles. -/
theorem ingestCounts_filter (s : Service α) (scan : ScanOrder) (now : Int)
    {batch : List Observation} (hfits : ∀ o ∈ batch, s.config.matchRule.ReachFits o) :
    (s.ingestCounts scan now (batch.filter Observation.isComplete)).2 =
      { (s.ingestCounts scan now batch).2 with
        doors := (batch.filter Observation.isComplete).foldl learnDoors s.doors } := by
  simp only [ingestCounts, s.recordAll_filter_matchBatch scan now hfits]

end Service

/-- **Observations without a vehicle leave nothing but doors.** Take in a batch, and take in what
remains of it without the observations that name no vehicle. These match nothing. The doors of every
vehicle that has a name are the same, and those under the empty name are the last that were told
without a name. If 64 bits hold what is in reach of every observation of the batch, the matches of
the observations that remain are the same, and so are the daily totals; if no doors were told
without a name, the services are the same; and in any case whatever is done with them later is
answered the same, up to requests that name no vehicle. -/
theorem nameless_counts_leave_only_doors {α : Type} [Scalar α] (s : Service α) (scan : ScanOrder)
    (now : Int) (batch : List Observation) :
    let all := s.ingestCounts scan now batch
    let named := s.ingestCounts scan now (batch.filter Observation.isComplete)
    all.1.map (·.observation) = batch ∧
      named.1.map (·.observation) = batch.filter Observation.isComplete ∧
      (∀ m ∈ all.1, m.observation.isComplete = false → m.events = []) ∧
      (∀ vehicle, vehicle ≠ "" → all.2.doors.get? vehicle = named.2.doors.get? vehicle) ∧
      named.2.doors.get? "" = s.doors.get? "" ∧
      all.2.doors.get? "" = (Service.lastDoors? batch "").or (s.doors.get? "") ∧
      ((∀ o ∈ batch, s.config.matchRule.ReachFits o) →
        all.1.filter (·.observation.isComplete) = named.1 ∧
        all.2.history = named.2.history ∧
        ((∀ o ∈ batch, o.isComplete = false → o.doors = none) → all.2 = named.2) ∧
        ∀ (run : List (Int × Service.Action)) (action : Int × Service.Action),
          (∀ vehicle ∈ action.2.asksAbout?, vehicle ≠ "") →
          ((Run.after Service.act all.2 run).act action).1 =
            ((Run.after Service.act named.2 run).act action).1) := by
  intro all named
  have hdoors (vehicle : String) : all.2.doors.get? vehicle =
      (Service.lastDoors? batch vehicle).or (s.doors.get? vehicle) :=
    Service.get?_foldl_learnDoors s.doors batch vehicle
  have hnamed (vehicle : String) : named.2.doors.get? vehicle =
      (if vehicle = "" then none else Service.lastDoors? batch vehicle).or
        (s.doors.get? vehicle) := by
    rw [← Service.lastDoors?_filter]
    exact Service.get?_foldl_learnDoors s.doors _ vehicle
  have hsame : ∀ vehicle, vehicle ≠ "" →
      all.2.doors.get? vehicle = named.2.doors.get? vehicle := by
    intro vehicle hvehicle
    rw [hdoors, hnamed, if_neg hvehicle]
  refine ⟨s.map_observation_matchBatch scan now batch,
    s.map_observation_matchBatch scan now (batch.filter Observation.isComplete),
    fun m hm => Service.events_eq_nil_of_mem_matchBatch hm, hsame,
    by rw [hnamed, if_pos rfl, Option.none_or], hdoors "", fun hfits => ?_⟩
  have hrest : named.2 = { all.2 with doors := named.2.doors } :=
    s.ingestCounts_filter scan now hfits
  refine ⟨s.filter_matchBatch scan now hfits, by rw [hrest], fun hnone => ?_,
    fun run action hasked => ?_⟩
  · rw [hrest]
    have hequal : named.2.doors = all.2.doors := Service.foldl_learnDoors_filter hnone s.doors
    rw [hequal]
  · rw [hrest]
    exact (doors_reach_only_their_vehicle all.2 hsame run).2 action hasked

/-! ### A request that names no vehicle -/

namespace Service

/-- Two historical dwells are enough for the filter, boarding takes four seconds, and four doors
make it twice as fast. -/
def ferryConfig : DwellConfig Rat :=
  { zone := .utc, minDays := 2, initialError := 0, boardingConstant := 2,
    secondsPerBoarding := [4], doorFactors := some ⟨[[1, 1, 1, 1, 0.5]]⟩,
    defaultRate := some 0.0078125 }

/-- A ferry lies at a pier for ten seconds on the first day and for thirty on the second. On the
third it has come and not yet left. -/
def threeDaysAtPier : List (Int × Action) :=
  [⟨"1", "pier", "t", "r", 0, true, 0⟩, ⟨"1", "pier", "t", "r", 10000, false, 0⟩,
    ⟨"1", "pier", "t", "r", 86400000, true, 0⟩, ⟨"1", "pier", "t", "r", 86430000, false, 0⟩,
    ⟨"1", "pier", "t", "r", 172800000, true, 0⟩].map fun e => (173440000, .ingestEvent e)

/-- It has been counted, and four doors are told of without a vehicle. -/
def fourDoorsOfNobody : List Observation :=
  [⟨"1", 172800000, 3, 0, none, none⟩, ⟨"", 172800000, 0, 0, some 4, none⟩]

/-- A ferry without a name is due at the pier. -/
def namelessApproach : DwellRequest :=
  ⟨"t2", "r", "pier", 1, "", some 173440000, 0, some 0, none⟩

/-- The doors of nobody change no prediction for a ferry that has a name. -/
theorem doors_of_nobody_change_no_named_prediction :
    let s := afterRun ferryConfig threeDaysAtPier
    let all := s.ingestCounts .entered 173440000 fourDoorsOfNobody
    let named := s.ingestCounts .entered 173440000
      (fourDoorsOfNobody.filter Observation.isComplete)
    let r := { namelessApproach with vehicle := "2" }
    (∀ o ∈ fourDoorsOfNobody, s.config.matchRule.ReachFits o) ∧
      all.2.history = named.2.history ∧
      (all.2.predict 173440000 r).1 = (named.2.predict 173440000 r).1 ∧
      (named.2.predict 173440000 r).1 = ⟨65000, .passengerCounts⟩ := by
  intro s all named r
  have hfits : ∀ o ∈ fourDoorsOfNobody, s.config.matchRule.ReachFits o := by decide +kernel
  obtain ⟨-, hhistory, -, hlater⟩ :=
    (nameless_counts_leave_only_doors s .entered 173440000 fourDoorsOfNobody).2.2.2.2.2.2 hfits
  have hpredicted := hlater [] (173440000, .predict r) (by decide)
  exact ⟨hfits, hhistory, Reply.predicted.inj hpredicted, by decide +kernel⟩

/-- A ferry without a name is predicted to stay for another time if the doors of nobody were
told. -/
theorem doors_of_nobody_change_prediction :
    let s := afterRun ferryConfig threeDaysAtPier
    let all := s.ingestCounts .entered 173440000 fourDoorsOfNobody
    let named := s.ingestCounts .entered 173440000
      (fourDoorsOfNobody.filter Observation.isComplete)
    (all.2.predict 173440000 namelessApproach).1 = ⟨40000, .passengerCounts⟩ ∧
      (named.2.predict 173440000 namelessApproach).1 = ⟨65000, .passengerCounts⟩ ∧
      all.2.doors.get? "" = some 4 ∧ named.2.doors.get? "" = none := by
  decide +kernel

end Service

end TransitDwell
