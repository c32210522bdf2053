import Mathlib.Data.List.Perm.Basic
import TransitDwell.Proofs.AttemptRun

/-!
# Streams of requests that do not interfere

Attempts for many vehicles share what they keep: one store of filter errors, one of remembered
predictions, and one set of metrics. Still, an attempt reads and writes only at the trip and the
stop position of its request (`Attempt.make_agreeAt`, `Attempt.make_agreeAt_of_ne`). So streams of
requests that have no trip and position in common may be mixed in any way. Each request is answered
as if its stream were alone, and all ways to mix the streams leave the same behind.

The clock stands and the sources answer the same all along. Requests carry the name of their stream,
and so do the answers, so that a mixture of streams is a list from which each stream can be picked
out again (`Mixes`).

What is left behind is compared by what it answers. That the metrics are the same is due to their
being sums: the same marks are counted, in another order (`Metrics.noteAll_perm`).

Main statement: `streams_do_not_interfere`.
-/

namespace TransitDwell

/-! ### Stores that agree at a place -/

/-- Two stores hold the same at keys of some kind, written at the same instants. -/
structure AgedStore.AgreeOn {κ ν : Type} [DecidableEq κ] (kind : κ → Prop)
    (s t : AgedStore κ ν) : Prop where
  /-- Values are answered for as long. -/
  retention : s.retention = t.retention
  /-- The rows of these keys are the same. -/
  rows : ∀ k, kind k → s.rows.get? k = t.rows.get? k

namespace AgedStore.AgreeOn

variable {κ ν : Type} [DecidableEq κ] {kind : κ → Prop} {s t u : AgedStore κ ν} {k : κ}

theorem refl (kind : κ → Prop) (s : AgedStore κ ν) : AgreeOn kind s s := ⟨rfl, fun _ _ => rfl⟩

theorem symm (h : AgreeOn kind s t) : AgreeOn kind t s :=
  ⟨h.retention.symm, fun k hk => (h.rows k hk).symm⟩

theorem trans (h : AgreeOn kind s t) (h' : AgreeOn kind t u) : AgreeOn kind s u :=
  ⟨h.retention.trans h'.retention, fun k hk => (h.rows k hk).trans (h'.rows k hk)⟩

/-- They answer alike there. -/
theorem get?_eq (h : AgreeOn kind s t) (hk : kind k) (now : Int) : s.get? now k = t.get? now k := by
  rw [get?, get?, h.rows k hk]
  cases t.rows.get? k with
  | none => rfl
  | some d =>
    have hcurrent : s.isCurrent now d = t.isCurrent now d := by
      rw [isCurrent, isCurrent, h.retention]
    simp only [hcurrent]

/-- A value that is written into both leaves them so. -/
theorem put (h : AgreeOn kind s t) (now : Int) (k : κ) (v : ν) :
    AgreeOn kind (s.put now k v) (t.put now k v) := by
  refine ⟨h.retention, fun j hj => ?_⟩
  rw [AgedStore.put, AgedStore.put, Keyed.get?_insert, Keyed.get?_insert, h.rows j hj]

/-- A value that is written at another key does not show. -/
theorem put_of_not (s : AgedStore κ ν) (now : Int) (v : ν) (hk : ¬ kind k) :
    AgreeOn kind (s.put now k v) s := by
  refine ⟨rfl, fun j hj => (s.overwrites_put now k v).elsewhere j ?_⟩
  rintro rfl
  exact hk hj

end AgedStore.AgreeOn

/-- The place that a context belongs to. -/
def PredictionContext.key (context : PredictionContext) : FilterKey :=
  ⟨context.trip, context.position⟩

/-- Two stores cannot be told apart at a trip and position. -/
structure Stores.AgreeAt {α : Type} (key : FilterKey) (a b : Stores α) : Prop where
  /-- They hold the same filter error there. -/
  filterErrors : AgedStore.AgreeOn (· = key) a.filterErrors b.filterErrors
  /-- They hold the same predictions for its contexts. -/
  contexts : AgedStore.AgreeOn (fun context => context.key = key) a.contexts b.contexts

namespace Stores.AgreeAt

variable {α : Type} {key : FilterKey} {a b d : Stores α}

theorem refl (key : FilterKey) (a : Stores α) : AgreeAt key a a := ⟨.refl _ _, .refl _ _⟩

theorem symm (h : AgreeAt key a b) : AgreeAt key b a := ⟨h.filterErrors.symm, h.contexts.symm⟩

theorem trans (h : AgreeAt key a b) (h' : AgreeAt key b d) : AgreeAt key a d :=
  ⟨h.filterErrors.trans h'.filterErrors, h.contexts.trans h'.contexts⟩

end Stores.AgreeAt

/-! ### Attempts -/

/-- The context of a request belongs to its place. -/
theorem DwellRequest.key_of_context? {r : DwellRequest} {w : BucketWidth}
    {context : PredictionContext} (h : r.context? w = some context) :
    context.key = r.filterKey := by
  obtain ⟨arrival, -, rfl⟩ := Option.map_eq_some_iff.mp h
  rfl

namespace Attempt

variable {α : Type} [Scalar α] {c : DwellConfig α} {s : Sources α} {now : Int} {a b : Stores α}
  {r : DwellRequest} {key : FilterKey}

/-- How an attempt ends hangs on what is held at its trip and position. -/
theorem ending_eq (h : a.AgreeAt r.filterKey b) : c.ending s now a r = c.ending s now b r := by
  have hprior : c.priorFor s now a r = c.priorFor s now b r := by
    rw [DwellConfig.priorFor, DwellConfig.priorFor, h.filterErrors.get?_eq rfl]
  have hwith (context : PredictionContext) (ts : Int) (rate : α) (headway : Int) :
      c.endingWith s now a r context ts rate headway =
        c.endingWith s now b r context ts rate headway := by
    simp only [DwellConfig.endingWith, hprior]
  unfold DwellConfig.ending
  cases hcontext : r.context? c.bucketWidth with
  | none => rfl
  | some context =>
    have hheld : a.contexts.get? now context = b.contexts.get? now context :=
      h.contexts.get?_eq (DwellRequest.key_of_context? hcontext) now
    cases r.adjustedArrival with
    | none => rfl
    | some ts => simp only [hheld, hwith]

/-- The filter runs at the place of the request. -/
theorem key_of_filtered {context : PredictionContext} {daysAsked : Nat} {step : FilterStep α}
    (h : c.ending s now a r = .filtered context daysAsked step) : context.key = r.filterKey := by
  rcases stops_or_completes c s now a r with
    ⟨answer, hstops⟩ | ⟨written, ts, rate, headway, hcompletes⟩
  · obtain ⟨ending, hending, -, hstep⟩ := hstops.exists_ending
    obtain rfl : _ = ending := h.symm.trans hending
    cases hstep
  · have hmatch := h.symm.trans hcompletes.ending_eq_match
    obtain ⟨arrival, -, hplace, -⟩ := hcompletes.scheduled
    split at hmatch
    · cases hmatch
    · obtain rfl : context = written := (Ending.filtered.inj hmatch).1
      rw [hplace]
      rfl

end Attempt

namespace Ending

variable {α : Type} [Scalar α] {s : Sources α} {now : Int} {a b : Stores α} {r : DwellRequest}
  {key : FilterKey} (ending : Ending α)

/-- What is written into stores that agree leaves them so. -/
theorem write_agreeAt (h : a.AgreeAt key b) :
    (ending.write s now r a).AgreeAt key (ending.write s now r b) := by
  cases ending with
  | filtered context daysAsked step =>
    simp only [write]
    split
    · exact ⟨h.filterErrors, h.contexts.put now context _⟩
    · exact ⟨h.filterErrors.put now r.filterKey _, h.contexts.put now context _⟩
  | _ => exact h

/-- What is written at one place does not show at another. -/
theorem write_agreeAt_of_ne (hne : r.filterKey ≠ key)
    (hplace : ∀ context daysAsked step,
      ending = .filtered context daysAsked step → context.key = r.filterKey) :
    (ending.write s now r a).AgreeAt key a := by
  cases ending with
  | filtered context daysAsked step =>
    have hcontext : context.key ≠ key := by
      rw [hplace _ _ _ rfl]
      exact hne
    simp only [write]
    split
    · exact ⟨.refl _ _, .put_of_not _ now _ hcontext⟩
    · exact ⟨.put_of_not _ now _ hne, .put_of_not _ now _ hcontext⟩
  | _ => exact .refl key a

end Ending

namespace Attempt

variable {α : Type} [Scalar α] {c : DwellConfig α} {s : Sources α} {now : Int} {a b : Stores α}
  {r : DwellRequest} {key : FilterKey}

/-- Stores that agree at the place of a request, and at another, still do so after it. -/
theorem make_agreeAt (h : a.AgreeAt r.filterKey b) (hkey : a.AgreeAt key b) :
    (make c s now a r).stores.AgreeAt key (make c s now b r).stores := by
  simp only [make, ending_eq h]
  exact Ending.write_agreeAt _ hkey

/-- An attempt leaves every place as it was but that of its request. -/
theorem make_agreeAt_of_ne (hne : r.filterKey ≠ key) (a : Stores α) :
    (make c s now a r).stores.AgreeAt key a :=
  Ending.write_agreeAt_of_ne _ hne fun _ _ _ => key_of_filtered

end Attempt

/-! ### Metrics -/

/-- The order of two changes that add to a table does not show in what it answers. -/
theorem Keyed.get?_upsert_upsert {κ ν : Type} [DecidableEq κ] (t : Keyed κ ν) {k l : κ}
    {fresh fresh' : ν} {add add' : ν → ν} (hfresh : add' fresh = add fresh')
    (hadd : ∀ v, add' (add v) = add (add' v)) (j : κ) :
    ((t.upsert k fresh add).upsert l fresh' add').get? j =
      ((t.upsert l fresh' add').upsert k fresh add).get? j := by
  simp only [get?_upsert]
  by_cases hkey : k = l
  · subst hkey
    by_cases hj : j = k
    · subst hj
      cases t.get? j <;> simp [hfresh, hadd]
    · simp [hj]
  · have hkey' : ¬ l = k := fun h => hkey h.symm
    by_cases hj : j = k
    · simp [hj, hkey]
    · simp [hj, hkey']

namespace Metrics

/-- Two metrics answer the same under every name. -/
structure Same (m n : Metrics) : Prop where
  /-- Every outcome was as often a hit and as often a miss. -/
  outcomes : ∀ name, m.outcomes.get? name = n.outcomes.get? name
  /-- Every stage was timed as often, and took as long in all. -/
  durations : ∀ name, m.durations.get? name = n.durations.get? name

theorem Same.refl (m : Metrics) : m.Same m := ⟨fun _ => rfl, fun _ => rfl⟩

theorem Same.trans {m n l : Metrics} (h : m.Same n) (h' : n.Same l) : m.Same l :=
  ⟨fun name => (h.outcomes name).trans (h'.outcomes name),
    fun name => (h.durations name).trans (h'.durations name)⟩

/-- A mark is counted as an outcome or as a timing. -/
theorem note_cases (mark : Mark) :
    (∃ name hit, ∀ m : Metrics, m.note mark = m.recordOutcome name hit) ∨
      ∃ name nanos, ∀ m : Metrics, m.note mark = m.recordDuration name nanos := by
  cases mark with
  | hit outcome => exact .inl ⟨_, _, fun _ => rfl⟩
  | miss outcome => exact .inl ⟨_, _, fun _ => rfl⟩
  | timed stage => exact .inr ⟨_, _, fun _ => rfl⟩

theorem Same.note {m n : Metrics} (h : m.Same n) (mark : Mark) :
    (m.note mark).Same (n.note mark) := by
  rcases note_cases mark with ⟨name, hit, hnote⟩ | ⟨name, nanos, hnote⟩
  · rw [hnote, hnote]
    refine ⟨fun asked => ?_, h.durations⟩
    simp only [recordOutcome, Keyed.get?_upsert, h.outcomes]
  · rw [hnote, hnote]
    refine ⟨h.outcomes, fun asked => ?_⟩
    simp only [recordDuration, Keyed.get?_upsert, h.durations]

theorem Same.noteAll {m n : Metrics} (h : m.Same n) (marks : List Mark) :
    (m.noteAll marks).Same (n.noteAll marks) := by
  induction marks generalizing m n with
  | nil => exact h
  | cons mark marks ih => exact ih (h.note mark)

/-- Two marks may be counted in either order, as counting adds. -/
theorem note_note (m : Metrics) (mark mark' : Mark) :
    ((m.note mark).note mark').Same ((m.note mark').note mark) := by
  rcases note_cases mark with ⟨name, hit, hnote⟩ | ⟨name, nanos, hnote⟩ <;>
    rcases note_cases mark' with ⟨name', hit', hnote'⟩ | ⟨name', nanos', hnote'⟩ <;>
    simp only [hnote, hnote']
  · refine ⟨fun asked => m.outcomes.get?_upsert_upsert ?_ (fun v => ?_) asked, fun _ => rfl⟩
    · simp only [Nat.add_comm]
    · simp only [Nat.add_right_comm]
  · exact ⟨fun _ => rfl, fun _ => rfl⟩
  · exact ⟨fun _ => rfl, fun _ => rfl⟩
  · refine ⟨fun _ => rfl, fun asked => m.durations.get?_upsert_upsert ?_ (fun v => ?_) asked⟩
    · simp only [Nat.add_comm]
    · simp only [Nat.add_right_comm]

/-- The order of marks does not show in the counts. -/
theorem noteAll_perm {marks marks' : List Mark} (h : marks.Perm marks') (m : Metrics) :
    (m.noteAll marks).Same (m.noteAll marks') := by
  induction h generalizing m with
  | nil => exact .refl _
  | cons mark _ ih => exact ih (m.note mark)
  | swap mark mark' marks => exact (m.note_note mark' mark).noteAll marks
  | trans _ _ ih ih' => exact (ih m).trans (ih' m)

end Metrics

/-! ### Mixtures -/

section Mixtures

variable {ι β : Type} [DecidableEq ι]

/-- A list of requests, each with the name of its stream, mixes streams: what it has of a stream is
that stream, in its order. -/
def Mixes (mixed : List (ι × DwellRequest)) (streams : ι → List DwellRequest) : Prop :=
  ∀ i, mixed.filter (fun x => x.1 = i) = (streams i).map fun r => (i, r)

/-- Different streams have no trip and position in common. -/
def Apart (streams : ι → List DwellRequest) : Prop :=
  ∀ i j, i ≠ j → ∀ r ∈ streams i, ∀ r' ∈ streams j, r.filterKey ≠ r'.filterKey

/-- Where two lists have the same of every stream, they differ in order only. -/
theorem perm_of_filter_eq {xs ys : List (ι × β)}
    (h : ∀ i, xs.filter (fun x => x.1 = i) = ys.filter fun x => x.1 = i) : xs.Perm ys := by
  classical
  refine List.perm_iff_count.mpr fun x => ?_
  have hcount (zs : List (ι × β)) : (zs.filter fun y => y.1 = x.1).count x = zs.count x :=
    List.count_filter (decide_eq_true rfl)
  rw [← hcount xs, h, hcount ys]

theorem Mixes.mem_iff {mixed : List (ι × DwellRequest)} {streams : ι → List DwellRequest}
    (h : Mixes mixed streams) {i : ι} {r : DwellRequest} : (i, r) ∈ mixed ↔ r ∈ streams i := by
  have hmem : (i, r) ∈ mixed.filter (fun x => x.1 = i) ↔ (i, r) ∈ mixed := by
    simp [List.mem_filter]
  rw [← hmem, h]
  simp

end Mixtures

/-! ### Runs -/

/-- What an attempt comes to, besides what is kept. -/
structure AttemptReport where
  /-- The answer. -/
  outcome : Outcome
  /-- What is reported to the metrics. -/
  marks : List Mark
  /-- The questions asked. -/
  questions : List Question

/-- The report of an attempt. -/
def Attempt.report {α : Type} (a : Attempt α) : AttemptReport := ⟨a.outcome, a.marks, a.questions⟩

namespace Aftermath

variable {α ι : Type} [Scalar α] (c : DwellConfig α) (s : Sources α) (now : Int)

/-- Makes an attempt for a request of a stream. -/
def serve (a : Aftermath α) (x : ι × DwellRequest) : (ι × AttemptReport) × Aftermath α :=
  ((x.1, (a.act c ⟨now, s, x.2⟩).1.report), (a.act c ⟨now, s, x.2⟩).2)

/-- The metrics of a run count the marks of its attempts. -/
theorem after_metrics (a : Aftermath α) (mixed : List (ι × DwellRequest)) :
    (Run.after (serve c s now) a mixed).metrics =
      a.metrics.noteAll ((Run.answers (serve c s now) a mixed).flatMap fun x => x.2.marks) := by
  induction mixed generalizing a with
  | nil => rfl
  | cons x mixed ih =>
    rw [Run.after_cons, ih, Run.answers_cons, List.flatMap_cons, Metrics.noteAll, Metrics.noteAll,
      List.foldl_append]
    rfl

variable {c s now}

/-- A request is answered alike from stores that agree at its place. -/
theorem serve_fst {a b : Aftermath α} {x : ι × DwellRequest}
    (h : a.stores.AgreeAt x.2.filterKey b.stores) :
    (a.serve c s now x).1 = (b.serve c s now x).1 := by
  simp only [serve, act, Attempt.make, Attempt.report, Attempt.ending_eq h]

/-- Take the requests of some streams, which have places of their own. Without the others they are
answered as with them, and leave the same behind at their places. -/
theorem run_filter (own : ι → Bool) (place : FilterKey → Prop) {mixed : List (ι × DwellRequest)}
    (hown : ∀ x ∈ mixed, own x.1 = true ↔ place x.2.filterKey) {a b : Aftermath α}
    (h : ∀ key, place key → a.stores.AgreeAt key b.stores) :
    (Run.answers (serve c s now) a mixed).filter (fun x => own x.1) =
        Run.answers (serve c s now) b (mixed.filter fun x => own x.1) ∧
      ∀ key, place key → (Run.after (serve c s now) a mixed).stores.AgreeAt key
        (Run.after (serve c s now) b (mixed.filter fun x => own x.1)).stores := by
  induction mixed generalizing a b with
  | nil => exact ⟨rfl, h⟩
  | cons x mixed ih =>
    obtain ⟨hx, hmixed⟩ := List.forall_mem_cons.mp hown
    have htag : own (a.serve c s now x).1.1 = own x.1 := rfl
    rw [Run.answers_cons]
    cases howned : own x.1 with
    | true =>
      have hat : a.stores.AgreeAt x.2.filterKey b.stores := h _ (hx.mp howned)
      obtain ⟨hanswers, hafter⟩ := ih hmixed (a := (a.serve c s now x).2)
        (b := (b.serve c s now x).2) fun key hkey => Attempt.make_agreeAt hat (h key hkey)
      have hkeep : (x :: mixed).filter (fun x => own x.1) = x :: mixed.filter fun x => own x.1 :=
        List.filter_cons_of_pos howned
      rw [List.filter_cons, htag, howned, if_pos rfl, hkeep]
      exact ⟨by rw [hanswers, Run.answers_cons, serve_fst hat], hafter⟩
    | false =>
      have hnot : ¬ place x.2.filterKey := fun hplace => by simp [hx.mpr hplace] at howned
      have hne : ∀ key, place key → x.2.filterKey ≠ key := by
        rintro key hplace rfl
        exact hnot hplace
      have hdrop : (x :: mixed).filter (fun x => own x.1) = mixed.filter fun x => own x.1 :=
        List.filter_cons_of_neg (by simp [howned])
      rw [List.filter_cons, htag, howned, if_neg Bool.false_ne_true, hdrop]
      exact ih hmixed (a := (a.serve c s now x).2) fun key hplace =>
        (Attempt.make_agreeAt_of_ne (hne key hplace) a.stores).trans (h key hplace)

/-- What two runs leave behind cannot be told apart. -/
structure Same (a b : Aftermath α) : Prop where
  /-- The stores agree at every place. -/
  stores : ∀ key, a.stores.AgreeAt key b.stores
  /-- The metrics are the same. -/
  metrics : a.metrics.Same b.metrics

end Aftermath

section Streams

variable {α ι : Type} [Scalar α] [DecidableEq ι] {c : DwellConfig α} {s : Sources α} {now : Int}
  {streams : ι → List DwellRequest} {mixed mixed' : List (ι × DwellRequest)}

/-- A request of a mixture belongs to a stream if it is for a place of that stream. -/
theorem Mixes.eq_iff_place (h : Mixes mixed streams) (hapart : Apart streams) (i : ι) :
    ∀ x ∈ mixed, decide (x.1 = i) = true ↔ ∃ r ∈ streams i, r.filterKey = x.2.filterKey := by
  rintro ⟨j, r⟩ hx
  have hr : r ∈ streams j := h.mem_iff.mp hx
  rw [decide_eq_true_iff]
  constructor
  · rintro rfl
    exact ⟨r, hr, rfl⟩
  · rintro ⟨r', hr', hkey⟩
    by_contra hne
    exact hapart j i hne r hr r' hr' hkey.symm

/-- In a mixture a stream is answered as it is alone, and leaves behind at its places what it leaves
there alone. -/
theorem Mixes.run_eq_alone (h : Mixes mixed streams) (hapart : Apart streams)
    (start : Aftermath α) (i : ι) :
    (Run.answers (Aftermath.serve c s now) start mixed).filter (fun x => x.1 = i) =
        Run.answers (Aftermath.serve c s now) start ((streams i).map fun r => (i, r)) ∧
      ∀ key, (∃ r ∈ streams i, r.filterKey = key) →
        (Run.after (Aftermath.serve c s now) start mixed).stores.AgreeAt key
          (Run.after (Aftermath.serve c s now) start ((streams i).map fun r => (i, r))).stores := by
  rw [← h i]
  exact Aftermath.run_filter (fun j => j = i) (fun key => ∃ r ∈ streams i, r.filterKey = key)
    (h.eq_iff_place hapart i) fun key _ => .refl key start.stores

/-- Places that no stream asks about are left as they were. -/
theorem Mixes.agreeAt_start (h : Mixes mixed streams) (start : Aftermath α) {key : FilterKey}
    (hkey : ∀ i, ∀ r ∈ streams i, r.filterKey ≠ key) :
    (Run.after (Aftermath.serve c s now) start mixed).stores.AgreeAt key start.stores := by
  have hnone : ∀ x ∈ mixed, false = true ↔ x.2.filterKey = key := fun x hx =>
    iff_of_false Bool.false_ne_true (hkey x.1 x.2 (h.mem_iff.mp hx))
  have hafter : (Run.after (Aftermath.serve c s now) start mixed).stores.AgreeAt key
      (Run.after (Aftermath.serve c s now) start (mixed.filter fun _ => false)).stores :=
    (Aftermath.run_filter (fun _ => false) (· = key) hnone
      fun key _ => .refl key start.stores).2 key rfl
  rwa [List.filter_false] at hafter

/-- **Streams of requests that have no place in common do not interfere.** Take any settings, a
clock that stands, and sources that answer the same all along. However streams of requests are
mixed, each request is answered as it is when its stream is alone. All mixtures leave the same
behind: the same filter errors, the same remembered predictions, and the same counts. -/
theorem streams_do_not_interfere (c : DwellConfig α) (s : Sources α) (now : Int)
    (start : Aftermath α) (hapart : Apart streams) :
    let serve : Aftermath α → ι × DwellRequest → (ι × AttemptReport) × Aftermath α :=
      Aftermath.serve c s now
    (∀ mixed, Mixes mixed streams → ∀ i,
      (Run.answers serve start mixed).filter (fun x => x.1 = i) =
        Run.answers serve start ((streams i).map fun r => (i, r))) ∧
    ∀ mixed mixed', Mixes mixed streams → Mixes mixed' streams →
      (Run.after serve start mixed).Same (Run.after serve start mixed') := by
  intro serve
  refine ⟨fun mixed h i => (h.run_eq_alone hapart start i).1, fun mixed mixed' h h' => ⟨?_, ?_⟩⟩
  · intro key
    by_cases hplace : ∃ i, ∃ r ∈ streams i, r.filterKey = key
    · obtain ⟨i, hi⟩ := hplace
      exact ((h.run_eq_alone hapart start i).2 key hi).trans
        ((h'.run_eq_alone hapart start i).2 key hi).symm
    · have hkey : ∀ i, ∀ r ∈ streams i, r.filterKey ≠ key := fun i r hr he =>
        hplace ⟨i, r, hr, he⟩
      exact (h.agreeAt_start start hkey).trans (h'.agreeAt_start start hkey).symm
  · have hperm : (Run.answers serve start mixed).Perm (Run.answers serve start mixed') :=
      perm_of_filter_eq fun i =>
        (h.run_eq_alone hapart start i).1.trans (h'.run_eq_alone hapart start i).1.symm
    rw [Aftermath.after_metrics, Aftermath.after_metrics]
    exact Metrics.noteAll_perm (hperm.flatMap_right _) start.metrics

end Streams

/-- Two vehicles on one trip, the first of them asked about twice, beside another trip and a later
stop. -/
def pierStreams : Bool → List DwellRequest
  | false => [Attempt.steadyRequest, { Attempt.steadyRequest with vehicle := "2" },
      Attempt.steadyRequest]
  | true => [{ Attempt.steadyRequest with trip := "u" },
      { Attempt.steadyRequest with position := 2 }]

/-- The streams one after the other. -/
def pierStreamsInTurn : List (Bool × DwellRequest) :=
  [(false, Attempt.steadyRequest), (false, { Attempt.steadyRequest with vehicle := "2" }),
    (false, Attempt.steadyRequest), (true, { Attempt.steadyRequest with trip := "u" }),
    (true, { Attempt.steadyRequest with position := 2 })]

/-- The streams mixed. -/
def pierStreamsMixed : List (Bool × DwellRequest) :=
  [(true, { Attempt.steadyRequest with trip := "u" }), (false, Attempt.steadyRequest),
    (false, { Attempt.steadyRequest with vehicle := "2" }),
    (true, { Attempt.steadyRequest with position := 2 }), (false, Attempt.steadyRequest)]

/-- Both orders answer the first stream as it is answered alone, and leave the same behind. -/
theorem pierStreams_do_not_interfere :
    let start : Aftermath Rat := ⟨.empty 1000, .empty⟩
    let serve : Aftermath Rat → Bool × DwellRequest → (Bool × AttemptReport) × Aftermath Rat :=
      Aftermath.serve {} Attempt.steadySources 7
    Apart pierStreams ∧ Mixes pierStreamsInTurn pierStreams ∧ Mixes pierStreamsMixed pierStreams ∧
      ((Run.answers serve start pierStreamsMixed).filter (fun x => x.1 = false)).map
          (fun x => x.2.outcome) =
        [.counted 20000, .counted 20000, .counted 20000] ∧
      (Run.after serve start pierStreamsInTurn).Same (Run.after serve start pierStreamsMixed) := by
  intro start serve
  have hapart : Apart pierStreams := by
    rintro (_ | _) (_ | _) hne
    · exact absurd rfl hne
    · decide
    · decide
    · exact absurd rfl hne
  have hturn : Mixes pierStreamsInTurn pierStreams := by rintro (_ | _) <;> rfl
  have hmixed : Mixes pierStreamsMixed pierStreams := by rintro (_ | _) <;> rfl
  obtain ⟨halone, hsame⟩ :=
    streams_do_not_interfere ({} : DwellConfig Rat) Attempt.steadySources 7 start hapart
  refine ⟨hapart, hturn, hmixed, ?_, hsame _ _ hturn hmixed⟩
  rw [halone _ hmixed false]
  decide +kernel

end TransitDwell
