import TransitDwell.Proofs.EventLog
import TransitDwell.Service

/-!
# Runs of the service

What may be done with a service, each action at an instant of its own. Events may also be put into
its event store past the service, as a warm-up does. Whatever is done, the settings stay as they
are, and the event store holds a log (`Service.events_hold`). A prediction touches nothing but what
attempts keep and the metrics (`Service.predict_snd`).
-/

namespace TransitDwell

namespace Service

variable {α : Type} [Scalar α]

/-- What may be done with a service. -/
inductive Action where
  /-- An event comes. -/
  | ingestEvent (e : StopEvent)
  /-- A batch of passenger counts comes, and stop-days are visited in some order. -/
  | ingestCounts (scan : ScanOrder) (batch : List Observation)
  /-- A prediction is asked for. -/
  | predict (r : DwellRequest)
  /-- The feed of passenger counts is switched. -/
  | setEnabled (enabled : Bool)
  /-- Every store is swept. -/
  | evictAll
  /-- The event store is changed past the service. -/
  | onEvents (action : EventStore.Action)

/-- What a service answers. -/
inductive Reply where
  /-- The stop-day of an event that was accepted. -/
  | filed (day : Option StopDay)
  /-- One match for each observation. -/
  | matched (ms : List CountMatch)
  /-- A prediction. -/
  | predicted (prediction : Prediction)
  /-- The feed is switched. -/
  | switched
  /-- How much was removed. -/
  | evicted (report : EvictionReport)
  /-- What the event store answers. -/
  | onEvents (reply : EventStore.Reply)

/-- Carries out an action at an instant. -/
def act (s : Service α) : Int × Action → Reply × Service α
  | (now, .ingestEvent e) => (.filed (s.ingestEvent now e).1, (s.ingestEvent now e).2)
  | (now, .ingestCounts scan batch) =>
    (.matched (s.ingestCounts scan now batch).1, (s.ingestCounts scan now batch).2)
  | (now, .predict r) => (.predicted (s.predict now r).1, (s.predict now r).2)
  | (_, .setEnabled enabled) => (.switched, s.setEnabled enabled)
  | (now, .evictAll) => (.evicted (s.evictAll now).1, (s.evictAll now).2)
  | (now, .onEvents action) =>
    (.onEvents (s.events.act (now, action)).1,
      { s with events := (s.events.act (now, action)).2 })

/-- The service after a run from empty stores. -/
def afterRun (c : DwellConfig α) (actions : List (Int × Action)) : Service α :=
  Run.after act (new c) actions

/-! ### What an action touches -/

/-- A prediction changes what attempts keep, and the metrics. -/
theorem predict_snd (s : Service α) (now : Int) (r : DwellRequest) :
    (s.predict now r).2 =
      { s with
        stores := (Attempt.make s.config (s.sources now) now s.stores r).stores
        metrics :=
          s.metrics.noteAll (Attempt.make s.config (s.sources now) now s.stores r).marks } := by
  unfold predict Strategy.predict countsStrategy
  simp only
  cases (Attempt.make s.config (s.sources now) now s.stores r).outcome <;> rfl

/-- A prediction is what the attempt comes to or, where it declines, what the schedule allows. -/
theorem predict_fst (s : Service α) (now : Int) (r : DwellRequest) :
    (s.predict now r).1 =
      match (Attempt.make s.config (s.sources now) now s.stores r).outcome with
      | .predicted prediction => prediction
      | .declined _ => ⟨r.scheduledDwell.getD s.config.baselineDwell, .baseline⟩ := by
  unfold predict Strategy.predict countsStrategy
  simp only
  cases (Attempt.make s.config (s.sources now) now s.stores r).outcome <;> rfl

/-- An event changes the event store. -/
theorem ingestEvent_snd (s : Service α) (now : Int) (e : StopEvent) :
    (s.ingestEvent now e).2 = { s with events := (s.ingestEvent now e).2.events } := by
  unfold ingestEvent
  split <;> rfl

theorem act_config (s : Service α) (action : Int × Action) :
    (s.act action).2.config = s.config := by
  obtain ⟨now, action⟩ := action
  cases action with
  | ingestEvent e =>
    simp only [act]
    rw [ingestEvent_snd]
  | predict r => simp only [act, predict_snd]
  | _ => rfl

theorem afterRun_config (c : DwellConfig α) (actions : List (Int × Action)) :
    (afterRun c actions).config = c :=
  Run.invariant (P := fun s : Service α => s.config = c)
    (fun s action h => (act_config s action).trans h) rfl actions

/-- An action leaves the event store as it was or carries out a change to it. -/
theorem act_events (s : Service α) (action : Int × Action) :
    (s.act action).2.events = s.events ∨
      ∃ change, (s.act action).2.events = (s.events.act change).2 := by
  obtain ⟨now, action⟩ := action
  cases action with
  | ingestEvent e =>
    simp only [act, ingestEvent]
    split
    · exact .inl rfl
    · exact .inr ⟨(now, .put e), rfl⟩
  | ingestCounts scan batch => exact .inl rfl
  | predict r => exact .inl (by simp only [act, predict_snd])
  | setEnabled enabled => exact .inl rfl
  | evictAll => exact .inr ⟨(now, .evict), rfl⟩
  | onEvents change => exact .inr ⟨(now, change), rfl⟩

/-- An action leaves what attempts keep as it was, or sweeps it, or makes an attempt. -/
theorem act_stores (s : Service α) (action : Int × Action) :
    (s.act action).2.stores = s.stores ∨
      (s.act action).2.stores =
        ⟨(s.stores.filterErrors.evict action.1).2, (s.stores.contexts.evict action.1).2⟩ ∨
      ∃ r, (s.act action).2.stores =
        (Attempt.make s.config (s.sources action.1) action.1 s.stores r).stores := by
  obtain ⟨now, action⟩ := action
  cases action with
  | ingestEvent e =>
    simp only [act]
    rw [ingestEvent_snd]
    exact .inl rfl
  | ingestCounts scan batch => exact .inl rfl
  | predict r => exact .inr (.inr ⟨r, by simp only [act, predict_snd]⟩)
  | setEnabled enabled => exact .inl rfl
  | evictAll => exact .inr (.inl rfl)
  | onEvents change => exact .inl rfl

theorem act_events_hold {s : Service α} {retention : Int} {zone : Zone}
    (h : ∃ log, s.events.Holds retention zone log) (action : Int × Action) :
    ∃ log, (s.act action).2.events.Holds retention zone log := by
  obtain ⟨log, hlog⟩ := h
  rcases act_events s action with he | ⟨change, he⟩
  · exact ⟨log, he ▸ hlog⟩
  · exact ⟨_, he ▸ (hlog.act change).2⟩

end Service

end TransitDwell
