import TransitDwell.Proofs.HistorySweep
import TransitDwell.Proofs.ServiceRun

/-!
# Runs of the service and of its history

The passenger history of a service may also be used past the service: matches may be recorded in it,
whatever they are and whatever events are held at the time, its feed may be switched, and it may be
swept by itself, at instants that have nothing to do with each other.

Whatever is done, the history keeps to the settings of its service, and a day comes to have a total
only by an event that stands on it (`Service.RunsBy`, `Service.runsBy_afterOpenRun`).
-/

namespace TransitDwell

namespace Service

variable {α : Type} [Scalar α]

/-! ### What an action does to the history -/

/-- An action leaves the history as it was, or uses it beside the events that are held. -/
theorem act_history (s : Service α) (action : Int × Action) :
    (s.act action).2.history = s.history ∨
      ∃ change, (s.act action).2.history =
        (PassengerHistory.act s.events s.history (action.1, change)).2 := by
  obtain ⟨now, action⟩ := action
  cases action with
  | ingestEvent e =>
    simp only [act]
    rw [ingestEvent_snd]
    exact .inl rfl
  | ingestCounts scan batch =>
    exact .inr ⟨.record s.events.days (s.matchBatch scan now batch), rfl⟩
  | predict r => exact .inl (by simp only [act, predict_snd])
  | setEnabled enabled => exact .inr ⟨.switch enabled, rfl⟩
  | evictAll => exact .inr ⟨.evict, rfl⟩
  | onEvents change => exact .inl rfl

/-- What hangs neither on the totals nor on the switch is not changed by using a service. -/
theorem act_history_rule {β : Type} (rule : PassengerHistory α → β)
    (htotals : ∀ h totals, rule { h with totals := totals } = rule h)
    (henabled : ∀ h enabled, rule { h with enabled := enabled } = rule h) (s : Service α)
    (action : Int × Action) : rule (s.act action).2.history = rule s.history := by
  rcases s.act_history action with hsame | ⟨change, hchanged⟩
  · rw [hsame]
  · rw [hchanged]
    exact PassengerHistory.act_rule rule htotals henabled s.events s.history (action.1, change)

/-- What may be done with a service, and with its history past it. -/
inductive OpenAction where
  /-- The service is used. -/
  | onService (action : Action)
  /-- Its history is used. -/
  | onHistory (change : PassengerHistory.Action)

/-- Carries out an action at an instant. -/
def openAct (s : Service α) : Int × OpenAction → Unit × Service α
  | (now, .onService action) => ((), (s.act (now, action)).2)
  | (now, .onHistory change) =>
    ((), { s with history := (PassengerHistory.act s.events s.history (now, change)).2 })

/-- The service after a run from empty stores. -/
def afterOpenRun (c : DwellConfig α) (actions : List (Int × OpenAction)) : Service α :=
  Run.after openAct (new c) actions

/-! ### What every action preserves -/

/-- Whether a day can have a total: its date is shown at some instant. -/
def IsShown (zone : Zone) (day : RouteStopDay) : Prop := ∃ ts, zone.serviceDate ts = some day.date

/-- A service runs by its settings. -/
structure RunsBy (c : DwellConfig α) (s : Service α) : Prop where
  /-- The settings stay as they are. -/
  config : s.config = c
  /-- The event store holds a log. -/
  events : ∃ log, s.events.Holds c.retentionMs c.zone log
  /-- As many days are searched for a rate. -/
  lookbackDays : s.history.lookbackDays = lookbackDays c
  /-- Totals are kept for as long. -/
  retention : s.history.retention = c.retentionMs
  /-- Days that have a total are shown. -/
  shown : s.history.totals.Each fun day _ => IsShown c.zone day

theorem runsBy_new (c : DwellConfig α) : RunsBy c (new c) :=
  ⟨rfl, ⟨[], EventStore.holds_empty _ _⟩, rfl, rfl, .empty⟩

namespace RunsBy

variable {c : DwellConfig α} {s : Service α}

theorem zone_eq (h : RunsBy c s) : s.events.zone = c.zone := by
  obtain ⟨log, hlog⟩ := h.events
  exact hlog.zone_eq

/-- Events stand on days that are shown. -/
theorem shown_recordAll (h : RunsBy c s) (events : EventStore) (hzone : events.zone = c.zone)
    (now : Int) (ms : List CountMatch) :
    (s.history.recordAll events now ms).2.totals.Each fun day _ => IsShown c.zone day := by
  refine PassengerHistory.each_recordAll h.shown now fun m _ e _ day hday => ?_
  obtain ⟨date, hdate, rfl⟩ := Option.map_eq_some_iff.mp hday
  exact ⟨e.time, hzone ▸ hdate⟩

theorem shown_act (h : RunsBy c s) (change : Int × PassengerHistory.Action) :
    (PassengerHistory.act s.events s.history change).2.totals.Each fun day _ =>
      IsShown c.zone day := by
  obtain ⟨now, change⟩ := change
  cases change with
  | record days ms => exact h.shown_recordAll { s.events with days := days } h.zone_eq now ms
  | switch enabled => exact h.shown
  | evict => exact PassengerHistory.each_evict h.shown s.events now

theorem act (h : RunsBy c s) (action : Int × Action) : RunsBy c (s.act action).2 where
  config := (act_config s action).trans h.config
  events := act_events_hold h.events action
  lookbackDays :=
    (act_history_rule (·.lookbackDays) (fun _ _ => rfl) (fun _ _ => rfl) s action).trans
      h.lookbackDays
  retention :=
    (act_history_rule (·.retention) (fun _ _ => rfl) (fun _ _ => rfl) s action).trans h.retention
  shown := by
    rcases s.act_history action with hsame | ⟨change, hchanged⟩
    · rw [hsame]
      exact h.shown
    · rw [hchanged]
      exact h.shown_act (action.1, change)

theorem onHistory (h : RunsBy c s) (change : Int × PassengerHistory.Action) :
    RunsBy c { s with history := (PassengerHistory.act s.events s.history change).2 } where
  config := h.config
  events := h.events
  lookbackDays :=
    (PassengerHistory.act_rule (·.lookbackDays) (fun _ _ => rfl) (fun _ _ => rfl) s.events
      s.history change).trans h.lookbackDays
  retention :=
    (PassengerHistory.act_rule (·.retention) (fun _ _ => rfl) (fun _ _ => rfl) s.events s.history
      change).trans h.retention
  shown := h.shown_act change

theorem openAct (h : RunsBy c s) (action : Int × OpenAction) : RunsBy c (s.openAct action).2 := by
  obtain ⟨now, action⟩ := action
  cases action with
  | onService action => exact h.act (now, action)
  | onHistory change => exact h.onHistory (now, change)

end RunsBy

/-- Whatever is done with a service and with its history, it runs by its settings. -/
theorem runsBy_afterOpenRun (c : DwellConfig α) (actions : List (Int × OpenAction)) :
    RunsBy c (afterOpenRun c actions) :=
  Run.invariant (fun _ action h => h.openAct action) (runsBy_new c) actions

end Service

end TransitDwell
