import Mathlib.Data.List.Forall2

/-!
# Runs

A machine carries out actions one after the other, answers each, and changes its state as it does.
`Run.answers` are its answers in their order and `Run.after` is the state that it is left in. What
every action preserves, every run preserves (`Run.invariant`), and what every action of a kind
preserves, every run of such actions does (`Run.invariant_of_forall`). Two machines that answer
alike and stay related, whatever the action, do so over every run (`Run.simulation`).
-/

namespace TransitDwell

namespace Run

variable {σ τ α β ρ : Type}

/-- The state after a list of actions. -/
def after (step : σ → α → ρ × σ) (s : σ) (actions : List α) : σ :=
  actions.foldl (fun s a => (step s a).2) s

/-- The answers to a list of actions. -/
def answers (step : σ → α → ρ × σ) : σ → List α → List ρ
  | _, [] => []
  | s, a :: as => (step s a).1 :: answers step (step s a).2 as

variable (step : σ → α → ρ × σ)

@[simp] theorem after_nil (s : σ) : after step s [] = s := rfl

@[simp] theorem after_cons (s : σ) (a : α) (as : List α) :
    after step s (a :: as) = after step (step s a).2 as := rfl

theorem after_append (s : σ) (as bs : List α) :
    after step s (as ++ bs) = after step (after step s as) bs :=
  List.foldl_append

@[simp] theorem answers_nil (s : σ) : answers step s [] = [] := rfl

@[simp] theorem answers_cons (s : σ) (a : α) (as : List α) :
    answers step s (a :: as) = (step s a).1 :: answers step (step s a).2 as := rfl

/-- The answers of a run are those to its actions, each after the actions before it. -/
theorem mem_answers_iff {s : σ} {actions : List α} {r : ρ} :
    r ∈ answers step s actions ↔
      ∃ before a later, actions = before ++ a :: later ∧ r = (step (after step s before) a).1 := by
  constructor
  · intro h
    induction actions generalizing s with
    | nil => cases h
    | cons a as ih =>
      rcases List.mem_cons.mp h with rfl | h
      · exact ⟨[], a, as, rfl, rfl⟩
      · obtain ⟨before, b, later, rfl, rfl⟩ := ih h
        exact ⟨a :: before, b, later, rfl, rfl⟩
  · rintro ⟨before, a, later, rfl, rfl⟩
    induction before generalizing s with
    | nil => exact List.mem_cons_self
    | cons b before ih => exact List.mem_cons_of_mem _ ih

variable {step}

/-- What every action of a kind preserves holds after every run of such actions. -/
theorem invariant_of_forall {P : σ → Prop} {Q : α → Prop}
    (hstep : ∀ s a, Q a → P s → P (step s a).2) {s : σ} (h : P s) {actions : List α}
    (hactions : ∀ a ∈ actions, Q a) : P (after step s actions) := by
  induction actions generalizing s with
  | nil => exact h
  | cons a as ih =>
    obtain ⟨ha, has⟩ := List.forall_mem_cons.mp hactions
    exact ih (hstep s a ha h) has

/-- What every action preserves holds after every run. -/
theorem invariant {P : σ → Prop} (hstep : ∀ s a, P s → P (step s a).2) {s : σ} (h : P s)
    (actions : List α) : P (after step s actions) :=
  invariant_of_forall (Q := fun _ => True) (fun s a _ => hstep s a) h fun _ _ => trivial

/-- Two machines whose states are related and which, on actions that correspond, answer alike and
stay related, answer alike over runs that correspond and are related after them. -/
theorem simulation {step' : τ → β → ρ × τ} {R : σ → τ → Prop} {S : α → β → Prop}
    (hstep : ∀ s t a b, R s t → S a b →
      (step s a).1 = (step' t b).1 ∧ R (step s a).2 (step' t b).2)
    {s : σ} {t : τ} (h : R s t) {as : List α} {bs : List β} (hs : List.Forall₂ S as bs) :
    answers step s as = answers step' t bs ∧ R (after step s as) (after step' t bs) := by
  induction hs generalizing s t with
  | nil => exact ⟨rfl, h⟩
  | cons hab _ ih =>
    obtain ⟨hanswer, hstate⟩ := hstep s t _ _ h hab
    obtain ⟨hanswers, hafter⟩ := ih hstate
    exact ⟨by rw [answers_cons, answers_cons, hanswer, hanswers], hafter⟩

/-- Two machines that answer every action alike and stay related answer every run alike. -/
theorem simulation_same {step' : τ → α → ρ × τ} {R : σ → τ → Prop}
    (hstep : ∀ s t a, R s t → (step s a).1 = (step' t a).1 ∧ R (step s a).2 (step' t a).2)
    {s : σ} {t : τ} (h : R s t) (actions : List α) :
    answers step s actions = answers step' t actions ∧
      R (after step s actions) (after step' t actions) := by
  refine simulation (S := Eq) (fun s t a b hR hab => ?_) h (List.forall₂_same.mpr fun _ _ => rfl)
  subst hab
  exact hstep s t a hR

end Run

end TransitDwell
