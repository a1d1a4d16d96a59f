import Mathlib.Tactic

/-!
Runs of a machine given by a partial step function: `step s e = none` means that
the event `e` cannot happen in the state `s`. The rules below carry a property
of one step over a whole run, also where only some steps are allowed.
-/
namespace Handover.Run
universe u v
variable {State : Type u} {Event : Type v}

/-- The state after the events, when each of them can happen in its turn. -/
def run (step : State → Event → Option State) : State → List Event → Option State
  | s, [] => some s
  | s, e :: rest => (step s e).bind (fun next => run step next rest)

/-- Every step of the run meets the condition, in the state before it. -/
def Steps (step : State → Event → Option State) (meets : State → Event → Prop) : State → List Event → Prop
  | _, [] => True
  | s, e :: rest => meets s e ∧ ∀ next, step s e = some next → Steps step meets next rest

/-- Every state of the run, the first one included, has the property. -/
def Always (step : State → Event → Option State) (holds : State → Prop) : State → List Event → Prop
  | s, [] => holds s
  | s, e :: rest => holds s ∧ ∀ next, step s e = some next → Always step holds next rest

variable {step : State → Event → Option State} {meets : State → Event → Prop} {holds : State → Prop}

@[simp] theorem run_nil (s : State) : run step s [] = some s := rfl

theorem run_cons (s final : State) (e : Event) (rest : List Event) :
    run step s (e :: rest) = some final ↔ ∃ next, step s e = some next ∧ run step next rest = some final := by
  simp [run,Option.bind_eq_some_iff]

theorem run_append (s final : State) (first second : List Event) :
    run step s (first ++ second) = some final ↔
      ∃ middle, run step s first = some middle ∧ run step middle second = some final := by
  induction first generalizing s with
  | nil => simp
  | cons e rest ih =>
    simp only [List.cons_append,run_cons,ih]
    constructor
    · rintro ⟨next,stepped,middle,early,late⟩
      exact ⟨middle,⟨next,stepped,early⟩,late⟩
    · rintro ⟨middle,⟨next,stepped,early⟩,late⟩
      exact ⟨next,stepped,middle,early,late⟩

/-- What every step that meets the condition preserves holds after the run. -/
theorem run_preserves (preserved : ∀ s e next, meets s e → holds s → step s e = some next → holds next)
    {s final : State} {events : List Event} (allowed : Steps step meets s events) (start : holds s)
    (ran : run step s events = some final) : holds final := by
  induction events generalizing s with
  | nil => simp only [run_nil,Option.some.injEq] at ran; exact ran ▸ start
  | cons e rest ih =>
    obtain ⟨next,stepped,onward⟩ := (run_cons s final e rest).mp ran
    exact ih (allowed.2 next stepped) (preserved s e next allowed.1 start stepped) onward

theorem steps_and {meets' : State → Event → Prop} {s : State} {events : List Event} (one : Steps step meets s events)
    (two : Steps step meets' s events) : Steps step (fun s e => meets s e ∧ meets' s e) s events := by
  induction events generalizing s with
  | nil => trivial
  | cons e rest ih => exact ⟨⟨one.1,two.1⟩,fun next stepped => ih (one.2 next stepped) (two.2 next stepped)⟩

/-- A condition that another one implies where an invariant holds. -/
theorem steps_imp {meets' : State → Event → Prop} {invariant : State → Prop}
    (preserved : ∀ s e next, invariant s → meets s e → step s e = some next → invariant next)
    (implied : ∀ s e, invariant s → meets s e → meets' s e) {s : State} {events : List Event} (start : invariant s)
    (steps : Steps step meets s events) : Steps step meets' s events := by
  induction events generalizing s with
  | nil => trivial
  | cons e rest ih =>
    exact ⟨implied s e start steps.1,
      fun next stepped => ih (preserved s e next start steps.1 stepped) (steps.2 next stepped)⟩

theorem steps_append {s middle : State} {first second : List Event} (allowed : Steps step meets s (first ++ second))
    (ran : run step s first = some middle) : Steps step meets s first ∧ Steps step meets middle second := by
  induction first generalizing s with
  | nil =>
    cases ran
    exact ⟨trivial,allowed⟩
  | cons e rest ih =>
    obtain ⟨next,stepped,onward⟩ := (run_cons s middle e rest).mp ran
    obtain ⟨early,late⟩ := ih (allowed.2 next stepped) onward
    refine ⟨⟨allowed.1,fun next' stepped' => ?_⟩,late⟩
    rw [stepped] at stepped'
    cases stepped'
    exact early

/-- A condition on the events alone is met by every step. -/
theorem steps_of_forall {meets : Event → Prop} {events : List Event} (all : ∀ e ∈ events, meets e) (s : State) :
    Steps step (fun _ e => meets e) s events := by
  induction events generalizing s with
  | nil => trivial
  | cons e rest ih =>
    exact ⟨all e (by simp),fun next _ => ih (fun e' later => all e' (by simp [later])) next⟩

/-- What every step preserves holds after every run. -/
theorem run_invariant (preserved : ∀ s e next, holds s → step s e = some next → holds next)
    {s final : State} {events : List Event} (start : holds s) (ran : run step s events = some final) :
    holds final := by
  induction events generalizing s with
  | nil => simp only [run_nil,Option.some.injEq] at ran; exact ran ▸ start
  | cons e rest ih =>
    obtain ⟨next,stepped,onward⟩ := (run_cons s final e rest).mp ran
    exact ih (preserved s e next start stepped) onward

/-- Allowed events until a state of rest. -/
def Drains (step : State → Event → Option State) (allowed : Event → Prop) (rests : State → Prop) (s final : State) : Prop :=
  ∃ events, (∀ e ∈ events, allowed e) ∧ run step s events = some final ∧ rests final

/-- Where no allowed event can happen, the state is the last. -/
theorem drains_stuck {allowed : Event → Prop} {rests : State → Prop} {s final : State}
    (stuck : ∀ e next, allowed e → step s e ≠ some next) (isRest : rests s) :
    Drains step allowed rests s final ↔ final = s := by
  constructor
  · rintro ⟨events,all,ran,_⟩
    cases events with
    | nil => exact (Option.some.inj ran).symm
    | cons e rest =>
      obtain ⟨next,stepped,_⟩ := (run_cons s final e rest).mp ran
      exact absurd stepped (stuck e next (all e (by simp)))
  · rintro rfl
    exact ⟨[],by simp,rfl,isRest⟩

/-- Where one allowed event can happen, it does. -/
theorem drains_only {allowed : Event → Prop} {rests : State → Prop} {s final : State} {e : Event} (isAllowed : allowed e)
    (only : ∀ e' next, allowed e' → step s e' = some next → e' = e) (busy : ¬ rests s) :
    Drains step allowed rests s final ↔ ∃ next, step s e = some next ∧ Drains step allowed rests next final := by
  constructor
  · rintro ⟨events,all,ran,isRest⟩
    cases events with
    | nil =>
      cases ran
      exact absurd isRest busy
    | cons e' rest =>
      obtain ⟨next,stepped,onward⟩ := (run_cons s final e' rest).mp ran
      have same := only e' next (all e' (by simp)) stepped
      subst same
      exact ⟨next,stepped,rest,fun e later => all e (by simp [later]),onward,isRest⟩
  · rintro ⟨next,stepped,events,all,ran,isRest⟩
    refine ⟨e :: events,?_,(run_cons s final e events).mpr ⟨next,stepped,ran⟩,isRest⟩
    intro e' member
    rcases List.mem_cons.mp member with rfl | later
    · exact isAllowed
    · exact all e' later

/-- A run whose end can be computed. -/
theorem exists_run {s : State} {events : List Event} {ends : State → Prop} [DecidablePred ends]
    (computed : (run step s events).any (fun final => decide (ends final)) = true) :
    ∃ final, run step s events = some final ∧ ends final := by
  cases ran : run step s events with
  | none => simp [ran] at computed
  | some final => exact ⟨final,rfl,by simpa [ran] using computed⟩

/-- The check that every step of a run passes. -/
def allSteps (step : State → Event → Option State) (check : State → Event → Bool) : State → List Event → Bool
  | _, [] => true
  | s, e :: rest => check s e && (step s e).all (fun next => allSteps step check next rest)

/-- Where a check implies the condition, a run that passes it meets the condition. -/
theorem steps_of_check {check : State → Event → Bool} (sound : ∀ s e, check s e = true → meets s e) {s : State}
    {events : List Event} (passes : allSteps step check s events = true) : Steps step meets s events := by
  induction events generalizing s with
  | nil => trivial
  | cons e rest ih =>
    simp only [allSteps,Bool.and_eq_true] at passes
    refine ⟨sound s e passes.1,fun next stepped => ih ?_⟩
    simpa [stepped] using passes.2

theorem always_start {s : State} {events : List Event} (always : Always step holds s events) : holds s := by
  cases events with
  | nil => exact always
  | cons e rest => exact always.1

/-- A property that another one implies where an invariant holds. -/
theorem always_imp {holds' invariant : State → Prop}
    (preserved : ∀ s e next, invariant s → step s e = some next → invariant next)
    (implied : ∀ s, invariant s → holds s → holds' s) {s : State} {events : List Event} (start : invariant s)
    (always : Always step holds s events) : Always step holds' s events := by
  induction events generalizing s with
  | nil => exact implied s start always
  | cons e rest ih =>
    exact ⟨implied s start always.1,
      fun next stepped => ih (preserved s e next start stepped) (always.2 next stepped)⟩

theorem always_final {s final : State} {events : List Event} (always : Always step holds s events)
    (ran : run step s events = some final) : holds final := by
  induction events generalizing s with
  | nil => simp only [run_nil,Option.some.injEq] at ran; exact ran ▸ always
  | cons e rest ih =>
    obtain ⟨next,stepped,onward⟩ := (run_cons s final e rest).mp ran
    exact ih (always.2 next stepped) onward

/-- Where a step keeps the property exactly when it meets the condition, and no step
    restores it, the last state has it only if every step met the condition. -/
theorem final_iff_steps {invariant : State → Prop}
    (exact_step : ∀ s e next, invariant s → step s e = some next → invariant next ∧ (holds next ↔ holds s ∧ meets s e))
    {s final : State} {events : List Event} (start : invariant s) (ran : run step s events = some final) :
    holds final ↔ holds s ∧ Steps step meets s events := by
  induction events generalizing s with
  | nil =>
    cases ran
    exact (and_iff_left trivial).symm
  | cons e rest ih =>
    obtain ⟨next,stepped,onward⟩ := (run_cons s final e rest).mp ran
    obtain ⟨kept,one⟩ := exact_step s e next start stepped
    have later : (∀ next', step s e = some next' → Steps step meets next' rest) ↔ Steps step meets next rest :=
      ⟨fun all => all next stepped,fun steps next' stepped' => Option.some.inj (stepped.symm.trans stepped') ▸ steps⟩
    rw [ih kept onward,one,Steps,later,and_assoc]

/-- Where a step keeps the property exactly when it meets the condition, the
    runs that keep it are those whose steps all meet the condition. -/
theorem always_iff_steps (exact_step : ∀ s e next, holds s → step s e = some next → (holds next ↔ meets s e))
    {s final : State} {events : List Event} (start : holds s) (ran : run step s events = some final) :
    Always step holds s events ↔ Steps step meets s events := by
  induction events generalizing s with
  | nil => exact ⟨fun _ => trivial,fun _ => start⟩
  | cons e rest ih =>
    obtain ⟨next,stepped,onward⟩ := (run_cons s final e rest).mp ran
    have one := exact_step s e next start stepped
    have only : ∀ next', step s e = some next' → next' = next :=
      fun next' stepped' => Option.some.inj (stepped'.symm.trans stepped)
    constructor
    · rintro ⟨_,later⟩
      have kept : holds next := always_start (later next stepped)
      refine ⟨one.mp kept,fun next' stepped' => ?_⟩
      rw [only next' stepped']
      exact (ih kept onward).mp (later next stepped)
    · rintro ⟨met,later⟩
      refine ⟨start,fun next' stepped' => ?_⟩
      rw [only next' stepped']
      exact (ih (one.mpr met) onward).mpr (later next stepped)

/-- The same for a property that follows from an invariant, which a step that meets the
    condition keeps. -/
theorem always_iff_steps_of {invariant : State → Prop} (implied : ∀ s, invariant s → holds s)
    (exact_step : ∀ s e next, invariant s → step s e = some next →
      (holds next ↔ meets s e) ∧ (meets s e → invariant next))
    {s final : State} {events : List Event} (start : invariant s) (ran : run step s events = some final) :
    Always step holds s events ↔ Steps step meets s events := by
  induction events generalizing s with
  | nil => exact ⟨fun _ => trivial,fun _ => implied s start⟩
  | cons e rest ih =>
    obtain ⟨next,stepped,onward⟩ := (run_cons s final e rest).mp ran
    obtain ⟨one,kept⟩ := exact_step s e next start stepped
    have only : ∀ {holds : State → Prop}, (∀ next', step s e = some next' → holds next') ↔ holds next :=
      ⟨fun all => all next stepped,fun here next' stepped' => Option.some.inj (stepped.symm.trans stepped') ▸ here⟩
    rw [Always,Steps,only,only,and_iff_right (implied s start)]
    constructor
    · intro always
      have met := one.mp (always_start always)
      exact ⟨met,(ih (kept met) onward).mp always⟩
    · rintro ⟨met,steps⟩
      exact (ih (kept met) onward).mpr steps

end Handover.Run
