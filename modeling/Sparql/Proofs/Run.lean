import Sparql.Proofs.Outcome

/-!
# Running a call

A part of a session or of an exchange is run on a state and comes to an outcome and a state after it. This
file says what these are for the ways in which parts are put together.

Two outcomes agree if both are failures, whatever the failures are, or both are results that are related. Two parts
of what changes a state agree if, run on the same state, they leave the same state and come to the same result or
both fail.
-/

namespace Sparql

section OneRun

variable {σ α β : Type}

/-- A part of what changes a state and may fail. -/
abbrev Run (σ α : Type) := ExceptT Failure (StateM σ) α

/-- The outcome of a run, and the state after it. -/
def perform (run : Run σ α) (state : σ) : Outcome α × σ := (ExceptT.run run).run state

@[simp]
theorem perform_pure (value : α) (state : σ) :
    perform (pure value) state = (.ok value, state) := rfl

@[simp]
theorem perform_throw (failure : Failure) (state : σ) :
    perform (throw failure : Run σ α) state = (.error failure, state) := rfl

theorem perform_bind (run : Run σ α) (rest : α → Run σ β) (state : σ) :
    perform (run >>= rest) state =
      match perform run state with
      | (.ok value, after) => perform (rest value) after
      | (.error failure, after) => (.error failure, after) := by
  unfold perform ExceptT.run StateT.run
  simp only [bind, ExceptT.bind, ExceptT.mk, StateT.bind]
  rcases run state with ⟨_ | _, _⟩ <;> rfl

theorem perform_bind_ok {run : Run σ α} {rest : α → Run σ β} {state after : σ} {value : α}
    (done : perform run state = (.ok value, after)) :
    perform (run >>= rest) state = perform (rest value) after := by
  rw [perform_bind, done]

theorem perform_bind_error {run : Run σ α} {rest : α → Run σ β} {state after : σ}
    {failure : Failure} (failed : perform run state = (.error failure, after)) :
    perform (run >>= rest) state = (.error failure, after) := by
  rw [perform_bind, failed]

/-- What succeeds is put together of parts that do. -/
theorem perform_bind_eq_ok {run : Run σ α} {rest : α → Run σ β} {state after : σ} {result : β} :
    perform (run >>= rest) state = (.ok result, after) ↔
      ∃ value middle, perform run state = (.ok value, middle) ∧
        perform (rest value) middle = (.ok result, after) := by
  rw [perform_bind]
  rcases perform run state with ⟨_ | value, middle⟩
  · simp
  · constructor
    · exact fun done => ⟨value, middle, rfl, done⟩
    · rintro ⟨_, _, ⟨⟩, done⟩
      exact done

@[simp]
theorem perform_get (state : σ) : perform get state = (.ok state, state) := rfl

@[simp]
theorem perform_set (after state : σ) : perform (set after) state = (.ok (), after) := rfl

@[simp]
theorem perform_modify (change : σ → σ) (state : σ) :
    perform (modify change) state = (.ok (), change state) := rfl

theorem perform_tryCatch (run : Run σ α) (handle : Failure → Run σ α) (state : σ) :
    perform (tryCatch run handle) state =
      match perform run state with
      | (.ok value, after) => (.ok value, after)
      | (.error failure, after) => perform (handle failure) after := by
  unfold perform ExceptT.run StateT.run
  simp only [tryCatch, tryCatchThe, MonadExceptOf.tryCatch, ExceptT.tryCatch, ExceptT.mk, bind,
    StateT.bind]
  rcases run state with ⟨_ | _, _⟩ <;> rfl

theorem perform_tryFinally (run : Run σ α) (change : σ → σ) (state : σ) :
    perform (tryFinally run (modify change)) state =
      ((perform run state).1, change (perform run state).2) := by
  unfold perform ExceptT.run StateT.run tryFinally
  simp only [Functor.map, ExceptT.map, ExceptT.mk, bind, StateT.bind, tryFinally']
  rcases run state with ⟨_ | _, _⟩ <;> rfl

/-! ## Runs that succeed -/

/-- The result of a run and the state after it, unless the run fails. -/
def perform? (run : Run σ α) (state : σ) : Option (α × σ) :=
  match perform run state with
  | (.ok value, after) => some (value, after)
  | (.error _, _) => none

@[simp]
theorem perform?_pure (value : α) (state : σ) : perform? (pure value : Run σ α) state = some (value, state) := rfl

@[simp]
theorem perform?_get (state : σ) : perform? (get : Run σ σ) state = some (state, state) := rfl

theorem perform?_bind (run : Run σ α) (rest : α → Run σ β) (state : σ) :
    perform? (run >>= rest) state = (perform? run state).bind fun done => perform? (rest done.1) done.2 := by
  unfold perform?
  rw [perform_bind]
  rcases perform run state with ⟨_ | _, _⟩ <;> rfl

end OneRun

/-! ## Two runs side by side -/

section TwoRuns

variable {α β γ δ σ : Type}

namespace Outcome

/-- Both outcomes are failures, or both are results that are related. -/
inductive Agree (related : α → β → Prop) : Outcome α → Outcome β → Prop
  | failed {failure other : Failure} : Agree related (.error failure) (.error other)
  | done {first : α} {second : β} (isRelated : related first second) : Agree related (.ok first) (.ok second)

variable {related : α → β → Prop} {leads : γ → δ → Prop} {first : Outcome α} {second : Outcome β}

theorem agree_refl (outcome : Outcome α) : Agree (· = ·) outcome outcome := by
  cases outcome with
  | error => exact .failed
  | ok => exact .done rfl

theorem agree_refuse {cause other : ConstructionError} : Agree related (refuse cause) (refuse other) := .failed

theorem Agree.mono {wider : α → β → Prop} (agree : Agree related first second)
    (weaken : ∀ value other, related value other → wider value other) : Agree wider first second := by
  cases agree with
  | failed => exact .failed
  | done isRelated => exact .done (weaken _ _ isRelated)

theorem Agree.bind {rest : α → Outcome γ} {others : β → Outcome δ} (agree : Agree related first second)
    (restAgree : ∀ value other, related value other → Agree leads (rest value) (others other)) :
    Agree leads (first >>= rest) (second >>= others) := by
  cases agree with
  | failed => exact .failed
  | done isRelated => exact restAgree _ _ isRelated

theorem Agree.map {f : α → γ} {g : β → δ} (agree : Agree related first second)
    (leadsTo : ∀ value other, related value other → leads (f value) (g other)) :
    Agree leads (first.map f) (second.map g) := by
  cases agree with
  | failed => exact .failed
  | done isRelated => exact .done (leadsTo _ _ isRelated)

theorem Agree.bind_eq {outcome other : Outcome α} {rest others : α → Outcome γ} (agree : Agree (· = ·) outcome other)
    (restAgree : ∀ value, Agree (· = ·) (rest value) (others value)) :
    Agree (· = ·) (outcome >>= rest) (other >>= others) := by
  apply agree.bind
  rintro value _ rfl
  exact restAgree value

theorem Agree.map_eq {outcome other : Outcome α} {f : α → γ} (agree : Agree (· = ·) outcome other) :
    Agree (· = ·) (outcome.map f) (other.map f) :=
  agree.map fun _ _ isEqual => congrArg f isEqual

/-- Lists whose items are related pairwise are read alike if related items are. -/
theorem Agree.mapM {read : α → Outcome γ} {readOther : β → Outcome δ} {items : List α} {others : List β}
    (areRelated : List.Forall₂ related items others)
    (agree : ∀ item other, related item other → Agree leads (read item) (readOther other)) :
    Agree (List.Forall₂ leads) (items.mapM read) (others.mapM readOther) := by
  induction areRelated with
  | nil => exact .done .nil
  | cons isRelated _ ih =>
      rw [List.mapM_cons, List.mapM_cons]
      apply (agree _ _ isRelated).bind
      intro value other first
      apply ih.bind
      intro rest others areRelated
      exact .done (.cons first areRelated)

theorem Agree.mapM_eq {read : α → Outcome γ} {readOther : β → Outcome γ} {items : List α} {others : List β}
    (areRelated : List.Forall₂ related items others)
    (agree : ∀ item other, related item other → Agree (· = ·) (read item) (readOther other)) :
    Agree (· = ·) (items.mapM read) (others.mapM readOther) := by
  have all := Agree.mapM areRelated agree
  rw [List.forall₂_eq_eq_eq] at all
  exact all

end Outcome

open Outcome

/-! ### Parts that change a state -/

/-- From every state, both parts leave the same state, and come to the same result or both fail. -/
def Run.Agree (run other : Run σ α) : Prop :=
  ∀ state, Outcome.Agree (· = ·) (perform run state).1 (perform other state).1 ∧
    (perform run state).2 = (perform other state).2

namespace Run

variable {run other : Run σ α} {rest others : α → Run σ β}

theorem agree_refl (run : Run σ α) : run.Agree run := fun _ => ⟨Outcome.agree_refl _, rfl⟩

theorem Agree.bind (agree : run.Agree other) (restAgree : ∀ value, (rest value).Agree (others value)) :
    Run.Agree (run >>= rest) (other >>= others) := by
  intro state
  have agrees := agree state
  rw [perform_bind, perform_bind]
  generalize perform run state = done at agrees
  generalize perform other state = otherDone at agrees
  rcases done with ⟨outcome, after⟩
  rcases otherDone with ⟨otherOutcome, otherAfter⟩
  rcases agrees with ⟨outcomes, rfl⟩
  cases outcomes with
  | failed => exact ⟨.failed, rfl⟩
  | done isEqual =>
      cases isEqual
      exact restAgree _ after

/-- What is done first is the same. -/
theorem agree_bind (run : Run σ α) (restAgree : ∀ value, (rest value).Agree (others value)) :
    Run.Agree (run >>= rest) (run >>= others) :=
  (agree_refl run).bind restAgree

theorem Agree.tryFinally (agree : run.Agree other) (change : σ → σ) :
    Run.Agree (tryFinally run (modify change)) (tryFinally other (modify change)) := by
  intro state
  rcases agree state with ⟨outcomes, states⟩
  rw [perform_tryFinally, perform_tryFinally]
  exact ⟨outcomes, congrArg change states⟩

end Run

end TwoRuns

end Sparql
