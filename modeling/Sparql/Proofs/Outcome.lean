import Mathlib.Data.List.Forall2
import Sparql.Failure
import Sparql.Value.Signature

/-!
# Outcomes of calls

What a call that returned says about the calls it is made of, and how a call can fail.

A call that is refused, or that is misuse, fails in another way than an exchange does. What is put together of
parts fails as one of its parts does.
-/

namespace Sparql.Outcome

universe u

variable {ε : Type} {α β : Type u}

@[simp]
theorem pure_eq_ok {value result : α} : (pure value : Except ε α) = .ok result ↔ value = result := by
  simp [pure, Except.pure]

@[simp]
theorem throw_ne_ok {failure : ε} {result : α} : (throw failure : Except ε α) ≠ .ok result := by
  rintro ⟨⟩

@[simp]
theorem misuse_ne_ok {α : Type} {fault : Fault} {result : α} : misuse fault ≠ .ok result := by
  rintro ⟨⟩

@[simp]
theorem refuse_ne_ok {α : Type} {cause : ConstructionError} {result : α} :
    refuse cause ≠ .ok result := by
  rintro ⟨⟩

@[simp]
theorem bind_eq_ok {first : Except ε α} {rest : α → Except ε β} {result : β} :
    (first >>= rest) = .ok result ↔ ∃ value, first = .ok value ∧ rest value = .ok result := by
  cases first with
  | error failure =>
      constructor
      · rintro ⟨⟩
      · rintro ⟨_, ⟨⟩, _⟩
  | ok value =>
      constructor
      · intro done
        exact ⟨value, rfl, done⟩
      · rintro ⟨_, ⟨⟩, done⟩
        exact done

@[simp]
theorem map_eq_ok {first : Except ε α} {f : α → β} {result : β} :
    first.map f = .ok result ↔ ∃ value, first = .ok value ∧ f value = result := by
  cases first <;> simp [Except.map]

theorem ofRender_eq_ok {γ : Type} {rendered : Except RenderError γ} {result : γ} :
    ofRender rendered = .ok result ↔ rendered = .ok result := by
  cases rendered <;> simp [ofRender, misuse]

/-- A list is read exactly when each of its items is. -/
theorem mapM_eq_ok {read : α → Except ε β} {items : List α} {results : List β} :
    items.mapM read = .ok results ↔
      List.Forall₂ (fun item result => read item = .ok result) items results := by
  induction items generalizing results with
  | nil =>
      simp only [List.mapM_nil, pure_eq_ok, List.forall₂_nil_left_iff]
      exact eq_comm
  | cons item rest ih =>
      simp only [List.mapM_cons, bind_eq_ok, pure_eq_ok, List.forall₂_cons_left_iff]
      constructor
      · rintro ⟨result, done, others, othersDone, rfl⟩
        exact ⟨result, others, done, ih.mp othersDone, rfl⟩
      · rintro ⟨result, others, done, othersDone, rfl⟩
        exact ⟨result, done, others, ih.mpr othersDone, rfl⟩

/-- What holds of every item that can be read holds of all items of a list that is read. -/
theorem forall_of_mapM {read : α → Except ε β} {items : List α} {results : List β} {holds : β → Prop}
    (done : items.mapM read = .ok results)
    (each : ∀ item result, read item = .ok result → holds result) :
    ∀ result ∈ results, holds result := by
  have related := mapM_eq_ok.mp done
  induction related with
  | nil => simp
  | cons first _ ih =>
      simp only [List.mem_cons, forall_eq_or_imp]
      exact ⟨each _ _ first, ih (mapM_eq_ok.mpr ‹_›)⟩

/-- What every item that is read keeps, a list that is read keeps. -/
theorem map_eq_of_mapM {γ : Type} {read : α → Except ε β} {items : List α} {results : List β} {ofItem : α → γ}
    {ofResult : β → γ} (done : items.mapM read = .ok results)
    (each : ∀ item result, read item = .ok result → ofResult result = ofItem item) :
    results.map ofResult = items.map ofItem := by
  have related := mapM_eq_ok.mp done
  induction related with
  | nil => rfl
  | cons first _ ih => rw [List.map_cons, List.map_cons, each _ _ first, ih (mapM_eq_ok.mpr ‹_›)]

theorem exists_of_mem_mapM {read : α → Except ε β} {items : List α} {results : List β} {result : β}
    (done : items.mapM read = .ok results) (mem : result ∈ results) : ∃ item ∈ items, read item = .ok result := by
  have related := mapM_eq_ok.mp done
  induction related with
  | nil => cases mem
  | cons first _ ih =>
      rcases List.mem_cons.mp mem with rfl | mem
      · exact ⟨_, .head _, first⟩
      · rcases ih (mapM_eq_ok.mpr ‹_›) mem with ⟨item, isItem, isRead⟩
        exact ⟨item, .tail _ isItem, isRead⟩

theorem exists_of_mapM_mem {read : α → Except ε β} {items : List α} {results : List β} {item : α}
    (done : items.mapM read = .ok results) (mem : item ∈ items) : ∃ result ∈ results, read item = .ok result := by
  have related := mapM_eq_ok.mp done
  induction related with
  | nil => cases mem
  | cons first _ ih =>
      rcases List.mem_cons.mp mem with rfl | mem
      · exact ⟨_, .head _, first⟩
      · rcases ih (mapM_eq_ok.mpr ‹_›) mem with ⟨result, isResult, isRead⟩
        exact ⟨result, .tail _ isResult, isRead⟩

theorem mapM_eq_map {read : α → Except ε β} {value : α → β} {items : List α}
    (each : ∀ item ∈ items, read item = .ok (value item)) : items.mapM read = .ok (items.map value) := by
  induction items with
  | nil => rfl
  | cons item rest ih =>
      rw [List.mapM_cons, each item (.head _), ih fun other mem => each other (.tail _ mem)]
      rfl

/-! ## Calls that fail -/

theorem pure_ne_error {value : α} {failure : ε} : (pure value : Except ε α) ≠ .error failure := by
  rintro ⟨⟩

theorem misuse_eq_error {α : Type} {fault : Fault} {failure : Failure} :
    (misuse fault : Outcome α) = .error failure ↔ failure = .fault fault := by
  simp [misuse, eq_comm]

theorem bind_eq_error {first : Except ε α} {rest : α → Except ε β} {failure : ε} :
    (first >>= rest) = .error failure ↔
      first = .error failure ∨ ∃ value, first = .ok value ∧ rest value = .error failure := by
  cases first with
  | error other =>
      constructor
      · rintro ⟨⟩
        exact .inl rfl
      · rintro (⟨⟨⟩⟩ | ⟨_, ⟨⟩, _⟩)
        rfl
  | ok value =>
      constructor
      · intro failed
        exact .inr ⟨value, rfl, failed⟩
      · rintro (⟨⟨⟩⟩ | ⟨_, ⟨⟩, failed⟩)
        exact failed

theorem bind_eq_error_of_ok {first : Except ε α} {rest : α → Except ε β} {value : α} {failure : ε}
    (done : first = .ok value) (failed : rest value = .error failure) : (first >>= rest) = .error failure :=
  bind_eq_error.mpr (.inr ⟨value, done, failed⟩)

theorem map_eq_error {first : Except ε α} {f : α → β} {failure : ε} :
    first.map f = .error failure ↔ first = .error failure := by
  cases first <;> simp [Except.map]

/-- One item of a list fails, and all items before it are read. -/
def FirstFails (read : α → Except ε β) (items : List α) (failure : ε) : Prop :=
  ∃ before item after, items = before ++ item :: after ∧
    (∀ earlier ∈ before, ∃ result, read earlier = .ok result) ∧ read item = .error failure

/-- A list is not read exactly when one of its items is the first that fails. -/
theorem mapM_eq_error {read : α → Except ε β} {items : List α} {failure : ε} :
    items.mapM read = .error failure ↔ FirstFails read items failure := by
  induction items with
  | nil => simp [FirstFails, pure_ne_error]
  | cons item rest ih =>
      simp only [List.mapM_cons, bind_eq_error, pure_ne_error, and_false, exists_false, or_false, ih]
      constructor
      · rintro (failed | ⟨result, isRead, before, other, after, rfl, areRead, failed⟩)
        · exact ⟨[], item, rest, rfl, by simp, failed⟩
        · exact ⟨item :: before, other, after, rfl, by simpa using ⟨⟨result, isRead⟩, areRead⟩, failed⟩
      · rintro ⟨before, other, after, isList, areRead, failed⟩
        cases before with
        | nil =>
            cases isList
            exact .inl failed
        | cons first before =>
            cases isList
            rcases areRead item (.head _) with ⟨result, isRead⟩
            exact .inr ⟨result, isRead, before, other, after, rfl,
              fun earlier mem => areRead earlier (.tail _ mem), failed⟩

/-! ## Whether a call succeeds -/

theorem isOk_map {first : Except ε α} {f : α → β} : (first.map f).isOk = first.isOk := by
  cases first <;> rfl

/-- What follows succeeds or fails whatever it is given. -/
theorem isOk_bind {first : Except ε α} {rest : α → Except ε β} {succeeds : Bool}
    (same : ∀ value, (rest value).isOk = succeeds) :
    (first >>= rest).isOk = (first.isOk && succeeds) := by
  cases first with
  | error failure => rfl
  | ok value => exact same value

theorem isOk_bind_pure {first : Except ε α} {f : α → β} :
    (first >>= fun value => pure (f value)).isOk = first.isOk := by
  cases first <;> rfl

theorem isOk_mapM {read : α → Except ε β} {items : List α} :
    (items.mapM read).isOk = items.all fun item => (read item).isOk := by
  induction items with
  | nil => rfl
  | cons item rest ih =>
      rw [List.mapM_cons, List.all_cons, ← ih]
      exact isOk_bind fun _ => isOk_bind_pure

end Sparql.Outcome

/-! ## How a call can fail -/

namespace Sparql

namespace Failure

/-- Whether a failure comes out of the transport or the decoder. -/
def isExchanged : Failure → Bool
  | transport .. | protocol .. => true
  | construction _ | configuration _ | fault _ => false

/-- A failure of a call that exchanges nothing. -/
def IsUnsent (failure : Failure) : Prop := failure.isExchanged = false

/-- Misuse. -/
def IsFault (failure : Failure) : Prop := ∃ cause, failure = fault cause

theorem IsFault.isUnsent {failure : Failure} (isFault : failure.IsFault) : failure.IsUnsent := by
  rcases isFault with ⟨cause, rfl⟩
  rfl

end Failure

namespace Outcome

variable {ε : Type} {α β : Type} {allowed : ε → Prop}

/-- Whatever a call fails with is allowed. -/
def FailsOnly (allowed : ε → Prop) (outcome : Except ε α) : Prop :=
  ∀ failure, outcome = .error failure → allowed failure

theorem failsOnly_ok {value : α} : FailsOnly allowed (.ok value : Except ε α) := by
  rintro _ ⟨⟩

theorem failsOnly_error {failure : ε} (isAllowed : allowed failure) :
    FailsOnly allowed (.error failure : Except ε α) := by
  rintro _ ⟨⟩
  exact isAllowed

/-- What follows need only be looked at for what the first part gives. -/
theorem FailsOnly.bind_of_ok {first : Except ε α} {rest : α → Except ε β} (failsOnly : FailsOnly allowed first)
    (restFailsOnly : ∀ value, first = .ok value → FailsOnly allowed (rest value)) :
    FailsOnly allowed (first >>= rest) := by
  intro failure failed
  rcases bind_eq_error.mp failed with failed | ⟨value, isValue, failed⟩
  · exact failsOnly failure failed
  · exact restFailsOnly value isValue failure failed

theorem FailsOnly.bind {first : Except ε α} {rest : α → Except ε β} (failsOnly : FailsOnly allowed first)
    (restFailsOnly : ∀ value, FailsOnly allowed (rest value)) : FailsOnly allowed (first >>= rest) :=
  failsOnly.bind_of_ok fun value _ => restFailsOnly value

/-- A first part that succeeds does not count. -/
theorem failsOnly_bind_of_eq_ok {first : Except ε α} {rest : α → Except ε β} {value : α} (done : first = .ok value)
    (restFailsOnly : FailsOnly allowed (rest value)) : FailsOnly allowed (first >>= rest) := by
  rw [done]
  exact restFailsOnly

theorem FailsOnly.map {first : Except ε α} {f : α → β} (failsOnly : FailsOnly allowed first) :
    FailsOnly allowed (first.map f) := by
  intro failure failed
  exact failsOnly failure (map_eq_error.mp failed)

theorem failsOnly_foldlM {step : β → α → Except ε β} {items : List α} {initial : β}
    (failsOnly : ∀ sum item, FailsOnly allowed (step sum item)) : FailsOnly allowed (items.foldlM step initial) := by
  induction items generalizing initial with
  | nil => exact failsOnly_ok
  | cons item rest ih =>
      rw [List.foldlM_cons]
      exact (failsOnly initial item).bind fun _ => ih

theorem FailsOnly.mono {weaker : ε → Prop} {outcome : Except ε α} (failsOnly : FailsOnly allowed outcome)
    (weaken : ∀ failure, allowed failure → weaker failure) : FailsOnly weaker outcome := by
  intro failure failed
  exact weaken failure (failsOnly failure failed)

end Outcome

/-! ## Misuse and refusals -/

namespace Outcome

variable {α : Type}

/-- What a call that ends in misuse is misused for. -/
def fault? : Outcome α → Option Fault
  | .error (.fault fault) => some fault
  | _ => none

theorem eq_misuse_of_fault? {outcome : Outcome α} {fault : Fault} (isFault : fault? outcome = some fault) :
    outcome = misuse fault := by
  unfold fault? at isFault
  split at isFault <;> cases isFault
  rfl

theorem isFault_misuse {fault : Fault} : FailsOnly Failure.IsFault (misuse fault : Outcome α) :=
  failsOnly_error ⟨fault, rfl⟩

theorem isFault_ofRender {rendered : Except RenderError α} : FailsOnly Failure.IsFault (Outcome.ofRender rendered) := by
  cases rendered with
  | ok value => exact failsOnly_ok
  | error cause => exact isFault_misuse

theorem isFault_spell {value : Value} : FailsOnly Failure.IsFault value.spell := by
  unfold Value.spell
  split
  · exact isFault_misuse
  · exact failsOnly_ok

theorem FailsOnly.isUnsent {outcome : Outcome α} (failsOnly : FailsOnly Failure.IsFault outcome) :
    FailsOnly Failure.IsUnsent outcome :=
  failsOnly.mono fun _ isFault => isFault.isUnsent

end Outcome

/-! ## Arguments -/

namespace Arguments

open Outcome

variable {arguments : Arguments} {parameters : List Parameter}

theorem isFault_assign {positional : List Value} :
    FailsOnly Failure.IsFault (arguments.assign parameters positional) := by
  induction parameters generalizing positional with
  | nil =>
      cases positional with
      | nil => exact failsOnly_ok
      | cons _ _ => exact isFault_misuse
  | cons parameter parameters ih =>
      cases positional with
      | nil =>
          unfold assign
          split
          · exact ih.map
          · exact isFault_misuse
      | cons value positional =>
          unfold assign
          split
          · exact isFault_misuse
          · exact ih.map

theorem isFault_bind : FailsOnly Failure.IsFault (arguments.bind parameters) := by
  unfold Arguments.bind
  split
  · exact isFault_assign
  · exact isFault_misuse

end Arguments

end Sparql
