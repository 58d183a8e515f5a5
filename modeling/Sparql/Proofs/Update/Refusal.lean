import Sparql.Proofs.Term.Refusal
import Sparql.Update.Build

/-!
# How making an operation can fail

The arguments of an operation are checked where it is made. Whatever is wrong with them, nothing was exchanged. Only
templates that cannot be iterated are neither taken nor refused.
-/

namespace Sparql.UpdateOperation

open Outcome Failure

variable {outer graph target : Value} {keyword : String}

theorem blames_groundPatterns {data : Value} (isWithin : data.Within outer) :
    FailsOnly (Blames outer) (groundPatterns keyword data) := by
  unfold groundPatterns
  split
  · exact blames_refuse_silently rfl
  · rename_i values areElements
    apply (Value.blames_asPatterns fun item mem => (Value.within_of_elements areElements item mem).trans isWithin).bind
    intro patterns
    split
    · exact blames_refuse_silently rfl
    · exact failsOnly_ok

theorem blames_optionalIri (isWithin : graph.Within outer) : FailsOnly (Blames outer) (optionalIri graph) := by
  unfold optionalIri
  split
  · exact failsOnly_ok
  · exact (Value.blames_asIri isWithin).map

theorem blames_dataAndGraph {data : Value} (dataWithin : data.Within outer) (graphWithin : graph.Within outer) :
    FailsOnly (Blames outer) (dataAndGraph keyword data graph) :=
  (blames_groundPatterns dataWithin).bind fun _ => (blames_optionalIri graphWithin).bind fun _ => failsOnly_ok

/-! ## Templates -/

variable {delete insert condition : Value}

/-- The first of the templates and the condition that is not read cannot be iterated. -/
inductive TemplateEscapes (delete insert condition : Value) : Prop
  | delete (notIterable : delete.elements? = none)
  | insert (deleteRead : ∃ patterns, delete.elementPatterns = .ok patterns) (notIterable : insert.elements? = none)
  | condition (deleteRead : ∃ patterns, delete.elementPatterns = .ok patterns)
      (insertRead : ∃ patterns, insert.elementPatterns = .ok patterns) (notIterable : condition.elements? = none)

theorem deleteInsert_blamesOr (deleteWithin : delete.Within outer) (insertWithin : insert.Within outer)
    (conditionWithin : condition.Within outer) (graphWithin : graph.Within outer) :
    FailsOnly (BlamesOr outer fun fault => fault = .wrongKind ∧ TemplateEscapes delete insert condition)
      (deleteInsert delete insert condition graph) := by
  apply FailsOnly.bind_of_ok
  · apply (Value.elementPatterns_blamesOr deleteWithin).weaken
    rintro fault ⟨rfl, notIterable⟩
    exact ⟨rfl, .delete notIterable⟩
  intro deleted deleteRead
  apply FailsOnly.bind_of_ok
  · apply (Value.elementPatterns_blamesOr insertWithin).weaken
    rintro fault ⟨rfl, notIterable⟩
    exact ⟨rfl, .insert ⟨deleted, deleteRead⟩ notIterable⟩
  intro inserted insertRead
  apply FailsOnly.bind
  · apply (Value.elementPatterns_blamesOr conditionWithin).weaken
    rintro fault ⟨rfl, notIterable⟩
    exact ⟨rfl, .condition ⟨deleted, deleteRead⟩ ⟨inserted, insertRead⟩ notIterable⟩
  intro patterns
  apply FailsOnly.orEscape
  apply blames_guard rfl
  exact (blames_optionalIri graphWithin).bind fun _ => failsOnly_ok

theorem deleteInsert_of_escapes (escapes : TemplateEscapes delete insert condition) :
    deleteInsert delete insert condition graph = misuse .wrongKind := by
  cases escapes with
  | delete notIterable => exact bind_eq_error.mpr (.inl (Value.elementPatterns_of_notElements notIterable))
  | insert deleteRead notIterable =>
      rcases deleteRead with ⟨_, deleteRead⟩
      apply bind_eq_error_of_ok deleteRead
      exact bind_eq_error.mpr (.inl (Value.elementPatterns_of_notElements notIterable))
  | condition deleteRead insertRead notIterable =>
      rcases deleteRead with ⟨_, deleteRead⟩
      rcases insertRead with ⟨_, insertRead⟩
      apply bind_eq_error_of_ok deleteRead
      apply bind_eq_error_of_ok insertRead
      exact bind_eq_error.mpr (.inl (Value.elementPatterns_of_notElements notIterable))

/-! ## Graphs -/

theorem blames_targetOf (isWithin : target.Within outer) : FailsOnly (Blames outer) (targetOf keyword target) := by
  unfold targetOf
  split
  · exact failsOnly_ok
  · split
    · simp only
      split
      · exact failsOnly_ok
      · exact blames_refuse_showing .text rfl
    · exact blames_refuse_showing isWithin rfl

theorem blames_managedTarget (graphWithin : graph.Within outer) (targetWithin : target.Within outer) :
    FailsOnly (Blames outer) (managedTarget keyword graph target) := by
  unfold managedTarget
  split
  · apply (blames_targetOf targetWithin).bind
    intro found
    split
    · exact failsOnly_ok
    · exact blames_refuse_silently rfl
  · exact (Value.blames_asIri graphWithin).bind fun _ => failsOnly_ok
  · exact blames_refuse_silently rfl

theorem blames_load {source into silent : Value} (sourceWithin : source.Within outer) (intoWithin : into.Within outer) :
    FailsOnly (Blames outer) (load source into silent) :=
  (Value.blames_asIri sourceWithin).bind fun _ => (blames_optionalIri intoWithin).bind fun _ => failsOnly_ok

/-! ## Any operation -/

/-- The parameters of an operation. -/
def parameters? : String → Option (List Parameter)
  | "InsertData" | "DeleteData" => some [⟨"data", none⟩, ⟨"graph", some .null⟩]
  | "DeleteInsert" =>
    some [⟨"delete", some (.tuple [])⟩, ⟨"insert", some (.tuple [])⟩, ⟨"where", some (.tuple [])⟩,
      ⟨"graph", some .null⟩]
  | "Load" => some [⟨"source", none⟩, ⟨"into", some .null⟩, ⟨"silent", some (.bool false)⟩]
  | "Clear" | "Drop" => some [⟨"graph", some .null⟩, ⟨"target", some .null⟩, ⟨"silent", some (.bool false)⟩]
  | "Create" => some [⟨"graph", none⟩, ⟨"silent", some (.bool false)⟩]
  | "UpdateOperation" => some [⟨"silent", some (.bool false)⟩]
  | _ => none

variable {kind : String} {arguments : Arguments}

/-- The arguments are those that an operation declares. -/
def Fits (kind : String) (arguments : Arguments) : Prop :=
  ∃ parameters values, parameters? kind = some parameters ∧ arguments.bind parameters = .ok values

/-- The ways in which making an operation is neither done nor refused. -/
inductive MakingEscapes (kind : String) (arguments : Arguments) : Fault → Prop
  | unfit {fault : Fault} (notFits : ¬ Fits kind arguments) : MakingEscapes kind arguments fault
  | template {parameters : List Parameter} {delete insert condition graph : Value} (isKind : kind = "DeleteInsert")
      (areParameters : parameters? kind = some parameters)
      (bound : arguments.bind parameters = .ok [delete, insert, condition, graph])
      (escapes : TemplateEscapes delete insert condition) : MakingEscapes kind arguments .wrongKind

theorem parameters?_absentWithin {parameters : List Parameter} (areParameters : parameters? kind = some parameters) :
    ∀ parameter ∈ parameters, ∀ value, parameter.absent = some value → value.Within outer := by
  unfold parameters? at areParameters
  split at areParameters <;> cases areParameters <;>
    simp [Value.Within.null, Value.Within.bool, Value.Within.tuple]

/-- An operation whose parameters are filled is made of what they stand for. -/
private theorem bound_blamesOr {parameters : List Parameter} {make : List Value → Outcome UpdateOperation}
    (areParameters : parameters? kind = some parameters)
    (makeBlames : ∀ values, arguments.bind parameters = .ok values → values.length = parameters.length →
      (∀ value ∈ values, value.Within arguments.given) →
      FailsOnly (BlamesOr arguments.given (MakingEscapes kind arguments)) (make values)) :
    FailsOnly (BlamesOr arguments.given (MakingEscapes kind arguments)) (arguments.bind parameters >>= make) := by
  apply FailsOnly.bind_of_ok
  · intro failure failed
    rcases Arguments.isFault_bind failure failed with ⟨fault, rfl⟩
    refine .inr ⟨fault, rfl, .unfit ?_⟩
    rintro ⟨others, values, areOthers, bound⟩
    cases areParameters.symm.trans areOthers
    cases failed.symm.trans bound
  · intro values bound
    exact makeBlames values bound (Arguments.length_of_bind bound)
      (Arguments.within_of_bind (parameters?_absentWithin areParameters) bound)

theorem ofCall_blamesOr :
    FailsOnly (BlamesOr arguments.given (MakingEscapes kind arguments)) (ofCall kind arguments) := by
  unfold ofCall
  simp only
  split
  case h_9 notKinds =>
    refine failsOnly_error (.inr ⟨_, rfl, .unfit ?_⟩)
    rintro ⟨parameters, _, areParameters, _⟩
    unfold parameters? at areParameters
    split at areParameters <;> simp_all
  all_goals
    apply bound_blamesOr rfl
    intro values bound isLength areWithin
  case h_1 | h_2 =>
    rcases List.length_eq_two.mp isLength with ⟨data, graph, rfl⟩
    exact (blames_dataAndGraph (areWithin data (by simp)) (areWithin graph (by simp))).map.orEscape
  case h_3 =>
    rcases List.length_eq_four.mp isLength with ⟨delete, insert, condition, graph, rfl⟩
    apply (deleteInsert_blamesOr (areWithin delete (by simp)) (areWithin insert (by simp))
      (areWithin condition (by simp)) (areWithin graph (by simp))).weaken
    rintro fault ⟨rfl, escapes⟩
    exact .template rfl rfl bound escapes
  case h_4 =>
    rcases List.length_eq_three.mp isLength with ⟨source, into, silent, rfl⟩
    exact (blames_load (areWithin source (by simp)) (areWithin into (by simp))).orEscape
  case h_5 | h_6 =>
    rcases List.length_eq_three.mp isLength with ⟨graph, target, silent, rfl⟩
    exact (blames_managedTarget (areWithin graph (by simp)) (areWithin target (by simp))).map.orEscape
  case h_7 =>
    rcases List.length_eq_two.mp isLength with ⟨graph, silent, rfl⟩
    exact (Value.blames_asIri (areWithin graph (by simp))).map.orEscape
  case h_8 =>
    rcases List.length_eq_one_iff.mp isLength with ⟨silent, rfl⟩
    exact failsOnly_ok

theorem ofCall_of_template {parameters : List Parameter} {delete insert condition graph : Value}
    (areParameters : parameters? "DeleteInsert" = some parameters)
    (bound : arguments.bind parameters = .ok [delete, insert, condition, graph])
    (escapes : TemplateEscapes delete insert condition) : ofCall "DeleteInsert" arguments = misuse .wrongKind := by
  cases areParameters
  exact bind_eq_error_of_ok bound (deleteInsert_of_escapes escapes)

/-- An operation that is not made was refused, or its arguments were misuse. -/
theorem isUnsent_ofCall : FailsOnly Failure.IsUnsent (ofCall kind arguments) := by
  intro failure failed
  rcases ofCall_blamesOr failure failed with blames | ⟨fault, rfl, _⟩
  · exact blames.isUnsent
  · rfl

theorem isFault_toText {operation : UpdateOperation} : FailsOnly Failure.IsFault operation.toText := by
  unfold toText
  split
  · exact isFault_misuse
  · exact isFault_ofRender.map

end Sparql.UpdateOperation
