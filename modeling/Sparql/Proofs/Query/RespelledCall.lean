import Sparql.Proofs.Query.Respelling
import Sparql.Update.Build

/-!
# Respelled arguments of calls

What the arguments of a call are for is told by the method: at some positions and under some names a variable may
stand, or a pattern, or something else that holds variables. Calls whose arguments differ in the spellings of variables
alone change clauses in the same way, and make the same operations.
-/

namespace Sparql

open Outcome

/-- What the arguments of a call are for, by position and by name. -/
structure CallPlaces where
  positional : Nat → Place := fun _ => .fixed
  named : String → Place := fun _ => .fixed

namespace CallPlaces

/-- Arguments all of which are for the same. -/
def each (place : Place) : CallPlaces := { positional := fun _ => place }

/-- One argument, or more of them that are not for variables. -/
def first (name : String) (place : Place) : CallPlaces where
  positional
    | 0 => place
    | _ => .fixed
  named given := if given = name then place else .fixed

/-- What the arguments of a method are for. -/
def ofMethod : String → CallPlaces
  | "select" | "with_subquery" =>
    { positional := fun _ => .variable, named := fun name => if name = "count" then .counts else .fixed }
  | "describe" => each .variable
  | "construct" | "where" | "whether" | "optional" | "union" | "minus" => each .pattern
  | "service" =>
    { positional := fun
        | 0 => .variable
        | _ => .pattern
      named := fun name => if name = "endpoint" then .variable else .fixed }
  | "union_with_bind" => each .branch
  | "values" => first "variables" .names
  | "order" | "order_by" | "group" | "group_by" => each .entry
  | "asc" | "desc" => first "variable" .variable
  | "graph" => first "graph_iri_or_var" .variable
  | "InsertData" | "DeleteData" | "insert_data" | "delete_data" => first "data" .patterns
  | "DeleteInsert" | "delete_insert" =>
    { positional := fun
        | 0 | 1 | 2 => .patterns
        | _ => .fixed
      named := fun name => if name ∈ ["delete", "insert", "where"] then .patterns else .fixed }
  | _ => {}

end CallPlaces

namespace Arguments

variable {places : CallPlaces} {arguments others : Arguments} {item : Nat → Place} {parameters : List Parameter}

/-- Two calls give arguments that differ in the spellings of variables alone. -/
structure Respelled (places : CallPlaces) (arguments others : Arguments) : Prop where
  positional : Itemwise Value.Respelled places.positional arguments.positional others.positional
  named : List.Forall₂ (fun given other => given.1 = other.1 ∧ Value.Respelled (places.named given.1) given.2 other.2)
    arguments.named others.named

namespace Respelled

theorem named? (respelled : Respelled places arguments others) (name : String) :
    Option.Rel (Value.Respelled (places.named name)) (arguments.named? name) (others.named? name) := by
  unfold Arguments.named?
  have named := respelled.named
  generalize arguments.named = given at named
  generalize others.named = other at named
  induction named with
  | nil => exact .none
  | @cons given other _ _ first _ ih =>
      rcases given with ⟨given, value⟩
      rcases other with ⟨_, otherValue⟩
      rcases first with ⟨rfl, isRespelled⟩
      by_cases isName : given = name
      · subst isName
        simp only [List.find?_cons, beq_self_eq_true, Option.map_some]
        exact .some isRespelled
      · simp only [List.find?_cons, beq_false_of_ne isName]
        exact ih

theorem sameNames (respelled : Respelled places arguments others) :
    arguments.named.map (·.1) = others.named.map (·.1) := by
  have named := respelled.named
  generalize arguments.named = given at named
  generalize others.named = other at named
  induction named with
  | nil => rfl
  | cons first _ ih => rw [List.map_cons, List.map_cons, first.1, ih]

/-- The values of parameters differ in spellings where the arguments do. -/
theorem assign {values others' : List Value} (respelled : Respelled places arguments others)
    (areRespelled : Itemwise Value.Respelled item values others')
    (atNames : ∀ index parameter, parameters[index]? = some parameter → places.named parameter.name = item index) :
    Agree (Itemwise Value.Respelled item) (arguments.assign parameters values) (others.assign parameters others') := by
  induction parameters generalizing item values others' with
  | nil =>
      cases areRespelled with
      | nil => exact .done .nil
      | cons => exact .failed
  | cons parameter parameters ih =>
      have first := atNames 0 parameter rfl
      have named := respelled.named? parameter.name
      have rest := fun index other isOther => atNames (index + 1) other isOther
      cases areRespelled with
      | nil =>
          unfold Arguments.assign
          generalize arguments.named? parameter.name = given at named
          generalize others.named? parameter.name = other at named
          cases named with
          | none =>
              cases parameter.absent with
              | none => exact .failed
              | some value => exact (ih .nil rest).map fun _ _ areRespelled => .cons .same areRespelled
          | some isRespelled =>
              rw [first] at isRespelled
              exact (ih .nil rest).map fun _ _ areRespelled => .cons isRespelled areRespelled
      | cons isRespelled areRespelled =>
          unfold Arguments.assign
          generalize arguments.named? parameter.name = given at named
          generalize others.named? parameter.name = other at named
          cases named with
          | none => exact (ih areRespelled rest).map fun _ _ areRespelled => .cons isRespelled areRespelled
          | some => exact .failed

/-- The values of parameters that are for the same by position and by name. -/
theorem bind (respelled : Respelled places arguments others)
    (atNames : parameters.map (fun parameter => places.named parameter.name) =
      (List.range parameters.length).map places.positional) :
    Agree (Itemwise Value.Respelled places.positional) (arguments.bind parameters) (others.bind parameters) := by
  unfold Arguments.bind
  have sameAllowed (names : List (String × Value)) :
      names.all (fun given => parameters.any (·.name == given.1)) =
        (names.map (·.1)).all fun name => parameters.any (·.name == name) := by
    rw [List.all_map]
    rfl
  rw [sameAllowed, sameAllowed, respelled.sameNames]
  split
  · refine respelled.assign respelled.positional fun index parameter found => ?_
    have isIndex := (List.getElem?_eq_some_iff.mp found).1
    have atName := congrArg (·[index]?) atNames
    simpa [found, List.getElem?_range isIndex] using atName
  · exact .failed

theorem options (respelled : Respelled places arguments others) (item : Nat → Place)
    (atNames : parameters.map (fun parameter => places.named parameter.name) =
      (List.range parameters.length).map item) :
    Agree (Itemwise Value.Respelled item) (arguments.options parameters) (others.options parameters) := by
  have onlyNamed : Respelled { positional := item, named := places.named } { arguments with positional := [] }
      { others with positional := [] } := ⟨.nil, respelled.named⟩
  exact onlyNamed.bind atNames

theorem single {parameter : Parameter} (respelled : Respelled places arguments others)
    (atName : places.named parameter.name = places.positional 0) :
    Agree (Value.Respelled (places.positional 0)) (arguments.single parameter) (others.single parameter) := by
  have atNames : [parameter].map (fun parameter => places.named parameter.name) =
      (List.range [parameter].length).map places.positional := congrArg ([·]) atName
  apply (respelled.bind atNames).bind
  rintro _ _ (_ | ⟨isRespelled, _ | _⟩)
  · exact .failed
  · exact .done isRespelled
  · exact .failed

theorem firstAndRest {name : String} {place : Place} (respelled : Respelled (.first name place) arguments others) :
    Agree (fun given other => Value.Respelled place given.1 other.1 ∧ given.2 = other.2)
      (arguments.firstAndRest name) (others.firstAndRest name) := by
  rcases arguments with ⟨positional, named⟩
  rcases others with ⟨positional', named'⟩
  rcases respelled with ⟨positions, names⟩
  cases positions with
  | nil =>
      rcases names with _ | ⟨⟨sameName, isRespelled⟩, _ | _⟩
      · exact .failed
      · rename_i given other
        simp only [Arguments.firstAndRest, ← sameName]
        split
        · rename_i isName
          refine .done ⟨?_, rfl⟩
          simpa [CallPlaces.first, isName] using isRespelled
        · exact .failed
      · exact .failed
  | cons isRespelled areRespelled =>
      cases names with
      | nil =>
          refine .done ⟨isRespelled, ?_⟩
          rw [← List.forall₂_eq_eq_eq]
          exact areRespelled.forall₂.imp fun _ _ isRespelled => isRespelled.eq_of_fixed
      | cons => exact .failed

theorem onlyPositions (respelled : Respelled places arguments others) :
    Agree (Itemwise Value.Respelled places.positional) arguments.onlyPositions others.onlyPositions := by
  have sameNames := respelled.sameNames
  have sameEmpty : arguments.named.isEmpty = others.named.isEmpty := by
    rw [← List.isEmpty_map (f := (·.1)), sameNames, List.isEmpty_map]
  unfold Arguments.onlyPositions
  rw [sameEmpty]
  split
  · exact .done respelled.positional
  · exact .failed

/-- Arguments none of which is for a variable are the same. -/
theorem eq_of_fixed (respelled : Respelled {} arguments others) : arguments = others := by
  rcases arguments with ⟨positional, named⟩
  rcases others with ⟨positional', named'⟩
  have samePositions : positional = positional' := by
    have areRespelled := respelled.positional.forall₂
    rw [← List.forall₂_eq_eq_eq]
    exact areRespelled.imp fun _ _ isRespelled => isRespelled.eq_of_fixed
  have sameNamed : named = named' := by
    rw [← List.forall₂_eq_eq_eq]
    exact respelled.named.imp fun _ _ both => Prod.ext both.1 both.2.eq_of_fixed
  rw [samePositions, sameNamed]

end Respelled

end Arguments

/-! ## Changes -/

variable {arguments others : Arguments} {method : String}

theorem rel_refl {α : Type} {related : α → α → Prop} (isRefl : ∀ value, related value value) (value : Option α) :
    Option.Rel related value value := by
  cases value with
  | none => exact .none
  | some value => exact .some (isRefl value)

namespace Clauses

variable {clauses : Clauses}

theorem agree_setOrder (respelled : arguments.Respelled (.each .entry) others) :
    Agree (· = ·) (arguments.onlyPositions >>= clauses.setOrder) (others.onlyPositions >>= clauses.setOrder) := by
  apply respelled.onlyPositions.bind
  intro entries entries' areRespelled
  exact (Value.Respelled.conditions areRespelled.forall₂).bind_eq fun _ => agree_refl _

theorem agree_setGroup (respelled : arguments.Respelled (.each .entry) others) :
    Agree (· = ·) (arguments.onlyPositions >>= clauses.setGroup) (others.onlyPositions >>= clauses.setGroup) := by
  apply respelled.onlyPositions.bind
  intro entries entries' areRespelled
  exact (Value.Respelled.conditions areRespelled.forall₂).bind_eq fun _ => agree_refl _

theorem agree_addOrder {direction : String} (respelled : arguments.Respelled (.first "variable" .variable) others) :
    Agree (· = ·) (arguments.single ⟨"variable", none⟩ >>= clauses.addOrder direction)
      (others.single ⟨"variable", none⟩ >>= clauses.addOrder direction) := by
  apply (respelled.single rfl).bind
  intro value other isRespelled
  exact isRespelled.asVariable.bind_eq fun _ => agree_refl _

theorem agree_setGraph (respelled : arguments.Respelled (.first "graph_iri_or_var" .variable) others) :
    Agree (· = ·) (arguments.single ⟨"graph_iri_or_var", none⟩ >>= clauses.setGraph)
      (others.single ⟨"graph_iri_or_var", none⟩ >>= clauses.setGraph) := by
  apply (respelled.single rfl).bind
  intro value other isRespelled
  exact isRespelled.asResource.bind_eq fun _ => agree_refl _

theorem agree_setValues (respelled : arguments.Respelled (.first "variables" .names) others) :
    Agree (· = ·) (arguments.firstAndRest "variables" >>= fun given => clauses.setValues given.1 given.2)
      (others.firstAndRest "variables" >>= fun given => clauses.setValues given.1 given.2) := by
  apply respelled.firstAndRest.bind
  rintro ⟨named, data⟩ ⟨named', _⟩ ⟨isRespelled, rfl⟩
  exact isRespelled.valuesBlock.bind_eq fun _ => agree_refl _

theorem agree_addBindUnion {optional : Value} (respelled : arguments.Respelled (.each .branch) others) :
    Agree (· = ·) (clauses.addBindUnion arguments.positional optional)
      (clauses.addBindUnion others.positional optional) :=
  (Value.Respelled.bindUnionOf respelled.positional.forall₂).bind_eq fun _ => agree_refl _

/-- Calls on respelled arguments change clauses in the same way. -/
theorem rel_change? (respelled : arguments.Respelled (.ofMethod method) others) :
    Option.Rel (fun change other => ∀ clauses, Agree (· = ·) (change clauses) (other clauses))
      (change? method arguments) (change? method others) := by
  unfold change?
  split
  case h_2 => exact .some fun _ => agree_setValues respelled
  case h_3 =>
    refine .some fun clauses => ?_
    apply (respelled.options (fun _ => .fixed) rfl).bind
    rintro _ _ (_ | ⟨isRespelled, _ | _⟩)
    · exact .failed
    · cases isRespelled.eq_of_fixed
      exact agree_addBindUnion respelled
    · exact .failed
  case h_4 | h_5 => exact .some fun _ => agree_setOrder respelled
  case h_6 | h_7 => exact .some fun _ => agree_addOrder respelled
  case h_8 | h_9 => exact .some fun _ => agree_setGroup respelled
  case h_12 => exact .some fun _ => agree_setGraph respelled
  case h_16 => exact .none
  all_goals
    rw [Arguments.Respelled.eq_of_fixed respelled]
    exact .some fun _ => agree_refl _

end Clauses

theorem OptionalGroup.rel_change? (respelled : arguments.Respelled (.ofMethod method) others) :
    Option.Rel (fun change other => ∀ group, Agree (· = ·) (change group) (other group))
      (OptionalGroup.change? method arguments) (OptionalGroup.change? method others) := by
  unfold OptionalGroup.change?
  split
  · refine .some fun group => ?_
    have given : arguments.Respelled (.each .pattern) others := respelled
    apply given.onlyPositions.bind
    intro values values' areRespelled
    exact (Value.Respelled.asPatterns areRespelled.forall₂).bind_eq fun _ => agree_refl _
  · rw [Arguments.Respelled.eq_of_fixed respelled]
    exact .some fun _ => agree_refl _
  · exact .none

/-! ## Operations -/

namespace UpdateOperation

open Value

theorem agree_groundPatterns {keyword : String} {data data' : Value} (respelled : Respelled .patterns data data') :
    Agree (· = ·) (groundPatterns keyword data) (groundPatterns keyword data') := by
  have ground {values values' : List Value} (respelled : List.Forall₂ (Respelled .pattern) values values') :
      Agree (· = ·) (groundPatterns keyword (.list values)) (groundPatterns keyword (.list values')) :=
    (Respelled.asPatterns respelled).bind_eq fun _ => agree_refl _
  cases respelled with
  | same => exact agree_refl _
  | name takesVariable => cases takesVariable
  | list hasItems areRespelled =>
      cases hasItems
      exact ground areRespelled.forall₂
  | tuple hasItems areRespelled =>
      cases hasItems
      exact ground areRespelled.forall₂
  | map hasEntries => cases hasEntries

theorem agree_dataAndGraph {keyword : String} {data data' graph : Value} (respelled : Respelled .patterns data data') :
    Agree (· = ·) (dataAndGraph keyword data graph) (dataAndGraph keyword data' graph) :=
  (agree_groundPatterns respelled).bind_eq fun _ => agree_refl _

theorem agree_deleteInsert {delete insert condition graph delete' insert' condition' : Value}
    (deletes : Respelled .patterns delete delete') (inserts : Respelled .patterns insert insert')
    (conditions : Respelled .patterns condition condition') :
    Agree (· = ·) (deleteInsert delete insert condition graph) (deleteInsert delete' insert' condition' graph) := by
  apply deletes.elementPatterns.bind_eq
  intro deleted
  apply inserts.elementPatterns.bind_eq
  intro inserted
  exact conditions.elementPatterns.bind_eq fun _ => agree_refl _

/-- Respelled arguments make the same operation. -/
theorem agree_ofCall (respelled : arguments.Respelled (.ofMethod method) others) :
    Agree (· = ·) (ofCall method arguments) (ofCall method others) := by
  unfold ofCall
  simp only
  split
  case h_1 | h_2 =>
    have given : arguments.Respelled (.first "data" .patterns) others := respelled
    apply (given.bind rfl).bind
    rintro _ _ (_ | ⟨data, _ | ⟨graph, _ | _⟩⟩)
    case cons.cons.nil =>
      cases graph.eq_of_fixed
      exact (agree_dataAndGraph data).map_eq
    all_goals exact .failed
  case h_3 =>
    apply (Arguments.Respelled.bind respelled rfl).bind
    rintro _ _ (_ | ⟨delete, _ | ⟨insert, _ | ⟨condition, _ | ⟨graph, _ | _⟩⟩⟩⟩)
    case cons.cons.cons.cons.nil =>
      cases graph.eq_of_fixed
      exact agree_deleteInsert delete insert condition
    all_goals exact .failed
  case h_9 => exact .failed
  all_goals
    rw [Arguments.Respelled.eq_of_fixed respelled]
    exact agree_refl _

end UpdateOperation

end Sparql
