import Sparql.Proofs.Session.Refusal
import Sparql.Proofs.Session.Respelling
import Sparql.Proofs.Value.Entries

/-!
# Shapes of a call

What a clause is given can be written in several shapes: a mapping or pairs, one call or several, a list or the values
themselves. Two shapes leave the same store, or both are rejected.

What a shape leaves is `perform?`, the store of a run that does not fail. For most clauses both shapes are read as the
same list, or neither is read; a call for each item has to go through the stores in between, where an item that is
refused undoes nothing, but rejects the whole.
-/

namespace Sparql

open Outcome

namespace Value

variable {value key direction : Value} {items : List Value}

/-- The value is the list or the tuple of the items. -/
inductive Lists : Value → List Value → Prop
  | list (items : List Value) : Lists (.list items) items
  | tuple (items : List Value) : Lists (.tuple items) items

theorem Lists.items? (lists : value.Lists items) : value.items? = some items := by
  cases lists <;> rfl

theorem Lists.entries? (lists : value.Lists items) : value.entries? = none := by
  cases lists <;> rfl

theorem isVariable_eq_isOk : value.isVariable = value.asVariable.isOk := by
  cases value with
  | term term => cases term <;> rfl
  | text name =>
      simp only [isVariable, isVariableName, asVariable]
      cases Sparql.isVariableName name.toList <;> rfl
  | _ => rfl

end Value

/-! ## Entries of an order or a grouping -/

variable {entries pairs others : List Value} {pair key direction : Value}

/-- Entries are read one by one, so what is read of some together is read of each part. -/
theorem conditions_append :
    conditions (entries ++ others) = (do
      let first ← conditions entries
      let rest ← conditions others
      return first ++ rest) := by
  unfold conditions
  rw [List.mapM_append]
  cases entries.mapM conditionsOf <;> cases others.mapM conditionsOf <;>
    simp [Except.map, bind, Except.bind, pure, Except.pure]

theorem conditions_singleton (entry : Value) : conditions [entry] = conditionsOf entry := by
  unfold conditions
  rw [List.mapM_cons, List.mapM_nil]
  cases conditionsOf entry <;> simp [Except.map, bind, Except.bind, pure, Except.pure]

theorem conditionsOf_pair (isPair : pair.Lists [key, direction]) :
    conditionsOf pair =
      if key.isVariable then (directedCondition key direction).map ([·]) else refuse (.pairNotVariable key) := by
  unfold conditionsOf
  rw [isPair.entries?, isPair.items?]

theorem agree_mappedCondition (isPair : pair.Lists [key, direction]) :
    Agree (fun condition conditions => conditions = [condition]) (mappedCondition (key, direction))
      (conditionsOf pair) := by
  rw [conditionsOf_pair isPair, mappedCondition]
  cases key.isVariable with
  | false => exact .failed
  | true =>
      cases directedCondition key direction with
      | error => exact .failed
      | ok condition => exact .done rfl

theorem flatten_eq {conditions : List OrderCondition} {lists : List (List OrderCondition)}
    (areSingletons : List.Forall₂ (fun condition list => list = [condition]) conditions lists) :
    lists.flatten = conditions := by
  induction areSingletons with
  | nil => rfl
  | cons isSingleton _ ih => rw [isSingleton, List.flatten_cons, ih, List.singleton_append]

/-- A mapping is read like its pairs. What is refused of them is named otherwise. -/
theorem agree_conditions_map {entries : List (Value × Value)}
    (arePairs : List.Forall₂ (fun entry pair => pair.Lists [entry.1, entry.2]) entries pairs) :
    Agree (· = ·) (conditions [.map entries]) (conditions pairs) := by
  have areRead : Agree (List.Forall₂ fun condition list => list = [condition])
      (entries.mapM mappedCondition) (pairs.mapM conditionsOf) :=
    .mapM arePairs fun _ _ isPair => agree_mappedCondition isPair
  rw [conditions_singleton, conditions]
  change Agree (· = ·) (entries.mapM mappedCondition) _
  generalize entries.mapM mappedCondition = read at areRead ⊢
  generalize pairs.mapM conditionsOf = others at areRead ⊢
  cases areRead with
  | failed => exact .failed
  | done areSingletons => exact .done (flatten_eq areSingletons).symm

namespace Clauses

variable {clauses : Clauses}

/-- The last pair of an order says what a call of its direction adds. -/
theorem agree_setOrder_last {word : String} {direction : String} (isWord : directionOf (.text word) = .ok direction)
    (isPair : pair.Lists [key, .text word]) :
    Agree (· = ·) (clauses.setOrder (entries ++ [pair]))
      (clauses.setOrder entries >>= fun after => after.addOrder direction key) := by
  have last : conditions [pair] = if key.isVariable then
      key.asVariable.map fun name => [.variable name (some direction)] else refuse (.pairNotVariable key) := by
    rw [conditions_singleton, conditionsOf_pair isPair, directedCondition, isWord]
    cases key.asVariable <;> rfl
  unfold setOrder addOrder
  rw [conditions_append, last, Value.isVariable_eq_isOk]
  cases conditions entries with
  | error => exact .failed
  | ok first =>
      cases key.asVariable with
      | error => exact .failed
      | ok name => exact .done rfl

end Clauses

/-! ## Inline data -/

theorem singleColumn_scalars {cells : List Value} (noRows : ∀ cell ∈ cells, cell.items? = none) :
    singleColumn cells = .ok (cells.map fun cell => .list [cell]) := by
  have noneIsRow : (cells.any fun cell => cell.items?.isSome) = false := by
    rw [List.any_eq_false]
    intro cell mem
    simp [noRows cell mem]
  have areWrapped : (cells.map fun cell => if cell.items?.isSome then cell else .list [cell]) =
      cells.map fun cell => .list [cell] := by
    apply List.map_congr_left
    intro cell mem
    simp [noRows cell mem]
  simp only [singleColumn, noneIsRow, areWrapped, Bool.false_and, Bool.false_eq_true, if_false]

theorem singleColumn_rows {rows : List Value} (areRows : ∀ row ∈ rows, row.items?.isSome) :
    singleColumn rows = .ok rows := by
  have allAreRows : (rows.all fun row => row.items?.isSome) = true := List.all_eq_true.mpr areRows
  have areKept : (rows.map fun row => if row.items?.isSome then row else .list [row]) = rows.map id :=
    List.map_congr_left fun row mem => if_pos (areRows row mem)
  simp only [singleColumn, allAreRows, areKept, List.map_id, Bool.not_true, Bool.and_false, Bool.false_eq_true,
    if_false]

theorem isSome_items? {cells rows : List Value} (areRows : List.Forall₂ (fun cell row => row.Lists [cell]) cells rows) :
    ∀ row ∈ rows, row.items?.isSome := by
  induction areRows with
  | nil => simp
  | cons isRow _ ih => exact List.forall_mem_cons.mpr ⟨by rw [isRow.items?]; rfl, ih⟩

theorem mapM_rowOf {cells rows : List Value} (areRows : List.Forall₂ (fun cell row => row.Lists [cell]) cells rows) :
    rows.mapM (rowOf 1) = (cells.map fun cell => .list [cell]).mapM (rowOf 1) := by
  induction areRows with
  | nil => rfl
  | @cons cell row _ _ isRow _ ih =>
      have sameRow : rowOf 1 row = rowOf 1 (.list [cell]) := by
        cases isRow <;> rfl
      rw [List.map_cons, List.mapM_cons, List.mapM_cons, sameRow, ih]

theorem valuesBlock_of_name {given named : Value} {data : List Value} (isNamed : given.items?.getD [given] = [named]) :
    valuesBlock given data = (do
      let name ← named.asVariable
      let data ← singleColumn data
      let rows ← data.mapM (rowOf 1)
      return ⟨[name], rows⟩) := by
  simp only [valuesBlock, isNamed]
  cases isName : named.asVariable with
  | error failure => simp [isName, bind, Except.bind]
  | ok name => simp [isName, bind, Except.bind, pure, Except.pure]

/-- The rows of one cell each are read like the cells. -/
theorem valuesBlock_rows {named list : Value} {cells rows : List Value} (isSingle : named.items? = none)
    (noRows : ∀ cell ∈ cells, cell.items? = none) (isList : list.Lists [named])
    (areRows : List.Forall₂ (fun cell row => row.Lists [cell]) cells rows) :
    valuesBlock list rows = valuesBlock named cells := by
  have oneListed : list.items?.getD [list] = [named] := by rw [isList.items?, Option.getD_some]
  have oneNamed : named.items?.getD [named] = [named] := by rw [isSingle, Option.getD_none]
  rw [valuesBlock_of_name oneListed, valuesBlock_of_name oneNamed, singleColumn_rows (isSome_items? areRows),
    singleColumn_scalars noRows]
  apply bind_congr
  intro name
  change (rows.mapM (rowOf 1) >>= _) = ((cells.map fun cell => .list [cell]).mapM (rowOf 1) >>= _)
  rw [mapM_rowOf areRows]

namespace Session

variable {store : Store} {index : Nat}

/-- A call on a query that is given values by position only. -/
def give (index : Nat) (method : String) (values : List Value) : Session Reply :=
  queryCall index method { positional := values } none

theorem perform?_of_agree {α : Type} {run other : Session α} (agree : Run.Agree run other) :
    perform? run store = perform? other store := by
  rcases agree store with ⟨outcomes, states⟩
  unfold perform?
  generalize perform run store = done at *
  generalize perform other store = otherDone at *
  rcases done with ⟨outcome, after⟩
  rcases otherDone with ⟨otherOutcome, otherAfter⟩
  cases outcomes with
  | failed => rfl
  | done isEqual =>
      cases isEqual
      cases states
      rfl

theorem perform?_changeCall {change : Clauses → Outcome Clauses} :
    perform? (changeCall index change) store = store.queries[index]?.bind fun record =>
      (change record.clauses).toOption.map fun clauses =>
        (.query index, { store with queries := store.queries.modify index fun record => { record with clauses } }) := by
  rw [changeCall, perform?_bind, perform?_query, Option.bind_map]
  apply congrArg (store.queries[index]?.bind ·)
  funext record
  rw [Function.comp_apply, perform?_bind, perform?_ofOutcome, Option.bind_map]
  cases change record.clauses <;> rfl

theorem perform?_changeCall_bind {first second : Clauses → Outcome Clauses} :
    perform? (do let _ ← changeCall index first; changeCall index second) store =
      perform? (changeCall index fun clauses => first clauses >>= second) store := by
  rw [perform?_bind]
  simp only [perform?_changeCall]
  cases found : store.queries[index]? with
  | none => rfl
  | some record =>
      simp only [Option.bind_some]
      cases isFirst : first record.clauses with
      | error => rfl
      | ok clauses =>
          have isMade : ((Except.ok clauses : Outcome Clauses) >>= second) = second clauses := rfl
          simp only [Except.toOption, Option.map_some, Option.bind_some, List.getElem?_modify_eq, Option.map_eq_map,
            found, isMade, List.modify_modify_eq, Function.comp_def]

theorem perform?_addPatterns {values : List Value} :
    perform? (addPatterns index values) store =
      (Value.asPatterns (values.filter (!·.isQuery))).toOption.map fun patterns =>
        ((), { store with queries := store.queries.modify index fun record => { record with
          clauses := { record.clauses with patterns := record.clauses.patterns ++ patterns }
          subqueries := record.subqueries ++ values.filterMap queryIndex? } }) := by
  rw [addPatterns, perform?_bind, perform?_ofOutcome, Option.bind_map]
  cases Value.asPatterns (values.filter (!·.isQuery)) <;> rfl

theorem toOption_asPatterns_append {values others : List Value} :
    (Value.asPatterns (values ++ others)).toOption =
      (Value.asPatterns values).toOption.bind fun first => (Value.asPatterns others).toOption.map (first ++ ·) := by
  unfold Value.asPatterns
  rw [List.mapM_append]
  cases values.mapM Value.asPattern <;> cases others.mapM Value.asPattern <;> rfl

theorem perform?_addPatterns_append {values others : List Value} :
    perform? (addPatterns index (values ++ others)) store =
      perform? (do addPatterns index values; addPatterns index others) store := by
  rw [perform?_bind]
  simp only [perform?_addPatterns, List.filter_append, List.filterMap_append, toOption_asPatterns_append]
  cases (Value.asPatterns (values.filter (!·.isQuery))).toOption with
  | none => rfl
  | some first =>
      cases (Value.asPatterns (others.filter (!·.isQuery))).toOption with
      | none => rfl
      | some rest =>
          simp only [Option.bind_some, Option.map_some, List.modify_modify_eq, Function.comp_def, List.append_assoc]

theorem perform?_give_where {method : String} (isMethod : method ∈ ["where", "whether"]) {values others : List Value} :
    perform? (give index method (values ++ others)) store =
      perform? (do let _ ← give index method values; give index method others) store := by
  have isWhere (values : List Value) :
      give index method values = (do addPatterns index values; return .query index) := by
    simp only [List.mem_cons, List.not_mem_nil, or_false] at isMethod
    rcases isMethod with rfl | rfl <;> rfl
  have isLast : (do let _ ← give index method values; give index method others) = (do
      (do addPatterns index values; addPatterns index others)
      return .query index) := by
    simp [isWhere]
  rw [isLast, isWhere, perform?_bind, perform?_bind, perform?_addPatterns_append]

/-! ## Declarations -/

/-- The names that a call declares, with what they stand for: those of a mapping, and then the named arguments. -/
inductive Declares : Arguments → List (Value × Value) → Prop
  | mapping {entries : List (Value × Value)} {named : List (String × Value)}
      (apart : (entries ++ named.map fun entry => (Value.text entry.1, entry.2)).Pairwise
        fun first second => Value.sameKey first.1 second.1 = false) :
      Declares ⟨[.map entries], named⟩ (entries ++ named.map fun entry => (Value.text entry.1, entry.2))
  | named {named : List (String × Value)} (isNonempty : named ≠ []) :
      Declares ⟨[], named⟩ (named.map fun entry => (Value.text entry.1, entry.2))

/-- A call for each name, with its declaration as a text. -/
def declareEach (index : Nat) (names : List (Value × Value)) : Session Reply := do
  names.forM fun entry => do
    let text ← ofOutcome (declaration entry.1 entry.2)
    let _ ← give index "prefix" [.text text]
  return .query index

theorem declareCall_eq {value : Value} {named : List (String × Value)} {names : List (Value × Value)}
    (areDeclared : declaredBy value named = .ok (none, names)) :
    declareCall index value named = declareEach index names := by
  have one (text : String) : give index "prefix" [.text text] = (do
      changeClauses index (·.addDeclaration text)
      return .query index) := rfl
  have added : declareCall index value named = (do
      names.forM fun entry => do
        let text ← ofOutcome (declaration entry.1 entry.2)
        changeClauses index (·.addDeclaration text)
      return .query index) := by
    rw [declareCall, areDeclared]
    rfl
  rw [added]
  simp [declareEach, one]

theorem Declares.queryCall {arguments : Arguments} {names : List (Value × Value)}
    (declares : Declares arguments names) : queryCall index "prefix" arguments none = declareEach index names := by
  cases declares with
  | mapping apart =>
      apply declareCall_eq
      rw [← Value.foldl_insertEntry apart]
      rfl
  | @named named isNonempty =>
      apply declareCall_eq
      have notEmpty : (named.map fun entry => (Value.text entry.1, entry.2)).isEmpty = false := by
        simpa using isNonempty
      unfold declaredBy
      simp only [notEmpty]
      rfl

/-! ## Entries -/

/-- The entries of an order or a grouping. -/
def heldEntries (method : String) (clauses : Clauses) : List OrderCondition :=
  match method with
  | "order" | "order_by" => clauses.orderBy
  | _ => clauses.groupBy

/-- The entries that a query holds after a call that sets them, unless the call fails. -/
def entriesAfter (store : Store) (index : Nat) (method : String) (entries : List Value) :
    Option (List OrderCondition) :=
  (perform? (give index method entries) store).bind fun done =>
    done.2.queries[index]?.map fun record => heldEntries method record.clauses

theorem give_entries (index : Nat) {method : String} (isMethod : method ∈ ["order", "order_by", "group", "group_by"]) :
    ∃ set : Clauses → List OrderCondition → Clauses,
      (∀ entries, give index method entries =
        changeCall index fun clauses => do return set clauses (← conditions entries)) ∧
      ∀ clauses conditions, heldEntries method (set clauses conditions) = conditions := by
  simp only [List.mem_cons, List.not_mem_nil, or_false] at isMethod
  rcases isMethod with rfl | rfl | rfl | rfl
  · exact ⟨fun clauses orderBy => { clauses with orderBy }, fun _ => rfl, fun _ _ => rfl⟩
  · exact ⟨fun clauses orderBy => { clauses with orderBy }, fun _ => rfl, fun _ _ => rfl⟩
  · exact ⟨fun clauses groupBy => { clauses with groupBy }, fun _ => rfl, fun _ _ => rfl⟩
  · exact ⟨fun clauses groupBy => { clauses with groupBy }, fun _ => rfl, fun _ _ => rfl⟩

theorem entriesAfter_eq {method : String} (isMethod : method ∈ ["order", "order_by", "group", "group_by"])
    {entries : List Value} :
    entriesAfter store index method entries = store.queries[index]?.bind fun _ => (conditions entries).toOption := by
  rcases give_entries index isMethod with ⟨set, isCall, holds⟩
  rw [entriesAfter, isCall, perform?_changeCall]
  cases found : store.queries[index]? with
  | none => rfl
  | some record =>
      cases conditions entries with
      | error => rfl
      | ok conditions =>
          simp [found, bind, Except.bind, pure, Except.pure, Except.toOption, holds]

theorem perform?_give_map {method : String} (isMethod : method ∈ ["order", "order_by", "group", "group_by"])
    {entries : List (Value × Value)} {pairs : List Value}
    (arePairs : List.Forall₂ (fun entry pair => pair.Lists [entry.1, entry.2]) entries pairs) :
    perform? (give index method [.map entries]) store = perform? (give index method pairs) store := by
  rcases give_entries index isMethod with ⟨set, isCall, -⟩
  rw [isCall, isCall]
  apply perform?_of_agree
  apply agree_changeCall
  intro clauses
  exact (agree_conditions_map arePairs).bind_eq fun _ => agree_refl _

theorem entriesAfter_append {method : String} (isMethod : method ∈ ["order", "order_by", "group", "group_by"])
    {entries others : List Value} :
    entriesAfter store index method (entries ++ others) = (entriesAfter store index method entries).bind fun first =>
      (entriesAfter store index method others).map (first ++ ·) := by
  rw [entriesAfter_eq isMethod, entriesAfter_eq isMethod, entriesAfter_eq isMethod, conditions_append]
  cases store.queries[index]? with
  | none => rfl
  | some record => cases conditions entries <;> cases conditions others <;> rfl

theorem perform?_give_last {method word : String} (isMethod : method ∈ ["order", "order_by"])
    (isWord : word ∈ ["asc", "desc"]) {entries : List Value} {key pair : Value}
    (isPair : pair.Lists [key, .text word]) :
    perform? (give index method (entries ++ [pair])) store =
      perform? (do let _ ← give index method entries; give index word [key]) store := by
  have isOrder (values : List Value) :
      give index method values = changeCall index fun clauses => clauses.setOrder values := by
    simp only [List.mem_cons, List.not_mem_nil, or_false] at isMethod
    rcases isMethod with rfl | rfl <;> rfl
  have isAdded : ∃ direction, directionOf (.text word) = .ok direction ∧
      give index word [key] = changeCall index fun clauses => clauses.addOrder direction key := by
    simp only [List.mem_cons, List.not_mem_nil, or_false] at isWord
    rcases isWord with rfl | rfl
    · exact ⟨"asc", rfl, rfl⟩
    · exact ⟨"desc", rfl, rfl⟩
  rcases isAdded with ⟨direction, isDirection, isAdded⟩
  rw [isOrder, isOrder, isAdded, perform?_changeCall_bind]
  apply perform?_of_agree
  apply agree_changeCall
  intro clauses
  exact Clauses.agree_setOrder_last isDirection isPair

theorem give_values {named : Value} {data : List Value} :
    give index "values" (named :: data) = changeCall index fun clauses => clauses.setValues named data := rfl

/-! ## Two shapes of a call -/

/-- The shapes of a call leave the same store, unless both are rejected: a mapping and its pairs, entries together and
one by one, a mapping of names and a text for each, inline data of one variable with and without lists, and patterns and
queries together and one after the other. -/
theorem shapes_agree (store : Store) (index : Nat) :
    (∀ method ∈ ["order", "order_by", "group", "group_by"], ∀ entries pairs,
      List.Forall₂ (fun entry pair => pair.Lists [entry.1, entry.2]) entries pairs →
      perform? (give index method [.map entries]) store = perform? (give index method pairs) store) ∧
    (∀ method ∈ ["order", "order_by"], ∀ word ∈ ["asc", "desc"], ∀ entries key pair, pair.Lists [key, .text word] →
      perform? (give index method (entries ++ [pair])) store =
        perform? (do let _ ← give index method entries; give index word [key]) store) ∧
    (∀ method ∈ ["order", "order_by", "group", "group_by"], ∀ entries others,
      entriesAfter store index method (entries ++ others) = (entriesAfter store index method entries).bind fun first =>
        (entriesAfter store index method others).map (first ++ ·)) ∧
    (∀ arguments names, Declares arguments names →
      perform? (queryCall index "prefix" arguments none) store = perform? (declareEach index names) store) ∧
    (∀ named list cells rows, named.items? = none → (∀ cell ∈ cells, cell.items? = none) → list.Lists [named] →
      List.Forall₂ (fun cell row => row.Lists [cell]) cells rows →
      perform? (give index "values" (list :: rows)) store = perform? (give index "values" (named :: cells)) store) ∧
    (∀ method ∈ ["where", "whether"], ∀ values others,
      perform? (give index method (values ++ others)) store =
        perform? (do let _ ← give index method values; give index method others) store) := by
  refine ⟨?_, ?_, ?_, ?_, ?_, ?_⟩
  · intro method isMethod entries pairs arePairs
    exact perform?_give_map isMethod arePairs
  · intro method isMethod word isWord entries key pair isPair
    exact perform?_give_last isMethod isWord isPair
  · intro method isMethod entries others
    exact entriesAfter_append isMethod
  · intro arguments names declares
    rw [declares.queryCall]
  · intro named list cells rows isSingle noRows isList areRows
    simp only [give_values, Clauses.setValues, valuesBlock_rows isSingle noRows isList areRows]
  · intro method isMethod values others
    exact perform?_give_where isMethod

/-- An order, declarations and inline data of a new selection, in two shapes each. -/
theorem shapes_agree_selection :
    let store : Store := { queries := [selectAll] }
    let key : Value := .text "x"
    let pair : Value := .tuple [key, .text "desc"]
    let names : Arguments := ⟨[.map [(.text "dc", .text "http://h/")]], [("ex", .text "http://g/")]⟩
    (perform? (give 0 "order" [.map [(key, .text "desc")]]) store = perform? (give 0 "order" [pair]) store ∧
      perform? (give 0 "order" [.text "y", pair]) store =
        perform? (do let _ ← give 0 "order" [.text "y"]; give 0 "desc" [key]) store ∧
      entriesAfter store 0 "order" [.text "y", pair] = some [.variable "y" none, .variable "x" (some "desc")]) ∧
    (perform? (queryCall 0 "prefix" names none) store).map (·.2.queries.map (·.clauses.prologue)) =
      some [["dc: <http://h/>", "ex: <http://g/>"]] ∧
    perform? (give 0 "values" [.list [key], .tuple [.text "a"]]) store =
      perform? (give 0 "values" [key, .text "a"]) store := by
  intro store key pair names
  rcases shapes_agree store 0 with ⟨mapping, last, _, declared, rows, _⟩
  have isPair : pair.Lists [key, .text "desc"] := .tuple _
  have declares : Declares names [(.text "dc", .text "http://h/"), (.text "ex", .text "http://g/")] :=
    .mapping (by decide)
  refine ⟨⟨?_, ?_, rfl⟩, ?_, ?_⟩
  · exact mapping "order" (by simp) _ _ (.cons isPair .nil)
  · exact last "order" (by simp) "desc" (by simp) [.text "y"] key pair isPair
  · rw [declared names _ declares]
    rfl
  · exact rows key _ [.text "a"] _ rfl (by simp [Value.items?]) (.list _) (.cons (.tuple _) .nil)

end Session

end Sparql
