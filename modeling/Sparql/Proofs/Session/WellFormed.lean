import Sparql.Proofs.Session.Script
import Sparql.Proofs.Value.Part

/-!
# Queries are well formed

What the builders check at each call holds of all that a session ever holds: of the filters, inline data,
conditions, bounds, graphs and tagged unions of every query, and of the filters of every optional part. Refused
calls are no exception, although some of them leave a part of what they were to do. Patterns have a checked form
too, but one that is given ready-made is not looked at.
-/

namespace Sparql

open Sparql.Text

/-! ## What is well formed -/

/-- The subject of a pattern is no literal, and its predicate is an IRI or a variable. -/
structure Pattern.WellFormed (pattern : Pattern) : Prop where
  subject : pattern.subject.isLiteral = false
  predicate : (∃ iri, pattern.predicate = .iri iri) ∨ ∃ name, pattern.predicate = .variable name

/-- Inline data of at least one variable. Every row has a cell for each, which holds no variable. -/
structure ValuesBlock.WellFormed (block : ValuesBlock) : Prop where
  names : block.names ≠ []
  width : ∀ row ∈ block.rows, row.length = block.names.length
  cells : ∀ row ∈ block.rows, ∀ term, some term ∈ row → term.isVariable = false

/-- An expression is not blank. A variable may have either direction or none. -/
def OrderCondition.WellFormed : OrderCondition → Prop
  | .variable _ direction => ∀ given, direction = some given → given ∈ directions
  | .expression text => isAllBlank text.toList = false

/-- What the clauses of every query satisfy, apart from their patterns. -/
structure Clauses.WellFormed (clauses : Clauses) : Prop where
  filters : ∀ filter ∈ clauses.filters, isAllBlank filter.toList = false
  values : ∀ block, clauses.values = some block → block.WellFormed
  orderBy : ∀ condition ∈ clauses.orderBy, condition.WellFormed
  groupBy : ∀ condition ∈ clauses.groupBy, condition.WellFormed
  offset : ∀ bound, clauses.offset = some bound → 0 ≤ bound
  limit : ∀ bound, clauses.limit = some bound → 0 ≤ bound
  fromGraphs : ∀ graph ∈ clauses.fromGraphs, ∃ iri, graph = .iri iri
  bindUnions : ∀ block ∈ clauses.bindUnions, block.branches ≠ []

/-- What every optional part satisfies, apart from its patterns. -/
structure OptionalGroup.WellFormed (group : OptionalGroup) : Prop where
  filters : ∀ filter ∈ group.filters, isAllBlank filter.text.toList = false

/-- A store whose queries and optional parts are well formed. -/
structure Store.WellFormed (store : Store) : Prop where
  queries : ∀ record ∈ store.queries, record.clauses.WellFormed
  groups : ∀ group ∈ store.groups, group.WellFormed

/-! ## Where patterns come from -/

/-- All patterns of a query: its own, those of its template and those of its tagged unions. -/
def Clauses.allPatterns (clauses : Clauses) : List Pattern :=
  clauses.patterns ++ clauses.template ++ clauses.bindUnions.flatMap fun block => block.branches.flatMap (·.patterns)

/-- A pattern stands in a query or in an optional part. -/
def Store.HasPattern (store : Store) (pattern : Pattern) : Prop :=
  (∃ record ∈ store.queries, pattern ∈ record.clauses.allPatterns) ∨ ∃ group ∈ store.groups, pattern ∈ group.patterns

/-- A pattern is given to a call as it is. -/
def Arguments.Gives (arguments : Arguments) (pattern : Pattern) : Prop :=
  ∃ value ∈ arguments.positional, value.Gives pattern

/-- Where the patterns come from that a call leaves: they were there before it, were checked by it, or were given to
it as they are. -/
def Store.Sources (store : Store) (arguments : Arguments) (pattern : Pattern) : Prop :=
  store.HasPattern pattern ∨ pattern.IsChecked ∨ arguments.Gives pattern

section Sources

variable {store : Store} {arguments : Arguments} {values : List Value} {patterns : List Pattern} {pattern : Pattern}
  {clauses after : Clauses}

theorem Store.sources_of_asPatterns (areGiven : ∀ value ∈ values, value ∈ arguments.positional)
    (read : Value.asPatterns values = .ok patterns) : ∀ pattern ∈ patterns, store.Sources arguments pattern := by
  intro pattern mem
  rcases Value.checked_or_gives_of_asPatterns read mem with checked | ⟨value, isValue, gives⟩
  · exact .inr (.inl checked)
  · exact .inr (.inr ⟨value, areGiven value isValue, gives⟩)

theorem Clauses.allPatterns_of_bound {value : Value}
    (done : clauses.setOffset value = .ok after ∨ clauses.setLimit value = .ok after) :
    after.allPatterns = clauses.allPatterns := by
  rcases done with done | done
  · unfold setOffset at done
    split at done
    · cases done
      rfl
    · rcases Outcome.map_eq_ok.mp done with ⟨_, _, rfl⟩
      rfl
  · unfold setLimit at done
    split at done
    · cases done
      rfl
    · rcases Outcome.map_eq_ok.mp done with ⟨_, _, rfl⟩
      rfl

theorem Clauses.sources_of_addBindUnion {optional : Value}
    (done : clauses.addBindUnion arguments.positional optional = .ok after) :
    ∀ pattern ∈ after.allPatterns, pattern ∈ clauses.allPatterns ∨ store.Sources arguments pattern := by
  rcases Outcome.bind_eq_ok.mp done with ⟨union, read, ⟨⟩⟩
  intro pattern mem
  simp only [allPatterns, List.flatMap_append, List.flatMap_cons, List.flatMap_nil, List.append_nil, ← List.append_assoc]
    at mem
  rcases List.mem_append.mp mem with old | new
  · exact .inl old
  · rcases List.mem_flatMap.mp new with ⟨branch, isBranch, isPattern⟩
    unfold bindUnionOf at read
    split at read
    · rcases Outcome.bind_eq_ok.mp read with ⟨_, ⟨⟩, _⟩
    · simp only [Outcome.bind_eq_ok, Outcome.pure_eq_ok] at read
      rcases read with ⟨branches, areRead, rfl⟩
      rcases Outcome.exists_of_mem_mapM areRead isBranch with ⟨value, isValue, read⟩
      exact .inr (.inr ((Value.checked_or_gives_of_bindBranchOf read isPattern).imp id fun gives => ⟨value, isValue, gives⟩))

/-- A call that changes the clauses of a query adds patterns that are checked or given to it. -/
theorem Clauses.sources_of_change {name : String} {change : Clauses → Outcome Clauses}
    (named : change? name arguments = some change) (done : change clauses = .ok after) :
    ∀ pattern ∈ after.allPatterns, pattern ∈ clauses.allPatterns ∨ store.Sources arguments pattern := by
  have kept {other : Clauses} (same : other.allPatterns = clauses.allPatterns) :
      ∀ pattern ∈ other.allPatterns, pattern ∈ clauses.allPatterns ∨ store.Sources arguments pattern :=
    fun pattern mem => .inl (same ▸ mem)
  unfold change? at named
  split at named <;> cases named
  case h_3 =>
      rcases Outcome.bind_eq_ok.mp done with ⟨_, _, done⟩
      split at done
      · exact sources_of_addBindUnion done
      · cases done
  case h_10 | h_11 =>
      rcases Outcome.map_eq_ok.mp done with ⟨_, _, rfl⟩
      exact kept rfl
  all_goals rcases Outcome.bind_eq_ok.mp done with ⟨value, _, done⟩
  case h_13 =>
      unfold addFromGraphs at done
      split at done
      · rcases Outcome.bind_eq_ok.mp done with ⟨_, ⟨⟩, _⟩
      · rcases Outcome.bind_eq_ok.mp done with ⟨_, _, ⟨⟩⟩
        exact kept rfl
  case h_14 => exact kept (allPatterns_of_bound (.inl done))
  case h_15 => exact kept (allPatterns_of_bound (.inr done))
  all_goals
    rcases Outcome.bind_eq_ok.mp done with ⟨_, _, ⟨⟩⟩
    exact kept rfl

theorem OptionalGroup.sources_of_change {group changed : OptionalGroup} {name : String}
    {change : OptionalGroup → Outcome OptionalGroup} (named : change? name arguments = some change)
    (done : change group = .ok changed) :
    ∀ pattern ∈ changed.patterns, pattern ∈ group.patterns ∨ store.Sources arguments pattern := by
  unfold change? at named
  split at named <;> cases named
  · rcases Outcome.bind_eq_ok.mp done with ⟨values, given, done⟩
    rcases Outcome.bind_eq_ok.mp done with ⟨added, read, ⟨⟩⟩
    have areGiven : arguments.positional = values := by
      unfold Arguments.onlyPositions at given
      split at given <;> cases given
      rfl
    intro pattern mem
    rcases List.mem_append.mp mem with old | new
    · exact .inl old
    · exact .inr (Store.sources_of_asPatterns (fun value isValue => areGiven ▸ isValue) read pattern new)
  · rcases Outcome.bind_eq_ok.mp done with ⟨_, _, done⟩
    rcases Outcome.bind_eq_ok.mp done with ⟨_, _, ⟨⟩⟩
    exact fun pattern mem => .inl mem

theorem Clauses.allPatterns_select {named : List Value} {count : Value} (done : select named count = .ok clauses) :
    clauses.allPatterns = [] := by
  simp only [select, Outcome.bind_eq_ok, Outcome.pure_eq_ok] at done
  rcases done with ⟨_, _, _, _, rfl⟩
  rfl

theorem Clauses.allPatterns_describe {resources : List Value} (done : describe resources = .ok clauses) :
    clauses.allPatterns = [] := by
  simp only [describe, Outcome.bind_eq_ok, Outcome.pure_eq_ok] at done
  rcases done with ⟨_, _, rfl⟩
  rfl

theorem Clauses.sources_of_construct (done : construct arguments.positional = .ok clauses) :
    ∀ pattern ∈ clauses.allPatterns, store.Sources arguments pattern := by
  unfold construct at done
  split at done
  · rcases Outcome.bind_eq_ok.mp done with ⟨_, ⟨⟩, _⟩
  · simp only [Outcome.bind_eq_ok, Outcome.pure_eq_ok] at done
    rcases done with ⟨template, read, rfl⟩
    simpa [allPatterns] using Store.sources_of_asPatterns (fun _ => id) read

/-- A query is made with a template at most, and without patterns otherwise. -/
theorem QueryRecord.sources_of_construct {name : String} {record : QueryRecord} {made : Outcome QueryRecord}
    (named : Session.construct? name arguments = some made) (done : made = .ok record) :
    ∀ pattern ∈ record.clauses.allPatterns, store.Sources arguments pattern := by
  have empty (none : record.clauses.allPatterns = []) :
      ∀ pattern ∈ record.clauses.allPatterns, store.Sources arguments pattern := by
    simp [none]
  unfold Session.construct? at named
  split at named <;> cases named
  case h_1 =>
      rcases Outcome.bind_eq_ok.mp done with ⟨values, _, done⟩
      split at done
      · rcases Outcome.bind_eq_ok.mp done with ⟨form, _, ⟨⟩⟩
        exact empty rfl
      · cases done
  case h_2 =>
      rcases Outcome.bind_eq_ok.mp done with ⟨binding, _, ⟨⟩⟩
      exact empty rfl
  case h_3 | h_4 | h_5 =>
      rcases Outcome.bind_eq_ok.mp done with ⟨values, _, done⟩
      split at done
      · rcases Outcome.bind_eq_ok.mp done with ⟨clauses, made, ⟨⟩⟩
        first
          | exact empty (Clauses.allPatterns_select made)
          | exact empty (Clauses.allPatterns_describe made)
          | exact Clauses.sources_of_construct made
      · cases done

end Sources

/-! ## What the checks ensure -/

theorem Pattern.IsChecked.wellFormed {pattern : Pattern} (checked : pattern.IsChecked) : pattern.WellFormed := by
  refine ⟨checked.subject, ?_⟩
  have isName := checked.predicate
  rcases isPredicate : pattern.predicate with iri | label | literal | name
  · exact .inl ⟨iri, rfl⟩
  · simp [isPredicate, Term.isLiteral, Term.isBlank] at isName
  · simp [isPredicate, Term.isLiteral] at isName
  · exact .inr ⟨name, rfl⟩

theorem isAllBlank_dropWhile {text : List Char} (notBlank : isAllBlank text = false) :
    isAllBlank (text.dropWhile isBlank) = false := by
  induction text with
  | nil => exact notBlank
  | cons c rest ih =>
      rw [List.dropWhile_cons]
      split
      · refine ih ?_
        simpa [isAllBlank, *] using notBlank
      · exact notBlank

theorem isAllBlank_reverse (text : List Char) : isAllBlank text.reverse = isAllBlank text := by
  simp [isAllBlank]

/-- Trimming leaves what is not blank. -/
theorem isAllBlank_trim {text : List Char} (notBlank : isAllBlank text = false) :
    isAllBlank (trim text) = false := by
  unfold trim trimRight trimLeft
  rw [isAllBlank_reverse]
  refine isAllBlank_dropWhile ?_
  rw [isAllBlank_reverse]
  exact isAllBlank_dropWhile notBlank

theorem filterExpression_notBlank {value : Value} {added : List FilterExpression}
    (read : filterExpression value = .ok added) :
    ∀ filter ∈ added, isAllBlank filter.text.toList = false := by
  have unlessBlank : ∀ expression : FilterExpression,
      ∀ filter ∈ (if isAllBlank expression.text.toList then [] else [expression]),
        isAllBlank filter.text.toList = false := by
    intro expression filter mem
    split at mem
    · cases mem
    · rename_i notBlank
      cases List.mem_singleton.mp mem
      simpa using notBlank
  unfold filterExpression at read
  split at read <;> cases read
  · simp
  · exact unlessBlank _
  · exact unlessBlank _

theorem directionOf_known {value : Value} {direction : String} (read : directionOf value = .ok direction) :
    direction ∈ directions := by
  unfold directionOf at read
  split at read
  · split at read <;> cases read
    simpa using ‹directions.contains _ = true›
  · cases read

theorem directedCondition_wellFormed {key direction : Value} {condition : OrderCondition}
    (read : directedCondition key direction = .ok condition) : condition.WellFormed := by
  simp only [directedCondition, Outcome.bind_eq_ok, Outcome.pure_eq_ok] at read
  rcases read with ⟨name, _, direction, known, rfl⟩
  rintro _ ⟨⟩
  exact directionOf_known known

theorem mappedCondition_wellFormed {entry : Value × Value} {condition : OrderCondition}
    (read : mappedCondition entry = .ok condition) : condition.WellFormed := by
  unfold mappedCondition at read
  split at read
  · exact directedCondition_wellFormed read
  · cases read

theorem conditionsOf_wellFormed {entry : Value} {conditions : List OrderCondition}
    (read : conditionsOf entry = .ok conditions) :
    ∀ condition ∈ conditions, condition.WellFormed := by
  unfold conditionsOf at read
  split at read
  · exact Outcome.forall_of_mapM read fun _ _ => mappedCondition_wellFormed
  · split at read
    · split at read
      · rcases Outcome.map_eq_ok.mp read with ⟨condition, made, rfl⟩
        simpa using directedCondition_wellFormed made
      · cases read
    · cases read
    · split at read
      · rcases Outcome.map_eq_ok.mp read with ⟨name, _, rfl⟩
        simp [OrderCondition.WellFormed]
      · split at read
        · split at read <;> cases read
          rename_i notBlank
          simpa [OrderCondition.WellFormed, trimmed] using isAllBlank_trim (by simpa using notBlank)
        · cases read

theorem conditions_wellFormed {entries : List Value} {read : List OrderCondition}
    (done : conditions entries = .ok read) : ∀ condition ∈ read, condition.WellFormed := by
  rcases Outcome.map_eq_ok.mp done with ⟨parts, partsDone, rfl⟩
  intro condition mem
  rcases List.mem_flatten.mp mem with ⟨part, isPart, mem⟩
  exact Outcome.forall_of_mapM partsDone (fun _ _ => conditionsOf_wellFormed) part isPart condition mem

theorem cellOf_notVariable {value : Value} {cell : Option Term} (read : cellOf value = .ok cell) :
    ∀ term, cell = some term → term.isVariable = false := by
  unfold cellOf at read
  split at read <;> cases read
  · rintro _ ⟨⟩
  · rename_i term notVariable
    rintro _ ⟨⟩
    cases term with
    | «variable» name => exact absurd rfl (notVariable name)
    | iri _ | blank _ | literal _ => rfl
  · rintro _ ⟨⟩
    rfl

theorem rowOf_wellFormed {width : Nat} {value : Value} {row : List (Option Term)}
    (read : rowOf width value = .ok row) :
    row.length = width ∧ ∀ term, some term ∈ row → term.isVariable = false := by
  unfold rowOf at read
  split at read
  · cases read
  · split at read
    · cases read
    · rename_i cells _ sameWidth
      have notVariable : ∀ cell ∈ row, ∀ term, cell = some term → term.isVariable = false :=
        Outcome.forall_of_mapM read fun _ _ => cellOf_notVariable
      refine ⟨?_, fun term mem => notVariable _ mem term rfl⟩
      rw [← (Outcome.mapM_eq_ok.mp read).length_eq]
      exact Decidable.not_not.mp sameWidth

theorem valuesBlock_wellFormed {named : Value} {data : List Value} {block : ValuesBlock}
    (read : valuesBlock named data = .ok block) : block.WellFormed := by
  unfold valuesBlock at read
  simp only at read
  split at read
  · cases read
  · rename_i given
    rcases Outcome.bind_eq_ok.mp read with ⟨names, namesDone, read⟩
    have rowsRead : ∃ cells, List.mapM (rowOf names.length) cells = .ok block.rows ∧
        names = block.names := by
      split at read <;> simp only [Outcome.bind_eq_ok, Outcome.pure_eq_ok] at read <;>
        rcases read with ⟨cells, _, rows, rowsDone, rfl⟩ <;> exact ⟨cells, rowsDone, rfl⟩
    rcases rowsRead with ⟨cells, rowsDone, rfl⟩
    have sameLength := (Outcome.mapM_eq_ok.mp namesDone).length_eq
    have rowWellFormed := Outcome.forall_of_mapM rowsDone fun _ _ => rowOf_wellFormed
    refine ⟨?_, fun row mem => (rowWellFormed row mem).1, fun row mem => (rowWellFormed row mem).2⟩
    intro noNames
    rw [noNames] at sameLength
    exact given (by simpa using List.length_eq_zero_iff.mp sameLength)

theorem bindUnionOf_branches {branches : List Value} {optional : Value} {block : BindUnion}
    (read : bindUnionOf branches optional = .ok block) : block.branches ≠ [] := by
  unfold bindUnionOf at read
  split at read
  · cases read
  · rename_i given
    simp only [Outcome.bind_eq_ok, Outcome.pure_eq_ok] at read
    rcases read with ⟨built, builtDone, rfl⟩
    rintro rfl
    have sameLength := (Outcome.mapM_eq_ok.mp builtDone).length_eq
    exact given (by simpa using List.length_eq_zero_iff.mp sameLength)

/-! ## What the changes keep -/

theorem QueryRecord.IsNew.wellFormed {record : QueryRecord} (isNew : record.IsNew) :
    record.clauses.WellFormed := by
  rcases isNew with ⟨form, projection, counts, template, binding, rfl⟩
  constructor <;> simp

theorem Clauses.Change.wellFormed {clauses after : Clauses} (change : clauses.Change after)
    (wellFormed : clauses.WellFormed) : after.WellFormed := by
  cases change with
  | filters read =>
      refine { wellFormed with filters := ?_ }
      intro filter mem
      rcases List.mem_append.mp mem with old | new
      · exact wellFormed.filters filter old
      · rcases List.mem_map.mp new with ⟨expression, isAdded, rfl⟩
        exact filterExpression_notBlank read expression isAdded
  | values read =>
      refine { wellFormed with values := ?_ }
      rintro _ ⟨⟩
      exact valuesBlock_wellFormed read
  | bindUnion read =>
      refine { wellFormed with bindUnions := ?_ }
      intro block mem
      rcases List.mem_append.mp mem with old | new
      · exact wellFormed.bindUnions block old
      · cases List.mem_singleton.mp new
        exact bindUnionOf_branches read
  | orderBy done => exact { wellFormed with orderBy := conditions_wellFormed done }
  | direction name known =>
      refine { wellFormed with orderBy := ?_ }
      intro condition mem
      rcases List.mem_append.mp mem with old | new
      · exact wellFormed.orderBy condition old
      · cases List.mem_singleton.mp new
        rintro _ ⟨⟩
        exact known
  | groupBy done => exact { wellFormed with groupBy := conditions_wellFormed done }
  | fromGraphs added =>
      refine { wellFormed with fromGraphs := ?_ }
      intro graph mem
      rcases List.mem_append.mp mem with old | new
      · exact wellFormed.fromGraphs graph old
      · rcases List.mem_map.mp new with ⟨iri, _, rfl⟩
        exact ⟨iri, rfl⟩
  | offset bound =>
      refine { wellFormed with offset := ?_ }
      rintro _ ⟨⟩
      exact bound
  | limit bound =>
      refine { wellFormed with limit := ?_ }
      rintro _ ⟨⟩
      exact bound
  | patterns _ | distinct _ | reduced _ | graph _ | declaration _ => exact { wellFormed with }

theorem QueryRecord.Change.wellFormed {store : Store} {record after : QueryRecord}
    (change : record.Change store after) (wellFormed : record.clauses.WellFormed) :
    after.clauses.WellFormed := by
  cases change with
  | clauses changed => exact changed.wellFormed wellFormed
  | _ => exact wellFormed

theorem OptionalGroup.Change.wellFormed {group after : OptionalGroup} (change : group.Change after)
    (wellFormed : group.WellFormed) : after.WellFormed := by
  cases change with
  | patterns _ => exact { wellFormed with }
  | filters read =>
      refine ⟨fun filter mem => ?_⟩
      rcases List.mem_append.mp mem with old | new
      · exact wellFormed.filters filter old
      · exact filterExpression_notBlank read filter new

theorem Store.Change.wellFormed {store after : Store} (change : store.Change after)
    (wellFormed : store.WellFormed) : after.WellFormed := by
  cases change with
  | query isNew =>
      refine { wellFormed with queries := ?_ }
      intro record mem
      rcases List.mem_append.mp mem with old | new
      · exact wellFormed.queries record old
      · cases List.mem_singleton.mp new
        exact isNew.wellFormed
  | queryAt found changed =>
      refine { wellFormed with queries := ?_ }
      intro record mem
      rcases List.mem_or_eq_of_mem_set mem with old | rfl
      · exact wellFormed.queries record old
      · exact changed.wellFormed (wellFormed.queries _ (List.mem_of_getElem? found))
  | group patterns =>
      refine { wellFormed with groups := ?_ }
      intro group mem
      rcases List.mem_append.mp mem with old | new
      · exact wellFormed.groups group old
      · cases List.mem_singleton.mp new
        exact ⟨by simp⟩
  | groupAt found changed =>
      refine { wellFormed with groups := ?_ }
      intro group mem
      rcases List.mem_or_eq_of_mem_set mem with old | rfl
      · exact wellFormed.groups group old
      · exact changed.wellFormed (wellFormed.groups _ (List.mem_of_getElem? found))
  | operation _ | operationAt _ _ | client _ | wire _ | register _ _ | unregister _ =>
      exact { wellFormed with }

/-- Every query and every optional part of a session is well formed, whatever the session does. -/
theorem Store.wellFormed_storeAfter (client : Option Client) (answers : List Answer) (steps : List Step) :
    (Session.storeAfter (start client answers) steps).WellFormed :=
  holds_of_session client answers steps (by constructor <;> simp [start]) Change.wellFormed

end Sparql
