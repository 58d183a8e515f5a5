import Sparql.Proofs.Session.Calls
import Sparql.Proofs.Value.Entries

/-!
# Patterns that are given ready-made

A pattern that is made in a call is checked. One that is given to a call as it is, by itself or in a branch of a tagged
union, is stored as it is. So the patterns of a session are well formed, apart from those that stand in its script.
-/

namespace Sparql

open Sparql.Session

/-! ## The constants of a script -/

namespace Expression

mutual

/-- The constants that an expression is built of. -/
def constants : Expression → List Value
  | .constant value => [value]
  | .list items | .tuple items | .pattern items | .branch items | .graph items => constantsOf items
  | .map entries => constantsOfEntries entries
  | .unreadable | .register _ | .variable _ | .literal .. => []

/-- The constants that some expressions are built of. -/
def constantsOf : List Expression → List Value
  | [] => []
  | item :: rest => constants item ++ constantsOf rest

/-- The constants that the entries of a mapping are built of. -/
def constantsOfEntries : List (Expression × Expression) → List Value
  | [] => []
  | (key, value) :: rest => constants key ++ constants value ++ constantsOfEntries rest

end

end Expression

namespace Step

mutual

/-- A pattern stands in the arguments of a call as it is, or in those of a call in its block. -/
def Gives (pattern : Pattern) : Step → Prop
  | call _ _ positional _ block _ =>
    (∃ constant ∈ Expression.constantsOf positional, constant.Gives pattern) ∨ GivesInside pattern block

/-- A pattern stands in the calls of a block as it is. -/
def GivesInside (pattern : Pattern) : Option (List Step) → Prop
  | none => False
  | some steps => GivesAmong pattern steps

/-- A pattern stands in some calls as it is. -/
def GivesAmong (pattern : Pattern) : List Step → Prop
  | [] => False
  | step :: rest => Gives pattern step ∨ GivesAmong pattern rest

end

end Step

/-! ## Values of arguments -/

namespace Value

variable {constants others : List Value} {value : Value} {pattern : Pattern}

/-- Every pattern that a value gives was checked, or is one that some constants give. -/
def ComesFrom (constants : List Value) (value : Value) : Prop :=
  ∀ pattern, value.Gives pattern → pattern.IsChecked ∨ ∃ constant ∈ constants, constant.Gives pattern

theorem ComesFrom.mono (comes : value.ComesFrom constants) (subset : constants ⊆ others) : value.ComesFrom others :=
  fun pattern gives => (comes pattern gives).imp id fun ⟨constant, mem, given⟩ => ⟨constant, subset mem, given⟩

/-- A value that gives no pattern comes from anywhere. -/
theorem comesFrom_of_not_gives (nothing : ∀ pattern, ¬ value.Gives pattern) : value.ComesFrom constants :=
  fun pattern gives => absurd gives (nothing pattern)

theorem comesFrom_of_contents (notPattern : ∀ pattern, value ≠ .pattern pattern)
    (notBranch : ∀ branch, value ≠ .branch branch) (comes : ∀ item ∈ value.contents, item.ComesFrom constants) :
    value.ComesFrom constants := by
  intro pattern gives
  rcases (gives_iff_contents notPattern notBranch).mp gives with ⟨item, mem, gives⟩
  exact comes item mem pattern gives

theorem not_gives_of_contents (notPattern : ∀ pattern, value ≠ .pattern pattern)
    (notBranch : ∀ branch, value ≠ .branch branch) (nothing : ∀ item ∈ value.contents, ¬ item.Gives pattern) :
    ¬ value.Gives pattern := by
  intro gives
  rcases (gives_iff_contents notPattern notBranch).mp gives with ⟨item, mem, gives⟩
  exact nothing item mem gives

theorem gives_pattern_iff {given : Pattern} : (Value.pattern given).Gives pattern ↔ pattern = given := by
  constructor
  · rintro ⟨part, isPart, isGiven⟩
    cases isPart with
    | here => simpa [eq_comm] using isGiven
    | inside mem _ => cases mem
  · rintro rfl
    exact gives_pattern

theorem gives_branch_iff {branch : BindBranch} : (Value.branch branch).Gives pattern ↔ pattern ∈ branch.patterns := by
  constructor
  · rintro ⟨part, isPart, isGiven⟩
    cases isPart with
    | here => simpa using isGiven
    | inside mem _ => cases mem
  · exact gives_branch

theorem not_gives_statement {statement : Statement} : ¬ statement.toValue.Gives pattern := by
  refine not_gives_of_contents (by simp [Statement.toValue]) (by simp [Statement.toValue]) fun item mem => ?_
  simp only [Statement.toValue, contents, List.mem_cons, List.not_mem_nil, or_false] at mem
  rcases mem with rfl | rfl | rfl <;> exact not_gives_term

theorem not_gives_solution {solution : Solution} : ¬ solution.toValue.Gives pattern := by
  refine not_gives_of_contents (by simp [Solution.toValue]) (by simp [Solution.toValue]) fun item mem => ?_
  rcases List.mem_map.mp mem with ⟨key, _, rfl⟩
  unfold Solution.keyValue
  cases key.text? with
  | none => exact not_gives_null
  | some text => exact not_gives_text

end Value

/-- What calls return gives no patterns. -/
theorem Store.not_gives_valueOf {store : Store} {reply : Reply} {pattern : Pattern} :
    ¬ (store.valueOf reply).Gives pattern := by
  cases reply with
  | solutions rows =>
      refine Value.not_gives_of_contents (by simp [valueOf]) (by simp [valueOf]) fun item mem => ?_
      rcases List.mem_map.mp mem with ⟨row, _, rfl⟩
      exact Value.not_gives_solution
  | statements graph =>
      refine Value.not_gives_of_contents (by simp [valueOf]) (by simp [valueOf]) fun item mem => ?_
      rcases List.mem_map.mp mem with ⟨statement, _, rfl⟩
      exact Value.not_gives_statement
  | result result =>
      refine Value.not_gives_of_contents (by simp [valueOf, QueryResult.toValue])
        (by simp [valueOf, QueryResult.toValue]) fun item mem => ?_
      cases result with
      | boolean value => cases mem
      | solutions declared rows =>
          rcases List.mem_map.mp mem with ⟨row, _, rfl⟩
          exact Value.not_gives_solution
      | graph statements =>
          rcases List.mem_map.mp mem with ⟨statement, _, rfl⟩
          exact Value.not_gives_statement
  | _ => simp [valueOf, clientValue, Value.gives_iff_contents, Value.contents]

namespace Expression

open Value

variable {registers : String → Value}

theorem comesFrom_constant {given value : Value} (done : constantValue given = .ok value) :
    value.ComesFrom [given] := by
  unfold constantValue at done
  split at done <;> cases done
  all_goals exact fun pattern gives => .inr ⟨_, .head _, gives⟩

theorem namedVariable_isTerm {name : String} {value : Value} (done : namedVariable name = .ok value) :
    ∃ term, value = .term term := by
  unfold namedVariable at done
  split at done <;> cases done <;> exact ⟨_, rfl⟩

/-- A pattern that is built is checked. -/
theorem isChecked_of_built {values : List Value} {pattern : Pattern} (read : (Value.list values).asPattern = .ok pattern) :
    pattern.IsChecked := by
  unfold asPattern at read
  split at read
  · next isPattern => cases isPattern
  all_goals first
    | rcases Outcome.map_eq_ok.mp read with ⟨checked, _, rfl⟩
      exact checked.property
    | cases read

mutual

/-- The patterns of a value are those of the constants that it is built of, and such as were checked. -/
theorem comesFrom_evaluate (noPatterns : ∀ name pattern, ¬ (registers name).Gives pattern) (expression : Expression)
    {value : Value} (done : evaluate registers expression = .ok value) : value.ComesFrom expression.constants := by
  cases expression with
  | constant given => exact comesFrom_constant done
  | unreadable => cases done
  | register name =>
      cases done
      exact comesFrom_of_not_gives (noPatterns name)
  | «variable» name =>
      rcases namedVariable_isTerm done with ⟨term, rfl⟩
      exact comesFrom_of_not_gives fun _ => not_gives_term
  | literal text language datatype =>
      rw [evaluate] at done
      split at done <;> cases done
      exact comesFrom_of_not_gives fun _ => not_gives_term
  | list items =>
      rcases Outcome.map_eq_ok.mp done with ⟨values, areValues, rfl⟩
      exact comesFrom_of_contents (by simp) (by simp) (comesFrom_evaluateAll noPatterns items areValues)
  | tuple items =>
      rcases Outcome.map_eq_ok.mp done with ⟨values, areValues, rfl⟩
      exact comesFrom_of_contents (by simp) (by simp) (comesFrom_evaluateAll noPatterns items areValues)
  | pattern items =>
      rcases Outcome.bind_eq_ok.mp done with ⟨values, _, done⟩
      rcases Outcome.bind_eq_ok.mp done with ⟨built, isBuilt, ⟨⟩⟩
      -- What is built is checked, so nothing need be known of what it is built of.
      intro pattern gives
      rw [gives_pattern_iff] at gives
      exact .inl (gives ▸ isChecked_of_built isBuilt)
  | branch parts =>
      rcases Outcome.bind_eq_ok.mp done with ⟨values, areValues, done⟩
      rcases Outcome.bind_eq_ok.mp done with ⟨branch, isBuilt, ⟨⟩⟩
      have ofList : (Value.list values).ComesFrom (constantsOf parts) :=
        comesFrom_of_contents (by simp) (by simp) (comesFrom_evaluateAll noPatterns parts areValues)
      intro pattern gives
      rcases checked_or_gives_of_bindBranchOf isBuilt (gives_branch_iff.mp gives) with checked | gives
      · exact .inl checked
      · exact ofList pattern gives
  | graph statements =>
      rcases Outcome.bind_eq_ok.mp done with ⟨values, _, done⟩
      rcases Outcome.bind_eq_ok.mp done with ⟨graph, _, ⟨⟩⟩
      exact comesFrom_of_contents (by simp) (by simp) (by simp [contents])
  | map entries =>
      rcases Outcome.bind_eq_ok.mp done with ⟨given, areGiven, done⟩
      split at done
      · next mapping isMapping =>
          cases done
          have areEntries := forall_ofEntries? isMapping (comesFrom_evaluateEntries noPatterns entries areGiven)
          refine comesFrom_of_contents (by simp) (by simp) fun item mem => ?_
          rcases List.mem_flatMap.mp mem with ⟨entry, isEntry, isItem⟩
          simp only [List.mem_cons, List.not_mem_nil, or_false] at isItem
          rcases isItem with rfl | rfl
          · exact (areEntries entry isEntry).1
          · exact (areEntries entry isEntry).2
      · cases done

theorem comesFrom_evaluateAll (noPatterns : ∀ name pattern, ¬ (registers name).Gives pattern) (items : List Expression)
    {values : List Value} (done : evaluateAll registers items = .ok values) :
    ∀ value ∈ values, value.ComesFrom (constantsOf items) := by
  cases items with
  | nil =>
      cases done
      simp
  | cons item rest =>
      rcases Outcome.bind_eq_ok.mp done with ⟨first, isFirst, done⟩
      rcases Outcome.bind_eq_ok.mp done with ⟨others, areOthers, ⟨⟩⟩
      refine List.forall_mem_cons.mpr ⟨?_, fun value mem => ?_⟩
      · exact (comesFrom_evaluate noPatterns item isFirst).mono (List.subset_append_left _ _)
      · exact (comesFrom_evaluateAll noPatterns rest areOthers value mem).mono (List.subset_append_right _ _)

theorem comesFrom_evaluateEntries (noPatterns : ∀ name pattern, ¬ (registers name).Gives pattern)
    (entries : List (Expression × Expression)) {values : List (Value × Value)}
    (done : evaluateEntries registers entries = .ok values) :
    ∀ entry ∈ values, entry.1.ComesFrom (constantsOfEntries entries) ∧ entry.2.ComesFrom (constantsOfEntries entries) := by
  cases entries with
  | nil =>
      cases done
      simp
  | cons entry rest =>
      rcases entry with ⟨key, value⟩
      rcases Outcome.bind_eq_ok.mp done with ⟨firstKey, isKey, done⟩
      rcases Outcome.bind_eq_ok.mp done with ⟨first, isFirst, done⟩
      rcases Outcome.bind_eq_ok.mp done with ⟨others, areOthers, ⟨⟩⟩
      have ofKey : constants key ⊆ constantsOfEntries ((key, value) :: rest) := by simp [constantsOfEntries]
      have ofValue : constants value ⊆ constantsOfEntries ((key, value) :: rest) := by simp [constantsOfEntries]
      have ofRest : constantsOfEntries rest ⊆ constantsOfEntries ((key, value) :: rest) := by simp [constantsOfEntries]
      refine List.forall_mem_cons.mpr ⟨?_, fun entry mem => ?_⟩
      · exact ⟨(comesFrom_evaluate noPatterns key isKey).mono ofKey,
          (comesFrom_evaluate noPatterns value isFirst).mono ofValue⟩
      · rcases comesFrom_evaluateEntries noPatterns rest areOthers entry mem with ⟨isKey, isValue⟩
        exact ⟨isKey.mono ofRest, isValue.mono ofRest⟩

end

end Expression

/-! ## Stores that admit their patterns -/

/-- Every pattern in a store is of some kind. -/
def Store.Admits (admits : Pattern → Prop) (store : Store) : Prop := ∀ pattern, store.HasPattern pattern → admits pattern

namespace Session

variable {admits : Pattern → Prop} {store inner after : Store} {index : Nat} {arguments : Arguments} {block : Option Block}

/-- A member of a list that was changed at one place was there before, or is what a member was changed to. -/
theorem mem_of_mem_modify {α : Type} {items : List α} {place : Nat} {change : α → α} {item : α}
    (mem : item ∈ items.modify place change) : item ∈ items ∨ ∃ before ∈ items, item = change before := by
  rcases List.mem_iff_getElem?.mp mem with ⟨index, found⟩
  rw [List.getElem?_modify] at found
  rcases Option.map_eq_some_iff.mp found with ⟨before, isBefore, same⟩
  have isOld := List.mem_of_getElem? isBefore
  split at same
  · exact .inr ⟨before, isOld, same.symm⟩
  · exact .inl (same ▸ isOld)

theorem admits_congr (held : store.Admits admits) (queries : after.queries = store.queries)
    (groups : after.groups = store.groups) : after.Admits admits := by
  intro pattern has
  unfold Store.HasPattern at has
  rw [queries, groups] at has
  exact held pattern has

theorem admits_exchanged (held : store.Admits admits) (exchanged : store.Exchanged after) : after.Admits admits :=
  admits_congr held exchanged.queries_eq exchanged.groups_eq

theorem admits_addQuery {record : QueryRecord} (held : inner.Admits admits)
    (areAdmitted : ∀ pattern ∈ record.clauses.allPatterns, admits pattern) :
    Store.Admits admits { inner with queries := inner.queries ++ [record] } := by
  rintro pattern (⟨other, isOther, mem⟩ | inGroup)
  · rcases List.mem_append.mp isOther with old | new
    · exact held pattern (.inl ⟨other, old, mem⟩)
    · cases List.mem_singleton.mp new
      exact areAdmitted pattern mem
  · exact held pattern (.inr inGroup)

theorem admits_addGroup {group : OptionalGroup} (held : inner.Admits admits)
    (areAdmitted : ∀ pattern ∈ group.patterns, admits pattern) :
    Store.Admits admits { inner with groups := inner.groups ++ [group] } := by
  rintro pattern (inQuery | ⟨other, isOther, mem⟩)
  · exact held pattern (.inl inQuery)
  · rcases List.mem_append.mp isOther with old | new
    · exact held pattern (.inr ⟨other, old, mem⟩)
    · cases List.mem_singleton.mp new
      exact areAdmitted pattern mem

theorem admits_changeQuery {target : Nat} {change : QueryRecord → QueryRecord} (held : inner.Admits admits)
    (areAdmitted : ∀ record, ∀ pattern ∈ (change record).clauses.allPatterns,
      pattern ∈ record.clauses.allPatterns ∨ admits pattern) :
    Store.Admits admits { inner with queries := inner.queries.modify target change } := by
  rintro pattern (⟨other, isOther, mem⟩ | inGroup)
  · rcases mem_of_mem_modify isOther with isOld | ⟨record, isOld, rfl⟩
    · exact held pattern (.inl ⟨other, isOld, mem⟩)
    · exact (areAdmitted record pattern mem).elim (fun old => held pattern (.inl ⟨record, isOld, old⟩)) id
  · exact held pattern (.inr inGroup)

theorem admits_changeGroup {target : Nat} {group : OptionalGroup} (held : inner.Admits admits)
    (areAdmitted : ∀ pattern ∈ group.patterns, admits pattern) :
    Store.Admits admits { inner with groups := inner.groups.modify target fun _ => group } := by
  rintro pattern (inQuery | ⟨other, isOther, mem⟩)
  · exact held pattern (.inl inQuery)
  · rcases mem_of_mem_modify isOther with isOld | ⟨_, _, rfl⟩
    · exact held pattern (.inr ⟨other, isOld, mem⟩)
    · exact areAdmitted pattern mem

/-! ### Calls -/

section Calls

variable (checked : ∀ pattern : Pattern, pattern.IsChecked → admits pattern)
include checked

/-- A call adds patterns of the kind, if it is given no others. -/
theorem admits_of_sources (held : store.Admits admits) (given : ∀ pattern, arguments.Gives pattern → admits pattern)
    {pattern : Pattern} (sources : store.Sources arguments pattern) : admits pattern := by
  rcases sources with old | isChecked | gives
  · exact held pattern old
  · exact checked pattern isChecked
  · exact given pattern gives

theorem keptByBlock_admits (held : store.Admits admits) (given : ∀ pattern, arguments.Gives pattern → admits pattern)
    (inside : ∀ run, block = some run → ∀ object inner, Store.Admits admits inner →
      Store.Admits admits (perform (run object) inner).2) :
    KeptByBlock index arguments block store (Store.Admits admits) := by
  have admitted {pattern : Pattern} (sources : store.Sources arguments pattern) : admits pattern :=
    admits_of_sources checked held given sources
  refine ⟨⟨?_, ?_⟩, ?_, ?_⟩
  · exact fun _ record areSourced kept => admits_addQuery kept fun pattern mem => admitted (areSourced pattern mem)
  · intro _ _ change sourced kept _
    exact admits_changeQuery kept fun record pattern mem => (sourced.patterns record pattern mem).imp id admitted
  · exact fun _ group areSourced kept => admits_addGroup kept fun pattern mem => admitted (areSourced pattern mem)
  · exact fun _ run object isRun kept _ _ => inside run isRun object _ kept

theorem admits_replyCall {reply : Reply} {method : String} (held : store.Admits admits)
    (given : ∀ pattern, arguments.Gives pattern → admits pattern)
    (inside : ∀ run, block = some run → ∀ object inner, Store.Admits admits inner →
      Store.Admits admits (perform (run object) inner).2) :
    Ends (replyCall reply method arguments block) store (Store.Admits admits) fun after _ => after.Admits admits := by
  have admitted {pattern : Pattern} (sources : store.Sources arguments pattern) : admits pattern :=
    admits_of_sources checked held given sources
  unfold replyCall
  split
  · next index =>
    have kept : KeptByBlock index arguments block store (Store.Admits admits) :=
      keptByBlock_admits checked held given inside
    exact kept.of_queryCall held fun _ _ => admits_exchanged
  · exact ends_groupCall held fun group areSourced =>
      admits_changeGroup held fun pattern mem => admitted (areSourced pattern mem)
  · exact ends_operationCall held fun _ => admits_congr held rfl rfl
  · refine ends_clientCall (fun record areSourced => ?_) fun _ => admits_exchanged held
    exact admits_addQuery held fun pattern mem => admitted (areSourced pattern mem)
  all_goals exact held

end Calls

/-! ### Scripts -/

theorem gives_of_evaluated {positional : List Expression} {named : List (String × Expression)} {pattern : Pattern}
    (evaluated : perform (evaluateArguments positional named) store = (.ok arguments, store))
    (gives : arguments.Gives pattern) :
    pattern.IsChecked ∨ ∃ constant ∈ Expression.constantsOf positional, constant.Gives pattern := by
  rcases perform_bind_eq_ok.mp evaluated with ⟨_, _, ⟨⟩, evaluated⟩
  rcases perform_bind_eq_ok.mp evaluated with ⟨values, _, areValues, evaluated⟩
  rw [perform_ofOutcome, Prod.mk.injEq] at areValues
  rcases areValues with ⟨areValues, rfl⟩
  rcases perform_bind_eq_ok.mp evaluated with ⟨_, _, _, ⟨⟩⟩
  rcases gives with ⟨value, mem, gives⟩
  refine Expression.comesFrom_evaluateAll (fun name pattern => ?_) positional areValues value mem pattern gives
  rcases store.register? name with _ | reply
  · exact Value.not_gives_null
  · exact Store.not_gives_valueOf

mutual

/-- A call keeps what a store admits, if it admits what the call is given. -/
theorem admits_runCall (checked : ∀ pattern : Pattern, pattern.IsChecked → admits pattern) (step : Step) {store : Store}
    (held : store.Admits admits)
    (given : ∀ pattern, step.Gives pattern → admits pattern) :
    Ends (runCall step) store (Store.Admits admits) fun after _ => after.Admits admits := by
  cases step with
  | call receiver method positional named block result =>
      apply ends_runCall_of_receiverCall held
      · exact fun _ _ _ _ kept => admits_congr kept rfl rfl
      · intro arguments evaluated
        have areGiven : ∀ pattern, arguments.Gives pattern → admits pattern := by
          intro pattern gives
          rcases gives_of_evaluated evaluated gives with isChecked | constant
          · exact checked pattern isChecked
          · exact given pattern (.inl constant)
        have inside := admits_runBlock checked block fun pattern gives => given pattern (.inr gives)
        apply ends_receiverCall held
        · exact fun record areSourced => admits_addQuery held fun pattern mem =>
            admits_of_sources checked held areGiven (areSourced pattern mem)
        · exact fun _ => admits_congr held rfl rfl
        · exact fun _ _ _ _ => admits_replyCall checked held areGiven inside

theorem admits_runBlock (checked : ∀ pattern : Pattern, pattern.IsChecked → admits pattern) (block : Option (List Step))
    (given : ∀ pattern, Step.GivesInside pattern block → admits pattern) (run : Block) (isRun : runBlock block = some run)
    (object : ObjectRef) (inner : Store) (held : inner.Admits admits) : (perform (run object) inner).2.Admits admits := by
  cases block with
  | none => cases isRun
  | some steps =>
      cases isRun
      have entered : Store.Admits admits (inner.setRegister blockRegister (replyOf object)) := admits_congr held rfl rfl
      exact (ends_withBlockRegister (fun _ _ kept => admits_congr kept rfl rfl)
        (admits_runAll checked steps entered given)).after

theorem admits_runAll (checked : ∀ pattern : Pattern, pattern.IsChecked → admits pattern) (steps : List Step)
    {store : Store} (held : store.Admits admits)
    (given : ∀ pattern, Step.GivesAmong pattern steps → admits pattern) :
    Ends (runAll steps) store (Store.Admits admits) fun after _ => after.Admits admits := by
  cases steps with
  | nil => exact ends_pure held
  | cons step rest =>
      refine ends_get_bind ?_
      split
      · refine ends_bind (admits_runCall checked step held fun pattern gives => given pattern (.inl gives)) fun _ _ kept => ?_
        exact admits_runAll checked rest kept fun pattern gives => given pattern (.inr gives)
      · exact admits_runAll checked rest held fun pattern gives => given pattern (.inr gives)

end

theorem admits_storeAfter (checked : ∀ pattern : Pattern, pattern.IsChecked → admits pattern)
    (held : store.Admits admits) (steps : List Step)
    (given : ∀ step ∈ steps, ∀ pattern, step.Gives pattern → admits pattern) :
    (storeAfter store steps).Admits admits := by
  induction steps generalizing store with
  | nil => exact held
  | cons step rest ih =>
      rcases List.forall_mem_cons.mp given with ⟨ofStep, ofRest⟩
      refine ih ?_ ofRest
      have quiet : Store.Admits admits { store with wire := { store.wire with events := [] } } := admits_congr held rfl rfl
      unfold report
      simp only
      split
      · exact (admits_runCall checked step quiet ofStep).after
      · exact quiet

end Session

/-! ## Sessions -/

namespace Store

/-- In every session, queries and optional parts are well formed. So is every pattern in them, apart from patterns that
a call of the session was given as they are. -/
theorem wellFormed_of_session (client : Option Client) (answers : List Answer) (steps : List Step) :
    let store := storeAfter (start client answers) steps
    store.WellFormed ∧ ∀ pattern, store.HasPattern pattern → pattern.WellFormed ∨ ∃ step ∈ steps, step.Gives pattern := by
  intro store
  refine ⟨wellFormed_storeAfter client answers steps, ?_⟩
  have initially : (start client answers).Admits fun pattern => pattern.WellFormed ∨ ∃ step ∈ steps, step.Gives pattern := by
    rintro pattern (⟨record, mem, _⟩ | ⟨group, mem, _⟩)
    · simp [start] at mem
    · simp [start] at mem
  exact admits_storeAfter (fun _ checked => .inl checked.wellFormed) initially steps
    fun step mem _ gives => .inr ⟨step, mem, gives⟩

end Store

/-! ## Patterns that are not looked at -/

/-- Three literals. -/
def literalPattern : Pattern := ⟨.literal (.plain "x"), .literal (.plain "p"), .literal (.plain "o")⟩

/-- A query that is given three literals as a pattern, as an optional one and in a branch, and a graph that has no IRI. -/
def literalSession : List Step := [
  .call .queries "select" [] [] none (some "q"),
  .call (.register "q") "where" [.constant (.pattern literalPattern)] [] none none,
  .call (.register "q") "optional" [.constant (.pattern literalPattern)] [] none none,
  .call (.register "q") "union_with_bind" [.constant (.branch ⟨[literalPattern], [], []⟩)] [] none none,
  .call (.register "q") "from_" [.constant (.text "http://a b")] [] none none]

/-- The three literals are stored wherever they are given, although they are no pattern, and so is the graph, although it
cannot be written. -/
theorem patterns_of_literalSession :
    let store := storeAfter (Store.start none []) literalSession
    store.queries.map (·.clauses.allPatterns) = [[literalPattern, literalPattern]] ∧
    store.groups.map (·.patterns) = [[literalPattern]] ∧ ¬ literalPattern.WellFormed ∧
    store.queries.map (·.clauses.fromGraphs) = [[.iri "http://a b"]] ∧
    (Term.iri "http://a b").render.toOption = none ∧ (store.text 0).toOption = none := by
  intro store
  refine ⟨by decide +kernel, by decide +kernel, fun wellFormed => ?_, by decide +kernel, by decide +kernel,
    by decide +kernel⟩
  cases wellFormed.subject

end Sparql
