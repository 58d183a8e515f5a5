import Sparql.Proofs.Session.Respelling
import Sparql.Proofs.Session.Script
import Sparql.Proofs.Value.Mapping

/-!
# Spellings of variables are interchangeable

Two scripts that make the same calls, and whose arguments differ in the spellings of variables alone, do the same: the
same calls succeed, and every query has the same text after each of them.

Spellings are exchanged in expressions, which are evaluated before a call. No spelling names a register, so respelled
arguments need the same registers and have values that differ in spellings alone. A block holds calls of its own, so
calls, blocks and lists of calls are compared by one mutual recursion.
-/

namespace Sparql

open Outcome

/-! ## Arguments -/

namespace Expression

/-- The ways in which a script writes a variable: as a text with or without a mark, and as the variable itself. -/
def spellings (name : String) : List Expression :=
  [.constant (.text name), .constant (.text ("?" ++ name)), .variable name, .constant (.term (.variable name))]

/-- Whatever the registers hold, the keys of the mapping name distinct variables. -/
def KeysDistinct (entries : List (Expression × Expression)) : Prop :=
  ∀ registers values, evaluateEntries registers entries = .ok values → Value.NamesDistinct (values.map (·.1))

/-- Two arguments differ in the spellings of variables alone. -/
inductive Respelled : Place → Expression → Expression → Prop
  | same {place : Place} {expression : Expression} : Respelled place expression expression
  | name {place : Place} {name : String} {first second : Expression} (takesVariable : place.takesVariable = true)
      (isName : IsPlainName name) (isFirst : first ∈ spellings name) (isSecond : second ∈ spellings name) :
      Respelled place first second
  | list {place : Place} {item : Nat → Place} {items others : List Expression} (hasItems : place.items? = some item)
      (areRespelled : Itemwise Respelled item items others) : Respelled place (.list items) (.list others)
  | tuple {place : Place} {item : Nat → Place} {items others : List Expression} (hasItems : place.items? = some item)
      (areRespelled : Itemwise Respelled item items others) : Respelled place (.tuple items) (.tuple others)
  | map {place key value : Place} {entries others : List (Expression × Expression)}
      (hasEntries : place.entries? = some (key, value))
      (keys : Itemwise Respelled (fun _ => key) (entries.map (·.1)) (others.map (·.1)))
      (values : Itemwise Respelled (fun _ => value) (entries.map (·.2)) (others.map (·.2)))
      (distinct : KeysDistinct entries) (othersDistinct : KeysDistinct others) :
      Respelled place (.map entries) (.map others)
  /-- The pattern of three terms, wherever it stands. -/
  | pattern {place : Place} {items others : List Expression}
      (areRespelled : Itemwise Respelled (fun _ => .variable) items others) :
      Respelled place (.pattern items) (.pattern others)
  /-- The branch of patterns, bindings and tests, wherever it stands. -/
  | branch {place : Place} {item : Nat → Place} {parts others : List Expression}
      (hasItems : Place.branch.items? = some item) (areRespelled : Itemwise Respelled item parts others) :
      Respelled place (.branch parts) (.branch others)

variable {registers : String → Value}

theorem evaluate_of_spelling {name : String} {expression : Expression} (isName : IsPlainName name)
    (isSpelling : expression ∈ spellings name) :
    ∃ value ∈ Value.spellings name, expression.evaluate registers = .ok value := by
  simp only [spellings, List.mem_cons, List.not_mem_nil, or_false] at isSpelling
  rcases isSpelling with rfl | rfl | rfl | rfl
  · exact ⟨.text name, by simp [Value.spellings], rfl⟩
  · exact ⟨.text ("?" ++ name), by simp [Value.spellings], rfl⟩
  · refine ⟨.term (.variable name), by simp [Value.spellings], ?_⟩
    rcases isName with ⟨first, rest, isText, isStart, _⟩
    simp only [evaluate, namedVariable]
    split
    · rename_i isEmpty
      cases isText.symm.trans isEmpty
    · rename_i isMarked
      cases isText.symm.trans isMarked
      exact absurd isStart (by decide)
    · rfl
  · exact ⟨.term (.variable name), by simp [Value.spellings], rfl⟩

/-- Entries whose keys name distinct variables make respelled mappings, or none. -/
theorem agree_mapping {place key value : Place} {entries others : Outcome (List (Value × Value))}
    (hasEntries : place.entries? = some (key, value))
    (agree : Agree (List.Forall₂ fun entry other =>
      Value.Respelled key entry.1 other.1 ∧ Value.Respelled value entry.2 other.2) entries others)
    (distinct : ∀ values, entries = .ok values → Value.NamesDistinct (values.map (·.1)))
    (othersDistinct : ∀ values, others = .ok values → Value.NamesDistinct (values.map (·.1))) :
    Agree (Value.Respelled place)
      (entries >>= fun entries => match Value.ofEntries? entries with
        | some entries => return Value.map entries
        | none => misuse .wrongKind)
      (others >>= fun entries => match Value.ofEntries? entries with
        | some entries => return Value.map entries
        | none => misuse .wrongKind) := by
  obtain rfl : key = .variable := by cases place <;> cases hasEntries <;> rfl
  cases agree with
  | failed => exact .failed
  | @done values values' areRespelled =>
      have mappings := Value.respelled_ofEntries? areRespelled (distinct values rfl) (othersDistinct values' rfl)
      change Agree _ (match Value.ofEntries? values with
        | some entries => return Value.map entries
        | none => misuse .wrongKind) (match Value.ofEntries? values' with
        | some entries => return Value.map entries
        | none => misuse .wrongKind)
      generalize Value.ofEntries? values = mapping at mappings
      generalize Value.ofEntries? values' = mapping' at mappings
      cases mappings with
      | none => exact .failed
      | some areRespelled =>
          refine .done (.map hasEntries (.of_forall₂ ?_) (.of_forall₂ ?_))
          · rw [List.forall₂_map_left_iff, List.forall₂_map_right_iff]
            exact areRespelled.imp fun _ _ both => both.1
          · rw [List.forall₂_map_left_iff, List.forall₂_map_right_iff]
            exact areRespelled.imp fun _ _ both => both.2

mutual

/-- Respelled arguments have respelled values. -/
theorem agree_evaluate {place : Place} (first second : Expression) (respelled : Respelled place first second) :
    Agree (Value.Respelled place) (first.evaluate registers) (second.evaluate registers) := by
  cases respelled with
  | same => exact (agree_refl _).mono fun _ _ isEqual => isEqual ▸ .same
  | name takesVariable isName isFirst isSecond =>
      rcases evaluate_of_spelling isName isFirst with ⟨value, isValue, evaluated⟩
      rcases evaluate_of_spelling isName isSecond with ⟨other, isOther, otherEvaluated⟩
      rw [evaluated, otherEvaluated]
      exact .done (.name takesVariable isName isValue isOther)
  | @list _ _ items others hasItems areRespelled =>
      simp only [evaluate]
      exact (agree_evaluateAll items others areRespelled).map fun _ _ areRespelled => .list hasItems areRespelled
  | @tuple _ _ items others hasItems areRespelled =>
      simp only [evaluate]
      exact (agree_evaluateAll items others areRespelled).map fun _ _ areRespelled => .tuple hasItems areRespelled
  | @map _ _ _ entries others hasEntries keys values distinct othersDistinct =>
      simp only [evaluate]
      exact agree_mapping hasEntries (agree_evaluateEntries entries others keys values) (distinct registers)
        (othersDistinct registers)
  | @pattern _ items others areRespelled =>
      simp only [evaluate]
      apply (agree_evaluateAll items others areRespelled).bind
      intro values values' areRespelled
      have isPattern : Value.Respelled .pattern (.list values) (.list values') := .list rfl areRespelled
      apply isPattern.asPattern.bind
      rintro pattern _ rfl
      exact .done .same
  | @branch _ _ parts others hasItems areRespelled =>
      simp only [evaluate]
      apply (agree_evaluateAll parts others areRespelled).bind
      intro values values' areRespelled
      have isBranch : Value.Respelled .branch (.list values) (.list values') := .list hasItems areRespelled
      apply isBranch.bindBranchOf.bind
      rintro branch _ rfl
      exact .done .same

theorem agree_evaluateAll {item : Nat → Place} (items others : List Expression)
    (areRespelled : Itemwise Respelled item items others) :
    Agree (Itemwise Value.Respelled item) (evaluateAll registers items) (evaluateAll registers others) := by
  cases areRespelled with
  | nil => exact .done .nil
  | @cons _ first second rest others isRespelled areRespelled =>
      simp only [evaluateAll]
      apply (agree_evaluate first second isRespelled).bind
      intro value value' isRespelled
      apply (agree_evaluateAll rest others areRespelled).bind
      intro values values' areRespelled
      exact .done (.cons isRespelled areRespelled)

theorem agree_evaluateEntries {key value : Place} (entries others : List (Expression × Expression))
    (keys : Itemwise Respelled (fun _ => key) (entries.map (·.1)) (others.map (·.1)))
    (values : Itemwise Respelled (fun _ => value) (entries.map (·.2)) (others.map (·.2))) :
    Agree (List.Forall₂ fun entry other => Value.Respelled key entry.1 other.1 ∧ Value.Respelled value entry.2 other.2)
      (evaluateEntries registers entries) (evaluateEntries registers others) := by
  match entries, others with
  | [], [] => exact .done .nil
  | [], _ :: _ => cases keys
  | _ :: _, [] => cases keys
  | (first, firstValue) :: rest, (second, secondValue) :: others =>
      rcases keys with _ | ⟨keyRespelled, keys⟩
      rcases values with _ | ⟨valueRespelled, values⟩
      simp only [evaluateEntries]
      apply (agree_evaluate first second keyRespelled).bind
      intro key key' keyRespelled
      apply (agree_evaluate firstValue secondValue valueRespelled).bind
      intro value value' valueRespelled
      apply (agree_evaluateEntries rest others keys values).bind
      intro values values' areRespelled
      exact .done (.cons ⟨keyRespelled, valueRespelled⟩ areRespelled)

end

theorem registers_of_spelling {name : String} {expression : Expression} (isSpelling : expression ∈ spellings name) :
    expression.registers = [] := by
  simp only [spellings, List.mem_cons, List.not_mem_nil, or_false] at isSpelling
  rcases isSpelling with rfl | rfl | rfl | rfl <;> simp only [Expression.registers]

mutual

/-- Respelled arguments name the same registers. -/
theorem registers_eq {place : Place} (first second : Expression) (respelled : Respelled place first second) :
    first.registers = second.registers := by
  cases respelled with
  | same => rfl
  | name _ _ isFirst isSecond => rw [registers_of_spelling isFirst, registers_of_spelling isSecond]
  | @list _ _ items others _ areRespelled | @tuple _ _ items others _ areRespelled
  | @pattern _ items others areRespelled | @branch _ _ items others _ areRespelled =>
      simp only [Expression.registers]
      exact registersOf_eq items others areRespelled
  | @map _ _ _ entries others _ keys values =>
      simp only [Expression.registers]
      exact registersOfEntries_eq entries others keys values

theorem registersOf_eq {item : Nat → Place} (items others : List Expression)
    (areRespelled : Itemwise Respelled item items others) : registersOf items = registersOf others := by
  cases areRespelled with
  | nil => rfl
  | @cons _ first second rest others isRespelled areRespelled =>
      simp only [registersOf, registers_eq first second isRespelled, registersOf_eq rest others areRespelled]

theorem registersOfEntries_eq {key value : Place} (entries others : List (Expression × Expression))
    (keys : Itemwise Respelled (fun _ => key) (entries.map (·.1)) (others.map (·.1)))
    (values : Itemwise Respelled (fun _ => value) (entries.map (·.2)) (others.map (·.2))) :
    registersOfEntries entries = registersOfEntries others := by
  match entries, others with
  | [], [] => rfl
  | [], _ :: _ => cases keys
  | _ :: _, [] => cases keys
  | (first, firstValue) :: rest, (second, secondValue) :: others =>
      rcases keys with _ | ⟨keyRespelled, keys⟩
      rcases values with _ | ⟨valueRespelled, values⟩
      simp only [registersOfEntries, registers_eq first second keyRespelled,
        registers_eq firstValue secondValue valueRespelled, registersOfEntries_eq rest others keys values]

end

/-- Keys that are spellings of distinct names name distinct variables, whatever the registers hold. -/
theorem keysDistinct_of_names {entries : List (Expression × Expression)} {names : List String}
    (areSpellings : List.Forall₂ (fun entry name => IsPlainName name ∧ entry.1 ∈ spellings name) entries names)
    (distinct : names.Nodup) : KeysDistinct entries := by
  intro registers values evaluated
  have areNames : values.map (·.1.asVariable) = names.map .ok := by
    clear distinct
    induction areSpellings generalizing values with
    | nil =>
        cases evaluated
        rfl
    | @cons entry name entries names isSpelling _ ih =>
        rcases entry with ⟨key, value⟩
        simp only [evaluateEntries, bind_eq_ok, pure_eq_ok] at evaluated
        rcases evaluated with ⟨keyValue, isKey, value, _, rest, isRest, rfl⟩
        rcases evaluate_of_spelling isSpelling.1 isSpelling.2 with ⟨spelled, mem, isSpelled⟩
        cases isKey.symm.trans isSpelled
        rw [List.map_cons, List.map_cons, ih rest isRest, Value.asVariable_of_spelling isSpelling.1 mem]
  have differ : (values.map (·.1.asVariable)).Nodup := by
    rw [areNames]
    exact distinct.map fun _ _ isEqual => Except.ok.inj isEqual
  refine List.pairwise_map.mpr ((List.pairwise_map.mp differ).imp ?_)
  rintro first second differ ⟨name, isFirst, isSecond⟩
  exact differ (isFirst.trans isSecond.symm)

end Expression

/-! ## Calls -/

/-- Two calls on the same receiver whose arguments differ in the spellings of variables alone, also inside of their
blocks. -/
inductive Step.Respelled : Step → Step → Prop
  | call {receiver : Receiver} {method : String} {positional positional' : List Expression}
      {named named' : List (String × Expression)} {block block' : Option (List Step)} {target : Option String}
      (positions : Itemwise Expression.Respelled (CallPlaces.ofMethod method).positional positional positional')
      (names : List.Forall₂ (fun given other => given.1 = other.1 ∧
        Expression.Respelled ((CallPlaces.ofMethod method).named given.1) given.2 other.2) named named')
      (blocks : Option.Rel (List.Forall₂ Respelled) block block') :
      Respelled (.call receiver method positional named block target)
        (.call receiver method positional' named' block' target)

namespace Step.Respelled

/-- The arguments by name, as a list of arguments. -/
theorem itemwise_of_names {places : CallPlaces} {named named' : List (String × Expression)}
    (names : List.Forall₂ (fun given other => given.1 = other.1 ∧
      Expression.Respelled (places.named given.1) given.2 other.2) named named') :
    Itemwise Expression.Respelled (fun index => places.named ((named.map (·.1)).getD index "")) (named.map (·.2))
      (named'.map (·.2)) := by
  induction names with
  | nil => exact .nil
  | cons first _ ih => exact .cons first.2 ih

theorem registers_eq {step other : Step} (respelled : Respelled step other) : step.registers = other.registers := by
  cases respelled with
  | call positions names =>
      simp only [Step.registers, Expression.registersOf_eq _ _ positions,
        Expression.registersOf_eq _ _ (itemwise_of_names names)]

theorem isReady_eq {step other : Step} (respelled : Respelled step other) (store : Store) :
    step.isReady store = other.isReady store := by
  unfold Step.isReady
  rw [respelled.registers_eq]

end Step.Respelled

namespace Session

/-- Arguments that are written with other spellings of variables stand for respelled arguments. -/
theorem agree_evaluateArguments_bind {method : String} {positional positional' : List Expression}
    {named named' : List (String × Expression)} {rest others : Arguments → Session Reply}
    (positions : Itemwise Expression.Respelled (CallPlaces.ofMethod method).positional positional positional')
    (names : List.Forall₂ (fun given other => given.1 = other.1 ∧
      Expression.Respelled ((CallPlaces.ofMethod method).named given.1) given.2 other.2) named named')
    (agree : ∀ arguments arguments', Arguments.Respelled (.ofMethod method) arguments arguments' →
      Run.Agree (rest arguments) (others arguments')) :
    Run.Agree (evaluateArguments positional named >>= rest) (evaluateArguments positional' named' >>= others) := by
  unfold evaluateArguments
  simp only [bind_assoc]
  apply Run.agree_bind
  intro store
  apply agree_ofOutcome_bind (Expression.agree_evaluateAll positional positional' positions)
  intro values values' areRespelled
  apply agree_ofOutcome_bind (Expression.agree_evaluateAll _ _ (Step.Respelled.itemwise_of_names names))
  intro given given' givenRespelled
  apply agree
  refine ⟨areRespelled, ?_⟩
  have sameNames : named.map (·.1) = named'.map (·.1) := by
    rw [← List.forall₂_eq_eq_eq, List.forall₂_map_left_iff, List.forall₂_map_right_iff]
    exact names.imp fun _ _ both => both.1
  rw [← sameNames]
  refine givenRespelled.zip fun index name found => ?_
  rw [List.getD_eq_getElem?_getD, found]
  rfl

mutual

/-- Respelled calls do the same. -/
theorem agree_runCall (step other : Step) (respelled : step.Respelled other) :
    Run.Agree (runCall step) (runCall other) := by
  cases respelled with
  | @call receiver method positional positional' named named' block block' target positions names blocks =>
      unfold runCall
      apply agree_evaluateArguments_bind positions names
      intro arguments arguments' areRespelled
      apply (agree_receiverCall areRespelled (sameBlock_runBlock block block' blocks)).bind
      intro reply
      exact Run.agree_refl _

theorem sameBlock_runBlock (block other : Option (List Step))
    (respelled : Option.Rel (List.Forall₂ Step.Respelled) block other) :
    SameBlock (runBlock block) (runBlock other) := by
  match block, other with
  | none, none => exact .none
  | none, some _ => cases respelled
  | some _, none => cases respelled
  | some steps, some others =>
      refine .some fun object => ?_
      have inside : List.Forall₂ Step.Respelled steps others := by
        cases respelled
        assumption
      unfold withBlockRegister
      apply Run.agree_bind
      intro store
      apply Run.agree_bind
      intro _
      exact (agree_runAll steps others inside).tryFinally _

theorem agree_runAll (steps others : List Step) (respelled : List.Forall₂ Step.Respelled steps others) :
    Run.Agree (runAll steps) (runAll others) := by
  match steps, others with
  | [], [] => exact Run.agree_refl _
  | [], _ :: _ => cases respelled
  | _ :: _, [] => cases respelled
  | step :: rest, other :: others =>
      rcases respelled with _ | ⟨first, respelled⟩
      unfold runAll
      apply Run.agree_bind
      intro store
      apply agree_ite (first.isReady_eq store)
      · exact (agree_runCall step other first).bind fun _ => agree_runAll rest others respelled
      · exact agree_runAll rest others respelled

end

/-! ## Scripts -/

/-- What a script shows of two calls is the same, unless both fail. Then only the failures may differ. -/
inductive Report.SameButFailure : Report × List Event → Report × List Event → Prop
  | same {shown : Report × List Event} : SameButFailure shown shown
  | failed {failure other : Failure} {receiver : Option (Outcome String)} {events : List Event} :
      SameButFailure (.failed failure receiver, events) (.failed other receiver, events)

/-- The store before a call, in which nothing has happened yet. -/
def quietened (store : Store) : Store := { store with wire := { store.wire with events := [] } }

/-- What a script shows of what a call came to. -/
def shownOf (receiver : Receiver) : Outcome Reply × Store → (Report × List Event) × Store
  | (.ok reply, after) => ((reportReply after reply, after.wire.events.reverse), after)
  | (.error failure, after) => ((.failed failure (receiverText after receiver), after.wire.events.reverse), after)

theorem report_of_ready {step : Step} {store : Store} (isReady : step.isReady store = true) :
    report store step = shownOf step.receiver (perform (runCall step) (quietened store)) := by
  unfold report
  rw [if_pos isReady]
  change (match perform (runCall step) (quietened store) with
    | (outcome, after) => ((match outcome with
      | .ok reply => reportReply after reply
      | .error failure => .failed failure (receiverText after step.receiver), after.wire.events.reverse), after)) = _
  rcases perform (runCall step) (quietened store) with ⟨_ | _, _⟩ <;> rfl

theorem report_of_notReady {step : Step} {store : Store} (notReady : step.isReady store = false) :
    report store step = ((.skipped, []), quietened store) := by
  unfold report
  simp only [notReady]
  rfl

theorem sameButFailure_report {step other : Step} (respelled : step.Respelled other) (store : Store) :
    Report.SameButFailure (report store step).1 (report store other).1 ∧
      (report store step).2 = (report store other).2 := by
  have sameReceiver : step.receiver = other.receiver := by cases respelled; rfl
  have agree := agree_runCall step other respelled (quietened store)
  cases isReady : other.isReady store with
  | false =>
      rw [report_of_notReady isReady, report_of_notReady ((respelled.isReady_eq store).trans isReady)]
      exact ⟨.same, rfl⟩
  | true =>
      rw [report_of_ready isReady, report_of_ready ((respelled.isReady_eq store).trans isReady), sameReceiver]
      generalize perform (runCall step) (quietened store) = done at agree
      generalize perform (runCall other) (quietened store) = otherDone at agree
      rcases done with ⟨outcome, after⟩
      rcases otherDone with ⟨otherOutcome, otherAfter⟩
      rcases agree with ⟨outcomes, rfl⟩
      cases outcomes with
      | failed => exact ⟨.failed, rfl⟩
      | done isEqual =>
          cases isEqual
          exact ⟨.same, rfl⟩

theorem storeAfter_eq {steps others : List Step} (respelled : List.Forall₂ Step.Respelled steps others)
    (store : Store) :
    storeAfter store steps = storeAfter store others := by
  induction respelled generalizing store with
  | nil => rfl
  | cons first _ ih =>
      unfold storeAfter at ih ⊢
      rw [List.foldl_cons, List.foldl_cons, (sameButFailure_report first store).2]
      exact ih _

theorem sameButFailure_reportAll {steps others : List Step} (respelled : List.Forall₂ Step.Respelled steps others)
    (store : Store) : List.Forall₂ Report.SameButFailure (reportAll store steps) (reportAll store others) := by
  induction respelled generalizing store with
  | nil => exact .nil
  | cons first _ ih =>
      have shown := sameButFailure_report first store
      refine .cons shown.1 ?_
      change List.Forall₂ _ (reportAll (report store _).2 _) (reportAll (report store _).2 _)
      rw [shown.2]
      exact ih _

/-- Variables may be spelled otherwise anywhere in a script: the same calls succeed and show the same, and after any
number of calls every query has the same text. -/
theorem text_of_respelled {steps others : List Step} (respelled : List.Forall₂ Step.Respelled steps others)
    (store : Store) :
    List.Forall₂ Report.SameButFailure (reportAll store steps) (reportAll store others) ∧
      ∀ count index, (storeAfter store (steps.take count)).text index =
        (storeAfter store (others.take count)).text index := by
  refine ⟨sameButFailure_reportAll respelled store, fun count index => ?_⟩
  rw [storeAfter_eq (List.forall₂_take count respelled)]

/-! ### A script in two spellings -/

/-- Names in every place, a pattern inside of a block among them. -/
def plainScript : List Step :=
  [.call .queries "select" [.constant (.text "x")]
      [("count", .map [(.constant (.text "y"), .constant (.text "n"))])] none (some "q"),
    .call (.register "q") "where"
      [.tuple [.constant (.text "x"), .constant (.term (.iri "http://p")), .constant (.text "y")]] [] none none,
    .call (.register "q") "optional" [] []
      (some [.call (.register "it") "where"
        [.list [.constant (.text "y"), .constant (.term (.iri "http://q")), .constant (.text "z")]] [] none none]) none,
    .call (.register "q") "values" [.constant (.text "z"), .constant (.text "a")] [] none none,
    .call (.register "q") "order" [.map [(.constant (.text "x"), .constant (.text "desc"))]] [] none none]

/-- The same with marked names and variables. -/
def markedScript : List Step :=
  [.call .queries "select" [.constant (.text "?x")]
      [("count", .map [(.variable "y", .constant (.text "?n"))])] none (some "q"),
    .call (.register "q") "where"
      [.tuple [.variable "x", .constant (.term (.iri "http://p")), .constant (.text "?y")]] [] none none,
    .call (.register "q") "optional" [] []
      (some [.call (.register "it") "where"
        [.list [.variable "y", .constant (.term (.iri "http://q")), .constant (.text "?z")]] [] none none]) none,
    .call (.register "q") "values" [.variable "z", .constant (.text "a")] [] none none,
    .call (.register "q") "order" [.map [(.constant (.text "?x"), .constant (.text "desc"))]] [] none none]

theorem respelled_markedScript : List.Forall₂ Step.Respelled plainScript markedScript := by
  have isName (name : String) (isLetter : name ∈ ["x", "y", "z", "n"]) : IsPlainName name := by
    simp only [List.mem_cons, List.not_mem_nil, or_false] at isLetter
    rcases isLetter with rfl | rfl | rfl | rfl <;> exact ⟨_, [], rfl, by decide, by simp⟩
  have marked {place : Place} (takesVariable : place.takesVariable = true) (name : String)
      (isLetter : name ∈ ["x", "y", "z", "n"]) :
      Expression.Respelled place (.constant (.text name)) (.constant (.text ("?" ++ name))) :=
    .name takesVariable (isName name isLetter) (by simp [Expression.spellings]) (by simp [Expression.spellings])
  have bare {place : Place} (takesVariable : place.takesVariable = true) (name : String)
      (isLetter : name ∈ ["x", "y", "z", "n"]) :
      Expression.Respelled place (.constant (.text name)) (.variable name) :=
    .name takesVariable (isName name isLetter) (by simp [Expression.spellings]) (by simp [Expression.spellings])
  have oneKey {key value : Expression} (name : String) (isLetter : name ∈ ["x", "y", "z", "n"])
      (isSpelling : key ∈ Expression.spellings name) : Expression.KeysDistinct [(key, value)] :=
    Expression.keysDistinct_of_names (.cons ⟨isName name isLetter, isSpelling⟩ .nil) (List.nodup_singleton name)
  refine .cons (.call ?_ ?_ .none) (.cons (.call ?_ .nil .none) (.cons (.call .nil .nil ?_)
    (.cons (.call ?_ .nil .none) (.cons (.call ?_ .nil .none) .nil))))
  · exact .cons (marked rfl "x" (by simp)) .nil
  · refine .cons ⟨rfl, .map rfl (.cons (bare rfl "y" (by simp)) .nil) (.cons (marked rfl "n" (by simp)) .nil)
      (oneKey "y" (by simp) ?_) (oneKey "y" (by simp) ?_)⟩ .nil <;> simp [Expression.spellings]
  · exact .cons (.tuple rfl (.cons (bare rfl "x" (by simp)) (.cons .same (.cons (marked rfl "y" (by simp)) .nil)))) .nil
  · refine .some (.cons (.call ?_ .nil .none) .nil)
    exact .cons (.list rfl (.cons (bare rfl "y" (by simp)) (.cons .same (.cons (marked rfl "z" (by simp)) .nil)))) .nil
  · exact .cons (bare rfl "z" (by simp)) (.cons .same .nil)
  · refine .cons (.map rfl (.cons (marked rfl "x" (by simp)) .nil) (.cons .same .nil) (oneKey "x" (by simp) ?_)
      (oneKey "x" (by simp) ?_)) .nil <;> simp [Expression.spellings]

/-- A script shows the same with marked names and variables instead of names. -/
theorem text_of_markedScript :
    List.Forall₂ Step.Respelled plainScript markedScript ∧
      List.Forall₂ Report.SameButFailure (reportAll (Store.start none []) plainScript)
        (reportAll (Store.start none []) markedScript) ∧
      (storeAfter (Store.start none []) (plainScript.take 5)).text 0 =
        (storeAfter (Store.start none []) (markedScript.take 5)).text 0 ∧
      ((storeAfter (Store.start none []) markedScript).text 0).toOption =
        some ("SELECT ?x (COUNT(?y) AS ?n) WHERE \x7b ?x <http://p> ?y . OPTIONAL \x7b ?y <http://q> ?z . \x7d "
          ++ "VALUES (?z) \x7b ( \"a\" ) \x7d \x7d ORDER BY DESC(?x)") := by
  have same := text_of_respelled respelled_markedScript (Store.start none [])
  exact ⟨respelled_markedScript, same.1, same.2 5 0, by decide +kernel⟩

end Session

end Sparql
