import Sparql.Proofs.Update.Lexeme
import Sparql.Proofs.Update.Made

/-!
# What the text of an operation says

Operations with the same text do the same to the same graphs, in the same silence. The lexemes of an operation
are put together part by part, so its parts can be read off from the front, and the first two lexemes say of
which kind it is.
-/

namespace Sparql

open Outcome

/-! ## Patterns and blocks -/

namespace Pattern

/-- A predicate as a lexeme. -/
def predicateLexeme (pattern : Pattern) : Lexeme :=
  if pattern.predicate = .iri Vocabulary.rdfType then .word "a" else .term pattern.predicate

/-- A pattern as lexemes. -/
def lexemes (pattern : Pattern) : List Lexeme :=
  [.term pattern.subject, pattern.predicateLexeme, .term pattern.object, .word "."]

variable {pattern other : Pattern} {patterns others : List Pattern} {rest otherRest : List Lexeme}

theorem predicateLexeme_injective (same : pattern.predicateLexeme = other.predicateLexeme) :
    pattern.predicate = other.predicate := by
  unfold predicateLexeme at same
  split_ifs at same with isType otherIsType
  · rw [isType, otherIsType]
  · exact Lexeme.term.inj same

theorem lexemes_append_injective (same : pattern.lexemes ++ rest = other.lexemes ++ otherRest) :
    pattern = other ∧ rest = otherRest := by
  simp only [lexemes, List.cons_append, List.nil_append, List.cons.injEq, Lexeme.term.injEq, true_and] at same
  rcases same with ⟨sameSubject, samePredicate, sameObject, sameRest⟩
  refine ⟨?_, sameRest⟩
  rw [Pattern.mk.injEq]
  exact ⟨sameSubject, predicateLexeme_injective samePredicate, sameObject⟩

/-- A closing brace is no term, so it ends the patterns before it. -/
theorem flatMap_lexemes_injective
    (same : patterns.flatMap lexemes ++ .word "\x7d" :: rest = others.flatMap lexemes ++ .word "\x7d" :: otherRest) :
    patterns = others ∧ rest = otherRest := by
  induction patterns generalizing others with
  | nil =>
      cases others with
      | nil =>
          simp only [List.flatMap_nil, List.nil_append, List.cons.injEq, true_and] at same
          exact ⟨rfl, same⟩
      | cons other others => simp [lexemes] at same
  | cons pattern patterns ih =>
      cases others with
      | nil => simp [lexemes] at same
      | cons other others =>
          rw [List.flatMap_cons, List.flatMap_cons, List.append_assoc, List.append_assoc] at same
          rcases lexemes_append_injective same with ⟨samePattern, sameBehind⟩
          rcases ih sameBehind with ⟨samePatterns, sameRest⟩
          exact ⟨by rw [samePattern, samePatterns], sameRest⟩

end Pattern

namespace UpdateOperation

/-- Lexemes between braces. -/
def bracedLexemes (inner : List Lexeme) : List Lexeme := .word "\x7b" :: (inner ++ [.word "\x7d"])

/-- Triples between braces. -/
def blockLexemes (patterns : List Pattern) : List Lexeme := bracedLexemes (patterns.flatMap Pattern.lexemes)

/-- A word and a graph, if there is one. -/
def graphLexemes (words : List Lexeme) : Option String → List Lexeme
  | none => []
  | some iri => words ++ [.term (.iri iri)]

/-- Triples between braces, inside those of a graph if one is given. -/
def dataLexemes (patterns : List Pattern) : Option String → List Lexeme
  | none => blockLexemes patterns
  | some iri => bracedLexemes (.word "GRAPH" :: .term (.iri iri) :: blockLexemes patterns)

/-- A keyword and a block, unless the block's template is empty. -/
def templateLexemes (keyword : String) (patterns : List Pattern) : List Lexeme :=
  if patterns.isEmpty then [] else .word keyword :: blockLexemes patterns

/-- A target as lexemes. -/
def targetLexemes : GraphTarget → List Lexeme
  | .graph iri => [.word "GRAPH", .term (.iri iri)]
  | .default => [.word "DEFAULT"]
  | .named => [.word "NAMED"]
  | .all => [.word "ALL"]

/-- The word that asks for silence. -/
def silenceLexemes (silent : Bool) : List Lexeme := if silent then [.word "SILENT"] else []

/-- An operation as lexemes. -/
def lexemes (operation : UpdateOperation) : List Lexeme :=
  match operation.action with
  | .insertData data graph => .word "INSERT" :: .word "DATA" :: dataLexemes data graph
  | .deleteData data graph => .word "DELETE" :: .word "DATA" :: dataLexemes data graph
  | .deleteInsert delete insert condition graph =>
    graphLexemes [.word "WITH"] graph ++ (templateLexemes "DELETE" delete ++ (templateLexemes "INSERT" insert
      ++ .word "WHERE" :: blockLexemes condition))
  | .load source into => .word "LOAD" :: (silenceLexemes operation.silent
      ++ .term (.iri source) :: graphLexemes [.word "INTO", .word "GRAPH"] into)
  | .clear target => .word "CLEAR" :: (silenceLexemes operation.silent ++ targetLexemes target)
  | .drop target => .word "DROP" :: (silenceLexemes operation.silent ++ targetLexemes target)
  | .create graph => .word "CREATE" :: (silenceLexemes operation.silent ++ targetLexemes (.graph graph))
  | .abstract => []

/-! ## Parts are read off from the front -/

section Parts

variable {patterns others : List Pattern} {rest otherRest : List Lexeme}

theorem blockLexemes_append_injective (same : blockLexemes patterns ++ rest = blockLexemes others ++ otherRest) :
    patterns = others ∧ rest = otherRest := by
  simp only [blockLexemes, bracedLexemes, List.cons_append, List.append_assoc, List.nil_append, List.cons.injEq,
    true_and] at same
  exact Pattern.flatMap_lexemes_injective same

theorem blockLexemes_injective (same : blockLexemes patterns = blockLexemes others) : patterns = others := by
  have empty : blockLexemes patterns ++ [] = blockLexemes others ++ [] := by rw [same]
  exact (blockLexemes_append_injective empty).1

/-- No block begins as a graph inside braces does. -/
theorem blockLexemes_ne_graph {iri : String} :
    blockLexemes patterns ≠ bracedLexemes (.word "GRAPH" :: .term (.iri iri) :: blockLexemes others) := by
  intro same
  simp only [blockLexemes, bracedLexemes, List.cons.injEq, true_and] at same
  cases patterns with
  | nil => simp at same
  | cons pattern patterns => simp [Pattern.lexemes] at same

theorem dataLexemes_injective {graph other : Option String}
    (same : dataLexemes patterns graph = dataLexemes others other) : patterns = others ∧ graph = other := by
  cases graph with
  | none =>
      cases other with
      | none => exact ⟨blockLexemes_injective same, rfl⟩
      | some otherIri => exact absurd same blockLexemes_ne_graph
  | some iri =>
      cases other with
      | none => exact absurd same.symm blockLexemes_ne_graph
      | some otherIri =>
          simp only [dataLexemes, bracedLexemes, List.cons_append, List.cons.injEq, true_and, Lexeme.term.injEq,
            Term.iri.injEq] at same
          rcases blockLexemes_append_injective same.2 with ⟨samePatterns, _⟩
          exact ⟨samePatterns, by rw [same.1]⟩

theorem templateLexemes_append_injective {keyword : String} (notKeyword : rest.head? ≠ some (.word keyword))
    (otherNotKeyword : otherRest.head? ≠ some (.word keyword))
    (same : templateLexemes keyword patterns ++ rest = templateLexemes keyword others ++ otherRest) :
    patterns = others ∧ rest = otherRest := by
  unfold templateLexemes at same
  split_ifs at same with isEmpty otherIsEmpty otherIsEmpty
  · rw [List.isEmpty_iff] at isEmpty otherIsEmpty
    exact ⟨by rw [isEmpty, otherIsEmpty], same⟩
  · rw [List.nil_append] at same
    simp [same] at notKeyword
  · rw [List.nil_append] at same
    simp [← same] at otherNotKeyword
  · simp only [List.cons_append, List.cons.injEq, true_and] at same
    exact blockLexemes_append_injective same

theorem head?_templateLexemes_append (keyword : String) (patterns : List Pattern) (rest : List Lexeme) :
    (templateLexemes keyword patterns ++ rest).head? = some (.word keyword) ∨
      (templateLexemes keyword patterns ++ rest).head? = rest.head? := by
  unfold templateLexemes
  split <;> simp

theorem withLexemes_append_injective {graph other : Option String} (notWith : rest.head? ≠ some (.word "WITH"))
    (otherNotWith : otherRest.head? ≠ some (.word "WITH"))
    (same : graphLexemes [.word "WITH"] graph ++ rest = graphLexemes [.word "WITH"] other ++ otherRest) :
    graph = other ∧ rest = otherRest := by
  cases graph with
  | none =>
      cases other with
      | none => exact ⟨rfl, same⟩
      | some otherIri =>
          simp only [graphLexemes, List.nil_append, List.cons_append] at same
          simp [same] at notWith
  | some iri =>
      cases other with
      | none =>
          simp only [graphLexemes, List.nil_append, List.cons_append] at same
          simp [← same] at otherNotWith
      | some otherIri =>
          simp only [graphLexemes, List.nil_append, List.cons_append, List.cons.injEq, true_and,
            Lexeme.term.injEq, Term.iri.injEq] at same
          exact ⟨by rw [same.1], same.2⟩

theorem graphLexemes_injective {words : List Lexeme} {graph other : Option String}
    (same : graphLexemes words graph = graphLexemes words other) : graph = other := by
  cases graph <;> cases other <;> simp_all [graphLexemes]

/-- What an operation with templates is made of. -/
theorem templates_injective {delete insert condition otherDelete otherInsert otherCondition : List Pattern}
    {graph otherGraph : Option String}
    (same : graphLexemes [.word "WITH"] graph ++ (templateLexemes "DELETE" delete ++
        (templateLexemes "INSERT" insert ++ .word "WHERE" :: blockLexemes condition)) =
      graphLexemes [.word "WITH"] otherGraph ++ (templateLexemes "DELETE" otherDelete ++
        (templateLexemes "INSERT" otherInsert ++ .word "WHERE" :: blockLexemes otherCondition))) :
    delete = otherDelete ∧ insert = otherInsert ∧ condition = otherCondition ∧ graph = otherGraph := by
  -- What is behind a part never begins with the keyword of the part.
  have behindDeletion : ∀ insert condition, ∀ keyword ∈ ["WITH", "DELETE"],
      (templateLexemes "INSERT" insert ++ .word "WHERE" :: blockLexemes condition).head? ≠
        some (.word keyword) := by
    intro insert condition keyword mem
    rcases head?_templateLexemes_append "INSERT" insert (.word "WHERE" :: blockLexemes condition) with isHead | isHead
    all_goals
      rw [isHead]
      rintro ⟨⟩
      simp at mem
  have behindGraph : ∀ delete insert condition,
      (templateLexemes "DELETE" delete ++ (templateLexemes "INSERT" insert ++
        .word "WHERE" :: blockLexemes condition)).head? ≠ some (.word "WITH") := by
    intro delete insert condition
    rcases head?_templateLexemes_append "DELETE" delete
      (templateLexemes "INSERT" insert ++ .word "WHERE" :: blockLexemes condition) with isHead | isHead
    · simp [isHead]
    · rw [isHead]
      exact behindDeletion insert condition "WITH" (by simp)
  rcases withLexemes_append_injective (behindGraph _ _ _) (behindGraph _ _ _) same with ⟨sameGraph, sameTemplates⟩
  rcases templateLexemes_append_injective (behindDeletion _ _ "DELETE" (by simp))
    (behindDeletion _ _ "DELETE" (by simp)) sameTemplates with ⟨sameDeletion, sameInsertion⟩
  rcases templateLexemes_append_injective (by simp) (by simp) sameInsertion with ⟨sameInsert, sameCondition⟩
  exact ⟨sameDeletion, sameInsert, blockLexemes_injective (List.cons.inj sameCondition).2, sameGraph⟩

theorem silenceLexemes_append_injective {silent other : Bool} (notSilent : rest.head? ≠ some (.word "SILENT"))
    (otherNotSilent : otherRest.head? ≠ some (.word "SILENT"))
    (same : silenceLexemes silent ++ rest = silenceLexemes other ++ otherRest) :
    silent = other ∧ rest = otherRest := by
  cases silent <;> cases other <;> simp only [silenceLexemes, Bool.false_eq_true, if_false, if_true,
    List.nil_append, List.cons_append, List.cons.injEq, true_and] at same
  · exact ⟨rfl, same⟩
  · simp [same] at notSilent
  · simp [← same] at otherNotSilent
  · exact ⟨rfl, same⟩

theorem targetLexemes_injective {target other : GraphTarget} (same : targetLexemes target = targetLexemes other) :
    target = other := by
  cases target <;> cases other <;> simp_all [targetLexemes]

theorem head?_targetLexemes (target : GraphTarget) : (targetLexemes target).head? ≠ some (.word "SILENT") := by
  cases target <;> simp [targetLexemes]

end Parts

/-! ## Lexemes say what the operation does -/

/-- The kind that the first lexemes say. -/
def kindOf : List Lexeme → String
  | .word "INSERT" :: .word "DATA" :: _ => "InsertData"
  | .word "DELETE" :: .word "DATA" :: _ => "DeleteData"
  | .word "LOAD" :: _ => "Load"
  | .word "CLEAR" :: _ => "Clear"
  | .word "DROP" :: _ => "Drop"
  | .word "CREATE" :: _ => "Create"
  | [] => "UpdateOperation"
  | _ => "DeleteInsert"

theorem kindOf_lexemes (operation : UpdateOperation) : kindOf operation.lexemes = operation.action.kindName := by
  rcases operation with ⟨action, silent⟩
  cases action with
  | insertData | deleteData | load | clear | drop | create | abstract => rfl
  | deleteInsert delete insert condition graph =>
      cases graph with
      | some iri => rfl
      | none =>
          simp only [lexemes, graphLexemes, templateLexemes, blockLexemes, bracedLexemes, List.nil_append]
          split_ifs <;> rfl

/-- Whether an operation can be silent. -/
def IsManagement (operation : UpdateOperation) : Prop :=
  operation.action.kindName ∈ ["Load", "Clear", "Drop", "Create"]

theorem lexemes_injective {operation other : UpdateOperation} (same : operation.lexemes = other.lexemes) :
    operation.action = other.action ∧ (operation.IsManagement → operation.silent = other.silent) := by
  have sameKind : operation.action.kindName = other.action.kindName := by
    rw [← kindOf_lexemes, ← kindOf_lexemes, same]
  rcases operation with ⟨action, silent⟩
  rcases other with ⟨otherAction, otherSilent⟩
  cases action <;> cases otherAction <;> simp only [UpdateAction.kindName, String.reduceEq] at sameKind
  all_goals simp only [lexemes, List.cons.injEq, true_and] at same
  case insertData.insertData | deleteData.deleteData =>
      rcases dataLexemes_injective same with ⟨samePatterns, sameGraph⟩
      simp [samePatterns, sameGraph, IsManagement, UpdateAction.kindName]
  case deleteInsert.deleteInsert delete insert condition graph otherDelete otherInsert otherCondition otherGraph =>
      rcases templates_injective same with ⟨sameDelete, sameInsert, sameCondition, sameGraph⟩
      simp [sameDelete, sameInsert, sameCondition, sameGraph, IsManagement, UpdateAction.kindName]
  case load.load source into otherSource otherInto =>
      rcases silenceLexemes_append_injective (by simp) (by simp) same with ⟨sameSilence, sameNames⟩
      simp only [List.cons.injEq, Lexeme.term.injEq, Term.iri.injEq] at sameNames
      exact ⟨by rw [sameNames.1, graphLexemes_injective sameNames.2], fun _ => sameSilence⟩
  case clear.clear target otherTarget =>
      rcases silenceLexemes_append_injective (head?_targetLexemes _) (head?_targetLexemes _) same with
        ⟨sameSilence, sameTarget⟩
      exact ⟨by rw [targetLexemes_injective sameTarget], fun _ => sameSilence⟩
  case drop.drop target otherTarget =>
      rcases silenceLexemes_append_injective (head?_targetLexemes _) (head?_targetLexemes _) same with
        ⟨sameSilence, sameTarget⟩
      exact ⟨by rw [targetLexemes_injective sameTarget], fun _ => sameSilence⟩
  case create.create graph otherGraph =>
      rcases silenceLexemes_append_injective (head?_targetLexemes _) (head?_targetLexemes _) same with
        ⟨sameSilence, sameTarget⟩
      have sameGraph := GraphTarget.graph.inj (targetLexemes_injective sameTarget)
      exact ⟨by rw [sameGraph], fun _ => sameSilence⟩
  case abstract.abstract => simp [IsManagement, UpdateAction.kindName]

/-! ## The text is made of the lexemes -/

/-- Words with a space behind each. -/
def followed (words : List String) : List Char := words.flatMap fun word => word.toList ++ [' ']

theorem followed_append (words others : List String) : followed (words ++ others) = followed words ++ followed others :=
  List.flatMap_append

theorem followed_cons (word : String) (words : List String) :
    followed (word :: words) = word.toList ++ ' ' :: followed words := by
  simp [followed]

theorem toList_spaced_append {words : List String} (notEmpty : words ≠ []) :
    (spaced words).toList ++ [' '] = followed words := by
  induction words with
  | nil => contradiction
  | cons word words ih =>
      cases words with
      | nil => simp [spaced, followed]
      | cons second words =>
          rw [toList_spaced_cons (by simp), followed_cons, List.append_assoc, List.cons_append, ih (by simp)]

theorem followed_pattern {pattern : Pattern} {text : String} (rendered : pattern.render = .ok text) :
    text.toList ++ [' '] = Lexeme.written pattern.lexemes := by
  simp only [Pattern.render, bind_eq_ok, pure_eq_ok] at rendered
  rcases rendered with ⟨subject, isSubject, predicate, isPredicate, object, isObject, rfl⟩
  have predicateText : predicate.toList = pattern.predicateLexeme.chars := by
    unfold Pattern.renderPredicate at isPredicate
    unfold Pattern.predicateLexeme
    split_ifs at isPredicate ⊢
    · cases isPredicate
      rfl
    · exact Term.toList_of_render isPredicate
  simp [Pattern.lexemes, Lexeme.written, Lexeme.chars, predicateText, Term.toList_of_render isSubject,
    Term.toList_of_render isObject]

theorem followed_patterns {patterns : List Pattern} {words : List String}
    (rendered : Pattern.renderAll patterns = .ok words) :
    followed words = Lexeme.written (patterns.flatMap Pattern.lexemes) := by
  have each := mapM_eq_ok.mp rendered
  induction each with
  | nil => rfl
  | cons first _ ih =>
      rw [followed_cons, List.flatMap_cons, Lexeme.written_append, ← followed_pattern first,
        ← ih (mapM_eq_ok.mpr ‹_›)]
      simp

theorem followed_braces {words : List String} {lexemes : List Lexeme} (same : followed words = Lexeme.written lexemes) :
    followed (braces words) = Lexeme.written (bracedLexemes lexemes) := by
  simp only [braces, bracedLexemes, followed_cons, followed_append, Lexeme.written_cons, Lexeme.written_append, same,
    List.cons_append, Lexeme.chars]
  simp [followed, Lexeme.written, Lexeme.chars]

theorem followed_block {patterns : List Pattern} {words : List String} (rendered : block patterns = .ok words) :
    followed words = Lexeme.written (blockLexemes patterns) := by
  rcases map_eq_ok.mp rendered with ⟨inner, isInner, rfl⟩
  exact followed_braces (followed_patterns isInner)

theorem toList_of_renderIri {iri name : String} (rendered : renderIri iri = .ok name) :
    name.toList = (Lexeme.term (.iri iri)).chars := by
  have renderedTerm : (Term.iri iri).render = .ok name := rendered
  exact Term.toList_of_render renderedTerm

theorem followed_data {patterns : List Pattern} {graph : Option String} {words : List String}
    (rendered : graphBlock patterns graph = .ok words) :
    followed words = Lexeme.written (dataLexemes patterns graph) := by
  cases graph with
  | none => exact followed_block rendered
  | some iri =>
      simp only [graphBlock, bind_eq_ok, pure_eq_ok] at rendered
      rcases rendered with ⟨inner, isInner, name, isName, rfl⟩
      apply followed_braces
      rw [followed_cons, Lexeme.written_cons, Lexeme.written_cons, ← followed_block isInner,
        String.toList_append, toList_of_renderIri isName]
      simp [Lexeme.chars]

theorem followed_template {keyword : String} {patterns : List Pattern} {words : List String}
    (rendered : templateWords keyword patterns = .ok words) :
    followed words = Lexeme.written (templateLexemes keyword patterns) := by
  unfold templateWords at rendered
  unfold templateLexemes
  split_ifs at rendered ⊢
  · cases rendered
    rfl
  · rcases map_eq_ok.mp rendered with ⟨inner, isInner, rfl⟩
    rw [followed_cons, Lexeme.written_cons, ← followed_block isInner]
    rfl

theorem followed_target {target : GraphTarget} {words : List String} (rendered : targetWords target = .ok words) :
    followed words = Lexeme.written (targetLexemes target) := by
  cases target with
  | graph iri =>
      rcases map_eq_ok.mp rendered with ⟨name, isName, rfl⟩
      simp [followed, targetLexemes, Lexeme.written, toList_of_renderIri isName, Lexeme.chars]
  | default | named | all =>
      cases rendered
      rfl

theorem followed_silence (silent : Bool) : followed (silence silent) = Lexeme.written (silenceLexemes silent) := by
  cases silent <;> rfl

theorem followed_scope {iri name : String} (rendered : renderIri iri = .ok name) :
    followed ["WITH " ++ name] = Lexeme.written (graphLexemes [.word "WITH"] (some iri)) := by
  simp [followed, graphLexemes, Lexeme.written, toList_of_renderIri rendered, Lexeme.chars]

theorem followed_destination {iri name : String} (rendered : renderIri iri = .ok name) :
    followed ["INTO", "GRAPH", name] = Lexeme.written (graphLexemes [.word "INTO", .word "GRAPH"] (some iri)) := by
  simp [followed, graphLexemes, Lexeme.written, toList_of_renderIri rendered, Lexeme.chars]

/-- The words of an operation with templates are those of its parts. -/
theorem parts_of_deleteInsert {delete insert condition : List Pattern} {graph : Option String} {silent : Bool}
    {words : List String} (isWords : words? ⟨.deleteInsert delete insert condition graph, silent⟩ = some (.ok words)) :
    ∃ scope deletion insertion block, words = scope ++ deletion ++ insertion ++ "WHERE" :: block ∧
      followed scope = Lexeme.written (graphLexemes [.word "WITH"] graph) ∧
      followed deletion = Lexeme.written (templateLexemes "DELETE" delete) ∧
      followed insertion = Lexeme.written (templateLexemes "INSERT" insert) ∧
      followed block = Lexeme.written (blockLexemes condition) := by
  have isDone := Option.some.inj isWords
  cases graph with
  | none =>
      simp only [bind_eq_ok, pure_eq_ok] at isDone
      rcases isDone with ⟨_, ⟨⟩, deletion, isDeletion, insertion, isInsertion, block, isBlock, rfl⟩
      exact ⟨[], deletion, insertion, block, rfl, rfl, followed_template isDeletion, followed_template isInsertion,
        followed_block isBlock⟩
  | some iri =>
      simp only [bind_eq_ok, map_eq_ok, pure_eq_ok] at isDone
      rcases isDone with
        ⟨_, ⟨name, isName, rfl⟩, deletion, isDeletion, insertion, isInsertion, block, isBlock, rfl⟩
      exact ⟨["WITH " ++ name], deletion, insertion, block, rfl, followed_scope isName, followed_template isDeletion,
        followed_template isInsertion, followed_block isBlock⟩

/-- The words of loading are those of its parts. -/
theorem parts_of_load {source : String} {into : Option String} {silent : Bool} {words : List String}
    (isWords : words? ⟨.load source into, silent⟩ = some (.ok words)) :
    ∃ name destination, words = "LOAD" :: silence silent ++ name :: destination ∧
      name.toList = (Lexeme.term (.iri source)).chars ∧
      followed destination = Lexeme.written (graphLexemes [.word "INTO", .word "GRAPH"] into) := by
  have isDone := Option.some.inj isWords
  cases into with
  | none =>
      simp only [bind_eq_ok, pure_eq_ok] at isDone
      rcases isDone with ⟨name, isName, _, ⟨⟩, rfl⟩
      exact ⟨name, [], rfl, toList_of_renderIri isName, rfl⟩
  | some iri =>
      simp only [bind_eq_ok, map_eq_ok, pure_eq_ok] at isDone
      rcases isDone with ⟨name, isName, _, ⟨graph, isGraph, rfl⟩, rfl⟩
      exact ⟨name, ["INTO", "GRAPH", graph], rfl, toList_of_renderIri isName, followed_destination isGraph⟩

/-- The words of an operation are its lexemes. -/
theorem followed_words {operation : UpdateOperation} {words : List String}
    (isWords : operation.words? = some (.ok words)) : followed words = Lexeme.written operation.lexemes := by
  rcases operation with ⟨action, silent⟩
  cases action with
  | insertData data graph | deleteData data graph =>
      rcases map_eq_ok.mp (Option.some.inj isWords) with ⟨inner, isInner, rfl⟩
      rw [followed_cons, lexemes, Lexeme.written_cons, Lexeme.written_cons, ← followed_data isInner]
      rfl
  | deleteInsert delete insert condition graph =>
      rcases parts_of_deleteInsert isWords with
        ⟨scope, deletion, insertion, block, rfl, isScope, isDeletion, isInsertion, isBlock⟩
      simp only [lexemes, followed_append, followed_cons, Lexeme.written_append, Lexeme.written_cons, isScope,
        isDeletion, isInsertion, isBlock, List.append_assoc, Lexeme.chars]
  | load source into =>
      rcases parts_of_load isWords with ⟨name, destination, rfl, isName, isDestination⟩
      simp only [lexemes, followed_append, followed_cons, Lexeme.written_append, Lexeme.written_cons, List.cons_append,
        followed_silence, isName, isDestination, Lexeme.chars]
  | clear target | drop target =>
      rcases map_eq_ok.mp (Option.some.inj isWords) with ⟨inner, isInner, rfl⟩
      simp only [lexemes, followed_append, followed_cons, Lexeme.written_append, Lexeme.written_cons, List.cons_append,
        followed_target isInner, followed_silence, Lexeme.chars]
  | create graph =>
      rcases map_eq_ok.mp (Option.some.inj isWords) with ⟨name, isName, rfl⟩
      have sameTarget : followed ["GRAPH", name] = Lexeme.written (targetLexemes (.graph graph)) :=
        followed_target (by simp only [targetWords, isName]; rfl)
      simp only [lexemes, followed_append, followed_cons, Lexeme.written_append, Lexeme.written_cons, List.cons_append,
        sameTarget, followed_silence, Lexeme.chars]
  | abstract => cases isWords

theorem words_ne_nil {operation : UpdateOperation} {words : List String}
    (isWords : operation.words? = some (.ok words)) : words ≠ [] := by
  rintro rfl
  have noLexemes : operation.lexemes = [] := by
    have sameLexemes := followed_words isWords
    cases isLexemes : operation.lexemes with
    | nil => rfl
    | cons lexeme lexemes => simp [followed, isLexemes, Lexeme.written] at sameLexemes
  have isKind := kindOf_lexemes operation
  rw [noLexemes, kindOf] at isKind
  rcases operation with ⟨action, silent⟩
  cases action <;> simp [UpdateAction.kindName, words?] at isKind isWords

theorem toList_toText_append {operation : UpdateOperation} {text : String} (isText : operation.toText = .ok text) :
    text.toList ++ [' '] = Lexeme.written operation.lexemes := by
  unfold toText at isText
  rcases isWords : operation.words? with _ | (failure | words)
  · simp [isWords] at isText
  · simp [isWords, Outcome.ofRender, Except.map, misuse] at isText
  · simp only [isWords, Outcome.ofRender, Except.map, Except.ok.injEq] at isText
    rw [← isText, ← followed_words isWords, ← toList_spaced_append (words_ne_nil isWords), spaced]

end UpdateOperation

/-! ## Terms -/

namespace UpdateAction

/-- The terms of an operation and the graphs that it names. -/
def terms : UpdateAction → List Term
  | .insertData data graph | .deleteData data graph => data.flatMap Pattern.terms ++ graph.toList.map .iri
  | .deleteInsert delete insert condition graph =>
    (delete ++ insert ++ condition).flatMap Pattern.terms ++ graph.toList.map .iri
  | .load source into => .iri source :: into.toList.map .iri
  | .clear (.graph iri) | .drop (.graph iri) | .create iri => [.iri iri]
  | .clear _ | .drop _ | .abstract => []

/-- The triples that an operation inserts or deletes as they are. -/
def data? : UpdateAction → Option (List Pattern)
  | .insertData data _ | .deleteData data _ => some data
  | _ => none

end UpdateAction

namespace UpdateOperation

/-- Lexemes that are fixed words, or terms among the given ones. -/
def AreOf (terms : List Term) (lexemes : List Lexeme) : Prop :=
  ∀ lexeme ∈ lexemes, (∃ word ∈ Lexeme.words, lexeme = .word word) ∨ ∃ term ∈ terms, lexeme = .term term

section AreOf

variable {terms others : List Term} {lexemes : List Lexeme}

theorem AreOf.mono (areOf : AreOf terms lexemes) (subset : terms ⊆ others) : AreOf others lexemes := by
  intro lexeme mem
  rcases areOf lexeme mem with isWord | ⟨term, isTerm, rfl⟩
  · exact .inl isWord
  · exact .inr ⟨term, subset isTerm, rfl⟩

theorem areOf_nil : AreOf terms [] := by simp [AreOf]

theorem areOf_word {word : String} (isWord : word ∈ Lexeme.words) (areOf : AreOf terms lexemes) :
    AreOf terms (.word word :: lexemes) := by
  simp only [AreOf, List.mem_cons, forall_eq_or_imp]
  exact ⟨.inl ⟨word, isWord, rfl⟩, areOf⟩

theorem areOf_term {term : Term} (isTerm : term ∈ terms) (areOf : AreOf terms lexemes) :
    AreOf terms (.term term :: lexemes) := by
  simp only [AreOf, List.mem_cons, forall_eq_or_imp]
  exact ⟨.inr ⟨term, isTerm, rfl⟩, areOf⟩

theorem AreOf.append {behind : List Lexeme} (areOf : AreOf terms lexemes) (areBehind : AreOf terms behind) :
    AreOf terms (lexemes ++ behind) := by
  intro lexeme mem
  rcases List.mem_append.mp mem with front | back
  · exact areOf lexeme front
  · exact areBehind lexeme back

theorem areOf_braced (areOf : AreOf terms lexemes) : AreOf terms (bracedLexemes lexemes) :=
  areOf_word (by decide) (areOf.append (areOf_word (by decide) areOf_nil))

theorem areOf_block {patterns : List Pattern} : AreOf (patterns.flatMap Pattern.terms) (blockLexemes patterns) := by
  apply areOf_braced
  intro lexeme mem
  rcases List.mem_flatMap.mp mem with ⟨pattern, isPattern, isLexeme⟩
  have areOf : AreOf pattern.terms pattern.lexemes := by
    apply areOf_term (by simp [Pattern.terms])
    unfold Pattern.predicateLexeme
    have behind : AreOf pattern.terms [.term pattern.object, .word "."] :=
      areOf_term (by simp [Pattern.terms]) (areOf_word (by decide) areOf_nil)
    split_ifs
    · exact areOf_word (by decide) behind
    · exact areOf_term (by simp [Pattern.terms]) behind
  rcases areOf lexeme isLexeme with isWord | ⟨term, isTerm, rfl⟩
  · exact .inl isWord
  · exact .inr ⟨term, List.mem_flatMap.mpr ⟨pattern, isPattern, isTerm⟩, rfl⟩

theorem areOf_template {keyword : String} (isWord : keyword ∈ Lexeme.words) {patterns : List Pattern} :
    AreOf (patterns.flatMap Pattern.terms) (templateLexemes keyword patterns) := by
  unfold templateLexemes
  split_ifs
  · exact areOf_nil
  · exact areOf_word isWord areOf_block

theorem areOf_graph {words : List Lexeme} (areWords : AreOf [] words) (graph : Option String) :
    AreOf (graph.toList.map .iri) (graphLexemes words graph) := by
  cases graph with
  | none => exact areOf_nil
  | some iri => exact (areWords.mono (by simp)).append (areOf_term (by simp) areOf_nil)

theorem areOf_data {patterns : List Pattern} {graph : Option String} :
    AreOf (patterns.flatMap Pattern.terms ++ graph.toList.map .iri) (dataLexemes patterns graph) := by
  cases graph with
  | none => exact areOf_block.mono (by simp)
  | some iri =>
      apply areOf_braced
      apply areOf_word (by decide)
      apply areOf_term (by simp)
      exact areOf_block.mono (by simp)

theorem areOf_silence (silent : Bool) : AreOf terms (silenceLexemes silent) := by
  cases silent with
  | false => exact areOf_nil
  | true => exact areOf_word (by decide) areOf_nil

end AreOf

/-- The lexemes of an operation are fixed words and its terms. -/
theorem areOf_lexemes (operation : UpdateOperation) : AreOf operation.action.terms operation.lexemes := by
  rcases operation with ⟨action, silent⟩
  cases action with
  | insertData data graph | deleteData data graph =>
      exact areOf_word (by decide) (areOf_word (by decide) areOf_data)
  | deleteInsert delete insert condition graph =>
      have scope : AreOf (graph.toList.map .iri) (graphLexemes [.word "WITH"] graph) :=
        areOf_graph (areOf_word (by decide) areOf_nil) graph
      have deletion : AreOf (delete.flatMap Pattern.terms) (templateLexemes "DELETE" delete) :=
        areOf_template (by decide)
      have insertion : AreOf (insert.flatMap Pattern.terms) (templateLexemes "INSERT" insert) :=
        areOf_template (by decide)
      have block : AreOf (condition.flatMap Pattern.terms) (.word "WHERE" :: blockLexemes condition) :=
        areOf_word (by decide) areOf_block
      simp only [UpdateAction.terms, List.flatMap_append]
      refine (scope.mono ?_).append ((deletion.mono ?_).append ((insertion.mono ?_).append (block.mono ?_)))
      all_goals
        intro term mem
        simp only [List.mem_append]
        tauto
  | load source into =>
      have destination : AreOf (into.toList.map .iri) (graphLexemes [.word "INTO", .word "GRAPH"] into) :=
        areOf_graph (areOf_word (by decide) (areOf_word (by decide) areOf_nil)) into
      apply areOf_word (by decide)
      apply (areOf_silence silent).append
      exact areOf_term (by simp [UpdateAction.terms]) (destination.mono (by simp [UpdateAction.terms]))
  | clear target | drop target =>
      apply areOf_word (by decide)
      apply (areOf_silence silent).append
      cases target with
      | graph iri => exact areOf_word (by decide) (areOf_term (by simp [UpdateAction.terms]) areOf_nil)
      | default | named | all => exact areOf_word (by decide) areOf_nil
  | create graph =>
      apply areOf_word (by decide)
      apply (areOf_silence silent).append
      exact areOf_word (by decide) (areOf_term (by simp [UpdateAction.terms]) areOf_nil)
  | abstract => exact areOf_nil

theorem recoverable_lexemes {operation : UpdateOperation}
    (recoverable : ∀ term ∈ operation.action.terms, term.IsRecoverable) :
    ∀ lexeme ∈ operation.lexemes, lexeme.IsRecoverable := by
  intro lexeme mem
  rcases operation.areOf_lexemes lexeme mem with ⟨word, isWord, rfl⟩ | ⟨term, isTerm, rfl⟩
  · exact isWord
  · exact recoverable term isTerm

/-! ## What a text determines -/

theorem not_variable_of_isChecked {operation : UpdateOperation} (isChecked : IsChecked operation.action)
    {data : List Pattern} (isData : data ∈ operation.action.data?) :
    ∀ pattern ∈ data, pattern.variableNames = [] := by
  rcases operation with ⟨action, silent⟩
  cases action <;> simp only [UpdateAction.data?, Option.mem_def, Option.some.injEq, reduceCtorEq] at isData
  case insertData | deleteData =>
      subst isData
      exact isChecked

/-- Every graph name among the terms is an IRI. -/
theorem not_variable_mem_terms {operation : UpdateOperation} (isChecked : IsChecked operation.action)
    {data : List Pattern} (isData : data ∈ operation.action.data?) (name : String) :
    .variable name ∉ operation.action.terms := by
  intro mem
  have ground := not_variable_of_isChecked isChecked isData
  rcases operation with ⟨action, silent⟩
  cases action <;> simp only [UpdateAction.data?, Option.mem_def, Option.some.injEq, reduceCtorEq] at isData
  case insertData | deleteData =>
      subst isData
      simp only [UpdateAction.terms, List.mem_append, List.mem_flatMap, List.mem_map, reduceCtorEq, and_false,
        exists_false, or_false] at mem
      rcases mem with ⟨pattern, isPattern, isTerm⟩
      have noNames := ground pattern isPattern
      rw [Pattern.variableNames, List.filterMap_eq_nil_iff] at noNames
      cases noNames _ isTerm

/-- The text of an operation determines what it does, to which graphs and, where it can be silent, whether it is.
However the text of data is cut into words and terms, none of the terms is a variable. -/
theorem determined_by_text {operation : UpdateOperation} {text : String} (isBuilt : operation.IsBuilt)
    (recoverable : ∀ term ∈ operation.action.terms, term.IsRecoverable) (isText : operation.toText = .ok text) :
    (∀ other : UpdateOperation, (∀ term ∈ other.action.terms, term.IsRecoverable) → other.toText = .ok text →
      operation.action = other.action ∧ (operation.IsManagement → operation.silent = other.silent)) ∧
    ∀ data ∈ operation.action.data?, (∀ pattern ∈ data, pattern.variableNames = []) ∧
      ∀ lexemes, (∀ lexeme ∈ lexemes, lexeme.IsRecoverable) → text.toList ++ [' '] = Lexeme.written lexemes →
        ∀ name, .term (.variable name) ∉ lexemes := by
  have isWritten := toList_toText_append isText
  have areRecoverable := recoverable_lexemes recoverable
  constructor
  · intro other otherRecoverable otherIsText
    have otherIsWritten := toList_toText_append otherIsText
    apply lexemes_injective
    apply Lexeme.written_injective areRecoverable (recoverable_lexemes otherRecoverable)
    rw [← isWritten, otherIsWritten]
  · intro data isData
    refine ⟨not_variable_of_isChecked isBuilt.isChecked isData, ?_⟩
    intro lexemes lexemesRecoverable isCut name mem
    have sameLexemes : lexemes = operation.lexemes := by
      apply Lexeme.written_injective lexemesRecoverable areRecoverable
      rw [← isCut, isWritten]
    rw [sameLexemes] at mem
    rcases operation.areOf_lexemes _ mem with ⟨word, _, isWord⟩ | ⟨term, isTerm, sameTerm⟩
    · cases isWord
    · cases sameTerm
      exact not_variable_mem_terms isBuilt.isChecked isData name isTerm

end UpdateOperation

/-- A triple whose literal looks like the end of a block. -/
def bracedPattern : Pattern :=
  ⟨.iri "http://h/s", .iri "http://h/p", .literal ⟨"\" . \x7d \\ ?x", some "en", none⟩⟩

/-- Data with that triple. -/
def bracedInsertion : UpdateOperation := ⟨.insertData [bracedPattern] (some "http://h/g"), false⟩

/-- Quotes, braces and question marks in a literal are neither ends nor variables. -/
theorem determined_by_text_of_bracedInsertion :
    bracedInsertion.IsBuilt ∧ (∀ term ∈ bracedInsertion.action.terms, term.IsRecoverable) ∧
    ∃ text, bracedInsertion.toText = .ok text ∧
      (∀ other : UpdateOperation, (∀ term ∈ other.action.terms, term.IsRecoverable) → other.toText = .ok text →
        other.action = .insertData [bracedPattern] (some "http://h/g")) ∧
      ∀ lexemes, (∀ lexeme ∈ lexemes, lexeme.IsRecoverable) → text.toList ++ [' '] = Lexeme.written lexemes →
        ∀ name, .term (.variable name) ∉ lexemes := by
  have isMade : bracedInsertion.IsMade :=
    ⟨"InsertData", ⟨[.list [.pattern bracedPattern], .text "http://h/g"], []⟩, by rfl⟩
  have isBuilt : bracedInsertion.IsBuilt := ⟨bracedInsertion, isMade, rfl⟩
  have writable : ∀ iri ∈ ["http://h/s", "http://h/p", "http://h/g"], isWritableIri iri := by decide +kernel
  have recoverable : ∀ term ∈ bracedInsertion.action.terms, term.IsRecoverable := by
    intro term mem
    simp only [bracedInsertion, bracedPattern, UpdateAction.terms, Pattern.terms, List.flatMap_cons, List.flatMap_nil,
      Option.toList, List.map_cons, List.map_nil, List.cons_append, List.nil_append, List.mem_cons,
      List.not_mem_nil, or_false] at mem
    rcases mem with rfl | rfl | rfl | rfl
    · exact writable _ (by simp)
    · exact writable _ (by simp)
    · exact ⟨by decide, by simp, by simp⟩
    · exact writable _ (by simp)
  have isText : ∃ text, bracedInsertion.toText = .ok text := ⟨_, rfl⟩
  rcases isText with ⟨text, isText⟩
  rcases UpdateOperation.determined_by_text isBuilt recoverable isText with ⟨same, ground⟩
  refine ⟨isBuilt, recoverable, text, isText, ?_, (ground _ rfl).2⟩
  intro other otherRecoverable otherIsText
  exact (same other otherRecoverable otherIsText).1.symm

end Sparql
