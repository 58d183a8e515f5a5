import Sparql.Proofs.Outcome
import Sparql.Proofs.Query.Tokens
import Sparql.Proofs.Syntax.Spelling

/-!
# Queries are written as their tokens

The text of a query whose terms are single tokens and whose raw texts are plain has exactly the tokens of the
query. Each kind of clause is looked at once; texts put together from words have the tokens of the words.

The words of a text have a blank before each of them, so that `SpellWords` goes from parts to the whole by appending.
The main result is by recursion on the tree of a query, in which a sub-query counts with its text and every other part
with its group.
-/

namespace Sparql

open Syntax Outcome

/-! ## Words -/

/-- Words, each behind a space. -/
def trailing (words : List String) : List Char := words.flatMap fun word => ' ' :: word.toList

/-- Whether words have the given tokens when they are written with spaces between them. -/
def SpellWords (words : List String) (tokens : List Token) : Prop := Spells (trailing words) tokens

section Words

/-- A fixed word as a part of a text. -/
theorem spells_word (word : String) {tokens : List Token} (noComment : '#' ∉ word.toList)
    (isTokens : lex word.toList = some tokens) : Spells word.toList tokens :=
  .of_lex noComment isTokens

variable {α : Type} {word : String} {token : Token} {words others : List String} {tokens otherTokens : List Token}

theorem spells_openingBrace : Spells "\x7b".toList [.mark '{'] := spells_word "\x7b" (by decide) rfl

theorem spells_closingBrace : Spells "\x7d".toList [.mark '}'] := spells_word "\x7d" (by decide) rfl

theorem closes_trailing {more : List Char} (closes : Closes more) (words : List String) :
    Closes (trailing words ++ more) := by
  cases words with
  | nil => exact closes
  | cons word words => exact .space _

theorem trailing_eq (words : List String) :
    words = [] ∨ trailing words = ' ' :: (spaced words).toList := by
  cases words with
  | nil => exact .inl rfl
  | cons word words =>
      right
      induction words generalizing word with
      | nil => simp [trailing, spaced]
      | cons second words ih =>
          have others := ih second
          simp only [trailing, spaced, List.flatMap_cons, String.toList_intercalate, List.map_cons] at others ⊢
          rw [others, List.intercalate_cons_cons]
          simp

namespace SpellWords

theorem nil : SpellWords [] [] := Spells.nil

theorem append (spells : SpellWords words tokens) (spellOthers : SpellWords others otherTokens) :
    SpellWords (words ++ others) (tokens ++ otherTokens) := by
  intro more closes
  have split : trailing (words ++ others) = trailing words ++ trailing others := List.flatMap_append
  rw [split, List.append_assoc, spells (closes_trailing closes others), spellOthers closes, Option.map_map]
  simp [Function.comp_def]

theorem singleton (spells : Spells word.toList tokens) : SpellWords [word] tokens := by
  intro more closes
  have alone : trailing [word] ++ more = ' ' :: (word.toList ++ more) := by simp [trailing]
  rw [alone, lex_space rfl, spells closes]

theorem cons (spells : Spells word.toList tokens) (spellOthers : SpellWords others otherTokens) :
    SpellWords (word :: others) (tokens ++ otherTokens) :=
  (singleton spells).append spellOthers

/-- Words with spaces between them are a part of a text. -/
theorem spaced (spells : SpellWords words tokens) : Spells (spaced words).toList tokens := by
  intro more closes
  rcases trailing_eq words with rfl | same
  · exact spells closes
  · have behindSpace := spells closes
    rwa [same, List.cons_append, lex_space rfl] at behindSpace

/-- Words that are written one by one. -/
theorem of_forall₂ {words : List String} {spellings : List (List Token)}
    (each : List.Forall₂ (fun word tokens => Spells word.toList tokens) words spellings) :
    SpellWords words spellings.flatten := by
  induction each with
  | nil => exact nil
  | cons spells _ ih => exact cons spells ih

theorem flatten {parts : List (List String)} {spellings : List (List Token)}
    (each : List.Forall₂ SpellWords parts spellings) : SpellWords parts.flatten spellings.flatten := by
  induction each with
  | nil => exact nil
  | cons spells _ ih => exact append spells ih

theorem joinWith {parts : List (List String)} {spellings : List (List Token)}
    (each : List.Forall₂ SpellWords parts spellings) (spells : Spells word.toList [token]) :
    SpellWords (joinWith word parts) (joinWith token spellings) := by
  induction each with
  | nil => exact nil
  | cons first others ih =>
      cases others with
      | nil => exact first
      | cons _ _ => exact append first (cons spells ih)

theorem braced (spells : SpellWords words tokens) : SpellWords ("\x7b" :: (words ++ ["\x7d"])) (braced tokens) :=
  cons spells_openingBrace (append spells (singleton spells_closingBrace))

theorem optional (spells : SpellWords words tokens) :
    SpellWords ("OPTIONAL \x7b" :: (words ++ ["\x7d"])) (.keyword .optional :: Syntax.braced tokens) := by
  have opening : Spells "OPTIONAL \x7b".toList [.keyword .optional, .mark '{'] :=
    spells_word "OPTIONAL \x7b" (by decide) rfl
  exact cons opening (append spells (singleton spells_closingBrace))

end SpellWords

/-- What is written for each item of a list that can be written. -/
theorem forall₂_of_mapM {β : Type} {related : β → List Token → Prop} {items : List α} {results : List β}
    {write : α → Except RenderError β} {spelling : α → List Token} (done : items.mapM write = .ok results)
    (each : ∀ item ∈ items, ∀ result, write item = .ok result → related result (spelling item)) :
    List.Forall₂ related results (items.map spelling) := by
  have written := mapM_eq_ok.mp done
  induction written with
  | nil => exact .nil
  | cons first _ ih =>
      simp only [List.mem_cons, forall_eq_or_imp] at each
      exact .cons (each.1 _ first) (ih (mapM_eq_ok.mpr ‹_›) each.2)

theorem SpellWords.of_mapM {items : List α} {write : α → Except RenderError String}
    {spelling : α → List Token} (done : items.mapM write = .ok words)
    (each : ∀ item ∈ items, ∀ word, write item = .ok word → Spells word.toList (spelling item)) :
    SpellWords words (items.flatMap spelling) :=
  SpellWords.of_forall₂ (forall₂_of_mapM done each)

theorem SpellWords.flatten_of_mapM {items : List α} {write : α → Written} {spelling : α → List Token}
    {parts : List (List String)} (done : items.mapM write = .ok parts)
    (each : ∀ item ∈ items, ∀ words, write item = .ok words → SpellWords words (spelling item)) :
    SpellWords parts.flatten (items.flatMap spelling) :=
  SpellWords.flatten (forall₂_of_mapM done each)

theorem SpellWords.map {items : List α} {write : α → String} {spelling : α → List Token}
    (each : ∀ item ∈ items, Spells (write item).toList (spelling item)) :
    SpellWords (items.map write) (items.flatMap spelling) := by
  refine SpellWords.of_forall₂ ?_
  simpa [List.forall₂_map_left_iff, List.forall₂_map_right_iff, List.forall₂_same] using each

end Words

/-! ## Terms and raw texts -/

theorem Term.toList_of_render {term : Term} {text : String} (rendered : term.render = .ok text) :
    text.toList = term.chars := by
  cases term with
  | iri value =>
      simp only [render, renderIri] at rendered
      split at rendered <;> cases rendered
      simp [chars]
  | blank label | «variable» name =>
      cases rendered
      simp [chars, variableText]
  | literal value =>
      cases rendered
      simp [chars, Literal.toText]

/-- The first character of a term, which says of which kind it is. -/
def Term.sign : Term → Char
  | .iri _ => '<'
  | .blank _ => '_'
  | .literal _ => '"'
  | .variable _ => '?'

theorem Term.exists_chars (term : Term) : ∃ behind, term.chars = term.sign :: behind := by
  cases term with
  | iri value | blank label | «variable» name => exact ⟨_, rfl⟩
  | literal value =>
      have quoted : ∃ behind, Literal.quote value.spelled.toList = '"' :: behind := by
        unfold Literal.quote
        split <;> exact ⟨_, rfl⟩
      rcases quoted with ⟨behind, isQuoted⟩
      simp only [chars, sign, Literal.chars, isQuoted]
      split <;> exact ⟨_, rfl⟩

theorem Term.exists_toList_of_render {term : Term} {text : String} (rendered : term.render = .ok text) :
    ∃ behind, text.toList = term.sign :: behind := by
  rw [Term.toList_of_render rendered]
  exact term.exists_chars

theorem Term.token_ne_mark (term : Term) (c : Char) : term.token ≠ .mark c := by
  cases term <;> rintro ⟨⟩

theorem Term.IsToken.spells {term : Term} (isToken : term.IsToken) : Spells term.chars [term.token] :=
  Spells.of_readToken? isToken term.token_ne_mark

theorem Term.IsToken.spells_of_render {term : Term} {text : String} (isToken : term.IsToken)
    (rendered : term.render = .ok text) : Spells text.toList [term.token] :=
  Term.toList_of_render rendered ▸ isToken.spells

theorem spells_variableText {name : String} (isToken : (Term.variable name).IsToken) :
    Spells (variableText name).toList [(Term.variable name).token] :=
  isToken.spells_of_render rfl

theorem exists_rawTokens {text : String} (notStructural : ∀ c ∈ text.toList, isStructural c = false) :
    lex text.toList = some (rawTokens text) := by
  have plain : ∀ c ∈ text.toList, isQuote c = false ∧ c ≠ '#' := by
    intro c mem
    have notOne := notStructural c mem
    simp only [isStructural, Bool.or_eq_false_iff, decide_eq_false_iff_not] at notOne
    exact ⟨notOne.1.1.1, notOne.1.1.2⟩
  rcases exists_tokens plain with ⟨tokens, isTokens⟩
  simp [rawTokens, isTokens]

theorem spells_rawTokens {text : String} (notStructural : ∀ c ∈ text.toList, isStructural c = false) :
    Spells text.toList (rawTokens text) := by
  refine .of_lex (fun mem => ?_) (exists_rawTokens notStructural)
  cases notStructural '#' mem

/-! ## Clauses -/

theorem Pattern.spells_predicate {pattern : Pattern} {text : String} (isToken : pattern.predicate.IsToken)
    (rendered : renderPredicate pattern.predicate = .ok text) :
    Spells text.toList [pattern.predicateToken] := by
  unfold renderPredicate at rendered
  unfold predicateToken
  split at rendered
  · rename_i isType
    cases rendered
    rw [if_pos isType]
    exact spells_word "a" (by decide) rfl
  · rename_i notType
    rw [if_neg notType]
    exact isToken.spells_of_render rendered

theorem Pattern.spells {pattern : Pattern} {text : String} (areTokens : ∀ term ∈ pattern.terms, term.IsToken)
    (rendered : pattern.render = .ok text) : Spells text.toList pattern.tokens := by
  simp only [terms, List.mem_cons, forall_eq_or_imp, List.not_mem_nil, false_implies, forall_const] at areTokens
  simp only [render, bind_eq_ok, pure_eq_ok] at rendered
  rcases rendered with ⟨subject, isSubject, predicate, isPredicate, object, isObject, rfl⟩
  have same : (subject ++ " " ++ predicate ++ " " ++ object ++ " .").toList =
      subject.toList ++ ' ' :: (predicate.toList ++ ' ' :: (object.toList ++ ' ' :: ".".toList)) := by
    simp
  rw [same]
  exact (areTokens.1.spells_of_render isSubject).spaced <|
    (spells_predicate areTokens.2.1 isPredicate).spaced <|
      (areTokens.2.2.1.spells_of_render isObject).spaced (spells_word "." (by decide) rfl)

theorem Pattern.spellWords {patterns : List Pattern} {words : List String}
    (areTokens : ∀ term ∈ patterns.flatMap Pattern.terms, term.IsToken)
    (rendered : renderAll patterns = .ok words) : SpellWords words (patterns.flatMap Pattern.tokens) :=
  .of_mapM rendered fun pattern mem _ =>
    Pattern.spells fun term isTerm => areTokens term (List.mem_flatMap.mpr ⟨pattern, mem, isTerm⟩)

theorem opens_filter : Opens "FILTER(".toList [.keyword .filter, .mark '('] :=
  .cons rfl (fun _ => rfl) (.cons rfl (fun _ => rfl) .nil)

theorem spells_filterText {body : String} {tokens : List Token} (spells : Spells body.toList tokens) :
    Spells (filterText body).toList (filterTokens tokens) := by
  have same : (filterText body).toList = "FILTER(".toList ++ (body.toList ++ [')']) := by
    simp [filterText]
  rw [same]
  exact opens_filter.append spells.bracketed

theorem OptionalGroup.spellWords {group : OptionalGroup} {words : List String}
    (areTokens : ∀ term ∈ group.terms, term.IsToken)
    (arePlain : ∀ filter ∈ group.filters, IsPlain filter.text) (rendered : group.words = .ok words) :
    SpellWords words group.tokens := by
  simp only [OptionalGroup.words, bind_eq_ok, pure_eq_ok] at rendered
  rcases rendered with ⟨patterns, isPatterns, rfl⟩
  have filters : SpellWords (group.filters.map (filterText ·.text))
      (group.filters.flatMap fun filter => filterTokens (rawTokens filter.text)) :=
    .map fun filter mem => spells_filterText (spells_rawTokens (arePlain filter mem).notStructural)
  have content := (Pattern.spellWords areTokens isPatterns).append filters
  exact content.optional

namespace BindBranch

theorem spells_test {name iri text : String} (isVariable : (Term.variable name).IsToken)
    (isIri : (Term.iri iri).IsToken) (rendered : renderIri iri = .ok text) :
    Spells (variableText name ++ " = " ++ text).toList
      [(Term.variable name).token, .mark '=', (Term.iri iri).token] := by
  have same : (variableText name ++ " = " ++ text).toList =
      (variableText name).toList ++ ' ' :: ("=".toList ++ ' ' :: text.toList) := by
    simp
  rw [same]
  exact (spells_variableText isVariable).spaced
    ((spells_word "=" (by decide) rfl).spaced (isIri.spells_of_render rendered))

theorem spells_alternatives {tests : List String} {spellings : List (List Token)}
    (each : List.Forall₂ (fun test tokens => Spells test.toList tokens) tests spellings) :
    Spells (String.intercalate " || " tests).toList
      (List.intercalate [.mark '|', .mark '|'] spellings) := by
  rw [String.toList_intercalate]
  induction each with
  | nil => exact .nil
  | cons first others ih =>
      cases others with
      | nil => simpa using first
      | cons second others =>
          simp only [List.map_cons, List.intercalate_cons_cons] at ih ⊢
          rw [List.append_assoc, List.append_assoc]
          exact first.spaced ((spells_word "||" (by decide) rfl).spaced ih)

theorem spells_testText {name text : String} {iris : List String} (isVariable : (Term.variable name).IsToken)
    (areIris : ∀ iri ∈ iris, (Term.iri iri).IsToken) (rendered : testText name iris = .ok text) :
    Spells text.toList (testTokens name iris) := by
  simp only [testText, bind_eq_ok, pure_eq_ok] at rendered
  rcases rendered with ⟨tests, areTests, rfl⟩
  refine spells_alternatives (forall₂_of_mapM areTests fun iri mem test isTest => ?_)
  rcases map_eq_ok.mp isTest with ⟨written, isWritten, rfl⟩
  exact spells_test isVariable (areIris iri mem) isWritten

theorem opens_bind : Opens "BIND(".toList [.keyword .bind, .mark '('] :=
  .cons rfl (fun _ => rfl) (.cons rfl (fun _ => rfl) .nil)

theorem spells_bindText {name value : String} (isVariable : (Term.variable name).IsToken)
    (isLiteral : (Term.literal (.plain value)).IsToken) :
    Spells (bindText name value).toList (bindTokens name value) := by
  have same : (bindText name value).toList = "BIND(".toList ++
      ((Term.literal (.plain value)).chars ++ ' ' :: ("AS".toList ++ ' ' :: (variableText name).toList)
        ++ [')']) := by
    simp [bindText, Term.chars, Literal.toText]
  rw [same]
  exact opens_bind.append
    (isLiteral.spells.spaced ((spells_word "AS" (by decide) rfl).spaced (spells_variableText isVariable))).bracketed

theorem spellWords {branch : BindBranch} {words : List String} (areTokens : ∀ term ∈ branch.terms, term.IsToken)
    (rendered : branch.words = .ok words) : SpellWords words branch.tokens := by
  simp only [terms, List.forall_mem_append] at areTokens
  rcases areTokens with ⟨⟨patternTerms, filterTerms⟩, bindTerms⟩
  simp only [BindBranch.words, bind_eq_ok, pure_eq_ok] at rendered
  rcases rendered with ⟨patterns, isPatterns, tests, areTests, rfl⟩
  have filters : SpellWords (tests.map filterText)
      (branch.filters.flatMap fun filter => filterTokens (testTokens filter.1 filter.2)) := by
    refine .of_forall₂ (List.forall₂_map_left_iff.mpr (forall₂_of_mapM areTests fun filter mem test isTest => ?_))
    have areTokens : ∀ term ∈ Term.variable filter.1 :: filter.2.map .iri, term.IsToken :=
      fun term isTerm => filterTerms term (List.mem_flatMap.mpr ⟨filter, mem, isTerm⟩)
    exact spells_filterText (spells_testText (areTokens _ (by simp))
      (fun iri isIri => areTokens _ (by simp [isIri])) isTest)
  have binds : SpellWords (branch.binds.map fun binding => bindText binding.1 binding.2)
      (branch.binds.flatMap fun binding => bindTokens binding.1 binding.2) := by
    refine .map fun binding mem => ?_
    have areTokens : ∀ term ∈ [Term.variable binding.1, .literal (.plain binding.2)], term.IsToken :=
      fun term isTerm => bindTerms term (List.mem_flatMap.mpr ⟨binding, mem, isTerm⟩)
    exact spells_bindText (areTokens _ (by simp)) (areTokens _ (by simp))
  exact (((Pattern.spellWords patternTerms isPatterns).append filters).append binds).braced

end BindBranch

theorem BindUnion.spellWords {block : BindUnion} {words : List String}
    (areTokens : ∀ term ∈ block.branches.flatMap BindBranch.terms, term.IsToken)
    (rendered : block.words = .ok words) : SpellWords words block.tokens := by
  simp only [BindUnion.words, bind_eq_ok, pure_eq_ok] at rendered
  rcases rendered with ⟨branches, areBranches, rfl⟩
  have body : SpellWords (joinWith "UNION" branches)
      (joinWith (.keyword .union) (block.branches.map BindBranch.tokens)) := by
    refine .joinWith (forall₂_of_mapM areBranches fun branch mem words isWords => ?_)
      (spells_word "UNION" (by decide) rfl)
    exact BindBranch.spellWords
      (fun term isTerm => areTokens term (List.mem_flatMap.mpr ⟨branch, mem, isTerm⟩)) isWords
  unfold BindUnion.tokens
  dsimp only
  split
  · exact body.optional
  · exact body

/-! ## Inline data -/

theorem spells_cellText {cell : Option Term} {text : String} (isToken : ∀ term ∈ cell.toList, term.IsToken)
    (rendered : cellText cell = .ok text) : Spells text.toList [cellToken cell] := by
  cases cell with
  | none =>
      cases rendered
      exact spells_word "UNDEF" (by decide) rfl
  | some term => exact (isToken term (by simp)).spells_of_render rendered

theorem spells_openingParenthesis : Spells "(".toList [.mark '('] := spells_word "(" (by decide) rfl

theorem spells_closingParenthesis : Spells ")".toList [.mark ')'] := spells_word ")" (by decide) rfl

theorem spellWords_row {row : List (Option Term)} {words : List String}
    (areTokens : ∀ term ∈ row.flatMap Option.toList, term.IsToken) (rendered : rowWords row = .ok words) :
    SpellWords words (bracketed (row.map cellToken)) := by
  simp only [rowWords, bind_eq_ok, pure_eq_ok] at rendered
  rcases rendered with ⟨cells, areCells, rfl⟩
  have spellCells : SpellWords cells (row.flatMap fun cell => [cellToken cell]) :=
    .of_mapM areCells fun cell mem _ =>
      spells_cellText fun term isTerm => areTokens term (List.mem_flatMap.mpr ⟨cell, mem, isTerm⟩)
  rw [← List.map_eq_flatMap] at spellCells
  exact .cons spells_openingParenthesis (.cons spellCells.spaced (.singleton spells_closingParenthesis))

theorem ValuesBlock.spellWords {block : ValuesBlock} {words : List String}
    (areTokens : ∀ term ∈ block.terms, term.IsToken) (rendered : block.words = .ok words) :
    SpellWords words block.tokens := by
  simp only [ValuesBlock.terms, List.forall_mem_append] at areTokens
  rcases areTokens with ⟨nameTerms, cellTerms⟩
  simp only [ValuesBlock.words, bind_eq_ok, pure_eq_ok] at rendered
  rcases rendered with ⟨rows, areRows, rfl⟩
  have names : SpellWords (block.names.map variableText)
      (block.names.flatMap fun name => [(Term.variable name).token]) :=
    .map fun name mem => spells_variableText (nameTerms _ (List.mem_map_of_mem mem))
  rw [← List.map_eq_flatMap] at names
  have spellRows : SpellWords rows.flatten (block.rows.flatMap fun row => bracketed (row.map cellToken)) :=
    .flatten_of_mapM areRows fun row mem _ =>
      spellWords_row fun term isTerm => cellTerms term (List.mem_flatMap.mpr ⟨row, mem, isTerm⟩)
  have opening : Opens "VALUES (".toList [.keyword .values, .mark '('] :=
    .cons rfl (fun _ => rfl) (.space (.cons rfl (fun _ => rfl) .nil))
  have same : ("VALUES (" ++ spaced (block.names.map variableText) ++ ") \x7b").toList =
      "VALUES (".toList ++ ((spaced (block.names.map variableText)).toList ++ [')'] ++ ' ' :: "\x7b".toList) := by
    simp
  have head : Spells ("VALUES (" ++ spaced (block.names.map variableText) ++ ") \x7b").toList
      ([.keyword .values, .mark '('] ++ (block.names.map (fun name => (Term.variable name).token)
        ++ [.mark ')'] ++ [.mark '{'])) := by
    rw [same]
    exact opening.append (names.spaced.bracketed.spaced spells_openingBrace)
  have whole := SpellWords.cons head (spellRows.append (.singleton spells_closingBrace))
  simpa [ValuesBlock.tokens, bracketed, braced] using whole

/-! ## Groups -/

section Groups

variable {clauses : Clauses} {optionals : List OptionalGroup} {words : List String}

theorem spells_subqueryText {text : String} {tokens : List Token} (spells : Spells text.toList tokens) :
    Spells (subqueryText text).toList (subqueryTokens tokens) := by
  have same : (subqueryText text).toList =
      "\x7b".toList ++ ' ' :: (text.toList ++ ' ' :: ("\x7d".toList ++ ' ' :: ".".toList)) := by
    simp [subqueryText]
  have stop : Spells ".".toList [.mark '.'] := spells_word "." (by decide) rfl
  have whole := spells_openingBrace.spaced (spells.spaced (spells_closingBrace.spaced stop))
  rw [same]
  simpa [subqueryTokens, braced] using whole

theorem spellWords_service {site : ServiceSite} {group : Written} {tokens : List Token}
    (isToken : site.endpoint.IsToken) (spells : ∀ words, group = .ok words → SpellWords words tokens)
    (rendered : serviceWords site group = .ok words) : SpellWords words (serviceTokens site tokens) := by
  simp only [serviceWords, bind_eq_ok, pure_eq_ok] at rendered
  rcases rendered with ⟨endpoint, isEndpoint, words, isGroup, rfl⟩
  have group := SpellWords.cons (isToken.spells_of_render isEndpoint) (spells words isGroup)
  have keyword : Spells "SERVICE".toList [.keyword .service] := spells_word "SERVICE" (by decide) rfl
  have silent : Spells "SILENT".toList [.keyword .silent] := spells_word "SILENT" (by decide) rfl
  have loud := SpellWords.cons keyword group
  have quiet := SpellWords.cons keyword (SpellWords.cons silent group)
  unfold serviceTokens
  cases site.silent with
  | false => exact loud
  | true => exact quiet

theorem spellWords_inner {subqueries : Written} {services : WrittenParts}
    {subqueriesTokens servicesTokens : List (List Token)}
    (areTokens : ∀ term ∈ clauses.terms, term.IsToken) (arePlain : ∀ text ∈ clauses.rawTexts, IsPlain text)
    (optionalsTokens : ∀ group ∈ optionals, ∀ term ∈ group.terms, term.IsToken)
    (optionalsPlain : ∀ group ∈ optionals, ∀ filter ∈ group.filters, IsPlain filter.text)
    (spellSubqueries : ∀ texts, subqueries = .ok texts →
      List.Forall₂ (fun text tokens => Spells text.toList tokens) texts subqueriesTokens)
    (spellServices : ∀ parts, services = .ok parts → List.Forall₂ SpellWords parts servicesTokens)
    (rendered : innerWords clauses optionals subqueries services = .ok words) :
    SpellWords words (innerTokens clauses optionals subqueriesTokens servicesTokens) := by
  simp only [Clauses.terms, Clauses.rawTexts, List.forall_mem_append] at areTokens arePlain
  simp only [innerWords, bind_eq_ok] at rendered
  rcases rendered with ⟨texts, isTexts, patterns, isPatterns, groups, isGroups, parts, isParts, rendered⟩
  have subqueries : SpellWords (texts.map subqueryText) (subqueriesTokens.flatMap subqueryTokens) := by
    refine .of_forall₂ (List.forall₂_map_left_iff.mpr (List.forall₂_map_right_iff.mpr ?_))
    exact (spellSubqueries texts isTexts).imp fun _ _ => spells_subqueryText
  have spellPatterns := Pattern.spellWords areTokens.1.1.1.1.2 isPatterns
  have spellOptionals : SpellWords groups.flatten (optionals.flatMap OptionalGroup.tokens) :=
    .flatten_of_mapM isGroups fun group mem _ =>
      OptionalGroup.spellWords (optionalsTokens group mem) (optionalsPlain group mem)
  have filters : SpellWords (clauses.filters.map filterText)
      (clauses.filters.flatMap fun filter => filterTokens (rawTokens filter)) :=
    .map fun filter mem => spells_filterText (spells_rawTokens (arePlain.1.1 filter mem).notStructural)
  have spellParts := SpellWords.flatten (spellServices parts isParts)
  have spellFirst := (((subqueries.append spellPatterns).append spellOptionals).append filters).append spellParts
  unfold innerTokens
  cases isValues : clauses.values with
  | none =>
      rw [isValues] at rendered
      cases rendered
      exact spellFirst.append .nil
  | some block =>
      simp only [isValues, bind_eq_ok, pure_eq_ok] at rendered
      rcases rendered with ⟨values, isBlock, rfl⟩
      rw [isValues] at areTokens
      simpa using spellFirst.append (block.spellWords (by simpa using areTokens.1.1.1.2) isBlock)

theorem spellWords_enclosed {graph : Option Term} {inner : Written} {tokens : List Token}
    (isToken : ∀ term ∈ graph, term.IsToken) (spells : ∀ words, inner = .ok words → SpellWords words tokens)
    (rendered : enclosedWords graph inner = .ok words) : SpellWords words (enclosedTokens graph tokens) := by
  cases graph with
  | none => exact spells words rendered
  | some term =>
      simp only [enclosedWords, bind_eq_ok, pure_eq_ok] at rendered
      rcases rendered with ⟨name, isName, inner, isInner, rfl⟩
      have same : ("GRAPH " ++ name).toList = "GRAPH".toList ++ ' ' :: name.toList := by simp
      have keyword : Spells "GRAPH".toList [.keyword .graph] := spells_word "GRAPH" (by decide) rfl
      have opening : Spells ("GRAPH " ++ name).toList [.keyword .graph, term.token] := by
        rw [same]
        exact keyword.spaced ((isToken term rfl).spells_of_render isName)
      exact .cons opening (spells inner isInner).braced

theorem spellWords_ownGroup {subqueries : Written} {services minuses : WrittenParts}
    {subqueriesTokens servicesTokens minusesTokens : List (List Token)}
    (areTokens : ∀ term ∈ clauses.terms, term.IsToken)
    (spellInner : ∀ words, innerWords clauses optionals subqueries services = .ok words →
      SpellWords words (innerTokens clauses optionals subqueriesTokens servicesTokens))
    (spellMinuses : ∀ parts, minuses = .ok parts → List.Forall₂ SpellWords parts minusesTokens)
    (rendered : ownGroupWords clauses optionals subqueries services minuses = .ok words) :
    SpellWords words (ownGroupTokens clauses optionals subqueriesTokens servicesTokens minusesTokens) := by
  simp only [Clauses.terms, List.forall_mem_append] at areTokens
  simp only [ownGroupWords, bind_eq_ok, pure_eq_ok] at rendered
  rcases rendered with ⟨enclosed, isEnclosed, parts, areMinuses, blocks, areBlocks, rfl⟩
  have spellEnclosed := spellWords_enclosed (by simpa using areTokens.1.2) spellInner isEnclosed
  have spellParts : SpellWords (parts.map ("MINUS" :: ·)).flatten
      (minusesTokens.flatMap (.keyword .minus :: ·)) := by
    have keyword : Spells "MINUS".toList [.keyword .minus] := spells_word "MINUS" (by decide) rfl
    refine .flatten (List.forall₂_map_left_iff.mpr (List.forall₂_map_right_iff.mpr ?_))
    exact (spellMinuses parts areMinuses).imp fun _ _ => SpellWords.cons keyword
  have spellBlocks : SpellWords blocks.flatten (clauses.bindUnions.flatMap BindUnion.tokens) :=
    .flatten_of_mapM areBlocks fun block mem _ =>
      BindUnion.spellWords fun term isTerm =>
        areTokens.1.1.2 term (List.mem_flatMap.mpr ⟨block, mem, isTerm⟩)
  exact ((spellEnclosed.append spellParts).append spellBlocks).braced

theorem spellWords_union {own : List String} {unions : List (List String)} {ownTokens : List Token}
    {unionsTokens : List (List Token)} (spells : SpellWords own ownTokens)
    (spellUnions : List.Forall₂ SpellWords unions unionsTokens) :
    SpellWords (unionWords own unions) (unionTokens ownTokens unionsTokens) := by
  cases spellUnions with
  | nil => exact spells
  | cons first others =>
      have branches := SpellWords.joinWith (.cons spells (.cons first others))
        (spells_word "UNION" (by decide) rfl : Spells "UNION".toList [.keyword .union])
      exact branches.braced

end Groups

/-! ## Texts -/

section Texts

variable {clauses : Clauses} {words : List String}

/-- What is counted, distinct or not. -/
theorem spells_counted {name : String} {token : Token} (distinct : Bool) (spells : Spells name.toList [token]) :
    Spells (if distinct then "DISTINCT " ++ name else name).toList
      ((if distinct then [.word "DISTINCT".toList] else []) ++ [token]) := by
  cases distinct with
  | false => exact spells
  | true =>
      have keyword : Spells "DISTINCT".toList [.word "DISTINCT".toList] :=
        spells_word "DISTINCT" (by decide) rfl
      simpa using keyword.spaced spells

theorem spells_count {counted result : String} {tokens : List Token} (spells : Spells counted.toList tokens)
    (isResult : (Term.variable result).IsToken) :
    Spells ("(COUNT(" ++ counted ++ ") AS " ++ variableText result ++ ")").toList
      (bracketed (.word "COUNT".toList :: bracketed tokens
        ++ [.keyword .as, (Term.variable result).token])) := by
  have opening : Opens "(COUNT(".toList [.mark '(', .word "COUNT".toList, .mark '('] :=
    .cons rfl (fun _ => rfl) (.cons rfl (fun _ => rfl) (.cons rfl (fun _ => rfl) .nil))
  have keyword : Spells "AS".toList [.keyword .as] := spells_word "AS" (by decide) rfl
  have same : ("(COUNT(" ++ counted ++ ") AS " ++ variableText result ++ ")").toList = "(COUNT(".toList ++
      (counted.toList ++ [')'] ++ ' ' :: ("AS".toList ++ ' ' :: (variableText result).toList) ++ [')']) := by
    simp
  have whole := opening.append
    (spells.bracketed.spaced (keyword.spaced (spells_variableText isResult))).bracketed
  rw [same]
  simpa [bracketed] using whole

theorem spells_countText {distinct : Bool} {target : CountTarget} {result : String}
    (areTokens : ∀ term ∈ countTerms target result, term.IsToken) :
    Spells (countText distinct target result).toList (countTokens distinct target result) := by
  have isResult : (Term.variable result).IsToken := by
    cases target <;> exact areTokens _ (by simp [countTerms])
  cases target with
  | solutions => exact spells_count (spells_counted distinct (spells_word "*" (by decide) rfl)) isResult
  | «variable» name =>
      have spellName := spells_variableText (areTokens (.variable name) (by simp [countTerms]))
      exact spells_count (spells_counted distinct spellName) isResult

/-- A word that stands there only in some queries. -/
theorem spellWords_if {word : String} {tokens : List Token} (condition : Bool)
    (spells : Spells word.toList tokens) :
    SpellWords (if condition then [word] else []) (if condition then tokens else []) := by
  cases condition with
  | false => exact .nil
  | true => exact .singleton spells

theorem spellWords_projection (areTokens : ∀ term ∈ clauses.terms, term.IsToken)
    (rendered : projectionWords clauses = .ok words) : SpellWords words (projectionTokens clauses) := by
  simp only [Clauses.terms, List.forall_mem_append] at areTokens
  have modifiers (onlyCounts : Bool) := (spellWords_if (clauses.distinct && !onlyCounts)
    (spells_word "DISTINCT" (by decide) rfl : Spells "DISTINCT".toList [.word "DISTINCT".toList])).append
      (spellWords_if clauses.reduced
        (spells_word "REDUCED" (by decide) rfl : Spells "REDUCED".toList [.word "REDUCED".toList]))
  unfold projectionWords at rendered
  unfold projectionTokens
  dsimp only at rendered ⊢
  split at rendered
  · rename_i isEmpty
    cases rendered
    rw [if_pos isEmpty]
    exact (modifiers _).append (.singleton (spells_word "*" (by decide) rfl))
  · rename_i notEmpty
    rw [if_neg notEmpty]
    simp only [bind_eq_ok, pure_eq_ok] at rendered
    rcases rendered with ⟨names, areNames, rfl⟩
    have spellNames : SpellWords names (clauses.projection.flatMap fun term => [term.token]) :=
      .of_mapM areNames fun term mem _ => (areTokens.1.1.1.1.1.1.1.1 term mem).spells_of_render
    rw [← List.map_eq_flatMap] at spellNames
    have counts : SpellWords (clauses.counts.map fun count => countText clauses.distinct count.1 count.2)
        (clauses.counts.flatMap fun count => countTokens clauses.distinct count.1 count.2) :=
      .map fun count mem => spells_countText fun term isTerm =>
        areTokens.1.1.1.1.1.1.1.2 term (List.mem_flatMap.mpr ⟨count, mem, isTerm⟩)
    exact ((modifiers _).append spellNames).append counts

theorem OrderCondition.spells {condition : OrderCondition}
    (areTokens : ∀ term ∈ condition.terms, term.IsToken) (arePlain : ∀ text ∈ condition.expressions, IsPlain text)
    (isKnown : ∀ name direction, condition = .variable name (some direction) → direction ∈ directions) :
    Spells condition.toText.toList condition.tokens := by
  cases condition with
  | expression text => exact spells_rawTokens (arePlain text (by simp [expressions])).notStructural
  | «variable» name direction =>
      have spellName := spells_variableText (areTokens (.variable name) (by simp [terms]))
      cases direction with
      | none => exact spellName
      | some direction =>
          have isDirection : direction = "asc" ∨ direction = "desc" := by
            simpa [directions] using isKnown name direction rfl
          have opening : Opens ((Text.uppered direction).toList ++ ['(']) [.word (Text.uppered direction).toList, .mark '('] := by
            rcases isDirection with rfl | rfl <;> exact .cons rfl (fun _ => rfl) (.cons rfl (fun _ => rfl) .nil)
          have whole := opening.append spellName.bracketed
          simpa [toText, tokens, bracketed] using whole

theorem notStructural_toString (value : Int) : ∀ c ∈ (toString value).toList, isStructural c = false := by
  have digits (number : Nat) : ∀ c ∈ number.repr.toList, isStructural c = false := by
    intro c mem
    have isDigit : c.isDigit := by
      rw [Nat.repr_eq_ofList_toDigits, String.toList_ofList] at mem
      exact Nat.isDigit_of_mem_toDigits (by decide) (by decide) mem
    simp only [isStructural, isQuote, Bool.or_eq_false_iff, decide_eq_false_iff_not]
    refine ⟨⟨⟨⟨?_, ?_⟩, ?_⟩, ?_⟩, ?_⟩ <;> (rintro rfl; cases isDigit)
  cases value with
  | ofNat number => exact digits number
  | negSucc number =>
      intro c mem
      have isPart : c = '-' ∨ c ∈ (number + 1).repr.toList := by
        simpa [Int.toString_eq_repr, Int.repr, String.toList_append] using mem
      rcases isPart with rfl | isDigit
      · rfl
      · exact digits _ c isDigit

theorem spells_toString (value : Int) : Spells (toString value).toList (rawTokens (toString value)) :=
  spells_rawTokens (notStructural_toString value)

theorem spellWords_conditions {keyword : String} (word : String) {conditions : List OrderCondition}
    (opening : Spells keyword.toList [.word word.toList, .word "BY".toList])
    (areTokens : ∀ term ∈ conditions.flatMap OrderCondition.terms, term.IsToken)
    (arePlain : ∀ text ∈ conditions.flatMap OrderCondition.expressions, IsPlain text)
    (areKnown : ∀ name direction, .variable name (some direction) ∈ conditions → direction ∈ directions) :
    SpellWords (conditionWords keyword conditions) (conditionTokens word conditions) := by
  have entries : SpellWords (conditions.map OrderCondition.toText) (conditions.flatMap OrderCondition.tokens) :=
    .map fun condition mem => OrderCondition.spells
      (fun term isTerm => areTokens term (List.mem_flatMap.mpr ⟨condition, mem, isTerm⟩))
      (fun text isText => arePlain text (List.mem_flatMap.mpr ⟨condition, mem, isText⟩))
      (fun name direction isCondition => areKnown name direction (isCondition ▸ mem))
  unfold conditionWords conditionTokens
  split
  · exact .nil
  · exact .cons opening entries

theorem spellWords_bound {keyword : String} {bound : Option Int}
    (opening : Spells keyword.toList [.word keyword.toList]) (rendered : boundWords keyword bound = .ok words) :
    SpellWords words (boundTokens keyword bound) := by
  cases bound with
  | none =>
      cases rendered
      exact .nil
  | some value =>
      simp only [boundWords] at rendered
      split at rendered <;> cases rendered
      have same : (keyword ++ " " ++ toString value).toList = keyword.toList ++ ' ' :: (toString value).toList := by
        simp
      refine .singleton ?_
      rw [same]
      simpa [boundTokens] using opening.spaced (spells_toString value)

theorem spellWords_modifiers (areTokens : ∀ term ∈ clauses.terms, term.IsToken)
    (arePlain : ∀ text ∈ clauses.rawTexts, IsPlain text)
    (areKnown : ∀ name direction,
      .variable name (some direction) ∈ clauses.groupBy ++ clauses.orderBy → direction ∈ directions)
    (rendered : modifierWords clauses = .ok words) : SpellWords words (modifierTokens clauses) := by
  simp only [Clauses.terms, Clauses.rawTexts, List.forall_mem_append, List.flatMap_append] at areTokens arePlain
  simp only [modifierWords, bind_eq_ok, pure_eq_ok] at rendered
  rcases rendered with ⟨offset, isOffset, limit, isLimit, rfl⟩
  have groupBy := spellWords_conditions "GROUP" (spells_word "GROUP BY" (by decide) rfl) areTokens.2.1 arePlain.1.2.1
    fun name direction mem => areKnown name direction (List.mem_append_left _ mem)
  have orderBy := spellWords_conditions "ORDER" (spells_word "ORDER BY" (by decide) rfl) areTokens.2.2 arePlain.1.2.2
    fun name direction mem => areKnown name direction (List.mem_append_right _ mem)
  exact ((groupBy.append orderBy).append (spellWords_bound (spells_word "OFFSET" (by decide) rfl) isOffset)).append
    (spellWords_bound (spells_word "LIMIT" (by decide) rfl) isLimit)

theorem spellWords_form (areTokens : ∀ term ∈ clauses.terms, term.IsToken)
    (rendered : headWords clauses = .ok words) : SpellWords words (formTokens clauses) := by
  unfold headWords at rendered
  unfold formTokens
  cases isForm : clauses.form with
  | ask =>
      rw [isForm] at rendered
      cases rendered
      exact .nil
  | select | describe =>
      rw [isForm] at rendered
      exact spellWords_projection areTokens rendered
  | construct =>
      simp only [isForm, bind_eq_ok, pure_eq_ok] at rendered
      rcases rendered with ⟨template, isTemplate, rfl⟩
      simp only [Clauses.terms, List.forall_mem_append] at areTokens
      exact (Pattern.spellWords areTokens.1.1.1.1.1.1.2 isTemplate).braced

theorem Form.spells (form : Form) : Spells form.keyword.toList [form.token] := by
  cases form <;> exact spells_word _ (by decide) rfl

theorem spellWords_head {formWords graphWords : List String} (areTokens : ∀ term ∈ clauses.terms, term.IsToken)
    (arePlain : ∀ text ∈ clauses.rawTexts, IsPlain text) (isForm : headWords clauses = .ok formWords)
    (areGraphs : (clauses.fromGraphs.mapM fun (graph : Term) => graph.render.map ("FROM " ++ ·)) = .ok graphWords) :
    SpellWords (prologueWords clauses ++ clauses.form.keyword :: formWords ++ graphWords) (headTokens clauses) := by
  have prologue : SpellWords (prologueWords clauses)
      (clauses.prologue.flatMap fun declaration => .keyword .prologue :: rawTokens declaration) := by
    refine .map fun declaration mem => ?_
    have isPlain := arePlain declaration (List.mem_append_right _ mem)
    have keyword : Spells "PREFIX".toList [.keyword .prologue] := spells_word "PREFIX" (by decide) rfl
    simpa using keyword.spaced (spells_rawTokens isPlain.notStructural)
  have form := SpellWords.cons clauses.form.spells (spellWords_form areTokens isForm)
  simp only [Clauses.terms, List.forall_mem_append] at areTokens
  have graphs : SpellWords graphWords
      (clauses.fromGraphs.flatMap fun graph => [.word "FROM".toList, graph.token]) := by
    refine .of_mapM areGraphs fun graph mem word isWord => ?_
    rcases map_eq_ok.mp isWord with ⟨text, isText, rfl⟩
    have keyword : Spells "FROM".toList [.word "FROM".toList] := spells_word "FROM" (by decide) rfl
    have isToken := areTokens.1.1.1.1.1.2 graph mem
    simpa using keyword.spaced (isToken.spells_of_render isText)
  exact (prologue.append form).append graphs

namespace QueryTree

theorem IsReadable.clauses_terms {tree : QueryTree} (readable : tree.IsReadable) :
    ∀ term ∈ tree.clauses.terms, term.IsToken := by
  cases tree with
  | node clauses =>
      exact fun term mem => readable.terms term (List.mem_append_left _ (List.mem_append_left _ mem))

theorem IsReadable.clauses_rawTexts {tree : QueryTree} (readable : tree.IsReadable) :
    ∀ text ∈ tree.clauses.rawTexts, IsPlain text := by
  cases tree with
  | node clauses => exact fun text mem => readable.rawTexts text (List.mem_append_left _ mem)

theorem IsReadable.optionals_filters {clauses : Clauses} {optionals : List OptionalGroup}
    {subqueries unions minuses : List QueryTree} {services : List (ServiceSite × QueryTree)}
    (readable : (node clauses optionals subqueries unions minuses services).IsReadable) :
    ∀ group ∈ optionals, ∀ filter ∈ group.filters, IsPlain filter.text := by
  intro group mem filter isFilter
  have isText : filter.text ∈ optionals.flatMap fun group => group.filters.map FilterExpression.text :=
    List.mem_flatMap.mpr ⟨group, mem, List.mem_map_of_mem isFilter⟩
  exact readable.rawTexts filter.text (List.mem_append_right _ isText)

theorem spells_textAround {tree : QueryTree} {group : Written} {text : String} {tokens : List Token}
    (legible : tree.IsLegible) (spells : ∀ words, group = .ok words → SpellWords words tokens)
    (rendered : tree.textAround group = .ok text) : Spells text.toList (tree.tokensAround tokens) := by
  simp only [textAround, bind_eq_ok] at rendered
  rcases rendered with ⟨form, isForm, graphs, areGraphs, rendered⟩
  have written : ∃ condition modifiers,
      SpellWords condition (if tree.isGroupless then [] else .keyword .where :: tokens) ∧
      modifierWords tree.clauses = .ok modifiers ∧ text = spaced (prologueWords tree.clauses
        ++ tree.clauses.form.keyword :: form ++ graphs ++ condition ++ modifiers) := by
    unfold isGroupless
    split at rendered
    · rename_i isGroupless
      simp only [bind_eq_ok, pure_eq_ok] at rendered
      rcases rendered with ⟨condition, isCondition, modifiers, areModifiers, rfl⟩
      cases isCondition
      rw [if_pos isGroupless]
      exact ⟨[], modifiers, .nil, areModifiers, rfl⟩
    · rename_i hasGroup
      simp only [bind_eq_ok, pure_eq_ok, map_eq_ok] at rendered
      rcases rendered with ⟨_, ⟨words, isGroup, rfl⟩, modifiers, areModifiers, rfl⟩
      rw [if_neg hasGroup]
      have keyword : Spells "WHERE".toList [.keyword .where] := spells_word "WHERE" (by decide) rfl
      exact ⟨_, modifiers, .cons keyword (spells words isGroup), areModifiers, rfl⟩
  rcases written with ⟨condition, modifiers, spellCondition, areModifiers, rfl⟩
  have areTokens := legible.clauses_terms
  have arePlain := legible.clauses_rawTexts
  have spellHead := spellWords_head areTokens arePlain isForm areGraphs
  have spellModifiers := spellWords_modifiers areTokens arePlain legible.directions areModifiers
  exact ((spellHead.append spellCondition).append spellModifiers).spaced

mutual

/-- The words of a group have the tokens of the group. -/
theorem spellWords_group (tree : QueryTree) (legible : ∀ part ∈ tree.within, part.IsLegible)
    {words : List String} (rendered : tree.groupWords = .ok words) : SpellWords words tree.groupTokens := by
  cases tree with
  | node clauses optionals subqueries unions minuses services =>
      simp only [groupWords, bind_eq_ok, pure_eq_ok] at rendered
      rcases rendered with ⟨own, isOwn, branches, areBranches, rfl⟩
      simp only [within, List.forall_mem_cons, List.forall_mem_append] at legible
      rcases legible with ⟨itself, ⟨⟨inSubqueries, inUnions⟩, inMinuses⟩, inServices⟩
      refine spellWords_union ?_ (spellWords_groups unions inUnions areBranches)
      refine spellWords_ownGroup itself.clauses_terms (fun inner isInner => ?_)
        (fun _ => spellWords_groups minuses inMinuses) isOwn
      refine spellWords_inner itself.clauses_terms itself.clauses_rawTexts ?_ itself.optionals_filters
        (fun _ => spells_texts subqueries inSubqueries)
        (fun _ => spellWords_services services inServices ?_) isInner
      · intro group mem term isTerm
        have isTerm := List.mem_flatMap.mpr ⟨group, mem, isTerm⟩
        exact itself.terms term (List.mem_append_left _ (List.mem_append_right _ isTerm))
      · exact fun service mem => itself.terms _ (List.mem_append_right _ (List.mem_map_of_mem mem))

theorem spellWords_groups (trees : List QueryTree) (legible : ∀ part ∈ withinAll trees, part.IsLegible)
    {parts : List (List String)} (rendered : groups trees = .ok parts) :
    List.Forall₂ SpellWords parts (groupsTokens trees) := by
  cases trees with
  | nil =>
      cases rendered
      exact .nil
  | cons tree rest =>
      simp only [groups, bind_eq_ok, pure_eq_ok] at rendered
      rcases rendered with ⟨group, isGroup, others, areOthers, rfl⟩
      simp only [withinAll, List.forall_mem_append] at legible
      exact .cons (spellWords_group tree legible.1 isGroup) (spellWords_groups rest legible.2 areOthers)

theorem spellWords_services (services : List (ServiceSite × QueryTree))
    (legible : ∀ part ∈ withinServices services, part.IsLegible)
    (areTokens : ∀ service ∈ services, service.1.endpoint.IsToken)
    {parts : List (List String)} (rendered : serviceGroups services = .ok parts) :
    List.Forall₂ SpellWords parts (serviceGroupTokens services) := by
  cases services with
  | nil =>
      cases rendered
      exact .nil
  | cons service rest =>
      rcases service with ⟨site, tree⟩
      simp only [serviceGroups, bind_eq_ok, pure_eq_ok] at rendered
      rcases rendered with ⟨group, isGroup, others, areOthers, rfl⟩
      simp only [withinServices, List.forall_mem_append] at legible
      simp only [List.forall_mem_cons] at areTokens
      exact .cons (spellWords_service areTokens.1 (fun _ => spellWords_group tree legible.1) isGroup)
        (spellWords_services rest legible.2 areTokens.2 areOthers)

/-- The texts of queries have the tokens of the queries. -/
theorem spells_texts (trees : List QueryTree) (legible : ∀ part ∈ withinAll trees, part.IsLegible)
    {written : List String} (rendered : texts trees = .ok written) :
    List.Forall₂ (fun text tokens => Spells text.toList tokens) written (textTokens trees) := by
  cases trees with
  | nil =>
      cases rendered
      exact .nil
  | cons tree rest =>
      simp only [texts, bind_eq_ok, pure_eq_ok] at rendered
      rcases rendered with ⟨text, isText, others, areOthers, rfl⟩
      simp only [withinAll, List.forall_mem_append] at legible
      exact .cons (spells_textAround (legible.1 tree tree.mem_within)
        (fun _ => spellWords_group tree legible.1) isText) (spells_texts rest legible.2 areOthers)

end

end QueryTree

end Texts

end Sparql
