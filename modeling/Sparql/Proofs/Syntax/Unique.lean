import Mathlib.Data.List.Forall2
import Sparql.Proofs.Syntax.Group
import Sparql.Query.Text

/-!
# Groups that read in one way

The grammar leaves open how far a part reaches. This file says which tokens read in exactly one way whatever
stands behind them, and how groups of that kind are put together: a part is fixed as soon as what follows it is
no stop, no further branch of a union and no query.
-/

namespace Sparql.Syntax

variable {opening closing : Char} {input body others rest more tokens : List Token}

/-! ## Brackets -/

theorem depthAfter_append (opening closing : Char) (tokens more : List Token) (depth : Nat) :
    depthAfter opening closing depth (tokens ++ more) =
      (depthAfter opening closing depth tokens).bind fun inner => depthAfter opening closing inner more := by
  fun_induction depthAfter opening closing depth tokens <;> simp_all [depthAfter]

theorem IsBalanced.append (balanced : IsBalanced opening closing tokens)
    (moreBalanced : IsBalanced opening closing more) : IsBalanced opening closing (tokens ++ more) := by
  unfold IsBalanced at *
  rw [depthAfter_append, balanced, Option.bind_some, moreBalanced]

theorem depthAfter_of_notMem (noOpening : .mark opening ∉ tokens) (noClosing : .mark closing ∉ tokens)
    (depth : Nat) : depthAfter opening closing depth tokens = some depth := by
  induction tokens with
  | nil => rfl
  | cons token rest ih =>
      simp only [List.mem_cons, not_or] at noOpening noClosing
      simp [depthAfter, Ne.symm noOpening.1, Ne.symm noClosing.1, ih noOpening.2 noClosing.2]

/-- Tokens without the brackets are balanced. -/
theorem balanced_of_notMem (noOpening : .mark opening ∉ tokens) (noClosing : .mark closing ∉ tokens) :
    IsBalanced opening closing tokens :=
  depthAfter_of_notMem noOpening noClosing 0

/-- Only the bracket that closes it ends balanced tokens. -/
theorem IsBalanced.not_closed (balanced : IsBalanced opening closing tokens) (different : opening ≠ closing) :
    ¬ IsBalanced opening closing (tokens ++ .mark closing :: more) := by
  unfold IsBalanced at *
  rw [depthAfter_append, balanced]
  simp [depthAfter, Ne.symm different]

/-- Either two texts end at the same mark, or one of them holds the mark at which the other ends. -/
theorem eq_or_of_append_cons {α : Type} {mark : α} {first second behind after : List α}
    (same : first ++ mark :: behind = second ++ mark :: after) :
    (first = second ∧ behind = after) ∨
      (∃ left, first = second ++ mark :: left ∧ after = left ++ mark :: behind) ∨
      ∃ left, second = first ++ mark :: left ∧ behind = left ++ mark :: after := by
  rcases List.append_eq_append_iff.mp same with ⟨left, rfl, isLeft⟩ | ⟨left, rfl, isLeft⟩
  · rcases List.cons_eq_append_iff.mp isLeft with ⟨rfl, isAfter⟩ | ⟨left, rfl, rfl⟩
    · cases isAfter
      simp
    · exact .inr (.inr ⟨left, rfl, rfl⟩)
  · rcases List.cons_eq_append_iff.mp isLeft with ⟨rfl, isBehind⟩ | ⟨left, rfl, rfl⟩
    · cases isBehind
      simp
    · exact .inr (.inl ⟨left, rfl, rfl⟩)

theorem Enclosed.unique {otherRest : List Token} (enclosed : Enclosed opening closing input body rest)
    (other : Enclosed opening closing input others otherRest) (different : opening ≠ closing) :
    others = body ∧ otherRest = rest := by
  rcases enclosed with ⟨rfl, balanced⟩
  rcases other with ⟨same, otherBalanced⟩
  rcases eq_or_of_append_cons same with ⟨rfl, rfl⟩ | ⟨left, rfl, _⟩ | ⟨left, rfl, _⟩
  · exact ⟨rfl, rfl⟩
  · exact absurd balanced (otherBalanced.not_closed different)
  · exact absurd otherBalanced (balanced.not_closed different)

theorem Listed.unique {isItem : Token → Bool} {otherRest : List Token}
    (listed : Listed isItem closing input body rest)
    (other : Listed isItem closing input others otherRest) (notItem : isItem (.mark closing) = false) :
    others = body ∧ otherRest = rest := by
  rcases listed with ⟨rfl, items⟩
  rcases other with ⟨same, otherItems⟩
  rcases eq_or_of_append_cons same with ⟨rfl, rfl⟩ | ⟨left, rfl, _⟩ | ⟨left, rfl, _⟩
  · exact ⟨rfl, rfl⟩
  · simp [notItem] at items
  · simp [notItem] at otherItems

/-! ## Triples -/

variable {subject predicate object token next : Token}

/-- A path that begins with a token which is no mark, and which a term follows, is that token. -/
theorem ReadsPath.eq_step {level : PathLevel} {path : Path} (reads : ReadsPath level input path rest)
    (same : input = token :: next :: more) (isVerb : token.isVariable ∨ token.isStep)
    (isTerm : next.isTerm) : token.isStep ∧ path = .step token ∧ rest = next :: more := by
  induction reads with
  | step isStep =>
      cases same
      exact ⟨isStep, rfl, rfl⟩
  | exclusion _ | noExclusion | exclusions _ | bracketed _ | inverse _ =>
      cases same
      rcases isVerb with isVerb | isVerb <;> cases isVerb
  | primary _ ih | forward _ ih | lastInSequence _ ih | lastAlternative _ ih => exact ih same
  | repeated _ _ ih | sequence _ _ ih | alternative _ _ ih =>
      cases (ih same).2.2
      cases isTerm

theorem readsPath_step (isStep : token.isStep) (rest : List Token) :
    ReadsPath .alternative (token :: rest) (.step token) rest :=
  .lastAlternative (.lastInSequence (.forward (.primary (.step isStep))))

/-- What a token is as a verb. -/
def Verb.ofToken (token : Token) : Verb :=
  if token.isVariable then .variable token else .path (.step token)

theorem Token.not_isVariable_of_isStep (isStep : token.isStep) : token.isVariable = false := by
  cases token <;> first | rfl | cases isStep

theorem readsVerb_iff {verb : Verb} (isVerb : token.isVariable ∨ token.isStep) (isTerm : next.isTerm) :
    ReadsVerb (token :: next :: more) verb rest ↔ verb = .ofToken token ∧ rest = next :: more := by
  constructor
  · rintro (isVariable | reads)
    · simp [Verb.ofToken, isVariable]
    · rcases reads.eq_step rfl isVerb isTerm with ⟨isStep, rfl, rfl⟩
      simp [Verb.ofToken, Token.not_isVariable_of_isStep isStep]
  · rintro ⟨rfl, rfl⟩
    unfold Verb.ofToken
    split
    · exact .variable ‹_›
    · exact .path (readsPath_step (isVerb.resolve_left ‹_›) _)

theorem readsNode_iff {node : Node} (isTerm : token.isTerm) :
    ReadsNode (token :: more) node rest ↔ node = .term token ∧ rest = more := by
  constructor
  · rintro (_ | _ | _ | _)
    · exact ⟨rfl, rfl⟩
    all_goals cases isTerm
  · rintro ⟨rfl, rfl⟩
    exact .term isTerm

/-- The tokens of a triple, of which the second is a verb. -/
structure IsTriple (subject predicate object : Token) : Prop where
  subject : subject.isTerm
  predicate : predicate.isVariable ∨ predicate.isStep
  object : object.isTerm

/-- What a triple of tokens is as a part of a group. -/
def Part.triple (subject predicate object : Token) : Part :=
  .triples (.term subject) [(.ofToken predicate, [.term object])]

theorem readsObjects_iff {objects : List Node} (isTerm : token.isTerm) :
    ReadsObjects (token :: .mark '.' :: more) objects rest ↔
      objects = [.term token] ∧ rest = .mark '.' :: more := by
  constructor
  · rintro (reads | ⟨reads, _⟩)
    · rcases (readsNode_iff isTerm).mp reads with ⟨rfl, rfl⟩
      exact ⟨rfl, rfl⟩
    · cases ((readsNode_iff isTerm).mp reads).2
  · rintro ⟨rfl, rfl⟩
    exact .last (.term isTerm)

theorem readsTriples_iff {part : Part} (isTriple : IsTriple subject predicate object) :
    ReadsTriples (subject :: predicate :: object :: .mark '.' :: more) part rest ↔
      part = .triple subject predicate object ∧ rest = .mark '.' :: more := by
  constructor
  · rintro (⟨readsSubject, readsProperties⟩ | ⟨readsSubject, isStatement⟩)
    · rcases (readsNode_iff isTriple.subject).mp readsSubject with ⟨rfl, rfl⟩
      rcases readsProperties with ⟨readsVerb, readsObjects, readsMore⟩
      rcases (readsVerb_iff isTriple.predicate isTriple.object).mp readsVerb with ⟨rfl, rfl⟩
      rcases (readsObjects_iff isTriple.object).mp readsObjects with ⟨rfl, rfl⟩
      cases readsMore
      exact ⟨rfl, rfl⟩
    · rcases (readsNode_iff isTriple.subject).mp readsSubject with ⟨rfl, rfl⟩
      cases isStatement
  · rintro ⟨rfl, rfl⟩
    exact .properties (.term isTriple.subject)
      (.cons ((readsVerb_iff isTriple.predicate isTriple.object).mpr ⟨rfl, rfl⟩)
        ((readsObjects_iff isTriple.object).mpr ⟨rfl, rfl⟩) .nil)

/-! ## Parts -/

/-- What may follow a part: no stop, no further branch of a union, and nothing that begins a query. -/
def Continues (more : List Token) : Prop :=
  ∀ token ∈ more.head?, token ≠ .mark '.' ∧ token ≠ .keyword .union ∧ token.startsQuery = false

theorem continues_cons {token : Token} :
    Continues (token :: more) ↔ token ≠ .mark '.' ∧ token ≠ .keyword .union ∧ token.startsQuery = false := by
  simp [Continues]

theorem Continues.noBranch (continues : Continues more) : more.head? ≠ some (.keyword .union) :=
  fun same => (continues _ same).2.1 rfl

/-- Whether tokens read as exactly the given group, whatever follows them. -/
structure IsGroup (tokens : List Token) (group : List Part) : Prop where
  reads : ∀ {more read rest}, ReadsGroup (tokens ++ more) read rest ↔ read = group ∧ rest = more

/-- Whether tokens before a closing brace read as exactly the given query. -/
structure IsQuery (tokens : List Token) (query : Part) : Prop where
  reads : ∀ {more read rest}, ReadsQuery (tokens ++ .mark '}' :: more) read rest ↔ read = query ∧ rest = more

/-- Whether tokens read as exactly the given part, unless a further branch of a union follows them or is left
behind. -/
structure IsPart (tokens : List Token) (part : Part) : Prop where
  reads : ∀ {more read rest}, more.head? ≠ some (.keyword .union) → rest.head? ≠ some (.keyword .union) →
    (ReadsPart (tokens ++ more) read rest ↔ read = part ∧ rest = more)

/-- Whether tokens inside a group read as exactly the given parts. -/
structure IsParts (tokens : List Token) (parts : List Part) : Prop where
  continues : ∀ {more}, Continues more → Continues (tokens ++ more)
  reads : ∀ {more read rest}, Continues more →
    (ReadsParts (tokens ++ more) read (.mark '}' :: rest) ↔
      ∃ others, read = parts ++ others ∧ ReadsParts more others (.mark '}' :: rest))

namespace IsParts

variable {first second : List Token} {firstParts secondParts : List Part}

theorem nil : IsParts [] [] := ⟨id, by simp⟩

theorem append (isFirst : IsParts first firstParts) (isSecond : IsParts second secondParts) :
    IsParts (first ++ second) (firstParts ++ secondParts) := by
  constructor
  · intro more continues
    rw [List.append_assoc]
    exact isFirst.continues (isSecond.continues continues)
  · intro more read rest continues
    rw [List.append_assoc, isFirst.reads (isSecond.continues continues)]
    constructor
    · rintro ⟨_, rfl, reads⟩
      rcases (isSecond.reads continues).mp reads with ⟨others, rfl, readsOthers⟩
      exact ⟨others, (List.append_assoc ..).symm, readsOthers⟩
    · rintro ⟨others, rfl, reads⟩
      exact ⟨secondParts ++ others, List.append_assoc .., (isSecond.reads continues).mpr ⟨others, rfl, reads⟩⟩

theorem flatMap {α : Type} {items : List α} {spell : α → List Token} {reading : α → List Part}
    (each : ∀ item ∈ items, IsParts (spell item) (reading item)) :
    IsParts (items.flatMap spell) (items.flatMap reading) := by
  induction items with
  | nil => exact nil
  | cons item items ih =>
      simp only [List.mem_cons, forall_eq_or_imp] at each
      exact each.1.append (ih each.2)

theorem map {α : Type} {items : List α} {spelling : α → List Token} {part : α → Part}
    (each : ∀ item ∈ items, IsParts (spelling item) [part item]) :
    IsParts (items.flatMap spelling) (items.map part) := by
  rw [List.map_eq_flatMap]
  exact flatMap each

theorem flatten {spellings : List (List Token)} {parts : List Part}
    (each : List.Forall₂ (fun tokens part => IsParts tokens [part]) spellings parts) :
    IsParts spellings.flatten parts := by
  induction each with
  | nil => exact nil
  | cons first _ ih => exact first.append ih

end IsParts

/-- The token that a part begins with which is not triples. -/
def Token.startsPart : Token → Bool
  | mark c => c = '\x7b'
  | keyword .optional | keyword .minus | keyword .graph | keyword .service | keyword .filter | keyword .bind
  | keyword .values => true
  | _ => false

theorem Token.continues_of_startsPart (starts : token.startsPart) :
    token ≠ .mark '.' ∧ token ≠ .keyword .union ∧ token.startsQuery = false := by
  refine ⟨?_, ?_, ?_⟩
  · rintro rfl
    cases starts
  · rintro rfl
    cases starts
  · cases token with
    | keyword word => cases word <;> first | rfl | cases starts
    | _ => rfl

theorem Token.continues_of_isTerm (isTerm : token.isTerm) :
    token ≠ .mark '.' ∧ token ≠ .keyword .union ∧ token.startsQuery = false := by
  cases token <;> first | cases isTerm; done | simp [startsQuery]

theorem Token.not_startsPart_of_isTerm (isTerm : token.isTerm) : token.startsPart = false := by
  cases token <;> first | rfl | cases isTerm

/-- No subject begins like another part of a group. -/
theorem Token.not_readsNode_of_startsPart {node : Node} (starts : token.startsPart) :
    ¬ ReadsNode (token :: more) node rest := by
  rintro (isTerm | _ | _ | _)
  · rw [Token.not_startsPart_of_isTerm isTerm] at starts
    cases starts
  all_goals cases starts

theorem readsBlock_head {block : List Part} (reads : ReadsBlock input block rest) :
    ∃ node left, ReadsNode input node left := by
  rcases reads with reads | reads | ⟨reads, _⟩ <;> rcases reads with ⟨reads, _⟩ | ⟨reads, _⟩ <;>
    exact ⟨_, _, reads⟩

theorem readsPart_head {part : Part} (reads : ReadsPart (token :: more) part rest) : token.startsPart := by
  cases reads with
  | union reads => rcases reads with reads | ⟨reads, _⟩ <;> cases reads <;> rfl
  | _ => rfl

theorem readsOthers_head {parts : List Part} (reads : ReadsOthers (token :: more) parts (.mark '}' :: rest)) :
    token = .mark '}' ∨ token.startsPart := by
  rcases reads with _ | ⟨reads, _⟩ | ⟨reads, _⟩
  · exact .inl rfl
  · exact .inr (readsPart_head reads)
  · exact .inr (readsPart_head reads)

theorem readsParts_iff_of_startsPart {parts : List Part} (starts : token.startsPart) :
    ReadsParts (token :: more) parts rest ↔ ReadsOthers (token :: more) parts rest := by
  constructor
  · rintro (⟨reads, _⟩ | reads)
    · rcases readsBlock_head reads with ⟨node, left, readsNode⟩
      exact absurd readsNode (Token.not_readsNode_of_startsPart starts)
    · exact reads
  · exact .others

/-- A path begins with a step or with a mark. -/
theorem ReadsPath.startsPath {level : PathLevel} {path : Path} (reads : ReadsPath level input path rest)
    (same : input = token :: more) : token.isStep ∨ ∃ c, token = .mark c := by
  induction reads with
  | step isStep =>
      cases same
      exact .inl isStep
  | exclusion _ | noExclusion | exclusions _ | bracketed _ | inverse _ =>
      cases same
      exact .inr ⟨_, rfl⟩
  | primary _ ih | forward _ ih | lastInSequence _ ih | lastAlternative _ ih | repeated _ _ ih | sequence _ _ ih
  | alternative _ _ ih => exact ih same

/-- No group begins with a term and a literal behind it. -/
theorem not_readsGroup_literal {text : List Char} {parts : List Part} (isTerm : token.isTerm) :
    ¬ ReadsGroup (.mark '{' :: token :: .literal text :: more) parts rest := by
  have notTriples {part : Part} {left : List Token} : ¬ ReadsTriples (token :: .literal text :: more) part left := by
    rintro (⟨readsSubject, readsProperties⟩ | ⟨readsSubject, isStatement⟩)
    · rcases (readsNode_iff isTerm).mp readsSubject with ⟨rfl, rfl⟩
      rcases readsProperties with ⟨isVariable | reads, _, _⟩
      · cases isVariable
      · rcases reads.startsPath rfl with isStep | ⟨_, ⟨⟩⟩
        cases isStep
    · rcases (readsNode_iff isTerm).mp readsSubject with ⟨rfl, rfl⟩
      cases isStatement
  rintro (reads | ⟨starts, _⟩)
  · rcases reads with ⟨reads, _⟩ | reads
    · rcases reads with reads | reads | ⟨reads, _⟩ <;> exact notTriples reads
    · rcases readsOthers_head reads with rfl | starts
      · cases isTerm
      · rw [Token.not_startsPart_of_isTerm isTerm] at starts
        cases starts
  · rw [(Token.continues_of_isTerm isTerm).2.2] at starts
    cases starts

/-- A closing brace ends the parts of a group. -/
theorem readsParts_closing {parts : List Part} {left : List Token} :
    ReadsParts (.mark '}' :: more) parts (.mark '}' :: left) ↔ parts = [] ∧ left = more := by
  constructor
  · rintro (⟨reads, _⟩ | reads)
    · rcases readsBlock_head reads with ⟨node, _, readsNode⟩
      cases readsNode with
      | term isTerm => cases isTerm
    · rcases reads with _ | ⟨reads, _⟩ | ⟨reads, _⟩
      · exact ⟨rfl, rfl⟩
      · cases readsPart_head reads
      · cases readsPart_head reads
  · rintro ⟨rfl, rfl⟩
    exact .others .nil

/-- The stop behind a triple belongs to it. -/
theorem IsParts.triple (isTriple : IsTriple subject predicate object) :
    IsParts [subject, predicate, object, .mark '.'] [.triple subject predicate object] := by
  have notPart := Token.not_startsPart_of_isTerm isTriple.subject
  constructor
  · intro more _
    exact continues_cons.mpr (Token.continues_of_isTerm isTriple.subject)
  · intro more read rest continues
    have readsTriple {part : Part} {rest : List Token} :
        ReadsTriples ([subject, predicate, object, .mark '.'] ++ more) part rest ↔ _ :=
      readsTriples_iff isTriple
    constructor
    · rintro (⟨reads | reads | ⟨reads, readsBlock⟩, readsOthers⟩ | readsOthers)
      · rcases readsTriple.mp reads with ⟨rfl, rfl⟩
        rcases readsOthers_head readsOthers with same | starts
        · cases same
        · cases starts
      · rcases readsTriple.mp reads with ⟨rfl, isRest⟩
        cases isRest
        exact ⟨_, rfl, .others readsOthers⟩
      · rcases readsTriple.mp reads with ⟨rfl, isRest⟩
        cases isRest
        exact ⟨_, rfl, .triples readsBlock readsOthers⟩
      · rcases readsOthers_head readsOthers with rfl | starts
        · cases isTriple.subject
        · rw [notPart] at starts
          cases starts
    · rintro ⟨others, rfl, ⟨readsBlock, readsOthers⟩ | readsOthers⟩
      · have longer := ReadsBlock.more (readsTriple.mpr ⟨rfl, rfl⟩) readsBlock
        rw [← List.append_assoc]
        exact .triples longer readsOthers
      · exact .triples (.stopped (readsTriple.mpr ⟨rfl, rfl⟩)) readsOthers

/-- What begins a part may follow one. -/
theorem ReadsParts.continues {parts : List Part} (reads : ReadsParts input parts (.mark '}' :: rest)) :
    Continues input := by
  cases input with
  | nil => simp [Continues]
  | cons token left =>
      have begins : (∃ node behind, ReadsNode (token :: left) node behind) ∨
          token = .mark '}' ∨ token.startsPart := by
        rcases reads with ⟨reads, _⟩ | reads
        · exact .inl (readsBlock_head reads)
        · exact .inr (readsOthers_head reads)
      rw [continues_cons]
      rcases begins with ⟨node, behind, isTerm | _ | _ | _⟩ | rfl | starts
      · exact Token.continues_of_isTerm isTerm
      · simp [Token.startsQuery]
      · simp [Token.startsQuery]
      · simp [Token.startsQuery]
      · simp [Token.startsQuery]
      · exact Token.continues_of_startsPart starts

theorem not_readsPart_nil {part : Part} : ¬ ReadsPart [] part rest := by
  rintro ⟨reads | ⟨reads, _⟩⟩ <;> cases reads

theorem IsPart.exists_eq_cons {part : Part} (isPart : IsPart tokens part) :
    ∃ token left, tokens = token :: left ∧ token.startsPart := by
  have reads : ReadsPart (tokens ++ []) part [] := (isPart.reads (by simp) (by simp)).mpr ⟨rfl, rfl⟩
  rw [List.append_nil] at reads
  cases tokens with
  | nil => exact absurd reads not_readsPart_nil
  | cons token left => exact ⟨token, left, rfl, readsPart_head reads⟩

theorem IsPart.isParts {part : Part} (isPart : IsPart tokens part) : IsParts tokens [part] := by
  rcases isPart.exists_eq_cons with ⟨token, tokens, rfl, starts⟩
  constructor
  · intro more _
    exact continues_cons.mpr (Token.continues_of_startsPart starts)
  · intro more read rest continues
    have noBranch := continues.noBranch
    rw [List.cons_append, readsParts_iff_of_startsPart starts]
    constructor
    · rintro (_ | ⟨reads, readsParts⟩ | ⟨reads, _⟩)
      · cases starts
      · rcases (isPart.reads noBranch readsParts.continues.noBranch).mp reads with ⟨rfl, rfl⟩
        exact ⟨_, rfl, readsParts⟩
      · rcases (isPart.reads noBranch (by simp)).mp reads with ⟨rfl, rfl⟩
        exact absurd rfl (continues _ rfl).1
    · rintro ⟨others, rfl, reads⟩
      exact .part ((isPart.reads noBranch noBranch).mpr ⟨rfl, rfl⟩) reads

/-- The stop behind a part belongs to it. -/
theorem IsPart.isParts_stopped {part : Part} (isPart : IsPart tokens part) :
    IsParts (tokens ++ [.mark '.']) [part] := by
  rcases isPart.exists_eq_cons with ⟨token, tokens, rfl, starts⟩
  constructor
  · intro more _
    exact continues_cons.mpr (Token.continues_of_startsPart starts)
  · intro more read rest continues
    have readsPart {part : Part} {rest : List Token} (noBranch : rest.head? ≠ some (.keyword .union)) :
        ReadsPart (token :: (tokens ++ .mark '.' :: more)) part rest ↔ _ := isPart.reads (by simp) noBranch
    rw [List.append_assoc, List.singleton_append, List.cons_append, readsParts_iff_of_startsPart starts]
    constructor
    · rintro (_ | ⟨reads, readsParts⟩ | ⟨reads, readsParts⟩)
      · cases starts
      · rcases (readsPart readsParts.continues.noBranch).mp reads with ⟨rfl, rfl⟩
        exact absurd rfl (readsParts.continues _ rfl).1
      · rcases (readsPart (by simp)).mp reads with ⟨rfl, isRest⟩
        cases isRest
        exact ⟨_, rfl, readsParts⟩
    · rintro ⟨others, rfl, reads⟩
      exact .stopped ((readsPart (by simp)).mpr ⟨rfl, rfl⟩) reads

/-! ## Groups -/

section Groups

variable {group : List Part} {groups : List (List Part)} {name : Token}

theorem IsParts.isGroup (isParts : IsParts tokens group) :
    IsGroup (braced tokens) group := by
  constructor
  intro more read rest
  have closes : Continues (.mark '}' :: more) := by simp [continues_cons, Token.startsQuery]
  have continues := isParts.continues closes
  have reads : ReadsParts (tokens ++ .mark '}' :: more) read (.mark '}' :: rest) ↔ _ := isParts.reads closes
  rw [braced, List.cons_append, List.append_assoc, List.singleton_append]
  generalize tokens ++ .mark '}' :: more = inner at continues reads
  constructor
  · rintro (readsParts | ⟨starts, _⟩)
    · rcases reads.mp readsParts with ⟨others, rfl, readsOthers⟩
      rcases readsParts_closing.mp readsOthers with ⟨rfl, rfl⟩
      simp
    · rw [(continues_cons.mp continues).2.2] at starts
      cases starts
  · rintro ⟨rfl, rfl⟩
    exact .parts (reads.mpr ⟨[], by simp, readsParts_closing.mpr ⟨rfl, rfl⟩⟩)

theorem readsGroup_head (reads : ReadsGroup input group rest) : ∃ left, input = .mark '{' :: left := by
  cases reads <;> exact ⟨_, rfl⟩

theorem IsGroup.exists_eq_cons (isGroup : IsGroup tokens group) :
    ∃ left, tokens = .mark '{' :: left := by
  have reads : ReadsGroup (tokens ++ []) group [] := isGroup.reads.mpr ⟨rfl, rfl⟩
  rw [List.append_nil] at reads
  exact readsGroup_head reads

/-- Groups with the keyword of unions between them are read as branches, each group as one. -/
theorem readsBranches_iff {spellings : List (List Token)} {branches : List (List Part)}
    (areGroups : List.Forall₂ IsGroup spellings groups) (some : groups ≠ [])
    (noBranch : more.head? ≠ .some (.keyword .union)) (noneLeft : rest.head? ≠ .some (.keyword .union)) :
    ReadsBranches (joinWith (.keyword .union) spellings ++ more) branches rest ↔
      branches = groups ∧ rest = more := by
  induction areGroups generalizing branches with
  | nil => exact absurd rfl some
  | @cons spelling group spellings groups isGroup areGroups ih =>
      cases areGroups with
      | nil =>
          constructor
          · rintro (reads | ⟨reads, _⟩)
            · rcases isGroup.reads.mp reads with ⟨rfl, rfl⟩
              exact ⟨rfl, rfl⟩
            · rw [← (isGroup.reads.mp reads).2] at noBranch
              exact absurd rfl noBranch
          · rintro ⟨rfl, rfl⟩
            exact .last (isGroup.reads.mpr ⟨rfl, rfl⟩)
      | cons second others =>
          simp only [joinWith, List.append_assoc, List.cons_append]
          constructor
          · rintro (reads | ⟨reads, readsBranches⟩)
            · rw [(isGroup.reads.mp reads).2] at noneLeft
              exact absurd rfl noneLeft
            · rcases isGroup.reads.mp reads with ⟨rfl, isRest⟩
              cases isRest
              rcases (ih (by simp)).mp readsBranches with ⟨rfl, rfl⟩
              exact ⟨rfl, rfl⟩
          · rintro ⟨rfl, rfl⟩
            exact .more (isGroup.reads.mpr ⟨rfl, rfl⟩) ((ih (by simp)).mpr ⟨rfl, rfl⟩)

theorem joinWith_eq_cons {spellings : List (List Token)} (areGroups : List.Forall₂ IsGroup spellings groups)
    (some : groups ≠ []) : ∃ left, joinWith (.keyword .union) spellings = .mark '{' :: left := by
  cases areGroups with
  | nil => exact absurd rfl some
  | cons isGroup areGroups =>
      rcases isGroup.exists_eq_cons with ⟨left, rfl⟩
      cases areGroups <;> exact ⟨_, rfl⟩

theorem IsPart.union {spellings : List (List Token)} (areGroups : List.Forall₂ IsGroup spellings groups)
    (some : groups ≠ []) : IsPart (joinWith (.keyword .union) spellings) (.union groups) := by
  constructor
  intro more read rest noBranch noneLeft
  have readsBranches {branches : List (List Part)} :
      ReadsBranches (joinWith (.keyword .union) spellings ++ more) branches rest ↔ _ :=
    readsBranches_iff areGroups some noBranch noneLeft
  rcases joinWith_eq_cons areGroups some with ⟨left, isCons⟩
  rw [isCons] at readsBranches ⊢
  constructor
  · intro reads
    cases reads with
    | union reads => simpa using readsBranches.mp reads
  · rintro ⟨rfl, rfl⟩
    exact .union (readsBranches.mpr ⟨rfl, rfl⟩)

theorem not_readsBranches_keyword {keyword : Keyword} {branches : List (List Part)} :
    ¬ ReadsBranches (.keyword keyword :: more) branches rest := by
  rintro (reads | ⟨reads, _⟩) <;> cases reads

theorem IsPart.optional (isGroup : IsGroup tokens group) :
    IsPart (.keyword .optional :: tokens) (.optional group) := by
  constructor
  intro more read rest _ _
  constructor
  · intro reads
    cases reads with
    | union reads => exact absurd reads not_readsBranches_keyword
    | optional reads => simpa using isGroup.reads.mp reads
  · rintro ⟨rfl, rfl⟩
    exact .optional (isGroup.reads.mpr ⟨rfl, rfl⟩)

theorem IsPart.minus (isGroup : IsGroup tokens group) :
    IsPart (.keyword .minus :: tokens) (.minus group) := by
  constructor
  intro more read rest _ _
  constructor
  · intro reads
    cases reads with
    | union reads => exact absurd reads not_readsBranches_keyword
    | minus reads => simpa using isGroup.reads.mp reads
  · rintro ⟨rfl, rfl⟩
    exact .minus (isGroup.reads.mpr ⟨rfl, rfl⟩)

theorem IsPart.graph (isTerm : name.isTerm) (isGroup : IsGroup tokens group) :
    IsPart (.keyword .graph :: name :: tokens) (.graph name group) := by
  constructor
  intro more read rest _ _
  constructor
  · intro reads
    cases reads with
    | union reads => exact absurd reads not_readsBranches_keyword
    | graph _ reads => simpa using isGroup.reads.mp reads
  · rintro ⟨rfl, rfl⟩
    exact .graph isTerm (isGroup.reads.mpr ⟨rfl, rfl⟩)

theorem IsPart.service (silent : Bool) (isTerm : name.isTerm) (isGroup : IsGroup tokens group) :
    IsPart (.keyword .service :: (if silent then [.keyword .silent] else []) ++ name :: tokens)
      (.service silent name group) := by
  constructor
  intro more read rest _ _
  have readsGroup {group : List Part} : ReadsGroup (tokens ++ more) group rest ↔ _ := isGroup.reads
  cases silent with
  | false =>
      simp only [Bool.false_eq_true, if_false, List.nil_append, List.cons_append]
      generalize tokens ++ more = inner at readsGroup
      constructor
      · intro reads
        cases reads with
        | union reads => exact absurd reads not_readsBranches_keyword
        | service _ reads => simpa using readsGroup.mp reads
        | silentService _ _ => cases isTerm
      · rintro ⟨rfl, rfl⟩
        exact .service isTerm (readsGroup.mpr ⟨rfl, rfl⟩)
  | true =>
      simp only [if_true, List.cons_append]
      constructor
      · intro reads
        cases reads with
        | union reads => exact absurd reads not_readsBranches_keyword
        | service isTerm _ => cases isTerm
        | silentService _ reads => simpa using readsGroup.mp reads
      · rintro ⟨rfl, rfl⟩
        exact .silentService isTerm (readsGroup.mpr ⟨rfl, rfl⟩)

theorem IsPart.filter {body : List Token} (balanced : IsBalanced '(' ')' body) :
    IsPart (.keyword .filter :: bracketed body) (.filter none body) := by
  constructor
  intro more read rest _ _
  have enclosed : Enclosed '(' ')' (body ++ [.mark ')'] ++ more) body more := ⟨by simp, balanced⟩
  simp only [bracketed, List.cons_append]
  generalize body ++ [.mark ')'] ++ more = inner at enclosed
  constructor
  · intro reads
    cases reads with
    | union reads => exact absurd reads not_readsBranches_keyword
    | filter other =>
        rcases enclosed.unique other (by decide) with ⟨rfl, rfl⟩
        exact ⟨rfl, rfl⟩
    | filterCall isFunction _ => cases isFunction
  · rintro ⟨rfl, rfl⟩
    exact .filter enclosed

theorem IsPart.bind {value : List Token} (isVariable : name.isVariable) (balanced : IsBalanced '(' ')' value) :
    IsPart (.keyword .bind :: bracketed (value ++ [.keyword .as, name])) (.bind value name) := by
  constructor
  intro more read rest _ _
  have noMark : ∀ c, .mark c ∉ [.keyword .as, name] := by
    intro c mem
    have same : .mark c = name := by simpa using mem
    subst same
    cases isVariable
  have balancedBody : IsBalanced '(' ')' (value ++ [.keyword .as, name]) :=
    balanced.append (balanced_of_notMem (noMark _) (noMark _))
  have enclosed : Enclosed '(' ')' (value ++ [.keyword .as, name] ++ [.mark ')'] ++ more)
      (value ++ [.keyword .as, name]) more := ⟨by simp, balancedBody⟩
  simp only [bracketed, List.cons_append]
  generalize value ++ [.keyword .as, name] ++ [.mark ')'] ++ more = inner at enclosed
  constructor
  · intro reads
    cases reads with
    | union reads => exact absurd reads not_readsBranches_keyword
    | bind _ other =>
        rcases enclosed.unique other (by decide) with ⟨same, rfl⟩
        rcases List.append_inj' same rfl with ⟨rfl, sameName⟩
        cases sameName
        exact ⟨rfl, rfl⟩
  · rintro ⟨rfl, rfl⟩
    exact .bind isVariable enclosed

theorem readsRows_iff {rows read : List (List Token)} (cells : ∀ row ∈ rows, row.all Token.isCell) :
    ReadsRows (rows.flatMap bracketed ++ .mark '}' :: more) read rest ↔ read = rows ∧ rest = more := by
  induction rows generalizing read with
  | nil =>
      constructor
      · rintro ⟨⟩
        exact ⟨rfl, rfl⟩
      · rintro ⟨rfl, rfl⟩
        exact .nil
  | cons row rows ih =>
      simp only [List.mem_cons, forall_eq_or_imp] at cells
      have readsRows {read : List (List Token)} :
          ReadsRows (rows.flatMap bracketed ++ .mark '}' :: more) read rest ↔ _ := ih cells.2
      have listed : Listed Token.isCell ')' (row ++ .mark ')' :: (rows.flatMap bracketed ++ .mark '}' :: more))
          row (rows.flatMap bracketed ++ .mark '}' :: more) := ⟨rfl, cells.1⟩
      simp only [List.flatMap_cons, bracketed, List.cons_append, List.append_assoc, List.nil_append]
      constructor
      · rintro (_ | ⟨other, readsOthers⟩)
        rcases listed.unique other rfl with ⟨rfl, rfl⟩
        rcases readsRows.mp readsOthers with ⟨rfl, rfl⟩
        exact ⟨rfl, rfl⟩
      · rintro ⟨rfl, rfl⟩
        exact .cons listed (readsRows.mpr ⟨rfl, rfl⟩)

theorem IsPart.values {names : List Token} {rows : List (List Token)} (areVariables : names.all Token.isVariable)
    (cells : ∀ row ∈ rows, row.all Token.isCell) :
    IsPart (.keyword .values :: (bracketed names ++ braced (rows.flatMap bracketed)))
      (.values names rows) := by
  constructor
  intro more read rest _ _
  have listed : Listed Token.isVariable ')' (names ++ .mark ')' :: .mark '{' ::
      (rows.flatMap bracketed ++ .mark '}' :: more)) names
      (.mark '{' :: (rows.flatMap bracketed ++ .mark '}' :: more)) := ⟨rfl, areVariables⟩
  have readsRows {read : List (List Token)} :
      ReadsRows (rows.flatMap bracketed ++ .mark '}' :: more) read rest ↔ _ := readsRows_iff cells
  simp only [bracketed, braced, List.cons_append, List.append_assoc, List.nil_append]
  generalize names ++ .mark ')' :: .mark '{' :: (rows.flatMap bracketed ++ .mark '}' :: more) = inner at listed
  constructor
  · intro reads
    cases reads with
    | union reads => exact absurd reads not_readsBranches_keyword
    | column isVariable _ => cases isVariable
    | values other readsOthers =>
        rcases listed.unique other rfl with ⟨rfl, sameRows⟩
        cases sameRows
        rcases readsRows.mp readsOthers with ⟨rfl, rfl⟩
        exact ⟨rfl, rfl⟩
  · rintro ⟨rfl, rfl⟩
    exact .values listed (readsRows.mpr ⟨rfl, rfl⟩)

/-! Where the group of a query begins is told by its head alone. -/

theorem IsHead.ne_brace_cons {head before left after : List Token} (isHead : IsHead head)
    (same : head = before ++ .keyword .where :: left) (balanced : IsBalanced '{' '}' before) :
    left ++ .keyword .where :: more ≠ .mark '{' :: after := by
  cases left with
  | nil => simp
  | cons token left =>
      intro isBrace
      cases isBrace
      exact isHead.groupless before left same balanced

theorem IsHead.unique {head other after : List Token} (isHead : IsHead head) (isOther : IsHead other)
    (same : head ++ .keyword .where :: .mark '{' :: more = other ++ .keyword .where :: .mark '{' :: after) :
    other = head ∧ after = more := by
  rcases List.append_eq_append_iff.mp same with ⟨left, rfl, isLeft⟩ | ⟨left, rfl, isLeft⟩
  · rcases left with _ | ⟨token, left⟩
    · cases isLeft
      simp
    · simp only [List.cons_append, List.cons.injEq] at isLeft
      rcases isLeft with ⟨rfl, isLeft⟩
      exact absurd isLeft.symm (isOther.ne_brace_cons rfl isHead.balanced)
  · rcases left with _ | ⟨token, left⟩
    · cases isLeft
      simp
    · simp only [List.cons_append, List.cons.injEq] at isLeft
      rcases isLeft with ⟨rfl, isLeft⟩
      exact absurd isLeft.symm (isHead.ne_brace_cons rfl isOther.balanced)

/-- A query with a group is no query without one, nor the other way round. -/
theorem IsHead.append_ne_append {head other after : List Token} (isHead : IsHead head)
    (isOther : IsHead other) :
    head ++ .keyword .where :: .mark '{' :: more ≠ other ++ .mark '}' :: after := by
  intro same
  rcases List.append_eq_append_iff.mp same with ⟨left, rfl, isLeft⟩ | ⟨left, rfl, isLeft⟩
  · rcases left with _ | ⟨token, _ | ⟨second, left⟩⟩
    · cases isLeft
    · cases isLeft
    · cases isLeft
      exact isOther.groupless head left rfl isHead.balanced
  · rcases left with _ | ⟨token, left⟩
    · cases isLeft
    · cases isLeft
      exact isOther.balanced.not_closed (by decide) isHead.balanced

theorem IsQuery.around {head tail : List Token} (isHead : IsHead head)
    (isGroup : IsGroup tokens group) (balanced : IsBalanced '{' '}' tail) :
    IsQuery (head ++ .keyword .where :: (tokens ++ tail)) (.query head (some group) tail) := by
  constructor
  intro more read rest
  have enclosed : Enclosed '{' '}' (tail ++ .mark '}' :: more) tail more := ⟨rfl, balanced⟩
  have readsGroup {parts : List Part} {left : List Token} :
      ReadsGroup (tokens ++ (tail ++ .mark '}' :: more)) parts left ↔ _ := isGroup.reads
  rcases isGroup.exists_eq_cons with ⟨inner, rfl⟩
  simp only [List.append_assoc, List.cons_append] at readsGroup ⊢
  constructor
  · rintro (⟨same, isOther, reads, others⟩ | ⟨⟨same, _⟩, isOther⟩)
    · rcases readsGroup_head reads with ⟨left, rfl⟩
      rcases isHead.unique isOther same with ⟨rfl, rfl⟩
      rcases readsGroup.mp reads with ⟨rfl, rfl⟩
      rcases enclosed.unique others (by decide) with ⟨rfl, rfl⟩
      exact ⟨rfl, rfl⟩
    · exact absurd same (isHead.append_ne_append isOther)
  · rintro ⟨rfl, rfl⟩
    exact .around rfl isHead (readsGroup.mpr ⟨rfl, rfl⟩) enclosed

theorem IsQuery.bare {head : List Token} (isHead : IsHead head) : IsQuery head (.query head none []) := by
  constructor
  intro more read rest
  have enclosed : Enclosed '{' '}' (head ++ .mark '}' :: more) head more := ⟨rfl, isHead.balanced⟩
  constructor
  · rintro (⟨same, isOther, reads, _⟩ | ⟨other, _⟩)
    · rcases readsGroup_head reads with ⟨left, rfl⟩
      exact absurd same.symm (isOther.append_ne_append isHead)
    · rcases enclosed.unique other (by decide) with ⟨rfl, rfl⟩
      exact ⟨rfl, rfl⟩
  · rintro ⟨rfl, rfl⟩
    exact .bare enclosed isHead

/-- Between braces, a query is read as one because of its first keyword. -/
theorem IsQuery.isGroup {query : Part} (isQuery : IsQuery (token :: tokens) query)
    (starts : token.startsQuery) : IsGroup (braced (token :: tokens)) [query] := by
  constructor
  intro more read rest
  have readsQuery {read : Part} {rest : List Token} :
      ReadsQuery (token :: (tokens ++ .mark '}' :: more)) read rest ↔ _ := isQuery.reads
  simp only [braced, List.cons_append, List.append_assoc, List.nil_append]
  constructor
  · rintro (reads | ⟨_, reads⟩)
    · rw [(continues_cons.mp reads.continues).2.2] at starts
      cases starts
    · rcases readsQuery.mp reads with ⟨rfl, rfl⟩
      exact ⟨rfl, rfl⟩
  · rintro ⟨rfl, rfl⟩
    exact .query starts (readsQuery.mpr ⟨rfl, rfl⟩)

end Groups

end Sparql.Syntax
