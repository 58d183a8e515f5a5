import Mathlib.Data.List.Forall2
import Mathlib.Data.Option.Basic
import Sparql.Proofs.Xml.LongerType
import Sparql.Xml.Document

/-!
# Documents that are read alike

A reader asks elements for the elements in them, some of them also for their first child that is no run of
characters, and some for the characters before that child. Nodes are alike if they give the same answers. While an
element is open its children are alike so far: either they stay so whatever follows, or they do if the next child is
no run of characters.

Drafts of documents are alike if their open elements are. Alike drafts stay alike with one more piece, and so with all
pieces of a document; this holds for declared texts that are read in their places as well.
-/

namespace Sparql.Xml

/-- What a reader asks elements for, besides the elements in them. -/
structure Reading where
  /-- The elements whose first child counts that is no run of characters. -/
  asksFirst : Tag → Prop
  /-- The elements whose characters before that child count. -/
  asksText : Tag → Prop

/-- Whether a reader asks an element for more than the elements in it. -/
def Reading.asks (reading : Reading) (tag : Tag) : Prop := reading.asksFirst tag ∨ reading.asksText tag

variable {reading : Reading} {tag : Tag} {children others : List Node} {node twin : Node}

namespace Node

/-- Whether the node is an element. -/
def isElement : Node → Bool
  | element _ _ => true
  | _ => false

/-- The first of some children that is no run of characters. -/
def first? (children : List Node) : Option Node := children.find? (!·.isText)

/-- The characters before that child. -/
def leading (children : List Node) : List Char :=
  (children.takeWhile isText).flatMap fun child => child.characters?.getD []

/-- Nodes that give a reader the same answers. -/
inductive Alike (reading : Reading) : Node → Node → Prop
  | same (node : Node) : Alike reading node node
  | element {tag : Tag} {children others : List Node}
      (elements : List.Forall₂ (Alike reading) (children.filter isElement) (others.filter isElement))
      (first : reading.asksFirst tag → Option.Rel (Alike reading) (first? children) (first? others))
      (text : reading.asksText tag → leading children = leading others) :
      Alike reading (element tag children) (element tag others)

theorem Alike.isText_eq (alike : Alike reading node twin) : twin.isText = node.isText := by
  cases alike <;> rfl

theorem isElement_of_isText (isText : node.isText = true) : node.isElement = false := by
  cases node <;> first | rfl | cases isText

theorem Alike.isElement_eq (alike : Alike reading node twin) : twin.isElement = node.isElement := by
  cases alike <;> rfl

/-- Runs of characters are alike only if they are the same. -/
theorem Alike.eq_of_isText (alike : Alike reading node twin) (isText : node.isText = true) : twin = node := by
  cases alike with
  | same => rfl
  | element => cases isText

/-- Children that give a reader the same answers about their element. -/
structure AlikeIn (reading : Reading) (tag : Tag) (children others : List Node) : Prop where
  elements : List.Forall₂ (Alike reading) (children.filter isElement) (others.filter isElement)
  first : reading.asksFirst tag → Option.Rel (Alike reading) (first? children) (first? others)
  text : reading.asksText tag → leading children = leading others

/-- Children of which a reader has seen all that counts, or the same part of it, so that they stay alike when a
run of characters follows. -/
def SettledIn (reading : Reading) (tag : Tag) (children others : List Node) : Prop :=
  reading.asks tag → children.all isText = others.all isText

/-- Children behind which nothing counts but elements. -/
def DoneIn (reading : Reading) (tag : Tag) (children : List Node) : Prop :=
  reading.asks tag → children.all isText = false

theorem AlikeIn.alike (alike : AlikeIn reading tag children others) :
    Alike reading (.element tag children) (.element tag others) :=
  .element alike.elements alike.first alike.text

theorem alikeIn_refl (reading : Reading) (tag : Tag) (children : List Node) :
    AlikeIn reading tag children children where
  elements := List.forall₂_same.mpr fun node _ => .same node
  first _ := by
    cases first? children with
    | none => exact .none
    | some node => exact .some (.same node)
  text _ := rfl

/-! ## One more child -/

theorem first?_append (children : List Node) (node : Node) :
    first? (children ++ [node]) = (first? children).or (if node.isText then none else some node) := by
  rw [first?, List.find?_append]
  cases isText : node.isText <;> simp [first?, isText]

theorem characters?_getD (notText : node.isText = false) : node.characters?.getD [] = [] := by
  rw [isText, Option.isSome_eq_false_iff, Option.isNone_iff_eq_none] at notText
  rw [notText, Option.getD_none]

theorem leading_append (children : List Node) (node : Node) :
    leading (children ++ [node]) =
      if children.all isText then leading children ++ node.characters?.getD [] else leading children := by
  induction children with
  | nil => cases isText : node.isText <;> simp [leading, isText, characters?_getD]
  | cons child children ih =>
      cases isText : child.isText
      · simp [leading, isText]
      · have isNext (others : List Node) :
            leading (child :: others) = child.characters?.getD [] ++ leading others := by
          simp [leading, isText]
        rw [List.cons_append, isNext, isNext, ih, List.all_cons, isText, Bool.true_and]
        split
        · rw [List.append_assoc]
        · rfl

theorem leading_append_of_not (notText : node.isText = false) (children : List Node) :
    leading (children ++ [node]) = leading children := by
  rw [leading_append, characters?_getD notText, List.append_nil, ite_self]

theorem filter_append_single (children : List Node) (node : Node) :
    (children ++ [node]).filter isElement = children.filter isElement ++ if node.isElement then [node] else [] := by
  cases isElement : node.isElement <;> simp [isElement]

/-- Alike children stay alike when one more follows that is no run of characters, or any one if they are settled. -/
theorem AlikeIn.append (alike : AlikeIn reading tag children others) (isAlike : Alike reading node twin)
    (isReady : node.isText = false ∨ SettledIn reading tag children others) :
    AlikeIn reading tag (children ++ [node]) (others ++ [twin]) where
  elements := by
    rw [filter_append_single, filter_append_single, isAlike.isElement_eq]
    refine List.rel_append alike.elements ?_
    split
    · exact .cons isAlike .nil
    · exact .nil
  first asked := by
    have isFirst := alike.first asked
    rw [first?_append, first?_append, isAlike.isText_eq]
    revert isFirst
    rcases first? children with _ | one <;> rcases first? others with _ | other <;> rintro ⟨⟩
    · split
      · exact .none
      · exact .some isAlike
    · exact .some ‹_›
  text asked := by
    have isLeading := alike.text asked
    cases isText : node.isText with
    | false =>
        rw [leading_append_of_not isText, leading_append_of_not (isAlike.isText_eq.trans isText), isLeading]
    | true =>
        have isSettled : SettledIn reading tag children others := by
          rw [isText] at isReady
          simpa using isReady
        rw [leading_append, leading_append, isSettled (.inr asked), isLeading, isAlike.eq_of_isText isText]

theorem SettledIn.append (settled : SettledIn reading tag children others) (isAlike : Alike reading node twin) :
    SettledIn reading tag (children ++ [node]) (others ++ [twin]) := by
  intro asked
  simp [settled asked, isAlike.isText_eq]

theorem settledIn_append_of_not (isAlike : Alike reading node twin) (notText : node.isText = false) :
    SettledIn reading tag (children ++ [node]) (others ++ [twin]) := by
  intro asked
  simp [notText, isAlike.isText_eq]

/-! ## One more child on one side -/

theorem first?_append_of_done (asked : reading.asks tag) (done : DoneIn reading tag children) (node : Node) :
    first? (children ++ [node]) = first? children := by
  have isThere : ∃ child ∈ children, child.isText = false := by simpa using done asked
  rcases isThere with ⟨child, mem, notText⟩
  rw [first?_append]
  rcases isFirst : first? children with _ | one
  · rw [first?, List.find?_eq_none] at isFirst
    exact absurd (by rw [notText]; rfl) (isFirst child mem)
  · rfl

theorem leading_append_of_done (asked : reading.asks tag) (done : DoneIn reading tag children) (node : Node) :
    leading (children ++ [node]) = leading children := by
  rw [leading_append, if_neg]
  rw [done asked]
  exact Bool.false_ne_true

theorem DoneIn.append (done : DoneIn reading tag children) (node : Node) : DoneIn reading tag (children ++ [node]) := by
  intro asked
  simp [done asked]

theorem doneIn_of_append (done : DoneIn reading tag (children ++ [node])) (isText : node.isText = true) :
    DoneIn reading tag children := by
  intro asked
  simpa [isText] using done asked

/-- Where nothing counts but elements, another child may be left out on one side. -/
theorem alikeIn_append_left (done : DoneIn reading tag children) (notElement : node.isElement = false) :
    AlikeIn reading tag (children ++ [node]) others ↔ AlikeIn reading tag children others := by
  have sameElements : (children ++ [node]).filter isElement = children.filter isElement := by
    rw [filter_append_single, notElement, if_neg Bool.false_ne_true, List.append_nil]
  constructor
  all_goals
    intro alike
    refine ⟨sameElements ▸ alike.elements, fun asked => ?_, fun asked => ?_⟩
    · simpa only [first?_append_of_done (.inl asked) done] using alike.first asked
    · simpa only [leading_append_of_done (.inr asked) done] using alike.text asked

theorem alikeIn_append_right (done : DoneIn reading tag others) (notElement : node.isElement = false)
    (alike : AlikeIn reading tag children others) : AlikeIn reading tag children (others ++ [node]) where
  elements := by
    rw [filter_append_single, notElement, if_neg Bool.false_ne_true, List.append_nil]
    exact alike.elements
  first asked := by
    rw [first?_append_of_done (.inl asked) done]
    exact alike.first asked
  text asked := by
    rw [leading_append_of_done (.inr asked) done]
    exact alike.text asked

/-- A comment changes no answer of an element whose first child does not count. -/
theorem alikeIn_append_comment (notAsked : ¬ reading.asksFirst tag) (alike : AlikeIn reading tag children others)
    (comment : List Char) : AlikeIn reading tag children (others ++ [.comment comment]) where
  elements := by
    rw [filter_append_single]
    exact (List.append_nil _).symm ▸ alike.elements
  first asked := (notAsked asked).elim
  text asked := by
    have notText : (Node.comment comment).isText = false := rfl
    rw [leading_append_of_not notText]
    exact alike.text asked

theorem SettledIn.done (settled : SettledIn reading tag children others) (done : DoneIn reading tag children) :
    DoneIn reading tag others := fun asked => settled asked ▸ done asked

theorem DoneIn.settled (done : DoneIn reading tag children) (doneToo : DoneIn reading tag others) :
    SettledIn reading tag children others := fun asked => (done asked).trans (doneToo asked).symm

end Node

/-! ## Open elements -/

namespace OpenElement

/-- The children so far, in their order. -/
def content (one : OpenElement) : List Node := one.children.reverse

/-- The element with one more child. -/
def push (one : OpenElement) (node : Node) : OpenElement := { one with children := node :: one.children }

@[simp]
theorem content_push (one : OpenElement) (node : Node) : (one.push node).content = one.content ++ [node] :=
  List.reverse_cons

/-- Elements that are open under the same tag and have given a reader the same answers so far. -/
structure Alike (reading : Reading) (one other : OpenElement) : Prop where
  tag : other.tag = one.tag
  scope : other.scope = one.scope
  children : Node.AlikeIn reading one.tag one.content other.content

/-- Open elements that stay alike when a run of characters follows. -/
structure Settled (reading : Reading) (one other : OpenElement) : Prop extends Alike reading one other where
  isSettled : Node.SettledIn reading one.tag one.content other.content

/-- An open element in which nothing counts any more but elements. -/
def IsDone (reading : Reading) (one : OpenElement) : Prop := Node.DoneIn reading one.tag one.content

variable {one other : OpenElement}

theorem settled_refl (reading : Reading) (one : OpenElement) : Settled reading one one where
  tag := rfl
  scope := rfl
  children := Node.alikeIn_refl reading one.tag one.content
  isSettled _ := rfl

theorem Alike.push (alike : Alike reading one other) (isAlike : Node.Alike reading node twin)
    (isReady : node.isText = false ∨ Settled reading one other) :
    Settled reading (one.push node) (other.push twin) where
  tag := alike.tag
  scope := alike.scope
  children := by
    rw [content_push, content_push]
    exact alike.children.append isAlike (isReady.imp_right Settled.isSettled)
  isSettled := by
    rw [content_push, content_push]
    rcases isReady with notText | settled
    · exact Node.settledIn_append_of_not isAlike notText
    · exact settled.isSettled.append isAlike

theorem IsDone.push (done : IsDone reading one) (node : Node) : IsDone reading (one.push node) := by
  rw [IsDone, content_push]
  exact Node.DoneIn.append done node

/-! ### One more child on one side -/

/-- Where nothing counts but elements, another child may be added on one side. -/
theorem Settled.push_left (settled : Settled reading one other) (done : IsDone reading one)
    (notElement : node.isElement = false) : Settled reading (one.push node) other where
  tag := settled.tag
  scope := settled.scope
  children := by
    rw [content_push]
    exact (Node.alikeIn_append_left done notElement).mpr settled.children
  isSettled := by
    rw [content_push]
    exact (Node.DoneIn.append done node).settled (settled.isSettled.done done)

theorem Settled.push_right (settled : Settled reading one other) (done : IsDone reading one)
    (notElement : node.isElement = false) : Settled reading one (other.push node) where
  tag := settled.tag
  scope := settled.scope
  children := by
    rw [content_push]
    exact Node.alikeIn_append_right (settled.isSettled.done done) notElement settled.children
  isSettled := by
    rw [content_push]
    exact Node.DoneIn.settled done ((settled.isSettled.done done).append node)

theorem isDone_of_push (done : IsDone reading (one.push node)) (isText : node.isText = true) : IsDone reading one := by
  rw [IsDone, content_push] at done
  exact Node.doneIn_of_append done isText

/-- A run of characters may be left out again on one side. -/
theorem settled_of_push (settled : Settled reading (one.push node) other) (done : IsDone reading (one.push node))
    (isText : node.isText = true) : Settled reading one other where
  tag := settled.tag
  scope := settled.scope
  children := by
    refine (Node.alikeIn_append_left (isDone_of_push done isText) (Node.isElement_of_isText isText)).mp ?_
    rw [← content_push]
    exact settled.children
  isSettled := Node.DoneIn.settled (isDone_of_push done isText) (settled.isSettled.done done)

end OpenElement

/-! ## Drafts -/

/-- Whatever one of two readings comes to, the other one comes to something related. -/
def Follows {α β : Type} (related : α → β → Prop) (first : Option α) (second : Option β) : Prop :=
  ∀ one, first = some one → ∃ other, second = some other ∧ related one other

section Following

variable {α β γ δ : Type} {related : α → β → Prop} {leads : γ → δ → Prop}
  {first : Option α} {second : Option β}

theorem follows_none : Follows related none second := by
  rintro _ ⟨⟩

theorem follows_some {one : α} {other : β} (isRelated : related one other) :
    Follows related (some one) (some other) := by
  rintro _ ⟨⟩
  exact ⟨other, rfl, isRelated⟩

theorem Follows.bind {rest : α → Option γ} {others : β → Option δ} (follows : Follows related first second)
    (restFollows : ∀ one other, related one other → Follows leads (rest one) (others other)) :
    Follows leads (first.bind rest) (second.bind others) := by
  intro last isLast
  rcases Option.bind_eq_some_iff.mp isLast with ⟨one, isOne, isLast⟩
  rcases follows one isOne with ⟨other, isOther, isRelated⟩
  rw [isOther]
  exact restFollows one other isRelated last isLast

theorem Follows.foldlM {step : α → γ → Option α} {stepToo : β → γ → Option β}
    (stepFollows : ∀ one other item, related one other → Follows related (step one item) (stepToo other item))
    (items : List γ) {one : α} {other : β} (isRelated : related one other) :
    Follows related (items.foldlM step one) (items.foldlM stepToo other) := by
  induction items generalizing one other with
  | nil => exact follows_some isRelated
  | cons item items ih =>
      rw [List.foldlM_cons, List.foldlM_cons]
      exact (stepFollows one other item isRelated).bind fun _ _ isRelated => ih isRelated

end Following

namespace Draft

/-- Drafts of one document type that have given a reader the same answers so far, where declared texts may be longer
in the second. -/
structure Alike (reading : Reading) (type : DocumentType) (extra : Nat) (draft other : Draft) : Prop where
  isType : draft.type = type
  isTypeToo : other.type = type.raise extra
  stack : List.Forall₂ (OpenElement.Alike reading) draft.stack other.stack
  root : Option.Rel (Node.Alike reading) draft.root other.root
  floor : other.floor = draft.floor
  identifiers : other.identifiers = draft.identifiers
  checked : other.checked = draft.checked
  expansion : other.expansion = draft.expansion

/-- Drafts that stay alike when a run of characters follows. -/
structure Settled (reading : Reading) (type : DocumentType) (extra : Nat) (draft other : Draft) : Prop
    extends Alike reading type extra draft other where
  innermost : ∀ one ∈ draft.stack.head?, ∀ two ∈ other.stack.head?, OpenElement.Settled reading one two

variable {type : DocumentType} {extra : Nat} {draft other : Draft}

theorem Alike.type_eq (alike : Alike reading type extra draft other) : other.type = draft.type.raise extra := by
  rw [alike.isTypeToo, alike.isType]

theorem Alike.isEmpty_eq (alike : Alike reading type extra draft other) :
    other.stack.isEmpty = draft.stack.isEmpty := by
  have isStack := alike.stack
  generalize draft.stack = stack, other.stack = otherStack at isStack
  cases isStack <;> rfl

theorem Alike.isSome_eq (alike : Alike reading type extra draft other) : other.root.isSome = draft.root.isSome := by
  have isRoot := alike.root
  generalize draft.root = root, other.root = roots at isRoot
  cases isRoot <;> rfl

/-- Alike drafts are settled with other open elements, if the innermost ones are. -/
theorem Alike.settled_of_innermost (alike : Alike reading type extra draft other) {one two : OpenElement}
    {outer outers : List OpenElement} (isInnermost : OpenElement.Settled reading one two)
    (isOuter : List.Forall₂ (OpenElement.Alike reading) outer outers) :
    Settled reading type extra { draft with stack := one :: outer } { other with stack := two :: outers } := by
  refine ⟨{ alike with stack := .cons isInnermost.toAlike isOuter }, ?_⟩
  rintro _ ⟨⟩ _ ⟨⟩
  exact isInnermost

theorem Alike.insert (alike : Alike reading type extra draft other) (isAlike : Node.Alike reading node twin)
    (isReady : node.isText = false ∨ Settled reading type extra draft other) :
    Follows (Settled reading type extra) (draft.insert node) (other.insert twin) := by
  rcases draft with ⟨_, stack⟩
  rcases other with ⟨_, otherStack⟩
  have isStack := alike.stack
  dsimp only at isStack
  cases isStack with
  | nil => exact follows_none
  | @cons one two outer outers isOne isOuter =>
      have isNext : OpenElement.Settled reading (one.push node) (two.push twin) :=
        isOne.push isAlike (isReady.imp_right fun settled => settled.innermost one rfl two rfl)
      exact follows_some (alike.settled_of_innermost isNext isOuter)

theorem Alike.insertElement (alike : Alike reading type extra draft other) (isAlike : Node.Alike reading node twin)
    (notText : node.isText = false) :
    Follows (Settled reading type extra) (draft.insertElement node) (other.insertElement twin) := by
  rw [Draft.insertElement, Draft.insertElement, alike.isEmpty_eq, alike.isSome_eq]
  split
  · rename_i isOutside
    split
    · exact follows_none
    · refine follows_some ⟨{ alike with root := .some isAlike }, ?_⟩
      rw [List.isEmpty_iff.mp isOutside]
      rintro _ ⟨⟩
  · exact alike.insert isAlike (.inl notText)

theorem Alike.close (alike : Alike reading type extra draft other) (written : List Char) :
    Follows (Settled reading type extra) (draft.close written) (other.close written) := by
  rcases draft with ⟨_, stack⟩
  rcases other with ⟨_, otherStack⟩
  have isStack := alike.stack
  have isFloor := alike.floor
  dsimp only at isStack isFloor
  cases isStack with
  | nil => exact follows_none
  | @cons one two outer outers isOne isOuter =>
      have isLength : outers.length = outer.length := isOuter.length_eq.symm
      simp only [Draft.close, isOne.tag, List.length_cons, isLength, isFloor]
      split
      · exact Alike.insertElement { alike with stack := isOuter, floor := rfl } isOne.children.alike rfl
      · exact follows_none

/-! ## Opening elements -/

theorem mapM_mono {α β : Type} {f g : α → Option β}
    (isMono : ∀ one result, f one = some result → g one = some result)
    {items : List α} {results : List β} (isDone : items.mapM f = some results) : items.mapM g = some results := by
  induction items generalizing results with
  | nil => exact isDone
  | cons item items ih =>
      simp only [List.mapM_cons, Option.bind_eq_bind, Option.bind_eq_some_iff] at isDone ⊢
      rcases isDone with ⟨first, isFirst, others, isOthers, isDone⟩
      exact ⟨first, isMono item first isFirst, others, ih isOthers, isDone⟩

theorem rawAttributes?_raise (extra : Nat) {element : List Char} {given : List (List Char × List Char)}
    {raw : List RawAttribute} (isRaw : rawAttributes? type element given = some raw) :
    rawAttributes? (type.raise extra) element given = some raw := by
  simp only [rawAttributes?, Option.bind_eq_bind, Option.bind_eq_some_iff] at isRaw ⊢
  rcases isRaw with ⟨values, isGiven, isRaw⟩
  refine ⟨values, mapM_mono (fun given result isResult => ?_) isGiven, isRaw⟩
  rw [Option.bind_eq_some_iff] at isResult ⊢
  rcases isResult with ⟨value, isValue, isResult⟩
  exact ⟨value, DocumentType.value?_raise extra isValue, isResult⟩

theorem declaredSpaces?_raise (extra : Nat) {raw : List RawAttribute} {scope : Scope}
    (isScope : declaredSpaces? type raw = some scope) : declaredSpaces? (type.raise extra) raw = some scope := by
  refine mapM_mono (fun given result isResult => ?_) isScope
  simp only [Option.bind_eq_bind, Option.bind_eq_some_iff] at isResult ⊢
  rcases isResult with ⟨mark, isMark, space, isSpace, isResult⟩
  exact ⟨mark, isMark, space, DocumentType.spaceOf?_raise extra isSpace, isResult⟩

theorem properAttributes?_raise (extra : Nat) {raw : List RawAttribute} {scope : Scope} {attributes : List Attribute}
    (isProper : properAttributes? type scope raw = some attributes) :
    properAttributes? (type.raise extra) scope raw = some attributes := by
  refine mapM_mono (fun given result isResult => ?_) isProper
  simp only [Option.bind_eq_bind, Option.bind_eq_some_iff] at isResult ⊢
  rcases isResult with ⟨name, isName, text, isText, isResult⟩
  exact ⟨name, isName, text, DocumentType.textOf?_raise extra isText, isResult⟩

theorem Alike.scope_eq (alike : Alike reading type extra draft other) : other.scope = draft.scope := by
  have isStack := alike.stack
  unfold Draft.scope
  generalize draft.stack = stack, other.stack = otherStack at isStack
  cases isStack with
  | nil => rfl
  | cons isOne => exact isOne.scope

/-- The element that a tag opens inside a scope, and all identifiers with its own. -/
def opening? (type : DocumentType) (outer : Scope) (others : List String) (written : List Char)
    (given : List (List Char × List Char)) : Option (OpenElement × List String) := do
  let raw ← rawAttributes? type written given
  let declared ← declaredSpaces? type raw
  let scope := declared.reverse ++ outer
  let name ← (← QualifiedName.ofWritten? type.practice written).resolve? scope (standardSpace scope)
  let attributes ← properAttributes? type scope raw
  let identifiers := attributes.filterMap (identifier? type written) ++ others
  if !DocumentType.allDistinct (attributes.map (·.name)) then none
  if !areSensible type attributes || !DocumentType.allDistinct identifiers then none
  return ({ tag := ⟨written, name, declared, attributes⟩, scope }, identifiers)

theorem openElement_eq (draft : Draft) (written : List Char) (given : List (List Char × List Char)) :
    draft.openElement written given =
      if draft.stack.isEmpty && draft.root.isSome then none
      else if draft.type.practice = .referring && deepest ≤ draft.stack.length then none
      else if !DocumentType.allDistinct (given.map (·.1)) then none
      else (opening? draft.type draft.scope draft.identifiers written given).bind fun (one, identifiers) =>
        some { draft with identifiers, stack := one :: draft.stack } := by
  have isOpening :
      (do
        let raw ← rawAttributes? draft.type written given
        let declared ← declaredSpaces? draft.type raw
        let scope := declared.reverse ++ draft.scope
        let name ← (← QualifiedName.ofWritten? draft.type.practice written).resolve? scope (standardSpace scope)
        let attributes ← properAttributes? draft.type scope raw
        let identifiers := attributes.filterMap (identifier? draft.type written) ++ draft.identifiers
        if !DocumentType.allDistinct (attributes.map (·.name)) then none
        if !areSensible draft.type attributes || !DocumentType.allDistinct identifiers then none
        return { draft with
          identifiers, stack := { tag := ⟨written, name, declared, attributes⟩, scope } :: draft.stack }) =
      (opening? draft.type draft.scope draft.identifiers written given).bind fun (one, identifiers) =>
        some { draft with identifiers, stack := one :: draft.stack } := by
    simp only [opening?, Option.bind_eq_bind, Option.bind_assoc]
    refine Option.bind_congr fun raw _ => Option.bind_congr fun declared _ => Option.bind_congr fun parts _ =>
      Option.bind_congr fun name _ => Option.bind_congr fun attributes _ => ?_
    split
    · rfl
    · split <;> rfl
  rw [← isOpening]
  rfl

theorem opening?_raise (extra : Nat) {outer : Scope} {others : List String} {written : List Char}
    {given : List (List Char × List Char)} {read : OpenElement × List String}
    (isOpening : opening? type outer others written given = some read) :
    opening? (type.raise extra) outer others written given = some read := by
  simp only [opening?, Option.bind_eq_bind, Option.bind_eq_some_iff] at isOpening ⊢
  rcases isOpening with ⟨raw, isRaw, declared, isDeclared, parts, isName, name, isResolved, attributes, isProper,
    isOpening⟩
  exact ⟨raw, rawAttributes?_raise extra isRaw, declared, declaredSpaces?_raise extra isDeclared, parts, isName, name,
    isResolved, attributes, properAttributes?_raise extra isProper, isOpening⟩

theorem Alike.openElement (alike : Alike reading type extra draft other) (written : List Char)
    (given : List (List Char × List Char)) :
    Follows (Settled reading type extra) (draft.openElement written given) (other.openElement written given) := by
  have isLength : other.stack.length = draft.stack.length := alike.stack.length_eq.symm
  rw [openElement_eq, openElement_eq]
  simp only [alike.isEmpty_eq, alike.isSome_eq, isLength, alike.scope_eq, alike.type_eq, alike.identifiers,
    DocumentType.practice_raise]
  split
  · exact follows_none
  split
  · exact follows_none
  split
  · exact follows_none
  intro next isNext
  rw [Option.bind_eq_some_iff] at isNext
  rcases isNext with ⟨⟨one, identifiers⟩, isOpening, isNext⟩
  cases isNext
  rw [opening?_raise extra isOpening]
  have isNoted : Alike reading type extra { draft with identifiers } { other with identifiers } :=
    { alike with identifiers := rfl }
  have isOne := OpenElement.settled_refl reading one
  refine ⟨_, rfl, ?_⟩
  rw [← alike.type_eq]
  exact isNoted.settled_of_innermost isOne alike.stack

/-! ## Texts -/

/-- Two ways of reading declared texts that lead from settled drafts to settled drafts. -/
def ReadAlike (reading : Reading) (type : DocumentType) (extra : Nat)
    (readInside readLonger : Draft → List Char → Option Draft) : Prop :=
  ∀ draft other text, Settled reading type extra draft other →
    Follows (Settled reading type extra) (readInside draft text) (readLonger other text)

variable {readInside readLonger : Draft → List Char → Option Draft}

theorem Settled.insert (settled : Settled reading type extra draft other) (isAlike : Node.Alike reading node twin) :
    Follows (Settled reading type extra) (draft.insert node) (other.insert twin) :=
  settled.toAlike.insert isAlike (.inr settled)

/-- The draft with another record of what has been read. -/
def noting (draft : Draft) (identifiers : List String) (checked : List (List Char)) (expansion : Nat) : Draft :=
  { draft with identifiers, checked, expansion }

theorem Settled.noting (settled : Settled reading type extra draft other) (identifiers : List String)
    (checked : List (List Char)) (expansion : Nat) :
    Settled reading type extra (draft.noting identifiers checked expansion)
      (other.noting identifiers checked expansion) where
  isType := settled.isType
  isTypeToo := settled.isTypeToo
  stack := settled.stack
  root := settled.root
  floor := settled.floor
  identifiers := rfl
  checked := rfl
  expansion := rfl
  innermost := settled.innermost

theorem insertEntity_eq (draft : Draft) (name : List Char) :
    draft.insertEntity readInside name =
      if draft.type.limit < draft.expansion + draft.type.sizeOf [.entity name] then none
      else match draft.type.entities.lookup name, draft.type.practice with
        | some (.text value), .replacing =>
          readInside (draft.noting draft.identifiers draft.checked (draft.expansion + value.length + 20)) value
        | some (.text value), .referring =>
          let counted := draft.noting draft.identifiers draft.checked
            (draft.expansion + draft.type.sizeOf [.entity name])
          (if draft.checked.contains name then some counted else readInside counted value).bind fun seen =>
            (draft.noting seen.identifiers (name :: seen.checked)
              (draft.expansion + draft.type.sizeOf [.entity name])).insert (.entity name)
        | some .elsewhere, .replacing => some draft
        | some .elsewhere, .referring => draft.insert (.entity name)
        | some .unparsed, _ => none
        | none, practice =>
          if !draft.type.allowsUndeclared then none
          else match practice with
            | .referring => draft.insert (.entity name)
            | .replacing => some draft := by
  rw [insertEntity]
  dsimp only
  split
  · rfl
  · rcases draft.type.entities.lookup name with _ | value | _ | _ <;> cases draft.type.practice
    all_goals first | rfl | (dsimp only; split <;> rfl)

theorem Settled.insertEntity (reads : ReadAlike reading type extra readInside readLonger)
    (settled : Settled reading type extra draft other) (name : List Char) :
    Follows (Settled reading type extra) (draft.insertEntity readInside name) (other.insertEntity readLonger name) := by
  rw [insertEntity_eq, insertEntity_eq, settled.type_eq, settled.identifiers, settled.checked, settled.expansion]
  split
  · exact follows_none
  · rename_i fits
    have fitsLonger : ¬ (draft.type.raise extra).limit <
        draft.expansion + (draft.type.raise extra).sizeOf [.entity name] :=
      fun tooLong => fits (Nat.lt_of_le_of_lt (Nat.le_add_right _ _) tooLong)
    have sameEntities : (draft.type.raise extra).entities = draft.type.entities := rfl
    have sameRule : (draft.type.raise extra).allowsUndeclared = draft.type.allowsUndeclared := rfl
    rw [if_neg fitsLonger, sameEntities, sameRule, DocumentType.practice_raise]
    rcases draft.type.entities.lookup name with _ | value | _ | _ <;> cases draft.type.practice
    all_goals dsimp only
    · split
      · exact follows_none
      · exact settled.insert (.same _)
    · split
      · exact follows_none
      · exact follows_some settled
    · refine Follows.bind (?_ : Follows (Settled reading type extra) _ _) fun seen seenToo isSeen => ?_
      · have isNoted := settled.noting draft.identifiers draft.checked
          (draft.expansion + draft.type.sizeOf [.entity name])
        split
        · exact follows_some isNoted
        · exact reads _ _ value isNoted
      · rw [isSeen.identifiers, isSeen.checked]
        exact (settled.noting _ _ _).insert (.same _)
    · exact reads _ _ value (settled.noting _ _ _)
    · exact settled.insert (.same _)
    · exact follows_some settled
    · exact follows_none
    · exact follows_none

/-- The draft with a text whose characters stand in reverse, unless it is empty. -/
def flush (draft : Draft) (read : List Char) : Option Draft :=
  if read.isEmpty then some draft else draft.insert (.text read.reverse)

theorem insertFragments_char (draft : Draft) (read : List Char) (c : Char) (fragments : List Fragment) :
    draft.insertFragments readInside read (.char c :: fragments) =
      draft.insertFragments readInside (c :: read) fragments := rfl

theorem insertFragments_entity (draft : Draft) (read : List Char) (name : List Char) (fragments : List Fragment) :
    draft.insertFragments readInside read (.entity name :: fragments) =
      (draft.flush read).bind fun draft => (draft.insertEntity readInside name).bind fun draft =>
        draft.insertFragments readInside [] fragments := by
  have isFlush : (if read.isEmpty then some draft else draft.insert (.text read.reverse)) = draft.flush read := rfl
  rw [insertFragments, isFlush]
  rcases draft.flush read with _ | next
  · rfl
  · dsimp only [Option.bind_some]
    rcases next.insertEntity readInside name <;> rfl

/-- A draft with an innermost element in which nothing counts any more but elements. -/
def IsDone (reading : Reading) (draft : Draft) : Prop := ∃ one ∈ draft.stack.head?, OpenElement.IsDone reading one

/-- The innermost elements of settled drafts, of which the first is done. -/
theorem Settled.exists_innermost (settled : Settled reading type extra draft other) (done : IsDone reading draft) :
    ∃ one two outer outers, draft.stack = one :: outer ∧ other.stack = two :: outers ∧
      OpenElement.Settled reading one two ∧ List.Forall₂ (OpenElement.Alike reading) outer outers ∧
      OpenElement.IsDone reading one := by
  rcases done with ⟨one, isInnermost, isDone⟩
  have isStack := settled.stack
  have isSettled := settled.innermost one isInnermost
  generalize draft.stack = stack, other.stack = otherStack at isStack isSettled isInnermost
  cases isStack with
  | nil => cases isInnermost
  | cons _ isOuter =>
      cases isInnermost
      exact ⟨_, _, _, _, rfl, rfl, isSettled _ rfl, isOuter, isDone⟩

theorem insert_of_stack {one : OpenElement} {outer : List OpenElement} (isStack : draft.stack = one :: outer)
    (node : Node) : draft.insert node = some { draft with stack := one.push node :: outer } := by
  rw [Draft.insert, isStack]
  rfl

theorem Settled.insert_left (settled : Settled reading type extra draft other) (done : IsDone reading draft)
    (notElement : node.isElement = false) :
    ∃ next, draft.insert node = some next ∧ Settled reading type extra next other ∧ IsDone reading next := by
  rcases settled.exists_innermost done with ⟨one, two, outer, outers, isStack, isStackToo, isOne, isOuter, isDone⟩
  have isNext := settled.settled_of_innermost (isOne.push_left isDone notElement) isOuter
  rw [← isStackToo] at isNext
  exact ⟨_, insert_of_stack isStack node, isNext, _, rfl, isDone.push node⟩

theorem Settled.insert_right (settled : Settled reading type extra draft other) (done : IsDone reading draft)
    (notElement : node.isElement = false) :
    ∃ next, other.insert node = some next ∧ Settled reading type extra draft next := by
  rcases settled.exists_innermost done with ⟨one, two, outer, outers, isStack, isStackToo, isOne, isOuter, isDone⟩
  have isNext := settled.settled_of_innermost (isOne.push_right isDone notElement) isOuter
  rw [← isStack] at isNext
  exact ⟨_, insert_of_stack isStackToo node, isNext⟩

theorem Settled.flush (settled : Settled reading type extra draft other) {read readToo : List Char}
    (isReady : readToo = read ∨ IsDone reading draft) :
    Follows (Settled reading type extra) (draft.flush read) (other.flush readToo) := by
  rcases isReady with rfl | done
  · unfold Draft.flush
    split
    · exact follows_some settled
    · exact settled.insert (.same _)
  · have left :
        ∃ next, draft.flush read = some next ∧ Settled reading type extra next other ∧ IsDone reading next := by
      unfold Draft.flush
      split
      · exact ⟨draft, rfl, settled, done⟩
      · exact settled.insert_left done rfl
    rcases left with ⟨next, isNext, settled, done⟩
    rw [isNext]
    unfold Draft.flush
    split
    · exact follows_some settled
    · rintro _ ⟨⟩
      exact settled.insert_right done rfl

/-- A text may be left out again on one side where nothing counts but elements. -/
theorem settled_of_flush {next : Draft} {read : List Char} (isFlushed : draft.flush read = some next)
    (settled : Settled reading type extra next other) (done : IsDone reading next) :
    Settled reading type extra draft other ∧ IsDone reading draft := by
  unfold Draft.flush at isFlushed
  split at isFlushed
  · cases isFlushed
    exact ⟨settled, done⟩
  · rcases isStack : draft.stack with _ | ⟨one, outer⟩
    · rw [Draft.insert, isStack] at isFlushed
      cases isFlushed
    · rw [insert_of_stack isStack] at isFlushed
      cases isFlushed
      rcases settled.exists_innermost done with ⟨_, two, _, outers, ⟨⟩, isStackToo, isPushed, isOuter, isDone⟩
      have isText : (Node.text read.reverse).isText = true := rfl
      have isBefore := settled.settled_of_innermost (OpenElement.settled_of_push isPushed isDone isText) isOuter
      rw [← isStackToo] at isBefore
      refine ⟨?_, one, ?_, OpenElement.isDone_of_push isDone isText⟩
      · simpa only [← isStack] using isBefore
      · rw [isStack]
        rfl

theorem Settled.insertFragments (reads : ReadAlike reading type extra readInside readLonger) (fragments : List Fragment)
    {read readToo : List Char} (settled : Settled reading type extra draft other)
    (isReady : readToo = read ∨ IsDone reading draft) :
    Follows (Settled reading type extra) (draft.insertFragments readInside read fragments)
      (other.insertFragments readLonger readToo fragments) := by
  induction fragments generalizing draft other read readToo with
  | nil => exact settled.flush isReady
  | cons fragment fragments ih =>
      cases fragment with
      | char c =>
          rw [insertFragments_char, insertFragments_char]
          exact ih settled (isReady.imp_left (congrArg (c :: ·)))
      | entity name =>
          rw [insertFragments_entity, insertFragments_entity]
          exact (settled.flush isReady).bind fun _ _ settled => (settled.insertEntity reads name).bind
            fun _ _ settled => ih settled (.inl rfl)

theorem Settled.insertText (reads : ReadAlike reading type extra readInside readLonger)
    (settled : Settled reading type extra draft other) (raw : List Char) :
    Follows (Settled reading type extra) (draft.insertText readInside raw) (other.insertText readLonger raw) := by
  rw [Draft.insertText, Draft.insertText, settled.isEmpty_eq, settled.type_eq, DocumentType.practice_raise]
  split
  · split
    · exact follows_some settled
    · exact follows_none
  · rcases fragments? draft.type.practice raw with _ | fragments
    · exact follows_none
    · exact settled.insertFragments reads fragments (.inl rfl)

/-! ## Pieces -/

theorem Alike.insertAside (alike : Alike reading type extra draft other) (notText : node.isText = false) :
    Follows (Settled reading type extra) (draft.insertAside node) (other.insertAside node) := by
  rw [Draft.insertAside, Draft.insertAside, alike.isEmpty_eq]
  split
  · rename_i isOutside
    refine follows_some ⟨alike, ?_⟩
    rw [List.isEmpty_iff.mp isOutside]
    rintro _ ⟨⟩
  · exact alike.insert (.same node) (.inl notText)

/-- Alike drafts are settled after one more piece that is no run of characters, and settled ones after any piece. -/
theorem Alike.step (alike : Alike reading type extra draft other)
    (reads : ReadAlike reading type extra readInside readLonger) (piece : Piece)
    (isReady : piece.isRun = false ∨ Settled reading type extra draft other) :
    Follows (Settled reading type extra) (draft.step readInside piece) (other.step readLonger piece) := by
  cases piece with
  | openTag name attributes isEmpty =>
      refine (alike.openElement name attributes).bind fun one two settled => ?_
      cases isEmpty with
      | false => exact follows_some settled
      | true => exact settled.close name
  | closeTag name => exact alike.close name
  | text raw =>
      rcases isReady with notRun | settled
      · cases notRun
      · exact settled.insertText reads raw
  | verbatim text =>
      rcases isReady with notRun | settled
      · cases notRun
      · exact settled.insert (.same _)
  | comment text => exact alike.insertAside rfl
  | instruction target text => exact alike.insertAside rfl

/-- Settled drafts are settled after some more pieces. -/
theorem Settled.run (settled : Settled reading type extra draft other)
    (reads : ReadAlike reading type extra readInside readLonger) (pieces : List Piece) :
    Follows (Settled reading type extra) (pieces.foldlM (Draft.step readInside) draft)
      (pieces.foldlM (Draft.step readLonger) other) :=
  Follows.foldlM (fun _ _ piece settled => settled.step reads piece (.inr settled)) pieces settled

/-- Declared texts lead from settled drafts to settled drafts, however deep they stand inside each other. -/
theorem readAlike_readInside (reading : Reading) (type : DocumentType) (extra depth : Nat) :
    ReadAlike reading type extra (Draft.readInside depth) (Draft.readInside depth) := by
  induction depth with
  | zero =>
      intro draft other text _
      exact follows_none
  | succ depth ih =>
      intro draft other text settled
      have isFloor : other.stack.length = draft.stack.length := settled.stack.length_eq.symm
      have isPractice : other.type.practice = draft.type.practice := by
        rw [settled.type_eq]
        rfl
      rw [Draft.readInside, Draft.readInside, isFloor, isPractice]
      rcases pieces? draft.type.practice text with _ | pieces
      · exact follows_none
      · have isStart : Settled reading type extra { draft with floor := draft.stack.length }
            { other with floor := draft.stack.length } :=
          ⟨{ settled.toAlike with floor := rfl }, settled.innermost⟩
        simp only [Option.bind_eq_bind, Option.bind_some]
        refine (isStart.run ih pieces).bind fun one two isRead => ?_
        have isDepth : two.stack.length = one.stack.length := isRead.stack.length_eq.symm
        rw [isDepth]
        split
        · exact follows_some ⟨{ isRead.toAlike with floor := settled.floor }, isRead.innermost⟩
        · exact follows_none

end Draft

end Sparql.Xml
