import Sparql.Proofs.Text.Utf8
import Sparql.Proofs.Xml.Cutting
import Sparql.Xml.Source

/-!
# Reading XML back

The pieces of an element add the element to the innermost open one, wherever they stand. So the text of an element
is read back as the element, and a document of one of them as its root.
-/

namespace Sparql.Xml

variable {limit : Nat}

/-! ## Opening elements -/

variable {space : String}

/-- The namespaces inside a root that declares a default one. -/
def spaces (space : String) : Scope := [([], space), ("xml".toList, xmlSpace)]

/-- A draft with some elements open, in a document without declarations. -/
def inside (limit : Nat) (stack : List OpenElement) : Draft := { type := bare limit, stack }

@[simp]
theorem stack_inside (stack : List OpenElement) : (inside limit stack).stack = stack := rfl

/-- A name of an element in the default namespace. -/
structure IsElementName (own : String) : Prop where
  isClean : IsClean own.toList
  isName : Practice.referring.isName own.toList = true
  isWhole : QualifiedName.ofWritten? .referring own.toList = some ⟨[], own.toList⟩

/-- What is written for an attribute that declares no namespace and is no identifier, and its name, whatever the
default namespace is. -/
structure IsAttributeName (written : List Char) (name : Name) : Prop where
  isClean : IsClean written
  isName : Practice.referring.isName written = true
  isResolved : ∃ parts, QualifiedName.ofWritten? .referring written = some parts ∧ parts.declaredMark? = none ∧
    ∀ space, parts.resolve? (spaces space) none = some name
  notIdentifier : name ≠ ⟨some xmlSpace, "id"⟩

/-- The opening of an element in the default namespace. -/
def plainTag (space own : String) (given : Option Attribute) : Tag :=
  ⟨own.toList, ⟨some space, own⟩, [], given.toList⟩

@[simp]
theorem written_plainTag (space own : String) (given : Option Attribute) :
    (plainTag space own given).written = own.toList := rfl

variable {own : String} {given : Option Attribute} {innermost : OpenElement} {outer : List OpenElement}

theorem resolve?_own (isSome : space ≠ "") :
    QualifiedName.resolve? (spaces space) (standardSpace (spaces space)) ⟨[], own.toList⟩ =
      some ⟨some space, own⟩ := by
  simp [QualifiedName.resolve?, standardSpace, spaces, isSome]

theorem openElement_plain (limit : Nat) (outer : List OpenElement) (isName : IsElementName own) (isSome : space ≠ "")
    (isProper : ∀ one ∈ given, IsAttributeName one.written one.name) (isScope : innermost.scope = spaces space)
    (fits : outer.length + 1 < Draft.deepest) :
    (inside limit (innermost :: outer)).openElement own.toList (given.toList.map Attribute.raw) =
      some (inside limit
        ({ tag := plainTag space own given, scope := spaces space } :: innermost :: outer)) := by
  have shallow : ¬ Draft.deepest ≤ outer.length + 1 := by omega
  cases given with
  | none =>
      simp [Draft.openElement, inside, shallow, rawAttributes?, declaredSpaces?, properAttributes?, Draft.scope,
        isScope, DocumentType.allDistinct, isName.isWhole, resolve?_own isSome, Draft.areSensible, plainTag]
  | some one =>
      rcases isProper one rfl with ⟨_, _, ⟨parts, isWhole, notDeclared, isResolved⟩, notIdentifier⟩
      simp [Draft.openElement, inside, shallow, rawAttributes?, declaredSpaces?, properAttributes?, Draft.scope,
        isScope, DocumentType.allDistinct, isName.isWhole, resolve?_own isSome, Draft.areSensible, plainTag,
        Attribute.raw, value?_escaped, isWhole, notDeclared, isResolved, textOf?_chars, Draft.identifier?,
        notIdentifier]

/-! ## Adding -/

/-- The node of a run of characters, if there are any. -/
def runNodes (text : List Char) : List Node := if text.isEmpty then [] else [.text text]

/-- Pieces that add some nodes to the innermost element, with some levels of elements below it. -/
def Adds (space : String) (pieces : List Piece) (nodes : List Node) (height : Nat) : Prop :=
  ∀ limit readInside innermost outer, innermost.scope = spaces space → outer.length + height < Draft.deepest →
    pieces.foldlM (Draft.step readInside) (inside limit (innermost :: outer)) =
      some (inside limit ({ innermost with children := nodes.reverse ++ innermost.children } :: outer))

variable {pieces others : List Piece} {nodes more : List Node} {height : Nat}

theorem adds_nil : Adds space [] [] 0 := fun _ _ _ _ _ _ => rfl

theorem Adds.mono {higher : Nat} (adds : Adds space pieces nodes height) (isHigher : height ≤ higher) :
    Adds space pieces nodes higher :=
  fun limit readInside innermost outer isScope fits =>
    adds limit readInside innermost outer isScope (by omega)

theorem Adds.append (adds : Adds space pieces nodes height) (addsToo : Adds space others more height) :
    Adds space (pieces ++ others) (nodes ++ more) height := by
  intro limit readInside innermost outer isScope fits
  rw [List.foldlM_append, adds limit readInside innermost outer isScope fits]
  simpa using addsToo limit readInside { innermost with children := nodes.reverse ++ innermost.children } outer
    isScope fits

theorem insertFragments_chars (readInside : Draft → List Char → Option Draft) (draft : Draft)
    (read text : List Char) (isText : read.reverse ++ text ≠ []) :
    draft.insertFragments readInside read (text.map .char) = draft.insert (.text (read.reverse ++ text)) := by
  induction text generalizing read with
  | nil =>
      have notEmpty : read ≠ [] := by simpa using isText
      simp [Draft.insertFragments, notEmpty]
  | cons c text ih =>
      rw [List.map_cons, Draft.insertFragments, ih (c :: read) (by simp)]
      simp

theorem adds_run (text : List Char) : Adds space (runPieces text) (runNodes text) 0 := by
  rcases text with _ | ⟨c, text⟩
  · exact adds_nil
  · intro limit readInside innermost outer _ _
    have isStep : Draft.step readInside (inside limit (innermost :: outer)) (.text ((c :: text).flatMap escapeText)) =
        (inside limit (innermost :: outer)).insert (.text (c :: text)) := by
      have isRead : fragments? .referring ((c :: text).flatMap escapeText) = some ((c :: text).map .char) :=
        fragments?_flatMap fragmentsFrom_escapeText _
      have inserted := insertFragments_chars readInside (inside limit (innermost :: outer)) [] (c :: text) (by simp)
      rw [Draft.step, Draft.insertText, if_neg (by simp [inside])]
      exact (congrArg (Option.bind · _) isRead).trans inserted
    exact (List.foldlM_cons ..).trans (congrArg (Option.bind · _) isStep)

theorem close_inside (limit : Nat) (tag : Tag) (scope : Scope) (nodes : List Node) (innermost : OpenElement)
    (outer : List OpenElement) :
    (inside limit (⟨tag, scope, nodes⟩ :: innermost :: outer)).close tag.written =
      some (inside limit
        ({ innermost with children := .element tag nodes.reverse :: innermost.children } :: outer)) := by
  simp [Draft.close, inside, Draft.insertElement, Draft.insert]

/-- An element adds itself, with what its content adds. -/
theorem adds_element (isName : IsElementName own) (isSome : space ≠ "")
    (isProper : ∀ one ∈ given, IsAttributeName one.written one.name) (adds : Adds space pieces nodes height) :
    Adds space ([.openTag own.toList (given.toList.map Attribute.raw) false] ++ pieces ++ [.closeTag own.toList])
      [.element (plainTag space own given) nodes] (height + 1) := by
  intro limit readInside innermost outer isScope fits
  have opened := openElement_plain limit outer isName isSome isProper isScope (by omega)
  have filled := adds limit readInside { tag := plainTag space own given, scope := spaces space }
    (innermost :: outer) rfl (by rw [List.length_cons]; omega)
  have closed := close_inside limit (plainTag space own given) (spaces space) (nodes.reverse ++ []) innermost outer
  rw [List.foldlM_append, List.foldlM_append]
  simp only [List.foldlM_cons, List.foldlM_nil, Draft.step, opened, Option.bind_some, bind_pure,
    Bool.false_eq_true, if_false, Option.bind_eq_bind, filled]
  simpa using closed

/-! ## Content -/

/-- A text that is read back as some nodes inside an element, with some levels of elements below it. -/
structure IsContent (space : String) (text : List Char) (nodes : List Node) (height : Nat) : Prop where
  isClean : IsClean text
  isRead : ∃ pieces, Cuts text pieces ∧ Adds space pieces nodes height

theorem isContent_nil : IsContent space [] [] 0 where
  isClean := isClean_nil
  isRead := ⟨[], cuts_nil, adds_nil⟩

theorem IsContent.mono {text : List Char} {higher : Nat} (isContent : IsContent space text nodes height)
    (isHigher : height ≤ higher) : IsContent space text nodes higher where
  isClean := isContent.isClean
  isRead := by
    rcases isContent.isRead with ⟨pieces, cuts, adds⟩
    exact ⟨pieces, cuts, adds.mono isHigher⟩

theorem IsContent.append {first second : List Char} (isContent : IsContent space first nodes height)
    (isContentToo : IsContent space second more height) :
    IsContent space (first ++ second) (nodes ++ more) height where
  isClean := isClean_append.mpr ⟨isContent.isClean, isContentToo.isClean⟩
  isRead := by
    rcases isContent.isRead with ⟨pieces, cuts, adds⟩
    rcases isContentToo.isRead with ⟨others, cutsToo, addsToo⟩
    exact ⟨pieces ++ others, cuts.append cutsToo, adds.append addsToo⟩

theorem isContent_flatMap {α : Type} {write : α → List Char} {toNodes : α → List Node} {items : List α}
    (each : ∀ item ∈ items, IsContent space (write item) (toNodes item) height) :
    IsContent space (items.flatMap write) (items.flatMap toNodes) height := by
  induction items with
  | nil => exact isContent_nil.mono (Nat.zero_le _)
  | cons item items ih =>
      exact (each item (.head _)).append (ih fun other mem => each other (.tail _ mem))

/-- An element behind blanks: its tags with elements and then a text between them. -/
def element (indent : List Char) (own : String) (given : Option Attribute) (inner text : List Char) : List Char :=
  indent ++ ('<' :: own.toList ++ given.toList.flatMap Attribute.source ++ ['>'])
    ++ (inner ++ (text.flatMap escapeText ++ ('<' :: '/' :: own.toList ++ ['>'])))

theorem exists_element_eq (own : String) (given : Option Attribute) (inner text : List Char) :
    ∃ rest, ∀ indent, element indent own given inner text = indent ++ '<' :: (own.toList ++ rest) := by
  refine ⟨given.toList.flatMap Attribute.source ++ '>' ::
    (inner ++ (text.flatMap escapeText ++ ('<' :: '/' :: own.toList ++ ['>']))), fun indent => ?_⟩
  simp [element]

theorem isClean_source {one : Attribute} (isWritten : IsClean one.written) (isLegal : IsLegal one.value.toList) :
    IsClean one.source := by
  have isEscaped := isClean_flatMap isClean_escapeValue isLegal
  have marks : isAllowed ' ' = true ∧ isAllowed '=' = true ∧ isAllowed '"' = true := by decide
  simp [Attribute.source, isWritten, isEscaped, marks]

theorem isClean_element {indent inner text : List Char} (isBlank : IsBlank indent) (isName : IsElementName own)
    (isGiven : ∀ one ∈ given, IsClean one.written ∧ IsLegal one.value.toList) (isInner : IsClean inner)
    (isLegal : IsLegal text) : IsClean (element indent own given inner text) := by
  have isIndent : IsClean indent := isBlank.escaped ▸ isClean_flatMap isClean_escapeText isBlank.isLegal
  have isSource : IsClean (given.toList.flatMap Attribute.source) := by
    cases given with
    | none => exact isClean_nil
    | some one => simpa using isClean_source (isGiven one rfl).1 (isGiven one rfl).2
  have isEscaped := isClean_flatMap isClean_escapeText isLegal
  have marks : isAllowed '<' = true ∧ isAllowed '>' = true ∧ isAllowed '/' = true := by decide
  simp [element, isIndent, isName.isClean, isSource, isInner, isEscaped, marks]

/-- An element is cut into its blanks, its tags and what stands between them. -/
theorem cuts_element {indent inner : List Char} (isBlank : IsBlank indent) (isName : IsElementName own)
    (isNamed : ∀ one ∈ given, Practice.referring.isName one.written = true) (cuts : Cuts inner pieces)
    (text : List Char) :
    Cuts (element indent own given inner text)
      (runPieces indent ++ ([.openTag own.toList (given.toList.map Attribute.raw) false] ++ (pieces ++ runPieces text)
        ++ [.closeTag own.toList])) := by
  have opens := cuts_openTag isName.isName isNamed
  have closes : Cuts (text.flatMap escapeText ++ ('<' :: '/' :: own.toList ++ ['>']))
      (runPieces text ++ [.closeTag own.toList]) :=
    (cuts_closeTag isName.isName).afterRun text
  have whole : Cuts (indent.flatMap escapeText ++ (('<' :: own.toList ++ given.toList.flatMap Attribute.source ++ ['>'])
        ++ (inner ++ (text.flatMap escapeText ++ ('<' :: '/' :: own.toList ++ ['>'])))))
      (runPieces indent ++ ([.openTag own.toList (given.toList.map Attribute.raw) false]
        ++ (pieces ++ (runPieces text ++ [.closeTag own.toList])))) :=
    (opens.append (cuts.append closes)).afterRun indent
  rw [isBlank.escaped] at whole
  simpa only [element, List.append_assoc] using whole

/-- An element is read back inside another one. -/
theorem isContent_element {indent inner text : List Char} (isBlank : IsBlank indent) (isName : IsElementName own)
    (isSome : space ≠ "") (isGiven : ∀ one ∈ given, IsAttributeName one.written one.name ∧ IsLegal one.value.toList)
    (isInner : IsContent space inner nodes height) (isLegal : IsLegal text) :
    IsContent space (element indent own given inner text)
      (runNodes indent ++ [.element (plainTag space own given) (nodes ++ runNodes text)]) (height + 1) where
  isClean := isClean_element isBlank isName (fun one isOne => ⟨(isGiven one isOne).1.isClean, (isGiven one isOne).2⟩)
    isInner.isClean isLegal
  isRead := by
    rcases isInner.isRead with ⟨pieces, cuts, adds⟩
    have isProper : ∀ one ∈ given, IsAttributeName one.written one.name := fun one isOne => (isGiven one isOne).1
    have filled := adds.append ((adds_run text).mono (Nat.zero_le _))
    exact ⟨_, cuts_element isBlank isName (fun one isOne => (isProper one isOne).isName) cuts text,
      ((adds_run indent).mono (Nat.zero_le _)).append (adds_element isName isSome isProper filled)⟩

/-! ## Documents -/

/-- The attribute that declares the default namespace. -/
def spaceAttribute (space : String) : Attribute :=
  ⟨"xmlns".toList, ⟨some declarationSpace, "xmlns"⟩, space⟩

/-- The opening of a root that declares the default namespace. -/
def rootTag (space own : String) : Tag := ⟨own.toList, ⟨some space, own⟩, [([], space)], []⟩

@[simp]
theorem written_rootTag (space own : String) : (rootTag space own).written = own.toList := rfl

theorem isName_xmlns : Practice.referring.isName (spaceAttribute space).written = true := by
  have isName : Practice.referring.isName "xmlns".toList = true := by decide
  exact isName

theorem isClean_xmlns : IsClean (spaceAttribute space).written := by
  have isClean : IsClean "xmlns".toList := by decide
  exact isClean

theorem openElement_root (limit : Nat) (isName : IsElementName own) (isSome : space ≠ "")
    (isDeclared : isDeclarable .referring [] space = true) :
    (inside limit []).openElement own.toList [(spaceAttribute space).raw] =
      some (inside limit [{ tag := rootTag space own, scope := spaces space }]) := by
  have isWhole : QualifiedName.ofWritten? .referring "xmlns".toList = some ⟨[], "xmlns".toList⟩ := by decide
  have declares : QualifiedName.declaredMark? ⟨[], "xmlns".toList⟩ = some [] := by decide
  rw [Attribute.raw, spaceAttribute]
  generalize "xmlns".toList = written at isWhole declares
  have isRaw : rawAttributes? (bare limit) own.toList [(written, space.toList.flatMap escapeValue)] =
      some [⟨written, ⟨[], written⟩, .text, space.toList.map .char⟩] := by
    simp [rawAttributes?, value?_escaped, isWhole]
  have isSpace : declaredSpaces? (bare limit) [⟨written, ⟨[], written⟩, .text, space.toList.map .char⟩] =
      some [([], space)] := by
    simp [declaredSpaces?, declares, spaceOf?_chars, isDeclared]
  have noOther : ∀ scope, properAttributes? (bare limit) scope
      [⟨written, ⟨[], written⟩, .text, space.toList.map .char⟩] = some [] := by
    simp [properAttributes?, declares]
  have isScope : ([], space) :: Draft.scope { type := bare limit, stack := [] } = spaces space := rfl
  have shallow : ¬ Draft.deepest ≤ 0 := by decide
  simp [Draft.openElement, inside, isRaw, isSpace, noOther, isScope, shallow, isName.isWhole, resolve?_own isSome,
    DocumentType.allDistinct, Draft.areSensible, rootTag]

theorem close_root (limit : Nat) (tag : Tag) (scope : Scope) (nodes : List Node) :
    (inside limit [⟨tag, scope, nodes⟩]).close tag.written =
      some { inside limit [] with root := some (.element tag nodes.reverse) } := by
  simp [Draft.close, inside, Draft.insertElement]

theorem unifyLines_of_clean {text : List Char} (isClean : IsClean text) : Text.unifyLines text = text := by
  have onto : ∀ read, Text.unifyLinesOnto read text = read.reverse ++ text := by
    induction text with
    | nil => simp [Text.unifyLinesOnto]
    | cons c text ih =>
        intro read
        rw [isClean_cons] at isClean
        rw [Text.unifyLinesOnto, ih isClean.2]
        · simp
        · simp [isClean.1.2]
        · simp [isClean.1.2]
  exact onto []

/-- The pieces of a root and of its content are put together to the root. -/
theorem read_root (isName : IsElementName own) (isSome : space ≠ "")
    (isDeclared : isDeclarable .referring [] space = true) (adds : Adds space pieces nodes height)
    (fits : height < Draft.deepest) (readInside : Draft → List Char → Option Draft) :
    ([Piece.openTag own.toList [(spaceAttribute space).raw] false] ++ pieces ++ [Piece.closeTag own.toList]).foldlM
        (Draft.step readInside) (inside limit []) =
      some { inside limit [] with root := some (.element (rootTag space own) nodes) } := by
  have opened := openElement_root limit isName isSome isDeclared
  have filled := adds limit readInside { tag := rootTag space own, scope := spaces space } [] rfl
    (by simpa using fits)
  have closed := close_root limit (rootTag space own) (spaces space) (nodes.reverse ++ [])
  rw [List.foldlM_append, List.foldlM_append]
  simp only [List.foldlM_cons, List.foldlM_nil, Draft.step, opened, Option.bind_some, bind_pure,
    Bool.false_eq_true, if_false, Option.bind_eq_bind, filled]
  simpa using closed

/-- A text that begins with a tag has no document type before it. -/
theorem prologue?_tag {indent name : List Char} (isBlank : IsBlank indent)
    (isName : Practice.referring.isName name = true) (type : DocumentType) (fuel : Nat) (rest : List Char) :
    prologue? type (fuel + 1) (indent ++ '<' :: (name ++ rest)) = some (type, '<' :: (name ++ rest)) := by
  rcases exists_start isName with ⟨c, others, isWritten, noMark⟩
  simp only [List.mem_cons, List.not_mem_nil, or_false, not_or] at noMark
  have isText : skipSpace (indent ++ '<' :: c :: (others ++ rest)) = '<' :: c :: (others ++ rest) := by
    simp [skipSpace, List.dropWhile_append_of_pos isBlank.isSpace, isSpace]
  rw [isWritten, List.cons_append, prologue?, isText]
  simp [noMark]

/-- A text of an element that declares the default namespace is read as the element. -/
theorem rootOf?_element {indent inner text : List Char} (isBlank : IsBlank indent) (isName : IsElementName own)
    (isSome : space ≠ "") (isDeclared : isDeclarable .referring [] space = true)
    (isLegalSpace : IsLegal space.toList) (isInner : IsContent space inner nodes height) (isLegal : IsLegal text)
    (fits : height < Draft.deepest) :
    rootOf? .referring false (element indent own (some (spaceAttribute space)) inner text) =
      some (.element (rootTag space own) (nodes ++ runNodes text)) := by
  rcases isInner.isRead with ⟨pieces, cuts, adds⟩
  have isClean : IsClean (element indent own (some (spaceAttribute space)) inner text) := by
    refine isClean_element isBlank isName ?_ isInner.isClean isLegal
    rintro _ ⟨⟩
    exact ⟨isClean_xmlns, isLegalSpace⟩
  have allAllowed : (element indent own (some (spaceAttribute space)) inner text).all isAllowed = true :=
    List.all_eq_true.mpr fun c mem => (isClean c mem).1
  rcases exists_element_eq own (some (spaceAttribute space)) inner text with ⟨rest, isTag⟩
  have noBlank : IsBlank [] := List.forall_mem_nil _
  have isNamed : ∀ one ∈ some (spaceAttribute space), Practice.referring.isName one.written = true := by
    rintro _ ⟨⟩
    exact isName_xmlns
  have isPieces := (cuts_element noBlank isName isNamed cuts text).pieces?_eq
  rw [isTag, List.nil_append] at isPieces
  have isRead : ∀ limit, Draft.read { type := bare limit } ('<' :: (own.toList ++ rest)) =
      some { inside limit [] with root := some (.element (rootTag space own) (nodes ++ runNodes text)) } := by
    intro limit
    rw [Draft.read, practice_bare, isPieces]
    exact read_root isName isSome isDeclared (adds.append ((adds_run text).mono (Nat.zero_le _))) fits _
  have isText := fun limit fuel => prologue?_tag isBlank isName.isName (bare limit) fuel rest
  simp only [bare] at isText isRead
  rw [rootOf?, unifyLines_of_clean isClean, allAllowed, isTag]
  simp [isText, isRead]

/-- The declaration of a document in UTF-8. -/
def xmlDeclaration : List Char := "<?xml version=\"1.0\"?>".toList

/-- A declared document in UTF-8 is read from its bytes. -/
theorem rootOfBytes?_declared (text : List Char) :
    rootOfBytes? .referring (Text.Utf8.encodeChars (xmlDeclaration ++ text)) = rootOf? .referring false text := by
  have isBytes : Text.Utf8.encodeChars (xmlDeclaration ++ text) =
      Text.Utf8.encodeChars xmlDeclaration ++ Text.Utf8.encodeChars text := by
    simp [Text.Utf8.encodeChars]
  have isHead : Text.Utf8.encodeChars xmlDeclaration = [0x3C, 0x3F, 0x78, 0x6D, 0x6C, 0x20, 0x76, 0x65, 0x72, 0x73,
      0x69, 0x6F, 0x6E, 0x3D, 0x22, 0x31, 0x2E, 0x30, 0x22, 0x3F, 0x3E] := by
    decide
  have noMark : Text.Encoding.ofBeginning? (Text.Utf8.encodeChars (xmlDeclaration ++ text)) = none := by
    rw [isBytes, isHead]
    rfl
  -- the first bytes hold the whole declaration, however long the text is
  have isStart : ((Text.Utf8.encodeChars (xmlDeclaration ++ text)).take 1024).map (fun byte => Char.ofNat byte.toNat) =
      xmlDeclaration ++ ((Text.Utf8.encodeChars text).take 1003).map fun byte => Char.ofNat byte.toNat := by
    rw [isBytes, isHead]
    rfl
  have isDeclaration : ∀ others, declarationText? (xmlDeclaration ++ others) =
      some (" version=\"1.0\"".toList, others) := fun _ => rfl
  have isHeading : headingOf? .referring " version=\"1.0\"".toList = some {} := by decide
  have isEncoding : Text.Encoding.ofName? "utf-8" = some .utf8 := by decide
  have isRest : (Text.Utf8.encodeChars (xmlDeclaration ++ text)).drop (" version=\"1.0\"".toList.length + 7) =
      Text.Utf8.encodeChars text := by
    rw [isBytes, isHead]
    rfl
  rw [rootOfBytes?, noMark]
  simp only [isStart, isDeclaration, isHeading, isEncoding, isRest, Option.bind_eq_bind, Option.bind_some,
    Option.getD_none, Text.Encoding.decode?, Text.Utf8.decode?_encodeChars]

end Sparql.Xml
