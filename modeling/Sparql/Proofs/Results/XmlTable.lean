import Sparql.Proofs.Results.Table
import Sparql.Results.Xml

/-!
# Tables in XML

A table without variables has a document, with blanks of any kind before its tags. The bytes of the document are
read as its root, and the root as the table.
-/

namespace Sparql.Results.Xml

open Sparql.Xml

/-! ## Documents -/

/-- The namespace of the results vocabulary. -/
def vocabulary : String := "http://www.w3.org/2005/sparql-results#"

/-- The attribute that names a variable. -/
def nameAttribute (value : String) : Attribute := ⟨"name".toList, ⟨none, "name"⟩, value⟩

/-- The attribute of a literal that is not plain. -/
def literalAttribute (literal : Literal) : Option Attribute :=
  match literal.language, literal.datatype with
  | some language, _ => some ⟨"xml:lang".toList, languageName, language⟩
  | none, some datatype => some ⟨"datatype".toList, ⟨none, "datatype"⟩, datatype⟩
  | none, none => none

/-- The name, the attribute and the text of the element that describes a term. -/
def parts : Term → String × Option Attribute × String
  | .iri value => ("uri", none, value)
  | .blank label => ("bnode", none, label)
  | .literal literal => ("literal", literalAttribute literal, literal.text)
  | .variable name => ("variable", none, name)

/-- The blanks before a tag that stands inside some others. -/
abbrev Layout := Nat → List Char

/-- The description of a term. -/
def describe (layout : Layout) (term : Term) : List Char :=
  element (layout 4) (parts term).1 (parts term).2.1 [] (parts term).2.2.toList

/-- The element of a binding. -/
def writeBinding (layout : Layout) (binding : String × Term) : List Char :=
  element (layout 3) "binding" (some (nameAttribute binding.1)) (describe layout binding.2) (layout 3)

/-- The element of a row. -/
def writeRow (layout : Layout) (row : List (String × Term)) : List Char :=
  element (layout 2) "result" none (row.flatMap (writeBinding layout)) (layout 2)

/-- The element of a variable. -/
def writeVariable (layout : Layout) (name : String) : List Char :=
  element (layout 2) "variable" (some (nameAttribute name)) [] []

/-- The document of a table. -/
def tableDocument (layout : Layout) (names : List String) (rows : List (List (String × Term))) : List Char :=
  xmlDeclaration ++ element (layout 0) "sparql" (some (spaceAttribute vocabulary))
    (element (layout 1) "head" none (names.flatMap (writeVariable layout)) (layout 1)
      ++ element (layout 1) "results" none (rows.flatMap (writeRow layout)) (layout 1)) (layout 0)

/-! ## Nodes -/

/-- An element of the results vocabulary with some nodes and then a text. -/
def plainElement (own : String) (given : Option Attribute) (inner : List Node) (text : List Char) : Node :=
  .element (plainTag vocabulary own given) (inner ++ runNodes text)

/-- The element that describes a term. -/
def termNode (term : Term) : Node :=
  plainElement (parts term).1 (parts term).2.1 [] (parts term).2.2.toList

/-- The element of a binding. -/
def bindingNode (layout : Layout) (binding : String × Term) : Node :=
  plainElement "binding" (some (nameAttribute binding.1)) (runNodes (layout 4) ++ [termNode binding.2]) (layout 3)

/-- The element of a row. -/
def rowNode (layout : Layout) (row : List (String × Term)) : Node :=
  plainElement "result" none (row.flatMap fun binding => runNodes (layout 3) ++ [bindingNode layout binding]) (layout 2)

/-- The element of a variable. -/
def variableNode (name : String) : Node := plainElement "variable" (some (nameAttribute name)) [] []

/-- The element of the variables. -/
def headNode (layout : Layout) (names : List String) : Node :=
  plainElement "head" none (names.flatMap fun name => runNodes (layout 2) ++ [variableNode name]) (layout 1)

/-- The element of the rows. -/
def resultsNode (layout : Layout) (rows : List (List (String × Term))) : Node :=
  plainElement "results" none (rows.flatMap fun row => runNodes (layout 2) ++ [rowNode layout row]) (layout 1)

/-- The root of a table. -/
def rootNode (layout : Layout) (names : List String) (rows : List (List (String × Term))) : Node :=
  .element (rootTag vocabulary "sparql")
    (((runNodes (layout 1) ++ [headNode layout names]) ++ (runNodes (layout 1) ++ [resultsNode layout rows]))
      ++ runNodes (layout 0))

variable {layout : Layout} {names : List String} {rows : List (List (String × Term))}
  {row : List (String × Term)} {term : Term} {value : String}

theorem isElementName_of_mem {own : String}
    (isIn : own ∈ ["sparql", "head", "variable", "results", "result", "binding", "uri", "bnode", "literal"]) :
    IsElementName own := by
  have each : ∀ own ∈ ["sparql", "head", "variable", "results", "result", "binding", "uri", "bnode", "literal"],
      IsClean own.toList ∧ Practice.referring.isName own.toList = true ∧
        QualifiedName.ofWritten? .referring own.toList = some ⟨[], own.toList⟩ := by
    decide
  rcases each own isIn with ⟨isClean, isName, isWhole⟩
  exact ⟨isClean, isName, isWhole⟩

theorem isAttributeName_of_mem {written : String} {name : Name}
    (isIn : (written, name) ∈ [("name", ⟨none, "name"⟩), ("datatype", ⟨none, "datatype"⟩), ("xml:lang", languageName)]) :
    IsAttributeName written.toList name := by
  simp only [List.mem_cons, Prod.mk.injEq, List.not_mem_nil, or_false] at isIn
  rcases isIn with ⟨rfl, rfl⟩ | ⟨rfl, rfl⟩ | ⟨rfl, rfl⟩ <;>
    exact ⟨by decide, by decide, ⟨_, rfl, by decide, fun _ => rfl⟩, by decide⟩

theorem isGiven_nameAttribute (isLegal : IsLegal value.toList) :
    ∀ one ∈ some (nameAttribute value), IsAttributeName one.written one.name ∧ IsLegal one.value.toList := by
  rintro _ ⟨⟩
  exact ⟨isAttributeName_of_mem (.head _), isLegal⟩

theorem isGiven_parts (isAnswer : term.IsAnswer) :
    ∀ one ∈ (parts term).2.1, IsAttributeName one.written one.name ∧ IsLegal one.value.toList := by
  cases isAnswer with
  | iri _ => rintro _ ⟨⟩
  | blank _ => rintro _ ⟨⟩
  | plain _ => rintro _ ⟨⟩
  | tagged _ isTag =>
      rintro _ ⟨⟩
      exact ⟨isAttributeName_of_mem (.tail _ (.tail _ (.head _))), Literal.isLegal_of_isLanguageTag isTag⟩
  | typed _ isLegalName _ =>
      rintro _ ⟨⟩
      exact ⟨isAttributeName_of_mem (.tail _ (.head _)), isLegalName⟩

theorem isLegal_parts (isAnswer : term.IsAnswer) : IsLegal (parts term).2.2.toList := by
  cases isAnswer <;> assumption

theorem isElementName_parts (isAnswer : term.IsAnswer) : IsElementName (parts term).1 := by
  cases isAnswer <;> exact isElementName_of_mem (by simp [parts])

/-! ## Contents -/

section Contents

variable (isLayout : ∀ depth, IsBlank (layout depth))

include isLayout

theorem isContent_describe (isAnswer : term.IsAnswer) :
    IsContent vocabulary (describe layout term) (runNodes (layout 4) ++ [termNode term]) 1 :=
  isContent_element (isLayout 4) (isElementName_parts isAnswer) (by decide) (isGiven_parts isAnswer) isContent_nil
    (isLegal_parts isAnswer)

theorem isContent_writeBinding {name : String} (isLegal : IsLegal name.toList) (isAnswer : term.IsAnswer) :
    IsContent vocabulary (writeBinding layout (name, term)) (runNodes (layout 3) ++ [bindingNode layout (name, term)])
      2 :=
  isContent_element (isLayout 3) (isElementName_of_mem (by decide)) (by decide) (isGiven_nameAttribute isLegal)
    (isContent_describe isLayout isAnswer) (isLayout 3).isLegal

theorem isContent_writeRow (isRow : IsRow row) :
    IsContent vocabulary (writeRow layout row) (runNodes (layout 2) ++ [rowNode layout row]) 3 := by
  have areBindings := isContent_flatMap fun (binding : String × Term) isIn =>
    isContent_writeBinding isLayout (isRow.isLegal binding.1 (List.mem_map_of_mem isIn))
      (isRow.isAnswer binding.2 (List.mem_map_of_mem isIn))
  exact isContent_element (isLayout 2) (isElementName_of_mem (by decide)) (by decide) (by rintro _ ⟨⟩) areBindings
    (isLayout 2).isLegal

theorem isContent_head (areLegal : ∀ name ∈ names, IsLegal name.toList) :
    IsContent vocabulary (element (layout 1) "head" none (names.flatMap (writeVariable layout)) (layout 1))
      (runNodes (layout 1) ++ [headNode layout names]) 4 := by
  have isName : IsElementName "variable" := isElementName_of_mem (by decide)
  have isEmpty : IsContent vocabulary [] [] 0 := isContent_nil
  have areVariables := isContent_flatMap fun name isIn =>
    isContent_element (isLayout 2) isName (by decide) (isGiven_nameAttribute (areLegal name isIn)) isEmpty
      (List.forall_mem_nil _)
  exact (isContent_element (isLayout 1) (isElementName_of_mem (by decide)) (by decide) (by rintro _ ⟨⟩) areVariables
    (isLayout 1).isLegal).mono (by decide)

theorem isContent_results (areRows : ∀ row ∈ rows, IsRow row) :
    IsContent vocabulary (element (layout 1) "results" none (rows.flatMap (writeRow layout)) (layout 1))
      (runNodes (layout 1) ++ [resultsNode layout rows]) 4 :=
  isContent_element (isLayout 1) (isElementName_of_mem (by decide)) (by decide) (by rintro _ ⟨⟩)
    (isContent_flatMap fun row isIn => isContent_writeRow isLayout (areRows row isIn)) (isLayout 1).isLegal

/-- The bytes of a table's document are read as its root. -/
theorem rootOfBytes?_tableDocument (areLegal : ∀ name ∈ names, IsLegal name.toList)
    (areRows : ∀ row ∈ rows, IsRow row) :
    rootOfBytes? .referring (Text.Utf8.encodeChars (tableDocument layout names rows)) =
      some (rootNode layout names rows) := by
  rw [tableDocument, rootOfBytes?_declared]
  exact rootOf?_element (isLayout 0) (isElementName_of_mem (by decide)) (by decide) (by decide)
    (by decide) ((isContent_head isLayout areLegal).append (isContent_results isLayout areRows))
    (isLayout 0).isLegal (by decide)

end Contents

/-! ## Results -/

variable {text : List Char} {nodes : List Node} {named : Name}

theorem isText_of_mem_runNodes {node : Node} (isIn : node ∈ runNodes text) : node.isText = true := by
  unfold runNodes at isIn
  split at isIn
  · cases isIn
  · rw [List.mem_singleton.mp isIn]
    rfl

theorem isNamed_eq_false_of_isText {node : Node} (isText : node.isText = true) : node.isNamed named = false := by
  cases node with
  | element => cases isText
  | _ => rfl

theorem filter_runNodes : (runNodes text).filter (Node.isNamed named) = [] := by
  refine List.filter_eq_nil_iff.mpr fun node isIn isNamed => ?_
  rw [isNamed_eq_false_of_isText (isText_of_mem_runNodes isIn)] at isNamed
  cases isNamed

theorem find?_runNodes {isWanted : Node → Bool} (notText : ∀ node, node.isText = true → isWanted node = false) :
    (runNodes text).find? isWanted = none := by
  refine List.find?_eq_none.mpr fun node isIn isFound => ?_
  rw [notText node (isText_of_mem_runNodes isIn)] at isFound
  cases isFound

theorem leadingText_plainElement (own : String) (given : Option Attribute) (text : List Char) :
    (plainElement own given [] text).leadingText = text := by
  rcases text with _ | ⟨c, text⟩
  · rfl
  · exact List.append_nil _

/-- The elements of one name among blanks. -/
theorem filter_elements {α : Type} {toNode : α → Node} (isNamed : ∀ item, (toNode item).isNamed named = true)
    (indent : List Char) (items : List α) :
    ((items.flatMap fun item => runNodes indent ++ [toNode item]) ++ runNodes text).filter (Node.isNamed named) =
      items.map toNode := by
  have each : ∀ item, (runNodes indent ++ [toNode item]).filter (Node.isNamed named) = [toNode item] := by
    intro item
    simp [filter_runNodes, isNamed]
  rw [List.filter_append, filter_runNodes, List.append_nil, List.filter_flatMap]
  simp only [each]
  exact List.map_eq_flatMap.symm

theorem ofList_leadingText (own : String) (given : Option Attribute) (value : String) :
    String.ofList (plainElement own given [] value.toList).leadingText = value := by
  rw [leadingText_plainElement, String.ofList_toList]

theorem literalOf_termNode {literal : Literal} :
    Xml.term (termNode (.literal literal)) =
      (literalOf (termNode (.literal literal)) literal.text).map .literal := by
  have isTerm : Xml.term (termNode (.literal literal)) =
      (literalOf (termNode (.literal literal)) (String.ofList (termNode (.literal literal)).leadingText)).map .literal :=
    rfl
  rw [isTerm, termNode, parts, ofList_leadingText]

theorem term_termNode (isAnswer : term.IsAnswer) : Xml.term (termNode term) = built term.isUnbuildable term.normal := by
  cases isAnswer with
  | iri _ => exact congrArg (fun value => Except.ok (Term.iri value)) (ofList_leadingText "uri" none _)
  | blank _ => exact congrArg (fun label => Except.ok (Term.blank label)) (ofList_leadingText "bnode" none _)
  | plain _ =>
      rw [literalOf_termNode]
      rfl
  | @tagged text tag _ isTag =>
      have isLanguage : (some tag).filter (· ≠ "") = some tag := by
        simpa [Option.filter] using Literal.ne_empty_of_isLanguageTag isTag
      have isLiteral : literalOf (termNode (.literal ⟨text, some tag, none⟩)) text = .ok ⟨text, some tag, none⟩ := by
        have isGiven : (termNode (.literal ⟨text, some tag, none⟩)).attribute? languageName = some tag := rfl
        rw [literalOf, isGiven, isLanguage]
        simp only [Literal.ofText_tagged (Literal.ne_empty_of_isLanguageTag isTag), isTag, if_true]
        rfl
      rw [literalOf_termNode, isLiteral]
      rfl
  | @typed text datatype _ _ isSome =>
      have isDatatype : (some datatype).filter (· ≠ "") = some datatype := by simpa [Option.filter] using isSome
      have isLiteral : literalOf (termNode (.literal ⟨text, none, some datatype⟩)) text =
          Outcome.ofLiteral (Literal.ofText text none (some datatype)) := by
        have notTagged : (termNode (.literal ⟨text, none, some datatype⟩)).attribute? languageName = none := rfl
        have isGiven : (termNode (.literal ⟨text, none, some datatype⟩)).attribute? ⟨none, "datatype"⟩ =
            some datatype := rfl
        rw [literalOf, notTagged, isGiven, isDatatype]
        rfl
      rw [literalOf_termNode, isLiteral, ofLiteral_typed]

theorem binding_bindingNode (layout : Layout) (name : String) (isAnswer : term.IsAnswer) :
    binding (bindingNode layout (name, term)) = built term.isUnbuildable (.text name, term.normal) := by
  have isName : attributeValue (bindingNode layout (name, term)) "name" = .text name := rfl
  have isDescription : (bindingNode layout (name, term)).children.find? (!·.isText) = some (termNode term) := by
    have isChildren : (bindingNode layout (name, term)).children =
        runNodes (layout 4) ++ ([termNode term] ++ runNodes (layout 3)) := List.append_assoc ..
    rw [isChildren, List.find?_append, find?_runNodes (by simp)]
    rfl
  rw [binding, isDescription]
  simp only [isName, term_termNode isAnswer, map_built]

theorem solution_rowNode (layout : Layout) (isRow : IsRow row) :
    solution (rowNode layout row) = built (isUnbuildableRow row) (solutionOf row) := by
  have areBindings : (rowNode layout row).childrenNamed (name "binding") = row.map (bindingNode layout) :=
    filter_elements (fun _ => rfl) _ _
  have areRead := mapM_built fun (entry : String × Term) isIn =>
    binding_bindingNode layout entry.1 (isRow.isAnswer entry.2 (List.mem_map_of_mem isIn))
  have areBound : (keyed (row.map fun entry => (entry.1, entry.2.normal))).foldl
      (fun (solution : Solution) entry => solution.bind entry.1 entry.2) ⟨[]⟩ = solutionOf row := by
    have bound := foldl_bind [] (row.map fun entry => (entry.1, entry.2.normal))
      (by simpa [Function.comp_def] using isRow.distinct)
    rw [show keyed [] = [] from rfl] at bound
    rw [bound]
    simp [keyed, solutionOf]
  rw [solution, areBindings, List.mapM_map]
  refine (congrArg (Except.bind · _) areRead).trans (bind_built.trans ?_)
  refine congrArg (built _) (Eq.trans ?_ areBound)
  simp only [keyed, List.map_map, Function.comp_def]

theorem children_rootNode :
    (rootNode layout names rows).children = ((runNodes (layout 1) ++ [headNode layout names])
      ++ (runNodes (layout 1) ++ [resultsNode layout rows])) ++ runNodes (layout 0) := rfl

/-- The children of the root are looked up among the head and the results. -/
theorem child?_rootNode (named : Name) :
    (rootNode layout names rows).child? named =
      [headNode layout names, resultsNode layout rows].find? (Node.isNamed named) := by
  have noText : ∀ text, (runNodes text).find? (Node.isNamed named) = none :=
    fun _ => find?_runNodes fun _ => isNamed_eq_false_of_isText
  rw [Node.child?, children_rootNode]
  simp only [List.find?_append, noText, Option.none_or, Option.or_none]
  exact List.find?_append.symm

theorem declaredVariables_rootNode :
    declaredVariables (rootNode layout names rows) = names.map .text := by
  have isHead : (rootNode layout names rows).childrenNamed (name "head") = [headNode layout names] := by
    rw [Node.childrenNamed, children_rootNode]
    simp only [List.filter_append, filter_runNodes, List.nil_append, List.append_nil]
    rfl
  have areVariables : (headNode layout names).childrenNamed (name "variable") = names.map variableNode :=
    filter_elements (fun _ => rfl) _ _
  have areNamed : ∀ name, attributeValue (variableNode name) "name" = .text name := fun _ => rfl
  rw [declaredVariables, isHead, List.flatMap_singleton, areVariables, List.map_map]
  exact List.map_congr_left fun name _ => areNamed name

theorem ofRoot_rootNode (areRows : ∀ row ∈ rows, IsRow row) :
    ofRoot (rootNode layout names rows) = tableOf names rows := by
  have noBoolean : (rootNode layout names rows).child? (name "boolean") = none := child?_rootNode _
  have isResults : (rootNode layout names rows).child? (name "results") = some (resultsNode layout rows) :=
    child?_rootNode _
  have areResults : (resultsNode layout rows).childrenNamed (name "result") = rows.map (rowNode layout) :=
    filter_elements (fun _ => rfl) _ _
  have areSolutions := mapM_built fun row isIn => solution_rowNode layout (areRows row isIn)
  rw [ofRoot, noBoolean, isResults, declaredVariables_rootNode]
  simp only [areResults, List.mapM_map]
  exact (congrArg (Except.bind · _) areSolutions).trans bind_built

/-- The bytes of a table's document are read as the table. -/
theorem decode_tableDocument (isLayout : ∀ depth, IsBlank (layout depth))
    (areLegal : ∀ name ∈ names, IsLegal name.toList) (areRows : ∀ row ∈ rows, IsRow row) :
    Xml.decode (Text.Utf8.encodeChars (tableDocument layout names rows)) = tableOf names rows := by
  simp only [Xml.decode, rootOfBytes?_tableDocument isLayout areLegal areRows, ofRoot_rootNode areRows]

end Sparql.Results.Xml
