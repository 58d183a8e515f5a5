import Mathlib.Logic.Relation
import Sparql.Proofs.Results.XmlTable
import Sparql.Proofs.Xml.Comment

/-!
# Comments in results

A result in XML is read alike with comments between its elements, behind the term of a binding, and behind the text
of a term or of a truth value. A comment before the term of a binding is taken for the term, and one before the end
of a text hides the rest of it.
-/

namespace Sparql.Xml

/-! ## Answers of nodes that are read alike -/

variable {reading : Reading} {node twin : Node}

namespace Node

theorem Alike.attribute?_eq (alike : Alike reading node twin) (name : Name) :
    twin.attribute? name = node.attribute? name := by
  cases alike <;> rfl

theorem Alike.isNamed_eq (alike : Alike reading node twin) (name : Name) : twin.isNamed name = node.isNamed name := by
  cases alike <;> rfl

theorem isElement_of_isNamed {name : Name} (isNamed : node.isNamed name = true) : node.isElement = true := by
  cases node <;> first | rfl | cases isNamed

/-- The children of one name are alike, one by one. -/
theorem Alike.childrenNamed (alike : Alike reading node twin) (name : Name) :
    List.Forall₂ (Alike reading) (node.childrenNamed name) (twin.childrenNamed name) := by
  cases alike with
  | same => exact List.forall₂_same.mpr fun node _ => .same node
  | @element tag children others elements _ _ =>
      have onlyElements (nodes : List Node) :
          nodes.filter (isNamed name) = (nodes.filter isElement).filter (isNamed name) := by
        rw [List.filter_filter]
        refine List.filter_congr fun one _ => ?_
        cases isNamed : one.isNamed name with
        | false => rfl
        | true => rw [isElement_of_isNamed isNamed]; rfl
      rw [Node.childrenNamed, Node.childrenNamed]
      change List.Forall₂ _ (children.filter _) (others.filter _)
      rw [onlyElements, onlyElements others]
      refine List.rel_filter (fun one two isAlike => ?_) elements
      exact Bool.eq_iff_iff.mp (isAlike.isNamed_eq name).symm

theorem child?_eq_head? (node : Node) (name : Name) : node.child? name = (node.childrenNamed name).head? :=
  List.head?_filter.symm

/-- The first children of one name are alike. -/
theorem Alike.child? (alike : Alike reading node twin) (name : Name) :
    Option.Rel (Alike reading) (node.child? name) (twin.child? name) := by
  rw [child?_eq_head?, child?_eq_head?]
  have areAlike := alike.childrenNamed name
  generalize node.childrenNamed name = named, twin.childrenNamed name = others at areAlike
  cases areAlike with
  | nil => exact .none
  | cons isAlike => exact .some isAlike

end Node

end Sparql.Xml

namespace Sparql.Results.Xml

open Sparql.Xml

/-- What is asked for in a result: the first child of a binding, and the text of a term or of a truth value. -/
def answers : Reading where
  asksFirst tag := tag.name = name "binding"
  asksText tag := tag.name.own ∈ ["uri", "bnode", "literal"] ∨ tag.name = name "boolean"

variable {node twin : Node}

theorem attributeValue_alike (alike : Node.Alike answers node twin) (own : String) :
    attributeValue twin own = attributeValue node own := by
  rw [attributeValue, attributeValue, alike.attribute?_eq]

theorem term_alike (alike : Node.Alike answers node twin) : term twin = term node := by
  cases alike with
  | same => rfl
  | @element tag children others _ _ text =>
      have sameText (isTerm : tag.name.own ∈ ["uri", "bnode", "literal"]) :
          (Node.element tag others).leadingText = (Node.element tag children).leadingText :=
        (text (.inl isTerm)).symm
      have sameLiteral (text : String) :
          literalOf (.element tag others) text = literalOf (.element tag children) text := rfl
      simp only [term]
      split
      · rw [sameText (by simp [*])]
      · rw [sameText (by simp [*])]
      · rw [sameText (by simp [*]), sameLiteral]
      · rfl

theorem booleanOf_alike (alike : Node.Alike answers node twin) (isNamed : node.isNamed (name "boolean") = true) :
    booleanOf twin = booleanOf node := by
  cases alike with
  | same => rfl
  | @element tag children others _ _ text =>
      have sameText : (Node.element tag others).leadingText = (Node.element tag children).leadingText :=
        (text (.inr (eq_of_beq isNamed))).symm
      rw [booleanOf, booleanOf, sameText]

theorem binding_eq (tag : Tag) (children : List Node) :
    binding (.element tag children) =
      let name := attributeValue (.element tag children) "name"
      (Node.first? children).elim (reject (.emptyBinding name)) fun description =>
        (term description).map fun term => (name, term) := by
  have isFirst : (Node.element tag children).children.find? (!·.isText) = Node.first? children := rfl
  rw [binding, isFirst]
  cases Node.first? children <;> rfl

theorem binding_alike (alike : Node.Alike answers node twin) (isNamed : node.isNamed (name "binding") = true) :
    binding twin = binding node := by
  have sameName := attributeValue_alike alike "name"
  cases alike with
  | same => rfl
  | @element tag children others _ first _ =>
      have isFirst := first (eq_of_beq isNamed)
      rw [binding_eq, binding_eq, sameName]
      generalize Node.first? children = one, Node.first? others = other at isFirst
      cases isFirst with
      | none => rfl
      | some isAlike => simp only [Option.elim_some, term_alike isAlike]

/-- A traversal comes to the same on lists whose items come to the same. -/
theorem mapM_eq_of_forall₂ {α β : Type} {f : α → Outcome β} {items others : List α}
    (areSame : List.Forall₂ (fun one other => f other = f one) items others) : others.mapM f = items.mapM f := by
  induction areSame with
  | nil => rfl
  | cons isSame _ ih => rw [List.mapM_cons, List.mapM_cons, isSame, ih]

/-- The children of a name are alike, and they have the name. -/
theorem forall₂_named (alike : Node.Alike answers node twin) (own : String) :
    List.Forall₂ (fun one other => one.isNamed (name own) = true ∧ Node.Alike answers one other)
      (node.childrenNamed (name own)) (twin.childrenNamed (name own)) :=
  (List.forall₂_and_left _ _).mpr ⟨fun _ isIn => (List.mem_filter.mp isIn).2, alike.childrenNamed (name own)⟩

theorem solution_alike (alike : Node.Alike answers node twin) : solution twin = solution node := by
  rw [solution, solution]
  have areBindings : (twin.childrenNamed (name "binding")).mapM binding =
      (node.childrenNamed (name "binding")).mapM binding :=
    mapM_eq_of_forall₂ ((forall₂_named alike "binding").imp fun _ _ isAlike => binding_alike isAlike.2 isAlike.1)
  rw [areBindings]

theorem declaredVariables_alike (alike : Node.Alike answers node twin) :
    declaredVariables twin = declaredVariables node := by
  have areVariables : List.Forall₂ (Node.Alike answers)
      ((node.childrenNamed (name "head")).flatMap (·.childrenNamed (name "variable")))
      ((twin.childrenNamed (name "head")).flatMap (·.childrenNamed (name "variable"))) :=
    List.rel_flatMap (alike.childrenNamed (name "head")) fun _ _ isAlike => isAlike.childrenNamed (name "variable")
  rw [declaredVariables, declaredVariables, ← List.forall₂_eq_eq_eq, List.forall₂_map_left_iff,
    List.forall₂_map_right_iff]
  exact areVariables.flip.imp fun _ _ isAlike => attributeValue_alike isAlike "name"

/-- Documents that are read alike have the same result. -/
theorem ofRoot_alike (alike : Node.Alike answers node twin) : ofRoot twin = ofRoot node := by
  have isBoolean := alike.child? (name "boolean")
  have isResults := alike.child? (name "results")
  rw [ofRoot, ofRoot, declaredVariables_alike alike]
  rcases isOne : node.child? (name "boolean") with _ | one
  · rw [isOne] at isBoolean
    generalize twin.child? (name "boolean") = noBoolean at isBoolean
    cases isBoolean
    generalize node.child? (name "results") = one, twin.child? (name "results") = other at isResults
    cases isResults with
    | none => rfl
    | some isAlike =>
        have areSolutions := mapM_eq_of_forall₂
          ((isAlike.childrenNamed (name "result")).imp fun _ _ isAlike => solution_alike isAlike)
        simp only [areSolutions]
  · have isNamed : one.isNamed (name "boolean") = true := List.find?_some isOne
    rw [isOne] at isBoolean
    generalize twin.child? (name "boolean") = other at isBoolean
    cases isBoolean with
    | some isAlike => exact booleanOf_alike isAlike isNamed

/-! ## Results with and without comments -/

instance : DecidablePred answers.asksFirst := fun tag => inferInstanceAs (Decidable (tag.name = name "binding"))

instance : DecidablePred answers.asksText :=
  fun tag => inferInstanceAs (Decidable (tag.name.own ∈ ["uri", "bnode", "literal"] ∨ tag.name = name "boolean"))

theorem exists_root_of_comments {isStandalone : Bool} {text commented : List Char} {root : Node}
    (gains : Relation.ReflTransGen (GainsComment answers isStandalone) text commented)
    (isRoot : rootOf? .referring isStandalone text = some root) :
    ∃ other, rootOf? .referring isStandalone commented = some other ∧ ofRoot other = ofRoot root := by
  induction gains with
  | refl => exact ⟨root, isRoot, rfl⟩
  | tail _ gains ih =>
      rcases ih with ⟨one, isOne, isSame⟩
      rcases exists_root_commented gains isOne with ⟨other, isOther, alike⟩
      exact ⟨other, isOther, (ofRoot_alike alike).trans isSame⟩

/-- A body with a result has the same result when comments are put into its document, any number of them, at places
where they are passed over. -/
theorem decode_commented {body other : List UInt8} {isStandalone : Bool} {text commented : List Char}
    {result : QueryResult} (isBody : documentOf? body = some (isStandalone, text))
    (isOther : documentOf? other = some (isStandalone, commented))
    (gains : Relation.ReflTransGen (GainsComment answers isStandalone) text commented)
    (isDecoded : decode body = .ok result) : decode other = .ok result := by
  rw [decode, rootOfBytes?_eq, isBody, Option.bind_some] at isDecoded
  rw [decode, rootOfBytes?_eq, isOther, Option.bind_some]
  dsimp only at isDecoded ⊢
  rcases isRoot : rootOf? .referring isStandalone text with _ | root
  · rw [isRoot] at isDecoded
    cases isDecoded
  · rw [isRoot] at isDecoded
    rcases exists_root_of_comments gains isRoot with ⟨twin, isTwin, isSame⟩
    rw [isTwin]
    exact isSame.trans isDecoded

/-- The document of a table that binds a variable to a link, up to the term. -/
def linkOpening : List Char :=
  ["<sparql xmlns=\"", "http://www.w3.org/", "2005/sparql-results#", "\">", "<head>", "<variable name=\"x\">",
    "</variable>", "</head>", "<results>", "<result>", "<binding name=\"x\">"].flatMap String.toList

/-- The rest of the document behind the term. -/
def linkClosing : List Char := ["</binding>", "</result>", "</results>", "</sparql>"].flatMap String.toList

theorem decode_link :
    decode (Text.Utf8.encodeChars (xmlDeclaration ++ linkOpening ++ "<uri>http://a</uri>".toList ++ linkClosing)) =
      .ok (.solutions [.text "x"] [⟨[(.text "x", .iri "http://a")]⟩]) := by
  have isDocument : xmlDeclaration ++ linkOpening ++ "<uri>http://a</uri>".toList ++ linkClosing =
      tableDocument (fun _ => []) ["x"] [[("x", .iri "http://a")]] := by
    decide +kernel
  have noLayout : ∀ _ : Nat, IsBlank [] := fun _ => List.forall_mem_nil _
  have isRow : IsRow [("x", .iri "http://a")] :=
    ⟨by decide, by decide, List.forall_mem_singleton.mpr (.iri (by decide))⟩
  rw [isDocument]
  exact decode_tableDocument noLayout (by decide) (List.forall_mem_singleton.mpr isRow)

/-- The document of the link with comments behind the text of the term and behind the term. -/
theorem decode_commentedLink :
    decode (Text.Utf8.encodeChars (xmlDeclaration ++ linkOpening ++
        "<uri>http://a<!-- an address --></uri><!--<uri>http://b</uri>-->".toList ++ linkClosing)) =
      .ok (.solutions [.text "x"] [⟨[(.text "x", .iri "http://a")]⟩]) := by
  have behindText : GainsComment answers false
      (linkOpening ++ "<uri>http://a".toList ++ ("</uri>".toList ++ linkClosing))
      (linkOpening ++ "<uri>http://a".toList ++ commentSource " an address ".toList ++
        ("</uri>".toList ++ linkClosing)) :=
    .intro (by decide +kernel) (by decide +kernel)
  have behindTerm : GainsComment answers false
      (linkOpening ++ "<uri>http://a".toList ++ commentSource " an address ".toList ++ "</uri>".toList ++ linkClosing)
      (linkOpening ++ "<uri>http://a".toList ++ commentSource " an address ".toList ++ "</uri>".toList ++
        commentSource "<uri>http://b</uri>".toList ++ linkClosing) :=
    .intro (by decide +kernel) (by decide +kernel)
  rw [List.append_assoc _ "</uri>".toList linkClosing] at behindTerm
  have isBody : documentOf? (Text.Utf8.encodeChars (xmlDeclaration ++ linkOpening ++ "<uri>http://a</uri>".toList ++
      linkClosing)) = some (false, linkOpening ++ "<uri>http://a".toList ++ ("</uri>".toList ++ linkClosing)) := by
    decide +kernel
  have isOther : documentOf? (Text.Utf8.encodeChars (xmlDeclaration ++ linkOpening ++
      "<uri>http://a<!-- an address --></uri><!--<uri>http://b</uri>-->".toList ++ linkClosing)) =
        some (false, linkOpening ++ "<uri>http://a".toList ++ commentSource " an address ".toList ++ "</uri>".toList ++
          commentSource "<uri>http://b</uri>".toList ++ linkClosing) := by
    decide +kernel
  exact decode_commented isBody isOther (.tail (.single behindText) behindTerm) decode_link

/-- A comment before the term of a binding is taken for the term. -/
theorem decode_commentBeforeTerm :
    let comment := " an address ".toList
    let rest := "<uri>http://a</uri>".toList ++ linkClosing
    let body := Text.Utf8.encodeChars (xmlDeclaration ++ (linkOpening ++ rest))
    let other := Text.Utf8.encodeChars (xmlDeclaration ++ (linkOpening ++ commentSource comment ++ rest))
    IsCommentText comment ∧
      (∃ stack ∈ openElements? false (lengthLimit (linkOpening ++ rest)) linkOpening, stack ≠ []) ∧
      decode body = .ok (.solutions [.text "x"] [⟨[(.text "x", .iri "http://a")]⟩]) ∧
      decode other = misuse .badValue := by
  intro comment rest body other
  have isInside : ((openElements? false (lengthLimit (linkOpening ++ rest)) linkOpening).any (!·.isEmpty)) = true := by
    decide +kernel
  have isFault : Outcome.fault? (decode other) = some .badValue := by decide +kernel
  refine ⟨by decide +kernel, ?_, ?_, Outcome.eq_misuse_of_fault? isFault⟩
  · simpa [Option.any_eq_true] using isInside
  · simpa only [body, rest, List.append_assoc] using decode_link

end Sparql.Results.Xml
