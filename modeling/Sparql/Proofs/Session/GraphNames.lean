import Sparql.Proofs.Session.Refusal

/-!
# What names a graph

A graph that is read from, loaded into or made is given as an IRI. The graph around a group and the endpoint of a
federated part may be variables, too, and are read with a check of their own. Both checks accept the same IRIs and
the same texts as long as no variable is meant. Only the former one turns all literals away: to the latter a literal
is a text, so the IRI with the text of the literal is taken, unless the literal denotes nothing.
-/

namespace Sparql

open Outcome

namespace Value

/-- Of what means no variable, is no blank node and no literal, both checks take the same for the same IRIs. -/
theorem asResource_eq_ok_iff {value : Value} (notVariable : value.isVariable = false)
    (isNamed : ∀ term, value = .term term → term.isBlank = false ∧ term.isLiteral = false) (term : Term) :
    value.asResource = .ok term ↔ ∃ iri, term = .iri iri ∧ value.asIri = .ok iri := by
  cases value with
  | term given =>
      rcases isNamed given rfl with ⟨notBlank, notLiteral⟩
      cases given with
      | iri name => simp [asResource, asIri, eq_comm]
      | blank label => cases notBlank
      | literal literal => cases notLiteral
      | «variable» name => cases notVariable
  | text name =>
      have notName : Sparql.isVariableName name.toList = false := notVariable
      simp only [asResource, asIri, notName, Bool.false_eq_true, if_false]
      split_ifs <;> simp [refuse, eq_comm]
  | _ => simp [asResource, asIri, refuse]

variable (literal : Literal)

theorem asIri_literal :
    (term (.literal literal)).asIri = .error (.construction (.notIri (term (.literal literal)))) := rfl

theorem asResource_literal : (term (.literal literal)).asResource =
    if literal.denotesNothing then .error (.construction (.notResource (term (.literal literal))))
    else .ok (.iri literal.text) := rfl

/-- The first value that is no IRI is refused. -/
theorem mapM_asIri_of_literal {accepted others : List Value} (areAccepted : ∀ value ∈ accepted, ∃ iri, value.asIri = .ok iri) :
    (accepted ++ term (.literal literal) :: others).mapM asIri =
      .error (.construction (.notIri (term (.literal literal)))) := by
  induction accepted with
  | nil =>
      rw [List.nil_append, List.mapM_cons, asIri_literal]
      rfl
  | cons value accepted ih =>
      simp only [List.mem_cons, forall_eq_or_imp] at areAccepted
      rcases areAccepted with ⟨⟨iri, isIri⟩, areAccepted⟩
      rw [List.cons_append, List.mapM_cons, isIri, ih areAccepted]
      rfl

end Value

namespace Session

open UpdateOperation

variable {store : Store} {index : Nat} {record : QueryRecord} {arguments other rest otherRest : Arguments}
  {value otherValue silent block : Value} {values : List Value} {handed : Option Block} {failure : Failure}

/-! ## Calls that name a graph or an endpoint -/

/-- The parameter of the graph around a group. -/
abbrev graphParameter : Parameter := ⟨"graph_iri_or_var", none⟩

/-- The parameters behind the endpoint of a federated part. -/
abbrev serviceParameters : List Parameter := [⟨"silent", some (.bool false)⟩, blockParameter]

theorem graphCall_eq (given : arguments.single graphParameter = .ok value) :
    queryCall index "graph" arguments none = changeCall index fun clauses => clauses.setGraph value := by
  have isChange : Clauses.change? "graph" arguments =
      some fun clauses => arguments.single graphParameter >>= clauses.setGraph := rfl
  rw [queryCall_of_change isChange, given]
  rfl

theorem graphCall_of_error (found : store.queries[index]? = some record)
    (given : arguments.single graphParameter = .ok value) (refused : value.asResource = .error failure) :
    perform (queryCall index "graph" arguments none) store = (.error failure, store) := by
  have failed : record.clauses.setGraph value = .error failure := by
    rw [Clauses.setGraph, refused]
    rfl
  rw [graphCall_eq given, changeCall, perform_bind_ok (perform_query_of_some found), failed]
  rfl

/-- The graph is all that matters of the argument that names it. -/
theorem graphCall_congr (given : arguments.single graphParameter = .ok value)
    (otherGiven : other.single graphParameter = .ok otherValue) (same : value.asResource = otherValue.asResource) :
    queryCall index "graph" arguments none = queryCall index "graph" other none := by
  rw [graphCall_eq given, graphCall_eq otherGiven]
  unfold Clauses.setGraph
  rw [same]

/-- An endpoint is turned down before the group that stands in the arguments is looked at. -/
theorem serviceCall_of_error (given : endpointOf arguments = .ok (value, values, rest))
    (named : rest.options serviceParameters = .ok [silent, block]) (refused : value.asResource = .error failure) :
    perform (queryCall index "service" arguments handed) store = (.error failure, store) := by
  change perform (serviceCall index arguments handed) store = _
  unfold serviceCall Session.options
  rw [perform_ofOutcome_bind_ok given, perform_ofOutcome_bind_ok named, refused]
  rfl

/-- The endpoint is all that matters of the argument that names it. -/
theorem serviceCall_congr (given : endpointOf arguments = .ok (value, values, rest))
    (otherGiven : endpointOf other = .ok (otherValue, values, otherRest))
    (named : rest.options serviceParameters = .ok [silent, block])
    (otherNamed : otherRest.options serviceParameters = .ok [silent, block])
    (same : value.asResource = otherValue.asResource) :
    perform (queryCall index "service" arguments handed) store =
      perform (queryCall index "service" other handed) store := by
  change perform (serviceCall index arguments handed) store = perform (serviceCall index other handed) store
  unfold serviceCall Session.options
  rw [perform_ofOutcome_bind_ok given, perform_ofOutcome_bind_ok otherGiven, perform_ofOutcome_bind_ok named,
    perform_ofOutcome_bind_ok otherNamed, same]

theorem fromCall_of_error (found : store.queries[index]? = some record)
    (given : arguments.onlyPositions = .ok values) (notEmpty : values ≠ [])
    (refused : values.mapM Value.asIri = .error failure) :
    perform (queryCall index "from_" arguments none) store = (.error failure, store) := by
  have isChange : Clauses.change? "from_" arguments =
      some fun clauses => arguments.onlyPositions >>= clauses.addFromGraphs := rfl
  have failed : record.clauses.addFromGraphs values = .error failure := by
    unfold Clauses.addFromGraphs
    rw [if_neg (by simpa using notEmpty), refused]
    rfl
  rw [queryCall_of_change isChange, changeCall, perform_bind_ok (perform_query_of_some found), given]
  change perform (ofOutcome (record.clauses.addFromGraphs values) >>= _) store = _
  rw [failed]
  rfl

/-! ## Both checks -/

/-- The two checks take the same values for IRIs, and for the same ones, except for literals. A list of graphs to read,
a document to load and a graph to be made are refused if they are literals. A literal as the graph around a group or as
the endpoint of a federated part is refused if it denotes nothing; any other one stands there for the IRI with its
text. -/
theorem coercions_of_graph_names (found : store.queries[index]? = some record) :
    (∀ value : Value, value.isVariable = false →
      (∀ term, value = .term term → term.isBlank = false ∧ term.isLiteral = false) →
      ∀ term, value.asResource = .ok term ↔ ∃ iri, term = .iri iri ∧ value.asIri = .ok iri) ∧
    ∀ literal : Literal,
      let value := Value.term (.literal literal)
      let named := Value.term (.iri literal.text)
      value.asIri = .error (.construction (.notIri value)) ∧
      value.asResource =
        (if literal.denotesNothing then .error (.construction (.notResource value)) else named.asResource) ∧
      (∀ arguments, arguments.single graphParameter = .ok value →
        perform (queryCall index "graph" arguments none) store =
          if literal.denotesNothing then (.error (.construction (.notResource value)), store)
          else perform (queryCall index "graph" ⟨[named], []⟩ none) store) ∧
      (∀ arguments values rest silent block handed, endpointOf arguments = .ok (value, values, rest) →
        rest.options serviceParameters = .ok [silent, block] →
        if literal.denotesNothing then
          perform (queryCall index "service" arguments handed) store = (.error (.construction (.notResource value)), store)
        else ∀ other otherRest, endpointOf other = .ok (named, values, otherRest) →
          otherRest.options serviceParameters = .ok [silent, block] →
          perform (queryCall index "service" arguments handed) store =
            perform (queryCall index "service" other handed) store) ∧
      (∀ arguments accepted others, arguments.onlyPositions = .ok (accepted ++ value :: others) →
        (∀ value ∈ accepted, ∃ iri, value.asIri = .ok iri) →
        perform (queryCall index "from_" arguments none) store = (.error (.construction (.notIri value)), store)) ∧
      (∀ arguments into silent,
        arguments.bind [⟨"source", none⟩, ⟨"into", some .null⟩, ⟨"silent", some (.bool false)⟩] = .ok [value, into, silent] →
        ofCall "Load" arguments = .error (.construction (.notIri value))) ∧
      ∀ arguments silent, arguments.bind [⟨"graph", none⟩, ⟨"silent", some (.bool false)⟩] = .ok [value, silent] →
        ofCall "Create" arguments = .error (.construction (.notIri value)) := by
  refine ⟨fun value notVariable isNamed => Value.asResource_eq_ok_iff notVariable isNamed, ?_⟩
  intro literal value named
  have notIri : value.asIri = .error (.construction (.notIri value)) := Value.asIri_literal literal
  have resource := Value.asResource_literal literal
  refine ⟨notIri, resource, ?_, ?_, ?_, ?_, ?_⟩
  · intro arguments given
    split_ifs at resource ⊢ with denotesNothing
    · exact graphCall_of_error found given resource
    · have sameCall : queryCall index "graph" arguments none = queryCall index "graph" ⟨[named], []⟩ none :=
        graphCall_congr given rfl resource
      rw [sameCall]
  · intro arguments values rest silent block handed given areNamed
    split_ifs at resource ⊢ with denotesNothing
    · exact serviceCall_of_error given areNamed resource
    · intro other otherRest otherGiven otherNamed
      exact serviceCall_congr given otherGiven areNamed otherNamed resource
  · intro arguments accepted others given areAccepted
    exact fromCall_of_error found given (by simp) (Value.mapM_asIri_of_literal literal areAccepted)
  · intro arguments into silent bound
    have failed : load value into silent = .error (.construction (.notIri value)) := by
      rw [load, notIri]
      rfl
    change arguments.bind _ >>= _ = _
    rw [bound]
    exact failed
  · intro arguments silent bound
    have failed : create value silent = .error (.construction (.notIri value)) := by
      rw [create, notIri]
      rfl
    change arguments.bind _ >>= _ = _
    rw [bound]
    exact failed

/-- A literal with the text of an IRI. -/
def namedLiteral : Value := .term (.literal (.plain "http://g"))

/-- A session with a query. -/
def startedQuery : Store := { queries := [selectAll] }

/-- The graph around a group may be given as a literal, but no graph to read may. -/
theorem coercions_of_namedLiteral :
    perform (queryCall 0 "graph" ⟨[namedLiteral], []⟩ none) startedQuery =
      perform (queryCall 0 "graph" ⟨[.term (.iri "http://g")], []⟩ none) startedQuery ∧
    perform (queryCall 0 "from_" ⟨[.text "http://h", namedLiteral], []⟩ none) startedQuery =
      (.error (.construction (.notIri namedLiteral)), startedQuery) ∧
    ofCall "Load" ⟨[namedLiteral], []⟩ = .error (.construction (.notIri namedLiteral)) := by
  have denotesSome : (Literal.plain "http://g").denotesNothing = false := by decide
  have found : startedQuery.queries[0]? = some selectAll := rfl
  rcases (coercions_of_graph_names found).2 (.plain "http://g") with ⟨-, -, graph, -, graphs, source, -⟩
  refine ⟨?_, ?_, ?_⟩
  · rw [graph ⟨[namedLiteral], []⟩ rfl, if_neg (by simp [denotesSome])]
    rfl
  · exact graphs ⟨[.text "http://h", namedLiteral], []⟩ [.text "http://h"] [] rfl (by simp [Value.asIri])
  · exact source ⟨[namedLiteral], []⟩ .null (.bool false) rfl

/-- A literal is no IRI for the one check and an IRI for the other, which is that of graphs and of endpoints. -/
theorem namedLiteral_names_graph :
    namedLiteral.isVariable = false ∧
    namedLiteral.asIri = .error (.construction (.notIri namedLiteral)) ∧
    namedLiteral.asResource = .ok (.iri "http://g") ∧
    (∃ after, perform (queryCall 0 "graph" ⟨[namedLiteral], []⟩ none) startedQuery = (.ok (.query 0), after) ∧
      after.text 0 = .ok "SELECT * WHERE \x7b GRAPH <http://g> \x7b \x7d \x7d") ∧
    ∃ after, perform (queryCall 0 "service" ⟨[namedLiteral, .tuple [.text "s", .text "p", .text "o"]], []⟩ none)
        startedQuery = (.ok (.query 0), after) ∧
      after.text 0 = .ok "SELECT * WHERE \x7b SERVICE <http://g> \x7b ?s ?p ?o . \x7d \x7d" :=
  ⟨rfl, rfl, rfl, ⟨_, rfl, rfl⟩, ⟨_, rfl, rfl⟩⟩

end Session

end Sparql
