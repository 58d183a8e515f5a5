import Sparql.Proofs.Exchange.Parameters
import Sparql.Proofs.Query.CacheKey
import Sparql.Proofs.Session.Frozen
import Sparql.Proofs.Session.Memo

/-!
# Graphs that a query names

A query names its graphs in three places: in its text, in its cache key, and in the parameters of its requests.
The last two follow the clauses at any time. The text does so until the query is answered: graphs that are added
later stand in the key and in the parameters, and the text that goes with them does not name them.
-/

namespace Sparql

open Session

/-! ## Keys -/

namespace CacheKey

/-- A key names the first of some graphs exactly if there are no others among them. -/
theorem names_iff {text : String} {first graphs : List String} (isPrefix : first <+: graphs) :
    (∀ name, name ∈ (ofText text graphs).graphs ↔ ∃ graph ∈ first, name = "sparql:graph:" ++ graph) ↔
      ∀ graph ∈ graphs, graph ∈ first := by
  simp only [mem_graphs_ofText]
  constructor
  · intro same graph mem
    rcases (same ("sparql:graph:" ++ graph)).mp ⟨graph, mem, rfl⟩ with ⟨other, isFirst, sameName⟩
    rwa [String.append_right_inj _ |>.mp sameName]
  · intro noOthers name
    exact ⟨fun ⟨graph, mem, isName⟩ => ⟨graph, noOthers graph mem, isName⟩,
      fun ⟨graph, mem, isName⟩ => ⟨graph, isPrefix.subset mem, isName⟩⟩

end CacheKey

/-! ## What a query names -/

namespace Store

variable {during : Store} {index : Nat} {record : QueryRecord} {text : String}

/-- Some graphs are those that the key of a query and its requests name. -/
structure Names (store : Store) (index : Nat) (text : String) (graphs : List String) : Prop where
  key : perform (cacheKey index) store = (.ok (.ofText text graphs), store)
  sent : ∀ client site, store.client = some client → client.destination = .http site →
    Address.IsPlain site.endpoint.toList → site.settings.graphParameters.truth →
    ∃ events,
      (perform (clientCall "query" { positional := [store.valueOf (.query index)] } none) store).2.wire.events
        = events ++ store.wire.events ∧
      ∀ request, .request request ∈ events → request.Carries site.endpoint
        (("query", text) :: (graphs.map (("default-graph-uri", ·)) ++
          site.settings.namedGraphs.map (("named-graph-uri", ·.toText))))

theorem perform_cacheKey (found : during.queries[index]? = some record) (isText : during.text index = .ok text) :
    perform (cacheKey index) during = (.ok (.ofText text record.clauses.graphNames), during) := by
  rw [cacheKey, perform_bind_ok (by rw [perform_queryText, isText]), perform_bind_ok (perform_query_of_some found)]
  rfl

/-- Asked a query of the session, the client sends its text and the graphs that it has now. -/
theorem sends_query {client : Client} (present : during.client = some client)
    (found : during.queries[index]? = some record) (isText : during.text index = .ok text) :
    ∃ events,
      (perform (clientCall "query" { positional := [during.valueOf (.query index)] } none) during).2.wire.events
        = events ++ during.wire.events ∧
      ∀ event ∈ events, event.isSending →
        client.sending text record.clauses.form.name record.clauses.graphNames = .ok event := by
  rcases client.query_sends text record.clauses.graphNames during.wire with ⟨events, recorded, only⟩
  refine ⟨events, ?_, only⟩
  have sends : sendGiven (during.valueOf (.query index)) = do return .result (← sendIndexed index) := rfl
  have sent : (perform (sendIndexed index) during).2.wire.events = events ++ during.wire.events := by
    rw [perform_sendIndexed found isText, sendQuery, perform_exchange_some present, ← recorded]
  rw [perform_clientCall_query _ present, sends, perform_bind]
  rcases performed : perform (sendIndexed index) during with ⟨failure | result, after⟩ <;>
    · rw [performed] at sent
      exact sent

theorem names_fromGraphs (found : during.queries[index]? = some record) (isText : during.text index = .ok text) :
    during.Names index text record.clauses.graphNames where
  key := perform_cacheKey found isText
  sent client site present isSite isPlain asksGraphs := by
    rcases sends_query present found isText with ⟨events, recorded, only⟩
    refine ⟨events, recorded, fun request mem => ?_⟩
    have isSent := only _ mem rfl
    simp only [Client.sending, isSite] at isSent
    rcases Outcome.map_eq_ok.mp isSent with ⟨same, isRequest, ⟨⟩⟩
    unfold HttpSite.queryRequest at isRequest
    rw [if_pos asksGraphs] at isRequest
    exact (Request.carries_build isPlain isRequest).2

/-- The key of a query and its requests name the graphs that it has now, of which its text names the first: all of
them until the query is answered, and those that it had then ever after. The key names the graphs of the text
exactly as long as no other graph is added. -/
theorem graphs_of_session (client : Option Client) (answers : List Answer) (steps : List Step) :
    let start := start client answers
    start.Moves (storeAfter start steps) ∧ ∀ during, start.Moves during →
      ∀ (index : Nat) (record : QueryRecord) (text : String), during.queries[index]? = some record →
        during.text index = .ok text →
        during.Names index text record.clauses.graphNames ∧
        ∃ tree : QueryTree, tree.render = .ok text ∧
          tree.clauses.graphNames <+: record.clauses.graphNames ∧
          (record.result = none → during.tree index = .ok tree ∧
            tree.clauses.graphNames = record.clauses.graphNames) ∧
          ((∀ name, name ∈ (CacheKey.ofText text record.clauses.graphNames).graphs ↔
              ∃ graph ∈ tree.clauses.graphNames, name = "sparql:graph:" ++ graph) ↔
            ∀ graph ∈ record.clauses.graphNames, graph ∈ tree.clauses.graphNames) := by
  intro start
  refine ⟨moves_storeAfter (start_closed client answers) steps, fun during moves index record text found isText =>
    ⟨names_fromGraphs found isText, ?_⟩⟩
  have keeps : during.KeepsTexts := keepsTexts_of_session client answers moves
  have settled : during.Settled := moves.evolves.settled (by simp [Settled, start, Store.start])
  rcases keeps.exists_tree found isText with ⟨tree, written, isExtended, unlessFrozen⟩
  refine ⟨tree, written, isExtended.graphNames, fun unanswered => ?_, CacheKey.names_iff isExtended.graphNames⟩
  have notFrozen : record.frozen = none := by
    simpa [unanswered] using (settled record (List.mem_of_getElem? found)).symm
  rcases unlessFrozen notFrozen with ⟨isTree, sameClauses⟩
  exact ⟨isTree, by rw [sameClauses]⟩

end Store

/-! ## A graph that the text does not name -/

/-- A client that sends graph parameters. -/
def graphClient : Client := { destination := .http (.ofEndpoint "http://h/sparql" { graphParameters := .bool true }) }

def trueAnswer : Answer := .response (Text.Utf8.encode "true") (some "text/boolean")

/-- A question that is given a second graph after it has been answered. -/
def driftingSession : List Step := [
  .call (.register "client") "ask" [] [] none (some "q"),
  .call (.register "q") "from_" [.constant (.text "http://g1")] [] none none,
  .call (.register "q") "execute" [] [] none none,
  .call (.register "q") "from_" [.constant (.text "http://g2")] [] none none]

def drifted : Store := storeAfter (Store.start graphClient [trueAnswer, trueAnswer]) driftingSession

/-- The data of the last request. -/
def Store.lastData (store : Store) : Option String :=
  store.wire.events.findSome? fun
    | .request request => request.data
    | _ => none

/-- The text names the first graph. The key and the request of the same query name the second too. -/
theorem graphs_of_driftingSession :
    (drifted.text 0).toOption = some "ASK FROM <http://g1> WHERE \x7b \x7d" ∧
    (perform (cacheKey 0) drifted).1.toOption.map (·.graphs) =
      some ["sparql:graph:http://g1", "sparql:graph:http://g2"] ∧
    (perform (clientCall "query" { positional := [drifted.valueOf (.query 0)] } none) drifted).2.lastData =
      some ("query=ASK+FROM+%3Chttp%3A%2F%2Fg1%3E+WHERE+%7B+%7D" ++
        "&default-graph-uri=http%3A%2F%2Fg1&default-graph-uri=http%3A%2F%2Fg2") := by
  decide +kernel

end Sparql
