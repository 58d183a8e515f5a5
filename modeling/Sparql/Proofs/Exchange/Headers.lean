import Mathlib.Data.List.Induction
import Sparql.Proofs.Exchange.Attempts
import Sparql.Proofs.Exchange.Parameters
import Sparql.Proofs.Exchange.Sending
import Sparql.Proofs.Value.Entries

/-!
# The headers of a request

A request names the formats that its query can be answered in, and a posted one the kind of its form. These headers
are written after the configured ones, so a configured header of the same spelling takes the client's value. It keeps
its place, though, and another spelling of the name that is configured behind it is written later still. That one is
sent.
-/

namespace Sparql

open Sparql.Text

variable {name other own : String} {key value : Value} {entries headers : List (Value × Value)}
  {sent : List (String × Value)}

/-! ## Headers under one name -/

/-- Whether a header with this key is sent under a name. -/
def Value.isSentAs (name : String) (key : Value) : Bool := key.text?.map capitalized == some name

/-- The headers that are sent under a name, in the order in which they are written. -/
def spellings (name : String) (headers : List (Value × Value)) : List (Value × Value) :=
  headers.filter fun header => header.1.isSentAs name

theorem spellings_cons (header : Value × Value) (headers : List (Value × Value)) :
    spellings name (header :: headers) =
      if header.1.isSentAs name then header :: spellings name headers else spellings name headers :=
  List.filter_cons

theorem spellings_append {added : List (Value × Value)} :
    spellings name (headers ++ added) = spellings name headers ++ spellings name added :=
  List.filter_append headers added

theorem headerName_eq_ok : headerName key = .ok name ↔ key.isSentAs name = true := by
  unfold headerName Value.isSentAs
  cases key.text? <;> simp [misuse]

theorem Value.isSentAs_inj (isSent : key.isSentAs name = true) : key.isSentAs other = true ↔ other = name := by
  simp only [isSentAs, beq_iff_eq] at isSent ⊢
  rw [isSent, Option.some.injEq, eq_comm]

theorem Value.isSentAs_text : (Value.text own).isSentAs (capitalized own) = true := by
  simp [isSentAs, text?]

/-! ## Sent headers -/

theorem names_setHeader : (setHeader name value sent).map Prod.fst =
    if name ∈ sent.map Prod.fst then sent.map Prod.fst else sent.map Prod.fst ++ [name] := by
  induction sent with
  | nil => simp [setHeader]
  | cons header rest ih =>
      rw [setHeader]
      split
      · simp_all
      · grind

theorem nodup_setHeader (distinct : (sent.map Prod.fst).Nodup) : ((setHeader name value sent).map Prod.fst).Nodup := by
  rw [names_setHeader]
  split
  · exact distinct
  · rename_i isNew
    exact List.nodup_append.mpr ⟨distinct, by simp, by grind⟩

theorem mem_setHeader {given : Value} (distinct : (sent.map Prod.fst).Nodup) :
    (other, given) ∈ setHeader name value sent ↔
      if other = name then given = value else (other, given) ∈ sent := by
  induction sent with
  | nil => grind [setHeader]
  | cons header rest ih =>
      rw [List.map_cons, List.nodup_cons, List.mem_map] at distinct
      grind [setHeader]

theorem sentHeaders_concat : sentHeaders (headers ++ [(key, value)]) = .ok sent ↔
    ∃ earlier name, sentHeaders headers = .ok earlier ∧ key.isSentAs name = true ∧
      sent = setHeader name value earlier := by
  simp only [sentHeaders, List.foldlM_append, List.foldlM_cons, List.foldlM_nil, Outcome.bind_eq_ok,
    Outcome.pure_eq_ok, headerName_eq_ok]
  grind

/-- Under each name one header is sent, with the value that is written last. -/
theorem mem_sentHeaders (isSent : sentHeaders headers = .ok sent) :
    (sent.map Prod.fst).Nodup ∧
      ∀ name given, (name, given) ∈ sent ↔ (spellings name headers).getLast?.map Prod.snd = some given := by
  induction headers using List.reverseRecOn generalizing sent with
  | nil =>
      cases isSent
      simp [spellings]
  | append_singleton headers header ih =>
      rcases sentHeaders_concat.mp isSent with ⟨earlier, own, isEarlier, isOwn, rfl⟩
      rcases ih isEarlier with ⟨distinct, isLast⟩
      refine ⟨nodup_setHeader distinct, fun name given => ?_⟩
      simp only [mem_setHeader distinct, spellings_append, spellings_cons, Value.isSentAs_inj isOwn]
      split
      · simp [spellings, eq_comm]
      · simpa [spellings] using isLast name given

/-! ## Headers that the client adds -/

theorem spellings_insertEntry : spellings name (Value.insertEntry key value headers) =
    if key.isSentAs name then Value.insertEntry key value (spellings name headers) else spellings name headers := by
  induction headers with
  | nil => simp [Value.insertEntry, spellings, List.filter_cons]
  | cons header rest ih =>
      rcases header with ⟨first, given⟩
      rw [Value.insertEntry, spellings_cons]
      split
      · next same =>
          -- The same key has the same name, so one header takes the place of the other or both are left out.
          have sameName : first.isSentAs name = key.isSentAs name := by
            rw [Value.isSentAs, Value.isSentAs, Value.text?_of_sameKey same]
          simp only [spellings_cons, sameName]
          split <;> simp [Value.insertEntry, same]
      · next differs =>
          rw [spellings_cons, ih]
          split <;> split <;> simp [Value.insertEntry, differs]

theorem spellings_insertAll :
    spellings name (entries.foldl (fun sum entry => Value.insertEntry entry.1 entry.2 sum) headers) =
      (spellings name entries).foldl (fun sum entry => Value.insertEntry entry.1 entry.2 sum)
        (spellings name headers) := by
  induction entries generalizing headers with
  | nil => rfl
  | cons entry rest ih =>
      rw [List.foldl_cons, ih, spellings_insertEntry, spellings_cons]
      split <;> rfl

/-- Of some headers with one name, the last one displaces the client's own value: the client's spelling of the name
stands before it. -/
def Displaces (own : String) (headers : List (Value × Value)) (value : Value) : Prop :=
  ∃ before key, headers = before ++ [(key, value)] ∧ .text own ∈ before.map Prod.fst

theorem displaces_concat {last : Value} :
    Displaces own (headers ++ [(key, last)]) value ↔ value = last ∧ .text own ∈ headers.map Prod.fst := by
  constructor
  · rintro ⟨before, other, isList, isBefore⟩
    rcases List.append_inj' isList rfl with ⟨rfl, isLast⟩
    cases isLast
    exact ⟨rfl, isBefore⟩
  · rintro ⟨rfl, isBefore⟩
    exact ⟨headers, key, rfl, isBefore⟩

theorem not_displaces_nil : ¬Displaces own [] value := by
  rintro ⟨before, key, isList, _⟩
  simp at isList

/-- The value that is written last when the client has added its own one. -/
theorem getLast?_insertEntry {given : Value} :
    (Value.insertEntry (.text own) value headers).getLast?.map Prod.snd = some given ↔
      Displaces own headers given ∨ (¬∃ last, Displaces own headers last) ∧ given = value := by
  induction headers using List.reverseRecOn with
  | nil =>
      have isOnly : (Value.insertEntry (.text own) value []).getLast?.map Prod.snd = some value := rfl
      simp [isOnly, not_displaces_nil, eq_comm]
  | append_singleton before header _ =>
      rcases header with ⟨key, last⟩
      simp only [displaces_concat]
      by_cases isBefore : .text own ∈ before.map Prod.fst
      · -- The client's value goes to the place before, so the last one stays.
        rcases List.mem_map.mp isBefore with ⟨entry, isEntry, isOwn⟩
        rw [Value.insertEntry_append_of_mem ⟨entry, isEntry, Value.sameKey_text.mpr isOwn⟩]
        simp [isBefore, eq_comm]
      · -- The client's value goes to the last place or behind it.
        have apart : ∀ entry ∈ before, Value.sameKey entry.1 (.text own) = false := fun entry isEntry =>
          Bool.eq_false_iff.mpr fun same =>
            isBefore (List.mem_map.mpr ⟨entry, isEntry, Value.sameKey_text.mp same⟩)
        rw [Value.insertEntry_append_of_apart apart, Value.insertEntry]
        split <;> simp [isBefore, Value.insertEntry, eq_comm]

/-! ## Headers of a request -/

namespace Request

variable {request : Request} {settings : Settings} {url : String} {parameters : List (String × String)}
  {method : HttpMethod} {accept : Option String}

/-- A request has one header of a name: the client's own one, unless a configured one displaces that. -/
structure Heads (request : Request) (own : String) (value : Value) (entries : List (Value × Value)) : Prop where
  once : (request.headers.map Prod.fst).Nodup
  sent : ∀ given, (capitalized own, given) ∈ request.headers ↔
    Displaces own (spellings (capitalized own) entries) given ∨
      (¬∃ last, Displaces own (spellings (capitalized own) entries) last) ∧ given = value

theorem heads_of_sentHeaders (isSent : sentHeaders headers = .ok sent) (sorted : request.headers = sortHeaders sent)
    (added : spellings (capitalized own) headers =
      Value.insertEntry (.text own) value (spellings (capitalized own) entries)) :
    request.Heads own value entries := by
  rcases mem_sentHeaders isSent with ⟨distinct, isLast⟩
  have reordered : request.headers.Perm sent := sorted ▸ List.mergeSort_perm sent _
  refine ⟨(reordered.map Prod.fst).nodup_iff.mpr distinct, fun given => ?_⟩
  rw [reordered.mem_iff, isLast, added, getLast?_insertEntry]

/-- The headers of a request are the configured ones with those of its client. -/
theorem headers_of_build (built : build settings url parameters method accept = .ok request) :
    request.method = method ∧ ∃ headers sent, configuredHeaders settings accept = .ok headers ∧
      sentHeaders (match method with
        | .get => headers
        | .post => Value.insertEntry (.text "Content-Type") (.text formContentType) headers) = .ok sent ∧
      request.headers = sortHeaders sent := by
  cases method with
  | get =>
      simp only [build, Outcome.bind_eq_ok, Outcome.pure_eq_ok] at built
      rcases built with ⟨headers, configured, url, _, sent, isSent, rfl⟩
      exact ⟨rfl, headers, sent, configured, isSent, rfl⟩
  | post =>
      simp only [build, Outcome.bind_eq_ok, Outcome.pure_eq_ok] at built
      rcases built with ⟨headers, configured, url, _, sent, isSent, rfl⟩
      exact ⟨rfl, headers, sent, configured, isSent, rfl⟩

end Request

/-- Under any name but that of the user agent, the configured headers are written, and what the client accepts. -/
theorem spellings_configuredHeaders {settings : Settings} {accept : Option String}
    (configured : configuredHeaders settings accept = .ok headers) (isMap : settings.headers = .map entries)
    (distinct : entries.Pairwise fun first second => Value.sameKey first.1 second.1 = false)
    (isOther : (Value.text "User-Agent").isSentAs name = false) :
    spellings name headers = match accept with
      | some accept =>
        if (Value.text "Accept").isSentAs name then
          Value.insertEntry (.text "Accept") (.text accept) (spellings name entries)
        else spellings name entries
      | none => spellings name entries := by
  have base : spellings name (entries.foldl (fun sum entry => Value.insertEntry entry.1 entry.2 sum)
      [(.text "User-Agent", settings.userAgent)]) = spellings name entries := by
    have agent : spellings name [(.text "User-Agent", settings.userAgent)] = [] := by
      simp [spellings, isOther]
    rw [spellings_insertAll, agent]
    exact Value.foldl_insertEntry (distinct.filter _)
  rw [configuredHeaders, isMap] at configured
  cases configured
  cases accept with
  | none => exact base
  | some accept => exact spellings_insertEntry.trans (by rw [base])

theorem Request.heads_of_build {request : Request} {settings : Settings} {url : String}
    {parameters : List (String × String)} {method : HttpMethod} {accept : Option String}
    (built : build settings url parameters method accept = .ok request) (isMap : settings.headers = .map entries)
    (distinct : entries.Pairwise fun first second => Value.sameKey first.1 second.1 = false) :
    (∀ own ∈ accept, request.Heads "Accept" (.text own) entries) ∧
      (request.method = .post → request.Heads "Content-Type" (.text formContentType) entries) := by
  rcases headers_of_build built with ⟨rfl, headers, sent, configured, isSent, sorted⟩
  have written (name : String) (isOther : (Value.text "User-Agent").isSentAs name = false) :=
    spellings_configuredHeaders configured isMap distinct isOther
  constructor
  · rintro own rfl
    refine heads_of_sentHeaders isSent sorted ?_
    have accepted := (written (capitalized "Accept") (by decide)).trans (if_pos Value.isSentAs_text)
    split
    · exact accepted
    · rw [spellings_insertEntry, if_neg (by decide)]
      exact accepted
  · intro isPost
    rw [isPost] at isSent
    refine heads_of_sentHeaders isSent sorted ?_
    have others := written (capitalized "Content-Type") (by decide)
    rw [spellings_insertEntry, if_pos Value.isSentAs_text]
    cases accept with
    | none => rw [others]
    | some accept => exact congrArg _ (others.trans (if_neg (by decide)))

/-! ## Exchanges -/

namespace HttpSite

/-- What an exchange that sends one thing only says about the request that it sends. -/
theorem requests_of_sends {α : Type} {run : Exchange α} {request : Request} {wire : Wire} {holds : Request → Prop}
    (sends : Exchange.Sends run (.request request) fun events _ => .request request ∈ events)
    (isHeld : holds request) :
    ∃ events, (perform run wire).2.events = events ++ wire.events ∧
      (∀ result, (perform run wire).1 = .ok result → ∃ request, .request request ∈ events) ∧
      ∀ request, .request request ∈ events → holds request := by
  rcases sends wire with ⟨events, recorded, only, given⟩
  refine ⟨events, recorded, fun result done => ⟨request, given result done⟩, fun other mem => ?_⟩
  cases only _ mem rfl
  exact isHeld

theorem heads_of_queryRequest {site : HttpSite} {text form : String} {graphs : List String} {request : Request}
    (isRequest : site.queryRequest text form graphs = .ok request) (isMap : site.settings.headers = .map entries)
    (distinct : entries.Pairwise fun first second => Value.sameKey first.1 second.1 = false) :
    request.Heads "Accept" (.text (acceptFor form)) entries ∧
      (request.method = .post → request.Heads "Content-Type" (.text formContentType) entries) :=
  have heads := Request.heads_of_build isRequest isMap distinct
  ⟨heads.1 _ rfl, heads.2⟩

/-- Whatever headers are configured, each request of a query names what the query can be answered in, and each that
is posted the kind of its form, unless the configuration displaces that. -/
theorem headers_of_exchange {site : HttpSite} {entries : List (Value × Value)}
    (isMap : site.settings.headers = .map entries)
    (distinct : entries.Pairwise fun first second => Value.sameKey first.1 second.1 = false) :
    (∀ text form graphs wire, ∃ events,
      (perform (site.query text form graphs) wire).2.events = events ++ wire.events ∧
      (∀ response, (perform (site.query text form graphs) wire).1 = .ok response →
        ∃ request, .request request ∈ events) ∧
      ∀ request, .request request ∈ events →
        request.Heads "Accept" (.text (acceptFor form)) entries ∧
        (request.method = .post → request.Heads "Content-Type" (.text formContentType) entries)) ∧
    (∀ operation wire, ∃ events,
      (perform (site.update operation) wire).2.events = events ++ wire.events ∧
      (∀ done, (perform (site.update operation) wire).1 = .ok done → ∃ request, .request request ∈ events) ∧
      ∀ request, .request request ∈ events →
        request.method = .post ∧ request.Heads "Content-Type" (.text formContentType) entries) := by
  constructor
  · intro text form graphs wire
    rcases isRequest : site.queryRequest text form graphs with failure | request
    · exact ⟨[], by simp [query_of_unmade isRequest]⟩
    · exact requests_of_sends (sends_query isRequest) (heads_of_queryRequest isRequest isMap distinct)
  · intro operation wire
    rcases isRequest : site.updateRequest operation with failure | request
    · exact ⟨[], by simp [update_of_unmade isRequest]⟩
    · refine requests_of_sends (sends_update isRequest) ?_
      simp only [updateRequest, Outcome.bind_eq_ok] at isRequest
      rcases isRequest with ⟨text, _, address, _, built⟩
      have isPost := (Request.headers_of_build built).1
      exact ⟨isPost, (Request.heads_of_build built isMap distinct).2 isPost⟩

/-- Two spellings of one name, the client's own one first. -/
def respelledHeaders : List (Value × Value) :=
  [(.text "Accept", .text "text/html"), (.text "accept", .text "text/plain")]

/-- A site with these headers. -/
def respelledSite : HttpSite := .ofEndpoint "http://h/sparql" { headers := .map respelledHeaders }

theorem headers_of_respelledSite :
    respelledSite.settings.headers = .map respelledHeaders ∧
    (respelledHeaders.Pairwise fun first second => Value.sameKey first.1 second.1 = false) ∧
    ∃ events, (perform (respelledSite.query "ASK \x7b\x7d" "ask" []) { answers := [] }).2.events = events ++ [] ∧
      ∀ request, .request request ∈ events →
        request.Heads "Accept" (.text resultsAccept) respelledHeaders ∧
        (request.method = .post → request.Heads "Content-Type" (.text formContentType) respelledHeaders) := by
  have distinct : respelledHeaders.Pairwise fun first second => Value.sameKey first.1 second.1 = false :=
    List.pairwise_pair.mpr rfl
  have laws := @headers_of_exchange respelledSite respelledHeaders rfl distinct
  rcases laws.1 "ASK \x7b\x7d" "ask" [] { answers := [] } with ⟨events, recorded, _, heads⟩
  exact ⟨rfl, distinct, events, recorded, heads⟩

theorem displaces_respelledHeaders {given : Value} :
    Displaces "Accept" (spellings (capitalized "Accept") respelledHeaders) given ↔ given = .text "text/plain" := by
  have both : spellings (capitalized "Accept") respelledHeaders =
      [(.text "Accept", .text "text/html")] ++ [(.text "accept", .text "text/plain")] := rfl
  rw [both, displaces_concat]
  simp

/-- A configured header is sent instead of the formats that a query can be answered in. -/
theorem accept_displaced :
    ∃ request, .request request ∈ (perform (respelledSite.query "ASK \x7b\x7d" "ask" []) { answers := [] }).2.events ∧
      ("Accept", .text "text/plain") ∈ request.headers ∧
      ("Accept", .text (acceptFor "ask")) ∉ request.headers := by
  have named : respelledSite.settings.NamesHeaders :=
    ⟨respelledHeaders, rfl, by simp [AreNamed, respelledHeaders, Value.text?]⟩
  rcases (exists_queryRequest Address.isPlain_endpoint "ASK \x7b\x7d" "ask" []).mpr named with ⟨request, isRequest⟩
  have heads := (heads_of_queryRequest isRequest rfl (List.pairwise_pair.mpr rfl)).1
  refine ⟨request, ?_, ?_, ?_⟩
  · have isOnce : respelledSite.settings.attempts = .int 1 := rfl
    rcases (tried_query isOnce Int.one_pos isRequest rfl).requested with ⟨events, recorded, mem⟩
    rw [recorded]
    exact List.mem_append_left _ mem
  · exact (heads.sent _).mpr (.inl (displaces_respelledHeaders.mpr rfl))
  · intro isOwn
    rcases (heads.sent _).mp isOwn with displaces | ⟨none, _⟩
    · have isPlainText := displaces_respelledHeaders.mp displaces
      rw [Value.text.injEq] at isPlainText
      exact absurd isPlainText (by decide +kernel)
    · exact none ⟨_, displaces_respelledHeaders.mpr rfl⟩

end HttpSite

end Sparql
