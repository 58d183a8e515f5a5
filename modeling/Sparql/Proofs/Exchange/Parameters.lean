import Mathlib.Data.List.TakeWhile
import Sparql.Exchange.Http
import Sparql.Proofs.Exchange.FormData
import Sparql.Proofs.Outcome
import Sparql.Proofs.Text.Lines
import Sparql.Proofs.Value.Entries

/-!
# The parameters of a request

A query's request carries the query and, if the settings say so, the graphs: in its body if it is posted, and
otherwise behind the first question mark of its address, after what the endpoint has there. Either is read
back as it was given, from any text and for every endpoint that is an address of its own.
-/

namespace Sparql

open Sparql.Text

/-! ## Addresses -/

namespace Address

/-- An address that stands for itself: it has a scheme and no fragment, and nothing stands around it. -/
structure IsPlain (url : List Char) : Prop where
  scheme : ∃ name rest, url = name ++ ':' :: rest ∧ name ≠ [] ∧ ∀ c ∈ name, c ≠ '/' ∧ c ≠ ':'
  noFragment : '#' ∉ url
  noBlankBefore : ∀ c ∈ url.head?, isBlank c = false
  noBlankBehind : ∀ c ∈ url.getLast?, isBlank c = false
  noBrackets : ¬(url.head? = some '<' ∧ url.getLast? = some '>')
  noMark : ¬['U', 'R', 'L', ':'] <+: url

/-- What stands before the first question mark. -/
def beforeQuery (url : List Char) : List Char := url.takeWhile (· ≠ '?')

/-- What stands behind the first question mark. -/
def afterQuery (url : List Char) : List Char := (url.dropWhile (· ≠ '?')).drop 1

theorem beforeQuery_append {start query : List Char} (noMark : '?' ∉ start) :
    beforeQuery (start ++ '?' :: query) = start := by
  rw [beforeQuery, List.takeWhile_append_of_pos (by grind)]
  simp

theorem afterQuery_append {start query : List Char} (noMark : '?' ∉ start) :
    afterQuery (start ++ '?' :: query) = query := by
  rw [afterQuery, List.dropWhile_append_of_pos (by grind)]
  simp

theorem beforeQuery_of_not_mem {url : List Char} (noMark : '?' ∉ url) : beforeQuery url = url :=
  List.takeWhile_eq_self_iff.mpr (by grind)

theorem afterQuery_of_not_mem {url : List Char} (noMark : '?' ∉ url) : afterQuery url = [] := by
  rw [afterQuery, List.dropWhile_eq_nil_iff.mpr (by grind), List.drop_nil]

/-! ### Sending to a plain address -/

theorem unbracket_eq_self {text : List Char}
    (noBrackets : ¬(text.head? = some '<' ∧ text.getLast? = some '>')) : unbracket text = text := by
  unfold unbracket
  split
  · next rest => rw [if_neg fun isLast => noBrackets ⟨rfl, isLast⟩]
  · rfl

theorem dropMark_eq_self {text : List Char} (noMark : ¬['U', 'R', 'L', ':'] <+: text) :
    dropMark text = text := by
  unfold dropMark
  split
  · next rest => exact absurd ⟨rest, rfl⟩ noMark
  · rfl

theorem hasScheme_append {name rest : List Char} (notEmpty : name ≠ [])
    (isName : ∀ c ∈ name, c ≠ '/' ∧ c ≠ ':') : hasScheme (name ++ ':' :: rest) = true := by
  have isScheme : (name ++ ':' :: rest).takeWhile (fun c => c ≠ '/' && c ≠ ':') = name := by
    rw [List.takeWhile_append_of_pos (by simpa using isName)]
    simp
  simp only [hasScheme, isScheme]
  simp [notEmpty]

/-- A plain address is sent as it is. -/
theorem IsPlain.resolve_eq {url : String} (isPlain : IsPlain url.toList) : resolve url = .ok url := by
  have bare : unwrap url.toList = url.toList := by
    rw [unwrap, trim_eq_self isPlain.noBlankBefore isPlain.noBlankBehind,
      unbracket_eq_self isPlain.noBrackets, dropMark_eq_self isPlain.noMark]
  have noFragment : dropFragment url.toList = url.toList := by
    rw [dropFragment, if_neg (by simpa using isPlain.noFragment)]
  have noEmptyFragment : dropEmptyFragment url.toList = url.toList := by
    rw [dropEmptyFragment, if_neg fun isLast => isPlain.noFragment (List.mem_of_getLast? isLast)]
  have hasScheme : hasScheme url.toList = true := by
    rcases isPlain.scheme with ⟨name, rest, isUrl, notEmpty, isName⟩
    rw [isUrl]
    exact hasScheme_append notEmpty isName
  rw [resolve, bare, noFragment, noEmptyFragment, if_pos hasScheme, String.ofList_toList]

/-- A plain address stays one with more behind it. -/
theorem IsPlain.append {url more : List Char} (isPlain : IsPlain url) (notEmpty : more ≠ [])
    (isMore : ∀ c ∈ more, isBlank c = false ∧ c ≠ '#' ∧ c ≠ '>') : IsPlain (url ++ more) := by
  rcases isPlain.scheme with ⟨name, rest, isUrl, nameNotEmpty, isName⟩
  have isHead : (url ++ more).head? = url.head? := by
    rw [List.head?_append_of_ne_nil _ (by rw [isUrl]; simp)]
  have isLast : (url ++ more).getLast? = more.getLast? := by
    rw [List.getLast?_append_of_ne_nil _ notEmpty]
  refine ⟨⟨name, rest ++ more, by rw [isUrl]; simp, nameNotEmpty, isName⟩, ?_, ?_, ?_, ?_, ?_⟩
  · intro mem
    rcases List.mem_append.mp mem with inUrl | inMore
    · exact isPlain.noFragment inUrl
    · exact (isMore _ inMore).2.1 rfl
  · rw [isHead]
    exact isPlain.noBlankBefore
  · rw [isLast]
    exact fun c isLast => (isMore c (List.mem_of_getLast? isLast)).1
  · rw [isLast]
    exact fun brackets => (isMore _ (List.mem_of_getLast? brackets.2)).2.2 rfl
  · intro mark
    rcases List.prefix_or_prefix_of_prefix mark (List.prefix_append url more) with inUrl | inMark
    · exact isPlain.noMark inUrl
    · -- An address that ends within the mark, but not before its colon, is the mark.
      have hasColon : ':' ∈ url := by
        rw [isUrl]
        simp
      have split : ['U', 'R', 'L', ':'] = ['U', 'R', 'L'] ++ [':'] := rfl
      rw [split, List.prefix_concat_iff] at inMark
      rcases inMark with isMark | isBefore
      · exact isPlain.noMark (by rw [isMark]; exact List.prefix_rfl)
      · exact absurd (isBefore.subset hasColon) (by decide)

/-- The endpoint of a host. -/
theorem isPlain_endpoint : IsPlain "http://h/sparql".toList where
  scheme := ⟨"http".toList, "//h/sparql".toList, rfl, by simp, by simp⟩
  noFragment := by decide +kernel
  noBlankBefore := by rintro _ ⟨⟩; rfl
  noBlankBehind := by rintro _ ⟨⟩; rfl
  noBrackets := by decide +kernel
  noMark := by decide +kernel

end Address

/-! ## Headers -/

/-- Headers of which each has a text for its name. -/
def AreNamed (headers : List (Value × Value)) : Prop := ∀ header ∈ headers, header.1.text?.isSome

/-- Whether the configured headers can be sent. -/
def Settings.NamesHeaders (settings : Settings) : Prop :=
  ∃ headers, settings.headers = .map headers ∧ AreNamed headers

theorem areNamed_insertEntry {key value : Value} {headers : List (Value × Value)} :
    AreNamed (Value.insertEntry key value headers) ↔ key.text?.isSome ∧ AreNamed headers := by
  induction headers with
  | nil => simp [AreNamed, Value.insertEntry]
  | cons header headers ih =>
      rw [Value.insertEntry]
      simp only [AreNamed] at ih
      split
      · next same =>
          have sameText := congrArg Option.isSome (Value.text?_of_sameKey same)
          simp only [AreNamed, List.forall_mem_cons, sameText]
          grind
      · simp only [AreNamed, List.forall_mem_cons, ih]
        grind

theorem areNamed_insertAll {entries headers : List (Value × Value)} :
    AreNamed (entries.foldl (fun sum (key, value) => Value.insertEntry key value sum) headers) ↔
      AreNamed entries ∧ AreNamed headers := by
  induction entries generalizing headers with
  | nil => simp [AreNamed]
  | cons entry entries ih =>
      rw [List.foldl_cons, ih, areNamed_insertEntry]
      simp only [AreNamed, List.forall_mem_cons]
      grind

theorem exists_sentHeaders {headers : List (Value × Value)} :
    (∃ sent, sentHeaders headers = .ok sent) ↔ AreNamed headers := by
  unfold sentHeaders
  generalize ([] : List (String × Value)) = sent
  induction headers generalizing sent with
  | nil => simp [AreNamed]
  | cons header headers ih =>
      rcases header with ⟨key, value⟩
      rw [List.foldlM_cons, AreNamed, List.forall_mem_cons, ← AreNamed]
      rcases isText : key.text? with _ | name
      · have noName : headerName key = misuse .noSuchOperation := by rw [headerName, isText]
        simp [noName]
      · have isName : headerName key = .ok (capitalized name) := by rw [headerName, isText]
        simp only [isName]
        exact (ih (setHeader (capitalized name) value sent)).trans (by simp)

/-- What the client adds to the configured headers has a text for its name. -/
theorem areNamed_of_configuredHeaders {settings : Settings} {accept : Option String}
    {headers : List (Value × Value)} (configured : configuredHeaders settings accept = .ok headers) :
    AreNamed headers ↔ settings.NamesHeaders := by
  cases isMap : settings.headers with
  | map entries =>
      have withAgent : AreNamed (entries.foldl
          (fun sum (key, value) => Value.insertEntry key value sum)
          [(.text "User-Agent", settings.userAgent)]) ↔ AreNamed entries := by
        rw [areNamed_insertAll]
        simp [AreNamed, Value.text?]
      rw [configuredHeaders, isMap] at configured
      cases configured
      simp only [Settings.NamesHeaders, isMap, Value.map.injEq, exists_eq_left']
      cases accept with
      | none => exact withAgent
      | some accept => exact areNamed_insertEntry.trans (by simpa [Value.text?] using withAgent)
  | _ =>
      rw [configuredHeaders, isMap] at configured
      cases configured

theorem exists_configuredHeaders {settings : Settings} (named : settings.NamesHeaders)
    (accept : Option String) : ∃ headers, configuredHeaders settings accept = .ok headers := by
  rcases named with ⟨entries, isMap, _⟩
  rw [configuredHeaders, isMap]
  exact ⟨_, rfl⟩

/-- The headers of an exchange, with those that the client adds, can be sent exactly if the configured ones can. -/
theorem exists_headers {α : Type} {settings : Settings} {accept : Option String}
    {adding : List (Value × Value) → List (Value × Value)}
    (addsNamed : ∀ headers, AreNamed (adding headers) ↔ AreNamed headers)
    {sending : List (String × Value) → α} :
    (∃ sent, (do
      let headers ← configuredHeaders settings accept
      let sent ← sentHeaders (adding headers)
      return sending sent) = .ok sent) ↔ settings.NamesHeaders := by
  constructor
  · rintro ⟨_, done⟩
    rcases Outcome.bind_eq_ok.mp done with ⟨headers, configured, done⟩
    rcases Outcome.bind_eq_ok.mp done with ⟨sent, isSent, _⟩
    rw [← areNamed_of_configuredHeaders configured, ← addsNamed, ← exists_sentHeaders]
    exact ⟨sent, isSent⟩
  · intro named
    rcases exists_configuredHeaders named accept with ⟨headers, configured⟩
    rcases exists_sentHeaders.mpr ((addsNamed headers).mpr
      ((areNamed_of_configuredHeaders configured).mpr named)) with ⟨sent, isSent⟩
    exact ⟨_, Outcome.bind_eq_ok.mpr ⟨headers, configured, Outcome.bind_eq_ok.mpr ⟨sent, isSent, rfl⟩⟩⟩

/-! ## Requests -/

/-- The characters of form data can stand in an address. -/
theorem FormData.ne_of_mem_encode {parameters : List (String × String)} {char : Char}
    (mem : char ∈ (encode parameters).toList) : isBlank char = false ∧ char ≠ '#' ∧ char ≠ '>' := by
  rcases mem_encode mem with isForm | rfl | rfl
  · have code := code_of_isFormChar isForm
    refine ⟨by simp [isBlank]; omega, ?_, ?_⟩
    · rintro rfl
      exact absurd code (by decide)
    · rintro rfl
      exact absurd code (by decide)
  · decide
  · decide

namespace Request

/-- A request carries some parameters to an endpoint: in its body, or behind those in the endpoint's address. -/
structure Carries (request : Request) (endpoint : String) (parameters : List (String × String)) : Prop where
  posted : request.method = .post → request.url = endpoint ∧
    ∃ body, request.data = some body ∧ FormData.decode body.toList = parameters
  addressed : request.method = .get → request.data = none ∧
    Address.beforeQuery request.url.toList = Address.beforeQuery endpoint.toList ∧
    FormData.decode (Address.afterQuery request.url.toList) =
      FormData.decode (Address.afterQuery endpoint.toList) ++ parameters

variable {settings : Settings} {url : String} {parameters : List (String × String)} {method : HttpMethod}
  {accept : Option String}

/-- The address of a GET. -/
def addressOf (url : String) (parameters : List (String × String)) : String :=
  url ++ (if url.toList.contains '?' then "&" else "?") ++ FormData.encode parameters

theorem isPlain_addressOf (isPlain : Address.IsPlain url.toList) :
    Address.IsPlain (addressOf url parameters).toList := by
  have isSuffix (separator : Char) (isSeparator : separator = '?' ∨ separator = '&') :
      Address.IsPlain (url.toList ++ separator :: (FormData.encode parameters).toList) := by
    refine isPlain.append (by simp) fun char mem => ?_
    rcases List.mem_cons.mp mem with rfl | mem
    · rcases isSeparator with rfl | rfl <;> decide
    · exact FormData.ne_of_mem_encode mem
  unfold addressOf
  split
  · simpa using isSuffix '&' (.inr rfl)
  · simpa using isSuffix '?' (.inl rfl)

/-- The parameters in an address come behind those that the endpoint has. -/
theorem addressOf_reads (url : String) (parameters : List (String × String)) :
    Address.beforeQuery (addressOf url parameters).toList = Address.beforeQuery url.toList ∧
    FormData.decode (Address.afterQuery (addressOf url parameters).toList) =
      FormData.decode (Address.afterQuery url.toList) ++ parameters := by
  by_cases hasQuery : '?' ∈ url.toList
  · rcases List.eq_append_cons_of_mem hasQuery with ⟨start, query, isUrl, noMark⟩
    have isAddress : (addressOf url parameters).toList =
        start ++ '?' :: (query ++ '&' :: (FormData.encode parameters).toList) := by
      simp [addressOf, isUrl]
    rw [isAddress, isUrl, Address.beforeQuery_append noMark, Address.beforeQuery_append noMark,
      Address.afterQuery_append noMark, Address.afterQuery_append noMark, FormData.decode_append,
      FormData.decode_encode]
    exact ⟨rfl, rfl⟩
  · have isAddress : (addressOf url parameters).toList =
        url.toList ++ '?' :: (FormData.encode parameters).toList := by
      simp [addressOf, hasQuery]
    rw [isAddress, Address.beforeQuery_append hasQuery, Address.afterQuery_append hasQuery,
      Address.beforeQuery_of_not_mem hasQuery, Address.afterQuery_of_not_mem hasQuery,
      FormData.decode_encode]
    exact ⟨rfl, rfl⟩

theorem build_get (isPlain : Address.IsPlain url.toList) :
    build settings url parameters .get accept = (do
      let headers ← configuredHeaders settings accept
      let sent ← sentHeaders headers
      return ⟨.get, addressOf url parameters, none, settings.timeout, sortHeaders sent⟩) := by
  have resolved : Address.resolve (addressOf url parameters) = .ok (addressOf url parameters) :=
    (isPlain_addressOf isPlain).resolve_eq
  unfold addressOf at resolved
  simp only [build, resolved]
  rfl

theorem build_post (isPlain : Address.IsPlain url.toList) :
    build settings url parameters .post accept = (do
      let headers ← configuredHeaders settings accept
      let sent ← sentHeaders (Value.insertEntry (.text "Content-Type") (.text formContentType) headers)
      return ⟨.post, url, some (FormData.encode parameters), settings.timeout, sortHeaders sent⟩) := by
  simp only [build, isPlain.resolve_eq]
  rfl

/-- A request is built exactly if the configured headers can be sent. -/
theorem exists_build (isPlain : Address.IsPlain url.toList) :
    (∃ request, build settings url parameters method accept = .ok request) ↔ settings.NamesHeaders := by
  cases method with
  | get =>
      rw [build_get isPlain]
      exact exists_headers fun _ => .rfl
  | post =>
      rw [build_post isPlain]
      exact exists_headers fun headers => by simp [areNamed_insertEntry, Value.text?]

theorem carries_build (isPlain : Address.IsPlain url.toList) {request : Request}
    (built : build settings url parameters method accept = .ok request) :
    request.method = method ∧ request.Carries url parameters := by
  cases method with
  | get =>
      rw [build_get isPlain] at built
      simp only [Outcome.bind_eq_ok, Outcome.pure_eq_ok] at built
      rcases built with ⟨headers, _, sent, _, rfl⟩
      refine ⟨rfl, fun isPost => ?_, fun _ => ⟨rfl, addressOf_reads url parameters⟩⟩
      cases isPost
  | post =>
      rw [build_post isPlain] at built
      simp only [Outcome.bind_eq_ok, Outcome.pure_eq_ok] at built
      rcases built with ⟨headers, _, sent, _, rfl⟩
      refine ⟨rfl, fun _ => ⟨rfl, _, rfl, FormData.decode_encode parameters⟩, fun isGet => ?_⟩
      cases isGet

end Request

namespace HttpSite

/-- What the request of a query says: the query, and each graph under a name of its own if the settings ask for
that. -/
def queryParameters (site : HttpSite) (text : String) (graphs : List String) : List (String × String) :=
  ("query", text) :: if site.settings.graphParameters.truth then
    graphs.map (("default-graph-uri", ·)) ++ site.settings.namedGraphs.map (("named-graph-uri", ·.toText))
  else []

theorem exists_queryRequest {site : HttpSite} (isPlain : Address.IsPlain site.endpoint.toList)
    (text form : String) (graphs : List String) :
    (∃ request, site.queryRequest text form graphs = .ok request) ↔ site.settings.NamesHeaders :=
  Request.exists_build isPlain

/-- Whether it is posted or not, the request of a query carries the same parameters, and nothing of them is
lost. There is one as long as the configured headers are ones that can be sent. -/
theorem queryRequest_carries {site : HttpSite} (isPlain : Address.IsPlain site.endpoint.toList)
    (text form : String) (graphs : List String) :
    ((∃ request, site.queryRequest text form graphs = .ok request) ↔ site.settings.NamesHeaders) ∧
    ∀ request, site.queryRequest text form graphs = .ok request →
      request.method = (if site.usesGet then .get else .post) ∧
      request.Carries site.endpoint (site.queryParameters text graphs) :=
  ⟨Request.exists_build isPlain, fun _ built => Request.carries_build isPlain built⟩

/-- An endpoint with a parameter of its own, asked by GET and told about graphs. -/
def graphSite : HttpSite :=
  .ofEndpoint "http://h/sparql?key=a%26b"
    { method := .text "GET", graphParameters := .bool true, namedGraphs := [.text "http://n?é=1"] }

/-- A query with characters that mean something in form data, and some of other scripts. -/
def strangeText : String := "DESCRIBE <http://h/?a=1&b=50%+日本> # é"

theorem queryRequest_carries_graphs :
    (∃ request, graphSite.queryRequest strangeText "describe" ["http://g#1", "urn:+"] = .ok request) ∧
    ∀ request, graphSite.queryRequest strangeText "describe" ["http://g#1", "urn:+"] = .ok request →
      request.method = .get ∧ request.Carries "http://h/sparql?key=a%26b"
        [("query", strangeText), ("default-graph-uri", "http://g#1"),
          ("default-graph-uri", "urn:+"), ("named-graph-uri", "http://n?é=1")] := by
  have isPlain : Address.IsPlain graphSite.endpoint.toList :=
    { scheme := ⟨"http".toList, "//h/sparql?key=a%26b".toList, rfl, by simp, by simp⟩
      noFragment := by decide +kernel
      noBlankBefore := by rintro _ ⟨⟩; rfl
      noBlankBehind := by rintro _ ⟨⟩; rfl
      noBrackets := by decide +kernel
      noMark := by decide +kernel }
  have carries := queryRequest_carries isPlain strangeText "describe" ["http://g#1", "urn:+"]
  exact ⟨carries.1.mpr ⟨[], rfl, by simp [AreNamed]⟩, carries.2⟩

end HttpSite

end Sparql
