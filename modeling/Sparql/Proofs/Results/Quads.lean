import Sparql.Proofs.Graph.Quads
import Sparql.Proofs.Results.Containment
import Sparql.Proofs.Text.Utf8

/-!
# Answers in quads

An answer in quads is read into a dataset and decoded as what the dataset lists. A statement that stands in several graphs,
or several times in one of them, is listed once, and a statement that stands in a named graph only is listed too. So the
result is the one that the document without the names of graphs is decoded as, which is read into a single graph.
-/

namespace Sparql

/-! ## Distinct statements -/

theorem Term.same_refl (term : Term) : term.same term = true := by
  cases term <;> simp [same, Literal.same]

theorem Statement.same_refl (statement : Statement) : statement.same statement = true := by
  simp [same, Term.same_refl]

namespace Graph

variable {statement : Statement} {statements kept : List Statement}

/-- Whether no two statements of a list are the same. -/
def IsDistinct (statements : List Statement) : Prop :=
  statements.Pairwise fun first second => first.same second = false

theorem subset_insert (kept : List Statement) (statement : Statement) : kept ⊆ insert kept statement := by
  unfold insert
  split <;> simp

theorem mem_insert {other : Statement} (mem : other ∈ insert kept statement) : other ∈ kept ∨ other = statement := by
  unfold insert at mem
  split at mem
  · exact .inl mem
  · simpa using mem

theorem exists_same_insert (kept : List Statement) (statement : Statement) :
    ∃ other ∈ insert kept statement, other.same statement := by
  unfold insert
  split
  · next isKept => simpa using isKept
  · exact ⟨statement, by simp, statement.same_refl⟩

theorem IsDistinct.insert (distinct : IsDistinct kept) (statement : Statement) : IsDistinct (insert kept statement) := by
  unfold Graph.insert
  split
  · exact distinct
  · next notKept =>
      simp only [List.any_eq_true, not_exists, not_and, Bool.not_eq_true] at notKept
      exact List.pairwise_append.mpr ⟨distinct, List.pairwise_singleton _ _, by simpa using notKept⟩

/-- What is kept of some statements behind others: each of them once, and nothing else. -/
theorem foldl_insert (statements : List Statement) (distinct : IsDistinct kept) :
    IsDistinct (statements.foldl insert kept) ∧ kept ⊆ statements.foldl insert kept ∧
    (∀ other ∈ statements.foldl insert kept, other ∈ kept ∨ other ∈ statements) ∧
    ∀ statement ∈ statements, ∃ other ∈ statements.foldl insert kept, other.same statement := by
  induction statements generalizing kept with
  | nil => exact ⟨distinct, List.Subset.refl _, fun other mem => .inl mem, by simp⟩
  | cons statement statements ih =>
      rcases ih (distinct.insert statement) with ⟨staysDistinct, keeps, within, covers⟩
      refine ⟨staysDistinct, List.Subset.trans (subset_insert kept statement) keeps, ?_, ?_⟩
      · intro other mem
        rcases within other mem with isKept | isLater
        · rcases mem_insert isKept with isKept | rfl
          · exact .inl isKept
          · exact .inr (.head _)
        · exact .inr (.tail _ isLater)
      · refine List.forall_mem_cons.mpr ⟨?_, covers⟩
        rcases exists_same_insert kept statement with ⟨other, mem, same⟩
        exact ⟨other, keeps mem, same⟩

/-- What is kept of some statements is each of them once, and nothing else. -/
theorem distinct_spec (statements : List Statement) :
    IsDistinct (distinct statements) ∧ distinct statements ⊆ statements ∧
      ∀ statement ∈ statements, ∃ other ∈ distinct statements, other.same statement := by
  have nothing : IsDistinct [] := List.Pairwise.nil
  rcases foldl_insert statements nothing with ⟨isDistinct, _, within, covers⟩
  exact ⟨isDistinct, fun other mem => (within other mem).resolve_left List.not_mem_nil, covers⟩

/-! ## Sinks -/

/-- Whether a sink lists the statements of all its graphs. -/
def Sink.IsWhole : Sink → Prop
  | .graph _ => True
  | .dataset unites _ => unites = true

/-- A dataset takes up a statement as a graph does, whatever graphs it stands in. -/
theorem map_statement_addEntry (quad : Quad) (entries : List Entry) :
    (addEntry quad entries).map Entry.statement = insert (entries.map Entry.statement) quad.statement := by
  induction entries with
  | nil => rfl
  | cons entry entries ih =>
      unfold addEntry insert
      rw [List.map_cons, List.any_cons]
      by_cases same : entry.statement.same quad.statement
      · simp [same]
      · unfold insert at ih
        rw [if_neg same, List.map_cons, ih, eq_false_of_ne_true same, Bool.false_or]
        split <;> rfl

theorem Sink.IsWhole.add {sink : Sink} (isWhole : sink.IsWhole) (quad : Quad) :
    (sink.add quad).IsWhole ∧ (sink.add quad).statements = insert sink.statements quad.statement := by
  cases sink with
  | graph statements => exact ⟨trivial, rfl⟩
  | dataset unites entries =>
      cases isWhole
      exact ⟨rfl, by simpa [Sink.add, Sink.statements] using map_statement_addEntry quad entries⟩

/-- Such a sink lists each statement that it is given once, in whatever graphs. -/
theorem Sink.IsWhole.statements_foldl_add {sink : Sink} (isWhole : sink.IsWhole) (quads : List Quad) :
    (quads.foldl Sink.add sink).statements = (quads.map Quad.statement).foldl insert sink.statements := by
  induction quads generalizing sink with
  | nil => rfl
  | cons quad quads ih =>
      rcases isWhole.add quad with ⟨staysWhole, same⟩
      rw [List.foldl_cons, List.map_cons, List.foldl_cons, ih staysWhole, same]

end Graph

/-! ## Decoding -/

namespace Results

open Graph.NTriples Text

/-- Every notation is read into a sink that lists all of what it is given. -/
theorem Graph.statements_sinkOf (format : GraphFormat) (quads : List Graph.Quad) :
    (quads.foldl Graph.Sink.add (Graph.sinkOf format)).statements = Graph.distinct (quads.map Graph.Quad.statement) := by
  have isWhole : (Graph.sinkOf format).IsWhole := by cases format <;> trivial
  have isEmpty : (Graph.sinkOf format).statements = [] := by cases format <;> rfl
  rw [isWhole.statements_foldl_add, isEmpty, Graph.distinct]

/-- The quads that are read of a body in a notation. -/
def Graph.Yields (format : GraphFormat) (body : List UInt8) (quads : List Graph.Quad) : Prop :=
  (Utf8.decode? body).bind (Graph.quads? format) = some quads

theorem decode_of_yields {body : List UInt8} {quads : List Graph.Quad} {contentType : Option String}
    {format : GraphFormat} (isFormat : ResultFormat.ofMediaType? (mediaType contentType) = some (.graph format))
    (yields : Graph.Yields format body quads) :
    decode body contentType = .ok (.graph (Graph.distinct (quads.map Graph.Quad.statement))) := by
  unfold Graph.Yields at yields
  rw [decode_of_format isFormat, ResultFormat.decode, Graph.decode, yields, ← Graph.statements_sinkOf format]

/-- A name as it is written. -/
def bracketed (path : String) : List Char := '<' :: ("http".toList ++ ':' :: (path.toList ++ ['>']))

/-- The datatype of whole numbers, as it is written behind the scheme. -/
def integerPath : String := "//www.w3.org/2001/XMLSchema#integer"

/-- A triple in a graph, with the number one as its object. One of its digits is written as a code. -/
def quadLine (gap : List Char) (graph : Option String) : QuadLine where
  subject := bracketed "//h/s"
  behindSubject := gap
  predicate := bracketed "//h/p"
  behindPredicate := gap
  object := "\"0\\u0031\"^^".toList ++ bracketed integerPath
  behindObject := gap
  graph := graph.map bracketed

/-- What the line says, in whichever graph. -/
def repeatedTriple : Statement :=
  ⟨.iri "http://h/s", .iri "http://h/p", .literal ⟨"1", none, some ("http:" ++ integerPath)⟩⟩

/-- The triple in two graphs and in none, with a comment and several kinds of ends of lines. -/
def repeatedDocument (gap : List Char) : Document where
  ended := [(.quad (quadLine gap (some "//h/g")), ['\r', '\n']), (.remark "# again".toList, ['\n']),
    (.quad (quadLine gap (some "//h/other")), ['\n', '\n']), (.quad (quadLine gap none), ['\r'])]
  last := .remark []

/-- What the document says. -/
def repeatedQuads : List Graph.Quad :=
  [⟨repeatedTriple, some (.iri "http://h/g")⟩, ⟨repeatedTriple, some (.iri "http://h/other")⟩, ⟨repeatedTriple, none⟩]

theorem writesIri_bracketed {path : String} (free : isFree endsIri path.toList) :
    WritesIri (bracketed path) (String.ofList ("http".toList ++ ':' :: path.toList)) :=
  .iri (by decide) (writesText_self (by decide)) (writesText_self free)

/-- A zero in front of a whole number is left out when the number is read. -/
theorem ofText_integer :
    Literal.ofText "01" none (some ("http:" ++ integerPath)) = .ok ⟨"1", none, some ("http:" ++ integerPath)⟩ := by
  have isInteger : LexicalSpace.ofDatatype (some ("http:" ++ integerPath)) = .integer := by decide +kernel
  have canonical : LexicalSpace.integer.canonical "01" = "1" := by decide +kernel
  have hasForm : LexicalSpace.integer.hasNoForm "01".toList = false := by decide +kernel
  simp only [Literal.ofText, Option.filter_none, isInteger, hasForm, canonical, Bool.false_eq_true, if_false]

theorem quadLine_writes {gap : List Char} (areGaps : ∀ c ∈ gap, isGap c) {graph : Option String} {named : Option Term}
    (writes : WritesGraph (graph.map bracketed) named) : (quadLine gap graph).Writes ⟨repeatedTriple, named⟩ where
  gaps := by simpa [quadLine] using areGaps
  subject := ⟨_, rfl, writesIri_bracketed (by decide)⟩
  predicate := ⟨_, rfl, writesIri_bracketed (by decide)⟩
  object := by
    have isOne : WritesChar Graph.escapedBy? endsString ('\\' :: 'u' :: ['0', '0', '3', '1']) '1' := .code rfl rfl
    have number : WritesString ['0', '\\', 'u', '0', '0', '3', '1'] ['0', '1'] :=
      .cons (.plain rfl (by decide)) (.cons isOne .nil)
    exact .literal (.typed number (writesIri_bracketed (by decide)) ofText_integer)
  graph := writes
  remark := .blank (by simp [quadLine])

theorem repeatedDocument_writes {gap : List Char} (areGaps : ∀ c ∈ gap, isGap c) :
    (repeatedDocument gap).Writes repeatedQuads where
  ends := by simp [repeatedDocument]
  lines := by
    have comment : IsRemark "# again".toList := @IsRemark.comment [] " again".toList (by simp) (by simp)
    have inGraph : (quadLine gap (some "//h/g")).Writes ⟨repeatedTriple, some (.iri "http://h/g")⟩ :=
      quadLine_writes areGaps (.named (writesIri_bracketed (by decide)))
    have inOther : (quadLine gap (some "//h/other")).Writes ⟨repeatedTriple, some (.iri "http://h/other")⟩ :=
      quadLine_writes areGaps (.named (writesIri_bracketed (by decide)))
    exact .quad inGraph (.remark comment (.quad inOther
      (.quad (quadLine_writes areGaps .default) (.remark (.blank (by simp)) .nil))))

end Results

end Sparql
