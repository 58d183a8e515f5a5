import Mathlib.Data.List.TakeWhile
import Sparql.Proofs.Graph.Terms
import Sparql.Proofs.Text.Lines

/-!
# Documents of quads

A document has a statement or a remark on every line. Behind the object of a statement may stand the name of a graph, and
without these names the document is one of triples. Both kinds are read as the quads that are written, line by line, if
the terms of triples have blanks between them.
-/

namespace Sparql.Graph.NTriples

open Sparql.Text

/-! ## Lines -/

/-- Blanks, and perhaps a comment behind them. -/
inductive IsRemark : List Char → Prop
  | blank {gap : List Char} (areGaps : ∀ c ∈ gap, isGap c) : IsRemark gap
  | comment {gap comment : List Char} (areGaps : ∀ c ∈ gap, isGap c) (inLine : ∀ c ∈ comment, c ≠ '\n' ∧ c ≠ '\r') :
      IsRemark (gap ++ '#' :: comment)

/-- The name of a graph as it is written; the default graph has none. -/
inductive WritesGraph : Option (List Char) → Option Term → Prop
  | default : WritesGraph none none
  | named {name : List Char} {iri : String} (writes : WritesIri name iri) : WritesGraph (some name) (some (.iri iri))

/-- A line with a statement as it is written: blanks, three terms and perhaps the name of a graph, with blanks behind each
of them, a stop and a remark. -/
structure QuadLine where
  margin : List Char := []
  subject : List Char
  behindSubject : List Char
  predicate : List Char
  behindPredicate : List Char
  object : List Char
  behindObject : List Char
  graph : Option (List Char) := none
  behindGraph : List Char := []
  remark : List Char := []

namespace QuadLine

/-- What stands behind the object. -/
def tail (line : QuadLine) : List Char :=
  line.behindObject ++ (line.graph.getD [] ++ (line.behindGraph ++ '.' :: line.remark))

/-- The text of the line from its predicate on. -/
def fromPredicate (line : QuadLine) : List Char :=
  line.predicate ++ (line.behindPredicate ++ (line.object ++ line.tail))

/-- The text of the line from its subject on. -/
def fromSubject (line : QuadLine) : List Char := line.subject ++ (line.behindSubject ++ line.fromPredicate)

/-- The text of the line. -/
def chars (line : QuadLine) : List Char := line.margin ++ line.fromSubject

/-- What a line says. The subject and the predicate are IRIs, as is the name of the graph. -/
structure Writes (line : QuadLine) (quad : Quad) : Prop where
  gaps : ∀ gap ∈ [line.margin, line.behindSubject, line.behindPredicate, line.behindObject, line.behindGraph],
    ∀ c ∈ gap, isGap c
  subject : ∃ iri, quad.statement.subject = .iri iri ∧ WritesIri line.subject iri
  predicate : ∃ iri, quad.statement.predicate = .iri iri ∧ WritesIri line.predicate iri
  object : WritesObject line.object quad.statement.object
  graph : WritesGraph line.graph quad.graph
  remark : IsRemark line.remark

theorem Writes.areGaps {line : QuadLine} {quad : Quad} (writes : line.Writes quad) :
    (∀ c ∈ line.margin, isGap c) ∧ (∀ c ∈ line.behindSubject, isGap c) ∧ (∀ c ∈ line.behindPredicate, isGap c) ∧
      (∀ c ∈ line.behindObject, isGap c) ∧ ∀ c ∈ line.behindGraph, isGap c := by
  have gaps := writes.gaps
  simp only [List.forall_mem_cons] at gaps
  exact ⟨gaps.1, gaps.2.1, gaps.2.2.1, gaps.2.2.2.1, gaps.2.2.2.2.1⟩

/-- The line without the name of the graph. -/
def unnamed (line : QuadLine) : QuadLine := { line with graph := none }

/-- Whether there are blanks between the terms. -/
def IsSpaced (line : QuadLine) : Prop := line.behindSubject ≠ [] ∧ line.behindPredicate ≠ []

instance (line : QuadLine) : Decidable line.IsSpaced := inferInstanceAs (Decidable (_ ∧ _))

end QuadLine

/-- A graph has a name or is the default. -/
theorem WritesGraph.cases {written : Option (List Char)} {graph : Option Term} (writes : WritesGraph written graph) :
    written = none ∧ graph = none ∨
      ∃ name iri, written = some name ∧ graph = some (.iri iri) ∧ WritesIri name iri := by
  cases writes with
  | default => exact .inl ⟨rfl, rfl⟩
  | named writes => exact .inr ⟨_, _, rfl, rfl, writes⟩

section Reading

variable {gap rest chars : List Char} {iri : String} {named : Bool} {line : QuadLine} {quad : Quad}

theorem skipGap_append (areGaps : ∀ c ∈ gap, isGap c) (rest : List Char) : skipGap (gap ++ rest) = skipGap rest :=
  List.dropWhile_append_of_pos areGaps

theorem skipGap_of_head? (notGap : ∀ c ∈ rest.head?, isGap c = false) : skipGap rest = rest :=
  dropWhile_eq_self_of_head? notGap

theorem WritesIri.head? (writes : WritesIri chars iri) (rest : List Char) : (chars ++ rest).head? = some '<' := by
  cases writes
  rfl

theorem WritesObject.head? {term : Term} (writes : WritesObject chars term) (rest : List Char) :
    ∀ c ∈ (chars ++ rest).head?, isGap c = false := by
  cases writes with
  | iri writes =>
      rw [writes.head?]
      simp [isGap]
  | literal writes => cases writes <;> simp [isGap]

theorem skipGap_iri (writes : WritesIri chars iri) (rest : List Char) : skipGap (chars ++ rest) = chars ++ rest := by
  apply skipGap_of_head?
  rw [writes.head?]
  simp [isGap]

theorem isEmptyLine_iri (writes : WritesIri chars iri) (rest : List Char) : isEmptyLine (chars ++ rest) = false := by
  cases writes
  rfl

/-- Terms of quads may touch each other, those of triples may not. -/
theorem behindGap?_append (areGaps : ∀ c ∈ gap, isGap c) (notGap : ∀ c ∈ rest.head?, isGap c = false) :
    behindGap? named (gap ++ rest) = if named = true ∨ gap ≠ [] then some rest else none := by
  unfold behindGap?
  rw [skipGap_append areGaps, skipGap_of_head? notGap]
  cases gap with
  | nil =>
      have noGap : rest.head?.any isGap = false := by
        cases isHead : rest.head? with
        | none => rfl
        | some c => simpa using notGap c isHead
      simp [noGap]
  | cons c gap => simp [areGaps c (.head _)]

theorem skipGap_stop (rest : List Char) : skipGap ('.' :: rest) = '.' :: rest := rfl

theorem isEnd_stop {remark : List Char} (isRemark : IsRemark remark) : isEnd ('.' :: remark) = true := by
  unfold isEnd
  rw [skipGap_stop]
  cases isRemark with
  | blank areGaps =>
      have nothing : skipGap remark = [] := List.dropWhile_eq_nil_iff.mpr areGaps
      simp only [nothing]
  | @comment gap comment areGaps inLine =>
      have mark : skipGap ('#' :: comment) = '#' :: comment := skipGap_of_head? (by simp [isGap])
      simp only [skipGap_append areGaps, mark, decide_true]

theorem isEnd_append (areGaps : ∀ c ∈ gap, isGap c) (rest : List Char) : isEnd (gap ++ rest) = isEnd rest := by
  unfold isEnd
  rw [skipGap_append areGaps]

theorem EndsTerm.behindGap (areGaps : ∀ c ∈ gap, isGap c) (ends : EndsTerm rest) : EndsTerm (gap ++ rest) := by
  cases gap with
  | nil => exact ends
  | cons c gap =>
      intro d isHead
      cases isHead
      exact .inl (areGaps c (.head _))

namespace QuadLine

theorem Writes.endsTerm_tail (writes : line.Writes quad) : EndsTerm line.tail := by
  rcases writes.areGaps with ⟨_, _, _, behindObject, behindGraph⟩
  have stop : EndsTerm ('.' :: line.remark) := by simp [EndsTerm]
  refine EndsTerm.behindGap behindObject ?_
  rcases writes.graph.cases with ⟨isDefault, -⟩ | ⟨name, iri, isNamed, -, isName⟩
  · rw [isDefault, Option.getD_none, List.nil_append]
    exact EndsTerm.behindGap behindGraph stop
  · intro c isHead
    rw [isNamed, Option.getD_some, isName.head?] at isHead
    cases isHead
    exact .inr (.inl rfl)

/-- The statement ends behind the object if no graph is named. -/
theorem Writes.isEnd_tail (writes : line.Writes quad) (isTriple : line.graph = none) : isEnd line.tail = true := by
  rcases writes.areGaps with ⟨_, _, _, behindObject, behindGraph⟩
  have bothGaps : ∀ c ∈ line.behindObject ++ line.behindGraph, isGap c := by
    rw [List.forall_mem_append]
    exact ⟨behindObject, behindGraph⟩
  rw [tail, isTriple, Option.getD_none, List.nil_append, ← List.append_assoc, isEnd_append bothGaps,
    isEnd_stop writes.remark]

/-- The name of the graph is read where one may stand, and the statement ends behind it. -/
theorem Writes.graphName?_tail (writes : line.Writes quad) :
    ∃ rest, graphName? (skipGap line.tail) = some (quad.graph, rest) ∧ isEnd rest = true := by
  rcases writes.areGaps with ⟨_, _, _, behindObject, behindGraph⟩
  rw [tail, skipGap_append behindObject]
  rcases writes.graph.cases with ⟨isDefault, isGraph⟩ | ⟨name, iri, isNamed, isGraph, isName⟩
  · refine ⟨'.' :: line.remark, ?_, isEnd_stop writes.remark⟩
    rw [isDefault, isGraph, Option.getD_none, List.nil_append, skipGap_append behindGraph, skipGap_stop]
    rfl
  · refine ⟨line.behindGraph ++ '.' :: line.remark, ?_, (isEnd_append behindGraph _).trans (isEnd_stop writes.remark)⟩
    rcases iri?_append isName (line.behindGraph ++ '.' :: line.remark) with ⟨body, rfl, isRead⟩
    rw [isNamed, isGraph, Option.getD_some, skipGap_iri isName, List.cons_append, graphName?, resource?, isRead]
    rfl

/-- A line is read from its subject on. -/
theorem Writes.readLine_eq (writes : line.Writes quad) (named : Bool) :
    readLine named line.chars = (quad? named line.fromSubject).map some ∧
      resource? line.fromSubject = some (quad.statement.subject, line.behindSubject ++ line.fromPredicate) := by
  rcases writes.subject with ⟨subject, isSubject, writesSubject⟩
  refine ⟨?_, isSubject ▸ resource?_append writesSubject _⟩
  unfold readLine chars fromSubject
  rw [skipGap_append writes.areGaps.1, skipGap_iri writesSubject]
  dsimp only
  rw [isEmptyLine_iri writesSubject]
  rfl

/-- The predicate and the object of a line are read where there may be blanks, and must be in triples. -/
theorem Writes.fromPredicate_eq (writes : line.Writes quad) (named : Bool) :
    behindGap? named (line.behindSubject ++ line.fromPredicate) =
      (if named = true ∨ line.behindSubject ≠ [] then some line.fromPredicate else none) ∧
    predicate? line.fromPredicate =
      some (quad.statement.predicate, line.behindPredicate ++ (line.object ++ line.tail)) ∧
    behindGap? named (line.behindPredicate ++ (line.object ++ line.tail)) =
      (if named = true ∨ line.behindPredicate ≠ [] then some (line.object ++ line.tail) else none) ∧
    object? (line.object ++ line.tail) = some (quad.statement.object, line.tail) := by
  rcases writes.areGaps with ⟨_, behindSubject, behindPredicate, _, _⟩
  rcases writes.predicate with ⟨predicate, isPredicate, writesPredicate⟩
  have notGap : ∀ c ∈ line.fromPredicate.head?, isGap c = false := by
    rw [fromPredicate, writesPredicate.head?]
    simp [isGap]
  exact ⟨behindGap?_append behindSubject notGap, isPredicate ▸ predicate?_append writesPredicate _,
    behindGap?_append behindPredicate (writes.object.head? _), object?_append writes.object writes.endsTerm_tail⟩

/-- A line of quads is read as what it says. -/
theorem Writes.readLine_quad (writes : line.Writes quad) : readLine true line.chars = some (some quad) := by
  rcases writes.readLine_eq true with ⟨isLine, first⟩
  rcases writes.fromPredicate_eq true with ⟨gap, second, otherGap, third⟩
  rcases writes.graphName?_tail with ⟨rest, isGraph, ends⟩
  rw [isLine, quad?, first]
  simp only [Option.bind_eq_bind, Option.bind_some, gap, second, otherGap, third, isGraph, ends, true_or, if_true,
    Option.map_some]

/-- A line of triples is read as what it says, if there are blanks between its terms. -/
theorem Writes.readLine_triple (writes : line.Writes quad) (isTriple : line.graph = none) (spaced : line.IsSpaced) :
    readLine false line.chars = some (some ⟨quad.statement, none⟩) := by
  rcases writes.readLine_eq false with ⟨isLine, first⟩
  rcases writes.fromPredicate_eq false with ⟨gap, second, otherGap, third⟩
  rw [isLine, quad?, first]
  simp only [Option.bind_eq_bind, Option.bind_some, gap, second, otherGap, third, spaced.1, spaced.2,
    writes.isEnd_tail isTriple, Bool.false_eq_true, ne_eq, not_false_eq_true, or_true, if_true, if_false,
    Option.map_some]

theorem Writes.unnamed (writes : line.Writes quad) : line.unnamed.Writes ⟨quad.statement, none⟩ :=
  { writes with graph := .default }

theorem Writes.not_isAllBlank (writes : line.Writes quad) : isAllBlank line.chars = false := by
  rcases writes.subject with ⟨_, _, writesSubject⟩
  have isHead := writesSubject.head? (line.behindSubject ++ line.fromPredicate)
  have mem : '<' ∈ line.chars := List.mem_append_right _ (List.mem_of_head? isHead)
  rw [isAllBlank, List.all_eq_false]
  exact ⟨'<', mem, by decide⟩

end QuadLine

end Reading

/-! ## Documents -/

/-- A line as it is written. -/
inductive Line where
  | remark (text : List Char)
  | quad (line : QuadLine)

namespace Line

/-- The text of a line. -/
def chars : Line → List Char
  | remark text => text
  | quad line => line.chars

/-- The line without the name of a graph. -/
def unnamed : Line → Line
  | remark text => remark text
  | quad line => quad line.unnamed

/-- Whether there are blanks between the terms of the line. -/
def IsSpaced : Line → Prop
  | remark _ => True
  | quad line => line.IsSpaced

end Line

/-- Lines and the quads that they say, each line one or none. -/
inductive WritesLines : List Line → List Quad → Prop
  | nil : WritesLines [] []
  | remark {text : List Char} {lines : List Line} {quads : List Quad} (isRemark : IsRemark text)
      (others : WritesLines lines quads) : WritesLines (.remark text :: lines) quads
  | quad {line : QuadLine} {quad : Quad} {lines : List Line} {quads : List Quad} (writes : line.Writes quad)
      (others : WritesLines lines quads) : WritesLines (.quad line :: lines) (quad :: quads)

/-- Lines with their ends behind them, and a last line without one. -/
structure Document where
  ended : List (Line × List Char)
  last : Line

namespace Document

/-- The lines of a document. -/
def lines (document : Document) : List Line := document.ended.map (·.1) ++ [document.last]

/-- The text of a document. -/
def chars (document : Document) : List Char :=
  document.ended.flatMap (fun line => line.1.chars ++ line.2) ++ document.last.chars

/-- The document without the names of graphs. -/
def unnamed (document : Document) : Document :=
  ⟨document.ended.map fun line => (line.1.unnamed, line.2), document.last.unnamed⟩

/-- Whether there are blanks between the terms of every line. -/
def IsSpaced (document : Document) : Prop := ∀ line ∈ document.lines, line.IsSpaced

/-- What a document says. Every line but the last one is followed by one or more ends of lines. -/
structure Writes (document : Document) (quads : List Quad) : Prop where
  ends : ∀ line ∈ document.ended, line.2 ≠ [] ∧ ∀ c ∈ line.2, c = '\n' ∨ c = '\r'
  lines : WritesLines document.lines quads

end Document

/-! ### Lines hold no ends of lines -/

/-- Whether a text is within one line. -/
def InLine (text : List Char) : Prop := ∀ c ∈ text, isLineEnd c = false

section InLine

variable {gap text body chars : List Char} {iri : String}

theorem InLine.append {first second : List Char} (inFirst : InLine first) (inSecond : InLine second) :
    InLine (first ++ second) :=
  List.forall_mem_append.mpr ⟨inFirst, inSecond⟩

theorem InLine.cons {c : Char} (notEnd : isLineEnd c = false) (inLine : InLine text) : InLine (c :: text) :=
  List.forall_mem_cons.mpr ⟨notEnd, inLine⟩

/-- A class of characters to which neither end of a line belongs. -/
theorem isLineEnd_eq_false {holds : Char → Bool} (feed : holds '\n' = false) (carriage : holds '\r' = false) {c : Char}
    (isIn : holds c) : isLineEnd c = false := by
  by_contra isEnd
  simp only [isLineEnd, Bool.not_eq_false, Bool.or_eq_true, decide_eq_true_eq] at isEnd
  rcases isEnd with rfl | rfl
  · exact absurd isIn (by simp [feed])
  · exact absurd isIn (by simp [carriage])

theorem inLine_gap (areGaps : ∀ c ∈ gap, isGap c) : InLine gap :=
  fun c mem => isLineEnd_eq_false (by decide) (by decide) (areGaps c mem)

/-- Ends of lines are blanks, and no IRI holds any. -/
theorem not_isLineEnd {c : Char} (free : endsIri c = false) : isLineEnd c = false := by
  have feed : (!endsIri '\n') = false := by decide
  have carriage : (!endsIri '\r') = false := by decide
  exact @isLineEnd_eq_false (!endsIri ·) feed carriage c (by simp [free])

theorem inLine_iri (writes : WritesIri chars iri) : InLine chars := by
  cases writes with
  | iri notEmpty isScheme isPath =>
      have scheme : InLine _ := fun c mem => not_isLineEnd (Bool.or_eq_false_iff.mp (not_endsScheme_of_writes isScheme c mem)).1
      have path : InLine _ := fun c mem => not_isLineEnd (not_endsIri_of_writes isPath c mem)
      exact .cons rfl (scheme.append (.cons rfl (path.append (.cons rfl (by simp [InLine])))))

theorem inLine_string (within : WritesString body text) : InLine body := by
  refine within.forall_mem rfl ?_ ?_ fun c bare => not_isLineEnd bare.1
  · intro c free _
    simp only [endsString, Bool.or_eq_false_iff] at free
    simp [isLineEnd, free]
  · intro letter c means
    unfold escapedBy? at means
    split at means <;> first | rfl | cases means

theorem not_isLineEnd_alphanum {c : Char} (isAlphanum : c.isAlphanum) : isLineEnd c = false :=
  isLineEnd_eq_false (by decide) (by decide) isAlphanum

theorem inLine_tag {tag : List Char} (isTag : IsTag tag) : InLine tag := by
  cases isTag with
  | tag notEmpty areLetters areParts =>
      have first : InLine _ := fun c mem => not_isLineEnd_alphanum (isAlphanum_of_isAlpha (areLetters c mem))
      refine first.append ?_
      intro c mem
      rcases List.mem_flatMap.mp mem with ⟨part, isPart, mem⟩
      rcases List.mem_cons.mp mem with rfl | mem
      · rfl
      · exact not_isLineEnd_alphanum ((areParts part isPart).2 c mem)

theorem inLine_object {term : Term} (writes : WritesObject chars term) : InLine chars := by
  cases writes with
  | iri writes => exact inLine_iri writes
  | literal writes =>
      cases writes with
      | plain within => exact .cons rfl ((inLine_string within).append (.cons rfl (by simp [InLine])))
      | tagged within isTag =>
          exact .cons rfl ((inLine_string within).append (.cons rfl (.cons rfl (inLine_tag isTag))))
      | typed within isDatatype _ =>
          exact .cons rfl ((inLine_string within).append (.cons rfl (.cons rfl (.cons rfl (inLine_iri isDatatype)))))

theorem inLine_remark (isRemark : IsRemark text) : InLine text := by
  cases isRemark with
  | blank areGaps => exact inLine_gap areGaps
  | comment areGaps inLine =>
      refine (inLine_gap areGaps).append (.cons rfl ?_)
      intro c mem
      simp [isLineEnd, inLine c mem]

theorem QuadLine.Writes.inLine {line : QuadLine} {quad : Quad} (writes : line.Writes quad) :
    InLine line.chars := by
  rcases writes.areGaps with ⟨margin, behindSubject, behindPredicate, behindObject, behindGraph⟩
  rcases writes.subject with ⟨_, _, subject⟩
  rcases writes.predicate with ⟨_, _, predicate⟩
  have graph : InLine (line.graph.getD []) := by
    rcases writes.graph.cases with ⟨isDefault, -⟩ | ⟨name, iri, isNamed, -, isName⟩
    · simp [isDefault, InLine]
    · rw [isNamed]
      exact inLine_iri isName
  have tail : InLine line.tail :=
    (inLine_gap behindObject).append (graph.append ((inLine_gap behindGraph).append (.cons rfl (inLine_remark writes.remark))))
  exact (inLine_gap margin).append ((inLine_iri subject).append ((inLine_gap behindSubject).append
    ((inLine_iri predicate).append ((inLine_gap behindPredicate).append ((inLine_object writes.object).append tail)))))

end InLine

/-! ## Reading documents -/

section Reading

variable {named : Bool} {lines : List Line} {quads : List Quad} {document : Document} {text : List Char}

/-- What some lines say, if each of them can be read. -/
def collect (named : Bool) (lines : List (List Char)) : Option (List Quad) :=
  (lines.mapM (readLine named)).map (·.filterMap id)

theorem collect_cons (line : List Char) (others : List (List Char)) : collect named (line :: others) =
    (readLine named line).bind fun quad => (collect named others).map (quad.toList ++ ·) := by
  unfold collect
  rw [List.mapM_cons]
  rcases readLine named line with _ | _ | quad <;> cases others.mapM (readLine named) <;> rfl

/-- A line that says nothing may be left out at the end. -/
theorem collect_concat {others : List (List Char)} {line : List Char} (isNone : readLine named line = some none) :
    collect named (others ++ [line]) = collect named others := by
  induction others with
  | nil =>
      rw [List.nil_append, collect_cons, isNone]
      rfl
  | cons other others ih => rw [List.cons_append, collect_cons, collect_cons, ih]

/-- Empty lines say nothing. -/
theorem collect_filled (others : List (List Char)) : collect named (filled others) = collect named others := by
  induction others with
  | nil => rfl
  | cons other others ih =>
      by_cases isEmpty : other = []
      · subst isEmpty
        rw [filled_cons_nil, ih, collect_cons]
        cases collect named others <;> rfl
      · have kept : filled (other :: others) = other :: filled others := List.filter_cons_of_pos (by simpa using isEmpty)
        rw [kept, collect_cons, collect_cons, ih]

/-- The quads of a text are those of its lines, if all that its blank lines may say is nothing. -/
theorem quads?_eq_collect {others : List (List Char)} (same : filled (Text.lines (unifyLines text)) = filled others)
    (blank : ∀ line ∈ others, isAllBlank line → readLine named line = some none) :
    quads? named text = collect named others := by
  have blankLine : ∀ line ∈ Text.lines (unifyLines text), isAllBlank line → readLine named line = some none := by
    intro line mem isBlank
    by_cases isEmpty : line = []
    · subst isEmpty
      rfl
    · have inFilled : line ∈ filled (Text.lines (unifyLines text)) := List.mem_filter.mpr ⟨mem, by simpa using isEmpty⟩
      rw [same] at inFilled
      exact blank line (List.mem_filter.mp inFilled).1 isBlank
  have whole : quads? named text = collect named (Text.lines (unifyLines text)) := by
    -- The reader leaves the last line out if it is blank, which changes nothing.
    change collect named (documentLines text) = _
    unfold documentLines
    dsimp only
    split
    · next last isLast =>
        split
        · next isBlank =>
            rcases List.getLast?_eq_some_iff.mp isLast with ⟨front, isText⟩
            have isNone := blankLine last (List.mem_of_getLast? isLast) isBlank
            rw [isText, List.dropLast_concat, collect_concat isNone]
        · rfl
    · rfl
  rw [whole, ← collect_filled, same, collect_filled]

theorem readLine_remark (isRemark : IsRemark text) : readLine named text = some none := by
  cases isRemark with
  | blank areGaps =>
      have nothing : skipGap text = [] := List.dropWhile_eq_nil_iff.mpr areGaps
      rw [readLine, nothing]
      rfl
  | @comment gap comment areGaps inLine =>
      have mark : skipGap ('#' :: comment) = '#' :: comment := skipGap_of_head? (by simp [isGap])
      rw [readLine, skipGap_append areGaps, mark]
      rfl

theorem collect_remark (isRemark : IsRemark text) (others : List (List Char)) :
    collect named (text :: others) = collect named others := by
  rw [collect_cons, readLine_remark isRemark]
  cases collect named others <;> rfl

/-- The lines of a document of quads say its quads. -/
theorem collect_quads (writes : WritesLines lines quads) : collect true (lines.map Line.chars) = some quads := by
  induction writes with
  | nil => rfl
  | remark isRemark _ ih =>
      rw [List.map_cons, Line.chars, collect_remark isRemark]
      exact ih
  | quad writes _ ih =>
      rw [List.map_cons, collect_cons, Line.chars, writes.readLine_quad, ih]
      rfl

/-- The lines without names of graphs say the same statements, if there are blanks between all terms. -/
theorem collect_triples (writes : WritesLines lines quads) (spaced : ∀ line ∈ lines, line.IsSpaced) :
    collect false (lines.map fun line => line.unnamed.chars) =
      some (quads.map fun quad => ⟨quad.statement, none⟩) := by
  induction writes with
  | nil => rfl
  | remark isRemark _ ih =>
      rw [List.forall_mem_cons] at spaced
      rw [List.map_cons, Line.unnamed, Line.chars, collect_remark isRemark]
      exact ih spaced.2
  | quad writes _ ih =>
      rw [List.forall_mem_cons] at spaced
      rw [List.map_cons, collect_cons, Line.unnamed, Line.chars, writes.unnamed.readLine_triple rfl spaced.1,
        ih spaced.2]
      rfl

/-! ### The quads of a document -/

theorem WritesLines.inLine (writes : WritesLines lines quads) : ∀ line ∈ lines, InLine line.chars := by
  induction writes with
  | nil => simp
  | remark isRemark _ ih => exact List.forall_mem_cons.mpr ⟨inLine_remark isRemark, ih⟩
  | quad writes _ ih => exact List.forall_mem_cons.mpr ⟨writes.inLine, ih⟩

theorem WritesLines.unnamed (writes : WritesLines lines quads) :
    WritesLines (lines.map Line.unnamed) (quads.map fun quad => ⟨quad.statement, none⟩) := by
  induction writes with
  | nil => exact .nil
  | remark isRemark _ ih => exact .remark isRemark ih
  | quad writes _ ih => exact .quad writes.unnamed ih

/-- A blank line says nothing. -/
theorem WritesLines.readLine_blank (writes : WritesLines lines quads) :
    ∀ line ∈ lines, isAllBlank line.chars → readLine named line.chars = some none := by
  induction writes with
  | nil => simp
  | remark isRemark _ ih => exact List.forall_mem_cons.mpr ⟨fun _ => readLine_remark isRemark, ih⟩
  | quad writes _ ih =>
      refine List.forall_mem_cons.mpr ⟨fun isBlank => ?_, ih⟩
      exact absurd isBlank (by simp [Line.chars, writes.not_isAllBlank])

namespace Document

theorem lines_unnamed (document : Document) : document.unnamed.lines = document.lines.map Line.unnamed := by
  simp [Document.lines, unnamed]

theorem Writes.unnamed (writes : document.Writes quads) :
    document.unnamed.Writes (quads.map fun quad => ⟨quad.statement, none⟩) where
  ends := by
    intro line mem
    rcases List.mem_map.mp mem with ⟨named, isNamed, rfl⟩
    exact writes.ends named isNamed
  lines := by
    rw [lines_unnamed]
    exact writes.lines.unnamed

/-- What is read of a document is what its lines say. -/
theorem Writes.quads?_eq (writes : document.Writes quads) :
    quads? named document.chars = collect named (document.lines.map Line.chars) := by
  have areLines : document.lines.map Line.chars =
      (document.ended.map fun line => (line.1.chars, line.2)).map (·.1) ++ [document.last.chars] := by
    simp [Document.lines]
  have isText : document.chars = (document.ended.map fun line => (line.1.chars, line.2)).flatMap (fun line =>
      line.1 ++ line.2) ++ document.last.chars := by
    simp [chars, List.flatMap_map]
  apply quads?_eq_collect
  · rw [isText, areLines]
    apply filled_lines_ended
    · rw [← areLines, List.forall_mem_map]
      exact writes.lines.inLine
    · rw [List.forall_mem_map]
      intro line mem
      rcases writes.ends line mem with ⟨notEmpty, areEnds⟩
      refine ⟨notEmpty, fun c isEnd => ?_⟩
      simpa [isLineEnd] using areEnds c isEnd
  · rw [List.forall_mem_map]
    exact writes.lines.readLine_blank

/-- A document of quads is read as the quads that it says. -/
theorem Writes.quads?_quads (writes : document.Writes quads) : quads? true document.chars = some quads := by
  rw [writes.quads?_eq, collect_quads writes.lines]

/-- Without the names of graphs it is read as triples, if there are blanks between the terms of every line. -/
theorem Writes.quads?_triples (writes : document.Writes quads) (spaced : document.IsSpaced) :
    quads? false document.unnamed.chars = some (quads.map fun quad => ⟨quad.statement, none⟩) := by
  rw [writes.unnamed.quads?_eq, lines_unnamed, List.map_map]
  exact collect_triples writes.lines spaced

end Document

end Reading

end Sparql.Graph.NTriples
