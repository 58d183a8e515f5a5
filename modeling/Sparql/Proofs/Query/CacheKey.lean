import Mathlib.Data.List.Sort
import Mathlib.Data.String.Basic
import Sparql.Query.CacheKey

/-!
# What a cache key identifies

The names of the graphs are put into an ascending list one by one. Such a list is determined by its members, so
neither the order of the graphs nor a repetition shows in a key. The names are joined with a colon, which may
stand in a name as well. The list of graphs tells apart what the joined names do not.
-/

namespace Sparql

namespace Text

/-- The code points of a text. -/
def codePoints (text : String) : List Nat := text.toList.map Char.toNat

theorem codePoints_lt {text other : String} (isLess : text < other) : codePoints text < codePoints other := by
  rw [String.lt_iff_toList_lt] at isLess
  unfold codePoints
  generalize text.toList = left at *
  generalize other.toList = right at *
  induction isLess with
  | nil => exact .nil
  | rel less => exact .rel less
  | cons _ ih => exact .cons ih

theorem append_lt {front text other : String} (isLess : text < other) : front ++ text < front ++ other := by
  rw [String.lt_iff_toList_lt, String.toList_append, String.toList_append]
  exact List.append_left_lt (String.lt_iff_toList_lt.mp isLess)

end Text

/-! ## Ascending lists -/

namespace CacheKey

variable {name other : String} {names others : List String}

theorem mem_insertName : other ∈ insertName name names ↔ other = name ∨ other ∈ names := by
  induction names with
  | nil => simp [insertName]
  | cons first rest ih =>
      rw [insertName]
      split
      · simp
      split
      · next same => simp [same]
      · rw [List.mem_cons, ih, List.mem_cons]
        tauto

theorem mem_sortedNames : name ∈ sortedNames names ↔ name ∈ names := by
  induction names with
  | nil => simp [sortedNames]
  | cons first rest ih => rw [sortedNames, List.foldr_cons, mem_insertName, ← sortedNames, ih, List.mem_cons]

theorem pairwise_insertName (ascending : names.Pairwise (· < ·)) : (insertName name names).Pairwise (· < ·) := by
  induction names with
  | nil => simp [insertName]
  | cons first rest ih =>
      have ⟨least, restAscending⟩ := List.pairwise_cons.mp ascending
      rw [insertName]
      split
      · next isLess =>
        refine List.pairwise_cons.mpr ⟨fun later mem => ?_, ascending⟩
        rcases List.mem_cons.mp mem with rfl | mem
        · exact isLess
        · exact isLess.trans (least later mem)
      split
      · exact ascending
      · next notLess notSame =>
        have isGreater : first < name := lt_of_le_of_ne (not_lt.mp notLess) (Ne.symm notSame)
        refine List.pairwise_cons.mpr ⟨fun later mem => ?_, ih restAscending⟩
        rcases mem_insertName.mp mem with rfl | mem
        · exact isGreater
        · exact least later mem

theorem pairwise_sortedNames : (sortedNames names).Pairwise (· < ·) := by
  induction names with
  | nil => exact .nil
  | cons first rest ih => exact pairwise_insertName ih

theorem sortedNames_eq_iff : sortedNames names = sortedNames others ↔ ∀ name, name ∈ names ↔ name ∈ others := by
  constructor
  · intro same name
    rw [← mem_sortedNames, same, mem_sortedNames]
  · intro same
    apply pairwise_sortedNames.eq_of_mem_iff pairwise_sortedNames
    intro name
    rw [mem_sortedNames, mem_sortedNames, same]

/-! ## Keys of texts and names -/

variable {text otherText : String} {graphs otherGraphs : List String}

/-- The graphs of a key are the given ones. -/
theorem mem_graphs_ofText : name ∈ (ofText text graphs).graphs ↔ ∃ graph ∈ graphs, name = "sparql:graph:" ++ graph := by
  simp only [ofText, List.mem_map, mem_sortedNames, eq_comm]

theorem pairwise_graphs_ofText : (ofText text graphs).graphs.Pairwise (· < ·) := by
  apply List.pairwise_map.mpr
  exact pairwise_sortedNames.imp Text.append_lt

theorem ofText_eq_iff :
    ofText text graphs = ofText otherText otherGraphs ↔
      (∀ name, name ∈ graphs ↔ name ∈ otherGraphs) ∧
      Text.Digest.ofBytes (Text.Utf8.encode text) = Text.Digest.ofBytes (Text.Utf8.encode otherText) := by
  have isInjective : Function.Injective ("sparql:graph:" ++ ·) := fun _ _ => (String.append_right_inj _).mp
  rw [ofText, ofText, mk.injEq, isInjective.list_map.eq_iff, sortedNames_eq_iff]
  apply and_congr_right
  -- Once the lists of names agree, the joined names stand before both digests alike.
  intro sameNames
  rw [sortedNames_eq_iff.mpr sameNames, String.append_right_inj]

end CacheKey

/-! ## Keys of given graphs -/

/-- The value is a graph's name as a text or as an IRI. -/
inductive Value.NamesGraph : Value → String → Prop
  | text (name : String) : NamesGraph (.text name) name
  | iri (name : String) : NamesGraph (.term (.iri name)) name

namespace Value.NamesGraph

variable {graph : Value} {name other : String}

theorem iff_eq (isName : graph.NamesGraph name) : graph.NamesGraph other ↔ other = name := by
  constructor
  · intro isOther
    cases isName <;> cases isOther <;> rfl
  · rintro rfl
    exact isName

theorem spell (isName : graph.NamesGraph name) : graph.spell = .ok name := by
  cases isName <;> rfl

end Value.NamesGraph

namespace CacheKey

theorem spelled_graphs {graphs : List Value} (areNamed : ∀ graph ∈ graphs, ∃ name, graph.NamesGraph name) :
    ∃ names, graphs.mapM Value.spell = .ok names ∧
      ∀ name, name ∈ names ↔ ∃ graph ∈ graphs, graph.NamesGraph name := by
  induction graphs with
  | nil => exact ⟨[], rfl, by simp⟩
  | cons graph rest ih =>
      rcases areNamed graph (by simp) with ⟨first, isFirst⟩
      rcases ih (fun other mem => areNamed other (List.mem_cons_of_mem _ mem)) with ⟨names, spelled, areNames⟩
      refine ⟨first :: names, ?_, fun name => ?_⟩
      · rw [List.mapM_cons, isFirst.spell, spelled]
        rfl
      · rw [List.mem_cons, areNames, ← isFirst.iff_eq]
        simp

theorem ofGraphs_eq {text : String} {graphs : List Value} {names : List String}
    (spelled : graphs.mapM Value.spell = .ok names) : ofGraphs text graphs = .ok (ofText text names) := by
  rw [ofGraphs, spelled]
  rfl

/-- A text and named graphs have a key. It lists the graphs by code point, each once. Two keys are the same exactly if
the graphs have the same names, in whatever order and however often, and the texts have the same digest. -/
theorem ofGraphs_identifies (text other : String) (graphs others : List Value)
    (areNamed : ∀ graph ∈ graphs ++ others, ∃ name, graph.NamesGraph name) :
    ∃ key otherKey, ofGraphs text graphs = .ok key ∧ ofGraphs other others = .ok otherKey ∧
      (key = otherKey ↔
        (∀ name, (∃ graph ∈ graphs, graph.NamesGraph name) ↔ ∃ graph ∈ others, graph.NamesGraph name) ∧
        Text.Digest.ofBytes (Text.Utf8.encode text) = Text.Digest.ofBytes (Text.Utf8.encode other)) ∧
      (∀ entry, entry ∈ key.graphs ↔ ∃ name, (∃ graph ∈ graphs, graph.NamesGraph name) ∧
        entry = "sparql:graph:" ++ name) ∧
      (key.graphs.map Text.codePoints).Pairwise (· < ·) := by
  have graphsNamed := fun graph mem => areNamed graph (List.mem_append_left others mem)
  have othersNamed := fun graph mem => areNamed graph (List.mem_append_right graphs mem)
  rcases spelled_graphs graphsNamed with ⟨names, spelled, areNames⟩
  rcases spelled_graphs othersNamed with ⟨otherNames, othersSpelled, areOtherNames⟩
  refine ⟨ofText text names, ofText other otherNames, ofGraphs_eq spelled, ofGraphs_eq othersSpelled, ?_, ?_, ?_⟩
  · simp only [ofText_eq_iff, areNames, areOtherNames]
  · simp only [mem_graphs_ofText, areNames, implies_true]
  · apply List.pairwise_map.mpr
    exact pairwise_graphs_ofText.imp Text.codePoints_lt

/-- The names of three graphs joined with colons are those of two others, and the keys tell the graphs apart. -/
theorem ofGraphs_identifies_joined :
    ∃ key other, ofGraphs "ASK" [.text "h:a", .term (.iri "g"), .text "g"] = .ok key ∧
      ofGraphs "ASK" [.term (.iri "g:h"), .text "a", .text "a"] = .ok other ∧ key ≠ other := by
  have areNamed : ∀ graph ∈
      [Value.text "h:a", .term (.iri "g"), .text "g"] ++ [.term (.iri "g:h"), .text "a", .text "a"],
      ∃ name, graph.NamesGraph name := by
    simp only [List.cons_append, List.nil_append, List.forall_mem_cons]
    exact ⟨⟨_, .text _⟩, ⟨_, .iri _⟩, ⟨_, .text _⟩, ⟨_, .iri _⟩, ⟨_, .text _⟩, ⟨_, .text _⟩, by simp⟩
  rcases ofGraphs_identifies "ASK" "ASK" _ _ areNamed with ⟨key, other, isKey, isOther, identified, -, -⟩
  refine ⟨key, other, isKey, isOther, fun same => ?_⟩
  rcases ((identified.mp same).1 "g").mp ⟨_, by simp, .text "g"⟩ with ⟨graph, mem, isNamed⟩
  simp only [List.mem_cons, List.not_mem_nil, or_false] at mem
  rcases mem with rfl | rfl | rfl <;> exact absurd (isNamed.iff_eq.mp (by constructor)) (by decide)

end CacheKey

end Sparql
