import Sparql.Term.Text

/-!
# Triple patterns

A pattern has a term in each position. No literal should be a subject, and only IRIs and variables should be
predicates. That is checked when a pattern is made of three values; a pattern that is given as such is taken as
it is.
-/

namespace Sparql

/-- A triple whose positions may hold variables. -/
structure Pattern where
  subject : Term
  predicate : Term
  object : Term
deriving DecidableEq, Repr

/-- The subject of a pattern is no literal, and its predicate is an IRI or a variable. -/
structure Pattern.IsChecked (pattern : Pattern) : Prop where
  subject : pattern.subject.isLiteral = false
  predicate : (pattern.predicate.isLiteral || pattern.predicate.isBlank) = false

instance (pattern : Pattern) : Decidable pattern.IsChecked :=
  decidable_of_iff (pattern.subject.isLiteral = false ∧
      (pattern.predicate.isLiteral || pattern.predicate.isBlank) = false)
    ⟨fun both => ⟨both.1, both.2⟩, fun checked => ⟨checked.subject, checked.predicate⟩⟩

/-- A pattern whose positions were checked. -/
abbrev CheckedPattern := { pattern : Pattern // pattern.IsChecked }

namespace Pattern

/-- The three terms in order. -/
def terms (p : Pattern) : List Term := [p.subject, p.predicate, p.object]

/-- Whether two patterns have the same terms. -/
def same (a b : Pattern) : Bool := a.subject.same b.subject && a.predicate.same b.predicate && a.object.same b.object

/-- The names of the variables, in order and with repetitions. -/
def variableNames (p : Pattern) : List String :=
  p.terms.filterMap fun
    | .variable name => some name
    | _ => none

/-- The written form of a predicate: `a` for the class relation. -/
def renderPredicate (predicate : Term) : Except RenderError String :=
  if predicate = .iri Vocabulary.rdfType then .ok "a" else predicate.render

/-- The terms in order and a stop, with spaces between them. -/
def render (p : Pattern) : Except RenderError String := do
  let subject ← p.subject.render
  let predicate ← renderPredicate p.predicate
  let object ← p.object.render
  return subject ++ " " ++ predicate ++ " " ++ object ++ " ."

/-- The written forms of several patterns. -/
def renderAll (patterns : List Pattern) : Except RenderError (List String) := patterns.mapM render

end Pattern

/-- A branch of a tagged union: patterns, the text that each alias is bound to, and for each filtered
variable the IRIs that it may equal. Like a pattern, a branch may be given as such. -/
structure BindBranch where
  patterns : List Pattern
  binds : List (String × String)
  filters : List (String × List String)
deriving DecidableEq, Repr

end Sparql
