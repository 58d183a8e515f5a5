import Sparql.Failure
import Sparql.Text.Digest
import Sparql.Text.Utf8

/-!
# Cache keys

A key for an answer kept elsewhere: the graphs that a query reads, each once and in order, and the digest
of its text.
-/

namespace Sparql

/-- The names of the graphs to watch, and the name of the answer. -/
structure CacheKey where
  graphs : List String
  query : String
deriving DecidableEq, Repr

namespace CacheKey

/-- A name at its place in a strictly ascending list, unless it is there. -/
def insertName (name : String) : List String → List String
  | [] => [name]
  | first :: rest =>
    if name < first then name :: first :: rest
    else if name = first then first :: rest
    else first :: insertName name rest

/-- The names in ascending order, each once. -/
def sortedNames (names : List String) : List String := names.foldr insertName []

/-- The key of a text and the graphs it reads. -/
def ofText (text : String) (graphs : List String) : CacheKey :=
  let names := sortedNames graphs
  ⟨names.map ("sparql:graph:" ++ ·),
    "sparql:" ++ String.intercalate ":" names ++ ":" ++ Text.Digest.ofBytes (Text.Utf8.encode text)⟩

/-- The key of a text and given graphs, each by its plain text. -/
def ofGraphs (text : String) (graphs : List Value) : Outcome CacheKey := do
  return ofText text (← graphs.mapM Value.spell)

/-- A key as messages show it. -/
def display (key : CacheKey) : String :=
  Value.applied "CacheKey" ["graphs=" ++ Value.parenthesized (key.graphs.map Text.quoted), "query=" ++ Text.quoted key.query]

end CacheKey

end Sparql
