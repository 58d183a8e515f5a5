import Sparql.Results.Error
import Sparql.Tabular.Rows
import Sparql.Term.Coercion
import Sparql.Text.Basic
import Sparql.Text.Utf8

/-!
# Results in delimited text

A row of variable names and rows of plain texts. An empty cell is an unbound variable.
-/

namespace Sparql.Results.Tabular

open Sparql.Tabular

/-- The variable that a cell of the first row names. -/
def variableName (cell : List Char) : String := String.ofList ((Text.trim cell).dropWhile (· = '?'))

/-- The bindings of a row. -/
def solution (names : List String) (cells : List (List Char)) : Solution :=
  (names.zip cells).foldl
    (fun solution (name, cell) =>
      if cell.isEmpty then solution
      else solution.bind (.text name) (.literal (.plain (String.ofList cell))))
    ⟨[]⟩

/-- The rows of bindings, the first of which has a given number. -/
def solutions (names : List String) : Nat → List (List (List Char)) → Outcome (List Solution)
  | _, [] => .ok []
  | number, cells :: rest =>
    if cells.length = names.length then do
      let others ← solutions names (number + 1) rest
      return solution names cells :: others
    else reject (.rowLength number cells.length names.length)

/-- The table of some rows. -/
def ofRows : List (List (List Char)) → Outcome QueryResult
  | [] => .ok (.solutions [] [])
  | header :: rest => do
    let names := header.map variableName
    let solutions ← solutions names 2 rest
    return .solutions (names.map .text) solutions

/-- The result of a body. -/
def decode (dialect : Dialect) (body : List UInt8) : Outcome QueryResult :=
  match Text.Utf8.decode? (Text.Utf8.dropMark body) with
  | none => reject .undecodableTable
  | some text =>
    match rows? dialect text with
    | none => reject .malformedTable
    | some rows => ofRows rows

end Sparql.Results.Tabular
