import Sparql.Xml.Document

/-!
# Normal forms of written XML

A text is the content of an element if it can stand inside one. Its normal form writes the nodes that it is
made of again, each in one way.
-/

namespace Sparql.Xml

/-- A character of a text or a value. -/
def escapeChar (c : Char) : List Char :=
  if c = '&' then "&amp;".toList
  else if c = '<' then "&lt;".toList
  else if c = '>' then "&gt;".toList
  else if c = '"' then "&quot;".toList
  else [c]

/-- An attribute behind a space. -/
def attributeText (name : List Char) (value : String) : List Char :=
  ' ' :: name ++ '=' :: '"' :: value.toList.flatMap escapeChar ++ ['"']

/-- The name of the attribute that declares a namespace for a prefix. -/
def declarationName (mark : List Char) : List Char :=
  if mark.isEmpty then "xmlns".toList else "xmlns:".toList ++ mark

/-- An opening up to its end, with the declarations of namespaces before other attributes. -/
def Tag.beginning (tag : Tag) : List Char :=
  '<' :: tag.written ++ tag.declared.flatMap (fun (mark, space) => attributeText (declarationName mark) space)
    ++ tag.attributes.flatMap fun given => attributeText given.written given.value

mutual

/-- The text of a node. -/
def Node.written : Node → List Char
  | .element tag children =>
    match writtenAll children with
    | [] => tag.beginning ++ ['/', '>']
    | content => tag.beginning ++ '>' :: content ++ '<' :: '/' :: tag.written ++ ['>']
  | .text value => value.flatMap escapeChar
  | .verbatim value => if value.isEmpty then [] else "<![CDATA[".toList ++ value ++ "]]>".toList
  | .entity name => '&' :: name ++ [';']
  | .comment text => "<!--".toList ++ text ++ "-->".toList
  | .instruction target text => '<' :: '?' :: target ++ ' ' :: text ++ ['?', '>']

/-- The text of some nodes, one after the other. -/
def writtenAll : List Node → List Char
  | [] => []
  | node :: rest => node.written ++ writtenAll rest

end

mutual

/-- How many elements stand inside each other in a node. -/
def Node.height : Node → Nat
  | .element _ children => heightAll children + 1
  | _ => 0

/-- How many elements stand inside each other among some nodes. -/
def heightAll : List Node → Nat
  | [] => 0
  | node :: rest => max node.height (heightAll rest)

end

/-- How many elements may stand inside each other in a text that has a normal form. -/
def highest : Nat := 960

/-- The nodes of a text that can stand inside an element. -/
def content? (text : List Char) : Option (List Node) :=
  match rootOf? .replacing false ("<content>".toList ++ text ++ "</content>".toList) with
  | some root => if heightAll root.children ≤ highest then some root.children else none
  | none => none

/-- The normal form of a text that can stand inside an element. -/
def normalForm? (text : List Char) : Option (List Char) := (content? text).map writtenAll

end Sparql.Xml
