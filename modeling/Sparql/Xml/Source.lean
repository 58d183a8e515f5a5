import Sparql.Text.Encoding
import Sparql.Xml.Document

/-!
# Documents as bytes and texts

A document may begin with a declaration, which tells its version, how it is encoded and whether it stands
alone. A text that has been decoded already needs no encoding.
-/

namespace Sparql.Xml

/-- What the declaration of a document tells. -/
structure Heading where
  encoding : Option String := none
  isStandalone : Bool := false
deriving DecidableEq, Repr

/-- A character inside the name of an encoding. -/
def isEncodingChar (c : Char) : Bool := c.isAlphanum || c = '.' || c = '_' || c = '-'

/-- Whether a text can name an encoding. -/
def isEncodingName (name : List Char) : Bool := name.head?.any Char.isAlpha && name.all isEncodingChar

/-- Whether a text can be a version. Where documents are checked, it is one that is known. -/
def isVersion (practice : Practice) (version : List Char) : Bool :=
  match practice with
  | .referring => version.take 2 = ['1', '.'] && (version.drop 2).all Char.isDigit
  | .replacing => version.all isEncodingChar

/-- Whether a document stands alone, in the words of its declaration. -/
def standalone? (word : List Char) : Option Bool :=
  match String.ofList word with
  | "yes" => some true
  | "no" => some false
  | _ => none

/-- What the attributes of a declaration tell. They have a fixed order, and the version is never lacking. -/
def heading? (practice : Practice) (attributes : List (List Char × List Char)) : Option Heading :=
  match attributes with
  | [] => none
  | (first, version) :: rest =>
    if first ≠ "version".toList || !isVersion practice version then none
    else match rest.map fun (name, value) => (String.ofList name, value) with
      | [] => some {}
      | [("encoding", name)] => if isEncodingName name then some ⟨some (String.ofList name), false⟩ else none
      | [("standalone", word)] => (standalone? word).map fun isStandalone => ⟨none, isStandalone⟩
      | [("encoding", name), ("standalone", word)] =>
        if isEncodingName name then
          (standalone? word).map fun isStandalone => ⟨some (String.ofList name), isStandalone⟩
        else none
      | _ => none

/-- The text of a declaration, and what stands behind it. -/
def declarationText? (text : List Char) : Option (List Char × List Char) := do
  let rest ← after? "<?xml".toList text
  let _ ← afterSpace? rest
  splitAt? "?>" rest

/-- What a declaration tells, from its text. -/
def headingOf? (practice : Practice) (declaration : List Char) : Option Heading := do
  let (attributes, isEmpty, rest) ← attributesFrom practice [] (declaration.length + 1) (declaration ++ ['>'])
  if isEmpty || !rest.isEmpty then none
  heading? practice attributes

/-- The root of the document of a text, in which a declaration counts but for the encoding. -/
def rootOfText? (practice : Practice) (text : List Char) : Option Node :=
  match declarationText? text with
  | none => rootOf? practice false text
  | some (declaration, rest) => do
    let heading ← headingOf? practice declaration
    rootOf? practice heading.isStandalone rest

/-- The root of the document of some bytes. The first of them may tell how they are encoded; else the
declaration does, and without one it is UTF-8. -/
def rootOfBytes? (practice : Practice) (bytes : List UInt8) : Option Node :=
  match Text.Encoding.ofBeginning? bytes with
  | some (encoding, count) => (encoding.decode? (bytes.drop count)).bind (rootOfText? practice)
  | none =>
    match declarationText? ((bytes.take 1024).map fun byte => Char.ofNat byte.toNat) with
    | none => (Text.Utf8.decode? bytes).bind (rootOfText? practice)
    | some (declaration, _) => do
      let heading ← headingOf? practice declaration
      let encoding ← Text.Encoding.ofName? (heading.encoding.getD "utf-8")
      let text ← encoding.decode? (bytes.drop (declaration.length + 7))
      rootOf? practice heading.isStandalone text

/-- The root of the document of a text that has been decoded already, before which a byte-order mark may
stand. -/
def rootOfDecoded? (practice : Practice) (text : List Char) : Option Node :=
  rootOfText? practice (if text.head? = some '\uFEFF' then text.drop 1 else text)

end Sparql.Xml
