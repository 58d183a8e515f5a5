import Sparql.Text.Hex

/-!
# Relative IRIs

A relative IRI stands for another one, given the IRI of a base. Formats differ in how they find it.
-/

/-!
## Relative IRIs, step by step

A relative IRI is put behind the directory of a base. Steps upwards are taken only at its beginning; dots
further on stay as they are.
-/

namespace Sparql.Iri

/-- The base of a document that comes from nowhere. -/
def localBase : List Char := "file:///".toList

/-- A text before its last number sign, and from it on. -/
def splitFragment (text : List Char) : List Char × List Char :=
  if text.contains '#' then
    let fragment := (text.reverse.takeWhile (· ≠ '#')).reverse
    (text.take (text.length - fragment.length - 1), '#' :: fragment)
  else (text, [])

/-- Whether a scheme stands before the first slash. -/
def isAbsolute (text : List Char) : Bool := (text.takeWhile (· ≠ '/')).contains ':'

/-- A path up to its last slash. -/
def directory (path : List Char) : List Char := (path.reverse.dropWhile (· ≠ '/')).reverse

/-- The directory above one that ends in a slash, but not above the root. -/
def parent (path : List Char) : List Char :=
  match directory path.dropLast with
  | [] => path
  | above => above

/-- A path put behind a directory, with the dots at its beginning taken as steps. -/
def steps (path : List Char) : List Char → List Char
  | '.' :: '/' :: '.' :: '.' :: '/' :: rest => steps (parent path) rest
  | ['.', '/', '.', '.'] => parent path
  | ['.', '/', '.'] => path
  | '.' :: '/' :: rest => path ++ rest
  | '.' :: '.' :: '/' :: rest => steps (parent path) rest
  | ['.', '.'] => parent path
  | ['.'] => path
  | rest => path ++ rest

/-- A base up to the colon behind its scheme, then up to its path, and its path. -/
def parts (base : List Char) : List Char × List Char × List Char :=
  let scheme := base.takeWhile (· ≠ ':') ++ [':']
  match base.drop scheme.length with
  | '/' :: '/' :: rest => (scheme, '/' :: '/' :: rest.takeWhile (· ≠ '/'), rest.dropWhile (· ≠ '/'))
  | rest => (scheme, [], rest)

/-- A relative path and its fragment put behind a base. A base without a path has that of the root; a base
whose path does not begin with a slash has no directory. -/
def joinPath (base path fragment : List Char) : Option (List Char) :=
  let (scheme, authority, root) := parts base
  let root := if root.isEmpty && !authority.isEmpty then ['/'] else root
  if root.head? ≠ some '/' then none
  else
    match path with
    | '/' :: '/' :: _ => some (scheme ++ path ++ fragment)
    | '/' :: _ => some (scheme ++ authority ++ path ++ fragment)
    | _ => some (scheme ++ authority ++ steps (directory root) path ++ fragment)

/-- The IRI that a reference stands for next to a base. A fragment of the base is a part of its path. -/
def join? (base reference : List Char) : Option (List Char) :=
  if isAbsolute reference then some reference
  else if !base.contains ':' then none
  else
    match splitFragment reference with
    | ([], fragment) => some (base ++ fragment)
    | (path, fragment) => joinPath base path fragment

/-!
## Hosts between brackets

What may stand between square brackets in the authority of a reference: an address of eight groups of
hexadecimal digits, or one of a future kind, which begins with a `v`.
-/

open Sparql.Text

/-- The parts of a text between colons. -/
def groups (text : List Char) : List (List Char) := text.splitOn ':'

/-- A group of one to four hexadecimal digits. -/
def isGroup (group : List Char) : Bool :=
  !group.isEmpty && group.length ≤ 4 && group.all fun c => (hexValue? c).isSome

/-- A number below 256 in decimal digits, without zeros before it. -/
def isOctet (part : List Char) : Bool :=
  !part.isEmpty && part.length ≤ 3 && part.all Char.isDigit && (part.length = 1 || part.head? ≠ some '0')
    && part.foldl (fun sum c => sum * 10 + (c.toNat - 48)) 0 < 256

/-- Four octets between points. -/
def isDotted (text : List Char) : Bool :=
  let parts := text.splitOn '.'
  parts.length = 4 && parts.all isOctet

/-- The groups of an address with a dotted part at its end, which counts for two; none if that is wrong. -/
def withoutDotted (parts : List (List Char)) : Option (List (List Char)) :=
  match parts.getLast? with
  | some last =>
    if !last.contains '.' then some parts
    else if isDotted last then some (parts.dropLast ++ [['0'], ['0']])
    else none
  | none => some parts

/-- Whether some groups are an address. Two colons stand for the groups that are missing. -/
def areAddress (parts : List (List Char)) : Bool :=
  let inner := (parts.drop 1).dropLast
  let gaps := (inner.filter List.isEmpty).length
  let startsOpen := parts.head? = some []
  let endsOpen := parts.getLast? = some []
  let second := parts[1]?
  let butLast := parts.dropLast.getLast?
  if gaps = 0 then parts.length = 8 && parts.all isGroup
  else
    let front := inner.takeWhile (!·.isEmpty)
    let back := (inner.dropWhile (!·.isEmpty)).drop 1
    let whole := (if startsOpen then [] else parts.take 1) ++ front ++ back
      ++ (if endsOpen then [] else parts.drop (parts.length - 1))
    gaps = 1 && whole.all isGroup && whole.length < 8
      && (!startsOpen || second = some []) && (!endsOpen || butLast = some [])

/-- Whether a text is an address of groups, perhaps with a zone behind a percent sign. -/
def isGroupedAddress (text : List Char) : Bool :=
  let address := text.takeWhile (· ≠ '%')
  let zone := text.drop address.length
  let isZone := match zone with
    | [] => true
    | _ :: zone => !zone.isEmpty && !zone.contains '%'
  let parts := groups address
  isZone && 3 ≤ parts.length && parts.length ≤ 9 && (withoutDotted parts).any areAddress

/-- Whether a text is an address of a future kind: a version, a point and anything. -/
def isFutureAddress (text : List Char) : Bool :=
  match text with
  | 'v' :: rest =>
    let version := rest.takeWhile fun c => (hexValue? c).isSome
    !version.isEmpty && (match rest.drop version.length with
      | '.' :: _ :: _ => true
      | _ => false)
  | _ => false

/-- Whether a text may stand between brackets. -/
def isBracketedHost (text : List Char) : Bool :=
  if text.head? = some 'v' then isFutureAddress text else isGroupedAddress text

/-- Characters that other forms of writing take for marks between the parts of a reference. -/
def disguisedMarks : List Nat := [
  0x2047, 0x2048, 0x2049, 0x2100, 0x2101, 0x2105, 0x2106, 0x2A74, 0xFE13, 0xFE16, 0xFE55, 0xFE56, 0xFE5F,
  0xFE6B, 0xFF03, 0xFF0F, 0xFF1A, 0xFF1F, 0xFF20]

/-- Whether an authority can stand in a reference: its first brackets, if it has any, enclose a host, and no
mark is disguised. -/
def isAuthority (text : List Char) : Bool :=
  let host := ((text.dropWhile (· ≠ '[')).drop 1).takeWhile (· ≠ ']')
  (text.contains '[' == text.contains ']') && (!text.contains '[' || isBracketedHost host)
    && !text.any fun c => disguisedMarks.contains c.toNat

/-!
## Relative IRIs, part by part

A reference is taken apart into scheme, authority, path, query and fragment, of which those that it lacks
come from a base. Dots in the path are taken as steps wherever they stand. A reference whose authority makes
no sense stands for nothing.
-/

/-- The parts of a reference; those that it lacks are empty. -/
structure Reference where
  scheme : List Char := []
  authority : List Char := []
  path : List Char := []
  query : List Char := []
  fragment : List Char := []
deriving DecidableEq, Repr

namespace Reference

/-- A character of a scheme. -/
def isSchemeChar (c : Char) : Bool := c.isAlphanum || c = '+' || c = '-' || c = '.'

/-- A scheme in lower case and what stands behind its colon; without a scheme, a given one and the whole
text. -/
def splitScheme (absent text : List Char) : List Char × List Char :=
  let scheme := text.takeWhile (· ≠ ':')
  match text.drop scheme.length with
  | [] => (absent, text)
  | _ :: rest =>
    if scheme.head?.any Char.isAlpha && scheme.all isSchemeChar then (scheme.map Char.toLower, rest)
    else (absent, text)

/-- A text before a mark and behind it. -/
def splitMark (mark : Char) (text : List Char) : List Char × List Char :=
  (text.takeWhile (· ≠ mark), (text.dropWhile (· ≠ mark)).drop 1)

/-- An authority behind two slashes, and what stands behind it. -/
def splitAuthority : List Char → List Char × List Char
  | '/' :: '/' :: rest =>
    let ends (c : Char) : Bool := c = '/' || c = '?' || c = '#'
    (rest.takeWhile (!ends ·), rest.dropWhile (!ends ·))
  | rest => ([], rest)

/-- The text without the controls and spaces at its beginning, and without tabs and line ends. -/
def clean (text : List Char) : List Char :=
  (text.dropWhile (·.toNat ≤ 32)).filter fun c => c ≠ '\t' && c ≠ '\n' && c ≠ '\r'

/-- The parts of a text, which has a given scheme unless it names its own. -/
def ofText? (absent text : List Char) : Option Reference :=
  let (scheme, rest) := splitScheme absent (clean text)
  let (authority, rest) := splitAuthority rest
  let (rest, fragment) := splitMark '#' rest
  let (path, query) := splitMark '?' rest
  if isAuthority authority then some ⟨scheme, authority, path, query, fragment⟩ else none

/-- The schemes whose references are relative to a base. -/
def relativeSchemes : List String := [
  "", "ftp", "http", "gopher", "nntp", "imap", "wais", "file", "https", "shttp", "mms", "prospero", "rtsp",
  "rtsps", "rtspu", "sftp", "svn", "svn+ssh", "ws", "wss"]

/-- The schemes whose references have an authority, even if it is empty. -/
def authoritySchemes : List String := [
  "ftp", "http", "gopher", "nntp", "telnet", "imap", "wais", "file", "mms", "https", "shttp", "snews",
  "prospero", "rtsp", "rtsps", "rtspu", "rsync", "svn", "svn+ssh", "sftp", "nfs", "git", "git+ssh", "ws", "wss"]

/-- The schemes whose paths may end in parameters. -/
def parameterSchemes : List String := [
  "", "ftp", "hdl", "prospero", "http", "imap", "https", "shttp", "rtsp", "rtsps", "rtspu", "sip", "sips",
  "mms", "sftp", "tel"]

/-- Whether a scheme is one of some. -/
def isAmong (scheme : List Char) (schemes : List String) : Bool := schemes.contains (String.ofList scheme)

/-- A part behind its mark, unless it is empty. -/
def marked (mark : Char) (part : List Char) : List Char := if part.isEmpty then [] else mark :: part

/-- The text of some parts. -/
def toText (parts : Reference) : List Char :=
  let hasAuthority := !parts.authority.isEmpty || isAmong parts.scheme authoritySchemes
    || parts.path.take 2 = ['/', '/']
  let slash := if parts.path.isEmpty || parts.path.head? = some '/' then [] else ['/']
  let located := if hasAuthority then '/' :: '/' :: parts.authority ++ slash ++ parts.path else parts.path
  let scheme := if parts.scheme.isEmpty then [] else parts.scheme ++ [':']
  scheme ++ located ++ marked '?' parts.query ++ marked '#' parts.fragment

/-- A path without the parameters behind its last segment, and those. -/
def splitParameters (parts : Reference) : List Char × List Char :=
  if isAmong parts.scheme parameterSchemes then
    let last := (parts.path.reverse.takeWhile (· ≠ '/')).reverse
    let (own, parameters) := splitMark ';' last
    (parts.path.take (parts.path.length - last.length) ++ own, parameters)
  else (parts.path, [])

/-- The parts with another path and parameters behind it. -/
def withPath (parts : Reference) (path parameters : List Char) : Reference :=
  { parts with path := path ++ marked ';' parameters }

/-- The parts without a semicolon that no parameters follow. -/
def tidy (parts : Reference) : Reference :=
  let (path, parameters) := parts.splitParameters
  parts.withPath path parameters

/-- The parts of a path between slashes. -/
def segments (path : List Char) : List (List Char) := path.splitOn '/'

/-- The segments before the last, and the last. -/
def splitLast (segments : List (List Char)) : List (List Char) × List (List Char) :=
  (segments.dropLast, segments.getLast?.toList)

/-- The segments of a directory and of a path below it. Between the first and the last none is empty. -/
def joined (directory below : List (List Char)) : List (List Char) :=
  match directory ++ below with
  | [] => []
  | first :: rest =>
    let (inner, last) := splitLast rest
    first :: inner.filter (!·.isEmpty) ++ last

/-- The segments after the steps that dots among them stand for. -/
def walk (segments : List (List Char)) : List (List Char) :=
  segments.foldl
    (fun walked segment =>
      if segment = ['.', '.'] then walked.dropLast
      else if segment = ['.'] then walked
      else walked ++ [segment])
    []

/-- The path of some segments, the last of which may be a step. -/
def pathOf (segments : List (List Char)) : List Char :=
  let isStep := segments.getLast?.any fun last => last = ['.'] || last = ['.', '.']
  let walked := walk segments ++ (if isStep then [[]] else [])
  match ['/'].intercalate walked with
  | [] => ['/']
  | path => path

/-- A relative path put behind the directory of a base path. -/
def joinPaths (base path : List Char) : List Char :=
  if path.head? = some '/' then pathOf (segments path)
  else
    let directory := segments base
    let directory := if directory.getLast? = some [] then directory else directory.dropLast
    pathOf (joined directory (segments path))

/-- The parts of a reference next to those of a base, of which it takes what it lacks. -/
def onto (inner outer : Reference) : Reference :=
  let (path, parameters) := inner.splitParameters
  let (basePath, baseParameters) := outer.splitParameters
  if !inner.authority.isEmpty then inner.withPath path parameters
  else
    let inner := { inner with authority := outer.authority }
    if path.isEmpty && parameters.isEmpty then
      let query := if inner.query.isEmpty then outer.query else inner.query
      { inner with query }.withPath basePath baseParameters
    else inner.withPath (joinPaths basePath path) parameters

/-- The IRI that a reference stands for next to a base. -/
def resolve? (base text : List Char) : Option (List Char) :=
  if base.isEmpty then some text
  else if text.isEmpty then some base
  else do
    let outer ← ofText? [] base
    let inner ← ofText? outer.scheme text
    if inner.scheme ≠ outer.scheme || !isAmong inner.scheme relativeSchemes then return text
    return (inner.onto outer).toText

/-- The IRI that a reference stands for next to a base. A number sign at its end stays. -/
def resolveExactly? (base text : List Char) : Option (List Char) :=
  (resolve? base text).map fun result =>
    if text.getLast? = some '#' && result.getLast? ≠ some '#' then result ++ ['#'] else result

/-- An IRI without its fragment. -/
def withoutFragment? (text : List Char) : Option (List Char) :=
  if text.contains '#' then (ofText? [] text).map fun parts => { parts with fragment := [] }.tidy.toText
  else some text

end Reference

end Sparql.Iri
