import ApiRouter.Error
import ApiRouter.Text.Split

set_option autoImplicit false

/-! # Resource identifiers

The parts of a uniform resource identifier, and how a relative one is completed from the one of its
surroundings. Parts that are empty are not told apart from those that are missing: they vanish when
an identifier is put together. -/

namespace ApiRouter

/-- The parts of an identifier. -/
structure Uri where
  scheme : List Char
  authority : List Char
  path : List Char
  query : List Char
  fragment : List Char
  deriving DecidableEq, Repr

namespace Uri

/-! ## Schemes -/

/-- Schemes whose identifiers can be relative to another one. -/
def relativeSchemes : List String :=
  ["", "ftp", "http", "gopher", "nntp", "imap", "wais", "file", "https", "shttp", "mms",
    "prospero", "rtsp", "rtsps", "rtspu", "sftp", "svn", "svn+ssh", "ws", "wss"]

/-- Schemes whose identifiers have an authority. -/
def authoritySchemes : List String :=
  ["", "ftp", "http", "gopher", "nntp", "telnet", "imap", "wais", "file", "mms", "https", "shttp",
    "snews", "prospero", "rtsp", "rtsps", "rtspu", "rsync", "svn", "svn+ssh", "sftp", "nfs", "git",
    "git+ssh", "ws", "wss"]

/-- Schemes whose paths may end with parameters after a semicolon. -/
def parameterSchemes : List String :=
  ["", "ftp", "hdl", "prospero", "http", "imap", "https", "shttp", "rtsp", "rtsps", "rtspu", "sip",
    "sips", "mms", "sftp", "tel"]

/-- Whether a scheme is one of a list. -/
def isAmong (scheme : List Char) (schemes : List String) : Bool :=
  schemes.contains (String.ofList scheme)

/-- Whether a character may stand in a scheme. -/
def isSchemeChar (c : Char) : Bool :=
  c.isAlphanum || c == '+' || c == '-' || c == '.'

/-- A scheme, if the text starts with one, and what follows it. -/
def readScheme (otherwise : List Char) (cs : List Char) : List Char × List Char :=
  let before := cs.takeWhile (· != ':')
  match before, cs.drop before.length with
  | first :: _, ':' :: rest =>
    if first.isAlpha && before.all isSchemeChar then (before.map Char.toLower, rest)
    else (otherwise, cs)
  | _, _ => (otherwise, cs)

/-! ## Hosts in brackets -/

/-- A number of a dotted address: at most three digits without a leading zero, below 256. -/
def isOctet (cs : List Char) : Bool :=
  !cs.isEmpty && cs.length ≤ 3 && cs.all Char.isDigit &&
    (cs.length == 1 || cs.head? != some '0') &&
    cs.foldl (fun n c => n * 10 + (c.toNat - 48)) 0 < 256

/-- A dotted address. -/
def isDotted (cs : List Char) : Bool :=
  let parts := Text.split '.' cs
  parts.length == 4 && parts.all isOctet

/-- A group of an address with colons. -/
def isGroup (cs : List Char) : Bool :=
  !cs.isEmpty && cs.length ≤ 4 &&
    cs.all fun c => c.isDigit || ('a' ≤ c.toLower && c.toLower ≤ 'f')

/-- An address with colons: eight groups, of which a run may be left out once; the last two may be
written as a dotted address. -/
def isColonAddress (cs : List Char) : Bool :=
  let parts := Text.split ':' cs
  let last := parts.getLast?.getD []
  let dotted := last.contains '.'
  let parts := if dotted then parts.dropLast ++ [['0'], ['0']] else parts
  let gaps := (parts.drop 1).dropLast.count []
  let openStart := parts.head? == some []
  let openEnd := parts.getLast? == some []
  let doubleStart := !openStart || (parts.drop 1).head? == some []
  let doubleEnd := !openEnd || (parts.dropLast).getLast? == some []
  let groups := (parts.filter (· != [])).length
  3 ≤ parts.length && parts.length ≤ 9 && (!dotted || isDotted last) &&
    parts.all (fun p => p.isEmpty || isGroup p) &&
    (if gaps == 0 then groups == 8 && !openStart && !openEnd
      else gaps == 1 && groups < 8 && doubleStart && doubleEnd ||
        gaps == 2 && groups == 0 && parts.length == 3)

/-- Whether a host may stand in brackets: an address with colons, perhaps with the name of a zone,
or one of a later version. -/
def isBracketedHost (cs : List Char) : Bool :=
  match cs with
  | 'v' :: rest =>
    let version := rest.takeWhile fun c => c.isDigit || ('a' ≤ c.toLower && c.toLower ≤ 'f')
    match rest.drop version.length with
    | '.' :: c :: more => !version.isEmpty && (c :: more).all (· != '\n')
    | _ => false
  | cs =>
    let address := cs.takeWhile (· != '%')
    match cs.drop address.length with
    | [] => isColonAddress address
    | _ :: zone => isColonAddress address && !zone.isEmpty && !zone.contains '%'

/-! ## Authorities -/

/-- Characters that stand for a text with a delimiter of identifiers in it. -/
def disguisedDelimiters : List Nat :=
  [0x2047, 0x2048, 0x2049, 0x2100, 0x2101, 0x2105, 0x2106, 0x2A74, 0xFE13, 0xFE16, 0xFE55, 0xFE56,
    0xFE5F, 0xFE6B, 0xFF03, 0xFF0F, 0xFF1A, 0xFF1F, 0xFF20]

/-- The text after the first `mark`. -/
def afterFirst (mark : Char) (cs : List Char) : List Char :=
  (cs.dropWhile (· != mark)).drop 1

/-- Whether an authority keeps to the rules: brackets come in pairs around a fitting host, and no
character hides a delimiter. -/
def isAuthority (cs : List Char) : Bool :=
  let opened := cs.contains '['
  let closed := cs.contains ']'
  opened == closed &&
    (!opened || isBracketedHost ((afterFirst '[' cs).takeWhile (· != ']'))) &&
    cs.all fun c => !disguisedDelimiters.contains c.toNat

/-- An authority after two slashes, if there is one, and what follows it. -/
def readAuthority : List Char → List Char × List Char
  | '/' :: '/' :: rest =>
    let authority := rest.takeWhile fun c => c != '/' && c != '?' && c != '#'
    (authority, rest.drop authority.length)
  | cs => ([], cs)

/-! ## Taking apart and putting together -/

/-- Removes what no identifier holds: blanks and control characters at the start, and tabs and line
breaks anywhere. -/
def clean (cs : List Char) : List Char :=
  (cs.dropWhile fun c => c.toNat ≤ 0x20).filter fun c => c != '\t' && c != '\r' && c != '\n'

/-- The parts of an identifier; one without a scheme is given the scheme `otherwise`. -/
def split (otherwise : List Char) (text : String) : Except Defect Uri :=
  let (scheme, rest) := readScheme otherwise (clean text.toList)
  let (authority, rest) := readAuthority rest
  let beforeFragment := rest.takeWhile (· != '#')
  let path := beforeFragment.takeWhile (· != '?')
  if isAuthority authority then
    .ok ⟨scheme, authority, path, afterFirst '?' beforeFragment, afterFirst '#' rest⟩
  else .error .badValue

/-- The identifier with the given parts. -/
def text (u : Uri) : String :=
  let path := u.path
  let withAuthority := !u.authority.isEmpty ||
    (!u.scheme.isEmpty && isAmong u.scheme authoritySchemes) || path.take 2 == ['/', '/']
  let slash := if !path.isEmpty && path.head? != some '/' then ['/'] else []
  let place := if withAuthority then ['/', '/'] ++ u.authority ++ slash ++ path else path
  let marked (mark : Char) (part : List Char) := if part.isEmpty then [] else mark :: part
  let head := if u.scheme.isEmpty then [] else u.scheme ++ [':']
  String.ofList (head ++ place ++ marked '?' u.query ++ marked '#' u.fragment)

/-- An identifier in the form in which those that mean the same are written alike. -/
def normalize (text : String) : Except Defect String :=
  Uri.text <$> split [] text

/-- The path without its parameters, and the parameters. -/
def splitParameters (u : Uri) : List Char × List Char :=
  if !isAmong u.scheme parameterSchemes then (u.path, [])
  else
    let last := (u.path.reverse.takeWhile (· != '/')).reverse
    let folder := u.path.take (u.path.length - last.length)
    let name := last.takeWhile (· != ';')
    (folder ++ name, last.drop (name.length + 1))

/-- The path with its parameters. -/
def joinParameters (path parameters : List Char) : List Char :=
  if parameters.isEmpty then path else path ++ ';' :: parameters

/-- An identifier without its fragment, and the fragment. -/
def splitFragment (text : String) : Except Defect (String × String) :=
  if !text.toList.contains '#' then .ok (text, "")
  else do
    let u ← split [] text
    let (path, parameters) := u.splitParameters
    let whole := { u with path := joinParameters path parameters, fragment := [] }
    .ok (whole.text, String.ofList u.fragment)

/-! ## Relative identifiers -/

/-- Resolves the segments that mean this folder and the one above it; the folders so far are given
in reverse. -/
def resolveDots (above : List (List Char)) : List (List Char) → List (List Char)
  | [] => above.reverse
  | ['.', '.'] :: rest => resolveDots above.tail rest
  | ['.'] :: rest => resolveDots above rest
  | segment :: rest => resolveDots (segment :: above) rest

/-- The segments without the empty ones between the first and the last. -/
def dropEmptyInner (segments : List (List Char)) : List (List Char) :=
  match segments with
  | first :: second :: rest =>
    let others := second :: rest
    first :: others.dropLast.filter (fun s => !s.isEmpty) ++ others.drop (others.length - 1)
  | segments => segments

/-- A path seen from the folder of another one. -/
def joinPaths (base path : List Char) : List Char :=
  let parts := Text.split '/' path
  let folders := Text.split '/' base
  let folders := if folders.getLast? == some [] then folders else folders.dropLast
  let segments := if path.head? == some '/' then parts else dropEmptyInner (folders ++ parts)
  let last := segments.getLast?.getD []
  let folder := if last == ['.'] || last == ['.', '.'] then [[]] else []
  let joined := List.intercalate ['/'] (resolveDots [] segments ++ folder)
  if joined.isEmpty then ['/'] else joined

/-- The identifier that `reference` denotes in surroundings identified by `base`. -/
def join (base reference : String) : Except Defect String := do
  if base.isEmpty then return reference
  if reference.isEmpty then return base
  let b ← split [] base
  let u ← split b.scheme reference
  let (basePath, baseParameters) := b.splitParameters
  let (path, parameters) := u.splitParameters
  if u.scheme != b.scheme || !isAmong u.scheme relativeSchemes then return reference
  let hasAuthority := isAmong u.scheme authoritySchemes
  if hasAuthority && !u.authority.isEmpty then
    return { u with path := joinParameters path parameters }.text
  let authority := if hasAuthority then b.authority else u.authority
  if path.isEmpty && parameters.isEmpty then
    let query := if u.query.isEmpty then b.query else u.query
    let path := joinParameters basePath baseParameters
    return { u with authority := authority, path := path, query := query }.text
  let path := joinParameters (joinPaths basePath path) parameters
  return { u with authority := authority, path := path }.text

end Uri

end ApiRouter
