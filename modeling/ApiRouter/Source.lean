import ApiRouter.Address
import ApiRouter.ContentType
import ApiRouter.Error
import ApiRouter.Json.Reader
import ApiRouter.Path
import ApiRouter.Text.Case
import ApiRouter.Text.Split
import ApiRouter.Value.Display
import ApiRouter.Workspace
import ApiRouter.Yaml.Reader

set_option autoImplicit false

/-! # Documents from their sources

A document comes from a file, a web address or the standard input. Its text is JSON or YAML; where
the source does not say which, JSON is tried first. -/

namespace ApiRouter

/-- The format of a document's text. -/
inductive Format where
  | json
  | yaml
  /-- JSON if it can be read as such, else YAML. -/
  | either
  deriving DecidableEq, Repr

namespace Format

/-- The format that a file's name tells. -/
def ofPath (path : String) : Format :=
  match Text.lower (Path.extension path) with
  | "json" => .json
  | "yaml" | "yml" => .yaml
  | _ => .either

/-- Whether a text holds another. -/
def holds (text part : String) : Bool :=
  (text.splitOn part).length > 1

/-- The format that a content type tells. -/
def ofContentType (contentType : String) : Format :=
  let t := Text.lower contentType
  if holds t "json" then .json
  else if holds t "yaml" || holds t "yml" then .yaml
  else .either

end Format

namespace Source

/-! ## Texts -/

/-- Only a mapping is a document. -/
def asDocument (v : Value) : Except Failure Entries :=
  match v with
  | .map es => .ok es
  | .null => fail .specParse "Spec must be a JSON/YAML object (got empty document)"
  | v => fail .specParse ("Spec must be a JSON/YAML object (got " ++ v.kindName ++ ")")

/-- Refuses a text with what each format has against it. -/
def refuse (complaints : List String) : Except Failure Entries :=
  fail .specParse ("Failed to parse spec as JSON or YAML" ++
    String.join (complaints.map fun c => "\n  " ++ c))

/-- The document that a YAML text holds, given what other formats have against the text. -/
def ofYaml (complaints : List String) (text : String) : Except Failure Entries :=
  match Yaml.read text with
  | .ok v => asDocument v
  | .error (.defect cause) => defect cause
  | .error (.malformed cause) => refuse (complaints ++ ["YAML error: " ++ cause.message])

/-- The document that a text holds. -/
def ofText (format : Format) (text : String) : Except Failure Entries :=
  if format == .yaml then ofYaml [] text
  else
    match Json.read text with
    | .ok v => asDocument v
    | .error .tooDeep => defect .endless
    | .error .tooManyDigits => defect .badValue
    | .error e =>
      if format == .json then fail .specParse ("Invalid JSON: " ++ e.message)
      else ofYaml ["JSON error: " ++ e.message] text

/-! ## Places -/

/-- Whether a text consists of white space. -/
def isEmptyText (text : String) : Bool :=
  (Text.strip text).isEmpty

/-- The document on the standard input. -/
def fromStdin (w : Workspace) : Except Failure Entries :=
  match w.stdin with
  | .unreadable reason => fail .specParse ("Failed to read from stdin: " ++ reason)
  | .undecodable => defect .undecodable
  | .text text =>
    if isEmptyText text then fail .specParse "No input received from stdin"
    else ofText .either text

/-- The text of a content. -/
def textOf (contentType : String) (content : List Nat) : Except Failure String := do
  let charset ← ContentType.charset contentType
  (charset.decode content).mapError .defect

/-- The document at a web address. -/
def fromUrl (w : Workspace) (url : String) : Except Failure Entries := do
  Address.check url
  match w.fetch url with
  | .unreachable reason => fail .specParse ("Failed to fetch spec from " ++ url ++ ": " ++ reason)
  | .response status contentType content =>
    if 200 ≤ status && status < 300 then do
      ofText (.ofContentType contentType) (← textOf contentType content)
    else fail .specParse ("HTTP " ++ toString status ++ " fetching spec from " ++ url)

/-- The document in a file, whose lines may end in any way. -/
def fromFile (w : Workspace) (path : String) : Except Failure Entries := do
  match ← w.files.file? path with
  | none => fail .specParse ("Spec file not found: " ++ path)
  | some (.unreadable reason) =>
    fail .specParse ("Failed to read spec file " ++ path ++ ": " ++ reason)
  | some .undecodable => defect .undecodable
  | some (.text text) =>
    if isEmptyText text then fail .specParse ("Spec file is empty: " ++ path)
    else ofText (.ofPath path) (String.ofList (Text.unifyNewlines text.toList))

/-- The document that an argument names: `-` for the standard input, a web address, or a file. -/
def read (w : Workspace) (argument : String) : Except Failure Entries :=
  if argument == "-" then fromStdin w
  else if argument.startsWith "http://" || argument.startsWith "https://" then fromUrl w argument
  else fromFile w argument

/-- Whether the paths of a document can be counted. -/
def hasCountablePaths (document : Entries) : Bool :=
  match Entries.get document "paths" with
  | .scalar (.text _) | .list _ | .map _ => true
  | v => !v.truthy

/-- The document that an argument names, whose paths must be countable. -/
def load (w : Workspace) (argument : String) : Except Failure Entries := do
  let document ← read w argument
  if hasCountablePaths document then .ok document else defect .wrongType

end Source

end ApiRouter
