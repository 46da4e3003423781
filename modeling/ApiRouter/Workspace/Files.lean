import ApiRouter.Error
import ApiRouter.Path
import ApiRouter.Text.Utf8

set_option autoImplicit false

/-! # Files

The files and directories that a run can see. Each stands at a *place*: the names on the way to it
from the root. A path is followed name by name, and every name but the last must be one of a
directory. -/

namespace ApiRouter

/-- What is found where a text is expected. -/
inductive TextSource where
  | text (content : String)
  /-- The bytes are no text. -/
  | undecodable
  /-- Reading fails, for the given reason. -/
  | unreadable (reason : String)
  deriving DecidableEq, Repr

/-- What bytes are as a text. -/
def TextSource.ofBytes (bytes : List Nat) : TextSource :=
  match Text.Utf8.decode? bytes with
  | some s => .text s
  | none => .undecodable

/-- The names on the way from the root. -/
abbrev Place := List String

/-- What stands at a place. -/
inductive Entry where
  | file (content : TextSource)
  | directory
  /-- Something that neither holds a text nor has names below it. -/
  | device
  deriving DecidableEq, Repr

/-- The files and directories that there are, and the working directory. -/
structure Files where
  directory : Place
  entries : List (Place × Entry)

namespace Files

/-- The working directory as a path. -/
def directoryPath (fs : Files) : String :=
  "/" ++ String.intercalate "/" fs.directory

/-- Whether there is a directory at a place: the working directory, one above it, one that is
listed, or one above anything that is listed. -/
def hasDirectory (fs : Files) (place : Place) : Bool :=
  place.isPrefixOf fs.directory ||
    fs.entries.any fun e =>
      place.isPrefixOf e.1 && (place.length < e.1.length || e.2 == .directory)

/-- What stands at a place. -/
def entry? (fs : Files) (place : Place) : Option Entry :=
  if fs.hasDirectory place then some .directory else fs.entries.lookup place

/-! ## Following paths -/

/-- The bytes that a name may have at most. -/
def longestName : Nat := 255

/-- The bytes that a path may have at most. -/
def longestPath : Nat := 4095

/-- The place that a name leads to from a place, which must be a directory. Two periods lead to the
directory above. -/
def step (fs : Files) (place : Place) (name : String) : Except Obstacle Place :=
  match fs.entry? place with
  | none => .error .missing
  | some .directory =>
    if name == ".." then .ok place.dropLast
    else if longestName < name.utf8ByteSize then .error .nameTooLong
    else .ok (place ++ [name])
  | some _ => .error .notDirectory

/-- The place that names lead to. -/
def walk (fs : Files) (place : Place) : List String → Except Obstacle Place
  | [] => .ok place
  | name :: rest => do walk fs (← fs.step place name) rest

/-- Where a path starts. -/
def start (fs : Files) (path : String) : Place :=
  if Path.isAbsolute path then [] else fs.directory

/-- The place that a path leads to. -/
def follow (fs : Files) (path : String) : Except Obstacle Place :=
  if longestPath < (Path.normal path).utf8ByteSize then .error .nameTooLong
  else fs.walk (fs.start path) (Path.names path)

/-- The file at a path, if there is one. Only a path that is too long is refused; one with a null
character leads nowhere. -/
def file? (fs : Files) (path : String) : Except Failure (Option TextSource) :=
  if path.toList.contains (Char.ofNat 0) then .ok none
  else
    match fs.follow path with
    | .error .nameTooLong => defect (.obstructed .nameTooLong)
    | .error _ => .ok none
    | .ok place =>
      match fs.entry? place with
      | some (.file content) => .ok (some content)
      | _ => .ok none

/-! ## More files -/

/-- The files with one more entry, at the place that a path names. -/
def add (fs : Files) (path : String) (e : Entry) : Files :=
  { fs with entries := (fs.start path ++ Path.names path, e) :: fs.entries }

/-- Makes those directories on the way along names that are not there. What is no directory itself
takes the place of one as soon as one had to be `made`. -/
def build (fs : Files) (made : Bool) (place : Place) : List String → Except Obstacle Files
  | [] => .ok fs
  | name :: rest => do
    let next ← fs.step place name
    match fs.entry? next with
    | some .directory => build fs made next rest
    | none => build { fs with entries := (next, .directory) :: fs.entries } true next rest
    | some _ => .error (if rest.isEmpty || made then .occupied else .notDirectory)

/-- Makes a directory, and those above it, unless they are there. -/
def makeDirectory (fs : Files) (path : String) : Except Failure Files :=
  let made :=
    if longestPath < (Path.normal path).utf8ByteSize then .error .nameTooLong
    else fs.build false (fs.start path) (Path.names path)
  made.mapError fun o => .defect (.obstructed o)

end Files

end ApiRouter
