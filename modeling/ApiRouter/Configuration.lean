import ApiRouter.Json.Reader
import ApiRouter.Path
import ApiRouter.Settings
import ApiRouter.Text.Case
import ApiRouter.Text.Split
import ApiRouter.Value.Mapping
import ApiRouter.Workspace

set_option autoImplicit false

/-! # Configuration

The effective settings of a run come in layers: the configuration of the user, that of the project,
the environment, and the command line, each laid over those before it. -/

namespace ApiRouter.Configuration

/-! ## Directories -/

/-- The name that the program goes by in names of files. -/
def programName : String := "specroute"

/-- Whether a system keeps user data in base directories that the environment names. -/
def hasBaseDirectories (system : String) : Bool :=
  system == "Linux" || system.endsWith "BSD"

/-- The directory of the user: the one that the environment names, or else the one that the system
gives. A name that starts with a tilde would stand for another user's directory. -/
def homeDirectory (w : Workspace) : Except Failure String :=
  let home := (w.env? "HOME").getD w.accountHome
  if home.startsWith "~" then defect .homeless
  else if home.toList.all (· == '/') then .ok "/"
  else .ok (Path.normal home)

/-- The directory that an environment variable names, or else one below that of the user. -/
def baseDirectory (w : Workspace) (name : String) (otherwise : List String) :
    Except Failure String :=
  match w.setting? name with
  | some path => .ok (Path.normal path)
  | none => otherwise.foldl Path.join <$> homeDirectory w

/-- The directory on systems without base directories. -/
def plainDirectory (w : Workspace) : Except Failure String :=
  (Path.join · ("." ++ programName)) <$> homeDirectory w

/-- Where the configuration of the user is. -/
def configDirectory (w : Workspace) : Except Failure String :=
  if hasBaseDirectories w.system then
    (Path.join · programName) <$> baseDirectory w "XDG_CONFIG_HOME" [".config"]
  else plainDirectory w

/-- Where data of the user, such as crash logs, is. -/
def dataDirectory (w : Workspace) : Except Failure String :=
  if hasBaseDirectories w.system then
    (Path.join · programName) <$> baseDirectory w "XDG_DATA_HOME" [".local", "share"]
  else (Path.join · "logs") <$> plainDirectory w

/-- The surroundings once the directory for the configuration of the user is there. -/
def withConfigDirectory (w : Workspace) : Except Failure Workspace := do
  w.withDirectory (← configDirectory w)

/-- The surroundings once the directory for data of the user is there. -/
def withDataDirectory (w : Workspace) : Except Failure Workspace := do
  w.withDirectory (← dataDirectory w)

/-! ## Layers -/

/-- The layer in a file, which need not exist; `label` names the layer in messages. -/
def fileLayer (files : Files) (label path : String) : Except Failure (Option Entries) := do
  let refuse (reason : String) : Except Failure (Option Entries) :=
    fail .config ("Invalid " ++ label ++ " at " ++ path ++ ": " ++ reason)
  match ← files.file? path with
  | none => .ok none
  | some (.unreadable reason) => refuse reason
  | some .undecodable => defect .undecodable
  | some (.text text) =>
    match Json.read (String.ofList (Text.unifyNewlines text.toList)) with
    | .ok (.map layer) => .ok (some layer)
    | .ok _ => refuse "expected a JSON object"
    | .error .tooDeep => defect .endless
    | .error .tooManyDigits => defect .badValue
    | .error e => refuse e.message

/-- The configuration of the user, whose directory is made first. -/
def userLayer (w : Workspace) : Except Failure (Option Entries) := do
  let directory ← configDirectory w
  let w ← w.withDirectory directory
  fileLayer w.files "global config" (Path.join directory "config.json")

/-- The configuration of the project in the working directory. -/
def projectLayer (w : Workspace) : Except Failure (Option Entries) :=
  fileLayer w.files "project config" (Path.join w.files.directoryPath (programName ++ ".json"))

/-- The variables for the defaults of a compiled document, and the fields that they set. -/
def switches : List (String × String) :=
  [("SPECROUTE_COERCE_FORM_PARAMS", "coerce_form_params"), ("SPECROUTE_PATH_PARAMS", "path_params"),
    ("SPECROUTE_QUERY_PARAMS", "query_params")]

/-- The truth value that a variable is set to. -/
def readSwitch (name value : String) : Except Failure Bool :=
  match Text.lower (Text.strip value) with
  | "1" | "true" | "yes" | "on" => .ok true
  | "0" | "false" | "no" | "off" => .ok false
  | _ =>
    fail .config ("Environment variable " ++ name ++ " must be a boolean, got '" ++ value ++ "'")

/-- The fields that the switches set. -/
def switchFields (w : Workspace) : List (String × String) → Except Failure Entries
  | [] => .ok []
  | (name, field) :: rest =>
    match w.setting? name with
    | none => switchFields w rest
    | some value => do
      let b ← readSwitch name value
      .ok ((.text field, .bool b) :: (← switchFields w rest))

/-- The layer that the environment gives. -/
def environmentLayer (w : Workspace) : Except Failure Entries := do
  let mount : Entries :=
    match w.setting? "SPECROUTE_PREFIX" with
    | some mount => [(.text "prefix", .text mount)]
    | none => []
  let fields ← switchFields w switches
  .ok (if fields.isEmpty then mount else mount ++ [(.text "driver_config", .map fields)])

/-! ## Settings -/

/-- What the command line sets. -/
structure Overrides where
  mount : Option String
  driver : Option String

/-- Lays a text over a field, if there is one. -/
def overlay (layers : Entries) (field : String) (value : Option String) : Entries :=
  match value with
  | some s => Entries.insert layers field (.text s)
  | none => layers

/-- All layers in one. -/
def layered (w : Workspace) (overrides : Overrides) : Except Failure Entries := do
  let user ← userLayer w
  let project ← projectLayer w
  let environment ← environmentLayer w
  let merged := Entries.merge (Entries.merge (user.getD []) (project.getD [])) environment
  .ok (overlay (overlay merged "prefix" overrides.mount) "driver" overrides.driver)

/-- Where an ill-typed field is. -/
def placeOf (i : Issue) : String :=
  String.intercalate "." i.path

/-- The effective settings. -/
def resolve (w : Workspace) (overrides : Overrides) : Except Failure Settings := do
  match (Settings.ofEntries (← layered w overrides)).toExcept with
  | .ok settings => .ok settings
  | .error (.illTyped issues) =>
    let message := "Invalid configuration: " ++ String.intercalate ", " (issues.map placeOf)
    .error (.reported { Report.ofKind .config message with issues := some issues })
  | .error f => .error f

end ApiRouter.Configuration
