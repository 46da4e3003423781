import ApiRouter.CommandLine.Invocation
import ApiRouter.CommandLine.Options
import ApiRouter.Output
import ApiRouter.RequestCheck
import ApiRouter.Source

set_option autoImplicit false

/-! # Running commands

What a command prints and the code that it ends with, given its surroundings. A documented failure
is reported with its own code. Any other one is a crash: it leaves a log and ends with a code of
its own. -/

namespace ApiRouter.CommandLine

/-- What a run leaves behind. -/
structure Outcome where
  exitCode : Int
  out : String
  err : String
  /-- The path of the log of a crash. -/
  crashLog : Option String
  deriving DecidableEq, Repr

/-- The version of the program. -/
def versionText : String := Configuration.programName ++ " 0.1.0"

/-- Whether the environment switches colours off. -/
def lacksColours (w : Workspace) : Bool :=
  (w.env? "NO_COLOR").isSome || w.env? "TERM" == some "dumb"

/-- How a run writes. -/
def outputOf (w : Workspace) (flags : Flags) : Output :=
  ⟨if flags.json then .json else .plain, !(flags.noColour || lacksColours w), flags.quiet⟩

/-! ## Endings -/

/-- A run that ends after printing. -/
def finished (out err : String) : Except Failure Outcome := .ok ⟨0, out, err, none⟩

/-- A run that crashes after printing. The log goes into a directory of its own, which is made if it
is not there; where that cannot be done, there is no outcome at all. -/
def crashed (w : Workspace) (o : Output) (out err : String) : Except Failure Outcome := do
  let w ← Configuration.withDataDirectory w
  let directory := Path.join (← Configuration.dataDirectory w) "logs"
  let _ ← w.withDirectory directory
  let path := Path.join directory ("crash-" ++ w.moment ++ ".log")
  let message ← o.message .error ("Unexpected error. Debug log: " ++ path)
  .ok ⟨1, out, err ++ message, some path⟩

/-- A run that a failure ends after printing. -/
def failed (w : Workspace) (o : Output) (out err : String) (f : Failure) :
    Except Failure Outcome :=
  match f with
  | .reported r =>
    match o.message .error r.message with
    | .ok message => .ok ⟨r.exitCode, out, err ++ message, none⟩
    | .error _ => crashed w o out err
  | _ => crashed w o out err

/-! ## Compiling -/

/-- The router for a document and the notices on the way to it. -/
structure Compilation where
  notices : List Parameter.Notice
  router : Except Failure Router

/-- The settings and the document of a command. -/
def inputsOf (w : Workspace) (c : Command) : Except Failure (Settings × Entries) := do
  let settings ← Configuration.resolve w c.overrides
  Settings.requireDriver settings.driver
  .ok (settings, ← Source.load (← Configuration.withConfigDirectory w) c.spec)

/-- Compiles the document of a command under the effective settings. -/
def compile (w : Workspace) (c : Command) : Compilation :=
  match inputsOf w c with
  | .error f => ⟨[], .error f⟩
  | .ok (settings, document) =>
    ⟨Api.notices document, do
      let api ← Api.compile document settings.defaults
      .ok (Router.ofApi api settings.mount settings.options)⟩

/-! ## Actions -/

/-- The headers of the table of routes. -/
def routeHeaders : List String := ["Method", "Path", "Success", "Consumes", "Produces"]

/-- A value, or a hyphen when there is nothing to it. -/
def orHyphen (v : Value) : Value :=
  if v.truthy then v else .text "-"

/-- A link as a row of the table of routes. -/
def routeRow (router : Router) (method : String) (link : Link) : List Value :=
  [.text method, .text (router.mount.getD "" ++ router.api.basePath ++ link.href),
    .text (match link.successStatus with
      | some n => toString n
      | none => "-"),
    orHyphen link.encType, orHyphen link.mediaType]

/-- The rows of the table of routes. -/
def routeRows (router : Router) : List (List Value) :=
  router.api.links.map fun (method, link) => routeRow router method link

/-- A status as a value. -/
def statusValue (status : Option Nat) : Value :=
  .ofOption (fun n => .int n) status

/-- The link for a method and a path. -/
def findLink (router : Router) (method path : String) : Except Failure Value := do
  if !router.includes path then
    fail .notFound (path ++ " is outside prefix " ++ router.mount.getD "None")
  match router.find? method path with
  | none => fail .notFound ("No route matches " ++ Text.upper method ++ " " ++ path)
  | some found =>
    .ok (.object
      [("method", .text found.link.method), ("href", .text found.link.href),
        ("path_params", .object (found.captures.map fun c => (c.1, .text c.2))),
        ("status_success", statusValue found.link.successStatus),
        ("enc_type", found.link.encType), ("media_type", found.link.mediaType)])

/-- The payload of a schema with its references inlined; null without a schema. -/
def inlinedPayload (router : Router) (schema : Option Schema) : Except Failure Value :=
  match schema with
  | some s => router.api.inline (.map s.data)
  | none => .ok .null

/-- The link of a method and a template. -/
def showLink (router : Router) (method href : String) : Except Failure Value :=
  match router.api.findLink? method href with
  | none =>
    fail .notFound ("No " ++ Text.upper method ++ " operation declared at " ++ href)
  | some link => do
    let schema ← inlinedPayload router link.shape.schema?
    let payload ← router.api.inline link.shape.payload
    let target ← inlinedPayload router link.targetSchema
    .ok (.object
      [("method", .text link.method), ("href", .text link.href), ("schema", schema),
        ("schema_data", payload), ("body_required", .bool link.bodyRequired),
        ("header_schema", .ofOption (fun s : Schema => .map s.data) link.headerSchema),
        ("status_success", statusValue link.successStatus), ("target_schema", target)])

/-- The value of a JSON text; no text is null. -/
def readJson (option : String) (text : Option String) : Except Failure Value :=
  match text with
  | none => .ok .null
  | some text =>
    match Json.read text with
    | .ok v => .ok v
    | .error .tooDeep => defect .endless
    | .error .tooManyDigits => defect .badValue
    | .error e => fail .invalidUsage (option ++ " is not valid JSON: " ++ e.message)

/-- The request that options describe. -/
def requestOf (method path : String) (input : CheckInput) : Except Failure Request := do
  .ok
    { method := Text.upper method
      pathInfo := path
      scriptName := ""
      query := ← Pairs.grouped "--query" input.query
      form := ← Pairs.grouped "--form" input.form
      headers := ← Pairs.last "--header" input.headers
      body := ← readJson "--body" input.body
      contentType := input.contentType }

/-- Checks a request, and a response if a status is given, and gives the link and the parameters. -/
def check (router : Router) (method path : String) (input : CheckInput) : Except Failure Value := do
  let request ← requestOf method path input
  let validator := Validator.forRequest router request
  match validator.found with
  | none => fail .notFound ("No route matches " ++ request.method ++ " " ++ path)
  | some found =>
    let params ← validator.checkRequest request
    match input.responseStatus with
    | none => .ok ()
    | some status =>
      let body ← readJson "--response-body" input.responseBody
      validator.checkResponse (.int status) body
    .ok (.object [("href", .text found.link.href), ("params", .object params)])

/-! ## Runs -/

/-- Prints a result, after a message if there is one. -/
def printed (w : Workspace) (o : Output) (err : String) (message : Option String)
    (result : Except Failure Value) : Except Failure Outcome :=
  match result with
  | .error f => failed w o "" err f
  | .ok v =>
    match message.mapM (o.message .success), o.response v with
    | .ok m, .ok out => finished out (err ++ m.getD "")
    | .ok m, .error f => failed w o "" (err ++ m.getD "") f
    | .error f, _ => failed w o "" err f

/-- Prints the table of routes. -/
def printedRoutes (w : Workspace) (o : Output) (err : String) (router : Router) :
    Except Failure Outcome :=
  match o.table (routeHeaders.map .text) (routeRows router) with
  | (out, none) => finished out err
  | (out, some f) => failed w o out err f

/-- Runs a command. -/
def runCommand (w : Workspace) (o : Output) (c : Command) : Except Failure Outcome :=
  let compilation := compile w c
  let err := String.join (compilation.notices.map fun n => Output.line n.message)
  match compilation.router with
  | .error f => failed w o "" err f
  | .ok router =>
    match c.action with
    | .listRoutes => printedRoutes w o err router
    | .findLink method path => printed w o err none (findLink router method path)
    | .showLink method href => printed w o err none (showLink router method href)
    | .check method path input =>
      printed w o err (some "Request is valid.") (check router method path input)

/-- A summary of the commands. -/
def usage : String :=
  "Usage: " ++ Configuration.programName ++
    " [--json] [--plain] [--no-color] [-q] [-v] COMMAND\n\n" ++
  "  routes SPEC             list compiled routes in match order\n" ++
  "  match SPEC METHOD PATH  resolve a request to a link\n" ++
  "  show SPEC METHOD HREF   print a link's resolved schemas\n" ++
  "  validate SPEC ...       validate a request (and response)\n"

/-- Does what a command line asks for. -/
def Invocation.outcome (w : Workspace) : Invocation → Except Failure Outcome
  | .version => finished (Output.line versionText) ""
  | .help => finished usage ""
  | .misused reason => .ok ⟨2, "", usage ++ "\n" ++ Output.line reason.message, none⟩
  | .run flags command => runCommand w (outputOf w flags) command

end ApiRouter.CommandLine
