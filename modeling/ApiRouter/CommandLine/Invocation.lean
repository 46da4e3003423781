import ApiRouter.CommandLine.Options
import ApiRouter.Configuration
import ApiRouter.Text.Numeral

set_option autoImplicit false

/-! # Invocations

What a command line asks for: one of four commands with its arguments, the version, help, or
nothing that can be done. Flags for the whole program come before the command. -/

namespace ApiRouter.CommandLine

/-- The flags for the whole program. -/
structure Flags where
  json : Bool
  plain : Bool
  noColour : Bool
  quiet : Bool
  deriving DecidableEq, Repr

/-- What to check a request with. -/
structure CheckInput where
  query : List String
  form : List String
  headers : List String
  body : Option String
  contentType : Option String
  responseStatus : Option Int
  responseBody : Option String
  deriving DecidableEq, Repr

/-- What is done with a document. -/
inductive Action where
  /-- List the routes. -/
  | listRoutes
  /-- Find the link for a method and a path. -/
  | findLink (method path : String)
  /-- Show the link of a method and a template. -/
  | showLink (method href : String)
  /-- Check a request, and perhaps a response. -/
  | check (method path : String) (input : CheckInput)
  deriving DecidableEq, Repr

/-- A command: the document, what is done with it, and the settings laid over the configured
ones. -/
structure Command where
  spec : String
  action : Action
  overrides : Configuration.Overrides

/-- What a command line asks for. -/
inductive Invocation where
  | version
  | help
  | misused (reason : Misuse)
  | run (flags : Flags) (command : Command)

/-! ## Options -/

def flag (name : String) (letter : Option Char) : OptionSpec := ⟨name, letter, false⟩

def withValue (name : String) : OptionSpec := ⟨name, none, true⟩

def helpSpec : OptionSpec := flag "help" none

/-- The options before the command. -/
def programSpecs : List OptionSpec :=
  [flag "version" none, flag "json" none, flag "plain" none, flag "no-color" none,
    flag "quiet" (some 'q'), flag "verbose" (some 'v'), helpSpec]

def driverSpec : OptionSpec := withValue "driver"

def mountSpec : OptionSpec := withValue "prefix"

/-- The options of the command that checks requests. -/
def checkSpecs : List OptionSpec :=
  [withValue "query", withValue "form", withValue "header", withValue "body",
    withValue "content-type", withValue "response-status", withValue "response-body", mountSpec,
    driverSpec, helpSpec]

/-- The commands by name with their options and how many arguments they take. -/
def commandSpecs : List (String × List OptionSpec × Nat) :=
  [("routes", [mountSpec, driverSpec, helpSpec], 1),
    ("match", [mountSpec, driverSpec, helpSpec], 3),
    ("show", [driverSpec, helpSpec], 3),
    ("validate", checkSpecs, 3)]

/-! ## Reading -/

/-- The status that a response is checked with. -/
def readStatus (p : Parsed) : Except Misuse (Option Int) :=
  match p.value? "response-status" with
  | none => .ok none
  | some text =>
    match Text.readInt? text with
    | some n => .ok (some n)
    | none => .error (.badNumber text)

/-- What the options say about a request to check. -/
def checkInput (p : Parsed) : Except Misuse CheckInput := do
  .ok
    { query := p.values "query"
      form := p.values "form"
      headers := p.values "header"
      body := p.value? "body"
      contentType := p.value? "content-type"
      responseStatus := ← readStatus p
      responseBody := p.value? "response-body" }

/-- The document and the action that the arguments of a command name. -/
def actionOf (name : String) (p : Parsed) : Except Misuse (String × Action) :=
  match name, p.arguments with
  | "routes", [spec] => .ok (spec, .listRoutes)
  | "match", [spec, method, path] => .ok (spec, .findLink method path)
  | "show", [spec, method, href] => .ok (spec, .showLink method href)
  | "validate", [spec, method, path] => do .ok (spec, .check method path (← checkInput p))
  | _, _ => .error .missingArgument

/-- What a command with its options and arguments asks for. -/
def readCommand (flags : Flags) (name : String) (rest : List String) : Except Misuse Invocation :=
  match commandSpecs.lookup name with
  | none => .error (.unknownCommand name)
  | some (specs, count) => do
    let p ← parse specs true rest
    if p.has "help" then .ok .help
    else
      match p.arguments.drop count with
      | extra :: _ => .error (.extraArgument extra)
      | [] =>
        let (spec, action) ← actionOf name p
        .ok (.run flags ⟨spec, action, ⟨p.value? "prefix", p.value? "driver"⟩⟩)

/-- The version or help, whichever is asked for first. -/
def early? (p : Parsed) : Option Invocation :=
  p.options.findSome? fun o =>
    if o.name == "version" then some .version
    else if o.name == "help" then some .help
    else none

/-- What a command line asks for, or why it cannot be used. -/
def read (arguments : List String) : Except Misuse Invocation := do
  let p ← parse programSpecs false arguments
  match early? p, p.arguments with
  | some i, _ => .ok i
  | none, [] => .error .missingCommand
  | none, name :: rest =>
    readCommand ⟨p.has "json", p.has "plain", p.has "no-color", p.has "quiet"⟩ name rest

/-- What a command line asks for. -/
def Invocation.ofArguments (arguments : List String) : Invocation :=
  match read arguments with
  | .ok i => i
  | .error reason => .misused reason

end ApiRouter.CommandLine
