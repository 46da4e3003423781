import ApiRouter.Error
import ApiRouter.Ordered
import ApiRouter.Value

set_option autoImplicit false

/-! # Options of a command line

Options start with one or two hyphens and may stand among the arguments. A flag stands alone; any
other option takes the text after an equals sign, or else the next text whatever it looks like.
Two hyphens alone end the options. -/

namespace ApiRouter.CommandLine

/-- An option that a command knows. -/
structure OptionSpec where
  /-- The name after two hyphens. -/
  name : String
  /-- The letter after one hyphen. -/
  letter : Option Char
  takesValue : Bool

/-- An option as it was given. -/
structure GivenOption where
  name : String
  value : Option String
  deriving DecidableEq, Repr

/-- A command line in its parts, each in the order given. -/
structure Parsed where
  options : List GivenOption
  arguments : List String
  deriving DecidableEq, Repr

/-- Why a command line cannot be used. -/
inductive Misuse where
  | unknownOption (text : String)
  | missingValue (name : String)
  | unwantedValue (name : String)
  | missingCommand
  | unknownCommand (name : String)
  | missingArgument
  | extraArgument (text : String)
  | badNumber (text : String)
  deriving DecidableEq, Repr

def Misuse.message : Misuse → String
  | .unknownOption text => "No such option: " ++ text
  | .missingValue name => "Option '--" ++ name ++ "' requires an argument."
  | .unwantedValue name => "Option '--" ++ name ++ "' does not take a value."
  | .missingCommand => "Missing command."
  | .unknownCommand name => "No such command '" ++ name ++ "'."
  | .missingArgument => "Missing argument."
  | .extraArgument text => "Got unexpected extra argument (" ++ text ++ ")"
  | .badNumber text => "'" ++ text ++ "' is not a valid integer."

namespace Parsed

def empty : Parsed := ⟨[], []⟩

def addOption (p : Parsed) (o : GivenOption) : Parsed :=
  { p with options := o :: p.options }

def addArgument (p : Parsed) (a : String) : Parsed :=
  { p with arguments := a :: p.arguments }

/-- Whether a flag was given. -/
def has (p : Parsed) (name : String) : Bool :=
  p.options.any fun o => o.name == name

/-- All values of an option. -/
def values (p : Parsed) (name : String) : List String :=
  p.options.filterMap fun o => if o.name == name then o.value else none

/-- The last value of an option. -/
def value? (p : Parsed) (name : String) : Option String :=
  (p.values name).getLast?

end Parsed

/-- The name after two hyphens, and the text after the first equals sign if there is one. -/
def splitLong? (text : String) : Option (String × Option String) :=
  match text.toList with
  | '-' :: '-' :: cs =>
    let name := cs.takeWhile (· != '=')
    match cs.drop name.length with
    | [] => some (String.ofList name, none)
    | _ :: value => some (String.ofList name, some (String.ofList value))
  | _ => none

/-- The flags that letters after one hyphen stand for. -/
def flagsOf (specs : List OptionSpec) (text : String) : Except Misuse (List GivenOption) :=
  (text.toList.drop 1).mapM fun c =>
    match specs.find? fun s => s.letter == some c with
    | some s => .ok ⟨s.name, none⟩
    | none => .error (.unknownOption text)

/-- Whether a text is an option: a hyphen and more. -/
def isOption (text : String) : Bool :=
  text.startsWith "-" && text.length > 1

/-- The parts of a command line. Unless options may stand among the arguments, the first argument
ends them. -/
def parse (specs : List OptionSpec) (among : Bool) : List String → Except Misuse Parsed
  | [] => .ok .empty
  | text :: rest =>
    if text == "--" then .ok ⟨[], rest⟩
    else if !isOption text then
      if among then do .ok ((← parse specs among rest).addArgument text)
      else .ok ⟨[], text :: rest⟩
    else
      match splitLong? text with
      | none => do
        let flags ← flagsOf specs text
        let p ← parse specs among rest
        .ok { p with options := flags ++ p.options }
      | some (name, value) =>
        match specs.find? (fun s => s.name == name), value, rest with
        | none, _, _ => .error (.unknownOption text)
        | some s, some v, rest =>
          if s.takesValue then do .ok ((← parse specs among rest).addOption ⟨name, some v⟩)
          else .error (.unwantedValue name)
        | some s, none, rest =>
          if !s.takesValue then do .ok ((← parse specs among rest).addOption ⟨name, none⟩)
          else
            match rest with
            | [] => .error (.missingValue name)
            | v :: rest => do .ok ((← parse specs among rest).addOption ⟨name, some v⟩)

end ApiRouter.CommandLine

/-! ## Pairs

Options that take a key and a value with an equals sign between them. A key that occurs several
times has the list of its values, or only the last one where a list makes no sense. -/

namespace ApiRouter.Pairs

/-- The texts before and after the first equals sign; the key must not be empty. -/
def split? (pair : String) : Option (String × String) :=
  let cs := pair.toList
  let key := cs.takeWhile (· != '=')
  match key, cs.drop key.length with
  | _ :: _, '=' :: value => some (String.ofList key, String.ofList value)
  | _, _ => none

/-- Adds a further value of a key. -/
def addValue (old : Option Value) (value : String) : Value :=
  match old with
  | none => .text value
  | some (.list vs) => .list (vs ++ [.text value])
  | some v => .list [v, .text value]

/-- Refuses a text that is no pair. -/
def read (option pair : String) : Except Failure (String × String) :=
  match split? pair with
  | some kv => .ok kv
  | none => fail .invalidUsage (option ++ " expects KEY=VALUE, got '" ++ pair ++ "'")

/-- The values by key. -/
def grouped (option : String) (pairs : List String) : Except Failure (List (String × Value)) :=
  pairs.foldlM (fun found pair => do
    let (key, value) ← read option pair
    .ok (Ordered.insert found key (addValue (Ordered.find? found key) value))) []

/-- The last value of every key. -/
def last (option : String) (pairs : List String) : Except Failure (List (String × String)) := do
  .ok (Ordered.ofList (← pairs.mapM (read option)))

end ApiRouter.Pairs
