import ApiRouter.CommandLine.Run

set_option autoImplicit false

/-! # The program

Collects the surroundings that a command line asks about, runs it, and prints what it leaves behind.
Documents are read from files and from the standard input; the network is out of reach. -/

namespace ApiRouter.Program

/-- What stands at a path that is followed from a directory. -/
def readEntry (path : String) : IO (Option Entry) := do
  if ← ((← IO.currentDir) / path).isDir then return some .directory
  try
    let bytes ← IO.FS.readBinFile path
    return some (.file (.ofBytes (bytes.toList.map UInt8.toNat)))
  catch
    | .noFileOrDirectory .. => return none
    | .inappropriateType .. => return none
    | e => return some (.file (.unreadable (toString e)))

/-- The paths on the way along a path, and the path itself. -/
def pathsAlong (path : String) : List String :=
  let names := Path.names path
  (List.range names.length).map fun n =>
    Path.root path ++ String.intercalate "/" (names.take (n + 1))

/-- Adds what stands on the way along a path. -/
def readAlong (files : Files) (path : String) : IO Files :=
  (pathsAlong path).foldlM (fun files path => do
    match files.follow path, ← readEntry path with
    | .ok place, some entry => return { files with entries := (place, entry) :: files.entries }
    | _, _ => return files) files

/-- What the standard input holds, if the command line asks for it. -/
def readStdin (wanted : Bool) : IO TextSource := do
  if !wanted then return .text ""
  try
    return .text (← (← IO.getStdin).readToEnd)
  catch e => return .unreadable (toString e)

/-- The environment variables that matter. -/
def readEnvironment : IO (List (String × String)) := do
  let names := ["HOME", "XDG_CONFIG_HOME", "XDG_DATA_HOME", "NO_COLOR", "TERM", "SPECROUTE_PREFIX"]
    ++ Configuration.switches.map Prod.fst
  names.filterMapM fun name => do return (← IO.getEnv name).map fun value => (name, value)

/-- Saves the log of a crash. -/
def saveLog (path : String) (arguments : List String) : IO Unit := do
  let directory := String.intercalate "/" ((path.splitOn "/").dropLast)
  IO.FS.createDirAll directory
  IO.FS.writeFile path ("argv: " ++ String.intercalate " " arguments ++ "\n")

/-- The surroundings of a run, as far as they matter to it. -/
def survey (spec : String) : IO Workspace := do
  let directory := (← IO.currentDir).toString
  let w : Workspace :=
    { files := ⟨Path.names directory, []⟩
      stdin := ← readStdin (spec == "-")
      fetch := fun _ => .unreachable "no network"
      environment := ← readEnvironment
      accountHome := "/root"
      system := "Linux"
      moment := toString (← IO.monoMsNow) }
  let below (base : Except Failure String) (name : String) : List String :=
    (base.toOption.map (Path.join · name)).toList
  let paths := [spec, Path.join directory (Configuration.programName ++ ".json")]
    ++ below (Configuration.configDirectory w) "config.json"
    ++ below (Configuration.dataDirectory w) "logs"
  return { w with files := ← paths.foldlM readAlong w.files }

end ApiRouter.Program

open ApiRouter in
/-- Runs the program. -/
def main (arguments : List String) : IO UInt32 := do
  let invocation := CommandLine.Invocation.ofArguments arguments
  let spec := match invocation with
    | .run _ command => command.spec
    | _ => ""
  match invocation.outcome (← Program.survey spec) with
  | .error _ =>
    IO.eprintln "The log of a crash cannot be saved."
    return 1
  | .ok outcome =>
    IO.print outcome.out
    IO.eprint outcome.err
    match outcome.crashLog with
    | some path => Program.saveLog path arguments
    | none => pure ()
    return UInt32.ofNat outcome.exitCode.toNat
