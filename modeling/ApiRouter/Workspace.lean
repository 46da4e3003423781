import ApiRouter.Workspace.Files

set_option autoImplicit false

/-! # Surroundings of a program run

The files, the standard input, the replies of the network and the environment variables, as far as
a run looks at them. -/

namespace ApiRouter

/-- What the network answers to a request for a document. -/
inductive Reply where
  | unreachable (reason : String)
  | response (status : Int) (contentType : String) (content : List Nat)
  deriving DecidableEq, Repr

/-- The surroundings of a program run. -/
structure Workspace where
  files : Files
  stdin : TextSource
  fetch : String → Reply
  environment : List (String × String)
  /-- The directory that the system gives the user. -/
  accountHome : String
  /-- The name of the operating system. -/
  system : String
  /-- The present moment as it is written in names of files. -/
  moment : String

namespace Workspace

/-- The environment variable, if it is set. -/
def env? (w : Workspace) (name : String) : Option String :=
  w.environment.lookup name

/-- The environment variable, if it is set and not empty. -/
def setting? (w : Workspace) (name : String) : Option String :=
  (w.env? name).filter fun value => !value.isEmpty

/-- The surroundings with a directory that is made unless it is there. -/
def withDirectory (w : Workspace) (path : String) : Except Failure Workspace := do
  .ok { w with files := ← w.files.makeDirectory path }

end Workspace

end ApiRouter
