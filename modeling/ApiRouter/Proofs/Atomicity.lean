import ApiRouter.Proofs.CommandRouting

set_option autoImplicit false

/-! # What a failed run leaves on the standard output

A command makes all of its result before it prints any of it, with one exception: a table in plain
lines is printed row by row. A run that fails has therefore printed nothing, unless it lists routes in
plain lines and comes to a cell that is no text. -/

namespace ApiRouter

/-! ## Tables -/

namespace Output

/-- All of a table as it is printed. -/
def tableText (o : Output) (headers : List Value) (rows : List (List Value)) :
    Except Failure String :=
  match o.table headers rows with
  | (out, none) => .ok out
  | (_, some f) => .error f

end Output

namespace CommandLine

variable {w : Workspace} {o : Output}

/-! ## Endings -/

/-- What an action prints when nothing fails. -/
def Action.text (o : Output) (router : Router) : Action → Except Failure String
  | .listRoutes => o.tableText (routeHeaders.map .text) (routeRows router)
  | .findLink method path => CommandLine.findLink router method path >>= o.response
  | .showLink method href => CommandLine.showLink router method href >>= o.response
  | .check method path input => CommandLine.check router method path input >>= o.response

/-- What a command prints when nothing fails, or what the first failure is. -/
def Command.text (w : Workspace) (o : Output) (c : Command) : Except Failure String :=
  (compile w c).router >>= fun router => c.action.text o router

end CommandLine

end ApiRouter
