import ApiRouter.Error
import ApiRouter.Json.Writer
import ApiRouter.Text.Markup
import ApiRouter.Value.Display

set_option autoImplicit false

/-! # Output

Results go to the standard output, as JSON or as plain lines. Messages go to the standard error;
those that are not errors can be silenced. Messages hold style marks unless colours are switched
off. -/

namespace ApiRouter

/-- The form of results. -/
inductive OutputFormat where
  | json
  | plain
  deriving DecidableEq, Repr

/-- How a run writes. -/
structure Output where
  format : OutputFormat
  colours : Bool
  quiet : Bool
  deriving DecidableEq, Repr

/-- The kind of a message. -/
inductive MessageKind where
  | info
  | success
  | error
  deriving DecidableEq, Repr

namespace Output

/-- A text as a line. -/
def line (s : String) : String := s ++ "\n"

/-- A value as JSON. -/
def json (layout : Json.Layout) (v : Value) : Except Failure String :=
  match Json.write layout 0 v with
  | .ok s => .ok s
  | .error cause => defect cause

/-! ## Results -/

/-- A value as a plain text, if it can be shown. -/
def plain (v : Value) : Except Failure String :=
  if v.isShowable then .ok v.display else defect .badValue

/-- What stands after the key of an entry. -/
def entryText (v : Value) : Except Failure String :=
  match v with
  | .list _ | .map _ => json .compact v
  | v => plain v

/-- A result as plain lines: one for each entry of a mapping, for each item of a list, or for
itself. -/
def plainLines (v : Value) : Except Failure (List String) :=
  match v with
  | .map es => es.mapM fun (k, v) => do
    let key ← plain (.scalar k)
    .ok (key ++ "\t" ++ (← entryText v))
  | .list vs => vs.mapM plain
  | v => do .ok [← plain v]

/-- A result as it is printed. -/
def response (o : Output) (v : Value) : Except Failure String :=
  match o.format with
  | .json => line <$> json .indented v
  | .plain => do .ok (String.join ((← plainLines v).map line))

/-- The cells of a row as texts. -/
def cellTexts : List Value → Except Failure (List String)
  | [] => .ok []
  | .scalar (.text s) :: rest => do .ok (s :: (← cellTexts rest))
  | _ :: _ => defect .wrongType

/-- Rows as plain lines up to the first one with a cell that is no text, and whether there was
one. -/
def plainRows : List (List Value) → String × Option Failure
  | [] => ("", none)
  | row :: rest =>
    match cellTexts row with
    | .error f => ("", some f)
    | .ok cells =>
      let (printed, failure) := plainRows rest
      (line (String.intercalate "\t" cells) ++ printed, failure)

/-- A row as a mapping from the headers; a header over a cell must be a scalar. -/
def record (headers row : List Value) : Except Failure Value :=
  (fun es => .map (Ordered.ofList es)) <$> (headers.zip row).mapM fun
    | (.scalar k, v) => .ok (k, v)
    | _ => defect .wrongType

/-- A table as it is printed, and what kept it from being printed in full. -/
def table (o : Output) (headers : List Value) (rows : List (List Value)) :
    String × Option Failure :=
  match o.format with
  | .json =>
    match do json .indented (.list (← rows.mapM (record headers))) with
    | .ok s => (line s, none)
    | .error f => ("", some f)
  | .plain => plainRows (headers :: rows)

/-! ## Messages -/

/-- What stands before a message, and how it is marked. -/
def dressed (o : Output) (kind : MessageKind) (message : String) : String :=
  match kind, o.colours with
  | .info, _ => message
  | .success, false => message
  | .success, true => "[green]" ++ message ++ "[/green]"
  | .error, false => "Error: " ++ message
  | .error, true => "[bold red]Error:[/bold red] " ++ message

/-- A message as it is printed. -/
def message (o : Output) (kind : MessageKind) (text : String) : Except Failure String :=
  if o.quiet && kind != .error then .ok ""
  else
    let text := o.dressed kind text
    if !o.colours then .ok (line text)
    else
      match Text.Markup.plain text with
      | .ok s => .ok (line s)
      | .error cause => defect cause

end Output

end ApiRouter
