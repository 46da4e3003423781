import ApiRouter.Schema.Keyword
import ApiRouter.Value.Mapping

set_option autoImplicit false

/-! # Checking instances

Evaluation of a whole schema on an instance, keyword by keyword in the order in which they are
written. In the earlier dialects a reference hides the keywords beside it.

Evaluation goes from schema to schema, through keywords that hold others and through references,
and may well come back to where it was. Only a limited number of steps may be under way at once. -/

namespace ApiRouter.Schema

/-! ## Evaluation -/

/-- The keywords of a schema that count: a reference alone where that hides them, or all. -/
def activeKeywords (d : Dialect) (schema : Entries) : Entries :=
  match d.hidesSiblings, (Entries.get schema "$ref").present? with
  | true, some ref => [(.text "$ref", ref)]
  | _, _ => schema

/-- The message of the schema that nothing satisfies. -/
def refused (subject : Value) : Findings :=
  .report [subject] ("False schema does not allow " ++ subject.quoted)

/-- What the keywords of a schema find, one after the other. The dialect `outer` decides which of
them count. -/
def applyKeywords (evaluate : Entry → Context → (schema subject : Value) → Findings)
    (outer : Dialect) (c : Context) (schema subject : Value) : Findings :=
  match schema with
  | .map m =>
    .forAll (activeKeywords outer m) fun (k, v) =>
      match Keyword.find? c.rules.dialect k with
      | some keyword => keyword ⟨c, evaluate⟩ m v subject
      | none => .clear
  | _ => .stop .noMember

/-- What a schema is evaluated in when it is entered from elsewhere. -/
def Context.enter (c : Context) (entry : Entry) (schema : Value) : Except Defect Context := do
  let scope ← match entry with
    | .part => c.scope.within ⟨c.rules.dialect, schema⟩
    | .reference | .verdict => .ok c.scope
  return ⟨← c.rules.inside schema, scope⟩

/-- One level of evaluation; `evaluate` is the evaluation of the levels below. -/
def level (evaluate : Entry → Context → (schema subject : Value) → Findings) (entry : Entry)
    (c : Context) (schema subject : Value) : Findings :=
  match schema with
  | .bool true => .clear
  | .bool false => refused subject
  | .endless => .stop .endless
  | schema =>
    .withValue (c.enter entry schema) fun inner =>
      let outer := match entry with
        | .verdict => inner.rules.dialect
        | _ => c.rules.dialect
      applyKeywords evaluate outer inner schema subject

/-- What a schema finds, when `room` more steps may be under way: a schema takes two of them, and
one more when only its verdict counts. -/
def evaluate : (room : Nat) → Entry → Context → (schema subject : Value) → Findings
  | room + 3, .verdict => level (evaluate room) .verdict
  | room + 2, .part => level (evaluate room) .part
  | room + 2, .reference => level (evaluate room) .reference
  | _, _ => fun _ _ _ => .stop .endless

/-- The number of steps that may be under way at once. -/
def stepLimit : Nat := 984

/-! ## Verdicts -/

/-- The payload with the definitions of the document attached, unless it has some. -/
def withDefinitions (payload : Entries) (definitions : Value) : Entries :=
  Ordered.insertIfNew payload (.text "definitions") definitions

/-- What the payload finds wrong with a subject, in the order found. -/
def findings (payload : Entries) (definitions subject : Value) : Findings :=
  let document := Value.map (withDefinitions payload definitions)
  let rules := Rules.forMessages
  .withValue (Scope.ofDocument ⟨rules.dialect, document⟩) fun scope =>
    applyKeywords (evaluate stepLimit) rules.dialect ⟨rules, scope⟩ document subject

/-- A violation as one line: the place, or a mark for the whole, and what is wrong there. -/
def Violation.line (v : Violation) : String :=
  let place := String.intercalate "/" v.path
  (if place.isEmpty then "<root>" else place) ++ ": " ++ v.message

/-- Whether one place comes before another or is the same: part by part, by their texts. -/
def placeLe : List String → List String → Bool
  | [], _ => true
  | _ :: _, [] => false
  | a :: as, b :: bs => if a == b then placeLe as bs else decide (a < b)

/-- All violations of a payload by place, those of one place in the order found. -/
def violations (payload : Value) (definitions subject : Value) :
    Except Failure (List Violation) :=
  match payload.mapping.bind fun p => (findings p definitions subject).all with
  | .ok vs => .ok (vs.mergeSort fun a b => placeLe a.path b.path)
  | .error cause => defect cause

/-- Refuses a subject that violates the payload, with every violation and the first one in the
message. -/
def require (kind : ErrorKind) (label : String) (payload definitions subject : Value) :
    Except Failure Unit := do
  match (← violations payload definitions subject).map Violation.line with
  | [] => .ok ()
  | first :: rest =>
    .error (.reported
      { Report.ofKind kind (label ++ ": " ++ first) with errors := first :: rest })

end ApiRouter.Schema
