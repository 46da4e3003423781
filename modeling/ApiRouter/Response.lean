import ApiRouter.Schema
import ApiRouter.Text.Digit
import ApiRouter.Text.Split
import ApiRouter.Value.Display

set_option autoImplicit false

/-! # Success responses

An operation declares responses by status. The one that counts as its success is 200, else 201,
else the first status of three digits; keys are compared as trimmed text, so a number and its text
are the same status. -/

namespace ApiRouter.Response

/-- The status that succeeds, and the schema of its body if it has one. -/
structure Success where
  status : Option Nat
  schema : Option Schema

/-- A status key as trimmed text. -/
def statusText (key : Scalar) : String :=
  Text.strip key.display

/-- Responses by status text, the last one of a status counting. -/
def byStatus (responses : Entries) : List (String × Value) :=
  Ordered.ofList (responses.map fun e => (statusText e.1, e.2))

/-- Whether a status is written in three ASCII digits. -/
def isStatus (s : String) : Bool :=
  s.length == 3 && s.toList.all Text.isAsciiDigit

/-- The status that counts as success. -/
def chosen? (responses : List (String × Value)) : Option String :=
  if Ordered.has responses "200" then some "200"
  else if Ordered.has responses "201" then some "201"
  else (Ordered.keys responses).find? isStatus

/-- The schema payload of a response, if it declares one. -/
def payload? (response : Value) : Option Entries :=
  match response with
  | .map r =>
    match Entries.get r "schema" with
    | .map p => some p
    | _ => none
  | _ => none

/-- The success response among those declared. A key that cannot be shown has no text to compare. -/
def success (responses : Value) : Except Failure Success :=
  if !responses.truthy then .ok ⟨none, none⟩
  else
    match responses with
    | .map rs =>
      if rs.all fun e => e.1.isShowable then
        let named := byStatus rs
        match chosen? named with
        | none => .ok ⟨none, none⟩
        | some status => do
          let schema ← match payload? ((Ordered.find? named status).getD .null) with
            | some p => some <$> Schema.ofEntries p
            | none => .ok none
          .ok ⟨some (Text.decimalNumber status.toList), schema⟩
      else defect .badValue
    | _ => defect .noMember

end ApiRouter.Response
