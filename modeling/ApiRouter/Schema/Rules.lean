import ApiRouter.Schema.Registry

set_option autoImplicit false

/-! # Rules that schemas are read by

A dialect fixes which keywords a schema has and which types there are. A schema may declare its
dialect, for itself and the schemas inside it. -/

namespace ApiRouter.Schema

/-- The rules for a schema. -/
structure Rules where
  dialect : Dialect
  /-- Whether there is a type for uploaded files, which takes everything. -/
  allowsFiles : Bool
  deriving DecidableEq, Repr

namespace Rules

/-- The rules for the schemas of requests and responses. -/
def forMessages : Rules := ⟨.draft4, true⟩

/-! ## Types -/

/-- Whether a value is a whole number. -/
def isWhole (r : Rules) (v : Value) : Bool :=
  match v with
  | .int _ => true
  | .float x => r.dialect.countsWholeFloats && x.toInt?.isSome
  | _ => false

/-- Whether a value is an instance of a type, if there is a type of that name. -/
def isType? (r : Rules) (v : Value) (name : String) : Option Bool :=
  match name with
  | "any" => if r.dialect == .draft3 then some true else none
  | "array" => some v.isList
  | "boolean" => some (match v with | .bool _ => true | _ => false)
  | "file" => if r.allowsFiles then some true else none
  | "integer" => some (r.isWhole v)
  | "null" => some (match v with | .null => true | _ => false)
  | "number" => some (match v with | .int _ | .float _ => true | _ => false)
  | "object" => some v.isMap
  | "string" => some (match v with | .text _ => true | _ => false)
  | _ => none

/-- Whether a value is an instance of the type that a value names. -/
def isTypeNamed (r : Rules) (v name : Value) : Except Defect Bool :=
  match name with
  | .scalar (.text s) =>
    match r.isType? v s with
    | some b => .ok b
    | none => .error .unknownType
  | .scalar _ | .pair _ _ => .error .unknownType
  | _ => .error .wrongType

/-! ## Declared dialects -/

/-- The dialect that a value declares; whatever identifies none declares none. -/
def declared? (v : Value) : Except Defect (Option Dialect) :=
  match v with
  | .text s => do return Dialect.ofIdentifier? (← Uri.normalize s)
  | .scalar (.bytes b) => if b.all (· < 128) then .ok none else .error .undecodable
  | .scalar _ | .pair _ _ => if v.truthy then .error .noMember else .ok none
  | _ => .error .wrongType

/-- The rules for a schema inside one that these rules are for. -/
def inside (r : Rules) (schema : Value) : Except Defect Rules :=
  match schema with
  | .map m =>
    match Entries.find? m "$schema" with
    | none => .ok r
    | some v => do
      match ← declared? v with
      | some d => return ⟨d, false⟩
      | none => return r
  | schema => do
    if ← hasMember schema "$schema" then throw .wrongType
    return r

end Rules

/-- What a schema is evaluated in. -/
structure Context where
  rules : Rules
  scope : Scope

end ApiRouter.Schema
