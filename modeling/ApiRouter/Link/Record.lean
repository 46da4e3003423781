import ApiRouter.Error
import ApiRouter.Value.Equal

set_option autoImplicit false

/-! # Links as records

A link that is described field by field. Fields that are not given are empty; there are no other
fields than those of a link. -/

namespace ApiRouter.LinkRecord

/-- The fields of an empty link. -/
def empty : List (String × Value) :=
  [("method", .null), ("href", .null), ("enc_type", .null), ("media_type", .null),
    ("status_success", .null), ("schema", .null), ("schema_data", .null),
    ("body_required", .bool false), ("header_schema", .null), ("target_schema", .null)]

/-- Sets one field. -/
def setField (record : List (String × Value)) (key : Scalar) (v : Value) :
    Except Failure (List (String × Value)) :=
  match key with
  | .text name =>
    if Ordered.has record name then .ok (Ordered.insert record name v) else defect .wrongType
  | _ => defect .wrongType

/-- The record with the given fields. -/
def ofFields (fields : Entries) : Except Failure (List (String × Value)) :=
  fields.foldlM (fun record e => setField record e.1 e.2) empty

/-- Whether a record describes the empty link. -/
def isEmpty (record : List (String × Value)) : Bool :=
  (Value.object record).equal (Value.object empty)

end ApiRouter.LinkRecord
