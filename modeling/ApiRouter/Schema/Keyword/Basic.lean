import ApiRouter.Pattern.Search
import ApiRouter.Schema.Findings
import ApiRouter.Schema.Rules

set_option autoImplicit false

/-! # Keywords: their values and what they work with

The shapes that values of keywords take, and how a keyword evaluates the schemas that it holds. A
keyword passes every instance of a type that it does not apply to; the value of a keyword is looked
at only when it is needed. -/

namespace ApiRouter.Schema

/-- How the evaluation of a schema begins. -/
inductive Entry where
  /-- At a part of the schema before, which may be a resource of its own. -/
  | part
  /-- At a schema that a reference leads to. -/
  | reference
  /-- At a schema of which only the verdict counts. -/
  | verdict
  deriving DecidableEq, Repr

/-- What a keyword works with: where its schema stands, and the evaluation of other schemas. -/
structure Evaluator where
  context : Context
  evaluate : Entry → Context → (schema subject : Value) → Findings

namespace Evaluator

/-- What a part of the schema finds. -/
def descend (e : Evaluator) (schema subject : Value) : Findings :=
  e.evaluate .part e.context schema subject

/-- What a part of the schema finds in the part `name` of the instance. What a schema that allows
nothing finds is reported for the whole instance. -/
def descendAt (e : Evaluator) (name : String) (schema subject : Value) : Findings :=
  if schema = .bool false then e.descend schema subject
  else (e.descend schema subject).under name

/-- Whether a schema is satisfied. -/
def judge (e : Evaluator) (schema subject : Value) : Except Defect Bool :=
  (e.evaluate .verdict e.context schema subject).isClear

/-- What the schema that a reference denotes finds. -/
def refer (e : Evaluator) (found : Except Defect (Scope × Value)) (subject : Value) : Findings :=
  .withValue found fun (scope, schema) =>
    e.evaluate .reference { e.context with scope := scope } schema subject

end Evaluator

/-- What one keyword of a schema finds. -/
abbrev Keyword := Evaluator → (schema : Entries) → (value subject : Value) → Findings

namespace Keyword

/-! ## Values of keywords -/

/-- The entries of a keyword's value. -/
def entriesOf (v : Value) : Except Defect Entries :=
  match v with
  | .map es => .ok es
  | _ => .error .noMember

/-- A keyword's value as a number to compare with. -/
def limitOf (v : Value) : Except Defect Number :=
  match v.number? with
  | some n => .ok n
  | none => .error .wrongType

/-- A single text stands for the list of it alone. -/
def listOf (v : Value) : Except Defect (List Value) :=
  match v with
  | .text s => .ok [.text s]
  | v => itemsOf v

/-- A number among instances; booleans are none. -/
def numberOf? (v : Value) : Option Number :=
  match v with
  | .int n => some (.int n)
  | .float x => some (.float x)
  | _ => none

/-! ## Regular expressions -/

/-- Why nothing can be searched for with a pattern that cannot be read. -/
def defectOf : Pattern.Error → Defect
  | .hugeRepeat => .overflow
  | .contradictoryFlags => .badValue
  | .tooDeep => .endless
  | .malformed _ _ => .badPattern

/-- The search for a keyword's regular expression; one for bytes finds nothing in texts. -/
def searchFor (pattern : Value) : Except Defect (String → Except Defect Bool) :=
  match pattern with
  | .text s =>
    match Pattern.read s with
    | .ok p => .ok fun text =>
      match Pattern.find? p text with
      | none => .ok false
      | some c => if c.marks.anyCrossed then .error .crossedCapture else .ok true
    | .error e => .error (defectOf e)
  | .bytes b =>
    match Pattern.readBytes b with
    | .ok _ => .error .wrongType
    | .error e => .error (defectOf e)
  | _ => .error .wrongType

/-- The text of a key that a regular expression looks at. -/
def keyTextOf (k : Scalar) : Except Defect String :=
  match k with
  | .text s => .ok s
  | _ => .error .wrongType

/-! ## Keys -/

/-- Whether something is a key of a mapping; lists and mappings cannot be asked for. -/
def hasKey (m : Entries) (k : Value) : Except Defect Bool :=
  match k with
  | .scalar s => .ok (Ordered.has m s)
  | .pair _ _ => .ok false
  | _ => .error .wrongType

/-- Whether a key occurs in a keyword's value: as key, as item, or within a text. -/
def occursIn (k : Scalar) (v : Value) : Except Defect Bool :=
  match v with
  | .map m => .ok (Ordered.has m k)
  | .list vs => .ok (vs.any fun v => v.equal (.scalar k))
  | .pair a b => .ok (a.equal (.scalar k) || b.equal (.scalar k))
  | .set members => .ok (members.contains k)
  | .text s =>
    match k with
    | .text t => .ok (mentions (.text s) t)
    | _ => .error .wrongType
  | _ => .error .wrongType

/-! ## Messages -/

/-- Values as a message lists them. -/
def listing (vs : List Value) : String :=
  String.intercalate ", " (vs.map Value.quoted)

/-- The verb for some values that there should not be. -/
def wasOrWere (vs : List Value) : String :=
  if vs.length == 1 then "was" else "were"

end Keyword

end ApiRouter.Schema
