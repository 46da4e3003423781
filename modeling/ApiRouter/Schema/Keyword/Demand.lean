import ApiRouter.Number.Multiple
import ApiRouter.Schema.Equal
import ApiRouter.Schema.Keyword.Basic

set_option autoImplicit false

/-! # Keywords without schemas

What the keywords demand that look at an instance by themselves. -/

namespace ApiRouter.Schema.Keyword

/-! ## Kinds and values -/

/-- Whether a value is of one of the types, which are tried in order. -/
def isOneOf (r : Rules) (v : Value) : List Value → Except Defect Bool
  | [] => .ok false
  | name :: rest => do
    if ← r.isTypeNamed v name then return true else isOneOf r v rest

def types : Keyword := fun e _ v subject =>
  .withValue (listOf v) fun names =>
    .withValue (isOneOf e.context.rules subject names) fun ok =>
      .require ok (subject :: names) (subject.quoted ++ " is not of type " ++ listing names)

def enumeration : Keyword := fun _ _ v subject =>
  .withValue (itemsOf v) fun vs =>
    .require (vs.any fun x => matching x subject) [subject, v]
      (subject.quoted ++ " is not one of " ++ v.quoted)

def constant : Keyword := fun _ _ v subject =>
  .require (matching subject v) [v] (v.quoted ++ " was expected")

/-! ## Numbers -/

/-- A bound on numbers, which those for which `broken` holds violate. -/
def bound (broken : Number → Number → Bool) (relation : String) (v subject : Value) : Findings :=
  match numberOf? subject with
  | none => .clear
  | some x =>
    .withValue (limitOf v) fun limit =>
      .require (!broken x limit) [subject, v]
        (subject.quoted ++ " is " ++ relation ++ " of " ++ v.quoted)

def minimum : Keyword := fun _ _ v subject =>
  bound Number.lt "less than the minimum" v subject

def maximum : Keyword := fun _ _ v subject =>
  bound (fun x limit => limit.lt x) "greater than the maximum" v subject

def exclusiveMinimum : Keyword := fun _ _ v subject =>
  bound Number.le "less than or equal to the minimum" v subject

def exclusiveMaximum : Keyword := fun _ _ v subject =>
  bound (fun x limit => limit.le x) "greater than or equal to the maximum" v subject

/-- A lower bound that an instance may equal unless the schema excludes it. -/
def minimumOrMore : Keyword := fun e schema v subject =>
  if (Entries.get schema "exclusiveMinimum").truthy then exclusiveMinimum e schema v subject
  else minimum e schema v subject

/-- An upper bound that an instance may equal unless the schema excludes it. -/
def maximumOrLess : Keyword := fun e schema v subject =>
  if (Entries.get schema "exclusiveMaximum").truthy then exclusiveMaximum e schema v subject
  else maximum e schema v subject

def multipleOf : Keyword := fun _ _ v subject =>
  match numberOf? subject with
  | none => .clear
  | some x =>
    let verdict : Except Defect Bool :=
      match v with
      | .float d => x.isMultipleOfBinary d
      | .int n => x.isMultipleOfInt n
      | .bool b => x.isMultipleOfInt (if b then 1 else 0)
      | _ => .error .wrongType
    .withValue verdict fun ok =>
      .require ok [subject, v] (subject.quoted ++ " is not a multiple of " ++ v.quoted)

/-! ## Sizes -/

/-- At least `v` parts. A limit of one has a wording of its own. -/
def atLeast (size : Nat) (v subject : Value) (message : String) : Findings :=
  .withValue (limitOf v) fun limit =>
    .require (!(Number.int size).lt limit) [subject]
      (subject.quoted ++ " " ++ (if limit.eq (.int 1) then "should be non-empty" else message))

/-- At most `v` parts. A limit of zero has a wording of its own. -/
def atMost (size : Nat) (v subject : Value) (message : String) : Findings :=
  .withValue (limitOf v) fun limit =>
    .require (!limit.lt (Number.int size)) [subject]
      (subject.quoted ++ " " ++ (if limit.eq (.int 0) then "is expected to be empty" else message))

def minLength : Keyword := fun _ _ v subject =>
  match subject with
  | .text s => atLeast s.length v subject "is too short"
  | _ => .clear

def maxLength : Keyword := fun _ _ v subject =>
  match subject with
  | .text s => atMost s.length v subject "is too long"
  | _ => .clear

def minItems : Keyword := fun _ _ v subject =>
  match subject with
  | .list vs => atLeast vs.length v subject "is too short"
  | _ => .clear

def maxItems : Keyword := fun _ _ v subject =>
  match subject with
  | .list vs => atMost vs.length v subject "is too long"
  | _ => .clear

def minProperties : Keyword := fun _ _ v subject =>
  match subject with
  | .map es => atLeast es.length v subject "does not have enough properties"
  | _ => .clear

def maxProperties : Keyword := fun _ _ v subject =>
  match subject with
  | .map es => atMost es.length v subject "has too many properties"
  | _ => .clear

/-! ## Parts -/

def uniqueItems : Keyword := fun _ _ v subject =>
  match subject with
  | .list vs =>
    .require (!v.truthy || Distinct.holds vs) [subject]
      (subject.quoted ++ " has non-unique elements")
  | _ => .clear

def pattern : Keyword := fun _ _ v subject =>
  match subject with
  | .text s =>
    .withValue (do (← searchFor v) s) fun found =>
      .require found [] (subject.quoted ++ " does not match " ++ v.quoted)
  | _ => .clear

/-- All names are keys of the instance; the message says so of the first that is none. -/
def allPresent (es : Entries) (names : List Value) (message : Value → String) : Findings :=
  .forAll names fun name =>
    .withValue (hasKey es name) fun present => .require present [name] (message name)

def required : Keyword := fun _ _ v subject =>
  match subject with
  | .map es =>
    .withValue (itemsOf v) fun names =>
      allPresent es names fun name => name.quoted ++ " is a required property"
  | _ => .clear

/-- The message for a missing key that another key needs. -/
def dependencyMessage (k : Scalar) (name : Value) : String :=
  name.quoted ++ " is a dependency of " ++ k.quoted

/-- The keys that other keys need. -/
def dependentRequired : Keyword := fun _ _ v subject =>
  match subject with
  | .map es =>
    .withValue (entriesOf v) fun deps =>
      .forAll deps fun (k, dep) =>
        if !Ordered.has es k then .clear
        else .withValue (itemsOf dep) fun names => allPresent es names (dependencyMessage k)
  | _ => .clear

end ApiRouter.Schema.Keyword
