import ApiRouter.Schema.Keyword.Demand

set_option autoImplicit false

/-! # Keywords with schemas

What the keywords find that apply other schemas to the instance or to its parts. -/

namespace ApiRouter.Schema.Keyword

/-! ## References -/

def reference : Keyword := fun e _ v subject =>
  e.refer (e.context.scope.resolve v) subject

def recursiveReference : Keyword := fun e _ _ subject =>
  e.refer e.context.scope.resolveRecursive subject

/-! ## Members of mappings -/

def properties : Keyword := fun e _ v subject =>
  match subject with
  | .map es =>
    .withValue (entriesOf v) fun subs =>
      .forAll subs fun (k, sub) =>
        match Ordered.find? es k with
        | some x => e.descendAt k.display sub x
        | none => .clear
  | _ => .clear

/-- Schemas for properties, which also say which of them are required. -/
def propertiesWithRequired : Keyword := fun e _ v subject =>
  match subject with
  | .map es =>
    .withValue (entriesOf v) fun subs =>
      .forAll subs fun (k, sub) =>
        match Ordered.find? es k with
        | some x => e.descendAt k.display sub x
        | none =>
          .withValue (entriesOf sub) fun m =>
            let needed := (Entries.get m "required").truthy
            (Findings.require (!needed) [.scalar k]
              (k.quoted ++ " is a required property")).under "required"
  | _ => .clear

def patternProperties : Keyword := fun e _ v subject =>
  match subject with
  | .map es =>
    .withValue (entriesOf v) fun subs =>
      .forAll subs fun (p, sub) =>
        .forAll es fun (k, x) =>
          .withValue (do (← searchFor (.scalar p)) (← keyTextOf k)) fun found =>
            if found then e.descendAt k.display sub x else .clear
  | _ => .clear

def propertyNames : Keyword := fun e _ v subject =>
  match subject with
  | .map es => .forAll es fun (k, _) => e.descend v (.scalar k)
  | _ => .clear

/-- The keys of the instance that neither `properties` names nor a pattern of `patternProperties`
finds. The patterns count as one expression of alternatives. -/
def extraKeys (schema es : Entries) : Except Defect (List Scalar) := do
  let named := (Entries.find? schema "properties").getD (.map [])
  let patterns ← itemsOf ((Entries.find? schema "patternProperties").getD (.map []))
  let texts ← patterns.mapM fun
    | .text s => .ok s
    | _ => .error .wrongType
  let joined := String.intercalate "|" texts
  let extras ← es.filterMapM fun (k, _) => do
    if ← occursIn k named then return none
    if joined.isEmpty then return some k
    let search ← searchFor (.text joined)
    if ← search (← keyTextOf k) then return none
    return some k
  .ok extras

/-- Keys in the order of their texts. -/
def sortedByText (ks : List Scalar) : List Value :=
  (ks.mergeSort fun a b => decide (a.display ≤ b.display)).map .scalar

/-- Values in their own order. -/
def sorted (vs : List Value) : Except Defect (List Value) :=
  match Value.sort? vs with
  | some vs => .ok vs
  | none => .error .wrongType

/-- The violation of keys that should not be there. -/
def extraViolation (schema : Entries) (extras : List Scalar) : Findings :=
  let shown := extras.map Value.scalar
  match Entries.find? schema "patternProperties" with
  | some patterns =>
    .withValue (sorted shown) fun keys =>
      .withValue (do sorted (← itemsOf patterns)) fun patterns =>
        .report shown (listing keys ++ (if extras.length == 1 then " does" else " do") ++
          " not match any of the regexes: " ++ listing patterns)
  | none =>
    .report shown ("Additional properties are not allowed (" ++ listing (sortedByText extras) ++
      " " ++ wasOrWere shown ++ " unexpected)")

def additionalProperties : Keyword := fun e schema v subject =>
  match subject with
  | .map es =>
    .withValue (extraKeys schema es) fun extras =>
      if v.isMap then
        .forAll extras fun k => (e.descend v ((Ordered.find? es k).getD .null)).under k.display
      else if v.truthy || extras.isEmpty then .clear
      else extraViolation schema extras
  | _ => .clear

/-! ## Items of lists -/

/-- One schema for each of the first items. -/
def itemByItem (e : Evaluator) (subs : List Value) (xs : List Value) : Findings :=
  .forAll (xs.zip subs).zipIdx fun ((x, sub), i) => e.descendAt (toString i) sub x

/-- One schema for all items; the first of them has the index `start`. -/
def everyItem (e : Evaluator) (sub : Value) (start : Nat) (xs : List Value) : Findings :=
  .forAll (xs.zipIdx start) fun (x, i) => e.descendAt (toString i) sub x

/-- A schema for all items when it is a mapping, else one for each of the first. -/
def itemsOfEarlyDrafts : Keyword := fun e _ v subject =>
  match subject with
  | .list xs =>
    if v.isMap then everyItem e v 0 xs
    else .withValue (itemsOf v) fun subs => itemByItem e subs xs
  | _ => .clear

/-- A schema for each of the first items when it is a list, else one for all. -/
def itemsOfMiddleDrafts : Keyword := fun e _ v subject =>
  match subject with
  | .list xs =>
    match v with
    | .list subs => itemByItem e subs xs
    | v => everyItem e v 0 xs
  | _ => .clear

def prefixItems : Keyword := fun e _ v subject =>
  match subject with
  | .list xs => .withValue (itemsOf v) fun subs => itemByItem e subs xs
  | _ => .clear

/-- The number of parts of a keyword's value; an absent keyword has none. -/
def sizeOfKeyword (schema : Entries) (keyword : String) : Except Defect Nat :=
  match Entries.find? schema keyword with
  | none => .ok 0
  | some v => List.length <$> itemsOf v

/-- A schema for the items after the first ones. -/
def itemsAfterFirst : Keyword := fun e schema v subject =>
  match subject with
  | .list xs =>
    .withValue (sizeOfKeyword schema "prefixItems") fun n =>
      let extras := xs.drop n
      match extras, v with
      | [], _ => .clear
      | extras, .bool false =>
        let rest := match extras with
          | [x] => x
          | xs => .list xs
        .report [rest] ("Expected at most " ++ toString n ++
          (if n == 1 then " item" else " items") ++ " but found " ++ toString extras.length ++
          " extra: " ++ rest.quoted)
      | extras, v => everyItem e v n extras
  | _ => .clear

/-- The violation of items that should not be there. -/
def extraItems (extras : List Value) (word : String) : Findings :=
  .report extras (word ++ " items are not allowed (" ++ listing extras ++ " " ++
    wasOrWere extras ++ " unexpected)")

def additionalItems : Keyword := fun e schema v subject =>
  match subject with
  | .list xs =>
    match Entries.find? schema "items" with
    | none => .clear
    | some (.map _) => .clear
    | some _ =>
      .withValue (sizeOfKeyword schema "items") fun n =>
        let extras := xs.drop n
        if v.isMap then everyItem e v n extras
        else if v.truthy || extras.isEmpty then .clear
        else extraItems extras "Additional"
  | _ => .clear

/-- Some item satisfies the schema. -/
def containsOne : Keyword := fun e _ v subject =>
  match subject with
  | .list xs =>
    .withValue (xs.anyM fun x => e.judge v x) fun found =>
      .require found [subject]
        ("None of " ++ subject.quoted ++ " are valid under the given schema")
  | _ => .clear

/-- The number of items that satisfy a schema, counted up to the first beyond a limit. -/
def countUpTo (judge : Value → Except Defect Bool) (limit : Number) (count : Nat) :
    List Value → Except Defect Nat
  | [] => .ok count
  | x :: rest => do
    if ← judge x then
      if limit.lt (.int (count + 1)) then return count + 1
      countUpTo judge limit (count + 1) rest
    else countUpTo judge limit count rest

/-- The value of a keyword, with a default. -/
def keywordOr (schema : Entries) (keyword : String) (otherwise : Value) : Value :=
  (Entries.find? schema keyword).getD otherwise

/-- So many items satisfy the schema as other keywords ask for. -/
def containsSome : Keyword := fun e schema v subject =>
  match subject with
  | .list xs =>
    let least := keywordOr schema "minContains" (.int 1)
    let most := keywordOr schema "maxContains" (.int xs.length)
    let verdict : Except Defect (Nat × Bool × Bool) := do
      let anyValid ← xs.anyM fun x => e.judge v x
      let count ← if anyValid then countUpTo (e.judge v) (← limitOf most) 0 xs else .ok 0
      if count > 0 && (← limitOf most).lt (.int count) then return (count, true, false)
      return (count, false, (Number.int count).lt (← limitOf least))
    .withValue verdict fun (count, tooMany, tooFew) =>
      if tooMany then
        .report [most] ("Too many items match the given schema (expected at most " ++
          most.display ++ ")")
      else if !tooFew then .clear
      else if count == 0 then
        .report [subject] (subject.quoted ++ " does not contain items matching the given schema")
      else
        .report [least] ("Too few items match the given schema (expected at least " ++
          least.display ++ " but only " ++ toString count ++ " matched)")
  | _ => .clear

/-! ## Dependencies -/

/-- What the keys of an instance entail, each for itself. -/
def forPresentKeys (v subject : Value) (check : Entries → Scalar → Value → Findings) : Findings :=
  match subject with
  | .map es =>
    .withValue (entriesOf v) fun deps =>
      .forAll deps fun (k, dep) => if Ordered.has es k then check es k dep else .clear
  | _ => .clear

/-- Keys that a key needs, or a schema that it makes apply. -/
def dependencies : Keyword := fun e _ v subject =>
  forPresentKeys v subject fun es k dep =>
    match dep with
    | .list names => allPresent es names (dependencyMessage k)
    | dep => e.descend dep subject

/-- A schema that a key makes apply, or one key or several that it needs. -/
def dependenciesOfDraft3 : Keyword := fun e _ v subject =>
  forPresentKeys v subject fun es k dep =>
    match dep with
    | .map m => e.descend (.map m) subject
    | .text s => allPresent es [.text s] (dependencyMessage k)
    | dep => .withValue (itemsOf dep) fun names => allPresent es names (dependencyMessage k)

def dependentSchemas : Keyword := fun e _ v subject =>
  forPresentKeys v subject fun _ _ dep => e.descend dep subject

/-! ## Combinations -/

def allOf : Keyword := fun e _ v subject =>
  .withValue (itemsOf v) fun subs => .forAll subs fun sub => e.descend sub subject

/-- One schema or several that apply as well. -/
def extension : Keyword := fun e schema v subject =>
  if v.isMap then e.descend v subject else allOf e schema v subject

/-- The first of the schemas that the instance satisfies, and those after it. -/
def firstValid (e : Evaluator) (subject : Value) :
    List Value → Except Defect (Option (Value × List Value))
  | [] => .ok none
  | sub :: rest => do
    let violations ← (e.descend sub subject).all
    if violations.isEmpty then .ok (some (sub, rest)) else firstValid e subject rest

def noneValid (subject : Value) : Findings :=
  .report [subject] (subject.quoted ++ " is not valid under any of the given schemas")

def anyOf : Keyword := fun e _ v subject =>
  .withValue (itemsOf v) fun subs =>
    .withValue (firstValid e subject subs) fun
      | some _ => .clear
      | none => noneValid subject

def oneOf : Keyword := fun e _ v subject =>
  .withValue (itemsOf v) fun subs =>
    .withValue (firstValid e subject subs) fun
      | none => noneValid subject
      | some (first, rest) =>
        .withValue (rest.filterM fun sub => e.judge sub subject) fun more =>
          .require more.isEmpty (subject :: first :: more)
            (subject.quoted ++ " is valid under each of " ++ listing (more ++ [first]))

def negation : Keyword := fun e _ v subject =>
  .withValue (e.judge v subject) fun valid =>
    .require (!valid) [subject, v]
      (subject.quoted ++ " should not be valid under " ++ v.quoted)

def condition : Keyword := fun e schema v subject =>
  .withValue (e.judge v subject) fun valid =>
    match Entries.find? schema (if valid then "then" else "else") with
    | some sub => e.descend sub subject
    | none => .clear

/-! ## Types as schemas -/

/-- Whether a value satisfies one of the types, of which some are schemas. -/
def satisfiesOneOf (e : Evaluator) (subject : Value) : List Value → Except Defect Bool
  | [] => .ok false
  | .text "any" :: _ => .ok true
  | .map m :: rest => do
    if (← (e.descend (.map m) subject).all).isEmpty then return true
    satisfiesOneOf e subject rest
  | name :: rest => do
    if ← e.context.rules.isTypeNamed subject name then return true
    satisfiesOneOf e subject rest

/-- A type as a message shows it: a schema by its name, if it has one. -/
def typeShown (v : Value) : Value :=
  match v with
  | .map m => (Entries.find? m "name").getD v
  | v => v

def typesOfDraft3 : Keyword := fun e _ v subject =>
  .withValue (listOf v) fun names =>
    .withValue (satisfiesOneOf e subject names) fun ok =>
      let shown := names.map typeShown
      .require ok (subject :: shown) (subject.quoted ++ " is not of type " ++ listing shown)

def disallow : Keyword := fun e _ v subject =>
  .withValue (listOf v) fun names =>
    .forAll names fun name =>
      .withValue (e.judge (.object [("type", .list [name])]) subject) fun valid =>
        .require (!valid) [subject, name]
          (name.quoted ++ " is disallowed for " ++ subject.quoted)

end ApiRouter.Schema.Keyword
