import ApiRouter.Api
import ApiRouter.Proofs.Declarations

set_option autoImplicit false

/-! # Well-typed documents

A document may hold a value of any kind anywhere. It is well typed when every value that compiling
looks at is of a kind that can be used there. Whether it makes sense is another matter: a well-typed
document may leave out the name of a parameter, or give a text that is no regular expression. -/

namespace ApiRouter

namespace Checked

variable {α β : Type}

/-- Whether there is a value. -/
def isOk : Checked α → Bool
  | .ok _ => true
  | .issues _ => false

theorem isOk_iff {c : Checked α} : c.isOk = true ↔ ∃ a, c = .ok a := by
  cases c with
  | ok a => simp [isOk]
  | issues is => simp [isOk]

@[simp]
theorem isOk_ok (a : α) : (Checked.ok a).isOk = true := rfl

@[simp]
theorem isOk_map (f : α → β) (c : Checked α) : (f <$> c).isOk = c.isOk := by
  cases c <;> rfl

@[simp]
theorem isOk_seq (f : Checked (α → β)) (c : Checked α) :
    (f <*> c).isOk = (f.isOk && c.isOk) := by
  cases f <;> cases c <;> rfl

@[simp]
theorem isOk_under (name : String) (c : Checked α) : (c.under name).isOk = c.isOk := by
  cases c <;> rfl

@[simp]
theorem isOk_all (cs : List (Checked α)) : (all cs).isOk = cs.all isOk := by
  induction cs with
  | nil => rfl
  | cons c rest ih => simp [all, ih]

end Checked

/-- A list of what can be read can be read. -/
theorem Field.isOk_listOf {vs : List Value} (h : ∀ v ∈ vs, (Field.text v).isOk = true) :
    (Field.listOf Field.text (.list vs)).isOk = true := by
  rw [Field.listOf, Checked.isOk_all, List.all_map, List.all_eq_true]
  -- the items are read along with their places
  rintro ⟨v, i⟩ hv
  have hmem : v ∈ vs := (List.mem_zipIdx' hv).2 ▸ List.getElem_mem _
  simpa using h v hmem

/-! ## Schemas -/

namespace Schema

/-- Whether reading a pattern stays within the limits of regular expressions, whether it is one or
    not. -/
def isBounded : Except Pattern.Error Pattern → Bool
  | .ok _ | .error (.malformed _ _) => true
  | .error _ => false

/-- Whether a pattern is neither text nor bytes, or within the limits of regular expressions. -/
def isBoundedPattern : Value → Bool
  | .text s => isBounded (Pattern.read s)
  | .bytes b => isBounded (Pattern.readBytes b)
  | _ => true

/-- Whether a value is of the type that a keyword needs. -/
def fits (keyword : String) (v : Value) : Bool :=
  match keyword with
  | "$ref" | "format" => (Field.orNull Field.text v).isOk
  | "minLength" | "maxLength" | "minItems" | "maxItems" => (Field.orNull Field.int v).isOk
  | "uniqueItems" | "exclusiveMinimum" | "exclusiveMaximum" => (Field.orNull Field.bool v).isOk
  | "minimum" | "maximum" | "multipleOf" => (Field.orNull Field.number v).isOk
  | "type" => (Field.listOf Field.text (typeList v)).isOk
  | "required" => !v.isList || (Field.listOf Field.text v).isOk
  | "enum" => v.row?.isSome
  | "pattern" => isBoundedPattern v
  | _ => true

/-- Whether the value under a key is of the type that the key needs if it is a keyword. -/
def fitsKey (key : Scalar) (v : Value) : Bool :=
  match key with
  | .text keyword => fits keyword v
  | _ => true

/-- Whether a key serves as a name. -/
def isName (key : Scalar) : Bool := (Field.text (.scalar key)).isOk

mutual

/-- Whether a payload is well typed: the keys are names, the keywords have values that they can use,
and so have those of the payloads under `properties`. -/
def isTyped : Entries → Bool
  | [] => true
  | (k, v) :: rest =>
    isName k && fitsKey k v && (k != .text "properties" || areTyped v) && isTyped rest

/-- Whether the properties in a value are well typed; what is no mapping has none. -/
def areTyped : Value → Bool
  | .map subs => areTypedEntries subs
  | _ => true

/-- Whether the properties among entries are well typed. -/
def areTypedEntries : Entries → Bool
  | [] => true
  | (k, v) :: rest => isTypedProperty k v && areTypedEntries rest

/-- Whether an entry is a well-typed property, or none. -/
def isTypedProperty (k : Scalar) : Value → Bool
  | .map sub => isName k && isTyped sub
  | .endless => false
  | _ => true

end

/-! ### What a well-typed payload holds -/

theorem exists_partsOf {v : Value} (h : v.row?.isSome = true) : ∃ parts, partsOf v = .ok parts := by
  obtain ⟨parts, hparts⟩ := Option.isSome_iff_exists.1 h
  exact ⟨parts, by rw [partsOf.eq_def, hparts]⟩

/-- What is asked of a single entry of a payload. -/
structure IsTypedEntry (e : Scalar × Value) : Prop where
  name : isName e.1 = true
  fits : fitsKey e.1 e.2 = true
  properties : e.1 = .text "properties" → areTyped e.2 = true

theorem isTyped_iff {data : Entries} : isTyped data = true ↔ ∀ e ∈ data, IsTypedEntry e := by
  induction data with
  | nil => simp [isTyped]
  | cons e rest ih =>
      obtain ⟨k, v⟩ := e
      have hproperties : (k != .text "properties" || areTyped v) = true ↔
          (k = .text "properties" → areTyped v = true) := by
        rw [Bool.or_eq_true, bne, Bool.not_eq_true', ← Bool.not_eq_true,
          (Scalar.rigid_text "properties").beq_left, ← imp_iff_not_or]
      rw [isTyped, Bool.and_eq_true, Bool.and_eq_true, Bool.and_eq_true, hproperties, ih,
        List.forall_mem_cons]
      constructor
      · rintro ⟨⟨⟨hname, hfits⟩, hsubs⟩, hrest⟩
        exact ⟨⟨hname, hfits, hsubs⟩, hrest⟩
      · rintro ⟨⟨hname, hfits, hsubs⟩, hrest⟩
        exact ⟨⟨⟨hname, hfits⟩, hsubs⟩, hrest⟩

/-- A keyword of a well-typed payload has a value of its type. -/
theorem fits_of_isTyped {data : Entries} (h : isTyped data = true) {k : String} {v : Value}
    (hfind : Entries.find? data k = some v) : fits k v = true :=
  (isTyped_iff.1 h _ (Ordered.mem_of_find? (Scalar.rigid_text k) hfind)).fits

/-- The properties of a well-typed payload are well typed. -/
theorem areTypedEntries_of_isTyped {data subs : Entries} (h : isTyped data = true)
    (hfind : Entries.find? data "properties" = some (.map subs)) : areTypedEntries subs = true :=
  (isTyped_iff.1 h _ (Ordered.mem_of_find? (Scalar.rigid_text _) hfind)).properties rfl

end Schema

/-! ## Declarations -/

namespace Parameter

/-- Whether a value can be part of a key. -/
def isScalar : Value → Bool
  | .scalar _ => true
  | _ => false

/-- Whether the constraints of a declaration have values that they can use. -/
def hasTypedConstraints (d : Entries) : Bool :=
  ((Entries.find? d "type").all fun t => Schema.fits "type" (.list [t])) &&
    ("enum" :: constraintKeywords).all fun k => (Entries.find? d k).all (Schema.fits k)

/-- Whether a declaration becomes a property: of the schema for parameters, or of that for
    headers. -/
def becomesProperty (d : Entries) : Bool :=
  match locationOf d with
  | some .body | none => false
  | some _ => true

/-- Whether a declaration is well typed: it is a mapping, what makes two declarations the same
    parameter can be part of a key, and if it becomes a property, it has the constraints and the
    name for it. -/
def isTyped : Value → Bool
  | .map d =>
    isScalar (Entries.get d "name") && isScalar (Entries.get d "in") &&
      (!becomesProperty d ||
        (hasTypedConstraints d && (Entries.find? d "name").all fun v => (Field.text v).isOk))
  | _ => false

/-- Whether the parts of a value are well-typed declarations. -/
def areTyped (declared : Value) : Bool :=
  declared.row?.any fun ds => ds.all isTyped

end Parameter

/-! ## Documents -/

/-- Whether the statuses of responses can be shown and their schemas are well typed; there may be no
    responses at all. -/
def Response.areTyped (responses : Value) : Bool :=
  match responses with
  | .map rs => rs.all fun e => e.1.isShowable && (Response.payload? e.2).all Schema.isTyped
  | _ => !responses.truthy

/-- Whether a value lists media types, or there is nothing to it. -/
def Operation.isMediaTypes (declared : Value) : Bool :=
  match declared with
  | .list _ | .text _ => true
  | _ => !declared.truthy

/-- Whether an operation is well typed. -/
def Operation.isTyped (op : Operation) : Bool :=
  (op.pathText.isOk && Parameter.areTyped op.shared &&
      Parameter.areTyped (orEmpty (Entries.get op.body "parameters"))) &&
    (Response.areTyped (Entries.get op.body "responses") &&
      isMediaTypes (Entries.get op.body "consumes") &&
      isMediaTypes (Entries.get op.body "produces"))

/-- Whether a value is a text, or there is nothing to it. -/
def Api.isBasePath (declared : Value) : Bool :=
  match declared with
  | .text _ => true
  | _ => !declared.truthy

/-- Whether all operations of paths are well typed; there may be no paths at all. -/
def Api.arePaths (declared : Value) : Bool :=
  match declared with
  | .map paths => (Operation.ofPaths paths).all Operation.isTyped
  | _ => !declared.truthy

/-- Whether a document is well typed. -/
def Api.isTyped (document : Entries) : Bool :=
  isBasePath (Entries.get document "basePath") && arePaths (Entries.get document "paths") &&
    Operation.isMediaTypes (Entries.get document "consumes") &&
    Operation.isMediaTypes (Entries.get document "produces")

namespace Parameter

/-! ## What is merged from declarations -/

/-- What stands in the payload of a declaration: its type as a list of one, the parts of its
    enumeration, and constraints as they are declared. -/
theorem mem_payload {d p : Entries} (h : payload d = .ok p) {e : Scalar × Value} (he : e ∈ p) :
    (∃ t, e = (.text "type", .list [t]) ∧ Entries.find? d "type" = some t) ∨
      (∃ vs, e = (.text "enum", .list vs)) ∨
      ∃ k v, e = (.text k, v) ∧ k ∈ constraintKeywords ∧ Entries.find? d k = some v := by
  unfold payload at h
  extract_lets types at h
  have htypes (he : e ∈ types) :
      ∃ t, e = (.text "type", .list [t]) ∧ Entries.find? d "type" = some t := by
    unfold types at he
    split at he
    · next t ht => exact ⟨t, List.mem_singleton.1 he, ht⟩
    · cases he
  have hothers (he : e ∈ constraintKeywords.filterMap fun k =>
      (Entries.find? d k).map fun v => (Scalar.text k, v)) :
      ∃ k v, e = (.text k, v) ∧ k ∈ constraintKeywords ∧ Entries.find? d k = some v := by
    obtain ⟨k, hk, hfound⟩ := List.mem_filterMap.1 he
    obtain ⟨v, hv, rfl⟩ := Option.map_eq_some_iff.1 hfound
    exact ⟨k, v, rfl, hk, hv⟩
  split at h
  · obtain ⟨enum, henum, h⟩ := Outcome.bind_eq_ok.1 h
    obtain ⟨vs, -, rfl⟩ := Outcome.map_eq_ok.1 henum
    cases h
    rcases List.mem_append.1 he with he | he
    · rcases List.mem_append.1 he with he | he
      · exact .inl (htypes he)
      · exact .inr (.inl ⟨vs, List.mem_singleton.1 he⟩)
    · exact .inr (.inr (hothers he))
  · cases h
    rcases List.mem_append.1 he with he | he
    · exact .inl (htypes ((List.append_nil types).subst he))
    · exact .inr (.inr (hothers he))

/-- The payload of a declaration with typed constraints is well typed. -/
theorem isTyped_payload {d p : Entries} (hd : hasTypedConstraints d = true)
    (h : payload d = .ok p) : Schema.isTyped p = true := by
  obtain ⟨htype, hconstraints⟩ := Bool.and_eq_true_iff.1 hd
  have hfits {k : String} {v : Value} (hk : k ∈ constraintKeywords)
      (hv : Entries.find? d k = some v) : Schema.fits k v = true := by
    have hall := List.all_eq_true.1 hconstraints k (List.mem_cons_of_mem _ hk)
    rw [hv] at hall
    exact hall
  have hproperties : "properties" ∉ constraintKeywords := by decide
  refine Schema.isTyped_iff.2 fun e he => ?_
  rcases mem_payload h he with ⟨t, rfl, ht⟩ | ⟨vs, rfl⟩ | ⟨k, v, rfl, hk, hv⟩
  · rw [ht] at htype
    exact ⟨rfl, htype, fun hkey => absurd (Scalar.text.inj hkey) (by decide)⟩
  · exact ⟨rfl, rfl, fun hkey => absurd (Scalar.text.inj hkey) (by decide)⟩
  · exact ⟨rfl, hfits hk hv, fun hkey => absurd (Scalar.text.inj hkey ▸ hk) hproperties⟩

/-- A named declaration that is well typed and becomes a property can become one. -/
theorem isTyped_property {d : Entries} (hd : isTyped (.map d) = true)
    (hproperty : becomesProperty d = true) (hname : Entries.has d "name" = true) :
    hasTypedConstraints d = true ∧
      ∃ k, Entries.get d "name" = .scalar k ∧ Schema.isName k = true := by
  obtain ⟨hscalars, hrest⟩ := Bool.and_eq_true_iff.1 hd
  rw [hproperty, Bool.not_true, Bool.false_or] at hrest
  obtain ⟨hconstraints, htext⟩ := Bool.and_eq_true_iff.1 hrest
  refine ⟨hconstraints, ?_⟩
  have hscalar := (Bool.and_eq_true_iff.1 hscalars).1
  rw [Entries.has_eq_isSome] at hname
  obtain ⟨v, hv⟩ := Option.isSome_iff_exists.1 hname
  have hget : Entries.get d "name" = v := by rw [Entries.get, hv, Option.getD_some]
  rw [hget] at hscalar ⊢
  rw [hv] at htext
  cases v with
  | scalar k => exact ⟨k, rfl, htext⟩
  | _ => cases hscalar

/-- What has been merged so far is well typed. -/
structure Merged.IsTyped (m : Merged) : Prop where
  names : ∀ k ∈ Ordered.keys m.properties, Schema.isName k = true
  payloads : ∀ p ∈ Ordered.values m.properties, Schema.isTyped p = true
  required : ∀ v ∈ m.required, (Field.text v).isOk = true

namespace Merged

variable {m m' : Merged}

theorem isTyped_empty : empty.IsTyped where
  names _ h := by cases h
  payloads _ h := by cases h
  required _ h := by cases h

/-- A declaration that becomes a property leaves what has been merged well typed. -/
theorem IsTyped.addProperty (hm : m.IsTyped) {d : Entries} (hd : Parameter.isTyped (.map d) = true)
    (hproperty : becomesProperty d = true) (hname : Entries.has d "name" = true)
    (h : m.addProperty d = .ok m') : m'.IsTyped := by
  obtain ⟨hconstraints, k, hk, hkey⟩ := isTyped_property hd hproperty hname
  unfold Merged.addProperty at h
  obtain ⟨s, hs, h⟩ := Outcome.bind_eq_ok.1 h
  rw [hk] at h
  cases h
  have hpayload : Schema.isTyped s.data = true := isTyped_payload hconstraints (schemaOf_eq_ok hs)
  refine ⟨fun l hl => ?_, fun p hp => ?_, fun v hv => ?_⟩
  · rw [Ordered.keys_insert] at hl
    split at hl
    · exact hm.names l hl
    · rcases List.mem_append.1 hl with hl | hl
      · exact hm.names l hl
      · rw [List.mem_singleton.1 hl]
        exact hkey
  · rcases Ordered.mem_values_insert hp with rfl | hp
    · exact hpayload
    · exact hm.payloads p hp
  · simp only at hv
    split at hv
    · rcases List.mem_append.1 hv with hv | hv
      · exact hm.required v hv
      · rw [List.mem_singleton.1 hv]
        exact hkey
    · exact hm.required v hv

/-- The payload that is merged from well-typed declarations is well typed. -/
theorem IsTyped.objectPayload (hm : m.IsTyped) : Schema.isTyped m.objectPayload = true := by
  have hproperties : Schema.areTypedEntries (m.properties.map fun p => (p.1, .map p.2)) = true := by
    obtain ⟨hnames, hpayloads, -⟩ := hm
    generalize m.properties = ps at hnames hpayloads
    induction ps with
    | nil => rfl
    | cons p rest ih =>
        obtain ⟨hname, hnames⟩ := List.forall_mem_cons.1 hnames
        obtain ⟨hpayload, hpayloads⟩ := List.forall_mem_cons.1 hpayloads
        rw [List.map_cons, Schema.areTypedEntries, Schema.isTypedProperty, hname, hpayload,
          ih hnames hpayloads]
        rfl
  refine Schema.isTyped_iff.2 fun e he => ?_
  rcases mem_objectPayload he with rfl | rfl | rfl
  · exact ⟨rfl, rfl, fun hkey => absurd (Scalar.text.inj hkey) (by decide)⟩
  · exact ⟨rfl, rfl, fun _ => hproperties⟩
  · exact ⟨rfl, Field.isOk_listOf hm.required, fun hkey => absurd (Scalar.text.inj hkey) (by decide)⟩

/-- A way of adding declarations that makes properties of those that can become one, and otherwise
    takes note of a body at most. -/
def AddsProperties (add : Merged → Value → Except Failure Merged) : Prop :=
  ∀ m d, (becomesProperty d = true ∧ add m (.map d) = m.addProperty d) ∨
    ∃ body, add m (.map d) = .ok { m with body := body }

theorem addsProperties_addToRequest : AddsProperties addToRequest := by
  intro m d
  cases hl : locationOf d with
  | none => exact .inr ⟨m.body, by simp only [addToRequest, hl]⟩
  | some location =>
      cases location with
      | header => exact .inr ⟨m.body, by simp only [addToRequest, hl]⟩
      | body => exact .inr ⟨some (Entries.get d "schema"), by simp only [addToRequest, hl]⟩
      | _ => exact .inl ⟨by simp only [becomesProperty, hl], by simp only [addToRequest, hl]⟩

theorem addsProperties_addToHeaders : AddsProperties addToHeaders := by
  intro m d
  by_cases hl : locationOf d = some .header
  · exact .inl ⟨by simp only [becomesProperty, hl], if_pos hl⟩
  · exact .inr ⟨m.body, if_neg hl⟩

end Merged

/-- A named declaration that is well typed. -/
def IsUsable (declaration : Value) : Prop :=
  isTyped declaration = true ∧ isNamed declaration = .ok true

theorem IsUsable.exists_map {declaration : Value} (h : IsUsable declaration) :
    ∃ d, declaration = .map d ∧ Entries.has d "name" = true := by
  cases declaration with
  | map d => exact ⟨d, rfl, Except.ok.inj h.2⟩
  | _ => cases h.1

theorem isNamed_of_requireNames {ds : List Value} (h : requireNames ds = .ok ()) :
    ∀ d ∈ ds, isNamed d = .ok true := by
  induction ds with
  | nil => exact fun d hd => by cases hd
  | cons d rest ih =>
      obtain ⟨named, hnamed, h⟩ := Outcome.bind_eq_ok.1 h
      cases named with
      | true => exact List.forall_mem_cons.2 ⟨hnamed, ih h⟩
      | false => cases h

end Parameter

end ApiRouter
