import ApiRouter.Schema
import ApiRouter.Proofs.Outcome
import ApiRouter.Proofs.Rows

set_option autoImplicit false

/-! # What a schema says of its payload

A schema keeps the payload that it is read from, and says the same in other words: each attribute is
read from a keyword of its own, and the properties are the schemas of the mappings under `properties`.
The two sides agree at every level that a path of property names leads to. -/

namespace ApiRouter

/-! ## Checked values -/

namespace Checked

variable {α β : Type}

theorem map_eq_ok {f : α → β} {c : Checked α} {b : β} :
    f <$> c = .ok b ↔ ∃ a, c = .ok a ∧ f a = b := by
  cases c with
  | ok a => simp [Functor.map, Checked.map]
  | issues is => simp [Functor.map, Checked.map]

theorem seq_eq_ok {f : Checked (α → β)} {c : Checked α} {b : β} :
    f <*> c = .ok b ↔ ∃ g a, f = .ok g ∧ c = .ok a ∧ g a = b := by
  cases f with
  | ok g =>
      cases c with
      | ok a => simp [Seq.seq, Checked.seq]
      | issues is => simp [Seq.seq, Checked.seq]
  | issues is =>
      cases c with
      | ok a => simp [Seq.seq, Checked.seq]
      | issues js => simp [Seq.seq, Checked.seq]

/-- All values can be read exactly when each can. -/
theorem all_eq_ok {cs : List (Checked α)} {as : List α} :
    all cs = .ok as ↔ List.Forall₂ (fun c a => c = .ok a) cs as := by
  induction cs generalizing as with
  | nil => simp [all, eq_comm]
  | cons c rest ih =>
      rw [all, seq_eq_ok, List.forall₂_cons_left_iff]
      constructor
      · rintro ⟨g, tail, hg, htail, rfl⟩
        obtain ⟨a, ha, rfl⟩ := map_eq_ok.1 hg
        exact ⟨a, tail, ha, ih.1 htail, rfl⟩
      · rintro ⟨a, tail, ha, htail, rfl⟩
        exact ⟨List.cons a, tail, map_eq_ok.2 ⟨a, ha, rfl⟩, ih.2 htail, rfl⟩

theorem under_eq_ok {name : String} {c : Checked α} {a : α} : c.under name = .ok a ↔ c = .ok a := by
  cases c with
  | ok b => simp [under]
  | issues is => simp [under]

theorem toExcept_eq_ok {c : Checked α} {a : α} : c.toExcept = .ok a ↔ c = .ok a := by
  cases c with
  | ok b => simp [toExcept]
  | issues is => simp [toExcept]

end Checked

/-! ## Names as texts -/

/-- The text that a key reads as: itself, or what its bytes encode. -/
def Scalar.asText? : Scalar → Option String
  | .text s => some s
  | .bytes b => Field.textOfBytes? b
  | _ => none

theorem Field.key_eq_ok {k : Scalar} {s : String} : Field.key k = .ok s ↔ k.asText? = some s := by
  rw [Field.key, Checked.under_eq_ok, Checked.under_eq_ok]
  cases k with
  | text t => simp [Field.text, Scalar.asText?]
  | bytes b =>
      rw [Field.text, Scalar.asText?]
      cases Field.textOfBytes? b with
      | none => simp [Checked.issue]
      | some t => simp
  | _ => simp [Field.text, Checked.issue, Scalar.asText?]

/-- A key that reads as a text is equal to itself only. -/
theorem Scalar.rigid_of_asText? {k : Scalar} (hk : k.asText? ≠ none) : Ordered.Rigid k := by
  cases k with
  | text s => exact rigid_text s
  | bytes b => exact rigid_bytes b
  | _ => exact absurd rfl hk

namespace Entries

variable {α β : Type}

/-- A mapping whose keys are different texts. -/
structure HasTextKeys (es : List (Scalar × α)) : Prop where
  texts : ∀ k ∈ Ordered.keys es, ∃ t, k = .text t
  nodup : (Ordered.keys es).Nodup

/-- The rows under the texts that their keys read as, without those whose keys read as none. -/
def textRows (es : List (Scalar × α)) : List (String × α) :=
  es.filterMap fun e => e.1.asText?.map (·, e.2)

/-- Texts read as themselves. -/
theorem HasTextKeys.forall₂_textRows {es : List (Scalar × α)} (h : HasTextKeys es) :
    List.Forall₂ (fun e row => e = (.text row.1, row.2)) es (textRows es) := by
  obtain ⟨htexts, -⟩ := h
  induction es with
  | nil => exact .nil
  | cons e rest ih =>
      obtain ⟨k, v⟩ := e
      obtain ⟨⟨t, ht⟩, hrest⟩ := List.forall_mem_cons.1 htexts
      cases ht
      exact .cons rfl (ih hrest)

theorem HasTextKeys.map_textRows {es : List (Scalar × α)} (h : HasTextKeys es) :
    (textRows es).map (fun row => (.text row.1, row.2)) = es := by
  rw [← List.forall₂_eq_eq_eq, List.forall₂_map_left_iff]
  exact h.forall₂_textRows.flip.imp fun row e he => he.symm

theorem HasTextKeys.distinct_textRows {es : List (Scalar × α)} (h : HasTextKeys es) :
    Ordered.Distinct (textRows es) := by
  refine Ordered.distinct_of_nodup (List.Nodup.of_map Scalar.text ?_)
  have hkeys : (Ordered.keys (textRows es)).map Scalar.text = Ordered.keys es := by
    conv_rhs => rw [← h.map_textRows]
    simp [Ordered.keys]
  rw [hkeys]
  exact h.nodup

theorem HasTextKeys.of_sublist {es : List (Scalar × α)} {fs : List (Scalar × β)}
    (h : HasTextKeys es) (hsub : (Ordered.keys fs).Sublist (Ordered.keys es)) : HasTextKeys fs :=
  ⟨fun k hk => h.texts k (hsub.subset hk), h.nodup.sublist hsub⟩

/-- When all keys read as texts, every row is there under its text. -/
theorem forall₂_textRows {R : α → β → Prop} {es : List (Scalar × α)} {rows : List (String × β)}
    (h : List.Forall₂ (fun e row => e.1.asText? = some row.1 ∧ R e.2 row.2) es rows) :
    List.Forall₂ (fun a b => a.1 = b.1 ∧ R a.2 b.2) (textRows es) rows := by
  induction h with
  | nil => exact .nil
  | cons hrow _ ih =>
      obtain ⟨hkey, hvalue⟩ := hrow
      rw [textRows, List.filterMap_cons_some (by rw [hkey]; rfl)]
      exact .cons ⟨rfl, hvalue⟩ ih

theorem asText?_ne_none {R : α → β → Prop} {es : List (Scalar × α)} {rows : List (String × β)}
    (h : List.Forall₂ (fun e row => e.1.asText? = some row.1 ∧ R e.2 row.2) es rows) :
    ∀ k ∈ Ordered.keys es, k.asText? ≠ none := by
  intro k hk
  obtain ⟨e, he, rfl⟩ := List.mem_map.1 hk
  obtain ⟨row, -, hrow, -⟩ := exists_of_forall₂ h he
  rw [hrow]
  simp

/-- When all keys read as texts, the rows have these texts for keys. -/
theorem keys_textRows {es : List (Scalar × α)} (h : ∀ k ∈ Ordered.keys es, k.asText? ≠ none) :
    (Ordered.keys (textRows es)).map some = (Ordered.keys es).map Scalar.asText? := by
  induction es with
  | nil => rfl
  | cons e rest ih =>
      obtain ⟨hhead, hrest⟩ := List.forall_mem_cons.1 h
      obtain ⟨t, ht⟩ := Option.ne_none_iff_exists'.1 hhead
      rw [textRows, List.filterMap_cons_some (by rw [ht]; rfl)]
      exact congrArg₂ List.cons ht.symm (ih hrest)

end Entries

namespace Field

theorem mapOf_any_eq_ok {data : Entries} {rows : List (String × Value)}
    (h : mapOf any (.map data) = .ok rows) :
    List.Forall₂ (fun e row => e.1.asText? = some row.1 ∧ e.2 = row.2) data rows := by
  refine (List.forall₂_map_left_iff.1 (Checked.all_eq_ok.1 h)).imp fun e row hrow => ?_
  obtain ⟨pair, v, hpair, hv, rfl⟩ := Checked.seq_eq_ok.1 hrow
  obtain ⟨k, hk, rfl⟩ := Checked.map_eq_ok.1 hpair
  exact ⟨key_eq_ok.1 hk, Checked.ok.inj (Checked.under_eq_ok.1 hv)⟩

theorem listOf_eq_ok {α : Type} {item : Value → Checked α} {vs : List Value} {as : List α}
    (h : listOf item (.list vs) = .ok as) : List.Forall₂ (fun v a => item v = .ok a) vs as := by
  have hrows := List.forall₂_map_left_iff.1 (Checked.all_eq_ok.1 h)
  have hitems : List.Forall₂ (fun v a => item v = .ok a) (vs.zipIdx.map Prod.fst) as :=
    List.forall₂_map_left_iff.2 (hrows.imp fun p a hp => Checked.under_eq_ok.1 hp)
  rwa [List.zipIdx_map_fst] at hitems

end Field

namespace Schema

/-! ## The attributes -/

/-- What a payload has for a keyword, unless it is null. -/
def given? (data : Entries) (keyword : String) : Option Value :=
  (Entries.find? data keyword).bind Value.present?

/-- An attribute is there when its value is given, and holds what is read from it. -/
def Reads {α : Type} (read : Value → Checked α) (given : Option Value) (held : Option α) : Prop :=
  Option.Rel (fun v a => read v = .ok a) given held

/-- A pattern is an expression that is read from its source, for texts, or from bytes, for bytes. -/
def IsExpression (v : Value) (p : Pattern) : Prop :=
  (v = .text p.source ∧ Pattern.read p.source = .ok p) ∨
    ∃ source, v = .bytes source ∧ Pattern.readBytes source = .ok p

/-- The items of a list of type names, or the only type name. -/
def typeNames : Value → List Value
  | .list vs => vs
  | v => [v]

/-- The items that a payload lists as required. -/
def listedRequired (data : Entries) : List Value :=
  match Entries.find? data "required" with
  | some (.list vs) => vs
  | _ => []

end Schema

/-- Every attribute says what its own keyword does. -/
structure Constraints.ReadFrom (data : Entries) (c : Constraints) : Prop where
  ref : Schema.Reads Field.text (Schema.given? data "$ref") c.ref
  types : Option.Rel (fun v names => List.Forall₂ (fun v name => Field.text v = .ok name)
    (Schema.typeNames v) names) (Entries.find? data "type") c.types
  enum : Option.Rel (fun v parts => Schema.partsOf v = .ok parts) (Entries.find? data "enum") c.enum
  format : Schema.Reads Field.text (Schema.given? data "format") c.format
  pattern : Option.Rel Schema.IsExpression (Entries.find? data "pattern") c.pattern
  minLength : Schema.Reads Field.int (Schema.given? data "minLength") c.minLength
  maxLength : Schema.Reads Field.int (Schema.given? data "maxLength") c.maxLength
  minItems : Schema.Reads Field.int (Schema.given? data "minItems") c.minItems
  maxItems : Schema.Reads Field.int (Schema.given? data "maxItems") c.maxItems
  uniqueItems : Schema.Reads Field.bool (Schema.given? data "uniqueItems") c.uniqueItems
  items : c.items = Entries.get data "items"
  minimum : Schema.Reads Field.number (Schema.given? data "minimum") c.minimum
  exclusiveMinimum : Schema.Reads Field.bool (Schema.given? data "exclusiveMinimum")
    c.exclusiveMinimum
  maximum : Schema.Reads Field.number (Schema.given? data "maximum") c.maximum
  exclusiveMaximum : Schema.Reads Field.bool (Schema.given? data "exclusiveMaximum")
    c.exclusiveMaximum
  multipleOf : Schema.Reads Field.number (Schema.given? data "multipleOf") c.multipleOf
  required : List.Forall₂ (fun v name => Field.text v = .ok name) (Schema.listedRequired data)
    c.required

theorem Value.present?_eq_some {v : Value} (h : v ≠ .null) : v.present? = some v := by
  unfold present?
  split
  · exact absurd rfl h
  · rfl

namespace Schema

theorem reads_of_orNull {α : Type} {read : Value → Checked α} {data : Entries}
    {keyword name : String} {held : Option α}
    (h : (match Entries.find? data keyword with
      | some v => (Field.orNull read v).under name
      | none => .ok none) = .ok held) : Reads read (given? data keyword) held := by
  rw [Reads, given?]
  cases hfind : Entries.find? data keyword with
  | none =>
      rw [hfind] at h
      cases h
      exact .none
  | some v =>
      rw [hfind] at h
      have hread := Checked.under_eq_ok.1 h
      rw [Option.bind_some]
      unfold Field.orNull at hread
      split at hread
      · cases hread
        exact .none
      · next hnull =>
          obtain ⟨a, ha, rfl⟩ := Checked.map_eq_ok.1 hread
          rw [Value.present?_eq_some hnull]
          exact .some ha

theorem typeList_eq (v : Value) : typeList v = .list (typeNames v) := by
  cases v with
  | list vs => rfl
  | _ => rfl

theorem orRefused_eq_ok {v : Value} {describe : Pattern.Cause → Option Nat → String}
    {read : Except Pattern.Error Pattern} {p : Pattern} (h : orRefused v describe read = .ok p) :
    read = .ok p := by
  unfold orRefused at h
  split at h
  · exact congrArg Except.ok (Except.ok.inj h)
  all_goals cases h

theorem source_of_read {s : String} {p : Pattern} (h : Pattern.read s = .ok p) : p.source = s := by
  unfold Pattern.read Pattern.readAs at h
  split at h
  · cases h
    rfl
  · cases h

theorem readPattern_eq_ok {v : Value} {p : Pattern} (h : readPattern v = .ok p) :
    IsExpression v p := by
  unfold readPattern at h
  split at h
  · next s =>
      have hread := orRefused_eq_ok h
      have hsource := source_of_read hread
      subst hsource
      exact .inl ⟨rfl, hread⟩
  · next b => exact .inr ⟨b, rfl, orRefused_eq_ok h⟩
  · cases h

theorem types_of_listOf {data : Entries} {types : Option (List String)}
    (h : (match Entries.find? data "type" with
      | some v => some <$> (Field.listOf Field.text (typeList v)).under "type"
      | none => .ok none) = .ok types) :
    Option.Rel (fun v names => List.Forall₂ (fun v name => Field.text v = .ok name) (typeNames v)
      names) (Entries.find? data "type") types := by
  cases hfind : Entries.find? data "type" with
  | none =>
      rw [hfind] at h
      cases h
      exact .none
  | some v =>
      rw [hfind] at h
      obtain ⟨names, hnames, rfl⟩ := Checked.map_eq_ok.1 h
      rw [Checked.under_eq_ok, typeList_eq] at hnames
      exact .some (Field.listOf_eq_ok hnames)

theorem requiredOf_eq_ok {data : Entries} {names : List String} (h : requiredOf data = .ok names) :
    List.Forall₂ (fun v name => Field.text v = .ok name) (listedRequired data) names := by
  unfold requiredOf at h
  split at h
  · next vs hlist =>
      have hlisted : listedRequired data = vs := by rw [listedRequired, hlist]
      rw [hlisted]
      exact Field.listOf_eq_ok (Checked.under_eq_ok.1 h)
  · next hno =>
      have hlisted : listedRequired data = [] := by
        unfold listedRequired
        split
        · next hlist => exact absurd hlist (hno _)
        · rfl
      cases h
      rw [hlisted]
      exact .nil

theorem prepare_eq_ok {data : Entries} {prepared : Prepared} (h : prepare data = .ok prepared) :
    Option.Rel (fun v parts => partsOf v = .ok parts) (Entries.find? data "enum") prepared.enum ∧
      Option.Rel IsExpression (Entries.find? data "pattern") prepared.pattern := by
  unfold prepare at h
  simp only at h
  have hpattern {enum : Option (List Value)}
      (h : (match Entries.find? data "pattern" with
        | some v => some <$> readPattern v >>= fun pattern => .ok (Prepared.mk enum pattern)
        | none => .ok none >>= fun pattern => .ok (Prepared.mk enum pattern)) = .ok prepared) :
      enum = prepared.enum ∧
        Option.Rel IsExpression (Entries.find? data "pattern") prepared.pattern := by
    split at h
    · next v hfind =>
        obtain ⟨pattern, hread, h⟩ := Outcome.bind_eq_ok.1 h
        obtain ⟨p, hp, rfl⟩ := Outcome.map_eq_ok.1 hread
        cases h
        rw [hfind]
        exact ⟨rfl, .some (readPattern_eq_ok hp)⟩
    · next hfind =>
        cases h
        rw [hfind]
        exact ⟨rfl, .none⟩
  split at h
  · next v hfind =>
      obtain ⟨enum, hread, h⟩ := Outcome.bind_eq_ok.1 h
      obtain ⟨parts, hparts, rfl⟩ := Outcome.map_eq_ok.1 hread
      obtain ⟨henum, hpattern⟩ := hpattern h
      rw [hfind, ← henum]
      exact ⟨.some hparts, hpattern⟩
  · next hfind =>
      obtain ⟨henum, hpattern⟩ := hpattern h
      rw [hfind, ← henum]
      exact ⟨.none, hpattern⟩

/-- What is put together from a payload: its attributes, the payload itself, and the properties. -/
theorem assemble_eq_ok {data : Entries} {prepared : Prepared}
    {properties : List (Scalar × Schema)} {s : Schema} (hprepare : prepare data = .ok prepared)
    (h : assemble data prepared properties = .ok s) :
    s.constraints.ReadFrom data ∧
      (∃ rows, s.data = keptData rows ∧
        List.Forall₂ (fun e row => e.1.asText? = some row.1 ∧ e.2 = row.2) data rows) ∧
      ∃ rows, s.properties = Ordered.ofList rows ∧
        List.Forall₂ (fun e row => e.1.asText? = some row.1 ∧ e.2 = row.2) properties rows := by
  unfold assemble at h
  extract_lets field types keys constraints at h
  obtain ⟨withKeys, required, hwithKeys, hrequired, rfl⟩ := Checked.seq_eq_ok.1 h
  obtain ⟨withConstraints, named, hwithConstraints, hkeys, rfl⟩ := Checked.seq_eq_ok.1 hwithKeys
  obtain ⟨withData, c, hwithData, hconstraints, rfl⟩ := Checked.seq_eq_ok.1 hwithConstraints
  obtain ⟨rows, hdata, rfl⟩ := Checked.map_eq_ok.1 hwithData
  obtain ⟨properties', hproperties, rfl⟩ := Checked.map_eq_ok.1 (Checked.under_eq_ok.1 hkeys)
  refine ⟨?_, ⟨rows, rfl, Field.mapOf_any_eq_ok (Checked.under_eq_ok.1 hdata)⟩, properties', rfl, ?_⟩
  · -- the attributes were added one by one, the last one last
    obtain ⟨henum, hpattern⟩ := prepare_eq_ok hprepare
    obtain ⟨c₁, multipleOf, h₁, hmultipleOf, rfl⟩ := Checked.seq_eq_ok.1 hconstraints
    obtain ⟨c₂, exclusiveMaximum, h₂, hexclusiveMaximum, rfl⟩ := Checked.seq_eq_ok.1 h₁
    obtain ⟨c₃, maximum, h₃, hmaximum, rfl⟩ := Checked.seq_eq_ok.1 h₂
    obtain ⟨c₄, exclusiveMinimum, h₄, hexclusiveMinimum, rfl⟩ := Checked.seq_eq_ok.1 h₃
    obtain ⟨c₅, minimum, h₅, hminimum, rfl⟩ := Checked.seq_eq_ok.1 h₄
    obtain ⟨c₆, items, h₆, hitems, rfl⟩ := Checked.seq_eq_ok.1 h₅
    obtain ⟨c₇, uniqueItems, h₇, huniqueItems, rfl⟩ := Checked.seq_eq_ok.1 h₆
    obtain ⟨c₈, maxItems, h₈, hmaxItems, rfl⟩ := Checked.seq_eq_ok.1 h₇
    obtain ⟨c₉, minItems, h₉, hminItems, rfl⟩ := Checked.seq_eq_ok.1 h₈
    obtain ⟨c₁₀, maxLength, h₁₀, hmaxLength, rfl⟩ := Checked.seq_eq_ok.1 h₉
    obtain ⟨c₁₁, minLength, h₁₁, hminLength, rfl⟩ := Checked.seq_eq_ok.1 h₁₀
    obtain ⟨c₁₂, pattern, h₁₂, hpattern', rfl⟩ := Checked.seq_eq_ok.1 h₁₁
    obtain ⟨c₁₃, format, h₁₃, hformat, rfl⟩ := Checked.seq_eq_ok.1 h₁₂
    obtain ⟨c₁₄, enum, h₁₄, henum', rfl⟩ := Checked.seq_eq_ok.1 h₁₃
    obtain ⟨c₁₅, typeTexts, h₁₅, htypes, rfl⟩ := Checked.seq_eq_ok.1 h₁₄
    obtain ⟨ref, href, rfl⟩ := Checked.map_eq_ok.1 h₁₅
    cases hitems
    cases hpattern'
    cases henum'
    exact {
      ref := reads_of_orNull href
      types := types_of_listOf htypes
      enum := henum
      format := reads_of_orNull hformat
      pattern := hpattern
      minLength := reads_of_orNull hminLength
      maxLength := reads_of_orNull hmaxLength
      minItems := reads_of_orNull hminItems
      maxItems := reads_of_orNull hmaxItems
      uniqueItems := reads_of_orNull huniqueItems
      items := rfl
      minimum := reads_of_orNull hminimum
      exclusiveMinimum := reads_of_orNull hexclusiveMinimum
      maximum := reads_of_orNull hmaximum
      exclusiveMaximum := reads_of_orNull hexclusiveMaximum
      multipleOf := reads_of_orNull hmultipleOf
      required := requiredOf_eq_ok hrequired }
  · refine (List.forall₂_map_left_iff.1 (Checked.all_eq_ok.1 hproperties)).imp fun e row hrow => ?_
    obtain ⟨text, htext, rfl⟩ := Checked.map_eq_ok.1 hrow
    exact ⟨Field.key_eq_ok.1 htext, rfl⟩

/-! ## The levels below -/

/-- What a payload has under `properties`, when that is a mapping. -/
def propertyEntries (payload : Entries) : Entries :=
  match Entries.find? payload "properties" with
  | some (.map subs) => subs
  | _ => []

/-- The entries whose values are mappings. -/
def mappingsOf (es : Entries) : List (Scalar × Entries) :=
  es.filterMap fun
    | (k, .map sub) => some (k, sub)
    | _ => none

/-- The payloads of the properties under their names; of names that read as the same text the last
one counts. -/
def subPayloads (payload : Entries) : List (String × Entries) :=
  Ordered.ofList (Entries.textRows (mappingsOf (propertyEntries payload)))

/-- The payload that a path of names leads to. -/
def payloadAt? (payload : Entries) : List String → Option Entries
  | [] => some payload
  | name :: path => (Ordered.find? (subPayloads payload) name).bind fun sub => payloadAt? sub path

/-- The schema that a path of names leads to. -/
def at? (s : Schema) : List String → Option Schema
  | [] => some s
  | name :: path => (Ordered.find? s.properties name).bind fun t => t.at? path

/-- A schema says what a payload does: it keeps the payload, as it stands if the keys are texts; its
properties are the schemas of the mappings among those of the payload, in the order of the payload; its
attributes are read from the keywords of the payload. -/
structure Mirrors (payload : Entries) (s : Schema) : Prop where
  keys : ∀ k ∈ Ordered.keys payload, k.asText? ≠ none
  names : ∀ k ∈ Ordered.keys (mappingsOf (propertyEntries payload)), k.asText? ≠ none
  data : s.data = keptData (Entries.textRows payload)
  verbatim : Entries.HasTextKeys payload → s.data = payload
  properties : List.Forall₂ (fun sub t => sub.1 = t.1 ∧ ofEntries sub.2 = .ok t.2)
    (subPayloads payload) s.properties
  inOrder : Entries.HasTextKeys (propertyEntries payload) →
    List.Forall₂ (fun sub t => sub.1 = .text t.1 ∧ ofEntries sub.2 = .ok t.2)
      (mappingsOf (propertyEntries payload)) s.properties
  constraints : s.constraints.ReadFrom payload

theorem mappingsOf_maps (es : List (Scalar × Entries)) :
    mappingsOf (es.map fun e => (e.1, .map e.2)) = es := by
  rw [mappingsOf, List.filterMap_map]
  exact List.filterMap_some

theorem propertiesOf_eq_ok {subs : Entries} {rows : List (Scalar × Schema)}
    (h : propertiesOf subs = .ok rows) :
    List.Forall₂ (fun sub row => sub.1 = row.1 ∧ ofEntries sub.2 = .ok row.2) (mappingsOf subs)
      rows := by
  induction subs generalizing rows with
  | nil =>
      rw [propertiesOf] at h
      cases h
      exact .nil
  | cons e rest ih =>
      obtain ⟨k, v⟩ := e
      cases v with
      | map sub =>
          rw [propertiesOf] at h
          obtain ⟨s, hs, h⟩ := Outcome.bind_eq_ok.1 h
          obtain ⟨more, hmore, h⟩ := Outcome.bind_eq_ok.1 h
          cases h
          exact .cons ⟨rfl, hs⟩ (ih hmore)
      | endless =>
          rw [propertiesOf] at h
          cases h
      | _ =>
          rw [propertiesOf] at h
          · exact ih h
          all_goals simp

theorem ofEntries_eq_ok {payload : Entries} {s : Schema} (h : ofEntries payload = .ok s) :
    ∃ prepared properties, prepare payload = .ok prepared ∧
      propertiesOf (propertyEntries payload) = .ok properties ∧
      assemble payload prepared properties = .ok s := by
  rw [ofEntries] at h
  obtain ⟨prepared, hprepared, h⟩ := Outcome.bind_eq_ok.1 h
  simp only at h
  split at h
  · next subs hsubs =>
      obtain ⟨properties, hproperties, h⟩ := Outcome.bind_eq_ok.1 h
      rw [propertyEntries, hsubs]
      exact ⟨prepared, properties, hprepared, hproperties, Checked.toExcept_eq_ok.1 h⟩
  · next hno =>
      have hempty : propertyEntries payload = [] := by
        unfold propertyEntries
        split
        · next hsubs => exact absurd hsubs (hno _)
        · rfl
      rw [hempty, propertiesOf]
      exact ⟨prepared, [], hprepared, rfl, Checked.toExcept_eq_ok.1 h⟩

/-- The entries of which the values are mappings have some of the keys, in their order. -/
theorem keys_mappingsOf (es : Entries) :
    (Ordered.keys (mappingsOf es)).Sublist (Ordered.keys es) := by
  induction es with
  | nil => exact .slnil
  | cons e rest ih =>
      obtain ⟨k, v⟩ := e
      cases v with
      | map sub => exact ih.cons_cons k
      | _ => exact ih.cons k

/-- A schema mirrors the payload that it is read from. -/
theorem mirrors_of_ofEntries {payload : Entries} {s : Schema} (h : ofEntries payload = .ok s) :
    Mirrors payload s := by
  obtain ⟨prepared, read, hprepare, hread, hassemble⟩ := ofEntries_eq_ok h
  obtain ⟨hconstraints, ⟨rows, hdata, hrows⟩, named, hproperties, hnamed⟩ :=
    assemble_eq_ok hprepare hassemble
  have hkept : Entries.textRows payload = rows := by
    rw [← List.forall₂_eq_eq_eq]
    exact (Entries.forall₂_textRows (R := Eq) hrows).imp fun a b hab => Prod.ext hab.1 hab.2
  have hsubs : List.Forall₂ (fun sub t => sub.1.asText? = some t.1 ∧ ofEntries sub.2 = .ok t.2)
      (mappingsOf (propertyEntries payload)) named :=
    forall₂_trans (propertiesOf_eq_ok hread) hnamed fun a b c hab hbc =>
      ⟨by rw [hab.1, hbc.1], by rw [hab.2, hbc.2]⟩
  have hnames : List.Forall₂ (fun sub t => sub.1 = t.1 ∧ ofEntries sub.2 = .ok t.2)
      (Entries.textRows (mappingsOf (propertyEntries payload))) named :=
    Entries.forall₂_textRows (R := fun sub t => ofEntries sub = .ok t) hsubs
  exact {
    keys := Entries.asText?_ne_none (R := Eq) hrows
    names := Entries.asText?_ne_none (R := fun sub t => ofEntries sub = .ok t) hsubs
    data := by rw [hdata, hkept]
    verbatim := fun htexts => by
      rw [hdata, ← hkept, keptData, Ordered.ofList_eq_self htexts.distinct_textRows,
        htexts.map_textRows]
    properties := by
      rw [hproperties]
      exact Ordered.forall₂_ofList (R := fun sub t => ofEntries sub = .ok t) hnames
    inOrder := fun htexts => by
      have hmappings : Entries.HasTextKeys (mappingsOf (propertyEntries payload)) :=
        htexts.of_sublist (keys_mappingsOf _)
      have hdistinct : Ordered.Distinct named := by
        rw [Ordered.Distinct,
          ← Ordered.keys_eq_of_forall₂ (R := fun sub t => ofEntries sub = .ok t) hnames]
        exact hmappings.distinct_textRows
      rw [hproperties, Ordered.ofList_eq_self hdistinct]
      exact forall₂_trans hmappings.forall₂_textRows hnames fun sub row t hrow ht => by
        rw [hrow]
        exact ⟨by rw [ht.1], ht.2⟩
    constraints := hconstraints }

/-- **The schema agrees with its payload at every level.** Wherever a path of property names leads,
there is a schema exactly when there is a payload: the schema is the one that is read from that
payload, and mirrors it. -/
theorem payloadAt?_rel_at? {payload : Entries} {s : Schema} (h : ofEntries payload = .ok s)
    (path : List String) :
    Option.Rel (fun sub t => ofEntries sub = .ok t ∧ Mirrors sub t) (payloadAt? payload path)
      (s.at? path) := by
  -- each level hands on that its schema is read from its payload
  induction path generalizing payload s with
  | nil => exact .some ⟨h, mirrors_of_ofEntries h⟩
  | cons name path ih =>
      have hname := Ordered.find?_rel (R := fun sub t => ofEntries sub = .ok t)
        (mirrors_of_ofEntries h).properties name
      rw [payloadAt?, at?]
      generalize Ordered.find? (subPayloads payload) name = sub at hname ⊢
      generalize Ordered.find? s.properties name = t at hname ⊢
      cases hname with
      | none => exact .none
      | some hsub => exact ih hsub

/-- A payload with properties below its properties. -/
def nestedPayload : Entries :=
  [(.text "required", .texts ["owner"]),
    (.text "properties", .object [
      ("owner", .object [
        ("properties", .object [
          ("name", .object [("type", .text "string"), ("maxLength", .text "3")])])])])]

theorem mirrors_nestedPayload : ∃ s, ofEntries nestedPayload = .ok s ∧ ∃ sub t,
    payloadAt? nestedPayload ["owner", "name"] = some sub ∧ s.at? ["owner", "name"] = some t ∧
      Mirrors sub t ∧ sub = [(.text "type", .text "string"), (.text "maxLength", .text "3")] ∧
      t.constraints.types = some ["string"] ∧ t.constraints.maxLength = some 3 := by
  have hread : (ofEntries nestedPayload).toOption.map (fun s => (s.at? ["owner", "name"]).map
      fun t => (t.constraints.types, t.constraints.maxLength))
      = some (some (some ["string"], some 3)) := by decide +kernel
  obtain ⟨s, hs, ht⟩ := Outcome.exists_of_toOption_map hread
  obtain ⟨t, ht, hattributes⟩ := Option.map_eq_some_iff.1 ht
  have hat : payloadAt? nestedPayload ["owner", "name"]
      = some [(.text "type", .text "string"), (.text "maxLength", .text "3")] := by decide +kernel
  have hrel := payloadAt?_rel_at? hs ["owner", "name"]
  rw [hat, ht] at hrel
  obtain ⟨-, hmirrors⟩ := Option.rel_some_some.1 hrel
  obtain ⟨htypes, hlength⟩ := Prod.mk.inj hattributes
  exact ⟨s, hs, _, t, hat, ht, hmirrors, rfl, htypes, hlength⟩

/-- A payload may have keys that are no texts: the schema keeps the texts that they encode. -/
theorem ofEntries_bytesKey : ∃ s, ofEntries [(.bytes [120], .int 1)] = .ok s ∧
    s.data = [(.text "x", .int 1)] ∧ s.data ≠ [(.bytes [120], .int 1)] := by
  obtain ⟨s, hs⟩ := Outcome.exists_of_toBool (x := ofEntries [(.bytes [120], .int 1)])
    (by decide +kernel)
  have hdata := (mirrors_of_ofEntries hs).data
  have hkept : keptData (Entries.textRows [(.bytes [120], .int 1)]) = [(.text "x", .int 1)] := by
    decide +kernel
  rw [hkept] at hdata
  refine ⟨s, hs, hdata, ?_⟩
  rw [hdata]
  decide

end Schema

end ApiRouter
