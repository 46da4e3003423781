import ApiRouter.Proofs.Override
import ApiRouter.Proofs.Typing

set_option autoImplicit false

/-! # Contained failures

A failure is contained when it is a report, which carries a message and an exit code. Defects and
ill-typed values of a schema are not: they end a run by a crash.

Compiling a well-typed document contains its failures. That is so stage by stage: where a payload is
read as a schema, where the declarations of an operation are merged, where the operation becomes a
link, and where the document is gone through operation by operation. -/

namespace ApiRouter

/-- A computation that fails, if it does, with a report of one of these codes. -/
def Contained {α : Type} (codes : List Int) (x : Except Failure α) : Prop :=
  ∀ f, x = .error f → ∃ r, f = .reported r ∧ r.exitCode ∈ codes

namespace Contained

variable {codes : List Int} {α β σ : Type}

/-! ## Sequences -/

theorem ok (a : α) : Contained codes (.ok a : Except Failure α) := by
  rintro f ⟨⟩

theorem of_eq_ok {x : Except Failure α} {a : α} (h : x = .ok a) : Contained codes x :=
  h ▸ ok a

theorem fail {kind : ErrorKind} (h : kind.exitCode ∈ codes) (message : String) :
    Contained codes (ApiRouter.fail kind message : Except Failure α) := by
  rintro f ⟨⟩
  exact ⟨_, rfl, h⟩

theorem bind {x : Except Failure α} {f : α → Except Failure β} (hx : Contained codes x)
    (hf : ∀ a, x = .ok a → Contained codes (f a)) : Contained codes (x >>= f) := by
  intro e h
  rcases Outcome.bind_eq_error.1 h with hfail | ⟨a, ha, hfail⟩
  · exact hx e hfail
  · exact hf a ha e hfail

theorem map {x : Except Failure α} (hx : Contained codes x) (f : α → β) :
    Contained codes (f <$> x) :=
  fun e h => hx e (Outcome.map_eq_error.1 h)

theorem mapM {f : α → Except Failure β} {items : List α} (hf : ∀ a ∈ items, Contained codes (f a)) :
    Contained codes (items.mapM f) := by
  intro e h
  obtain ⟨a, ha, hfail⟩ := Outcome.exists_of_mapM_eq_error h
  exact hf a ha e hfail

/-- A fold whose steps keep an invariant and contain their failures under it. -/
theorem foldlM (motive : σ → Prop) {f : σ → α → Except Failure σ} {items : List α} {s : σ}
    (hs : motive s) (hstep : ∀ s, motive s → ∀ a ∈ items, Contained codes (f s a))
    (hkeep : ∀ s a t, a ∈ items → motive s → f s a = .ok t → motive t) :
    Contained codes (items.foldlM f s) := by
  induction items generalizing s with
  | nil => exact ok s
  | cons a rest ih =>
      rw [List.foldlM_cons]
      refine (hstep s hs a (List.mem_cons_self ..)).bind fun t ht => ?_
      exact ih (hkeep s a t (List.mem_cons_self ..) hs ht)
        (fun s hs a ha => hstep s hs a (List.mem_cons_of_mem _ ha))
        (fun s a t ha => hkeep s a t (List.mem_cons_of_mem _ ha))

theorem mono {x : Except Failure α} {more : List Int} (hx : Contained codes x)
    (h : codes ⊆ more) : Contained more x := by
  intro f hf
  obtain ⟨r, hr, hcode⟩ := hx f hf
  exact ⟨r, hr, h hcode⟩

/-! ## Schemas -/

theorem readPattern {v : Value} (h : Schema.isBoundedPattern v = true) :
    Contained [7] (Schema.readPattern v) := by
  have hrefuse (reason : String) : Contained [7] (Schema.refusePattern (α := Pattern) v reason) :=
    fail (by decide) _
  have hread {read : Except Pattern.Error Pattern} (h : Schema.isBounded read = true)
      (describe : Pattern.Cause → Option Nat → String) :
      Contained [7] (Schema.orRefused v describe read) := by
    cases read with
    | ok p => exact ok p
    | error e =>
        cases e with
        | malformed cause place => exact hrefuse _
        | hugeRepeat => cases h
        | contradictoryFlags => cases h
        | tooDeep => cases h
  unfold Schema.readPattern
  split
  · exact hread h _
  · exact hread h _
  · exact hrefuse _

theorem prepare {data : Entries} (h : Schema.isTyped data = true) :
    Contained [7] (Schema.prepare data) := by
  have hparts {v : Value} (hv : Entries.find? data "enum" = some v) :
      Contained [7] (Schema.partsOf v) := by
    have hrow : v.row?.isSome = true := Schema.fits_of_isTyped h hv
    obtain ⟨parts, hparts⟩ := Schema.exists_partsOf hrow
    exact of_eq_ok hparts
  have hpattern {v : Value} (hv : Entries.find? data "pattern" = some v) :
      Contained [7] (Schema.readPattern v) :=
    readPattern (Schema.fits_of_isTyped h hv)
  unfold Schema.prepare
  cases henum : Entries.find? data "enum" with
  | none =>
      cases hfind : Entries.find? data "pattern" with
      | none => exact ok _
      | some v => exact ((hpattern hfind).map _).bind fun _ _ => ok _
  | some u =>
      cases hfind : Entries.find? data "pattern" with
      | none => exact ((hparts henum).map _).bind fun _ _ => ok _
      | some v =>
          exact ((hparts henum).map _).bind fun _ _ =>
            ((hpattern hfind).map _).bind fun _ _ => ok _

end Contained

/-- A payload whose keys are names and whose keywords have values of their types becomes a schema once
    its properties have. -/
theorem Schema.exists_assemble_of_fits {data : Entries} (hdata : ∀ e ∈ data, isName e.1 = true)
    (hfits : ∀ {k : String} {v : Value}, Entries.find? data k = some v → fits k v = true)
    (prepared : Prepared) {properties : List (Scalar × Schema)}
    (hnames : ∀ p ∈ properties, isName p.1 = true) :
    ∃ s, assemble data prepared properties = .ok s := by
  have hkeys : (Field.mapOf Field.any (.map data)).isOk = true := by
    rw [Field.mapOf, Checked.isOk_all, List.all_map, List.all_eq_true]
    intro e he
    simpa [Field.key, Field.any, isName] using hdata e he
  have hproperties : (Checked.all (properties.map fun p => (·, p.2) <$> Field.key p.1)).isOk
      = true := by
    rw [Checked.isOk_all, List.all_map, List.all_eq_true]
    intro p hp
    simpa [Field.key, isName] using hnames p hp
  have hrequired : (requiredOf data).isOk = true := by
    unfold requiredOf
    split
    · next vs hv => rw [Checked.isOk_under]; simpa [fits, Value.isList] using hfits hv
    · rfl
  rw [← Checked.isOk_iff]
  unfold assemble
  simp only [Checked.isOk_map, Checked.isOk_seq, Checked.isOk_under, Checked.isOk_ok, Bool.and_true,
    Bool.and_eq_true, hkeys, hproperties, hrequired, true_and, and_assoc]
  refine ⟨?_, ?types, ?_, ?_, ?_, ?_, ?_, ?_, ?_, ?_, ?_, ?_, ?_⟩
  -- a field is absent, or it has a value that its keyword's rule admits
  case types =>
    split
    · next v hv =>
        rw [Checked.isOk_map, Checked.isOk_under]
        exact hfits hv
    · rfl
  all_goals
    split
    · next v hv =>
        rw [Checked.isOk_under]
        exact hfits hv
    · rfl

/-- A well-typed payload becomes a schema once its properties have. -/
theorem Schema.exists_assemble {data : Entries} (h : isTyped data = true) (prepared : Prepared)
    {properties : List (Scalar × Schema)} (hnames : ∀ p ∈ properties, isName p.1 = true) :
    ∃ s, assemble data prepared properties = .ok s :=
  exists_assemble_of_fits (fun e he => (isTyped_iff.1 h e he).name) (fits_of_isTyped h) prepared hnames

/-- What is no mapping is no property, unless there is no end to it. -/
theorem Schema.propertiesOf_cons_of_not_map {k : Scalar} {v : Value} (hmap : v.isMap = false)
    (hend : v ≠ .endless) (rest : Entries) :
    propertiesOf ((k, v) :: rest) = propertiesOf rest := by
  cases v with
  | map sub => cases hmap
  | endless => exact absurd rfl hend
  | _ => rw [propertiesOf] <;> simp

theorem Schema.isName_of_propertiesOf {subs : Entries} {rows : List (Scalar × Schema)}
    (h : areTypedEntries subs = true) (hrows : propertiesOf subs = .ok rows) :
    ∀ p ∈ rows, isName p.1 = true := by
  induction subs generalizing rows with
  | nil =>
      rw [propertiesOf] at hrows
      cases hrows
      exact fun p hp => by cases hp
  | cons e rest ih =>
      obtain ⟨k, v⟩ := e
      obtain ⟨hproperty, hrest⟩ := Bool.and_eq_true_iff.1 h
      cases v with
      | map sub =>
          rw [propertiesOf] at hrows
          obtain ⟨s, -, hrows⟩ := Outcome.bind_eq_ok.1 hrows
          obtain ⟨more, hmore, hrows⟩ := Outcome.bind_eq_ok.1 hrows
          cases hrows
          exact List.forall_mem_cons.2 ⟨(Bool.and_eq_true_iff.1 hproperty).1, ih hrest hmore⟩
      | endless => cases hproperty
      | _ =>
          rw [propertiesOf_cons_of_not_map rfl (by simp)] at hrows
          exact ih hrest hrows

namespace Contained

mutual

/-- Reading a well-typed payload as a schema contains its failures. -/
theorem ofEntries {data : Entries} (h : Schema.isTyped data = true) :
    Contained [7] (Schema.ofEntries data) := by
  rw [Schema.ofEntries]
  refine (prepare h).bind fun prepared _ => ?_
  simp only
  split
  · next subs hfind =>
      have hsubs : Schema.areTypedEntries subs = true := Schema.areTypedEntries_of_isTyped h hfind
      have hsize : sizeOf subs < sizeOf data := by
        have := Schema.sizeOf_find? hfind
        simp only [Value.map.sizeOf_spec] at this
        omega
      refine (propertiesOf subs hsubs).bind fun rows hrows => ?_
      obtain ⟨s, hs⟩ :=
        Schema.exists_assemble h prepared (Schema.isName_of_propertiesOf hsubs hrows)
      exact of_eq_ok (Checked.toExcept_eq_ok.2 hs)
  · have hnone : ∀ p ∈ ([] : List (Scalar × Schema)), Schema.isName p.1 = true := by simp
    obtain ⟨s, hs⟩ := Schema.exists_assemble h prepared hnone
    exact of_eq_ok (Checked.toExcept_eq_ok.2 hs)
termination_by sizeOf data

theorem propertiesOf : (subs : Entries) → Schema.areTypedEntries subs = true →
    Contained [7] (Schema.propertiesOf subs)
  | [], _ => by
      rw [Schema.propertiesOf]
      exact ok _
  | (k, v) :: rest, h => by
      obtain ⟨hproperty, hrest⟩ := Bool.and_eq_true_iff.1 h
      have hmore : Contained [7] (Schema.propertiesOf rest) := propertiesOf rest hrest
      cases hv : v with
      | map sub =>
          subst hv
          rw [Schema.propertiesOf]
          have hsub : Schema.isTyped sub = true := (Bool.and_eq_true_iff.1 hproperty).2
          exact (ofEntries hsub).bind fun s _ => hmore.bind fun _ _ => ok _
      | endless =>
          subst hv
          cases hproperty
      | _ =>
          rw [Schema.propertiesOf_cons_of_not_map rfl (by simp)]
          exact hmore
termination_by subs => sizeOf subs

end

end Contained

namespace Contained

/-! ## Declarations -/

theorem payload {d : Entries} (h : Parameter.hasTypedConstraints d = true) :
    Contained [7] (Parameter.payload d) := by
  obtain ⟨-, hconstraints⟩ := Bool.and_eq_true_iff.1 h
  have henum := List.all_eq_true.1 hconstraints "enum" (List.mem_cons_self ..)
  unfold Parameter.payload
  cases hfind : Entries.find? d "enum" with
  | none => exact ok _
  | some v =>
      rw [hfind] at henum
      have hrow : v.row?.isSome = true := henum
      obtain ⟨parts, hparts⟩ := Schema.exists_partsOf hrow
      exact ((of_eq_ok hparts).map _).bind fun _ _ => ok _

theorem schemaOf {d : Entries} (h : Parameter.hasTypedConstraints d = true) :
    Contained [7] (Parameter.schemaOf d) :=
  (payload h).bind fun _ hp => ofEntries (Parameter.isTyped_payload h hp)

variable {m : Parameter.Merged} {add : Parameter.Merged → Value → Except Failure Parameter.Merged}
variable {ds : List Value}

theorem addProperty {d : Entries} (hd : Parameter.isTyped (.map d) = true)
    (hproperty : Parameter.becomesProperty d = true) (hname : Entries.has d "name" = true) :
    Contained [7] (m.addProperty d) := by
  obtain ⟨hconstraints, k, hk, -⟩ := Parameter.isTyped_property hd hproperty hname
  unfold Parameter.Merged.addProperty
  refine (schemaOf hconstraints).bind fun s _ => ?_
  rw [hk]
  exact ok _

/-- Merging usable declarations contains its failures, and what is merged is well typed. -/
theorem merged (hadd : Parameter.Merged.AddsProperties add)
    (hds : ∀ d ∈ ds, Parameter.IsUsable d) :
    Contained [7] (ds.foldlM add .empty) ∧ ∀ m, ds.foldlM add .empty = .ok m → m.IsTyped := by
  have hstep (m : Parameter.Merged) (hm : m.IsTyped) (a : Value) (ha : a ∈ ds) :
      Contained [7] (add m a) ∧ ∀ m', add m a = .ok m' → m'.IsTyped := by
    obtain ⟨d, rfl, hname⟩ := (hds a ha).exists_map
    have htyped := (hds _ ha).1
    -- a declaration that becomes no property changes the body at most
    rcases hadd m d with ⟨hproperty, heq⟩ | ⟨body, heq⟩
    · rw [heq]
      exact ⟨addProperty htyped hproperty hname, fun m' => hm.addProperty htyped hproperty hname⟩
    · rw [heq]
      refine ⟨ok _, ?_⟩
      rintro m' ⟨⟩
      exact ⟨hm.names, hm.payloads, hm.required⟩
  constructor
  · exact foldlM Parameter.Merged.IsTyped Parameter.Merged.isTyped_empty
      (fun m hm a ha => (hstep m hm a ha).1) (fun m a m' ha hm => (hstep m hm a ha).2 m')
  · intro m hm
    exact Outcome.foldlM_invariant Parameter.Merged.IsTyped
      (fun m a m' ha hm => (hstep m hm a ha).2 m') Parameter.Merged.isTyped_empty hm

variable {op : Entries}

theorem requireNames (hds : ∀ d ∈ ds, Parameter.isTyped d = true) :
    Contained [7] (Parameter.requireNames ds) := by
  induction ds with
  | nil => exact ok _
  | cons d rest ih =>
      rw [List.forall_mem_cons] at hds
      have hnamed : ∃ named, Parameter.isNamed d = .ok named := by
        cases d with
        | map d => exact ⟨_, rfl⟩
        | _ => cases hds.1
      obtain ⟨named, hnamed⟩ := hnamed
      refine (of_eq_ok hnamed).bind fun named' _ => ?_
      split
      · exact ih hds.2
      · exact fail (by decide) _

/-- The declarations of an operation are found, or one of them lacks a name; then they are
    usable. -/
theorem declarations (hget : Entries.get op "parameters" = .list ds)
    (hds : ∀ d ∈ ds, Parameter.isTyped d = true) :
    Contained [7] (Parameter.declarations (.map op)) ∧
      ∀ declared, Parameter.declarations (.map op) = .ok declared →
        ∀ d ∈ declared, Parameter.IsUsable d := by
  constructor
  · simp only [Parameter.declarations, hget]
    split
    · exact (requireNames hds).bind fun _ _ => ok _
    · exact ok _
  · intro declared h
    have hdeclared : declared = ds := Parameter.declarations_eq h hget
    subst hdeclared
    have hnames : Parameter.requireNames declared = .ok () := by
      simp only [Parameter.declarations, hget] at h
      split at h
      all_goals
        obtain ⟨listed, -, h⟩ := Outcome.bind_eq_ok.1 h
        obtain ⟨⟨⟩, hnames, h⟩ := Outcome.bind_eq_ok.1 h
        cases h
        exact hnames
    exact fun d hd => ⟨hds d hd, Parameter.isNamed_of_requireNames hnames d hd⟩

theorem requestShape (hget : Entries.get op "parameters" = .list ds)
    (hds : ∀ d ∈ ds, Parameter.isTyped d = true) :
    Contained [7] (Parameter.requestShape (.map op)) := by
  obtain ⟨hdeclarations, husable⟩ := declarations hget hds
  refine hdeclarations.bind fun declared hdeclared => ?_
  obtain ⟨hmerged, htyped⟩ := merged Parameter.Merged.addsProperties_addToRequest
    (husable declared hdeclared)
  refine hmerged.bind fun m hm => ?_
  split
  · split
    · exact ok _
    · exact fail (by decide) _
  · exact (ofEntries (htyped m hm).objectPayload).map _

theorem headerSchema (hget : Entries.get op "parameters" = .list ds)
    (hds : ∀ d ∈ ds, Parameter.isTyped d = true) :
    Contained [7] (Parameter.headerSchema (.map op)) := by
  obtain ⟨hdeclarations, husable⟩ := declarations hget hds
  refine hdeclarations.bind fun declared hdeclared => ?_
  obtain ⟨hmerged, htyped⟩ := merged Parameter.Merged.addsProperties_addToHeaders
    (husable declared hdeclared)
  exact hmerged.bind fun m hm => ofEntries (htyped m hm).objectPayload

end Contained

/-! ## Operations -/

namespace Operation

/-- A value that is a scalar. -/
theorem exists_of_isScalar {v : Value} (h : Parameter.isScalar v = true) : ∃ k, v = .scalar k := by
  cases v with
  | scalar k => exact ⟨k, rfl⟩
  | _ => cases h

theorem exists_identity {declaration : Value} (h : Parameter.isTyped declaration = true) :
    ∃ id, identity declaration = .ok id := by
  cases declaration with
  | map d =>
      obtain ⟨hname, hin⟩ := Bool.and_eq_true_iff.1 (Bool.and_eq_true_iff.1 h).1
      obtain ⟨name, hname⟩ := exists_of_isScalar hname
      obtain ⟨written, hin⟩ := exists_of_isScalar hin
      exact ⟨(name, written), identity_eq hname hin⟩
  | _ => cases h

theorem exists_declared {declared : Value} (h : Parameter.areTyped declared = true) :
    ∃ ds, Schema.partsOf declared = .ok ds ∧ ∀ d ∈ ds, Parameter.isTyped d = true := by
  unfold Parameter.areTyped at h
  cases hrow : declared.row? with
  | none =>
      rw [hrow] at h
      cases h
  | some ds =>
      rw [hrow] at h
      exact ⟨ds, by rw [Schema.partsOf.eq_def, hrow], List.all_eq_true.1 h⟩

/-- Well-typed declarations are merged into well-typed ones. -/
theorem exists_mergedParameters {shared own : Value} (hshared : Parameter.areTyped shared = true)
    (hown : Parameter.areTyped own = true) :
    ∃ ds, mergedParameters shared own = .ok ds ∧ ∀ d ∈ ds, Parameter.isTyped d = true := by
  obtain ⟨shared', hshared', hsharedTyped⟩ := exists_declared hshared
  obtain ⟨own', hown', hownTyped⟩ := exists_declared hown
  obtain ⟨overridden, hoverridden⟩ :=
    Outcome.exists_mapM_eq_ok fun d hd => exists_identity (hownTyped d hd)
  -- every identity can be read, so what is left of the shared declarations is a filter of them
  let isKept (d : Value) : Bool := (identity d).toOption.all (!overridden.contains ·)
  have hkept : shared'.filterMapM (fun d => do
      let id ← identity d
      .ok (if overridden.contains id then none else some d)) = .ok (shared'.filter isKept) := by
    refine Outcome.filterMapM_eq_filter fun d hd => ?_
    obtain ⟨id, hid⟩ := exists_identity (hsharedTyped d hd)
    have his : isKept d = !overridden.contains id := by simp [isKept, hid, Except.toOption]
    rw [hid, Outcome.ok_bind, his]
    cases overridden.contains id with
    | true => rfl
    | false => rfl
  refine ⟨shared'.filter isKept ++ own', ?_, fun d hd => ?_⟩
  · rw [mergedParameters, hown', Outcome.ok_bind, hoverridden, Outcome.ok_bind, hshared',
      Outcome.ok_bind, hkept, Outcome.ok_bind]
  · rcases List.mem_append.1 hd with hd | hd
    · exact hsharedTyped d (List.mem_filter.1 hd).1
    · exact hownTyped d hd

end Operation

namespace Contained

theorem success {responses : Value} (h : Response.areTyped responses = true) :
    Contained [7] (Response.success responses) := by
  cases responses with
  | map rs =>
      have hpayload {status : String} {p : Entries} (hp : Response.payload?
          ((Ordered.find? (Response.byStatus rs) status).getD .null) = some p) :
          Schema.isTyped p = true := by
        cases hfind : Ordered.find? (Response.byStatus rs) status with
        | none =>
            rw [hfind] at hp
            cases hp
        | some r =>
            rw [hfind, Option.getD_some] at hp
            have hmem : r ∈ Ordered.values (Response.byStatus rs) := List.mem_map.2
              ⟨_, Ordered.mem_of_find? (Ordered.rigid_of_lawful status) hfind, rfl⟩
            obtain ⟨named, hnamed, hr⟩ := List.mem_map.1 (Ordered.mem_values_ofList hmem)
            obtain ⟨e, he, rfl⟩ := List.mem_map.1 hnamed
            obtain ⟨-, hpayload⟩ := Bool.and_eq_true_iff.1 (List.all_eq_true.1 h e he)
            rw [show e.2 = r from hr, hp] at hpayload
            exact hpayload
      have hshowable : (rs.all fun e => e.1.isShowable) = true := List.all_eq_true.2 fun e he =>
        (Bool.and_eq_true_iff.1 (List.all_eq_true.1 h e he)).1
      unfold Response.success
      split
      · exact ok _
      · simp only
        rw [if_pos hshowable]
        split
        · exact ok _
        · split
          · next p hp => exact ((ofEntries (hpayload hp)).map _).bind fun _ _ => ok _
          · exact ok _
  | _ => exact of_eq_ok (if_pos h)

theorem mediaType {own document : Value} (hown : Operation.isMediaTypes own = true)
    (hdocument : Operation.isMediaTypes document = true) :
    Contained [7] (Operation.mediaType own document) := by
  have hfirst {declared : Value} (h : Operation.isMediaTypes declared = true)
      (htruthy : declared.truthy = true) : ∃ v, Operation.firstOf declared = .ok v := by
    unfold Operation.isMediaTypes at h
    split at h
    · next items =>
        cases items with
        | nil => cases htruthy
        | cons v rest => exact ⟨v, rfl⟩
    · exact ⟨_, rfl⟩
    · rw [htruthy] at h
      cases h
  unfold Operation.mediaType
  split
  · next htruthy =>
      obtain ⟨v, hv⟩ := hfirst hown htruthy
      exact of_eq_ok hv
  · split
    · next htruthy =>
        obtain ⟨v, hv⟩ := hfirst hdocument htruthy
        exact of_eq_ok hv
    · exact ok _

/-- Compiling a well-typed operation contains its failures. -/
theorem link {document : Entries} (hconsumes : Operation.isMediaTypes
      (Entries.get document "consumes") = true)
    (hproduces : Operation.isMediaTypes (Entries.get document "produces") = true)
    {op : Operation} (hop : op.isTyped = true) : Contained [7] (op.link document) := by
  obtain ⟨hparts, hrest⟩ := Bool.and_eq_true_iff.1 hop
  obtain ⟨hparts, hown⟩ := Bool.and_eq_true_iff.1 hparts
  obtain ⟨hpath, hshared⟩ := Bool.and_eq_true_iff.1 hparts
  obtain ⟨hrest, hownProduces⟩ := Bool.and_eq_true_iff.1 hrest
  obtain ⟨hresponses, hownConsumes⟩ := Bool.and_eq_true_iff.1 hrest
  obtain ⟨ds, hmerged, hds⟩ := Operation.exists_mergedParameters hshared hown
  have hget := Operation.get_declaring op ds
  have hdeclaring : op.withParameters = .ok (op.declaring ds) :=
    Outcome.bind_eq_ok.2 ⟨ds, hmerged, rfl⟩
  refine (of_eq_ok hdeclaring).bind fun merged heq => ?_
  rw [hdeclaring] at heq
  cases heq
  simp only [hget]
  -- from here on one stage after the other, as the link is put together
  refine (requestShape hget hds).bind fun shape _ => ?_
  refine (success hresponses).bind fun response _ => ?_
  have hheaders : Contained [7] (if ds.any (Operation.isIn .header) then
      some <$> Parameter.headerSchema (.map (op.declaring ds)) else .ok none) := by
    split
    · exact (headerSchema hget hds).map _
    · exact ok _
  rw [← Outcome.ite_bind]
  refine hheaders.bind fun headers _ => ?_
  refine (mediaType hownConsumes hconsumes).bind fun encType _ => ?_
  refine (mediaType hownProduces hproduces).bind fun produced _ => ?_
  obtain ⟨href, hhref⟩ : ∃ href, op.pathText = .ok href := by
    cases hpathText : op.pathText with
    | ok href => exact ⟨href, rfl⟩
    | error f =>
        rw [hpathText] at hpath
        cases hpath
  exact (of_eq_ok hhref).bind fun _ _ => ok _

end Contained

/-! ## Documents -/

namespace Api

variable {document : Entries}

theorem exists_basePathOf (h : isBasePath (Entries.get document "basePath") = true) :
    ∃ base, basePathOf document = .ok base := by
  unfold basePathOf
  unfold isBasePath at h
  split at h
  · next s hs =>
      simp only [hs]
      split
      · exact ⟨_, rfl⟩
      · exact ⟨_, rfl⟩
  · exact ⟨"", if_pos h⟩

theorem exists_operationsOf (h : arePaths (Entries.get document "paths") = true) :
    ∃ ops, operationsOf document = .ok ops ∧ ∀ op ∈ ops, Operation.isTyped op = true := by
  unfold operationsOf
  unfold arePaths at h
  split at h
  · next paths hs =>
      simp only [hs]
      split
      · exact ⟨[], rfl, by simp⟩
      · exact ⟨_, rfl, List.all_eq_true.1 h⟩
  · exact ⟨[], if_pos h, by simp⟩

end Api

namespace Contained

variable {document : Entries}

theorem headingOf (h : Api.isBasePath (Entries.get document "basePath") = true) :
    Contained [7] (Api.headingOf document) := by
  obtain ⟨base, hbase⟩ := Api.exists_basePathOf h
  have hrefusal (message : String) :
      Contained [7] (ApiRouter.fail .versionMismatch message : Except Failure PUnit) :=
    fail (by decide) message
  have hmissing (message : String) :
      Contained [7] (ApiRouter.fail .missingDefinitions message : Except Failure Api.Heading) :=
    fail (by decide) message
  have hheading (definitions : Value) : Contained [7]
      (Api.basePathOf document >>= fun base => .ok (Api.Heading.mk definitions base)) :=
    (of_eq_ok hbase).bind fun _ _ => ok _
  unfold Api.headingOf
  by_cases hversion : ((Entries.get document "swagger").display != Api.requiredVersion) = true
  · rw [if_pos hversion]
    refine (hrefusal _).bind fun _ _ => ?_
    split
    · exact hmissing _
    · exact hheading _
  · rw [if_neg hversion]
    split
    · exact hmissing _
    · exact hheading _

/-- Compiling a well-typed document contains its failures. -/
theorem compile (h : Api.isTyped document = true) (defaults : Defaults) :
    Contained [7] (Api.compile document defaults) := by
  obtain ⟨h, hproduces⟩ := Bool.and_eq_true_iff.1 h
  obtain ⟨h, hconsumes⟩ := Bool.and_eq_true_iff.1 h
  obtain ⟨hbase, hpaths⟩ := Bool.and_eq_true_iff.1 h
  obtain ⟨ops, hops, htyped⟩ := Api.exists_operationsOf hpaths
  refine (headingOf hbase).bind fun heading _ => ?_
  rw [hops, Outcome.ok_bind]
  refine (mapM fun op hop => ?_).bind fun _ _ => ok _
  exact (link hconsumes hproduces (htyped op hop)).bind fun _ _ => ok _

end Contained

end ApiRouter
