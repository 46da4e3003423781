import ApiRouter.Api
import ApiRouter.Proofs.Inlining
import ApiRouter.Proofs.SchemaAgreement

set_option autoImplicit false

/-! # Inlined schemas accept the same

Inlining replaces references once and for all, evaluation follows them when it comes to them. Where
references stand for schemas only, and lead both ways to the same ones, an inlined schema comes to
the findings of the original and takes no more steps. -/

namespace ApiRouter

/-! ## Values without references -/

namespace Reference

variable {root v w : Value}

/-- Inlining changes nothing in a value in which no reference is written. -/
theorem Inlines.eq_of_references (h : Inlines root v w) (hv : references v = []) : w = v := by
  induction h with
  | atom => rfl
  | @list items inlined hlength _ ih =>
      have hsame : List.Forall₂ (· = ·) items inlined :=
        List.forall₂_iff_zip.2 ⟨hlength, fun hp =>
          (ih _ hp (List.subset_nil.1 (hv ▸ references_of_mem (List.of_mem_zip hp).1))).symm⟩
      rw [List.forall₂_eq_eq_eq] at hsame
      rw [hsame]
  | @map entries inlined _ hkeys _ ih =>
      have hrows := Ordered.forall₂_of_keys_eq (fun _ v w => w = v) hkeys fun p hp =>
        ih p hp (List.subset_nil.1 (hv ▸ references_of_entry (List.of_mem_zip hp).1))
      have hsame : List.Forall₂ (· = ·) entries inlined :=
        hrows.imp fun a b hab => Prod.ext hab.1 hab.2.symm
      rw [List.forall₂_eq_eq_eq] at hsame
      rw [hsame]
  | target href => exact absurd (mem_references_self href) (by rw [hv]; exact List.not_mem_nil)

theorem Inlines.eq_of_isRefFree (h : Inlines root v w) (hv : Schema.isRefFree v = true) : v = w :=
  (h.eq_of_references (List.isEmpty_iff.1 hv)).symm

theorem isRegular_of_follow {r : String} (hroot : root.isRegular = true)
    (h : Pointer.follow root r = .ok v) : v.isRegular = true := by
  refine follow_induction (fun v => v.isRegular = true) ?_ ?_ hroot h
  · exact fun items v hitems hv => Value.isRegular_list.1 hitems v hv
  · exact fun entries k v hentries hv => (Value.isRegular_map.1 hentries (k, v) hv).2

/-- What is inlined into a regular value from a regular document is regular. -/
theorem Inlines.isRegular (h : Inlines root v w) (hroot : root.isRegular = true)
    (hv : v.isRegular = true) : w.isRegular = true := by
  induction h with
  | atom => exact hv
  | list hlength _ ih =>
      rw [Value.isRegular_list] at hv ⊢
      intro y hy
      obtain ⟨x, hx⟩ := exists_mem_zip hlength hy
      exact ih (x, y) hx (hv x (List.of_mem_zip hx).1)
  | map _ hkeys _ ih =>
      rw [Value.isRegular_map] at hv ⊢
      intro e he
      obtain ⟨e', he'⟩ := exists_mem_zip (Ordered.length_of_keys_eq hkeys) he
      have hrows := Ordered.forall₂_of_keys_eq (fun _ _ _ => True) hkeys fun _ _ => trivial
      obtain ⟨hkey, -⟩ := (List.forall₂_iff_zip.1 hrows).2 he'
      obtain ⟨hkey', hvalue⟩ := hv e' (List.of_mem_zip he').1
      exact ⟨hkey ▸ hkey', ih (e', e) he' hvalue⟩
  | target _ ht _ ih => exact ih (isRegular_of_follow hroot ht)

end Reference

/-! ## References to schemas -/

namespace Schema

variable {v w : Value}

/-- Where a reference into the definitions leads checking to. -/
def definitionOf? (document : Entries) (ref : Value) : Option (Scope × Value) :=
  match ref with
  | .text r =>
    if "#/definitions/".toList.isPrefixOf r.toList then
      ((Scope.inDocument document).lookUp r).toOption
    else none
  | _ => none

/-- Whether a reference is a plain pointer that leads checking to a plain schema of the document
itself. -/
def refersToSchema (document : Entries) (ref : Value) : Bool :=
  match ref, definitionOf? document ref with
  | .text r, some (s, .map m) =>
    Pointer.isPlain r && decide (s = Scope.inDocument document) && isPlainAs (.map m) .schema
  | _, _ => false

theorem exists_of_refersToSchema {document : Entries} {ref : Value}
    (h : refersToSchema document ref = true) :
    ∃ r m, ref = .text r ∧ "#/definitions/".toList <+: r.toList ∧ Pointer.isPlain r = true ∧
      (Scope.inDocument document).lookUp r = .ok (Scope.inDocument document, .map m) ∧
      isPlainAs (.map m) .schema = true := by
  unfold refersToSchema at h
  split at h
  · next r s m hdefinition =>
      rw [Bool.and_eq_true, Bool.and_eq_true, decide_eq_true_iff] at h
      obtain ⟨⟨hplain, rfl⟩, hm⟩ := h
      simp only [definitionOf?] at hdefinition
      split at hdefinition
      · next hprefix =>
          refine ⟨r, m, rfl, List.isPrefixOf_iff_prefix.1 hprefix, hplain, ?_, hm⟩
          cases hlookUp : (Scope.inDocument document).lookUp r with
          | error cause =>
              rw [hlookUp] at hdefinition
              cases hdefinition
          | ok found =>
              rw [hlookUp] at hdefinition
              exact congrArg Except.ok (Option.some.inj hdefinition)
      · cases hdefinition
  · cases h

/-- All references that reading the value comes to lead checking to plain schemas. -/
def RefersToSchemas (document : Entries) (root v : Value) : Prop :=
  ∀ entries ref, Reference.Visits root v (.map entries) →
    Entries.find? entries "$ref" = some ref → refersToSchema document ref = true

section Document

open Reference

variable {document : Entries} {definitions root : Value}

theorem RefersToSchemas.of_visits (h : RefersToSchemas document root v) (hv : Visits root v w) :
    RefersToSchemas document root w :=
  fun entries ref hw href => h entries ref (hv.trans hw) href

/-- When every reference that is written down leads to a plain schema, so do those that reading
comes to. -/
theorem RefersToSchemas.of_references
    (h : ∀ ref ∈ references v ++ references root, refersToSchema document ref = true) :
    RefersToSchemas document root v := by
  intro entries ref hvisits href
  have hknown := references_of_visits hvisits (List.subset_append_right (references v) _)
    (List.subset_append_left _ _)
  exact h ref (hknown (mem_references_self href))

/-- Inlining follows the pointers that lead checking to schemas. -/
theorem RefersToSchemas.resolvable
    (hdefinitions : Entries.find? document "definitions" = some definitions)
    (hregular : definitions.isRegular = true)
    (h : RefersToSchemas document (.object [("definitions", definitions)]) v) :
    Resolvable (.object [("definitions", definitions)]) v := by
  intro entries ref hvisits href
  obtain ⟨r, m, rfl, hr, hplain, hlookUp, -⟩ :=
    exists_of_refersToSchema (h entries ref hvisits href)
  exact ⟨r, _, rfl, Scope.follow_of_lookUp hdefinitions hregular hplain hr hlookUp⟩

/-! ### Inlined values in their roles -/

/-- Whatever a plain value is taken for, it agrees with the inlined one. -/
theorem readsAlike_of_inlines
    (hdefinitions : Entries.find? document "definitions" = some definitions)
    (hregular : definitions.isRegular = true)
    (hroot : root = .object [("definitions", definitions)]) (h : Inlines root v w)
    (hv : v.isRegular = true) (hrefers : RefersToSchemas document root v) {role : Role}
    (hplain : isPlainAs v role = true) :
    ReadsAlike (Schematic (Scope.inDocument document)) v w role := by
  have hrootRegular : root.isRegular = true := by
    subst hroot
    refine Value.isRegular_map.2 fun e he => ?_
    rw [List.mem_singleton.1 he]
    exact ⟨rfl, hregular⟩
  have hshowable {v w : Value} (h : Inlines root v w) (hv : v.isRegular = true) :
      v.isShowable = w.isShowable := by
    rw [Value.isShowable_of_isRegular _ hv,
      Value.isShowable_of_isRegular _ (h.isRegular hrootRegular hv)]
  -- by the way of inlining: a part has the role that its place gives it, a target is a schema
  induction h generalizing role with
  | @atom v hatom =>
      cases v with
      | scalar a => exact readsAlike_self rfl (by simp) (by simp) role
      | set members => exact readsAlike_self rfl (by simp) (by simp) role
      | pair a b => cases hv
      | _ => cases hatom
  | @list items inlined hlength hinlines ih =>
      refine readsAlike_list hplain (Inlines.list hlength hinlines).eq_of_isRefFree fun hplain =>
        List.forall₂_iff_zip.2 ⟨hlength, fun {a b} hp => ?_⟩
      have ha := (List.of_mem_zip hp).1
      exact ih (a, b) hp (Value.isRegular_list.1 hv a ha) (hrefers.of_visits (.item ha (.here a)))
        (isPlainAs_of_mem hplain a ha)
  | @map entries inlined hnone hkeys hinlines ih =>
      have hinlined := Inlines.map hnone hkeys hinlines
      have hentries (role : Scalar → Role) (hplain : areEntriesPlainAs entries role = true) :
          List.Forall₂ (fun a b => a.1 = b.1 ∧
            ReadsAlike (Schematic (Scope.inDocument document)) a.2 b.2 (role a.1)) entries
            inlined := by
        refine Ordered.forall₂_of_keys_eq (fun k v w =>
          ReadsAlike (Schematic (Scope.inDocument document)) v w (role k)) hkeys fun p hp => ?_
        have he := (List.of_mem_zip hp).1
        exact ih p hp (Value.isRegular_map.1 hv _ he).2
          (hrefers.of_visits (.entry hnone he (.here _))) (isPlainAs_of_entry hplain _ he)
      have hhas (k : String) : Entries.has entries k = Entries.has inlined k :=
        Ordered.has_congr hkeys (.text k)
      refine readsAlike_map hplain hinlined.eq_of_isRefFree (fun hplain => ?_)
        (hentries fun _ => .schema)
      rw [isPlainAs, Bool.and_eq_true, Entries.has_eq_isSome, hnone, Option.isSome_none,
        Bool.false_or] at hplain
      have hundeclared : isUndeclared inlined = true := by
        rw [isUndeclared, ← hhas, ← hhas, ← hhas]
        exact hplain.1
      have hnone' : Entries.find? inlined "$ref" = none := by
        refine Entries.find?_eq_none_of_has ?_
        rw [← hhas, Entries.has_eq_isSome, hnone]
        rfl
      exact .of_keywords hnone hnone' hplain.1 hundeclared (hshowable hinlined hv)
        (hentries roleOf hplain.2)
  | @target entries r t w href ht hinlines ih =>
      obtain ⟨r', m, hr', hr, hdirect, hlookUp, hm⟩ :=
        exists_of_refersToSchema (hrefers entries (.text r) (.here _) href)
      cases hr'
      -- checking and inlining come to the same schema
      have htarget : t = .map m := by
        have hfollow := Scope.follow_of_lookUp hdefinitions hregular hdirect hr hlookUp
        rw [hroot] at ht
        exact Except.ok.inj (ht.symm.trans hfollow)
      have hagrees : ReadsAlike (Schematic (Scope.inDocument document)) t w .schema :=
        ih (isRegular_of_follow hrootRegular ht) (hrefers.of_visits (.target href ht (.here t)))
          (htarget ▸ hm)
      refine readsAlike_reference href hplain fun hundeclared => ?_
      exact .of_reference href hundeclared (hshowable (.target href ht hinlines) hv) hlookUp
        (htarget ▸ hagrees)

end Document

/-! ## Inlined payloads -/

theorem find?_definitions_withDefinitions {payload : Entries} {definitions : Value}
    (h : Entries.find? payload "definitions" = none) :
    Entries.find? (withDefinitions payload definitions) "definitions" = some definitions := by
  have hhas : Ordered.has payload (.text "definitions") = false := by
    rw [Ordered.has_eq_isSome]
    exact Option.isSome_eq_false_iff.2 (Option.isNone_iff_eq_none.2 h)
  rw [withDefinitions, Ordered.insertIfNew, hhas, if_neg Bool.false_ne_true, Entries.find?,
    Ordered.find?_append, ← Entries.find?, h]
  rfl

/-- An inlined payload is a mapping that comes to the findings of the payload. -/
theorem findings_agree {payload : Entries} {definitions : Value}
    (hown : Entries.find? payload "definitions" = none)
    (hpayload : (Value.map payload).isRegular = true) (hregular : definitions.isRegular = true)
    (hplain : isPlainAs (.map payload) .schema = true)
    (hrefers : RefersToSchemas (withDefinitions payload definitions)
      (.object [("definitions", definitions)]) (.map payload))
    (h : Reference.Inlines (.object [("definitions", definitions)]) (.map payload) w) :
    ∃ m, w = .map m ∧ ∀ subject,
      (findings payload definitions subject).Agrees (findings m definitions subject) := by
  have hschematic : ReadsAlike _ (.map payload) w .schema :=
    readsAlike_of_inlines (find?_definitions_withDefinitions hown) hregular rfl h hpayload hrefers
      hplain
  cases (hschematic : Schematic _ (.map payload) w) with
  | maps hm hm' _ hfinds =>
      refine ⟨_, rfl, fun subject => ?_⟩
      rw [findings_eq hm, findings_eq hm']
      exact hfinds (Nat.le_refl _) _ subject
  | same hmap => cases hmap

theorem require_iff_accepts {payload : Entries} {definitions subject : Value} (kind : ErrorKind)
    (label : String) : require kind label (.map payload) definitions subject = .ok () ↔
      Accepts payload definitions subject :=
  ⟨accepts_of_require, fun h => require_of_accepts h kind label⟩

end Schema

namespace Api

/-- What is shown of a payload is what is enforced: a check against the payload passes exactly when
inlining the payload succeeds and the check against the result passes. -/
theorem inline_preserves_checks (api : Api) {payload : Entries}
    (hown : Entries.find? payload "definitions" = none)
    (hpayload : (Value.map payload).isRegular = true)
    (hdefinitions : api.definitions.isRegular = true)
    (hplain : Schema.isPlainAs (.map payload) .schema = true)
    (hrefers : Schema.RefersToSchemas (Schema.withDefinitions payload api.definitions)
      api.referenceRoot (.map payload))
    (hacyclic : Reference.Acyclic api.referenceRoot (.map payload))
    (hinline : api.inline (.map payload) ≠ defect .endless) (subject : Value)
    (hcheck : Schema.violations (.map payload) api.definitions subject ≠ defect .endless)
    (kind : ErrorKind) (label : String) :
    Schema.require kind label (.map payload) api.definitions subject = .ok () ↔
      (do
        let inlined ← api.inline (.map payload)
        Schema.require kind label inlined api.definitions subject) = .ok () := by
  have hresolvable := Schema.RefersToSchemas.resolvable
    (Schema.find?_definitions_withDefinitions hown) hdefinitions hrefers
  cases hresult : api.inline (.map payload) with
  | error e =>
      obtain ⟨rfl, -⟩ := Reference.inlineWith_nil_error hresolvable hresult
      exact absurd hresult hinline
  | ok inlined =>
      have hrun := Reference.inlineWith_eq_ok.1 hresult
      have hinlines := hrun.inlines (hrun.refFree hacyclic)
      obtain ⟨m, rfl, hagree⟩ := Schema.findings_agree hown hpayload hdefinitions hplain hrefers
        hinlines
      have hroom : (Schema.findings payload api.definitions subject).stopped ≠ some .endless := by
        intro hstopped
        refine hcheck ?_
        simp only [Schema.violations, Value.mapping, Except.bind, Findings.all, hstopped]
      have hsame : Schema.Accepts payload api.definitions subject ↔
          Schema.Accepts m api.definitions subject := (hagree subject).clear_iff hroom
      rw [Outcome.ok_bind, Schema.require_iff_accepts, Schema.require_iff_accepts]
      exact hsame

/-- A payload with definitions to refer to, and a subject. -/
structure Trial where
  definitions : List (String × Value)
  payload : List (String × Value)
  subject : Value

namespace Trial

/-- An API that has only the definitions. -/
def api (t : Trial) : Api :=
  { definitions := .object t.definitions, basePath := "", defaults := .standard, routes := [] }

def entries (t : Trial) : Entries :=
  t.payload.map fun (k, v) => (.text k, v)

/-- The check of the subject against a payload. -/
def check (t : Trial) (payload : Value) : Except Failure Unit :=
  Schema.require .invalidRequest "Invalid request body" payload t.api.definitions t.subject

/-- The references of the payload lead to definitions and lie on no cycle, and yet the check passes
only before or only after inlining. -/
def Misleads (t : Trial) : Prop :=
  (∀ ref ∈ Reference.references (.map t.entries), (Schema.definitionOf?
    (Schema.withDefinitions t.entries t.api.definitions) ref).isSome = true) ∧
  Reference.Acyclic t.api.referenceRoot (.map t.entries) ∧
  ¬ (t.check (.map t.entries) = .ok () ↔
      (t.api.inline (.map t.entries) >>= t.check) = .ok ())

end Trial

/-- A row of one pet, which has an owner. -/
def petRow (owner : Value) : Trial where
  definitions :=
    [("Pet", .object
      [("type", .text "object"),
       ("properties", .object [("owner", Reference.referTo "#/definitions/Owner")])]),
     ("Owner", .object [("type", .text "string")])]
  payload := [("type", .text "array"), ("items", Reference.referTo "#/definitions/Pet")]
  subject := .list [.object [("owner", owner)]]

theorem inline_petRow_preserves :
    ((petRow (.text "Ann")).api.inline (.map (petRow (.text "Ann")).entries) >>=
      (petRow (.text "Ann")).check) = .ok () ∧
    ((petRow (.int 5)).api.inline (.map (petRow (.int 5)).entries) >>=
      (petRow (.int 5)).check) ≠ .ok () := by
  have hrefers : Schema.RefersToSchemas
      (Schema.withDefinitions (petRow .null).entries (petRow .null).api.definitions)
      (petRow .null).api.referenceRoot (.map (petRow .null).entries) :=
    .of_references (by decide +kernel)
  have hacyclic : Reference.Acyclic (petRow .null).api.referenceRoot
      (.map (petRow .null).entries) :=
    .of_rank (fun ref => if ref = .text "#/definitions/Pet" then 1 else 0) (by decide +kernel)
  have hpreserves := inline_preserves_checks (petRow .null).api rfl (by decide +kernel)
    (by decide +kernel) (by decide +kernel) hrefers hacyclic (by decide +kernel)
  refine ⟨(hpreserves _ (by decide +kernel) ..).1 (by decide +kernel), fun hpasses => ?_⟩
  exact absurd ((hpreserves _ (by decide +kernel) ..).2 hpasses) (by decide +kernel)

/-- Payloads that change their meaning when they are inlined: a reference is an item of an
enumeration, or its `$ref` is a property; the payload has definitions of its own; a pointer has a
percent escape, or counts from the end, or leads through a pair; the target is no mapping, or has an
identifier; a part declares another dialect; the target has a number that cannot be shown. -/
def trials : List Trial :=
  let text : Value := .object [("type", .text "string")]
  let number : Value := .object [("type", .text "integer")]
  let toA : Value := Reference.referTo "#/definitions/A"
  [⟨[("A", text)], [("enum", .list [toA])], toA⟩,
   ⟨[("A", .object [("x", text)])], [("properties", toA)], .object [("x", .int 5)]⟩,
   ⟨[("A", text)], [("definitions", .object [("A", number)]), ("items", toA)], .list [.int 5]⟩,
   ⟨[("AB", text)], [("items", Reference.referTo "#/definitions/A%42")], .list [.text "a"]⟩,
   ⟨[("A", .object [("allOf", .list [text])])],
    [("items", Reference.referTo "#/definitions/A/allOf/-1")], .list [.text "a"]⟩,
   ⟨[("A", .object [("x-pairs", .list [.pair (.text "x") text])])],
    [("items", Reference.referTo "#/definitions/A/x-pairs/0/1")], .list [.text "a"]⟩,
   ⟨[("A", .object [("x-any", .bool true)])],
    [("items", Reference.referTo "#/definitions/A/x-any")], .list [.int 5]⟩,
   ⟨[("A", .object [("x-part", .object [("id", .int 5)])])],
    [("items", Reference.referTo "#/definitions/A/x-part")], .list [.int 5]⟩,
   ⟨[("A", number)],
    [("items", .object [("$schema", .text "https://json-schema.org/draft/2019-09/schema"),
      ("items", .object [("$ref", .text "#/definitions/A"), ("minimum", .int 5)])])],
    .list [.list [.int 3]]⟩,
   ⟨[("A", .object [("maximum", .int (Int.ofNat (Nat.pow 16 3600)))])],
    [("anyOf", .list [.object [("not", toA)], .object []])], .int 5⟩]

/-- A property refers to the start of a chain of definitions, and the subject does not have it. -/
def chainTrial (n : Nat) : Trial where
  definitions := (List.range (n + 1)).map fun i =>
    (String.singleton (Reference.chainKey i), Reference.chainLink n i)
  payload := [("properties", .object [("x", Reference.chainLink n 0)])]
  subject := .object []

section Chain

variable (n : Nat)

theorem referenceRoot_chainTrial : (chainTrial n).api.referenceRoot = Reference.chain n := rfl

theorem entries_chainTrial : (chainTrial n).entries
    = [(.text "properties", .map [(.text "x", Reference.chainLink n 0)])] := rfl

theorem references_chainTrial :
    Reference.references (.map (chainTrial n).entries)
      = Reference.references (Reference.chainLink n 0) := by
  rw [entries_chainTrial]
  have hproperties : Entries.find?
    [(.text "properties", .map [(.text "x", Reference.chainLink n 0)])] "$ref" = none := rfl
  have hx : Entries.find? [(.text "x", Reference.chainLink n 0)] "$ref" = none := rfl
  simp only [Reference.references, Reference.referencesOfEntries, hproperties, hx,
    Option.toList_none, List.nil_append, List.append_nil]

theorem inline_chainTrial (hn : 980 ≤ n) (hn' : n ≤ 2000) :
    (chainTrial n).api.inline (.map (chainTrial n).entries) = .error (.defect .endless) := by
  have hend : Reference.inlineWith (Reference.chain n) 981 [] (Reference.chainLink n 0)
      = .error (.defect .endless) :=
    Reference.inlineWith_chain hn' (by omega) fun r hr => absurd hr List.not_mem_nil
  rw [entries_chainTrial, Api.inline, referenceRoot_chainTrial]
  exact Reference.inlineWith_first_error rfl (Reference.inlineWith_first_error rfl hend)

end Chain

theorem chainTrial_misleads : (chainTrial 1000).Misleads := by
  refine ⟨by decide +kernel, ?_, fun hsame => ?_⟩
  · rw [referenceRoot_chainTrial]
    exact Reference.chain_acyclic (by omega) (references_chainTrial 1000)
  · have hpasses : (chainTrial 1000).check (.map (chainTrial 1000).entries) = .ok () := by
      decide +kernel
    have hshown := hsame.1 hpasses
    rw [inline_chainTrial 1000 (by omega) (by omega)] at hshown
    cases hshown

theorem trials_mislead : (chainTrial 1000).Misleads ∧ ∀ t ∈ trials, t.Misleads := by
  have hdefined : ∀ t ∈ trials, ∀ ref ∈ Reference.references (.map t.entries),
      (Schema.definitionOf? (Schema.withDefinitions t.entries t.api.definitions) ref).isSome
        = true := by
    decide +kernel
  have honward : ∀ t ∈ trials, ∀ ref ∈ Reference.references (.map t.entries) ++
      Reference.references t.api.referenceRoot,
        ∀ ref' ∈ Reference.onward t.api.referenceRoot ref, 0 < 0 := by
    decide +kernel
  have hdiffers : ∀ t ∈ trials, ¬ (t.check (.map t.entries) = .ok () ↔
      (t.api.inline (.map t.entries) >>= t.check) = .ok ()) := by
    decide +kernel
  refine ⟨chainTrial_misleads, fun t ht => ?_⟩
  exact ⟨hdefined t ht, .of_rank (fun _ => 0) (honward t ht), hdiffers t ht⟩

end Api

end ApiRouter
