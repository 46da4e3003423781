import ApiRouter.Proofs.Numeral
import ApiRouter.Proofs.Outcome
import ApiRouter.Proofs.Rows
import ApiRouter.Response

set_option autoImplicit false

/-! # Which response counts as success

Responses are told apart by their status texts alone: how a status is written does not matter, and
of two responses with one status text the first gives the place and the last the response. The one
exception is a key that has no text, being a number of too many digits. -/

namespace ApiRouter.Response

variable {rs rs' : Entries} {s : String} {n : Nat} {v : Value}

/-! ## Statuses -/

/-- The status texts of responses, as they are declared. -/
def statusTexts (rs : Entries) : List String :=
  rs.map fun e => statusText e.1

/-- Three of the digits `0` to `9`. -/
def IsStatus (s : String) : Prop :=
  s.length = 3 ∧ ∀ c ∈ s.toList, c.isDigit = true

/-- The status text that counts as success among others, and the status that it denotes. -/
inductive Counts (texts : List String) : String → Nat → Prop where
  | ok : "200" ∈ texts → Counts texts "200" 200
  | created : "200" ∉ texts → "201" ∈ texts → Counts texts "201" 201
  | first {s : String} {n : Nat} : "200" ∉ texts → "201" ∉ texts → First IsStatus texts s →
      Text.readInt? s = some (n : Int) → Counts texts s n

theorem isStatus_iff : isStatus s = true ↔ IsStatus s := by
  have hdigit (c : Char) : Text.isAsciiDigit c = c.isDigit := rfl
  simp only [isStatus, IsStatus, Bool.and_eq_true, beq_iff_eq, List.all_eq_true, hdigit]

theorem IsStatus.readInt? (h : IsStatus s) :
    Text.readInt? s = some (Text.decimalNumber s.toList : Int) := by
  obtain ⟨hlength, hall⟩ := h
  refine Text.readInt?_of_decimals ?_ (fun c hc => Text.isDecimal_of_isDigit (hall c hc)) ?_
  · rintro rfl
    cases hlength
  · rw [hlength]
    decide

theorem keys_byStatus (rs : Entries) :
    Ordered.keys (byStatus rs) = (statusTexts rs).eraseDups := by
  rw [byStatus, keys_ofList, statusTexts, Ordered.keys, List.map_map]
  rfl

theorem has_byStatus (rs : Entries) (s : String) :
    Ordered.has (byStatus rs) s = true ↔ s ∈ statusTexts rs := by
  rw [Ordered.has_eq_true, keys_byStatus]
  simp

theorem chosen?_eq_some (h : chosen? (byStatus rs) = some s) :
    Counts (statusTexts rs) s (Text.decimalNumber s.toList) := by
  unfold chosen? at h
  split at h
  · next hok =>
      cases h
      exact .ok ((has_byStatus _ _).1 hok)
  · next hok =>
      rw [has_byStatus] at hok
      split at h
      · next hcreated =>
          cases h
          exact .created hok ((has_byStatus _ _).1 hcreated)
      · next hcreated =>
          rw [has_byStatus] at hcreated
          rw [keys_byStatus, find?_eraseDups, First.find?_eq_some] at h
          simp only [isStatus_iff] at h
          exact .first hok hcreated h h.holds.readInt?

theorem chosen?_eq_none (h : chosen? (byStatus rs) = none) : ¬ Counts (statusTexts rs) s n := by
  unfold chosen? at h
  split at h
  · cases h
  · next hok =>
      rw [has_byStatus] at hok
      split at h
      · cases h
      · next hcreated =>
          rw [has_byStatus] at hcreated
          rw [keys_byStatus, find?_eraseDups, List.find?_eq_none] at h
          intro hcounts
          cases hcounts with
          | ok hmem => exact hok hmem
          | created _ hmem => exact hcreated hmem
          | first _ _ hfirst _ => exact h s hfirst.mem (isStatus_iff.2 hfirst.holds)

/-! ## The response that counts -/

/-- The last response with a status text. -/
def LastUnder (rs : Entries) (s : String) (v : Value) : Prop :=
  ∃ before key after, rs = before ++ (key, v) :: after ∧ statusText key = s ∧
    s ∉ statusTexts after

/-- A response declares a schema. -/
def Declares (response : Value) (p : Entries) : Prop :=
  ∃ r, response = .map r ∧ Entries.get r "schema" = .map p

theorem payload?_eq_some {p : Entries} : payload? v = some p ↔ Declares v p := by
  unfold payload? Declares
  split
  · next r =>
      split
      · next p' hp' => simp [hp']
      · next hno =>
          constructor
          · intro h
            cases h
          · rintro ⟨r', hr, hp⟩
            cases hr
            exact absurd hp (hno p)
  · next hno =>
      constructor
      · intro h
        cases h
      · rintro ⟨r, rfl, -⟩
        exact absurd rfl (hno r)

theorem exists_last (h : s ∈ statusTexts rs) :
    ∃ v, Ordered.find? (byStatus rs) s = some v ∧ LastUnder rs s v := by
  -- what is looked up under the text is the last of its entries, which stem from the responses
  have hhas := (has_byStatus rs s).2 h
  rw [Ordered.has_eq_isSome] at hhas
  obtain ⟨v, hv⟩ := Option.isSome_iff_exists.1 hhas
  obtain ⟨before, after, hsplit, hnot⟩ := Ordered.exists_of_find?_ofList hv
  obtain ⟨before, rest, rfl, -, hrest⟩ := List.map_eq_append_iff.1 hsplit
  obtain ⟨⟨key, v'⟩, after, rfl, he, rfl⟩ := List.map_eq_cons_iff.1 hrest
  cases he
  refine ⟨_, hv, before, key, after, rfl, rfl, fun hmem => hnot ?_⟩
  simpa [Ordered.keys, statusTexts] using hmem

theorem Counts.mem {texts : List String} (h : Counts texts s n) : s ∈ texts := by
  cases h with
  | ok hmem => exact hmem
  | created _ hmem => exact hmem
  | first _ _ hfirst _ => exact hfirst.mem

/-! ## Success -/

/-- All keys of responses have a text. -/
def HaveTexts (rs : Entries) : Prop :=
  ∀ e ∈ rs, e.1.isShowable = true

theorem success_of_not_haveTexts (h : ¬ HaveTexts rs) : success (.map rs) = defect .badValue := by
  have hkeys : ¬ (rs.all fun e => e.1.isShowable) = true := fun hall => h (List.all_eq_true.1 hall)
  cases rs with
  | nil => exact absurd rfl hkeys
  | cons e rest => exact (if_neg (by simp [Value.truthy])).trans (if_neg hkeys)

theorem success_of_haveTexts (h : HaveTexts rs) : success (.map rs) =
    (match chosen? (byStatus rs) with
    | none => .ok ⟨none, none⟩
    | some s => do
      let schema ← match payload? ((Ordered.find? (byStatus rs) s).getD .null) with
        | some p => some <$> Schema.ofEntries p
        | none => .ok none
      .ok ⟨some (Text.decimalNumber s.toList), schema⟩) := by
  cases rs with
  | nil => rfl -- nothing is declared, and nothing is chosen
  | cons e rest =>
      exact (if_neg (by simp [Value.truthy])).trans (if_pos (List.all_eq_true.2 h))

theorem success_congr (h : HaveTexts rs) (h' : HaveTexts rs')
    (halike : List.Forall₂ (fun e e' => statusText e'.1 = statusText e.1 ∧ e'.2 = e.2) rs rs') :
    success (.map rs') = success (.map rs) := by
  have hnamed : rs'.map (fun e => (statusText e.1, e.2))
      = rs.map fun e => (statusText e.1, e.2) := by
    clear h h'
    induction halike with
    | nil => rfl
    | cons he _ ih => rw [List.map_cons, List.map_cons, he.1, he.2, ih]
  rw [success_of_haveTexts h, success_of_haveTexts h', byStatus, byStatus, hnamed]

/-- **The success response.** A key without a text makes the choice fail. Otherwise 200 counts, else
    201, else the first status of three digits, else none; with it comes the schema that the last
    response under this status text declares. Nothing else about the keys matters. -/
theorem success_selects (rs : Entries) :
    (¬ HaveTexts rs ∧ success (.map rs) = defect .badValue) ∨
    HaveTexts rs ∧
      ((∀ s n, ¬ Counts (statusTexts rs) s n) ∧ success (.map rs) = .ok ⟨none, none⟩ ∨
        ∃ s n v, Counts (statusTexts rs) s n ∧ LastUnder rs s v ∧
          ((∃ p, Declares v p ∧
              success (.map rs) = (fun schema => ⟨some n, some schema⟩) <$> Schema.ofEntries p) ∨
            (∀ p, ¬ Declares v p) ∧ success (.map rs) = .ok ⟨some n, none⟩)) ∧
      ∀ rs', HaveTexts rs' →
        List.Forall₂ (fun e e' => statusText e'.1 = statusText e.1 ∧ e'.2 = e.2) rs rs' →
          success (.map rs') = success (.map rs) := by
  by_cases htexts : HaveTexts rs
  · refine .inr ⟨htexts, ?_, fun rs' => success_congr htexts⟩
    have hsuccess := success_of_haveTexts htexts
    cases hchosen : chosen? (byStatus rs) with
    | none =>
        rw [hchosen] at hsuccess
        exact .inl ⟨fun s n => chosen?_eq_none hchosen, hsuccess⟩
    | some s =>
        have hcounts := chosen?_eq_some hchosen
        obtain ⟨v, hv, hlast⟩ := exists_last hcounts.mem
        simp only [hchosen, hv, Option.getD_some] at hsuccess
        refine .inr ⟨s, _, v, hcounts, hlast, ?_⟩
        cases hpayload : payload? v with
        | some p =>
            simp only [hpayload] at hsuccess
            refine .inl ⟨p, payload?_eq_some.1 hpayload, hsuccess.trans ?_⟩
            cases Schema.ofEntries p with
            | ok schema => rfl
            | error failure => rfl
        | none =>
            simp only [hpayload] at hsuccess
            refine .inr ⟨fun p hp => ?_, hsuccess⟩
            cases hpayload.symm.trans (payload?_eq_some.2 hp)
  · exact .inl ⟨htexts, success_of_not_haveTexts htexts⟩

/-- Two responses, of which the second declares a schema. -/
def twoResponses (first second : Scalar) : Entries :=
  [(first, .null), (second, .object [("schema", .object [("type", .text "string")])])]

/-- A number and a text collide in one status, and two texts in their place make no difference. -/
theorem success_colliding :
    ∃ found, success (.map (twoResponses (.int 200) (.text " 200 "))) = .ok found ∧
      (found.status, found.schema.map fun schema => schema.constraints.types)
        = (some 200, some (some ["string"])) ∧
      success (.map (twoResponses (.text "200\t") (.text "200"))) = .ok found := by
  have hruns : (success (.map (twoResponses (.int 200) (.text " 200 ")))).toOption.map
      (fun found => (found.status, found.schema.map fun schema => schema.constraints.types))
        = some (some 200, some (some ["string"])) := by
    decide +kernel
  obtain ⟨found, hfound, hparts⟩ := Outcome.exists_of_toOption_map hruns
  refine ⟨found, hfound, hparts, ?_⟩
  obtain ⟨hnot, -⟩ | ⟨-, -, hsame⟩ := success_selects (twoResponses (.int 200) (.text " 200 "))
  · exact absurd (List.all_eq_true.1 (by decide +kernel)) hnot
  · refine (hsame _ (List.all_eq_true.1 (by decide +kernel)) ?_).trans hfound
    exact .cons ⟨by decide +kernel, rfl⟩ (.cons ⟨by decide +kernel, rfl⟩ .nil)

theorem not_isShowable_of_le {m : Nat} (h : tenPow Text.maxDigits ≤ m) :
    (Scalar.int (Int.ofNat m)).isShowable = false := by
  simp only [Scalar.isShowable, decide_eq_false_iff_not, Nat.not_lt]
  exact h

/-- Beside 200 a number with one digit too many is a key without a text: the choice fails, though
    200 counts. -/
theorem success_beside_overlong :
    Counts (statusTexts [(.int 200, .map []), (.int (Int.ofNat (tenPow Text.maxDigits)), .map [])])
        "200" 200 ∧
      success (.map [(.int 200, .map []), (.int (Int.ofNat (tenPow Text.maxDigits)), .map [])])
        = defect .badValue := by
  constructor
  · have htext : statusText (.int 200) = "200" := by decide +kernel
    exact .ok (List.mem_map.2 ⟨_, List.mem_cons_self .., htext⟩)
  · refine success_of_not_haveTexts fun h => ?_
    have hshown := h (.int (Int.ofNat (tenPow Text.maxDigits)), .map [])
      (List.mem_cons_of_mem _ (List.mem_singleton_self _))
    cases (not_isShowable_of_le (Nat.le_refl (tenPow Text.maxDigits))).symm.trans hshown

end ApiRouter.Response
