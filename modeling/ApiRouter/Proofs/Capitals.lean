import ApiRouter.Text.Case
import Mathlib

set_option autoImplicit false

/-! # Capitals

Capital forms are capitals themselves: a text in capitals stays as it is when it is put in capitals
again. No capital form lies in a run of letters that have one, or is written with several characters.
That is a fact about the tables, and it is checked run against run instead of letter by letter. -/

namespace ApiRouter.Text

/-! ## Runs -/

/-- Whether a run holds a code point. -/
def CaseRun.holds (r : CaseRun) (n : Nat) : Bool :=
  r.first ≤ n && n ≤ r.last && (n - r.first) % r.step == 0

/-- Whether runs start one after the other, the first one not before `n`. -/
def ascend (n : Nat) : List CaseRun → Bool
  | [] => true
  | r :: rest => n ≤ r.first && ascend r.first rest

/-- Whether ascending runs hold none of the code points from `first` to `last` that are `step`
apart. Runs of every second code point may cross when they do not meet. -/
def isFree (first last step : Nat) : List CaseRun → Bool
  | [] => true
  | r :: rest =>
    if r.last < first then isFree first last step rest
    else if last < r.first then true
    else
      r.step == 2 && (first + r.first) % 2 == 1 && (step == 2 || first == last) &&
        isFree first last step rest

theorem le_first_of_ascend {n : Nat} {runs : List CaseRun} (h : ascend n runs = true) :
    ∀ r ∈ runs, n ≤ r.first := by
  induction runs generalizing n with
  | nil => simp
  | cons r rest ih =>
      simp only [ascend, Bool.and_eq_true, decide_eq_true_eq] at h
      rw [List.forall_mem_cons]
      exact ⟨h.1, fun r' hr' => Nat.le_trans h.1 (ih h.2 r' hr')⟩

theorem holds_eq_false_of_isFree {first last step m n : Nat} {runs : List CaseRun}
    (hasc : ascend m runs = true) (h : isFree first last step runs = true) (hfirst : first ≤ n)
    (hlast : n ≤ last) (hstep : (n - first) % step = 0) : ∀ r ∈ runs, r.holds n = false := by
  induction runs generalizing m with
  | nil => simp
  | cons r rest ih =>
      simp only [ascend, Bool.and_eq_true, decide_eq_true_eq] at hasc
      rw [isFree] at h
      rw [List.forall_mem_cons]
      split at h
      · next hbefore =>
          refine ⟨?_, ih hasc.2 h⟩
          have hnot : ¬ n ≤ r.last := by omega
          simp [CaseRun.holds, hnot]
      · split at h
        · next hafter =>
            -- the runs ascend, so that all others start even later
            have hall : ∀ r' ∈ r :: rest, r.first ≤ r'.first :=
              List.forall_mem_cons.2 ⟨Nat.le_refl _, le_first_of_ascend hasc.2⟩
            rw [← List.forall_mem_cons (p := fun r => CaseRun.holds r n = false)]
            intro r' hr'
            have hnot : ¬ r'.first ≤ n := by
              have := hall r' hr'
              omega
            simp [CaseRun.holds, hnot]
        · simp only [Bool.and_eq_true, Bool.or_eq_true, beq_iff_eq] at h
          obtain ⟨⟨⟨htwo, hodd⟩, halike⟩, hrest⟩ := h
          refine ⟨?_, ih hasc.2 hrest⟩
          rw [Bool.eq_false_iff]
          intro hholds
          simp only [CaseRun.holds, Bool.and_eq_true, decide_eq_true_eq, beq_iff_eq, htwo] at hholds
          -- one of the two starts at an odd code point and the other at an even one
          rcases halike with rfl | rfl
          · omega
          · omega

/-- A code point goes where the run that holds it says, or stays where it is. -/
theorem apply_cases (runs : Array CaseRun) (n : Nat) :
    (∀ r ∈ runs.toList, r.holds n = false) ∧ CaseRun.apply runs n = n ∨
      ∃ r ∈ runs.toList, r.holds n = true ∧
        CaseRun.apply runs n = ((n : Int) + r.shift).toNat := by
  unfold CaseRun.apply
  split
  · next r hfind =>
      have hholds : r.holds n = true := Array.find?_some (p := (CaseRun.holds · n)) hfind
      exact .inr ⟨r, Array.mem_toList_iff.2 (Array.mem_of_find?_eq_some hfind), hholds, rfl⟩
  · next hfind =>
      refine .inl ⟨fun r hr => ?_, rfl⟩
      exact Bool.eq_false_iff.2 (Array.find?_eq_none.1 hfind r (Array.mem_toList_iff.1 hr))

theorem apply_eq_self {runs : Array CaseRun} {n : Nat} (h : ∀ r ∈ runs.toList, r.holds n = false) :
    CaseRun.apply runs n = n := by
  rcases apply_cases runs n with ⟨-, happly⟩ | ⟨r, hr, hholds, -⟩
  · exact happly
  · rw [h r hr] at hholds
    cases hholds

/-! ## The tables -/

/-- The letters that are written with several characters, as runs. -/
def expandedRuns : List CaseRun :=
  upperExpansions.map fun e => ⟨e.1, e.1, 1, 0⟩

/-- Whether the code points from `first` to `last` that are `step` apart are their own capitals. -/
def areCapitals (first last step : Nat) : Bool :=
  isFree first last step upperRuns.toList && isFree first last step expandedRuns

/-- The runs of both tables ascend. -/
theorem runs_ascend : ascend 0 upperRuns.toList = true ∧ ascend 0 expandedRuns = true :=
  ⟨by decide +kernel, by decide +kernel⟩

/-- What the runs and the expansions lead to are capitals, and so are the first characters of all
but the small letters. -/
theorem tables_areCapitals :
    (upperRuns.toList.all fun r =>
      areCapitals ((r.first : Int) + r.shift).toNat ((r.last : Int) + r.shift).toNat r.step &&
        0 ≤ (r.first : Int) + r.shift) = true ∧
    ((upperExpansions.flatMap Prod.snd).eraseDups.all fun n => areCapitals n n 1) = true ∧
    areCapitals 0 96 1 = true ∧ areCapitals 123 127 1 = true :=
  ⟨by decide +kernel, by decide +kernel, by decide +kernel, by decide +kernel⟩

/-! ## Characters -/

/-- A code point that is no letter with another capital form. -/
structure IsCapital (n : Nat) : Prop where
  outside : ∀ r ∈ upperRuns.toList, r.holds n = false
  single : ∀ e ∈ upperExpansions, e.1 ≠ n

theorem isCapital_of_areCapitals {first last step n : Nat}
    (h : areCapitals first last step = true) (hfirst : first ≤ n) (hlast : n ≤ last)
    (hstep : (n - first) % step = 0) : IsCapital n := by
  obtain ⟨hruns, hexpanded⟩ := Bool.and_eq_true_iff.1 h
  refine ⟨holds_eq_false_of_isFree runs_ascend.1 hruns hfirst hlast hstep, ?_⟩
  intro e he heq
  have hout := holds_eq_false_of_isFree runs_ascend.2 hexpanded hfirst hlast hstep
    ⟨e.1, e.1, 1, 0⟩ (List.mem_map.2 ⟨e, he, rfl⟩)
  simp [CaseRun.holds, heq] at hout

/-- Where a run sends a code point, there are capitals. -/
theorem isCapital_of_run {r : CaseRun} (hr : r ∈ upperRuns.toList) {n : Nat}
    (h : r.holds n = true) : IsCapital ((n : Int) + r.shift).toNat := by
  have hall := List.all_eq_true.1 tables_areCapitals.1 r hr
  simp only [Bool.and_eq_true, decide_eq_true_eq] at hall
  obtain ⟨hcapitals, hpos⟩ := hall
  simp only [CaseRun.holds, Bool.and_eq_true, decide_eq_true_eq, beq_iff_eq] at h
  obtain ⟨⟨hfirst, hlast⟩, hstep⟩ := h
  have hdistance : ((n : Int) + r.shift).toNat - ((r.first : Int) + r.shift).toNat = n - r.first := by
    omega
  exact isCapital_of_areCapitals hcapitals (by omega) (by omega) (by rw [hdistance, hstep])

theorem isCapital_of_expansion {n m : Nat} {ns : List Nat} (h : (n, ns) ∈ upperExpansions)
    (hm : m ∈ ns) : IsCapital m := by
  have hall := List.all_eq_true.1 tables_areCapitals.2.1 m
    (List.mem_eraseDups.2 (List.mem_flatMap.2 ⟨(n, ns), h, hm⟩))
  exact isCapital_of_areCapitals hall (Nat.le_refl m) (Nat.le_refl m) (Nat.mod_one _)

theorem isLower_iff (c : Char) : c.isLower = true ↔ 97 ≤ c.toNat ∧ c.toNat ≤ 122 := by
  simp [Char.isLower, UInt32.le_iff_toNat_le]

theorem IsCapital.toUpper {c : Char} (h : IsCapital c.toNat) : c.toUpper = c := by
  have hout := h.outside ⟨97, 122, 1, -32⟩ (List.mem_cons_self ..)
  simp only [CaseRun.holds, Nat.mod_one, beq_self_eq_true, Bool.and_true, Bool.and_eq_false_iff,
    decide_eq_false_iff_not] at hout
  refine Char.toUpper_eq_of_not_isLower fun hlower => ?_
  have := (isLower_iff c).1 hlower
  omega

theorem IsCapital.upperChar {c : Char} (h : IsCapital c.toNat) : upperChar c = [c] := by
  have hlookup : upperExpansions.lookup c.toNat = none := by
    rw [List.lookup_eq_none_iff]
    intro e he
    simpa using (h.single e he).symm
  rw [Text.upperChar, h.toUpper, hlookup, apply_eq_self h.outside, Char.ofNat_toNat]
  simp

/-- Of the first characters only the small letters have other capital forms. -/
theorem isCapital_of_lt {n : Nat} (h : n < 128) (hlower : ¬ (97 ≤ n ∧ n ≤ 122)) : IsCapital n := by
  obtain ⟨-, -, hbefore, hafter⟩ := tables_areCapitals
  rcases Nat.lt_or_ge n 97 with hn | hn
  · exact isCapital_of_areCapitals hbefore (Nat.zero_le n) (by omega) (Nat.mod_one _)
  · exact isCapital_of_areCapitals hafter (by omega) (by omega) (Nat.mod_one _)

theorem isCapital_ofNat {n : Nat} (h : IsCapital n) : IsCapital (Char.ofNat n).toNat := by
  rw [Char.toNat_ofNat]
  split
  · exact h
  · exact isCapital_of_lt (by omega) (by omega)

theorem isCapital_toUpper {c : Char} (h : c.toNat < 128) : IsCapital c.toUpper.toNat := by
  by_cases hlower : c.isLower = true
  · have hletter := (isLower_iff c).1 hlower
    rw [Char.toUpper_eq_of_isLower hlower]
    exact isCapital_ofNat (isCapital_of_lt (by omega) (by omega))
  · rw [Char.toUpper_eq_of_not_isLower hlower]
    rw [isLower_iff] at hlower
    exact isCapital_of_lt h hlower

/-- The capital form of a character consists of capitals. -/
theorem isCapital_of_mem_upperChar {c d : Char} (h : d ∈ upperChar c) : IsCapital d.toNat := by
  unfold upperChar at h
  split at h
  · next hascii =>
      rw [List.mem_singleton.1 h]
      exact isCapital_toUpper hascii
  · split at h
    · next ns hns =>
        obtain ⟨m, hm, rfl⟩ := List.mem_map.1 h
        obtain ⟨before, after, htable, -⟩ := List.lookup_eq_some_iff.1 hns
        have hmem : (c.toNat, ns) ∈ upperExpansions := by simp [htable]
        exact isCapital_ofNat (isCapital_of_expansion hmem hm)
    · next hnone =>
        rw [List.mem_singleton.1 h]
        refine isCapital_ofNat ?_
        rcases apply_cases upperRuns c.toNat with ⟨hout, happly⟩ | ⟨r, hr, hholds, happly⟩
        · rw [happly]
          refine ⟨hout, fun e he => ?_⟩
          have hne := List.lookup_eq_none_iff.1 hnone e he
          exact fun heq => by simp [heq] at hne
        · rw [happly]
          exact isCapital_of_run hr hholds

/-- **Capitals stay as they are.** -/
theorem upper_upper (s : String) : upper (upper s) = upper s := by
  have hchar : ∀ c, (upperChar c).flatMap upperChar = upperChar c := by
    intro c
    calc (upperChar c).flatMap upperChar = (upperChar c).flatMap fun d => [d] :=
          List.flatMap_congr fun d hd => (isCapital_of_mem_upperChar hd).upperChar
      _ = upperChar c := List.flatMap_singleton' _
  rw [upper, upper, String.toList_ofList, List.flatMap_assoc]
  simp only [hchar]

end ApiRouter.Text
