import ApiRouter.Proofs.Trimming
import ApiRouter.Text.Numeral
import Mathlib.Data.List.TakeWhile

set_option autoImplicit false

/-! # Rows of digits

A row of digits holds no blank, no sign and no underscore. It is read as a whole number by counting
up its digits, and this fails in two cases only: when one of the digits is not decimal, and when
there are too many of them. A number that is written in decimal is what its digits count up to. -/

namespace ApiRouter.Text

variable {c : Char} {cs : List Char} {s : String}

/-! ## Digits among the characters -/

theorem exists_range_of_isDecimal (h : isDecimal c = true) :
    ∃ r ∈ decimalRanges, r.1 ≤ c.toNat ∧ c.toNat ≤ r.2 := by
  rw [isDecimal, decimalValue?, Option.isSome_map, List.find?_isSome] at h
  obtain ⟨r, hr, hin⟩ := h
  exact ⟨r, hr, by simpa using hin⟩

theorem exists_range_of_isAnyDigit (h : isAnyDigit c = true) :
    ∃ r ∈ decimalRanges ++ otherDigitRanges, r.1 ≤ c.toNat ∧ c.toNat ≤ r.2 := by
  rw [isAnyDigit, Bool.or_eq_true, List.any_eq_true] at h
  rcases h with h | ⟨r, hr, hin⟩
  · obtain ⟨r, hr, hin⟩ := exists_range_of_isDecimal h
    exact ⟨r, List.mem_append_left _ hr, hin⟩
  · exact ⟨r, List.mem_append_right _ hr, by simpa using hin⟩

theorem isAnyDigit_of_isDecimal (h : isDecimal c = true) : isAnyDigit c = true := by
  rw [isAnyDigit, h, Bool.true_or]

/-- The ranges of digits and of blanks do not overlap. -/
theorem isBlank_of_isAnyDigit (h : isAnyDigit c = true) : isBlank c = false := by
  have hapart : ∀ r ∈ decimalRanges ++ otherDigitRanges, ∀ q ∈ blankRanges,
      r.2 < q.1 ∨ q.2 < r.1 := by decide +kernel
  obtain ⟨r, hr, hlow, hhigh⟩ := exists_range_of_isAnyDigit h
  rw [Bool.eq_false_iff, Ne, isBlank, List.any_eq_true]
  rintro ⟨q, hq, hin⟩
  simp only [Bool.and_eq_true, decide_eq_true_eq] at hin
  have hrq := hapart r hr q hq
  omega

theorem isDecimal_of_isDigit (h : c.isDigit = true) : isDecimal c = true := by
  have hin : 48 ≤ c.toNat ∧ c.toNat ≤ 57 := by
    simpa [Char.isDigit, UInt32.le_iff_toNat_le] using h
  rw [isDecimal, decimalValue?, Option.isSome_map, List.find?_isSome]
  exact ⟨(48, 57), List.mem_cons_self .., by simpa using hin⟩

/-! ## What is passed over -/

theorem trim_of_digits (h : ∀ c ∈ cs, isAnyDigit c = true) : trim cs = cs :=
  trim_eq_self (isTrimmed_of_forall fun c hc => isBlank_of_isAnyDigit (h c hc))

theorem joinUnderscores_of_not_mem (h : '_' ∉ cs) : joinUnderscores cs = some cs := by
  induction cs with
  | nil => rfl
  | cons c rest ih =>
      rw [List.mem_cons, not_or] at h
      rw [joinUnderscores.eq_4 _ _ (Ne.symm h.1), ih h.2, Option.map_some]
      rintro d tail rfl
      exact h.2 (List.mem_cons_self ..)

theorem joinUnderscores_of_digits (h : ∀ c ∈ cs, isAnyDigit c = true) :
    joinUnderscores cs = some cs :=
  joinUnderscores_of_not_mem fun hmark => absurd (h _ hmark) (by decide)

theorem readSign_of_digits (h : ∀ c ∈ cs, isAnyDigit c = true) : readSign cs = (false, cs) := by
  cases cs with
  | nil => rfl
  | cons c rest =>
      have hc := h c (List.mem_cons_self ..)
      unfold readSign
      split
      · next heq =>
          rw [(List.cons.inj heq).1] at hc
          exact absurd hc (by decide)
      · next heq =>
          rw [(List.cons.inj heq).1] at hc
          exact absurd hc (by decide)
      · rfl

/-! ## Reading a row of digits -/

/-- The value of a decimal digit, and zero for any other character. -/
def digitValue (c : Char) : Nat :=
  (decimalValue? c).getD 0

theorem readDigits_eq (cs : List Char) :
    readDigits cs = ((cs.takeWhile isDecimal).map digitValue, cs.dropWhile isDecimal) := by
  induction cs with
  | nil => rfl
  | cons c rest ih =>
      rw [readDigits]
      cases hvalue : decimalValue? c with
      | some d =>
          have hc : isDecimal c = true := by rw [isDecimal, hvalue]; rfl
          have hd : digitValue c = d := by rw [digitValue, hvalue]; rfl
          simp only [ih, List.takeWhile_cons_of_pos hc, List.dropWhile_cons_of_pos hc,
            List.map_cons, hd]
      | none =>
          have hc : ¬ isDecimal c = true := by simp [isDecimal, hvalue]
          simp only [List.takeWhile_cons_of_neg hc, List.dropWhile_cons_of_neg hc, List.map_nil]

theorem ofDigits_map (cs : List Char) : ofDigits (cs.map digitValue) = decimalNumber cs := by
  rw [ofDigits, List.foldl_map]
  rfl

/-- A row of decimal digits is a numeral when it is not too long. -/
theorem readInt?_of_decimals (hne : s ≠ "") (hall : ∀ c ∈ s.toList, isDecimal c = true)
    (hlength : s.length ≤ maxDigits) : readInt? s = some (decimalNumber s.toList : Int) := by
  have hdigits : ∀ c ∈ s.toList, isAnyDigit c = true :=
    fun c hc => isAnyDigit_of_isDecimal (hall c hc)
  have htake : s.toList.takeWhile isDecimal = s.toList := List.takeWhile_eq_self_iff.2 hall
  have hdrop : s.toList.dropWhile isDecimal = [] := List.dropWhile_eq_nil_iff.2 hall
  rw [readInt?, trim_of_digits hdigits, joinUnderscores_of_digits hdigits]
  simp only [readSign_of_digits hdigits, readDigits_eq, htake, hdrop]
  rw [← String.length_toList] at hlength
  cases hs : s.toList with
  | nil => exact absurd (String.toList_eq_nil_iff.1 hs) hne
  | cons c rest =>
      rw [hs, List.length_cons] at hlength
      rw [List.map_cons]
      simp only [List.length_cons, List.length_map, hlength, if_true, ← ofDigits_map, List.map_cons,
        Bool.false_eq_true, if_false]

/-- A row of digits is no numeral when one of them is not decimal, or when there are too many. -/
theorem readInt?_eq_none_of_digits (h : ∀ c ∈ s.toList, isAnyDigit c = true)
    (hnot : ¬ ((∀ c ∈ s.toList, isDecimal c = true) ∧ s.length ≤ maxDigits)) :
    readInt? s = none := by
  rw [readInt?, trim_of_digits h, joinUnderscores_of_digits h]
  simp only [readSign_of_digits h, readDigits_eq]
  cases hdrop : s.toList.dropWhile isDecimal with
  | cons c rest =>
      -- the row goes on behind its decimal digits
      cases (s.toList.takeWhile isDecimal).map digitValue with
      | nil => rfl
      | cons d ds => rfl
  | nil =>
      have hall : ∀ c ∈ s.toList, isDecimal c = true := List.dropWhile_eq_nil_iff.1 hdrop
      have hlong : ¬ s.toList.length ≤ maxDigits := by
        rw [String.length_toList]
        exact fun hlength => hnot ⟨hall, hlength⟩
      rw [List.takeWhile_eq_self_iff.2 hall]
      cases hs : s.toList with
      | nil => rfl
      | cons c rest =>
          rw [hs, List.length_cons] at hlong
          rw [List.map_cons]
          simp only [List.length_cons, List.length_map, hlong, if_false]

/-! ## Numbers in decimal -/

theorem isDecimal_of_mem_repr {n : Nat} (hc : c ∈ n.repr.toList) : isDecimal c = true := by
  rw [Nat.toList_repr] at hc
  exact isDecimal_of_isDigit (Nat.isDigit_of_mem_toDigits (by decide) (by decide) hc)

theorem digitValue_digitChar {d : Nat} (hd : d < 10) : digitValue (Nat.digitChar d) = d :=
  (by decide : ∀ d < 10, digitValue (Nat.digitChar d) = d) d hd

theorem decimalNumber_append (cs : List Char) (c : Char) :
    decimalNumber (cs ++ [c]) = decimalNumber cs * 10 + digitValue c := by
  simp [decimalNumber, digitValue]

/-- The digits of a number count up to it. -/
theorem decimalNumber_repr (n : Nat) : decimalNumber n.repr.toList = n := by
  rw [Nat.toList_repr]
  induction n using Nat.strongRecOn with
  | ind n ih =>
      by_cases hn : n < 10
      · have hone := decimalNumber_append [] (Nat.digitChar n)
        rw [Nat.toDigits_of_lt_base hn]
        rw [List.nil_append, digitValue_digitChar hn] at hone
        rw [hone]
        simp [decimalNumber]
      · rw [Nat.toDigits_of_base_le (by decide) (by omega), decimalNumber_append,
          ih (n / 10) (by omega), digitValue_digitChar (by omega)]
        omega

end ApiRouter.Text
