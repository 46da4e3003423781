import ApiRouter.Proofs.Conversion
import Mathlib.Data.Nat.Digits.Defs

set_option autoImplicit false

/-! # How numbers are written

A whole number is written as decimal digits, perhaps with a sign before them. A fraction may have a
point among or around its digits, and an exponent behind them. Each of these texts denotes one
number, and reading it gives that number.

Coercion makes a number of a text only when the text is written so from its first character to its
last, with one exception: a line break behind the numeral is passed over. -/

namespace ApiRouter.Text.Numeral

/-! ## The numerals and what they denote -/

/-- A sign or none, and whether it is a minus. -/
inductive Sign : List Char → Bool → Prop where
  | absent : Sign [] false
  | plus : Sign ['+'] false
  | minus : Sign ['-'] true

/-- One or more decimal digits, and the number that they denote in base ten. -/
structure Digits (cs : List Char) (n : Nat) : Prop where
  nonempty : cs ≠ []
  decimal : ∀ c ∈ cs, isDecimal c = true
  value : n = Nat.ofDigits 10 (cs.reverse.map digitValue)

/-- A number with its sign. -/
def signed (negative : Bool) (n : Nat) : Int :=
  if negative then -n else n

/-- A sign and digits, and the whole number that they denote. -/
inductive Whole : List Char → Int → Prop where
  | mk {sign digits : List Char} {negative : Bool} {n : Nat} :
      Sign sign negative → Digits digits n → Whole (sign ++ digits) (signed negative n)

/-- Digits with at most one point, the number that all of them denote, and how many of them stand
behind the point. -/
inductive Mantissa : List Char → Nat → Nat → Prop where
  | plain {digits : List Char} {n : Nat} : Digits digits n → Mantissa digits n 0
  | point {whole part : List Char} {n : Nat} :
      Digits (whole ++ part) n → Mantissa (whole ++ '.' :: part) n part.length

/-- An exponent or none, and its number. -/
inductive Exponent : List Char → Int → Prop where
  | absent : Exponent [] 0
  | present {mark : Char} {cs : List Char} {e : Int} :
      mark = 'e' ∨ mark = 'E' → Whole cs e → Exponent (mark :: cs) e

/-- `Fraction cs negative n e`: a sign, digits with at most one point, and perhaps an exponent, which
denote `± n · 10 ^ e`. -/
inductive Fraction : List Char → Bool → Nat → Int → Prop where
  | mk {sign mantissa exponent : List Char} {negative : Bool} {n places : Nat} {e : Int} :
      Sign sign negative → Mantissa mantissa n places → Exponent exponent e →
      Fraction (sign ++ (mantissa ++ exponent)) negative n (e - places)

variable {cs rest sign digits : List Char} {negative : Bool} {n places : Nat} {i e : Int}

/-! ## Digits -/

/-- Counting up digits gives their number in base ten. -/
theorem decimalNumber_eq_ofDigits (cs : List Char) :
    decimalNumber cs = Nat.ofDigits 10 (cs.reverse.map digitValue) := by
  induction cs using List.reverseRecOn with
  | nil => rfl
  | append_singleton cs c ih =>
      rw [decimalNumber_append, ih, List.reverse_append, List.reverse_singleton,
        List.singleton_append, List.map_cons, Nat.ofDigits_cons]
      omega

theorem Digits.eq (h : Digits cs n) : n = ofDigits (cs.map digitValue) := by
  rw [ofDigits_map, decimalNumber_eq_ofDigits, h.value]

/-- A row of decimal digits has a number. -/
theorem digits_of_decimal (hne : cs ≠ []) (hall : ∀ c ∈ cs, isDecimal c = true) :
    Digits cs (ofDigits (cs.map digitValue)) :=
  ⟨hne, hall, by rw [ofDigits_map, decimalNumber_eq_ofDigits]⟩

theorem readDigits_append (hall : ∀ c ∈ cs, isDecimal c = true)
    (hrest : ∀ c ∈ rest.head?, isDecimal c = false) :
    readDigits (cs ++ rest) = (cs.map digitValue, rest) := by
  rw [readDigits_eq, takeWhile_append_of_stop hall hrest, dropWhile_append_of_stop hall hrest]

/-- What is read as digits are digits, and none follows them. -/
theorem exists_of_readDigits {ds : List Nat} (h : readDigits cs = (ds, rest)) :
    ∃ digits, cs = digits ++ rest ∧ ds = digits.map digitValue ∧
      (∀ c ∈ digits, isDecimal c = true) ∧ ∀ c ∈ rest.head?, isDecimal c = false := by
  rw [readDigits_eq] at h
  obtain ⟨rfl, rfl⟩ := Prod.mk.inj h
  exact ⟨cs.takeWhile isDecimal, List.takeWhile_append_dropWhile.symm, rfl,
    fun c => List.mem_takeWhile_imp, stop_dropWhile isDecimal cs⟩

/-! ## Signs -/

/-- What is read as a sign is one, or none. -/
theorem sign_readSign (cs : List Char) :
    ∃ sign, Sign sign (readSign cs).1 ∧ cs = sign ++ (readSign cs).2 := by
  unfold readSign
  split
  · exact ⟨_, .minus, rfl⟩
  · exact ⟨_, .plus, rfl⟩
  · exact ⟨_, .absent, rfl⟩

/-- A sign is read before what has none itself. -/
theorem Sign.readSign_append (h : Sign sign negative)
    (hrest : ∀ c ∈ rest.head?, c ≠ '-' ∧ c ≠ '+') : readSign (sign ++ rest) = (negative, rest) := by
  cases h with
  | absent =>
      rw [List.nil_append]
      unfold readSign
      split
      · exact absurd rfl (hrest '-' rfl).1
      · exact absurd rfl (hrest '+' rfl).2
      · rfl
  | plus => rfl
  | minus => rfl

/-! ## Whole numbers -/

theorem head?_of_digits (h : ∀ c ∈ digits, isDecimal c = true) :
    ∀ c ∈ digits.head?, c ≠ '-' ∧ c ≠ '+' := by
  intro c hc
  have hdecimal := h c (List.mem_of_mem_head? hc)
  exact ⟨fun he => absurd (he ▸ hdecimal) (by decide), fun he => absurd (he ▸ hdecimal) (by decide)⟩

/-- A whole numeral is what is read as a sign and digits to its end. -/
theorem whole_iff : Whole cs i ↔ ∃ ds, ds ≠ [] ∧ readDigits (readSign cs).2 = (ds, []) ∧
    i = signed (readSign cs).1 (ofDigits ds) := by
  constructor
  · rintro @⟨sign, digits, _, _, hsign, hdigits⟩
    rw [hsign.readSign_append (head?_of_digits hdigits.decimal)]
    have hread : readDigits (digits ++ []) = _ := readDigits_append hdigits.decimal (by simp)
    rw [List.append_nil] at hread
    exact ⟨_, by simpa using hdigits.nonempty, hread, by rw [hdigits.eq]⟩
  · rintro ⟨ds, hne, hread, rfl⟩
    obtain ⟨sign, hsign, hcs⟩ := sign_readSign cs
    obtain ⟨digits, hdigits, rfl, hdecimal, -⟩ := exists_of_readDigits hread
    rw [hdigits, List.append_nil] at hcs
    have hwhole := Whole.mk hsign (digits_of_decimal (by simpa using hne) hdecimal)
    rwa [← hcs] at hwhole

/-- A whole numeral denotes one number. -/
theorem Whole.unique {j : Int} (h : Whole cs i) (h' : Whole cs j) : i = j := by
  obtain ⟨ds, -, hread, rfl⟩ := whole_iff.1 h
  obtain ⟨es, -, hread', rfl⟩ := whole_iff.1 h'
  rw [hread] at hread'
  rw [(Prod.mk.inj hread').1]

/-- What is read as a whole number is a whole numeral. -/
theorem whole_of_readInt? {s : String} (hcs : joinUnderscores (trim s.toList) = some cs)
    (h : readInt? s = some i) : Whole cs i := by
  rw [readInt?, hcs] at h
  dsimp only at h
  split at h
  · cases h
  · next ds hne hread =>
      split at h
      · cases h
        exact whole_iff.2 ⟨ds, fun hnil => hne (by rw [hnil]), hread, rfl⟩
      · cases h
  · cases h

/-! ## Fractions -/

theorem readExponent?_eq_some : readExponent? cs = some e ↔ Exponent cs e := by
  constructor
  · intro h
    cases cs with
    | nil =>
        cases h
        exact .absent
    | cons mark cs =>
        rw [readExponent?] at h
        split at h
        · next hmark =>
            have hmark : mark = 'e' ∨ mark = 'E' := by simpa using hmark
            dsimp only at h
            split at h
            · cases h
            · next ds hne hread =>
                cases h
                exact .present hmark (whole_iff.2 ⟨ds, fun hnil => hne (by rw [hnil]), hread, rfl⟩)
            · cases h
        · cases h
  · rintro (_ | ⟨hmark, hwhole⟩)
    · rfl
    · obtain ⟨ds, hne, hread, rfl⟩ := whole_iff.1 hwhole
      rw [readExponent?, if_pos (by simpa using hmark)]
      dsimp only
      rw [hread]
      cases ds with
      | nil => exact absurd rfl hne
      | cons d ds => rfl

theorem Exponent.head? (h : Exponent cs e) :
    ∀ c ∈ cs.head?, isDecimal c = false ∧ c ≠ '.' := by
  cases h with
  | absent => simp
  | present hmark =>
      rintro c hc
      cases hc
      rcases hmark with rfl | rfl
      · decide
      · decide

/-- The digits behind a point, if there is one, and what follows them. -/
def readPlaces : List Char → List Nat × List Char
  | '.' :: rest => readDigits rest
  | rest => ([], rest)

theorem readPlaces_of_no_point (h : ∀ c ∈ rest.head?, c ≠ '.') : readPlaces rest = ([], rest) := by
  unfold readPlaces
  split
  · exact absurd rfl (h '.' rfl)
  · rfl

theorem readFraction?_eq (negative : Bool) (cs : List Char) : readFraction? negative cs =
    if (readDigits cs).1.isEmpty && (readPlaces (readDigits cs).2).1.isEmpty then none
    else (readExponent? (readPlaces (readDigits cs).2).2).map fun e =>
      .ofDecimal negative (ofDigits ((readDigits cs).1 ++ (readPlaces (readDigits cs).2).1))
        (e - ((readPlaces (readDigits cs).2).1.length : Int)) := rfl

/-- A mantissa is what is read as digits, and perhaps a point with digits behind it. -/
theorem Mantissa.read {mantissa : List Char} (h : Mantissa mantissa n places)
    (hrest : ∀ c ∈ rest.head?, isDecimal c = false ∧ c ≠ '.') :
    ∃ whole after part, readDigits (mantissa ++ rest) = (whole, after) ∧
      readPlaces after = (part, rest) ∧ whole ++ part ≠ [] ∧ n = ofDigits (whole ++ part) ∧
      places = part.length := by
  have hstop : ∀ c ∈ rest.head?, isDecimal c = false := fun c hc => (hrest c hc).1
  cases h with
  | plain hdigits =>
      refine ⟨_, rest, [], readDigits_append hdigits.decimal hstop,
        readPlaces_of_no_point fun c hc => (hrest c hc).2, by simpa using hdigits.nonempty, ?_, rfl⟩
      rw [List.append_nil, hdigits.eq]
  | @point whole part _ hdigits =>
      obtain ⟨hwhole, hpart⟩ := List.forall_mem_append.1 hdigits.decimal
      have hpoint : ∀ c ∈ ('.' :: (part ++ rest)).head?, isDecimal c = false := by
        rintro c hc
        cases hc
        decide
      refine ⟨whole.map digitValue, '.' :: (part ++ rest), part.map digitValue, ?_,
        readDigits_append hpart hstop, ?_, ?_, (List.length_map _).symm⟩
      · rw [List.append_assoc, List.cons_append, readDigits_append hwhole hpoint]
      · rw [← List.map_append]
        simpa using hdigits.nonempty
      · rw [← List.map_append, hdigits.eq]

theorem exists_mantissa {whole part : List Nat} {after : List Char}
    (hwhole : readDigits cs = (whole, after)) (hpart : readPlaces after = (part, rest))
    (hne : whole ++ part ≠ []) :
    ∃ mantissa, cs = mantissa ++ rest ∧
      Mantissa mantissa (ofDigits (whole ++ part)) part.length := by
  obtain ⟨whole, rfl, rfl, hall, -⟩ := exists_of_readDigits hwhole
  unfold readPlaces at hpart
  split at hpart
  · obtain ⟨part, rfl, rfl, hpart, -⟩ := exists_of_readDigits hpart
    rw [← List.map_append] at hne ⊢
    rw [List.length_map]
    exact ⟨whole ++ '.' :: part, by simp,
      .point (digits_of_decimal (by simpa using hne) (List.forall_mem_append.2 ⟨hall, hpart⟩))⟩
  · obtain ⟨rfl, rfl⟩ := Prod.mk.inj hpart
    rw [List.append_nil] at hne ⊢
    exact ⟨whole, rfl, .plain (digits_of_decimal (by simpa using hne) hall)⟩

/-- A fraction without its sign is read as a mantissa and an exponent. -/
theorem readFraction?_eq_some {x : Binary64} : readFraction? negative cs = some x ↔
    ∃ mantissa exponent n places e, cs = mantissa ++ exponent ∧ Mantissa mantissa n places ∧
      Exponent exponent e ∧ x = .ofDecimal negative n (e - (places : Int)) := by
  rw [readFraction?_eq]
  constructor
  · intro h
    split at h
    · cases h
    · next hne =>
        obtain ⟨e, he, rfl⟩ := Option.map_eq_some_iff.1 h
        have hne : (readDigits cs).1 ++ (readPlaces (readDigits cs).2).1 ≠ [] := by simpa using hne
        obtain ⟨mantissa, hcs, hmantissa⟩ := exists_mantissa rfl rfl hne
        exact ⟨mantissa, _, _, _, e, hcs, hmantissa, readExponent?_eq_some.1 he, rfl⟩
  · rintro ⟨mantissa, exponent, n, places, e, rfl, hmantissa, hexponent, rfl⟩
    obtain ⟨whole, after, part, hwhole, hpart, hne, rfl, rfl⟩ :=
      hmantissa.read hexponent.head?
    rw [hwhole]
    dsimp only
    rw [hpart]
    dsimp only
    rw [readExponent?_eq_some.2 hexponent, if_neg (by simpa using hne), Option.map_some]

/-- A sign is told from what follows it, a mantissa and an exponent. -/
theorem Mantissa.head? {mantissa : List Char} (h : Mantissa mantissa n places)
    (rest : List Char) : ∀ c ∈ (mantissa ++ rest).head?, c ≠ '-' ∧ c ≠ '+' := by
  have hdigits {ds : List Char} (hall : ∀ c ∈ ds, isDecimal c = true) (hne : ds ≠ []) :
      ∀ c ∈ (ds ++ rest).head?, c ≠ '-' ∧ c ≠ '+' := by
    rw [List.head?_append_of_ne_nil _ hne]
    exact head?_of_digits hall
  cases h with
  | plain hdecimal => exact hdigits hdecimal.decimal hdecimal.nonempty
  | @point whole part _ hdecimal =>
      cases whole with
      | nil =>
          rintro c hc
          cases hc
          decide
      | cons c whole =>
          rintro d hd
          cases hd
          exact head?_of_digits hdecimal.decimal c rfl

theorem Fraction.read (h : Fraction cs negative n e) : (readSign cs).1 = negative ∧
    readFraction? negative (readSign cs).2 = some (.ofDecimal negative n e) := by
  obtain ⟨hsign, hmantissa, hexponent⟩ := h
  rw [hsign.readSign_append (hmantissa.head? _)]
  exact ⟨rfl, readFraction?_eq_some.2 ⟨_, _, _, _, _, rfl, hmantissa, hexponent, rfl⟩⟩

/-- A fraction denotes one number. -/
theorem Fraction.ofDecimal_eq {negative' : Bool} {n' : Nat} {e' : Int}
    (h : Fraction cs negative n e) (h' : Fraction cs negative' n' e') :
    Binary64.ofDecimal negative n e = .ofDecimal negative' n' e' := by
  obtain ⟨rfl, hread⟩ := h.read
  obtain ⟨rfl, hread'⟩ := h'.read
  exact Option.some.inj (hread.symm.trans hread')

theorem exists_fraction {x : Binary64}
    (h : readFraction? (readSign cs).1 (readSign cs).2 = some x) :
    ∃ n e, Fraction cs (readSign cs).1 n e ∧ x = .ofDecimal (readSign cs).1 n e := by
  obtain ⟨sign, hsign, hcs⟩ := sign_readSign cs
  obtain ⟨mantissa, exponent, n, places, e, hrest, hmantissa, hexponent, rfl⟩ :=
    readFraction?_eq_some.1 h
  rw [hrest] at hcs
  have hfraction := Fraction.mk hsign hmantissa hexponent
  rw [← hcs] at hfraction
  exact ⟨n, _, hfraction, rfl⟩

end ApiRouter.Text.Numeral

namespace ApiRouter.Coercion

open Text.Numeral (Whole Fraction)

variable {s : String} {cs : List Char} {types : List Value} {w : Value}

/-! ## The texts that numeric types take -/

/-- The text is a numeral, or a numeral with a line break behind it. -/
def Stands (cs : List Char) (s : String) : Prop :=
  s.toList = cs ∨ s.toList = cs ++ ['\n']

theorem stands_withoutFinalBreak (s : String) : Stands (withoutFinalBreak s.toList) s :=
  withoutFinalBreak_cases s.toList

/-- No line break belongs to a numeral, so the numeral is told from the text that it stands in. -/
theorem Stands.eq (h : Stands cs s) (hcs : ∀ c ∈ cs, isNumeralChar c = true) :
    withoutFinalBreak s.toList = cs := by
  rcases h with h | h
  · rw [h]
    rcases withoutFinalBreak_cases cs with hsame | hbreak
    · exact hsame.symm
    · have hmem : '\n' ∈ cs := by
        rw [hbreak]
        exact List.mem_append_right _ (List.mem_singleton_self _)
      exact absurd (hcs _ hmem) (by decide)
  · rw [h]
    simp [withoutFinalBreak]

theorem isDigits_iff_whole {cs : List Char} :
    isDigits (withoutSign cs) = true ↔ ∃ i, Whole cs i := by
  rw [isDigits_iff, ← readSign_snd]
  constructor
  · rintro ⟨hne, hall⟩
    have hread : Text.readDigits (Text.readSign cs).2
        = ((Text.readSign cs).2.map Text.digitValue, []) := by
      rw [Text.readDigits_eq, List.takeWhile_eq_self_iff.2 hall, List.dropWhile_eq_nil_iff.2 hall]
    exact ⟨_, Text.Numeral.whole_iff.2 ⟨_, by simpa using hne, hread, rfl⟩⟩
  · rintro ⟨i, hwhole⟩
    obtain ⟨ds, hne, hread, -⟩ := Text.Numeral.whole_iff.1 hwhole
    obtain ⟨digits, hdigits, rfl, hall, -⟩ := Text.Numeral.exists_of_readDigits hread
    rw [hdigits, List.append_nil]
    exact ⟨by simpa using hne, hall⟩

theorem isFraction_iff_fraction {cs : List Char} :
    isFraction (withoutSign cs) = true ↔ ∃ negative n e, Fraction cs negative n e := by
  rw [← readSign_snd]
  constructor
  · intro h
    rw [← isSome_readFraction? (Text.readSign cs).1, Option.isSome_iff_exists] at h
    obtain ⟨x, hx⟩ := h
    obtain ⟨n, e, hfraction, -⟩ := Text.Numeral.exists_fraction hx
    exact ⟨_, n, e, hfraction⟩
  · rintro ⟨negative, n, e, hfraction⟩
    rw [← isSome_readFraction? negative, hfraction.read.2]
    rfl

theorem isNumeralChar_of_whole {i : Int} (h : Whole cs i) : ∀ c ∈ cs, isNumeralChar c = true :=
  isNumeralChar_of_withoutSign fun c hc =>
    isNumeralChar_of_isDecimal ((isDigits_iff.1 (isDigits_iff_whole.2 ⟨i, h⟩)).2 c hc)

theorem isNumeralChar_of_fraction {negative : Bool} {n : Nat} {e : Int}
    (h : Fraction cs negative n e) : ∀ c ∈ cs, isNumeralChar c = true :=
  isNumeralChar_of_withoutSign
    (isNumeralChar_of_isFraction (isFraction_iff_fraction.2 ⟨_, _, _, h⟩))

/-! ## The numbers that are made -/

theorem Makes.int {t : Value} {i : Int} (h : Makes s t (.int i)) :
    t = .text "integer" ∧ Whole (withoutFinalBreak s.toList) i := by
  cases h with
  | integer hs hread =>
      obtain ⟨j, hwhole⟩ := isDigits_iff_whole.1 hs
      have hjoined := joinUnderscores_trim (isNumeralChar_of_whole hwhole)
      exact ⟨rfl, Text.Numeral.whole_of_readInt? hjoined hread⟩

/-- No numeral has the letter that stands in every name of a special value. -/
theorem toLower_ne_of_isNumeralChar {c : Char} (h : isNumeralChar c = true) : c.toLower ≠ 'n' := by
  have hapart : ∀ r ∈ Text.decimalRanges, r.2 < 'A'.toNat ∨ 'Z'.toNat < r.1 := by decide
  have hmarks : (['-', '+', '.', 'e', 'E'].all fun c => c.toLower != 'n') = true := by decide
  rw [isNumeralChar, Bool.or_eq_true] at h
  rcases h with h | h
  · obtain ⟨r, hr, hlow, hhigh⟩ := Text.exists_range_of_isDecimal h
    have hr := hapart r hr
    have hsmall : c.toLower = c := by
      refine dif_neg ?_
      rintro ⟨hA, hZ⟩
      have hA : 'A'.toNat ≤ c.toNat := hA
      have hZ : c.toNat ≤ 'Z'.toNat := hZ
      omega
    rw [hsmall]
    rintro rfl
    exact absurd h (by decide)
  · simpa using List.all_eq_true.1 hmarks c (List.contains_iff_mem.1 h)

theorem ofList_toLower_ne {name : String} (h : ∀ c ∈ cs, isNumeralChar c = true)
    (hname : 'n' ∈ name.toList) : String.ofList (cs.map Char.toLower) ≠ name := by
  rintro rfl
  rw [String.toList_ofList] at hname
  obtain ⟨c, hc, hlower⟩ := List.mem_map.1 hname
  exact toLower_ne_of_isNumeralChar (h c hc) hlower

/-- A fraction names no special value, so it is read as a fraction. -/
theorem readFloat?_eq (h : ∀ c ∈ withoutFinalBreak s.toList, isNumeralChar c = true) :
    Text.readFloat? s = Text.readFraction? (Text.readSign (withoutFinalBreak s.toList)).1
      (Text.readSign (withoutFinalBreak s.toList)).2 := by
  have hrest : ∀ c ∈ (Text.readSign (withoutFinalBreak s.toList)).2, isNumeralChar c = true := by
    rw [readSign_snd]
    rcases withoutSign_cases (withoutFinalBreak s.toList) with hsame | ⟨sign, -, hcons⟩
    · rwa [← hsame]
    · rw [hcons] at h
      exact (List.forall_mem_cons.1 h).2
  have hne (name : String) (hname : 'n' ∈ name.toList) :=
    beq_eq_false_iff_ne.2 (ofList_toLower_ne hrest hname)
  rw [Text.readFloat?, joinUnderscores_trim h]
  dsimp only
  rw [hne "inf" (by decide), hne "infinity" (by decide), hne "nan" (by decide)]
  rfl

theorem Makes.float {t : Value} {x : Binary64} (h : Makes s t (.float x)) :
    t = .text "number" ∧ ∃ negative n e,
      Fraction (withoutFinalBreak s.toList) negative n e ∧ x = .ofDecimal negative n e := by
  cases h with
  | number hs hread =>
      obtain ⟨_, _, _, hfraction⟩ := isFraction_iff_fraction.1 hs
      rw [readFloat?_eq (isNumeralChar_of_fraction hfraction)] at hread
      exact ⟨rfl, _, Text.Numeral.exists_fraction hread⟩

theorem Makes.of_integer (h : Makes s (.text "integer") w) : ∃ i, w = .int i := by
  generalize htype : Value.text "integer" = t at h
  cases h with
  | integer => exact ⟨_, rfl⟩
  | string | number | true | false | null => simp at htype

theorem Makes.of_number (h : Makes s (.text "number") w) : ∃ x, w = .float x := by
  generalize htype : Value.text "number" = t at h
  cases h with
  | number => exact ⟨_, rfl⟩
  | string | integer | true | false | null => simp at htype

/-- The first type that takes a text makes what becomes of it. -/
theorem Becomes.makes {t : Value} (h : Becomes types s w) (ht : First (Takes s) types t) :
    Makes s t w := by
  cases h with
  | made hfirst hmakes => rwa [ht.unique hfirst]
  | kept hnot => exact absurd ht.holds (hnot t ht.mem)

/-- A whole number is made of whole numerals, when the type of the whole numbers is the first that
    takes the text. -/
theorem Becomes.eq_int_iff (h : Becomes types s w) {i : Int} :
    w = .int i ↔ First (Takes s) types (.text "integer") ∧ ∃ cs, Whole cs i ∧ Stands cs s := by
  constructor
  · rintro rfl
    cases h with
    | made hfirst hmakes =>
        obtain ⟨rfl, hwhole⟩ := hmakes.int
        exact ⟨hfirst, _, hwhole, stands_withoutFinalBreak s⟩
  · rintro ⟨hfirst, cs, hwhole, hstands⟩
    have hmakes := h.makes hfirst
    obtain ⟨j, rfl⟩ := hmakes.of_integer
    obtain ⟨-, hmade⟩ := hmakes.int
    rw [hstands.eq (isNumeralChar_of_whole hwhole)] at hmade
    rw [hmade.unique hwhole]

/-- A number is made of fractions, when the type of the numbers is the first that takes the text. -/
theorem Becomes.eq_float_iff (h : Becomes types s w) {x : Binary64} :
    w = .float x ↔ First (Takes s) types (.text "number") ∧
      ∃ cs negative n e, Fraction cs negative n e ∧ Stands cs s ∧
        x = .ofDecimal negative n e := by
  constructor
  · rintro rfl
    cases h with
    | made hfirst hmakes =>
        obtain ⟨rfl, negative, n, e, hfraction, rfl⟩ := hmakes.float
        exact ⟨hfirst, _, negative, n, e, hfraction, stands_withoutFinalBreak s, rfl⟩
  · rintro ⟨hfirst, cs, negative, n, e, hfraction, hstands, rfl⟩
    have hmakes := h.makes hfirst
    obtain ⟨y, rfl⟩ := hmakes.of_number
    obtain ⟨-, _, _, _, hmade, rfl⟩ := hmakes.float
    rw [hstands.eq (isNumeralChar_of_fraction hfraction)] at hmade
    rw [hmade.ofDecimal_eq hfraction]

/-- **Which texts become numbers.** Where coercion returns, it has made a whole number of a text
    exactly when the first type that takes the text is that of the whole numbers and the text is a
    sign or none with decimal digits, or such a numeral with a line break behind it; the number is
    the one that the numeral denotes. It has made a fraction exactly when the first type that takes
    the text is that of the numbers and the text is a fraction, or a fraction with a line break
    behind it; it is the nearest to what the fraction denotes. A text with any other character
    before, in or behind its numeral becomes no number. -/
theorem coerceText_numeral (h : coerceText types s = .ok w) :
    (∀ i, w = .int i ↔ First (Takes s) types (.text "integer") ∧
      ∃ cs, Whole cs i ∧ Stands cs s) ∧
    ∀ x, w = .float x ↔ First (Takes s) types (.text "number") ∧
      ∃ cs negative n e, Fraction cs negative n e ∧ Stands cs s ∧
        x = .ofDecimal negative n e :=
  have hbecomes := coerceText_eq_ok.1 h
  ⟨fun _ => hbecomes.eq_int_iff, fun _ => hbecomes.eq_float_iff⟩

/-- With a point and an exponent a text is no whole numeral, so the second of the types takes it. -/
theorem coerceText_numeral_fraction :
    coerceText [.text "integer", .text "number"] "-1.5e3"
        = .ok (.float (.ofDecimal true 15 2)) ∧
      First (Takes "-1.5e3") [.text "integer", .text "number"] (.text "number") ∧
      ∃ cs negative n e, Fraction cs negative n e ∧ Stands cs "-1.5e3" ∧
        Binary64.ofDecimal true 15 2 = .ofDecimal negative n e := by
  have h : coerceText [.text "integer", .text "number"] "-1.5e3"
      = .ok (.float (.ofDecimal true 15 2)) := by
    decide +kernel
  exact ⟨h, ((coerceText_numeral h).2 _).1 rfl⟩

/-- A text that ends in a line break is no numeral, and becomes a number nevertheless. -/
theorem coerceText_line_break :
    coerceText [.text "integer"] "10\n" = .ok (.int 10) ∧ ∀ i, ¬ Whole "10\n".toList i :=
  ⟨by decide +kernel, fun _ h => absurd (isNumeralChar_of_whole h '\n' (by decide)) (by decide)⟩

/-- Other blanks are not passed over, wherever they stand. -/
example : coerceText [.text "integer"] " 10" = .ok (.text " 10") := by
  decide +kernel

end ApiRouter.Coercion
