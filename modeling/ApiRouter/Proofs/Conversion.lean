import ApiRouter.Proofs.CoercedValues
import ApiRouter.Proofs.Numeral

set_option autoImplicit false

/-! # What cannot be converted

A text that a numeric type takes has the form of a numeral, and is read as one, with a single
exception: a whole number of too many digits has no value. Coercion fails exactly where such a text
is to become a whole number; any other value that no type makes something of stays as it is. -/

namespace ApiRouter.Coercion

variable {s : String} {cs : List Char} {t v : Value} {types ts : List Value} {schema : Schema}
  {failure : Failure}

/-! ## The characters of numerals -/

/-- Whether a character stands in numerals. -/
def isNumeralChar (c : Char) : Bool :=
  Text.isDecimal c || ['-', '+', '.', 'e', 'E'].contains c

theorem isNumeralChar_of_isDecimal {c : Char} (h : Text.isDecimal c = true) :
    isNumeralChar c = true := by
  rw [isNumeralChar, h, Bool.true_or]

theorem isBlank_of_isNumeralChar {c : Char} (h : isNumeralChar c = true) :
    Text.isBlank c = false := by
  have hmarks : (['-', '+', '.', 'e', 'E'].all fun c => !Text.isBlank c) = true := by decide
  rw [isNumeralChar, Bool.or_eq_true] at h
  rcases h with h | h
  · exact Text.isBlank_of_isAnyDigit (Text.isAnyDigit_of_isDecimal h)
  · simpa using List.all_eq_true.1 hmarks c (List.contains_iff_mem.1 h)

theorem withoutFinalBreak_cases (cs : List Char) :
    cs = withoutFinalBreak cs ∨ cs = withoutFinalBreak cs ++ ['\n'] := by
  unfold withoutFinalBreak
  split
  · next rest hrest =>
      right
      rw [← List.reverse_reverse cs, hrest, List.reverse_cons]
  · exact .inl rfl

theorem withoutSign_cases (cs : List Char) :
    cs = withoutSign cs ∨ ∃ c, isNumeralChar c = true ∧ cs = c :: withoutSign cs := by
  unfold withoutSign
  split
  · exact .inr ⟨'-', by decide, rfl⟩
  · exact .inr ⟨'+', by decide, rfl⟩
  · exact .inl rfl

theorem isNumeralChar_of_withoutSign (h : ∀ c ∈ withoutSign cs, isNumeralChar c = true) :
    ∀ c ∈ cs, isNumeralChar c = true := by
  rcases withoutSign_cases cs with hcs | ⟨sign, hsign, hcs⟩
  · rwa [hcs]
  · rw [hcs]
    exact List.forall_mem_cons.2 ⟨hsign, h⟩

theorem readSign_snd (cs : List Char) : (Text.readSign cs).2 = withoutSign cs := by
  unfold Text.readSign
  split
  · rfl
  · rfl
  · next hminus hplus => rw [withoutSign.eq_3 cs hminus hplus]

/-- Trimming a numeral takes off the line break behind it, and no underscore stands in it. -/
theorem joinUnderscores_trim (h : ∀ c ∈ withoutFinalBreak cs, isNumeralChar c = true) :
    Text.joinUnderscores (Text.trim cs) = some (withoutFinalBreak cs) := by
  have htrimmed : Text.IsTrimmed (withoutFinalBreak cs) :=
    Text.isTrimmed_of_forall fun c hc => isBlank_of_isNumeralChar (h c hc)
  have htrim : Text.trim cs = withoutFinalBreak cs := by
    rcases withoutFinalBreak_cases cs with hcs | hcs
    · rw [← hcs] at htrimmed ⊢
      exact Text.trim_eq_self htrimmed
    · have hbetween : Text.trim ([] ++ withoutFinalBreak cs ++ ['\n']) = withoutFinalBreak cs :=
        Text.trim_between htrimmed (by simp) (List.forall_mem_singleton.2 (by decide))
      rwa [List.nil_append, ← hcs] at hbetween
  rw [htrim]
  exact Text.joinUnderscores_of_not_mem fun hmark => absurd (h _ hmark) (by decide)

/-! ## Whole numbers -/

/-- What stands in a text between a sign and a line break at the end. -/
def unsigned (s : String) : List Char :=
  withoutSign (withoutFinalBreak s.toList)

theorem isDigits_iff : isDigits cs = true ↔ cs ≠ [] ∧ ∀ c ∈ cs, Text.isDecimal c = true := by
  simp [isDigits]

/-- A row of digits has no sign to take off, and no line break. -/
theorem unsigned_ofList (h : ∀ c ∈ cs, Text.isDecimal c = true) :
    unsigned (String.ofList cs) = cs := by
  have hbreak : withoutFinalBreak cs = cs := by
    rcases withoutFinalBreak_cases cs with hcs | hcs
    · exact hcs.symm
    · have hmem : '\n' ∈ cs := by
        rw [hcs]
        exact List.mem_append_right _ (List.mem_singleton_self _)
      exact absurd (h _ hmem) (by decide)
  have hsign := Text.readSign_of_digits fun c hc => Text.isAnyDigit_of_isDecimal (h c hc)
  rw [unsigned, String.toList_ofList, hbreak, ← readSign_snd, hsign]

/-- A whole number is read unless it has too many digits. -/
theorem readInt?_eq_none_iff (h : isInteger s = true) :
    Text.readInt? s = none ↔ Text.maxDigits < (unsigned s).length := by
  rw [isInteger, isDigits_iff] at h
  obtain ⟨hne, hall⟩ := h
  have hchars : ∀ c ∈ withoutFinalBreak s.toList, isNumeralChar c = true :=
    isNumeralChar_of_withoutSign fun c hc => isNumeralChar_of_isDecimal (hall c hc)
  rw [Text.readInt?, joinUnderscores_trim hchars, unsigned]
  simp only [readSign_snd, Text.readDigits_eq]
  rw [List.takeWhile_eq_self_iff.2 hall, List.dropWhile_eq_nil_iff.2 hall]
  cases hdigits : withoutSign (withoutFinalBreak s.toList) with
  | nil => exact absurd hdigits hne
  | cons c rest => simp

/-! ## Fractions -/

/-- A row of characters is digits when it does not end before its first digit, nor go on behind its
    last. -/
theorem isDigits_eq (cs : List Char) : isDigits cs =
    (!(cs.takeWhile Text.isDecimal).isEmpty && (cs.dropWhile Text.isDecimal).isEmpty) := by
  rw [Bool.eq_iff_iff, isDigits_iff]
  constructor
  · rintro ⟨hne, hall⟩
    rw [List.takeWhile_eq_self_iff.2 hall, List.dropWhile_eq_nil_iff.2 hall]
    simpa using hne
  · intro h
    simp only [Bool.and_eq_true, Bool.not_eq_true', List.isEmpty_iff] at h
    have hall := List.dropWhile_eq_nil_iff.1 h.2
    rw [List.takeWhile_eq_self_iff.2 hall] at h
    exact ⟨by simpa using h.1, hall⟩

theorem isSome_readExponent? (cs : List Char) :
    (Text.readExponent? cs).isSome = isExponent cs := by
  cases cs with
  | nil => rfl
  | cons c rest =>
      rw [Text.readExponent?, isExponent]
      by_cases hmark : (c == 'e' || c == 'E') = true
      · rw [if_pos hmark, hmark, Bool.true_and, isDigits_eq]
        simp only [readSign_snd, Text.readDigits_eq]
        cases (withoutSign rest).takeWhile Text.isDecimal with
        | nil => rfl
        | cons d ds =>
            cases (withoutSign rest).dropWhile Text.isDecimal with
            | nil => rfl
            | cons e es => rfl
      · rw [if_neg hmark, Bool.eq_false_iff.2 hmark]
        rfl

theorem isFraction_of_point {rest : List Char} (h : cs.dropWhile Text.isDecimal = '.' :: rest) :
    isFraction cs = (!((cs.takeWhile Text.isDecimal).isEmpty &&
      (rest.takeWhile Text.isDecimal).isEmpty) && isExponent (rest.dropWhile Text.isDecimal)) := by
  rw [isFraction, h]
  rfl

theorem isFraction_of_no_point (h : ¬ ∃ rest, cs.dropWhile Text.isDecimal = '.' :: rest) :
    isFraction cs =
      (!(cs.takeWhile Text.isDecimal).isEmpty && isExponent (cs.dropWhile Text.isDecimal)) := by
  unfold isFraction
  split
  · next rest hrest => exact absurd ⟨rest, hrest⟩ h
  · rfl

theorem isSome_readFraction? (negative : Bool) (cs : List Char) :
    (Text.readFraction? negative cs).isSome = isFraction cs := by
  have hguarded (bare : Bool) (f : Int → Binary64) (cs : List Char) :
      (if bare = true then none else (Text.readExponent? cs).map f).isSome
        = (!bare && isExponent cs) := by
    cases bare with
    | true => rfl
    | false => exact Option.isSome_map.trans (isSome_readExponent? cs)
  by_cases hpoint : ∃ rest, cs.dropWhile Text.isDecimal = '.' :: rest
  · obtain ⟨rest, hrest⟩ := hpoint
    rw [isFraction_of_point hrest, Text.readFraction?]
    simp only [Text.readDigits_eq, hrest]
    rw [hguarded, List.isEmpty_map, List.isEmpty_map]
  · rw [isFraction_of_no_point hpoint, Text.readFraction?]
    simp only [Text.readDigits_eq]
    split
    · next rest hrest => exact absurd ⟨rest, hrest⟩ hpoint
    · rw [hguarded, List.isEmpty_map, List.isEmpty_nil, Bool.and_true]

theorem isNumeralChar_of_isExponent (h : isExponent cs = true) :
    ∀ c ∈ cs, isNumeralChar c = true := by
  cases cs with
  | nil => simp
  | cons c rest =>
      rw [isExponent, Bool.and_eq_true] at h
      obtain ⟨hmark, hdigits⟩ := h
      have hc : isNumeralChar c = true := by
        rcases Bool.or_eq_true_iff.1 hmark with he | he
        · rw [beq_iff_eq.1 he]
          decide
        · rw [beq_iff_eq.1 he]
          decide
      exact List.forall_mem_cons.2 ⟨hc, isNumeralChar_of_withoutSign fun d hd =>
        isNumeralChar_of_isDecimal ((isDigits_iff.1 hdigits).2 d hd)⟩

theorem isNumeralChar_of_isFraction (h : isFraction cs = true) :
    ∀ c ∈ cs, isNumeralChar c = true := by
  -- digits, and what is behind them
  have hdigits (cs : List Char)
      (hrest : ∀ c ∈ cs.dropWhile Text.isDecimal, isNumeralChar c = true) :
      ∀ c ∈ cs, isNumeralChar c = true := by
    rw [← List.takeWhile_append_dropWhile (p := Text.isDecimal) (l := cs)]
    exact List.forall_mem_append.2
      ⟨fun c hc => isNumeralChar_of_isDecimal (List.mem_takeWhile_imp hc), hrest⟩
  rw [isFraction] at h
  refine hdigits cs ?_
  split at h
  · next rest hrest =>
      rw [hrest]
      rw [Bool.and_eq_true] at h
      exact List.forall_mem_cons.2
        ⟨by decide, hdigits rest (isNumeralChar_of_isExponent h.2)⟩
  · rw [Bool.and_eq_true] at h
    exact isNumeralChar_of_isExponent h.2

/-- A fraction is always read. -/
theorem exists_readFloat? (h : isNumber s = true) : ∃ x, Text.readFloat? s = some x := by
  have hchars := isNumeralChar_of_withoutSign (isNumeralChar_of_isFraction h)
  have hfraction := isSome_readFraction? (Text.readSign (withoutFinalBreak s.toList)).1
    (withoutSign (withoutFinalBreak s.toList))
  rw [← isNumber, h] at hfraction
  rw [Text.readFloat?, joinUnderscores_trim hchars]
  simp only [readSign_snd]
  split
  · exact ⟨_, rfl⟩
  · split
    · exact ⟨_, rfl⟩
    · exact Option.isSome_iff_exists.1 hfraction

/-! ## Where coercion fails -/

/-- The text is to become a whole number, and has too many digits for it. -/
structure IsOverlong (types : List Value) (s : String) : Prop where
  whole : First (Takes s) types (.text "integer")
  digits : Text.maxDigits < (unsigned s).length

theorem isInteger_of_takes (h : Takes s (.text "integer")) : isInteger s = true := by
  generalize htype : Value.text "integer" = t at h
  cases h with
  | integer hs => exact hs
  | string | number | boolean | null => simp at htype

/-- A type fails on the whole numbers that it takes but cannot read. -/
theorem coerceTo_eq_error : coerceTo t s = .error failure ↔
    (t = .text "integer" ∧ isInteger s = true ∧ Text.maxDigits < (unsigned s).length) ∧
      failure = .defect .badValue := by
  constructor
  · intro h
    unfold coerceTo at h
    split at h
    · cases h
    · split at h
      · next hs =>
          split at h
          · cases h
          · next hnone =>
              cases h
              exact ⟨⟨rfl, hs, (readInt?_eq_none_iff hs).1 hnone⟩, rfl⟩
      · cases h
    · split at h
      · next hs =>
          obtain ⟨x, hx⟩ := exists_readFloat? hs
          rw [hx] at h
          cases h
      · cases h
    · split at h
      · cases h
      · split at h
        · cases h
        · cases h
    · cases h
    · cases h
  · rintro ⟨⟨rfl, hs, hlong⟩, rfl⟩
    have hnone := (readInt?_eq_none_iff hs).2 hlong
    simp [coerceTo, hs, hnone, defect]

theorem coerceText_eq_error :
    coerceText types s = .error failure ↔ IsOverlong types s ∧ failure = .defect .badValue := by
  -- by induction on the types: the first takes the text, or it is passed over
  induction types with
  | nil =>
      constructor
      · intro h
        cases h
      · rintro ⟨⟨hfirst, -⟩, -⟩
        cases hfirst
  | cons t rest ih =>
      rw [coerceText, Outcome.bind_eq_error, coerceTo_eq_error]
      constructor
      · rintro (⟨⟨rfl, hs, hlong⟩, rfl⟩ | ⟨made, ht, h⟩)
        · exact ⟨⟨.here (.integer hs), hlong⟩, rfl⟩
        · cases made with
          | some w => cases h
          | none =>
              obtain ⟨⟨hfirst, hlong⟩, rfl⟩ := ih.1 h
              exact ⟨⟨.later (coerceTo_eq_none ht) hfirst, hlong⟩, rfl⟩
      · rintro ⟨⟨hfirst, hlong⟩, rfl⟩
        cases hfirst with
        | here htakes => exact .inl ⟨⟨rfl, isInteger_of_takes htakes, hlong⟩, rfl⟩
        | later hnot hfirst =>
            exact .inr ⟨none, coerceTo_of_not_takes hnot, ih.2 ⟨⟨hfirst, hlong⟩, rfl⟩⟩

theorem coerceItem_eq_error : coerceItem types v = .error failure ↔
    (∃ s, v = .text s ∧ IsOverlong types s) ∧ failure = .defect .badValue := by
  unfold coerceItem
  split
  · next s =>
      rw [coerceText_eq_error]
      constructor
      · rintro ⟨hlong, rfl⟩
        exact ⟨⟨s, rfl, hlong⟩, rfl⟩
      · rintro ⟨⟨s', hs, hlong⟩, rfl⟩
        cases hs
        exact ⟨hlong, rfl⟩
  · next hnot =>
      constructor
      · intro h
        cases h
      · rintro ⟨⟨s, rfl, -⟩, -⟩
        exact absurd rfl (hnot s)

/-- A value under a property of the given types holds an overlong text: it is one, or one of its
    items is. -/
inductive HoldsOverlong (types : List String) (items : Value) : Value → Prop where
  | text {s : String} : IsOverlong (types.map .text) s → HoldsOverlong types items (.text s)
  | item {s : String} {vs ts : List Value} : "array" ∈ types → ItemTypes items ts →
      .text s ∈ vs → IsOverlong ts s → HoldsOverlong types items (.list vs)

theorem coerceValue_eq_error {types : List String} {items : Value} :
    coerceValue types items v = .error failure ↔
      HoldsOverlong types items v ∧ failure = .defect .badValue := by
  unfold coerceValue
  split
  · next vs =>
      split
      · next ts harray hitems =>
          have harray : "array" ∈ types := by simpa using harray
          have hitems := itemTypes?_eq_some.1 hitems
          rw [Outcome.map_eq_error, Outcome.mapM_eq_error fun x e => coerceItem_eq_error]
          refine and_congr_left fun _ => ⟨?_, ?_⟩
          · rintro ⟨_, hmem, s, rfl, hlong⟩
            exact .item harray hitems hmem hlong
          · intro h
            cases h with
            | item _ hitems' hmem hlong =>
                cases (itemTypes?_eq_some.2 hitems).symm.trans (itemTypes?_eq_some.2 hitems')
                exact ⟨_, hmem, _, rfl, hlong⟩
      · next hnone =>
          constructor
          · intro h
            cases h
          · rintro ⟨h, -⟩
            cases h with
            | item harray hitems =>
                exact absurd (itemTypes?_eq_some.2 hitems) (hnone _ (by simpa using harray))
  · next hlist =>
      rw [coerceItem_eq_error]
      refine and_congr_left fun _ => ⟨?_, ?_⟩
      · rintro ⟨s, rfl, hlong⟩
        exact .text hlong
      · intro h
        cases h with
        | text hlong => exact ⟨_, rfl, hlong⟩
        | item => exact absurd rfl (hlist _)

/-- The value under a name is one that the property of the name cannot convert. -/
def EntryOverlong (schema : Schema) (e : Scalar × Value) : Prop :=
  ∃ types items, Declares schema e.1 types items ∧ HoldsOverlong types items e.2

theorem coerceEntry_eq_error {name : String} : coerceEntry schema name v = .error failure ↔
    EntryOverlong schema (.text name, v) ∧ failure = .defect .badValue := by
  unfold coerceEntry
  split
  · next p hp =>
      split
      · next types htypes =>
          have hdeclared : Declares schema (.text name) types p.constraints.items :=
            ⟨name, p, rfl, hp, htypes, rfl⟩
          rw [coerceValue_eq_error]
          refine and_congr_left fun _ => ⟨fun h => ⟨_, _, hdeclared, h⟩, ?_⟩
          rintro ⟨types', items', hdeclared', h⟩
          obtain ⟨rfl, rfl⟩ := hdeclared.unique hdeclared'
          exact h
      · next htypes =>
          constructor
          · intro h
            cases h
          · rintro ⟨⟨_, _, ⟨_, p', hs, hp', htypes', -⟩, -⟩, -⟩
            cases hs
            cases hp.symm.trans hp'
            cases htypes.symm.trans htypes'
  · next hp =>
      constructor
      · intro h
        cases h
      · rintro ⟨⟨_, _, ⟨_, p', hs, hp', -, -⟩, -⟩, -⟩
        cases hs
        cases hp.symm.trans hp'

theorem coerceMapping_eq_error {entries : Entries} :
    coerceMapping (.map entries) schema = .error failure ↔
      (∃ e ∈ entries, EntryOverlong schema e) ∧ failure = .defect .badValue := by
  rw [coerceMapping, Outcome.map_eq_error]
  refine Outcome.mapM_eq_error fun e failure => ?_
  obtain ⟨k, v⟩ := e
  dsimp only
  split
  · next name => rw [Outcome.map_eq_error, coerceEntry_eq_error]
  · next hname =>
      -- a key that is no text is the name of no property
      constructor
      · intro h
        cases h
      · rintro ⟨⟨_, _, ⟨s, _, hs, _⟩, -⟩, -⟩
        exact absurd hs (hname s)

/-- Coercing a mapping either makes of every value what the property of its name makes of it, a
    value that no type takes staying as it is, or fails for a value; and it fails exactly when under
    a declared property a text with too many digits is to become a whole number. -/
theorem coerceMapping_cases (entries : Entries) (schema : Schema) :
    (∃ coerced, coerceMapping (.map entries) schema = .ok (.map coerced) ∧
        List.Forall₂ (EntryBecomes schema) entries coerced ∧
        ∀ e ∈ entries, ¬ EntryOverlong schema e) ∨
      coerceMapping (.map entries) schema = defect .badValue ∧
        ∃ e ∈ entries, EntryOverlong schema e := by
  cases hcoerced : coerceMapping (.map entries) schema with
  | ok result =>
      obtain ⟨entries', coerced, hentries, rfl, hbecomes⟩ := coerceMapping_eq_ok.1 hcoerced
      cases hentries
      refine .inl ⟨coerced, rfl, hbecomes, fun e he hlong => ?_⟩
      have hfails : coerceMapping (.map entries) schema = .error (.defect .badValue) :=
        coerceMapping_eq_error.2 ⟨⟨e, he, hlong⟩, rfl⟩
      cases hcoerced.symm.trans hfails
  | error failure =>
      obtain ⟨hlong, rfl⟩ := coerceMapping_eq_error.1 hcoerced
      exact .inr ⟨rfl, hlong⟩

/-- A limit with one digit too many is not left as it is: coercion fails. -/
theorem coerceMapping_overlong :
    ∃ schema, Schema.ofEntries [(.text "properties", .object [
        ("limit", .object [("type", .text "integer")])])] = .ok schema ∧
      coerceMapping (.object [("limit",
        .text (String.ofList (List.replicate 4301 '1')))]) schema = defect .badValue := by
  have hlimit : (Schema.ofEntries [(.text "properties", .object [
      ("limit", .object [("type", .text "integer")])])]).toOption.map
        (fun schema => (Ordered.find? schema.properties "limit").map fun p =>
          (p.constraints.types, p.constraints.items)) =
      some (some (some ["integer"], .null)) := by
    decide +kernel
  obtain ⟨schema, hschema, hlimit⟩ := Outcome.exists_of_toOption_map hlimit
  obtain ⟨p, hp, hparts⟩ := Option.map_eq_some_iff.1 hlimit
  obtain ⟨htypes, hitems⟩ := Prod.mk.inj hparts
  have hdecimal : ∀ c ∈ List.replicate 4301 '1', Text.isDecimal c = true := by
    intro c hc
    rw [List.eq_of_mem_replicate hc]
    decide
  have hunsigned := unsigned_ofList hdecimal
  have hwhole : isInteger (String.ofList (List.replicate 4301 '1')) = true := by
    rw [isInteger, ← unsigned, hunsigned]
    refine isDigits_iff.2 ⟨List.ne_nil_of_length_pos ?_, hdecimal⟩
    rw [List.length_replicate]
    decide
  have hlong : HoldsOverlong ["integer"] .null
      (.text (String.ofList (List.replicate 4301 '1'))) := by
    refine .text ⟨.here (.integer hwhole), ?_⟩
    rw [hunsigned, List.length_replicate]
    decide
  exact ⟨schema, hschema, coerceMapping_eq_error.2
    ⟨⟨_, List.mem_singleton_self _, _, _, ⟨_, p, rfl, hp, htypes, hitems⟩, hlong⟩, rfl⟩⟩

end ApiRouter.Coercion
