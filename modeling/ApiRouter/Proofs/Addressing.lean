import ApiRouter.Pointer
import ApiRouter.Proofs.Numeral
import ApiRouter.Proofs.Outcome
import Mathlib.Algebra.Group.Nat.Defs

set_option autoImplicit false

/-! # Pointers address every place

Following a pointer goes from collection to collection: a segment is a key of a mapping, or the
numeral of a position in a list. Escaping takes the slashes out of the segments, so a pointer falls
apart where it was put together, and resolving the escapes gives the segments back. Every way
through mappings and lists can therefore be written down as a pointer, and the pointer leads to its
end. -/

namespace ApiRouter.Pointer

/-! ## Escapes -/

section Escapes

variable {cs part rest : List Char}

/-- A character that begins no escape stands for itself. -/
theorem unescape_plain {c : Char} (hone : ∀ rest, c = '~' → cs ≠ '1' :: rest)
    (hzero : ∀ rest, c = '~' → cs ≠ '0' :: rest) : unescape (c :: cs) = c :: unescape cs := by
  rw [unescape]
  · exact hone
  · exact hzero

theorem unescape_cons {c : Char} (hc : c ≠ '~') (cs : List Char) :
    unescape (c :: cs) = c :: unescape cs :=
  unescape_plain (fun _ h => absurd h hc) fun _ h => absurd h hc

/-- A tilde that begins no escape stands for itself. -/
theorem unescape_tilde (hone : cs.head? ≠ some '1') (hzero : cs.head? ≠ some '0') :
    unescape ('~' :: cs) = '~' :: unescape cs := by
  refine unescape_plain ?_ ?_
  · rintro rest - rfl
    exact hone rfl
  · rintro rest - rfl
    exact hzero rfl

theorem unescape_slash (cs : List Char) : unescape ('~' :: '1' :: cs) = '/' :: unescape cs := rfl

theorem unescape_mark (cs : List Char) : unescape ('~' :: '0' :: cs) = '~' :: unescape cs := rfl

theorem unescape_escape (cs : List Char) : unescape (escape cs) = cs := by
  induction cs with
  | nil => rfl
  | cons c cs ih =>
      rw [escape]
      by_cases htilde : c = '~'
      · rw [if_pos htilde, unescape_mark, ih, htilde]
      · rw [if_neg htilde]
        by_cases hslash : c = '/'
        · rw [if_pos hslash, unescape_slash, ih, hslash]
        · rw [if_neg hslash, unescape_cons htilde, ih]

theorem slash_not_mem_escape (cs : List Char) : '/' ∉ escape cs := by
  induction cs with
  | nil => exact List.not_mem_nil
  | cons c cs ih =>
      rw [escape]
      split
      · simp [ih]
      · split
        · simp [ih]
        · next hslash => simp [ih, Ne.symm hslash]

/-- The text with every tilde that `mark` follows, and the mark, replaced by one character. -/
def replaceMark (mark replacement : Char) : List Char → List Char
  | '~' :: c :: rest =>
    if c = mark then replacement :: replaceMark mark replacement rest
    else '~' :: replaceMark mark replacement (c :: rest)
  | c :: rest => c :: replaceMark mark replacement rest
  | [] => []

theorem replaceMark_cons {mark replacement c : Char} (hc : c ≠ '~') (cs : List Char) :
    replaceMark mark replacement (c :: cs) = c :: replaceMark mark replacement cs := by
  rw [replaceMark]
  intro d rest h
  exact absurd h hc

theorem replaceMark_escape (mark replacement c : Char) (rest : List Char) :
    replaceMark mark replacement ('~' :: c :: rest) =
      if c = mark then replacement :: replaceMark mark replacement rest
      else '~' :: replaceMark mark replacement (c :: rest) := rfl

theorem replaceMark_tilde {mark replacement : Char} (h : cs.head? ≠ some mark) :
    replaceMark mark replacement ('~' :: cs) = '~' :: replaceMark mark replacement cs := by
  cases cs with
  | nil => rfl
  | cons c rest => rw [replaceMark_escape, if_neg fun hc => h (congrArg some hc)]

/-- A replacement brings forth no character that it does not write. -/
theorem head?_replaceMark {mark replacement c : Char} (hc : c ≠ replacement)
    (h : (replaceMark mark replacement cs).head? = some c) : cs.head? = some c := by
  cases cs with
  | nil => exact h
  | cons d rest =>
      by_cases htilde : d = '~'
      · subst htilde
        by_cases hmark : rest.head? = some mark
        · obtain ⟨tail, rfl⟩ := List.head?_eq_some_iff.1 hmark
          rw [replaceMark_escape, if_pos rfl] at h
          exact absurd (Option.some.inj h).symm hc
        · rw [replaceMark_tilde hmark] at h
          exact h
      · rw [replaceMark_cons htilde] at h
        exact h

/-- Resolving the escapes in one go is replacing the escapes of slashes first and those of tildes
next. -/
theorem unescape_eq_replaceMark (cs : List Char) :
    unescape cs = replaceMark '0' '~' (replaceMark '1' '/' cs) := by
  induction cs using unescape.induct with
  | case1 rest ih =>
      rw [unescape_slash, replaceMark_escape, if_pos rfl, replaceMark_cons (by decide), ih]
  | case2 rest ih =>
      -- an escaped tilde is left alone by the first pass, which looks for the mark of a slash
      rw [unescape_mark, replaceMark_tilde (by simp), replaceMark_cons (c := '0') (by decide),
        replaceMark_escape, if_pos rfl, ih]
  | case3 c rest hone hzero ih =>
      by_cases hc : c = '~'
      · subst hc
        have hhead : ∀ d, (∀ tail, rest ≠ d :: tail) → rest.head? ≠ some d := by
          intro d hd hhead
          obtain ⟨tail, htail⟩ := List.head?_eq_some_iff.1 hhead
          exact hd tail htail
        -- the first pass writes slashes only, so no escaped tilde comes about by it
        have hone' := hhead '1' fun tail => hone tail rfl
        have hzero' := hhead '0' fun tail => hzero tail rfl
        rw [unescape_tilde hone' hzero', replaceMark_tilde hone',
          replaceMark_tilde fun h => hzero' (head?_replaceMark (by decide) h), ih]
      · rw [unescape_cons hc, replaceMark_cons hc, replaceMark_cons hc, ih]
  | case4 => rfl

/-- The other order would resolve an escaped tilde before a one to a slash. -/
example : unescape ['~', '0', '1'] = ['~', '1'] ∧
    replaceMark '1' '/' (replaceMark '0' '~' ['~', '0', '1']) = ['/'] := by decide

/-! ## Segments -/

theorem split_of_not_mem (h : '/' ∉ part) : Text.split '/' part = [part] := by
  induction part with
  | nil => rfl
  | cons c cs ih =>
      rw [List.mem_cons, not_or] at h
      rw [Text.split, if_neg (Ne.symm h.1), ih h.2]

theorem split_append (h : '/' ∉ part) :
    Text.split '/' (part ++ '/' :: rest) = part :: Text.split '/' rest := by
  induction part with
  | nil => rfl
  | cons c cs ih =>
      rw [List.mem_cons, not_or] at h
      rw [List.cons_append, Text.split, if_neg (Ne.symm h.1), ih h.2]

/-- Parts without slashes come back when they are joined by slashes and split again. -/
theorem split_joined {parts : List (List Char)} (hpart : '/' ∉ part)
    (hparts : ∀ p ∈ parts, '/' ∉ p) :
    Text.split '/' (part ++ parts.flatMap fun p => '/' :: p) = part :: parts := by
  induction parts generalizing part with
  | nil => rw [List.flatMap_nil, List.append_nil, split_of_not_mem hpart]
  | cons next others ih =>
      rw [List.forall_mem_cons] at hparts
      rw [List.flatMap_cons, List.cons_append, split_append hpart, ih hparts.1 hparts.2]

theorem toList_ofSegments (segments : List String) :
    (ofSegments segments).toList = '#' :: segments.flatMap fun s => '/' :: escape s.toList := by
  rw [ofSegments, String.toList_append, String.toList_join, List.flatMap_map]
  simp

/-- The segments that a pointer is made of are the segments that it has. -/
theorem segments?_ofSegments {segments : List String} (h : segments ≠ []) :
    segments? (ofSegments segments) = some segments := by
  obtain ⟨first, others, rfl⟩ := List.exists_cons_of_ne_nil h
  have hothers : ∀ p ∈ others.map fun s => escape s.toList, '/' ∉ p := by
    simp [slash_not_mem_escape]
  have hsplit := split_joined (slash_not_mem_escape first.toList) hothers
  rw [List.flatMap_map] at hsplit
  rw [segments?, toList_ofSegments, List.flatMap_cons, List.cons_append]
  simp [hsplit, unescape_escape, Function.comp_def]

end Escapes

/-! ## Steps -/

/-- A segment that the guard before an index lets pass: digits, decimal or not. -/
def IsRow (segment : String) : Prop :=
  segment ≠ "" ∧ ∀ c ∈ segment.toList, Text.isAnyDigit c = true

/-- A segment that is a numeral: decimal digits, and not too many of them. -/
def IsIndex (segment : String) : Prop :=
  segment ≠ "" ∧ (∀ c ∈ segment.toList, Text.isDecimal c = true) ∧ segment.length ≤ Text.maxDigits

instance (segment : String) : Decidable (IsRow segment) :=
  inferInstanceAs (Decidable (_ ∧ _))

instance (segment : String) : Decidable (IsIndex segment) :=
  inferInstanceAs (Decidable (_ ∧ _))

theorem IsIndex.isRow {segment : String} (h : IsIndex segment) : IsRow segment :=
  ⟨h.1, fun c hc => Text.isAnyDigit_of_isDecimal (h.2.1 c hc)⟩

theorem isIndex_repr {i : Nat} (h : i < 10 ^ Text.maxDigits) : IsIndex i.repr :=
  ⟨Nat.repr_ne_empty, fun _ hc => Text.isDecimal_of_mem_repr hc,
    (Nat.length_repr_le_iff (by decide)).2 h⟩

variable {node v w : Value} {segment : String} {segments : List String}

/-- A step into a list by all that the segment can be. -/
theorem step_list (items : List Value) (segment : String) :
    step (.list items) segment =
      if IsIndex segment then
        match items[Text.decimalNumber segment.toList]? with
        | some v => .ok (.ok v)
        | none => .ok (.error (.badIndex segment))
      else if IsRow segment then defect .badValue
      else .ok (.error (.badIndex segment)) := by
  have hguard :
      (segment.isEmpty || !segment.toList.all Text.isAnyDigit) = !decide (IsRow segment) := by
    rw [Bool.eq_iff_iff, Bool.not_eq_true', decide_eq_false_iff_not]
    simp [IsRow, imp_iff_not_or]
  simp only [step, hguard]
  by_cases hrow : IsRow segment
  · by_cases hindex : IsIndex segment
    · have hread := Text.readInt?_of_decimals hindex.1 hindex.2.1 hindex.2.2
      cases hitem : items[Text.decimalNumber segment.toList]? with
      | none => simp [hrow, hindex, hread, hitem]
      | some v => simp [hrow, hindex, hread, hitem]
    · have hread := Text.readInt?_eq_none_of_digits hrow.2 fun hboth => hindex ⟨hrow.1, hboth⟩
      simp [hrow, hindex, hread]
  · have hindex : ¬ IsIndex segment := fun h => hrow h.isRow
    simp [hrow, hindex]

/-- Where a step leads: under a key of a mapping, or to a position of a list. -/
theorem step_eq_ok :
    step node segment = .ok (.ok v) ↔
      (∃ entries, node = .map entries ∧ Entries.find? entries segment = some v) ∨
      ∃ items, node = .list items ∧ IsIndex segment ∧
        items[Text.decimalNumber segment.toList]? = some v := by
  cases node with
  | map entries =>
      rw [step]
      cases hfind : Entries.find? entries segment with
      | none => simp [hfind]
      | some w => simp [hfind]
  | list items =>
      rw [step_list]
      by_cases hindex : IsIndex segment
      · cases hitem : items[Text.decimalNumber segment.toList]? with
        | none => simp [hindex, hitem]
        | some w => simp [hindex, hitem]
      · by_cases hrow : IsRow segment
        · simp [hindex, hrow, defect]
        · simp [hindex, hrow]
  | scalar s => simp [step]
  | pair a b => simp [step]
  | set members => simp [step]
  | endless => simp [step, defect]

/-- A step that is not even refused: into a list by digits that are no numeral, or from a place from
which on nothing is written out. -/
theorem step_eq_error {e : Failure} (h : step node segment = .error e) :
    (∃ items, node = .list items ∧ IsRow segment ∧ ¬ IsIndex segment ∧ e = .defect .badValue) ∨
      node = .endless ∧ e = .defect .endless := by
  cases node with
  | map entries =>
      rw [step] at h
      split at h
      · cases h
      · cases h
  | list items =>
      rw [step_list] at h
      by_cases hindex : IsIndex segment
      · rw [if_pos hindex] at h
        split at h
        · cases h
        · cases h
      · rw [if_neg hindex] at h
        by_cases hrow : IsRow segment
        · rw [if_pos hrow] at h
          cases h
          exact .inl ⟨items, rfl, hrow, hindex, rfl⟩
        · rw [if_neg hrow] at h
          cases h
  | scalar s => cases h
  | pair a b => cases h
  | set members => cases h
  | endless =>
      cases h
      exact .inr ⟨rfl, rfl⟩

/-! ## Ways -/

/-- `Leads v segments w`: going from `v` by the segments, one after the other, ends at `w`. -/
inductive Leads : Value → List String → Value → Prop where
  | here (v : Value) : Leads v [] v
  | key {entries : Entries} {k : String} {v w : Value} {rest : List String} :
      Entries.find? entries k = some v → Leads v rest w → Leads (.map entries) (k :: rest) w
  | position {items : List Value} {numeral : String} {v w : Value} {rest : List String} :
      IsIndex numeral → items[Text.decimalNumber numeral.toList]? = some v → Leads v rest w →
        Leads (.list items) (numeral :: rest) w

theorem leads_cons {rest : List String} :
    Leads node (segment :: rest) w ↔
      ∃ v, step node segment = .ok (.ok v) ∧ Leads v rest w := by
  constructor
  · intro h
    cases h with
    | key hfind hrest => exact ⟨_, step_eq_ok.2 (.inl ⟨_, rfl, hfind⟩), hrest⟩
    | position hindex hitem hrest =>
        exact ⟨_, step_eq_ok.2 (.inr ⟨_, rfl, hindex, hitem⟩), hrest⟩
  · rintro ⟨v, hstep, hrest⟩
    rcases step_eq_ok.1 hstep with ⟨entries, rfl, hfind⟩ | ⟨items, rfl, hindex, hitem⟩
    · exact .key hfind hrest
    · exact .position hindex hitem hrest

theorem walk_eq_ok {ref : String} : walk ref node segments = .ok w ↔ Leads node segments w := by
  induction segments generalizing node with
  | nil =>
      constructor
      · intro h
        cases h
        exact .here _
      · intro h
        cases h
        rfl
  | cons segment rest ih =>
      rw [leads_cons, walk, Outcome.bind_eq_ok]
      constructor
      · rintro ⟨taken, hstep, hrest⟩
        cases taken with
        | ok v => exact ⟨v, hstep, ih.1 hrest⟩
        | error o => cases hrest
      · rintro ⟨v, hstep, hrest⟩
        exact ⟨.ok v, hstep, ih.2 hrest⟩

/-- A pointer is followed to where its segments lead. -/
theorem follow_eq_ok {root : Value} {r : String} :
    follow root r = .ok w ↔ ∃ segments, segments? r = some segments ∧ Leads root segments w := by
  rw [follow]
  cases hsegments : segments? r with
  | none => simp [fail]
  | some segments => simp [walk_eq_ok]

/-! ## Why a pointer cannot be followed -/

/-- The failure reports that the pointer leads out of the document, or what stands in its way. -/
def IsReportOn (r : String) (e : Failure) : Prop :=
  segments? r = none ∧ e = .report .specParse ("External $ref not supported: " ++ r ++
      ". Definitions must live in the same document.") ∨
    ∃ o : Obstacle, e = .report .specParse ("Cannot resolve $ref '" ++ r ++ "': " ++ o.message)

/-- On the way of the pointer digits that are no numeral stand for a position in a list. -/
def HasUnreadableIndex (root : Value) (r : String) : Prop :=
  ∃ before segment after items, segments? r = some (before ++ segment :: after) ∧
    Leads root before (.list items) ∧ IsRow segment ∧ ¬ IsIndex segment

/-- Following segments ends with a report, or with the step that is not even refused. -/
theorem walk_eq_error {r : String} {e : Failure} (h : walk r node segments = .error e) :
    (∃ o : Obstacle, e = .report .specParse ("Cannot resolve $ref '" ++ r ++ "': " ++ o.message)) ∨
      ∃ before segment after v, segments = before ++ segment :: after ∧ Leads node before v ∧
        step v segment = .error e := by
  induction segments generalizing node with
  | nil => cases h
  | cons segment rest ih =>
      rw [walk] at h
      rcases Outcome.bind_eq_error.1 h with hstep | ⟨taken, hstep, hrest⟩
      · exact .inr ⟨[], segment, rest, node, rfl, .here node, hstep⟩
      · cases taken with
        | error o =>
            cases hrest
            exact .inl ⟨o, rfl⟩
        | ok v =>
            rcases ih hrest with hreport | ⟨before, later, after, w, rfl, hleads, hlater⟩
            · exact .inl hreport
            · exact .inr ⟨segment :: before, later, after, w, rfl, leads_cons.2 ⟨v, hstep, hleads⟩,
                hlater⟩

/-- A pointer that cannot be followed is reported, but for two cases: it asks for a position by
digits that are no numeral, or it leads to where nothing is written out. -/
theorem follow_eq_error {root : Value} {r : String} {e : Failure} (h : follow root r = .error e) :
    IsReportOn r e ∨ e = .defect .badValue ∧ HasUnreadableIndex root r ∨
      e = .defect .endless ∧ ∃ segments, Leads root segments .endless := by
  rw [follow] at h
  split at h
  · next segments hsegments =>
      rcases walk_eq_error h with hreport | ⟨before, segment, after, v, rfl, hleads, hstep⟩
      · exact .inl (.inr hreport)
      · rcases step_eq_error hstep with ⟨items, rfl, hrow, hindex, rfl⟩ | ⟨rfl, rfl⟩
        · exact .inr (.inl ⟨rfl, before, segment, after, items, hsegments, hleads, hrow, hindex⟩)
        · exact .inr (.inr ⟨rfl, before, hleads⟩)
  · next hsegments =>
      cases h
      exact .inl (.inl ⟨hsegments, rfl⟩)

/-! ## Places and their pointers -/

/-- One turn on the way to a place: a key of a mapping, or a position in a list. -/
inductive Turn where
  | key (k : String)
  | position (i : Nat)
  deriving DecidableEq, Repr

/-- What stands for the turn in a pointer before it is escaped. A position is written in decimal. -/
def Turn.text : Turn → String
  | .key k => k
  | .position i => i.repr

/-- The value at the end of a way through mappings and lists, if there is that way. -/
def at? : Value → List Turn → Option Value
  | v, [] => some v
  | .map entries, .key k :: rest =>
    match Entries.find? entries k with
    | some v => at? v rest
    | none => none
  | .list items, .position i :: rest =>
    match items[i]? with
    | some v => at? v rest
    | none => none
  | _, _ :: _ => none

/-- The turns of a way lead to its end when its positions can be read. -/
theorem leads_of_at? {way : List Turn} (h : at? node way = some w)
    (hpositions : ∀ i, .position i ∈ way → i < 10 ^ Text.maxDigits) :
    Leads node (way.map Turn.text) w := by
  induction way generalizing node with
  | nil =>
      rw [at?] at h
      cases h
      exact .here _
  | cons turn rest ih =>
      have hrest : ∀ i, .position i ∈ rest → i < 10 ^ Text.maxDigits :=
        fun i hi => hpositions i (List.mem_cons_of_mem _ hi)
      cases turn with
      | key k =>
          cases node with
          | map entries =>
              rw [at?] at h
              split at h
              · next v hfind => exact .key hfind (ih h hrest)
              · cases h
          | scalar | list | pair | set | endless => cases h
      | position i =>
          cases node with
          | list items =>
              rw [at?] at h
              split at h
              · next v hitem =>
                  have hi := hpositions i (List.mem_cons_self ..)
                  refine .position (isIndex_repr hi) ?_ (ih h hrest)
                  rw [Turn.text, Text.decimalNumber_repr, hitem]
              · cases h
          | scalar | map | pair | set | endless => cases h

/-- The pointer that is put together from the turns of a way leads to the end of that way, whatever
the keys on it are. The positions are bounded by the longest numeral only, and no list that a
machine can hold comes near it. -/
theorem follow_ofSegments {root : Value} {way : List Turn} (h : at? root way = some w)
    (hway : way ≠ []) (hpositions : ∀ i, .position i ∈ way → i < 10 ^ Text.maxDigits) :
    follow root (ofSegments (way.map Turn.text)) = .ok w := by
  have hsegments : way.map Turn.text ≠ [] := by simpa using hway
  exact follow_eq_ok.2 ⟨_, segments?_ofSegments hsegments, leads_of_at? h hpositions⟩

/-- A document whose keys look like everything but keys. -/
def oddities : Value :=
  .object [("", .list [.null,
    .object [("~1", .object [("10", .object [("a/b~0", .text "here")])])]])]

/-- The way to the text in it. -/
def oddWay : List Turn :=
  [.key "", .position 1, .key "~1", .key "10", .key "a/b~0"]

theorem follow_oddWay :
    at? oddities oddWay = some (.text "here") ∧ oddWay ≠ [] ∧
      (∀ i, .position i ∈ oddWay → i < 10 ^ Text.maxDigits) ∧
      ofSegments (oddWay.map Turn.text) = "#//1/~01/10/a~1b~00" ∧
      follow oddities "#//1/~01/10/a~1b~00" = .ok (.text "here") := by
  have hat : at? oddities oddWay = some (.text "here") := by decide
  have hpositions : ∀ i, .position i ∈ oddWay → i < 10 ^ Text.maxDigits := by
    intro i hi
    have hone : i = 1 := by simpa [oddWay] using hi
    rw [hone]
    exact Nat.one_lt_pow (by decide) (by decide)
  have hpointer : ofSegments (oddWay.map Turn.text) = "#//1/~01/10/a~1b~00" := by decide
  have hfollow := follow_ofSegments hat (by decide) hpositions
  rw [hpointer] at hfollow
  exact ⟨hat, by decide, hpositions, hpointer, hfollow⟩

end ApiRouter.Pointer
