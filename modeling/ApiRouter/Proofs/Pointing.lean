import ApiRouter.Proofs.References
import ApiRouter.Proofs.Trimming
import ApiRouter.Schema.Registry

set_option autoImplicit false

/-! # Two ways to follow a pointer

Checking and inlining follow pointers each in its own way. Checking resolves percent escapes in the
whole pointer, the escapes of a segment only when it is a key, and takes any numeral as an index,
even into a pair or a text; inlining resolves the escapes of all segments first, and takes a row of
digits only as an index, and only into a list. A pointer without percent signs, in which numerals
are rows of digits, leads inlining to every mapping that it leads checking to.

Resolving percent escapes goes through the bytes of a text. Decoding undoes encoding, so a text that
has no percent sign comes out as it went in. -/

namespace ApiRouter.Text.Utf8

variable {payload low high count b : Nat} {rest : List Nat}

/-! ## Decoding texts, step by step -/

/-- A first byte that more bytes have to follow. -/
theorem decodeFrom_first (h : lead? b = some (payload, ⟨count + 1, low, high⟩)) :
    decodeFrom .between (b :: rest) = decodeFrom (.inside payload ⟨count + 1, low, high⟩) rest := by
  rw [decodeFrom, h]
  rfl

/-- A byte in the middle of a character. -/
theorem decodeFrom_middle (hlow : low ≤ b) (hhigh : b ≤ high) :
    decodeFrom (.inside payload ⟨count + 2, low, high⟩) (b :: rest)
      = decodeFrom (.inside (payload * 64 + (b - 0x80)) ⟨count + 1, 0x80, 0xBF⟩) rest := by
  rw [decodeFrom, if_pos (by simp [hlow, hhigh])]
  rfl

/-- The last byte of a character. -/
theorem decodeFrom_last (hlow : low ≤ b) (hhigh : b ≤ high) :
    decodeFrom (.inside payload ⟨1, low, high⟩) (b :: rest)
      = some (Char.ofNat (payload * 64 + (b - 0x80))) :: decodeFrom .between rest := by
  rw [decodeFrom, if_pos (by simp [hlow, hhigh])]
  rfl

/-! ## Decoding undoes encoding -/

section Lead

variable {n : Nat}

/-- The first of two bytes. -/
theorem lead?_two (hlow : 0x80 ≤ n) (hhigh : n < 0x800) :
    lead? (0xC0 + n / 64) = some (n / 64, ⟨1, 0x80, 0xBF⟩) := by
  rw [lead?, if_neg (by omega), if_pos (by simp; omega), Nat.add_sub_cancel_left]

/-- The first of three bytes, and the range that the second one is in. -/
theorem lead?_three (hlow : 0x800 ≤ n) (hhigh : n < 0x10000)
    (hvalid : n < 0xD800 ∨ 0xDFFF < n) :
    ∃ low high, lead? (0xE0 + n / 4096) = some (n / 4096, ⟨2, low, high⟩) ∧
      low ≤ 0x80 + n / 64 % 64 ∧ 0x80 + n / 64 % 64 ≤ high := by
  rw [lead?, if_neg (by omega), if_neg (by simp; omega)]
  by_cases hzero : n / 4096 = 0
  · exact ⟨0xA0, 0xBF, by rw [hzero]; rfl, by omega, by omega⟩
  · rw [if_neg (by simp; omega)]
    by_cases hlast : n / 4096 = 0xD
    · exact ⟨0x80, 0x9F, by rw [hlast]; rfl, by omega, by omega⟩
    · refine ⟨0x80, 0xBF, ?_, by omega, by omega⟩
      rw [if_neg (by simp; omega), if_pos (by simp; omega), Nat.add_sub_cancel_left]

/-- The first of four bytes, and the range that the second one is in. -/
theorem lead?_four (hlow : 0x10000 ≤ n) (hhigh : n < 0x110000) :
    ∃ low high, lead? (0xF0 + n / 262144) = some (n / 262144, ⟨3, low, high⟩) ∧
      low ≤ 0x80 + n / 4096 % 64 ∧ 0x80 + n / 4096 % 64 ≤ high := by
  rw [lead?, if_neg (by omega), if_neg (by simp; omega), if_neg (by simp; omega),
    if_neg (by simp; omega), if_neg (by simp; omega)]
  by_cases hzero : n / 262144 = 0
  · exact ⟨0x90, 0xBF, by rw [hzero]; rfl, by omega, by omega⟩
  · rw [if_neg (by simp; omega)]
    by_cases hlast : n / 262144 = 4
    · exact ⟨0x80, 0x8F, by rw [hlast]; rfl, by omega, by omega⟩
    · refine ⟨0x80, 0xBF, ?_, by omega, by omega⟩
      rw [if_pos (by simp; omega), Nat.add_sub_cancel_left]

end Lead

/-- The bytes of a character are decoded to it. -/
theorem decodeFrom_encodeChar (c : Char) (rest : List Nat) :
    decodeFrom .between (encodeChar c ++ rest) = some c :: decodeFrom .between rest := by
  have hvalid : c.toNat < 0xD800 ∨ 0xDFFF < c.toNat ∧ c.toNat < 0x110000 := c.valid
  have hback : Char.ofNat c.toNat = c := Char.ofNat_toNat c
  rw [encodeChar]
  generalize c.toNat = n at hvalid hback
  split
  · next hone =>
      have hlead : lead? n = some (n, ⟨0, 0x80, 0xBF⟩) := by rw [lead?, if_pos hone]
      rw [List.singleton_append, decodeFrom, hlead]
      simp only [hback]
      rfl
  · split
    · next hone htwo =>
        have hsum : n / 64 * 64 + (0x80 + n % 64 - 0x80) = n := by omega
        rw [List.cons_append, decodeFrom_first (lead?_two (by omega) htwo), List.singleton_append,
          decodeFrom_last (by omega) (by omega), hsum, hback]
    · split
      · next hone htwo hthree =>
          obtain ⟨low, high, hlead, hlow, hhigh⟩ := lead?_three (by omega) hthree (by omega)
          have hsum : (n / 4096 * 64 + (0x80 + n / 64 % 64 - 0x80)) * 64
              + (0x80 + n % 64 - 0x80) = n := by omega
          rw [List.cons_append, decodeFrom_first hlead, List.cons_append,
            decodeFrom_middle hlow hhigh, List.singleton_append,
            decodeFrom_last (by omega) (by omega), hsum, hback]
      · next hone htwo hthree =>
          obtain ⟨low, high, hlead, hlow, hhigh⟩ := lead?_four (n := n) (by omega) (by omega)
          have hsum : ((n / 262144 * 64 + (0x80 + n / 4096 % 64 - 0x80)) * 64
              + (0x80 + n / 64 % 64 - 0x80)) * 64 + (0x80 + n % 64 - 0x80) = n := by omega
          rw [List.cons_append, decodeFrom_first hlead, List.cons_append,
            decodeFrom_middle hlow hhigh, List.cons_append,
            decodeFrom_middle (by omega) (by omega), List.singleton_append,
            decodeFrom_last (by omega) (by omega), hsum, hback]

end ApiRouter.Text.Utf8

namespace ApiRouter.Text.Percent

/-- A text without percent signs has no escapes. -/
theorem decode_eq_self {cs : List Char} (h : '%' ∉ cs) : decode cs = cs := by
  induction cs with
  | nil => rfl
  | cons c rest ih =>
      rw [List.mem_cons, not_or] at h
      have hbytes : bytes (c :: rest) = Utf8.encodeChar c ++ bytes rest := by
        rw [bytes]
        intro a b tail hc
        exact absurd hc.symm h.1
      rw [decode, hbytes, Utf8.decodeLenient, Utf8.decodeFrom_encodeChar, List.map_cons,
        Option.getD_some]
      exact congrArg (c :: ·) (ih h.2)

end ApiRouter.Text.Percent

namespace ApiRouter

/-! ## Regular values -/

namespace Value

mutual

/-- Whether a value can be shown and has no pairs in it, nor places from which on it is not written
out. -/
def isRegular : Value → Bool
  | .scalar s => s.isShowable
  | .list items => areRegular items
  | .map entries => areRegularEntries entries
  | .set members => members.all Scalar.isShowable
  | .pair _ _ | .endless => false

def areRegular : List Value → Bool
  | [] => true
  | v :: vs => isRegular v && areRegular vs

def areRegularEntries : Entries → Bool
  | [] => true
  | (k, v) :: es => k.isShowable && isRegular v && areRegularEntries es

end

theorem isRegular_list {items : List Value} :
    (Value.list items).isRegular = true ↔ ∀ v ∈ items, v.isRegular = true := by
  rw [isRegular]
  induction items with
  | nil => simp [areRegular]
  | cons v vs ih => rw [areRegular, Bool.and_eq_true, ih, List.forall_mem_cons]

theorem isRegular_map {entries : Entries} :
    (Value.map entries).isRegular = true ↔
      ∀ e ∈ entries, e.1.isShowable = true ∧ e.2.isRegular = true := by
  rw [isRegular]
  induction entries with
  | nil => simp [areRegularEntries]
  | cons e es ih =>
      rw [areRegularEntries, Bool.and_eq_true, Bool.and_eq_true, ih, List.forall_mem_cons]

mutual

theorem isShowable_of_isRegular : ∀ (v : Value), v.isRegular = true → v.isShowable = true
  | .scalar _, h => h
  | .list items, h => areShowable_of_areRegular items h
  | .map entries, h => areShowableEntries_of_areRegularEntries entries h
  | .set _, h => h

theorem areShowable_of_areRegular :
    ∀ (items : List Value), areRegular items = true → areShowable items = true
  | [], _ => rfl
  | v :: vs, h => by
    rw [areRegular, Bool.and_eq_true] at h
    rw [areShowable, isShowable_of_isRegular v h.1, areShowable_of_areRegular vs h.2]
    rfl

theorem areShowableEntries_of_areRegularEntries :
    ∀ (entries : Entries), areRegularEntries entries = true → areShowableEntries entries = true
  | [], _ => rfl
  | (k, v) :: es, h => by
    rw [areRegularEntries, Bool.and_eq_true, Bool.and_eq_true] at h
    rw [areShowableEntries, h.1.1, isShowable_of_isRegular v h.1.2,
      areShowableEntries_of_areRegularEntries es h.2]
    rfl

end

end Value

/-! ## Indices -/

namespace Text

theorem mem_of_mem_joinUnderscores {cs ds : List Char} {c : Char}
    (h : joinUnderscores cs = some ds) (hc : c ∈ ds) : c ∈ cs := by
  induction cs using joinUnderscores.induct generalizing ds with
  | case1 =>
      cases h
      cases hc
  | case2 rest => cases h
  | case3 a d rest hmark hdigits ih =>
      rw [joinUnderscores.eq_3 _ _ _ hmark, if_pos hdigits] at h
      obtain ⟨tail, htail, rfl⟩ := Option.map_eq_some_iff.1 h
      rcases List.mem_cons.1 hc with rfl | hc
      · exact List.mem_cons_self ..
      · exact List.mem_cons_of_mem _ (List.mem_cons_of_mem _ (ih htail hc))
  | case4 a d rest hmark hdigits =>
      rw [joinUnderscores.eq_3 _ _ _ hmark, if_neg hdigits] at h
      cases h
  | case5 a rest hmark hpair ih =>
      rw [joinUnderscores.eq_4 _ _ hmark hpair] at h
      obtain ⟨tail, htail, rfl⟩ := Option.map_eq_some_iff.1 h
      rcases List.mem_cons.1 hc with rfl | hc
      · exact List.mem_cons_self ..
      · exact List.mem_cons_of_mem _ (ih htail hc)

/-- A numeral without a minus sign is not negative. -/
theorem readInt?_nonneg {s : String} {n : Int} (h : readInt? s = some n) (hs : '-' ∉ s.toList) :
    0 ≤ n := by
  unfold readInt? at h
  split at h
  · cases h
  · next cs hcs =>
      have hsign : (readSign cs).1 = false := by
        unfold readSign
        split
        · exact absurd (mem_of_mem_trim (mem_of_mem_joinUnderscores hcs (List.mem_cons_self ..))) hs
        · rfl
        · rfl
      simp only [hsign] at h
      split at h
      · cases h
      · split at h
        · cases h
          exact Int.natCast_nonneg _
        · cases h
      · cases h

end Text

namespace Pointer

/-- A row of digits has no escapes. -/
theorem unescape_eq_self {cs : List Char} (h : cs.all Text.isAnyDigit = true) :
    unescape cs = cs := by
  induction cs using unescape.induct with
  | case1 rest ih =>
      rw [List.all_cons, Bool.and_eq_true] at h
      exact absurd h.1 (by decide)
  | case2 rest ih =>
      rw [List.all_cons, Bool.and_eq_true] at h
      exact absurd h.1 (by decide)
  | case3 c rest hslash htilde ih =>
      rw [List.all_cons, Bool.and_eq_true] at h
      rw [unescape]
      · rw [ih h.2]
      all_goals assumption
  | case4 => rfl

/-- Whether a segment is a row of digits if it is a numeral at all. -/
def isPlainSegment (segment : List Char) : Bool :=
  (Text.readInt? (String.ofList segment)).isNone || segment.all Text.isAnyDigit

/-- Whether a pointer has no percent signs, and no numerals but rows of digits. -/
def isPlain (r : String) : Bool :=
  !r.toList.contains '%' && (Text.split '/' r.toList).all isPlainSegment

end Pointer

namespace Schema

deriving instance DecidableEq for Resource, Place, Registry, Scope

namespace Scope

/-! ## Steps -/

variable {node v : Value}

/-- Following segments is taking the first step and following the others from there. -/
theorem exists_of_walk_cons {d : Dialect} {s s' : Scope} {passed rest : List String}
    {segment : String} (h : walk d s node passed (segment :: rest) = .ok (s', v)) :
    ∃ next name inner passed', step node segment = .ok (next, name) ∧
      walk d inner next passed' rest = .ok (s', v) := by
  obtain ⟨⟨next, name⟩, hstep, h⟩ := Outcome.bind_eq_ok.1 h
  simp only [← Outcome.ite_bind] at h
  obtain ⟨inner, -, h⟩ := Outcome.bind_eq_ok.1 h
  cases inner with
  | some inner => exact ⟨next, name, _, _, hstep, h⟩
  | none => exact ⟨next, name, _, _, hstep, h⟩

/-- A step into a list is to the item that a numeral gives the index of. -/
theorem exists_index_of_step {items : List Value} {segment name : String}
    (h : step (.list items) segment = .ok (v, name)) :
    ∃ n, Text.readInt? segment = some n ∧ v ∈ items ∧ (0 ≤ n → items[n.toNat]? = some v) := by
  have hitems : itemsOf (.list items) = .ok items := rfl
  cases hn : Text.readInt? segment with
  | none =>
      simp only [step, hn, hitems, Outcome.ok_bind] at h
      cases h
  | some n =>
      simp only [step, hn, hitems, Outcome.ok_bind] at h
      by_cases hneg : n < 0
      · rw [if_pos hneg] at h
        split at h
        · next w hw =>
            cases h
            split at hw
            · cases hw
            · exact ⟨n, rfl, List.mem_of_getElem? hw, fun hnonneg => by omega⟩
        · cases h
      · rw [if_neg hneg, if_neg hneg] at h
        split at h
        · next w hw =>
            cases h
            exact ⟨n, rfl, List.mem_of_getElem? hw, fun _ => hw⟩
        · cases h

/-- A step into a text or into bytes is to a part of them. -/
theorem exists_scalar_of_step {a : Scalar} {segment name : String}
    (h : step (.scalar a) segment = .ok (v, name)) : ∃ b, v = .scalar b := by
  cases a with
  | text t =>
      obtain ⟨-, -, hv, -⟩ := @exists_index_of_step v (t.toList.map _) segment name h
      obtain ⟨c, -, rfl⟩ := List.mem_map.1 hv
      exact ⟨_, rfl⟩
  | bytes b =>
      obtain ⟨-, -, hv, -⟩ := @exists_index_of_step v (b.map _) segment name h
      obtain ⟨c, -, rfl⟩ := List.mem_map.1 hv
      exact ⟨_, rfl⟩
  | _ => cases h

/-- Nothing but scalars is reached from a scalar. -/
theorem exists_scalar_of_walk {d : Dialect} {s s' : Scope} {passed segments : List String}
    {a : Scalar} (h : walk d s (.scalar a) passed segments = .ok (s', v)) :
    ∃ b, v = .scalar b := by
  induction segments generalizing a s passed with
  | nil =>
      cases h
      exact ⟨a, rfl⟩
  | cons segment rest ih =>
      obtain ⟨next, name, inner, passed', hstep, hrest⟩ := exists_of_walk_cons h
      obtain ⟨b, rfl⟩ := exists_scalar_of_step hstep
      exact ih hrest

/-- A step into a regular collection is one that inlining takes too. -/
theorem follows_step {segment name : String}
    (hplain : Pointer.isPlainSegment segment.toList = true) (hregular : node.isRegular = true)
    (hnode : ∀ a, node ≠ .scalar a) (h : step node segment = .ok (v, name)) :
    Pointer.step node (String.ofList (Pointer.unescape segment.toList)) = .ok (.ok v) ∧
      v.isRegular = true := by
  cases node with
  | map entries =>
      simp only [step] at h
      simp only [Pointer.step]
      cases hfind : Entries.find? entries (String.ofList (Pointer.unescape segment.toList)) with
      | none =>
          rw [hfind] at h
          cases h
      | some w =>
          rw [hfind] at h
          cases h
          have hmem := Ordered.mem_of_find? (Scalar.rigid_text _) hfind
          exact ⟨rfl, (Value.isRegular_map.1 hregular _ hmem).2⟩
  | list items =>
      obtain ⟨n, hn, hv, hplace⟩ := exists_index_of_step h
      refine ⟨?_, Value.isRegular_list.1 hregular _ hv⟩
      -- the numeral is a row of digits, so it has no escapes and counts from the start
      have hdigits : segment.toList.all Text.isAnyDigit = true := by
        rw [Pointer.isPlainSegment, String.ofList_toList, hn] at hplain
        exact hplain
      have hminus : '-' ∉ segment.toList := fun hmem =>
        absurd (List.all_eq_true.1 hdigits _ hmem) (by decide)
      have hnonempty : segment.isEmpty = false := by
        cases hempty : segment.isEmpty with
        | false => rfl
        | true =>
            rw [String.isEmpty_iff.1 hempty] at hn
            cases hn
      rw [Pointer.unescape_eq_self hdigits, String.ofList_toList]
      simp only [Pointer.step, hnonempty, hdigits, hn,
        hplace (Text.readInt?_nonneg hn hminus)]
      rfl
  | scalar a => exact absurd rfl (hnode a)
  | pair a b => cases hregular
  | set members => cases h
  | endless => cases h

/-! ## Whole pointers -/

/-- Where checking comes to a mapping, inlining comes to it too. -/
theorem follows_walk (ref : String) {d : Dialect} {s s' : Scope} {passed segments : List String}
    {m : Entries} (hplain : ∀ segment ∈ segments, Pointer.isPlainSegment segment.toList = true)
    (hregular : node.isRegular = true)
    (h : walk d s node passed segments = .ok (s', .map m)) :
    Pointer.walk ref node
      (segments.map fun segment => String.ofList (Pointer.unescape segment.toList))
        = .ok (.map m) := by
  induction segments generalizing node s passed with
  | nil =>
      cases h
      rfl
  | cons segment rest ih =>
      have hnode : ∀ a, node ≠ .scalar a := by
        rintro a rfl
        obtain ⟨b, hb⟩ := exists_scalar_of_walk h
        cases hb
      rw [List.forall_mem_cons] at hplain
      obtain ⟨next, name, inner, passed', hstep, hrest⟩ := exists_of_walk_cons h
      obtain ⟨htaken, hnext⟩ := follows_step hplain.1 hregular hnode hstep
      exact Outcome.bind_eq_ok.2 ⟨_, htaken, ih hplain.2 hnext hrest⟩

/-- The surroundings in a document without an identifier. -/
def inDocument (document : Entries) : Scope :=
  ⟨"", [], Registry.empty.add "" ⟨.draft4, .map document⟩⟩

theorem lookUp_inDocument {document : Entries} {r : String} {rest : List Char}
    (hr : r.toList = '#' :: '/' :: rest) :
    (inDocument document).lookUp r = walk .draft4 (inDocument document) (.map document) []
      ((Text.split '/' (Text.Percent.decode rest)).map String.ofList) := by
  have hstart : r.startsWith "#" = true := by
    rw [String.startsWith_string_iff, hr]
    exact ⟨'/' :: rest, rfl⟩
  have hfragment : (r.drop 1).toString.toList = '/' :: rest := by simp [hr]
  have hempty : (r.drop 1).toString.isEmpty = false := by
    rw [Bool.eq_false_iff]
    intro h
    rw [String.isEmpty_iff] at h
    rw [h] at hfragment
    cases hfragment
  have hretrieve : (inDocument document).registry.retrieve ""
      = .ok ((inDocument document).registry, ⟨.draft4, .map document⟩) := by
    rfl
  rw [lookUp, if_pos hstart, Outcome.ok_bind]
  simp only
  rw [show (inDocument document).base = "" from rfl, hretrieve, Outcome.ok_bind, hempty,
    if_neg Bool.false_ne_true, hfragment]
  rfl

/-- The way to a definition leads through the definitions. -/
theorem walk_definitions {document : Entries} {definitions : Value} {s s' : Scope}
    {segments : List String}
    (hdefinitions : Entries.find? document "definitions" = some definitions)
    (h : walk .draft4 s (.map document) [] ("definitions" :: segments) = .ok (s', v)) :
    ∃ inner passed, walk .draft4 inner definitions passed segments = .ok (s', v) := by
  have hfirst : step (.map document) "definitions" = .ok (definitions, "definitions") := by
    have hkey : String.ofList (Pointer.unescape "definitions".toList) = "definitions" := rfl
    simp only [step, hkey, hdefinitions]
  obtain ⟨next, name, inner, passed, hstep, hrest⟩ := exists_of_walk_cons h
  rw [hfirst] at hstep
  cases hstep
  exact ⟨inner, passed, hrest⟩

theorem split_definitions (rest : List Char) :
    Text.split '/' ("definitions".toList ++ '/' :: rest)
      = "definitions".toList :: Text.split '/' rest := by
  simp [Text.split]

/-- A plain pointer into the definitions that leads checking to a mapping of the document leads
inlining to the same mapping of the definitions. -/
theorem follow_of_lookUp {document : Entries} {definitions : Value} {r : String} {s : Scope}
    {m : Entries} (hdefinitions : Entries.find? document "definitions" = some definitions)
    (hregular : definitions.isRegular = true) (hplain : Pointer.isPlain r = true)
    (hr : "#/definitions/".toList <+: r.toList)
    (h : (inDocument document).lookUp r = .ok (s, .map m)) :
    Pointer.follow (.object [("definitions", definitions)]) r = .ok (.map m) := by
  obtain ⟨rest, hr⟩ := hr
  have hplace : r.toList = '#' :: '/' :: ("definitions".toList ++ '/' :: rest) := hr.symm
  have hall : Text.split '/' r.toList = ['#'] :: "definitions".toList :: Text.split '/' rest := by
    rw [hplace, ← split_definitions]
    simp [Text.split]
  rw [Pointer.isPlain, Bool.and_eq_true, Bool.not_eq_true', hall, List.all_cons, List.all_cons,
    Bool.and_eq_true, Bool.and_eq_true, List.all_eq_true] at hplain
  obtain ⟨hpercent, -, -, hsegments⟩ := hplain
  have hself : Text.Percent.decode ("definitions".toList ++ '/' :: rest)
      = "definitions".toList ++ '/' :: rest :=
    Text.Percent.decode_eq_self fun hmem => by
      rw [hplace, List.contains_eq_mem, decide_eq_false_iff_not] at hpercent
      exact hpercent (List.mem_cons_of_mem _ (List.mem_cons_of_mem _ hmem))
  rw [lookUp_inDocument hplace, hself, split_definitions, List.map_cons] at h
  obtain ⟨inner, passed, hinner⟩ := walk_definitions hdefinitions h
  have hwalk := follows_walk r (fun segment hsegment => by
    obtain ⟨part, hpart, rfl⟩ := List.mem_map.1 hsegment
    rw [String.toList_ofList]
    exact hsegments part hpart) hregular hinner
  simp only [List.map_map, Function.comp_def, String.toList_ofList] at hwalk
  have hpointer : Pointer.segments? r = some ("definitions" ::
      (Text.split '/' rest).map fun part => String.ofList (Pointer.unescape part)) := by
    rw [Pointer.segments?, hplace]
    simp only [split_definitions, List.map_cons]
    rfl
  rw [Pointer.follow, hpointer]
  exact hwalk

end Scope

end Schema

end ApiRouter
