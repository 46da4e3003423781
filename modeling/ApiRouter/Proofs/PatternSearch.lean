import ApiRouter.Pattern.Search
import ApiRouter.Proofs.PathMatching
import ApiRouter.Proofs.PatternReading

set_option autoImplicit false

/-! # Searching for the expression of a template

A search for the regular expression of a template finds what the template itself matches, with the
values of the captures in its groups. It backtracks in the order in which matching does, and a way
that fails only leaves marks behind that are new, so that the next way starts from the same ones. -/

namespace ApiRouter.Pattern

/-! ## Marks -/

namespace Marks

theorem put_size (m : Marks) (position : Nat) : m.put m.size position = m ++ #[some position] := by
  simp [put]

/-- New marks are undone. -/
theorem undo_append (m after : Marks) : m.undo false (m ++ after) = m := by
  simp [undo]

end Marks

/-! ## Repetition -/

section Repetition

variable {start low more : Nat} {next : Continuation} {m : Marks}

/-- A repetition fails when every count does. -/
theorem fromMost_eq_error
    (h : ∀ k ≤ more, ∃ after, next ⟨start + low + k, m⟩ = .error (m ++ after)) :
    fromMost false start low next more m = .error m := by
  induction more with
  | zero =>
      obtain ⟨after, hafter⟩ := h 0 (Nat.le_refl 0)
      rw [Nat.add_zero] at hafter
      simp only [fromMost, hafter, Marks.undo_append]
  | succ more ih =>
      obtain ⟨after, hafter⟩ := h (more + 1) (Nat.le_refl _)
      simp only [fromMost, hafter, Marks.undo_append]
      exact ih fun k hk => h k (Nat.le_succ_of_le hk)

/-- A repetition takes the greatest count that does not fail. -/
theorem fromMost_eq_ok {k : Nat} {c : Cursor} (hk : k ≤ more)
    (hnext : next ⟨start + low + k, m⟩ = .ok c)
    (h : ∀ j, k < j → j ≤ more → ∃ after, next ⟨start + low + j, m⟩ = .error (m ++ after)) :
    fromMost false start low next more m = .ok c := by
  induction more with
  | zero =>
      obtain rfl := Nat.le_zero.1 hk
      rw [Nat.add_zero] at hnext
      simp only [fromMost, hnext]
  | succ more ih =>
      rcases Nat.le_succ_iff.1 hk with hk | rfl
      · obtain ⟨after, hafter⟩ := h (more + 1) (Nat.lt_succ_of_le hk) (Nat.le_refl _)
        simp only [fromMost, hafter, Marks.undo_append]
        exact ih hk fun j hj hmore => h j hj (Nat.le_succ_of_le hmore)
      · simp only [fromMost, hnext]

end Repetition

theorem getElem?_append_toArray (before path : List Char) :
    (before ++ path).toArray[before.length]? = path.head? := by
  rw [List.getElem?_toArray, List.getElem?_append_right (Nat.le_refl _), Nat.sub_self,
    List.head?_eq_getElem?]

/-- The characters at the start of the rest of a text are counted. -/
theorem countOf_eq (set : CharSet) (before path : List Char) :
    countOf (before ++ path).toArray set before.length path.length
      = (path.takeWhile set.holds).length := by
  induction path generalizing before with
  | nil => rfl
  | cons c path ih =>
      rw [List.length_cons, countOf, getElem?_append_toArray, List.head?_cons]
      by_cases hc : set.holds c = true
      · have h := ih (before ++ [c])
        rw [List.append_assoc, List.singleton_append, List.length_append,
          List.length_singleton] at h
        simp only [hc, if_true, h, List.takeWhile_cons_of_pos, List.length_cons]
      · rw [List.takeWhile_cons_of_neg hc]
        exact if_neg hc

theorem run_sequence_cons (text : Array Char) (n : Node) (rest : List Node) (c : Cursor)
    (next : Continuation) :
    (Node.sequence (n :: rest)).run text false c next
      = n.run text false c fun d => (Node.sequence rest).run text false d next := by
  cases rest <;> rfl

/-! ## Groups -/

/-- The text that a group captured. -/
def Cursor.groupText? (c : Cursor) (text : List Char) (group : Nat) : Option String :=
  (c.marks.ends? group).map fun ends =>
    String.ofList ((text.drop ends.1).take (ends.2 - ends.1))

/-- The texts of the groups of the first match in a text, under names for them. -/
def captures? (p : Pattern) (names : List String) (text : String) :
    Option (List (String × String)) :=
  (p.find? text).bind fun c =>
    ((List.range names.length).mapM fun k => c.groupText? text.toList (k + 1)).map fun values =>
      Ordered.ofList (names.zip values)

/-! ## Marks for values -/

theorem mapM_range_eq_some {α : Type} {f : Nat → Option α} {xs : List α}
    (h : ∀ k (hk : k < xs.length), f k = some xs[k]) : (List.range xs.length).mapM f = some xs := by
  induction xs generalizing f with
  | nil => rfl
  | cons x xs ih =>
      have hrest : (List.range xs.length).mapM (f ∘ Nat.succ) = some xs :=
        ih fun k hk => h (k + 1) (Nat.succ_lt_succ hk)
      rw [List.length_cons, List.range_succ_eq_map, List.mapM_cons, h 0 (Nat.zero_lt_succ _),
        List.mapM_map, hrest]
      rfl

/-- The marks are the ends of places in the text where the values stand. -/
def Marked (text : List Char) (values : List (List Char)) (marks : Marks) : Prop :=
  ∀ k value, values[k]? = some value → ∃ first, marks[2 * k]? = some (some first) ∧
    marks[2 * k + 1]? = some (some (first + value.length)) ∧
      (text.drop first).take value.length = value

namespace Marked

variable {text value : List Char} {values : List (List Char)} {marks : Marks} {first : Nat}

theorem nil (text : List Char) : Marked text [] #[] := by
  intro k value hvalue
  cases hvalue

theorem cons (h : Marked text values marks) (hvalue : (text.drop first).take value.length = value) :
    Marked text (value :: values) (#[some first, some (first + value.length)] ++ marks) := by
  have hshift (n : Nat) : (#[some first, some (first + value.length)] ++ marks)[2 + n]?
      = marks[n]? := by
    rw [Array.getElem?_append_right (Nat.le_add_right 2 n)]
    exact congrArg (marks[·]?) (Nat.add_sub_cancel_left 2 n)
  rintro (_ | k) other hother
  · obtain rfl := Option.some.inj hother
    refine ⟨first, ?_, ?_, hvalue⟩
    · rw [Array.getElem?_append_left Nat.zero_lt_two]
      rfl
    · rw [Array.getElem?_append_left Nat.one_lt_two]
      rfl
  · obtain ⟨start, hstart, hstop, hother⟩ := h k other hother
    refine ⟨start, ?_, ?_, hother⟩
    · rw [Nat.mul_succ, Nat.add_comm (2 * k), hshift, hstart]
    · rw [Nat.mul_succ, Nat.add_comm (2 * k), Nat.add_assoc, hshift, hstop]

/-- The groups hold the values. -/
theorem groupText? {c : Cursor} (h : Marked text values c.marks) {k : Nat}
    (hk : k < values.length) : c.groupText? text (k + 1) = some (String.ofList values[k]) := by
  obtain ⟨first, hstart, hstop, hvalue⟩ := h k values[k] (List.getElem?_eq_getElem hk)
  have hends : c.marks.ends? (k + 1) = some (first, first + values[k].length) := by
    rw [Marks.ends?, Nat.add_sub_cancel, hstart, hstop]
    exact if_pos (Nat.le_add_right ..)
  rw [Cursor.groupText?, hends, Option.map_some, Nat.add_sub_cancel_left, hvalue]

theorem mapM_groupText? {c : Cursor} (h : Marked text values c.marks) :
    (List.range values.length).mapM (fun k => c.groupText? text (k + 1))
      = some (values.map String.ofList) := by
  rw [← List.length_map (f := String.ofList)]
  exact mapM_range_eq_some fun k hk => by
    rw [h.groupText? (by rwa [List.length_map] at hk), List.getElem_map]

end Marked

end ApiRouter.Pattern

namespace ApiRouter.Template

open Pattern (Continuation Cursor Marked Marks Node)
open Pattern.Reader (segmentNode segmentSet)
open Token (isSegmentChar)

/-! ## Segments -/

theorem holds_segmentSet : segmentSet.holds = isSegmentChar := by
  funext c
  have hcode (d : Char) : (c.toNat == d.toNat) = (c == d) := by
    rw [Bool.eq_iff_iff, beq_iff_eq, beq_iff_eq]
    exact Char.toNat_inj
  have hslash : (c.toNat == 47) = (c == '/') := hcode '/'
  have hbreak : (c.toNat == 10) = (c == '\n') := hcode '\n'
  simp [segmentSet, Pattern.CharSet.holds, Pattern.SetItem.holds, isSegmentChar, hslash, hbreak,
    bne]

theorem isSegment_take {path : List Char} {n : Nat} (hpos : 0 < n)
    (hn : n ≤ (path.takeWhile isSegmentChar).length) : IsSegment (path.take n) := by
  obtain ⟨rest, hrest⟩ := List.takeWhile_prefix isSegmentChar (l := path)
  have htake : path.take n = (path.takeWhile isSegmentChar).take n := by
    conv_lhs => rw [← hrest]
    exact List.take_append_of_le_length hn
  refine Token.isSegment_iff.2 ⟨?_, ?_⟩
  · rw [← List.length_pos_iff, htake, List.length_take_of_le hn]
    exact hpos
  · intro c hc
    rw [htake] at hc
    exact List.mem_takeWhile_imp (List.mem_of_mem_take hc)

theorem length_le_takeWhile {value : List Char} (h : IsSegment value) (rest : List Char) :
    value.length ≤ ((value ++ rest).takeWhile isSegmentChar).length := by
  rw [List.takeWhile_append_of_pos (Token.isSegment_iff.1 h).2, List.length_append]
  exact Nat.le_add_right ..

/-! ## Tokens -/

variable {text : List Char} {tokens : List Token} {groups : Nat} {next : Continuation}

/-- The search ends as the captures say: at the end of the text, with their marks, or with a failure
that leaves no old mark changed. -/
def Agrees (text : List Char) (m : Marks) (captures : Option (List (List Char)))
    (outcome : Pattern.Outcome) : Prop :=
  match captures with
  | none => ∃ more, outcome = .error (m ++ more)
  | some values => ∃ more, Marked text values more ∧ outcome = .ok ⟨text.length, m ++ more⟩

/-- The continuation goes on from any place of the text as the tokens do, after so many groups. -/
def Follows (text : List Char) (tokens : List Token) (groups : Nat) (next : Continuation) : Prop :=
  ∀ before path m, text = before ++ path → m.size = 2 * groups →
    Agrees text m (Token.matchAll tokens path) (next ⟨before.length, m⟩)

theorem follows_nil (text : List Char) (groups : Nat) :
    Follows text [] groups fun c => (Node.anchor .textEnd).run text.toArray false c .ok := by
  rintro before path m rfl -
  cases path with
  | nil => exact ⟨#[], Marked.nil _, by simp [Node.run, Pattern.Anchor.holds]⟩
  | cons c path => exact ⟨#[], by simp [Node.run, Pattern.Anchor.holds]⟩

theorem Follows.literal (h : Follows text tokens groups next) (c : Char) :
    Follows text (.literal c :: tokens) groups fun d =>
      (Pattern.Reader.literal Pattern.Reader.Flags.none c.toNat).run text.toArray false d next := by
  rintro before path m rfl hm
  simp only [Pattern.Reader.literal, Pattern.Reader.Flags.none, Node.run,
    Pattern.getElem?_append_toArray]
  cases path with
  | nil => exact ⟨#[], rfl⟩
  | cons d path =>
      have hnext := h (before ++ [d]) path m (by simp) hm
      rw [List.length_append, List.length_singleton] at hnext
      rw [Token.matchAll]
      by_cases hc : c = d
      · subst hc
        simpa [Pattern.CharSet.holds, Pattern.SetItem.holds] using hnext
      · have hcode : ¬ d.toNat = c.toNat := fun he => hc (Char.toNat_inj.1 he).symm
        rw [if_neg hc]
        exact ⟨#[], by simp [Pattern.CharSet.holds, Pattern.SetItem.holds, hcode]⟩

/-- The search for a segment tries the lengths from the greatest one on. -/
theorem run_capture (before path : List Char) {m : Marks} (hm : m.size = 2 * groups) :
    (Node.capture (groups + 1) segmentNode).run (before ++ path).toArray false
        ⟨before.length, m⟩ next
      = if (path.takeWhile isSegmentChar).length < 1 then .error (m ++ #[some before.length])
        else Pattern.fromMost false before.length 1
          (fun d => next ⟨d.position, d.marks.put (2 * groups + 1) d.position⟩)
          ((path.takeWhile isSegmentChar).length - 1) (m ++ #[some before.length]) := by
  have hput := m.put_size before.length
  rw [hm] at hput
  have hcount := Pattern.countOf_eq segmentSet before path
  rw [holds_segmentSet] at hcount
  have hleft : (before ++ path).toArray.size - before.length = path.length := by simp
  simp only [Node.run, segmentNode, Pattern.repeatOne, Nat.add_sub_cancel, hput, hleft, hcount]

/-- A capture takes the longest segment after which the rest is found. -/
theorem Follows.capture (h : Follows text tokens (groups + 1) next) (name : List Char) :
    Follows text (.capture name :: tokens) groups fun d =>
      (Node.capture (groups + 1) segmentNode).run text.toArray false d next := by
  rintro before path m rfl hm
  dsimp only
  rw [run_capture before path hm]
  have hprefix := (List.takeWhile_prefix isSegmentChar (l := path)).length_le
  generalize hcount : (path.takeWhile isSegmentChar).length = count at hprefix
  -- what comes after a segment of each length
  have hnext (k : Nat) (hk : k + 1 ≤ count) :
      Agrees (before ++ path) (m ++ #[some before.length] ++ #[some (before.length + 1 + k)])
        (Token.matchAll tokens (path.drop (k + 1)))
        (next ⟨before.length + 1 + k,
          Marks.put (m ++ #[some before.length]) (2 * groups + 1) (before.length + 1 + k)⟩) := by
    have hput := Marks.put_size (m ++ #[some before.length]) (before.length + 1 + k)
    rw [Array.size_append, hm, List.size_toArray, List.length_singleton] at hput
    have hlength : (before ++ path.take (k + 1)).length = before.length + 1 + k := by
      rw [List.length_append, List.length_take_of_le (hk.trans hprefix)]
      omega
    rw [hput, ← hlength]
    exact h (before ++ path.take (k + 1)) (path.drop (k + 1)) _ (by simp) (by simp [hm]; omega)
  have hrefused (k : Nat) (hk : k + 1 ≤ count)
      (hnone : Token.matchAll tokens (path.drop (k + 1)) = none) :
      ∃ after, next ⟨before.length + 1 + k,
          Marks.put (m ++ #[some before.length]) (2 * groups + 1) (before.length + 1 + k)⟩
        = .error (m ++ #[some before.length] ++ after) := by
    have hfailed := hnext k hk
    rw [hnone] at hfailed
    obtain ⟨more, hmore⟩ := hfailed
    exact ⟨#[some (before.length + 1 + k)] ++ more, by rw [hmore, Array.append_assoc]⟩
  cases hmatch : Token.matchAll (.capture name :: tokens) path with
  | none =>
      have hnone := Token.matchAll_capture_eq_none.1 hmatch
      refine ⟨#[some before.length], ?_⟩
      split
      · rfl
      · refine Pattern.fromMost_eq_error fun k hk => hrefused k (by omega) ?_
        exact hnone (path.take (k + 1)) _ (isSegment_take (Nat.succ_pos k) (by omega))
          (List.take_append_drop ..).symm
  | some captures =>
      obtain ⟨value, rest, values, hvalue, rfl, hvalues, rfl, hlongest⟩ :=
        Token.exists_of_matchAll_capture hmatch
      obtain ⟨k, hk⟩ := Nat.exists_eq_add_one_of_ne_zero
        (List.length_pos_iff.2 hvalue.nonempty).ne'
      have hle := length_le_takeWhile hvalue rest
      rw [hcount] at hle
      have hfound := hnext k (hk ▸ hle)
      rw [← hk, List.drop_left, hvalues] at hfound
      obtain ⟨more, hmarked, hmore⟩ := hfound
      have hmarks : m ++ #[some before.length] ++ #[some (before.length + 1 + k)] ++ more
          = m ++ (#[some before.length, some (before.length + value.length)] ++ more) := by
        change _ = m ++ (#[some before.length] ++ #[some (before.length + value.length)] ++ more)
        simp only [hk, Nat.add_assoc, Nat.add_comm 1 k, Array.append_assoc]
      have hplace : ((before ++ (value ++ rest)).drop before.length).take value.length = value := by
        rw [List.drop_left, List.take_left]
      refine ⟨_, hmarked.cons hplace, ?_⟩
      rw [if_neg (by omega), ← hmarks]
      refine Pattern.fromMost_eq_ok (k := k) (by omega) hmore fun j hj hmore => ?_
      have hlonger : value.length < ((value ++ rest).take (j + 1)).length := by
        rw [List.length_take]
        omega
      exact hrefused j (by omega) (hlongest _ _ (isSegment_take (Nat.succ_pos j) (by omega))
        (List.take_append_drop ..).symm hlonger)

theorem follows_nodes (text : List Char) (tokens : List Token) (groups : Nat) :
    Follows text tokens groups fun c =>
      (Node.sequence (nodes groups tokens)).run text.toArray false c .ok := by
  induction tokens generalizing groups with
  | nil => exact follows_nil text groups
  | cons token tokens ih =>
      cases token with
      | literal c =>
          simp only [nodes, Pattern.run_sequence_cons]
          exact (ih groups).literal c
      | capture name =>
          simp only [nodes, Pattern.run_sequence_cons]
          exact (ih (groups + 1)).capture name

/-! ## The whole expression -/

/-- A search for the expression only succeeds at the start of the text. -/
theorem find?_root (source : String) (ascii : Bool) (tokens : List Token) (path : String) :
    Pattern.find? ⟨source, root tokens, ascii⟩ path
      = ((root tokens).run path.toList.toArray false ⟨0, #[]⟩ .ok).toOption := by
  obtain ⟨first, rest, hnodes⟩ : ∃ first rest, nodes 0 tokens = first :: rest := by
    cases tokens with
    | nil => exact ⟨_, _, rfl⟩
    | cons token tokens => cases token <;> exact ⟨_, _, rfl⟩
  have hlater (i : Nat) :
      Pattern.matchAt? ⟨source, root tokens, ascii⟩ path.toList.toArray (i + 1) = none := by
    rw [Pattern.matchAt?, root, hnodes]
    exact ite_self none
  have hfirst : (path.toList.toArray[0]?).all
      (Pattern.mayStart ⟨source, root tokens, ascii⟩) = true := by
    cases path.toList.toArray[0]? with
    | none => rfl
    | some c =>
        rw [Option.all_some, Pattern.mayStart, root, hnodes]
        rfl
  have hnone : (List.map Nat.succ (List.range path.toList.toArray.size)).findSome?
      (Pattern.matchAt? ⟨source, root tokens, ascii⟩ path.toList.toArray) = none := by
    rw [List.findSome?_eq_none_iff]
    simp [hlater]
  rw [Pattern.find?, List.range_succ_eq_map, List.findSome?_cons, hnone, Pattern.matchAt?,
    if_pos hfirst]
  cases ((root tokens).run path.toList.toArray false ⟨0, #[]⟩ .ok).toOption <;> rfl

/-- A template captures what a search for its regular expression does. -/
theorem captures?_eq_search (source path : String) :
    ∃ p, Pattern.read (ofString source).pattern = .ok p ∧
      (ofString source).captures? path = p.captures? (ofString source).names path := by
  refine ⟨_, read_pattern _, ?_⟩
  have hrun : Agrees path.toList #[] (Token.matchAll (ofString source).tokens path.toList)
      ((Node.sequence (nodes 0 (ofString source).tokens)).run path.toList.toArray false
        ⟨0, #[]⟩ .ok) :=
    follows_nodes path.toList (ofString source).tokens 0 [] path.toList #[] rfl rfl
  have hroot : (root (ofString source).tokens).run path.toList.toArray false ⟨0, #[]⟩ .ok
      = (Node.sequence (nodes 0 (ofString source).tokens)).run path.toList.toArray false
        ⟨0, #[]⟩ .ok :=
    Pattern.run_sequence_cons ..
  rw [Pattern.captures?, find?_root, hroot, captures?]
  cases hmatch : Token.matchAll (ofString source).tokens path.toList with
  | none =>
      rw [hmatch] at hrun
      obtain ⟨more, hmore⟩ := hrun
      rw [hmore]
      rfl
  | some values =>
      rw [hmatch] at hrun
      obtain ⟨more, hmarked, hmore⟩ := hrun
      have hlength : (ofString source).names.length = values.length := by
        rw [tokens_ofString] at hmatch
        rw [names_ofString, (Outline.longestCut_of_matchAll hmatch).cuts.length_names,
          List.length_map]
      rw [hmore, Array.empty_append, hlength]
      change _ = Option.map _ _
      rw [hmarked.mapM_groupText? (c := ⟨_, more⟩)]
      rfl

/-- A template captures what a search for its regular expression finds in the groups. It says in one
way what its captures are called and what stands between them. It matches the paths that have
segments in place of the captures, and of several ways to cut a path it takes the one with the
longest first segment, then the longest second one, and so on. The segments are found under the
names of the template in the order of their first use, and a name that is used several times is
bound to its last segment. -/
theorem captures?_longest (source path : String) :
    (∃ p, Pattern.read (ofString source).pattern = .ok p ∧
      (ofString source).captures? path = p.captures? (ofString source).names path) ∧
    ∃ l : Outline, l.Spells source.toList ∧
      (∀ other : Outline, other.Spells source.toList → other = l) ∧
      (((ofString source).captures? path).isSome ↔ ∃ values, l.Cuts path.toList values) ∧
      ∀ found, (ofString source).captures? path = some found →
        ∃ values, l.LongestCut path.toList values ∧
          Ordered.keys found = l.names.eraseDups ∧
          ∀ i name, l.names[i]? = some name → name ∉ l.names.drop (i + 1) →
            Ordered.find? found name = values[i]?.map String.ofList := by
  refine ⟨captures?_eq_search source path, _, outline_spells source,
    fun other h => h.unique (outline_spells source), isSome_captures?_iff source path, ?_⟩
  intro found hfound
  obtain ⟨values, hcut, rfl⟩ := exists_of_captures? hfound
  have hlength := hcut.cuts.length_names
  refine ⟨values, hcut, ?_, ?_⟩
  · rw [keys_ofList, Ordered.keys, List.map_fst_zip hlength.le]
  · intro i name hname hlast
    obtain ⟨value, hvalue⟩ : ∃ value, values[i]? = some value := by
      have hi := (List.getElem?_eq_some_iff.1 hname).1
      rw [hlength, List.length_map] at hi
      exact ⟨_, List.getElem?_eq_getElem hi⟩
    rw [hvalue, Option.map_some]
    refine Ordered.find?_ofList_zip_of_last (Ordered.rigid_of_lawful name) hname ?_ hlast
    rw [List.getElem?_map, hvalue, Option.map_some]

example : (ofString "/{a}{b}/{a}").captures? "/xyz/w" = some [("a", "w"), ("b", "z")] := by
  decide +kernel

end ApiRouter.Template
