import ApiRouter.Pattern.Reader
import ApiRouter.Template
import Mathlib.Tactic.FinCases

set_option autoImplicit false

/-! # The regular expression of a template

Reading the regular expression that a template writes gives a sequence with one part for each token:
the character itself, whatever it means to regular expressions, or a capture of one path segment.
Nothing in it is refused. -/

namespace ApiRouter.Pattern.Reader

/-! ## Steps of the reader -/

section Steps

variable {α β : Type} {s t : State} {a : α}

theorem run_bind_ok {x : Read α} {f : α → Read β} (h : x.run s = .ok (a, t)) :
    (x >>= f).run s = (f a).run t := by
  rw [StateT.run_bind, h]
  rfl

theorem run_discard {x : Read α} (h : x.run s = .ok (a, t)) :
    (discard x : Read Unit).run s = .ok ((), t) := by
  change (x.run s >>= fun p => .ok ((), p.2)) = _
  rw [h]
  rfl

end Steps

/-- The reader before a rest of the expression, with no flags, names or conditions so far. -/
def State.plain (total : Nat) (groups : Array (Option Width)) (rest : List Char) : State :=
  ⟨total, rest, Flags.none, groups, [], none, [], false⟩

variable {total : Nat} {groups : Array (Option Width)} {rest : List Char} {c : Char}

theorem run_get : (get : Read State).run (.plain total groups rest)
    = .ok (.plain total groups rest, .plain total groups rest) := rfl

/-- No rest of an expression but a single backslash is refused. -/
theorem run_goTo (h : rest ≠ ['\\']) (cs : List Char) :
    (goTo rest).run (.plain total groups cs) = .ok ((), .plain total groups rest) := by
  rw [goTo, if_neg (by simpa using h)]
  rfl

theorem run_peek_plain (hc : c ≠ '\\') :
    peek.run (.plain total groups (c :: rest))
      = .ok (some (.plain c), .plain total groups (c :: rest)) := by
  rw [peek, run_bind_ok run_get]
  dsimp only [State.plain]
  split
  · next h => cases h
  · next h => exact absurd (List.cons.inj h).1 hc
  · next h =>
      cases h
      rfl

theorem run_next_plain (hc : c ≠ '\\') (h : rest ≠ ['\\']) :
    next.run (.plain total groups (c :: rest))
      = .ok (some (.plain c), .plain total groups rest) := by
  rw [next, run_bind_ok (run_peek_plain hc)]
  refine (run_bind_ok run_get).trans ?_
  exact run_bind_ok (run_goTo h (c :: rest))

theorem run_next_escape (h : rest ≠ ['\\']) :
    next.run (.plain total groups ('\\' :: c :: rest))
      = .ok (some (.escape c), .plain total groups rest) := by
  have hpeek : peek.run (.plain total groups ('\\' :: c :: rest))
      = .ok (some (.escape c), .plain total groups ('\\' :: c :: rest)) := rfl
  rw [next, run_bind_ok hpeek]
  refine (run_bind_ok run_get).trans ?_
  exact run_bind_ok (run_goTo h ('\\' :: c :: rest))

/-! ## Literal characters -/

variable {fuel : Nat} {first : Bool} {taken : List Item}

theorem specialChars_eq : Template.Token.specialChars =
    ['(', ')', '[', ']', '\x7b', '\x7d', '?', '*', '+', '-', '|', '^', '$', '\\', '.', '&', '~',
      '#', ' ', '\t', '\n', '\r', '\x0b', '\x0c'] := by
  decide +kernel

/-- A special character after a backslash stands for itself. -/
theorem run_escape (hc : c ∈ Template.Token.specialChars) (s : State) :
    (escape Flags.none c).run s = .ok (literal Flags.none c.toNat, s) := by
  rw [specialChars_eq] at hc
  fin_cases hc <;> rfl

theorem run_items_escape (hc : c ∈ Template.Token.specialChars) (h : rest ≠ ['\\']) :
    (items (fuel + 1) 2 Flags.none first taken).run (.plain total groups ('\\' :: c :: rest))
      = (items fuel 2 Flags.none first
          (.single ⟨literal Flags.none c.toNat, false⟩ false :: taken)).run
            (.plain total groups rest) := by
  rw [items]
  have hpeek : peek.run (.plain total groups ('\\' :: c :: rest))
      = .ok (some (.escape c), .plain total groups ('\\' :: c :: rest)) := rfl
  refine (run_bind_ok hpeek).trans ?_
  refine (run_bind_ok (run_discard (run_next_escape h))).trans ?_
  exact run_bind_ok (run_escape hc _)

/-- A character that is not special stands for itself. -/
theorem run_items_plain (hc : c ∉ Template.Token.specialChars) (h : rest ≠ ['\\']) :
    (items (fuel + 1) 2 Flags.none first taken).run (.plain total groups (c :: rest))
      = (items fuel 2 Flags.none first
          (.single ⟨literal Flags.none c.toNat, false⟩ false :: taken)).run
            (.plain total groups rest) := by
  have hne : ∀ d ∈ Template.Token.specialChars, c ≠ d := fun d hd he => hc (he ▸ hd)
  rw [specialChars_eq] at hne
  simp only [List.forall_mem_cons] at hne
  rw [items]
  refine (run_bind_ok (run_peek_plain (by simp [hne]))).trans ?_
  -- of the kinds of token only a plain one that is neither bar nor parenthesis is left
  split
  · next ht => cases ht
  · next ht => simp_all
  · next ht => simp_all
  · next ht => cases ht
  · next ht =>
      cases ht
      refine (run_bind_ok (run_discard (run_next_plain (by simp [hne]) h))).trans ?_
      simp [hne, Flags.none]

/-! ## Segments -/

/-- The characters of a path segment. -/
def segmentSet : CharSet :=
  ⟨true, [.code 47, .code 10], false, false⟩

/-- As many characters of a path segment as possible, at least one. -/
def segmentNode : Node :=
  .repetition .greedy 1 none (.one segmentSet)

/-- The text of a group around a path segment after its opening parenthesis, and what follows. -/
def segmentText (rest : List Char) : List Char :=
  '[' :: '^' :: '/' :: '\\' :: 'n' :: ']' :: '+' :: ')' :: rest

theorem run_alternatives_segment :
    (alternatives (fuel + 4) 3 Flags.none false).run (.plain total groups (segmentText rest))
      = .ok ([⟨segmentNode, false⟩], .plain total groups (')' :: rest)) := by
  let set : Item := .single ⟨.one segmentSet, false⟩ false
  have hset : (items (fuel + 3) 4 Flags.none false []).run (.plain total groups (segmentText rest))
      = (items (fuel + 2) 4 Flags.none false [set]).run
          (.plain total groups ('+' :: ')' :: rest)) := by
    rw [items]
    rfl
  have hplus : (items (fuel + 2) 4 Flags.none false [set]).run
      (.plain total groups ('+' :: ')' :: rest))
        = (items (fuel + 1) 4 Flags.none false [.single ⟨segmentNode, false⟩ false]).run
            (.plain total groups (')' :: rest)) := by
    rw [items]
    rfl
  have hclose : (items (fuel + 1) 4 Flags.none false [.single ⟨segmentNode, false⟩ false]).run
      (.plain total groups (')' :: rest))
        = .ok ([⟨segmentNode, false⟩], .plain total groups (')' :: rest)) := by
    rw [items]
    rfl
  have hbranches : (branches (fuel + 3) 3 Flags.none false [[⟨segmentNode, false⟩]]).run
      (.plain total groups (')' :: rest))
        = .ok ([[⟨segmentNode, false⟩]], .plain total groups (')' :: rest)) := by
    rw [branches]
    rfl
  rw [alternatives]
  refine (run_bind_ok (hset.trans (hplus.trans hclose))).trans ?_
  exact run_bind_ok hbranches

theorem run_close (h : rest ≠ ['\\']) (start : Nat) :
    (close start).run (.plain total groups (')' :: rest)) = .ok ((), .plain total groups rest) := by
  have haccept : (accept ')').run (.plain total groups (')' :: rest))
      = .ok (true, .plain total groups rest) := by
    rw [accept, run_bind_ok (run_peek_plain (by decide))]
    exact run_bind_ok (run_discard (run_next_plain (by decide) h))
  rw [close]
  exact run_bind_ok haccept

theorem run_closeGroup (body : Node) :
    (closeGroup (groups.size + 1) body).run (.plain total (groups.push none) rest)
      = .ok ((), .plain total (groups.push (some body.width)) rest) := by
  have hset : (groups.push none).setIfInBounds groups.size (some body.width)
      = groups.push (some body.width) :=
    Array.ext' (by simp)
  rw [← hset]
  rfl

/-- A group around a path segment takes the next number. -/
theorem run_group_segment (h : rest ≠ ['\\']) (start : Nat) :
    (group (fuel + 6) 2 Flags.none start).run (.plain total groups (segmentText rest))
      = .ok (.inl (some (.single ⟨.capture (groups.size + 1) segmentNode, false⟩ true)),
          .plain total (groups.push (some segmentNode.width)) rest) := by
  have hopen : (openGroup none).run (.plain total groups (segmentText rest))
      = .ok (groups.size + 1, .plain total (groups.push none) (segmentText rest)) := rfl
  have hcaptured : (captured (fuel + 5) 2 Flags.none start none).run
      (.plain total groups (segmentText rest))
        = .ok (.capture (groups.size + 1) segmentNode,
            .plain total (groups.push (some segmentNode.width)) rest) := by
    rw [captured]
    refine (run_bind_ok hopen).trans ?_
    refine (run_bind_ok run_alternatives_segment).trans ?_
    refine (run_bind_ok (run_close h start)).trans ?_
    exact run_bind_ok (run_closeGroup segmentNode)
  have haccept : (accept '?').run (.plain total groups (segmentText rest))
      = .ok (false, .plain total groups (segmentText rest)) := rfl
  rw [group]
  refine (run_bind_ok haccept).trans ?_
  exact run_bind_ok hcaptured

theorem run_items_segment (hfuel : 6 ≤ fuel) (h : rest ≠ ['\\']) :
    (items (fuel + 1) 2 Flags.none first taken).run
        (.plain total groups ('(' :: segmentText rest))
      = (items fuel 2 Flags.none first
          (.single ⟨.capture (groups.size + 1) segmentNode, false⟩ true :: taken)).run
            (.plain total (groups.push (some segmentNode.width)) rest) := by
  obtain ⟨fuel, rfl⟩ := Nat.exists_eq_add_of_le' hfuel
  have hplace : place.run (.plain total groups (segmentText rest))
      = .ok (total - (segmentText rest).length, .plain total groups (segmentText rest)) := rfl
  have hne : segmentText rest ≠ ['\\'] := by simp [segmentText]
  rw [items]
  refine (run_bind_ok (run_peek_plain (by decide))).trans ?_
  refine (run_bind_ok (run_discard (run_next_plain (by decide) hne))).trans ?_
  refine (run_bind_ok hplace).trans ?_
  exact run_bind_ok (run_group_segment h _)

end ApiRouter.Pattern.Reader

namespace ApiRouter.Template

open Pattern (Node)
open Pattern.Reader

/-! ## Tokens -/

/-- The parts of the expression for tokens after so many groups, up to the end of the text. -/
def nodes : (groups : Nat) → List Token → List Node
  | _, [] => [.anchor .textEnd]
  | groups, .literal c :: tokens => literal Flags.none c.toNat :: nodes groups tokens
  | groups, .capture _ :: tokens => .capture (groups + 1) segmentNode :: nodes (groups + 1) tokens

/-- The expression for tokens. -/
def root (tokens : List Token) : Node :=
  .sequence (.anchor .textStart :: nodes 0 tokens)

/-- The text of the expression for tokens after its first anchor. -/
def patternText (tokens : List Token) : List Char :=
  tokens.flatMap (fun t => t.pattern.toList) ++ ['\\', 'Z']

variable {c : Char} {name : List Char} {tokens : List Token}

theorem patternText_special (hc : c ∈ Token.specialChars) :
    patternText (.literal c :: tokens) = '\\' :: c :: patternText tokens := by
  simp [patternText, Token.pattern, hc]

theorem patternText_literal (hc : c ∉ Token.specialChars) :
    patternText (.literal c :: tokens) = c :: patternText tokens := by
  simp [patternText, Token.pattern, hc]

theorem patternText_capture :
    patternText (.capture name :: tokens) = '(' :: segmentText (patternText tokens) := by
  simp [patternText, Token.pattern, segmentText]

theorem patternText_ne (tokens : List Token) : patternText tokens ≠ ['\\'] := by
  intro h
  have hlast := congrArg List.getLast? h
  simp [patternText] at hlast

theorem length_le_patternText (tokens : List Token) :
    tokens.length ≤ (patternText tokens).length := by
  induction tokens with
  | nil => exact Nat.zero_le _
  | cons token tokens ih =>
      cases token with
      | literal c =>
          by_cases hc : c ∈ Token.specialChars
          · rw [patternText_special hc]
            exact Nat.le_succ_of_le (Nat.succ_le_succ ih)
          · rw [patternText_literal hc]
            exact Nat.succ_le_succ ih
      | capture name =>
          rw [patternText_capture, segmentText]
          simp only [List.length_cons]
          omega

theorem toList_pattern (t : Template) : t.pattern.toList = '\\' :: 'A' :: patternText t.tokens := by
  simp [pattern, patternText, String.toList_append, String.toList_join, List.flatMap_map]

/-! ## The whole expression -/

section Whole

variable {fuel : Nat}

/-- Every token adds its part, and the end of the text is the last one. -/
theorem run_items_tokens (total : Nat) (first : Bool) (tokens : List Token) (hfuel : 7 ≤ fuel)
    (groups : Array (Option Pattern.Width)) (taken : List Item) :
    ∃ groups', (items (fuel + tokens.length) 2 Flags.none first taken).run
        (.plain total groups (patternText tokens))
      = .ok (partsOf taken ++ (nodes groups.size tokens).map (⟨·, false⟩),
          .plain total groups' []) := by
  have hparts (node : Node) (grouped : Bool) (more : List Node) (taken : List Item) :
      partsOf taken ++ (node :: more).map (⟨·, false⟩)
        = partsOf (.single ⟨node, false⟩ grouped :: taken) ++ more.map (⟨·, false⟩) := by
    simp [partsOf, Item.parts]
  induction tokens generalizing groups taken with
  | nil =>
      obtain ⟨fuel, rfl⟩ := Nat.exists_eq_add_of_le' hfuel
      have hanchor : (escape Flags.none 'Z').run (.plain total groups [])
          = .ok (.anchor .textEnd, .plain total groups []) := rfl
      have hpeek : peek.run (.plain total groups ['\\', 'Z'])
          = .ok (some (.escape 'Z'), .plain total groups ['\\', 'Z']) := rfl
      have hend (taken : List Item) : (items (fuel + 6) 2 Flags.none first taken).run
          (.plain total groups []) = .ok (partsOf taken, .plain total groups []) := by
        rw [items]
        rfl
      refine ⟨groups, ?_⟩
      rw [nodes, hparts _ false, List.map_nil, List.append_nil, List.length_nil, items]
      refine (run_bind_ok hpeek).trans ?_
      refine (run_bind_ok (run_discard (run_next_escape (by simp)))).trans ?_
      exact (run_bind_ok hanchor).trans (hend _)
  | cons token tokens ih =>
      cases token with
      | literal c =>
          obtain ⟨groups', hrun⟩ := ih groups
            (.single ⟨literal Flags.none c.toNat, false⟩ false :: taken)
          refine ⟨groups', ?_⟩
          rw [nodes, hparts _ false, ← hrun]
          by_cases hc : c ∈ Token.specialChars
          · rw [patternText_special hc]
            exact run_items_escape hc (patternText_ne tokens)
          · rw [patternText_literal hc]
            exact run_items_plain hc (patternText_ne tokens)
      | capture name =>
          obtain ⟨groups', hrun⟩ := ih (groups.push (some segmentNode.width))
            (.single ⟨.capture (groups.size + 1) segmentNode, false⟩ true :: taken)
          rw [Array.size_push] at hrun
          refine ⟨groups', ?_⟩
          rw [nodes, hparts _ true, ← hrun, patternText_capture]
          exact run_items_segment (Nat.le_add_right_of_le (Nat.le_of_succ_le hfuel))
            (patternText_ne tokens)

theorem run_alternatives_tokens (total : Nat) (tokens : List Token)
    (hfuel : tokens.length + 9 ≤ fuel) :
    ∃ groups, (alternatives fuel 1 Flags.none true).run
        (.plain total #[] ('\\' :: 'A' :: patternText tokens))
      = .ok ((.anchor .textStart :: nodes 0 tokens).map (⟨·, false⟩), .plain total groups []) := by
  obtain ⟨fuel, rfl⟩ : ∃ more, fuel = more + 7 + tokens.length + 2 :=
    ⟨fuel - 9 - tokens.length, by omega⟩
  obtain ⟨groups, hrun⟩ := run_items_tokens total true tokens (Nat.le_add_left 7 fuel) #[]
    [.single ⟨.anchor .textStart, false⟩ false]
  refine ⟨groups, ?_⟩
  have hanchor : (escape Flags.none 'A').run (.plain total #[] (patternText tokens))
      = .ok (.anchor .textStart, .plain total #[] (patternText tokens)) := rfl
  have hpeek : peek.run (.plain total #[] ('\\' :: 'A' :: patternText tokens))
      = .ok (some (.escape 'A'), .plain total #[] ('\\' :: 'A' :: patternText tokens)) := rfl
  have hitems : (items (fuel + 7 + tokens.length + 1) 2 Flags.none true []).run
      (.plain total #[] ('\\' :: 'A' :: patternText tokens))
        = .ok ((.anchor .textStart :: nodes 0 tokens).map (⟨·, false⟩),
            .plain total groups []) := by
    rw [items]
    refine (run_bind_ok hpeek).trans ?_
    refine (run_bind_ok (run_discard (run_next_escape (patternText_ne tokens)))).trans ?_
    exact (run_bind_ok hanchor).trans hrun
  have hbranches (parts : List Part) :
      (branches (fuel + 7 + tokens.length + 1) 1 Flags.none true [parts]).run
        (.plain total groups []) = .ok ([parts], .plain total groups []) := by
    rw [branches]
    rfl
  rw [alternatives]
  refine (run_bind_ok hitems).trans ?_
  exact run_bind_ok (hbranches _)

theorem offence?_sequence {parts : List Node} (h : ∀ n ∈ parts, offence? false n = none) :
    offence? false (Node.sequence parts) = none := by
  induction parts with
  | nil => rfl
  | cons n rest ih =>
      obtain ⟨hn, hrest⟩ := List.forall_mem_cons.1 h
      cases rest with
      | nil => exact hn
      | cons m rest =>
          change (offence? false n).or (offence? false (Node.sequence (m :: rest))) = none
          rw [hn, ih hrest, Option.or_none]

theorem offence?_nodes (groups : Nat) (tokens : List Token) :
    ∀ n ∈ nodes groups tokens, offence? false n = none := by
  induction tokens generalizing groups with
  | nil => simp [nodes, offence?]
  | cons token tokens ih =>
      cases token with
      | literal c => exact List.forall_mem_cons.2 ⟨rfl, ih groups⟩
      | capture name => exact List.forall_mem_cons.2 ⟨rfl, ih (groups + 1)⟩

theorem run_expression (tokens : List Token) (total : Nat) :
    ∃ groups, expression.run (.plain total #[] ('\\' :: 'A' :: patternText tokens))
      = .ok ((root tokens, false), .plain total groups []) := by
  have hlength := length_le_patternText tokens
  have hfuel : tokens.length + 9 ≤ 4 * ('\\' :: 'A' :: patternText tokens).length + 8 := by
    rw [List.length_cons, List.length_cons]
    omega
  obtain ⟨groups, hrun⟩ := run_alternatives_tokens total tokens hfuel
  have hroot : sequenceOf ((.anchor .textStart :: nodes 0 tokens).map (⟨·, false⟩))
      = root tokens := by
    rw [sequenceOf, List.map_map]
    exact congrArg Node.sequence (List.map_id _)
  have hoffence : offence? false (root tokens) = none :=
    offence?_sequence (List.forall_mem_cons.2 ⟨rfl, offence?_nodes 0 tokens⟩)
  have hne : '\\' :: 'A' :: patternText tokens ≠ ['\\'] := by simp
  refine ⟨groups, ?_⟩
  rw [expression]
  refine (run_bind_ok run_get).trans ?_
  refine (run_bind_ok (run_goTo hne _)).trans ?_
  refine (run_bind_ok hrun).trans ?_
  refine (run_bind_ok run_get).trans ?_
  rw [hroot]
  simp only [State.plain, Flags.none, hoffence]
  rfl

/-- The expression of a template is well formed, and says what its tokens say. -/
theorem read_pattern (t : Template) :
    Pattern.read t.pattern = .ok ⟨t.pattern, root t.tokens, false⟩ := by
  obtain ⟨groups, hrun⟩ := run_expression t.tokens t.pattern.toList.length
  rw [← toList_pattern] at hrun
  have hstart : State.start false t.pattern.toList
      = .plain t.pattern.toList.length #[] t.pattern.toList := rfl
  rw [Pattern.read, Pattern.readAs, hstart, hrun]

end Whole

end ApiRouter.Template
