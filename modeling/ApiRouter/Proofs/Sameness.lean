import ApiRouter.Proofs.Outline
import ApiRouter.Proofs.PatternReading

set_option autoImplicit false

/-! # Which templates are equal

Templates are compared by the expressions that they write and by the names of their captures.
Reading an expression gives back the parts that it was written for: no literal character is taken
for a capture or for another character. The parts are those of the tokens but for the names, so
expression and names together determine the tokens, and with them the text of the template. Equal
templates are those of one text. -/

namespace ApiRouter.Template

open Pattern (Node)
open Pattern.Reader

variable {token other : Token} {tokens others : List Token} {t u : Template} {a b : String}

/-! ## From the expression to the tokens -/

/-- The part of the expression for a token after so many groups. -/
def part (groups : Nat) : Token → Node
  | .literal c => literal Flags.none c.toNat
  | .capture _ => .capture (groups + 1) segmentNode

/-- The number of groups after a token. -/
def groupsAfter (groups : Nat) : Token → Nat
  | .literal _ => groups
  | .capture _ => groups + 1

theorem nodes_cons (groups : Nat) (token : Token) (tokens : List Token) :
    nodes groups (token :: tokens)
      = part groups token :: nodes (groupsAfter groups token) tokens := by
  cases token with
  | literal c => rfl
  | capture name => rfl

/-- The end of the text always follows, so a sequence begins with its first part. -/
theorem sequence_cons_nodes (n : Node) (groups : Nat) (tokens : List Token) :
    Node.sequence (n :: nodes groups tokens) = .seq n (Node.sequence (nodes groups tokens)) := by
  cases tokens with
  | nil => rfl
  | cons token tokens => rw [nodes_cons, Node.sequence]; simp

/-- Tokens with the same part are one literal character, or captures. -/
theorem part_eq {groups : Nat} (h : part groups token = part groups other) :
    token = other ∨ ∃ name name', token = .capture name ∧ other = .capture name' := by
  cases token with
  | literal c =>
      cases other with
      | literal d =>
          have hcode : c.toNat = d.toNat := by simpa [part, literal] using h
          exact .inl (congrArg Token.literal (Char.toNat_inj.1 hcode))
      | capture name' => cases h
  | capture name =>
      cases other with
      | literal d => cases h
      | capture name' => exact .inr ⟨name, name', rfl, rfl⟩

/-- Tokens are known by their parts and their names. -/
theorem eq_of_sequence_nodes {groups : Nat}
    (hparts : Node.sequence (nodes groups tokens) = Node.sequence (nodes groups others))
    (hnames : tokens.filterMap Token.name? = others.filterMap Token.name?) : tokens = others := by
  induction tokens generalizing groups others with
  | nil =>
      cases others with
      | nil => rfl
      | cons other others =>
          rw [nodes_cons, sequence_cons_nodes] at hparts
          cases hparts
  | cons token tokens ih =>
      cases others with
      | nil =>
          rw [nodes_cons, sequence_cons_nodes] at hparts
          cases hparts
      | cons other others =>
          rw [nodes_cons, nodes_cons, sequence_cons_nodes, sequence_cons_nodes] at hparts
          obtain ⟨hpart, hparts⟩ := Node.seq.inj hparts
          rcases part_eq hpart with rfl | ⟨name, name', rfl, rfl⟩
          · cases token with
            | literal c => rw [ih hparts hnames]
            | capture name => rw [ih hparts (List.cons.inj hnames).2]
          · obtain ⟨hname, hnames⟩ := List.cons.inj hnames
            rw [String.ofList_inj.1 hname, ih hparts hnames]

/-- Reading an expression gives its parts, so templates of one expression have the same parts. -/
theorem tokens_eq_of_pattern_eq (hpattern : t.pattern = u.pattern) (hnames : t.names = u.names) :
    t.tokens = u.tokens := by
  have hread := read_pattern u
  rw [← hpattern, read_pattern t] at hread
  have hroot : root t.tokens = root u.tokens := (Pattern.mk.inj (Except.ok.inj hread)).2.1
  rw [root, root, sequence_cons_nodes, sequence_cons_nodes] at hroot
  exact eq_of_sequence_nodes (Node.seq.inj hroot).2 hnames

/-! ## From the tokens to the text -/

/-- Scanning loses nothing of a text. -/
theorem eq_of_tokens_eq (h : (ofString a).tokens = (ofString b).tokens) : a = b := by
  have houtline : (ofString a).outline = (ofString b).outline := congrArg Outline.ofTokens h
  have htext : a.toList = b.toList := by
    rw [← (outline_spells a).source_eq, ← (outline_spells b).source_eq, houtline]
  exact String.toList_injective htext

theorem eq_of_hashKey_eq (h : (ofString a).hashKey = (ofString b).hashKey) : a = b := by
  obtain ⟨hpattern, hnames⟩ := Prod.mk.inj h
  exact eq_of_tokens_eq (tokens_eq_of_pattern_eq hpattern hnames)

/-! ## Comparing templates -/

theorem same_iff_hashKey_eq : t.same u = true ↔ t.hashKey = u.hashKey := by
  simp [same, hashKey]

/-- **Which templates are equal.** Templates are equal exactly when their texts are, and then they
    have the same hash and the same captures on every path. Different texts never give the same
    expression with the same names. -/
theorem same_ofString_iff (a b : String) :
    ((ofString a).same (ofString b) = true ↔ a = b) ∧
      ((ofString a).hashKey = (ofString b).hashKey ↔ a = b) ∧
      ((ofString a).same (ofString b) = true →
        ∀ path, (ofString a).captures? path = (ofString b).captures? path) := by
  have hkey : (ofString a).hashKey = (ofString b).hashKey ↔ a = b :=
    ⟨eq_of_hashKey_eq, fun h => by rw [h]⟩
  refine ⟨same_iff_hashKey_eq.trans hkey, hkey, fun h path => ?_⟩
  rw [eq_of_hashKey_eq (same_iff_hashKey_eq.1 h)]

/-- A literal text may look like the expression of a capture. -/
example : (ofString "/([^/\\n]+)").same (ofString "/\x7bid\x7d") = false := by decide +kernel

end ApiRouter.Template
