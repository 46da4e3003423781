import ApiRouter.Pattern

set_option autoImplicit false

/-! # Searching with a regular expression

A backtracking matcher in continuation-passing form. A part of a pattern tries its ways in order of
preference and hands each result to the continuation, which stands for the rest of the pattern.

The ends of captures are marks. A way that fails leaves the marks that it set behind, and what comes
next decides how much of them is undone: always those that are new, and within a repetition also
those that were moved. -/

namespace ApiRouter.Pattern

/-- The two ends of each capture in turn, as far as they were ever set; `none` where they were
passed over. -/
abbrev Marks := Array (Option Nat)

namespace Marks

/-- Sets the mark at an index; marks between it and those known so far are passed over. -/
def put (m : Marks) (index position : Nat) : Marks :=
  if index < m.size then m.set! index (some position)
  else (m ++ Array.replicate (index - m.size) none).push (some position)

/-- The marks after a failed way: as they were, or only without those that are new. -/
def undo (all : Bool) (before after : Marks) : Marks :=
  if all then before else after.extract 0 before.size

/-- The ends of a capture, if it holds anything. -/
def ends? (m : Marks) (group : Nat) : Option (Nat × Nat) :=
  match m[2 * (group - 1)]?, m[2 * (group - 1) + 1]? with
  | some (some first), some (some last) => if first ≤ last then some (first, last) else none
  | _, _ => none

/-- Whether some capture ends before it starts, as a failed way may leave it. -/
def anyCrossed (m : Marks) : Bool :=
  (List.range (m.size / 2)).any fun i =>
    match m[2 * i]?, m[2 * i + 1]? with
    | some (some first), some (some last) => last < first
    | _, _ => false

end Marks

/-- A place in the text, and the marks so far. -/
structure Cursor where
  position : Nat
  marks : Marks

/-- Where a way ends, or the marks that a failed one leaves. -/
abbrev Outcome := Except Marks Cursor

/-- What follows a part of a pattern. -/
abbrev Continuation := Cursor → Outcome

/-- A part of a pattern as a matcher. -/
abbrev Matcher := Cursor → Continuation → Outcome

namespace Anchor

/-- Whether exactly one side of a place is a word character. -/
def atBoundary (text : Array Char) (ascii : Bool) (i : Nat) : Bool :=
  let word (c : Option Char) : Bool := c.any fun c => Category.word.holds ascii c
  word (if i == 0 then none else text[i - 1]?) != word text[i]?

/-- Whether the place `i` of the text is the required one; an empty text has no word boundary and no
place without one. -/
def holds (text : Array Char) (i : Nat) : Anchor → Bool
  | .textStart => i == 0
  | .textEnd => i == text.size
  | .finalLineEnd => i == text.size || (i + 1 == text.size && text[i]? == some '\n')
  | .lineStart => i == 0 || text[i - 1]? == some '\n'
  | .lineEnd => i == text.size || text[i]? == some '\n'
  | .boundary ascii => text.size != 0 && atBoundary text ascii i
  | .noBoundary ascii => text.size != 0 && !atBoundary text ascii i

end Anchor

/-! ## Single characters -/

/-- Whether two characters count as the same. -/
def sameChar (ignoreCase ascii : Bool) (a b : Char) : Bool :=
  if ignoreCase then smallOf ascii a == smallOf ascii b else a == b

/-- Whether `size` characters from `i` on repeat those from `j` on. -/
def repeats (text : Array Char) (ignoreCase ascii : Bool) (i j : Nat) : (size : Nat) → Bool
  | 0 => true
  | size + 1 =>
    match text[i]?, text[j]? with
    | some a, some b =>
      sameChar ignoreCase ascii a b && repeats text ignoreCase ascii (i + 1) (j + 1) size
    | _, _ => false

/-- The number of characters in a row that a set holds, at most `limit`. -/
def countOf (text : Array Char) (set : CharSet) (i : Nat) : (limit : Nat) → Nat
  | 0 => 0
  | limit + 1 =>
    match text[i]? with
    | some c => if set.holds c then countOf text set (i + 1) limit + 1 else 0
    | none => 0

/-! ## Repetition -/

/-- Tries the continuation after `low + more` characters, then after one less, down to `low`. -/
def fromMost (all : Bool) (start low : Nat) (next : Continuation) : (more : Nat) → Marks → Outcome
  | 0, m =>
    match next ⟨start + low, m⟩ with
    | .ok c => .ok c
    | .error after => .error (m.undo all after)
  | more + 1, m =>
    match next ⟨start + low + (more + 1), m⟩ with
    | .ok c => .ok c
    | .error after => fromMost all start low next more (m.undo all after)

/-- Tries the continuation after `count` characters, then after one more, for `more` times. -/
def fromLeast (all : Bool) (start count : Nat) (next : Continuation) :
    (more : Nat) → Marks → Outcome
  | 0, m =>
    match next ⟨start + count, m⟩ with
    | .ok c => .ok c
    | .error after => .error (m.undo all after)
  | more + 1, m =>
    match next ⟨start + count, m⟩ with
    | .ok c => .ok c
    | .error after => fromLeast all start (count + 1) next more (m.undo all after)

/-- The repetition of a single character. -/
def repeatOne (text : Array Char) (all : Bool) (greed : Greed) (set : CharSet) (low : Nat)
    (high : Option Nat) : Matcher := fun c next =>
  let left := text.size - c.position
  let count := countOf text set c.position (match high with
    | some n => min n left
    | none => left)
  if count < low then .error c.marks
  else
    match greed with
    | .greedy => fromMost all c.position low next (count - low) c.marks
    | .reluctant => fromLeast all c.position low next (count - low) c.marks
    | .possessive => next { c with position := c.position + count }

/-- Repetition that prefers more. A round that consumes nothing is followed by no other one beyond
the least count; `last` is where the latest round beyond it began. -/
def repeatGreedy (body : Matcher) (low : Nat) (high : Option Nat) (next : Continuation) :
    (fuel count : Nat) → (last : Option Nat) → Continuation
  | 0, _, _, c => .error c.marks
  | fuel + 1, count, last, c =>
    if count < low then body c (repeatGreedy body low high next fuel (count + 1) last)
    else if high.all (fun n => count < n) && last != some c.position then
      match body c (repeatGreedy body low high next fuel (count + 1) (some c.position)) with
      | .ok r => .ok r
      | .error _ => next c
    else next c

/-- Repetition that prefers less; `all` tells how much a failed rest undoes. -/
def repeatReluctant (all : Bool) (body : Matcher) (low : Nat) (high : Option Nat)
    (next : Continuation) : (fuel count : Nat) → (last : Option Nat) → Continuation
  | 0, _, _, c => .error c.marks
  | fuel + 1, count, last, c =>
    if count < low then body c (repeatReluctant all body low high next fuel (count + 1) last)
    else
      match next c with
      | .ok r => .ok r
      | .error after =>
        let marks := c.marks.undo all after
        if high.all (fun n => count < n) && last != some c.position then
          body { c with marks }
            (repeatReluctant all body low high next fuel (count + 1) (some c.position))
        else .error marks

/-- Repetition that never gives back: each round keeps to the first way that it finds. -/
def repeatPossessive (body : Matcher) (low : Nat) (high : Option Nat) :
    (fuel count : Nat) → (last : Option Nat) → Continuation
  | 0, _, _, c => .ok c
  | fuel + 1, count, last, c =>
    if count < low then
      match body c .ok with
      | .ok d => repeatPossessive body low high fuel (count + 1) last d
      | .error after => .error after
    else if high.all (fun n => count < n) && last != some c.position then
      match body c .ok with
      | .ok d => repeatPossessive body low high fuel (count + 1) (some c.position) d
      | .error _ => .ok c
    else .ok c

/-! ## Matching -/

/-- The matcher of a part of a pattern; `within` tells whether that part is repeated. -/
def Node.run (text : Array Char) (within : Bool) : Node → Matcher
  | .empty => fun c next => next c
  | .one set => fun c next =>
    match text[c.position]? with
    | some ch =>
      if set.holds ch then next { c with position := c.position + 1 } else .error c.marks
    | none => .error c.marks
  | .anchor place => fun c next =>
    if place.holds text c.position then next c else .error c.marks
  | .seq a b => fun c next => a.run text within c fun d => b.run text within d next
  | .alt a b => fun c next =>
    match a.run text within c next with
    | .ok r => .ok r
    | .error after =>
      let marks := c.marks.undo within after
      match b.run text within { c with marks } next with
      | .ok r => .ok r
      | .error after => .error (marks.undo within after)
  | .repetition greed low high body => fun c next =>
    match body with
    | .one set => repeatOne text within greed set low high c next
    | body =>
      let fuel := low + (text.size - c.position) + 2
      match greed with
      | .greedy => repeatGreedy (body.run text true) low high next fuel 0 none c
      | .reluctant => repeatReluctant within (body.run text true) low high next fuel 0 none c
      | .possessive =>
        match repeatPossessive (body.run text within) low high fuel 0 none c with
        | .ok d => next d
        | .error after => .error after
  | .capture group body => fun c next =>
    body.run text within { c with marks := c.marks.put (2 * (group - 1)) c.position } fun d =>
      next { d with marks := d.marks.put (2 * (group - 1) + 1) d.position }
  | .atomic body => fun c next =>
    match body.run text within c .ok with
    | .ok d => next d
    | .error after => .error after
  | .ahead negative body => fun c next => look c next negative (body.run text within c .ok)
  | .behind negative body => fun c next =>
    let size := body.width.low
    if c.position < size then (if negative then next c else .error c.marks)
    else look c next negative (body.run text within { c with position := c.position - size } .ok)
  | .backReference group ignoreCase ascii _ => fun c next =>
    match c.marks.ends? group with
    | some (first, last) =>
      if repeats text ignoreCase ascii first c.position (last - first) then
        next { c with position := c.position + (last - first) }
      else .error c.marks
    | none => .error c.marks
  | .conditional group whenSet otherwise => fun c next =>
    if (c.marks.ends? group).isSome then whenSet.run text within c next
    else otherwise.run text within c next
where
  /-- Goes on from where one looked around, given what was found. -/
  look (c : Cursor) (next : Continuation) (negative : Bool) (found : Outcome) : Outcome :=
    match found, negative with
    | .ok d, false => next { d with position := c.position }
    | .ok d, true => .error d.marks
    | .error after, false => .error after
    | .error after, true => next { c with marks := c.marks.undo within after }

/-! ## Where a match may start -/

/-- The set that accounts for the first character, if the pattern starts with a set. -/
def Node.firstSet? : Node → Option CharSet
  | .one set => some set
  | .capture _ body => body.firstSet?
  | .seq a _ => a.firstSet?
  | _ => none

/-- Whether a member is the same with and without regard to case. -/
def SetItem.isCaseless (ascii : Bool) : SetItem → Bool
  | .category _ _ => true
  | .code n => !hasCase ascii n
  | .range low high =>
    high < planeSize && (List.range (high + 1 - low)).all fun i => !hasCase ascii (low + i)

/-- Whether a match may start with a character: the first set is asked, with the named classes that
the flags of the whole expression give it. -/
def mayStart (p : Pattern) (c : Char) : Bool :=
  match p.root.firstSet? with
  | some set =>
    if set.ascii == p.ascii || p.root.width.low == 0 then true
    else if set.ignoreCase && !set.items.all (SetItem.isCaseless set.ascii) then true
    else CharSet.holds { set with ascii := p.ascii, ignoreCase := false } c
  | none => true

/-- Where the first match from a place on ends, with its captures. -/
def matchAt? (p : Pattern) (chars : Array Char) (i : Nat) : Option Cursor :=
  if chars[i]?.all (mayStart p) then (p.root.run chars false ⟨i, #[]⟩ .ok).toOption else none

/-- The first place in the text where the expression matches: where that match ends, with its
captures. -/
def find? (p : Pattern) (text : String) : Option Cursor :=
  let chars := text.toList.toArray
  (List.range (chars.size + 1)).findSome? (matchAt? p chars)

end ApiRouter.Pattern
