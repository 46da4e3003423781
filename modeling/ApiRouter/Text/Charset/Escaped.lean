import ApiRouter.Text.Charset.EastAsian

set_option autoImplicit false

/-! # Charsets with escape sequences

Charsets of bytes below 128 that switch between coded sets of characters. One family switches by
escape sequences, the other by tildes. -/

namespace ApiRouter.Text.Charset

open DoubleByte

/-! ## Coded sets -/

/-- A coded set that an escape sequence can select. -/
inductive CodedSet where
  | ascii
  | latin
  | greek
  | roman
  | kana
  | hanzi
  | kanji
  | oldKanji
  | kanjiMore
  | hangul
  /-- The basic characters with the second extension, in its first or its last edition. -/
  | kanjiFirst (isLast : Bool)
  /-- What the second extension puts beside them, in its first or its last edition. -/
  | kanjiSecond (isLast : Bool)
  deriving DecidableEq, Repr

namespace CodedSet

/-- The last byte of the escape sequence that selects a set, and whether the set takes two bytes. -/
def mark : CodedSet → Char × Bool
  | .ascii => ('B', false)
  | .latin => ('A', false)
  | .greek => ('F', false)
  | .roman => ('J', false)
  | .kana => ('I', false)
  | .hanzi => ('A', true)
  | .kanji => ('B', true)
  | .oldKanji => ('@', true)
  | .kanjiMore => ('D', true)
  | .hangul => ('C', true)
  | .kanjiFirst isLast => (if isLast then 'Q' else 'O', true)
  | .kanjiSecond _ => ('P', true)

/-- The bytes that a character takes. -/
def width (set : CodedSet) : Nat := if set.mark.2 then 2 else 1

/-- The characters of the first bytes of a text, as many as the set takes. -/
def chars? (set : CodedSet) (bytes : List Nat) : Option (List Char) :=
  let a := bytes.headD 0
  let b := bytes.tail.headD 0
  let one (c : Option Char) : Option (List Char) := c.map ([·])
  match set with
  | .ascii => some [Char.ofNat a]
  -- these are there for single characters only
  | .latin | .greek => none
  | .roman => one (EastAsian.single? (.shiftJisNew true) a)
  | .kana => one (EastAsian.narrowKana? (EastAsian.plain a))
  | .hanzi => one (Charset.DoubleByte.hanzi.find? a b)
  | .kanji | .oldKanji => one (Charset.DoubleByte.kanji.find? a b)
  | .kanjiMore =>
    if a == 0x22 && b == 0x37 then some ['~'] else one (Charset.DoubleByte.kanjiMore.find? a b)
  | .hangul => one (Charset.DoubleByte.hangul.find? a b)
  | .kanjiFirst isLast => EastAsian.kanjiChars? isLast a b
  | .kanjiSecond isLast => one (EastAsian.secondChar? isLast a b)

/-- The character that a byte stands for after a single shift. -/
def shiftedChar? (set : CodedSet) (b : Nat) : Option Char :=
  let high := EastAsian.plain b
  match set with
  | .latin => if b < 0x80 then some (Char.ofNat high) else none
  | .greek =>
    if high < 0xA0 then some (Char.ofNat high)
    else if high == 0xA1 then some (Char.ofNat 0x2018)
    else if high == 0xA2 then some (Char.ofNat 0x2019)
    else if high == 0xAF then some (Char.ofNat 0x2015)
    else if [0xA0, 0xA3, 0xA6, 0xA7, 0xA8, 0xA9, 0xAB, 0xAC, 0xAD, 0xB0, 0xB1, 0xB2, 0xB3, 0xB7,
        0xBB, 0xBD].contains high then some (Char.ofNat high)
    else if 0xB4 ≤ high && high ≤ 0xFE && high != 0xD2 then some (Char.ofNat (0x2D0 + high))
    else none
  | _ => if b < 0x80 then some (Char.ofNat b) else none

end CodedSet

/-! ## Escape sequences -/

/-- A charset that switches by escape sequences. -/
structure Escaped where
  /-- The sets that can be selected besides ASCII. -/
  sets : List CodedSet
  /-- Whether two bytes switch between a first and a second selected set. -/
  shifts : Bool
  /-- Whether a set can be selected for single characters. -/
  shiftsOnce : Bool
  /-- Whether a longer escape sequence selects the basic Japanese characters as well. -/
  longEscape : Bool
  deriving DecidableEq, Repr

namespace Escaped

/-- The sets that are selected, and how the next byte is read. -/
structure State where
  first : CodedSet
  second : CodedSet
  once : CodedSet
  isShifted : Bool
  /-- Whether an escape sequence of another kind is passed through. -/
  isPassing : Bool
  deriving DecidableEq, Repr

/-- The state at the start. -/
def State.initial : State := ⟨.ascii, .ascii, .ascii, false, false⟩

/-- Whether a byte ends an escape sequence. -/
def isEnd (b : Nat) : Bool := 0x40 ≤ b && b ≤ 0x5A

/-- The length of an escape sequence: `none` if it does not end, and 0 if it is too long. The fuel
says how many bytes are looked at. -/
def escapeLength? (c : Escaped) : Nat → Nat → List Nat → Option Nat
  | 0, _, _ => some 0
  | fuel + 1, i, bytes =>
    match bytes.drop i with
    | [] => if i < 16 then none else some 0
    | b :: rest =>
      if 16 ≤ i then some 0
      else if isEnd b then some (i + 1)
      else if c.longEscape && b == 0x26 && rest.head? == some 0x40 then
        c.escapeLength? fuel (i + 3) bytes
      else c.escapeLength? fuel (i + 1) bytes

/-- The set that a mark selects. -/
def setOf? (c : Escaped) (mark : Nat) (isDouble : Bool) : Option CodedSet :=
  (.ascii :: c.sets).find? fun set => set.mark == (Char.ofNat mark, isDouble)

/-- The state after an escape sequence that is complete. -/
def select? (c : Escaped) (state : State) (sequence : List Nat) : Option State :=
  let toFirst (set : CodedSet) : State := { state with first := set }
  let toSecond (set : CodedSet) : State := { state with second := set }
  match sequence with
  | [_, 0x24, m] => (c.setOf? m true).map toFirst
  | [_, 0x28, m] => (c.setOf? m false).map toFirst
  | [_, 0x29, m] => (c.setOf? m false).map toSecond
  | [_, 0x2E, m] =>
    if c.shiftsOnce then (c.setOf? m false).map fun set => { state with once := set } else none
  | [_, 0x24, 0x28, m] => (c.setOf? m true).map toFirst
  | [_, 0x24, 0x29, m] => (c.setOf? m true).map toSecond
  | [_, _, _, 0x1B, 0x24, 0x42] =>
    if c.longEscape then (c.setOf? 0x42 true).map toFirst else none
  | _ => none

/-- What the bytes at the start of a text are. -/
def next (c : Escaped) (state : State) (bytes : List Nat) : State × Step :=
  let alone (b : Nat) : Step := .produced [Char.ofNat b] 1
  match bytes with
  | [] => (state, .incomplete)
  | b :: rest =>
    if state.isPassing then ({ state with isPassing := !isEnd b }, alone b)
    else if b == 0x1B then
      match rest with
      | [] => (state, .incomplete)
      | kind :: more =>
        if [0x24, 0x26, 0x28, 0x29, 0x2E].contains kind then
          match c.escapeLength? bytes.length 1 bytes with
          | none => (state, .incomplete)
          | some 0 => (state, .illegal 1)
          | some length =>
            match c.select? state (bytes.take length) with
            | some state => (state, .produced [] length)
            | none => (state, .illegal length)
        else if c.shiftsOnce && kind == 0x4E then
          match more with
          | [] => (state, .incomplete)
          | m :: _ =>
            match state.once.shiftedChar? m with
            | some character => (state, .produced [character] 3)
            | none => (state, .illegal 3)
        else ({ state with isPassing := true }, alone b)
    else if c.shifts && (b == 0x0E || b == 0x0F) then
      ({ state with isShifted := b == 0x0E }, .produced [] 1)
    else if b == 0x0A then ({ state with isShifted := false }, alone b)
    else if b < 0x20 then (state, alone b)
    else if 0x80 ≤ b then (state, .illegal 1)
    else
      let set := if state.isShifted then state.second else state.first
      if bytes.length < set.width then (state, .incomplete)
      else
        match set.chars? bytes with
        | some cs => (state, .produced cs set.width)
        | none => (state, .illegal set.width)

/-- The characters of bytes. -/
def decode? (c : Escaped) (bytes : List Nat) : Option (List Char) :=
  Step.decode? c.next bytes.length State.initial bytes

/-- The Japanese charset. -/
def japanese (more : List CodedSet) : Escaped := ⟨.kanji :: more, false, false, true⟩

/-- The Japanese charset with sets of other languages. -/
def multilingual : Escaped :=
  ⟨[.kanji, .kanjiMore, .hangul, .hanzi, .roman, .oldKanji, .latin, .greek], false, true, true⟩

/-- The Korean charset. -/
def korean : Escaped := ⟨[.hangul], true, false, false⟩

end Escaped

/-! ## Tildes -/

namespace Tilde

/-- What the bytes at the start of a text are, and whether Chinese characters follow. -/
def next (isChinese : Bool) (bytes : List Nat) : Bool × Step :=
  match bytes with
  | [] => (isChinese, .incomplete)
  | a :: rest =>
    if a == 0x7E then
      match rest with
      | [] => (isChinese, .incomplete)
      | b :: _ =>
        if isChinese then
          if b == 0x7D then (false, .produced [] 2) else (isChinese, .illegal 1)
        else if b == 0x7E then (isChinese, .produced ['~'] 2)
        else if b == 0x7B then (true, .produced [] 2)
        else if b == 0x0A then (isChinese, .produced [] 2)
        else (isChinese, .illegal 1)
    else if 0x80 ≤ a then (isChinese, .illegal 1)
    else if !isChinese then (isChinese, .produced [Char.ofNat a] 1)
    else
      match rest with
      | [] => (isChinese, .incomplete)
      | b :: _ => (isChinese, .ofChar? (hanzi.find? a b) 2)

/-- The characters of bytes. -/
def decode? (bytes : List Nat) : Option (List Char) :=
  Step.decode? next bytes.length false bytes

end Tilde

end ApiRouter.Text.Charset
