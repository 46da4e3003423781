import ApiRouter.Calendar
import ApiRouter.Number.Binary64
import ApiRouter.Ordered

set_option autoImplicit false

/-! # Document values

What a document holds once its text is decoded: scalars, lists, mappings in the order in which
their keys were written, and a few more. Keys are scalars of any kind, because a document may use
numbers, booleans or null as keys. -/

namespace ApiRouter

/-- A value without parts. -/
inductive Scalar where
  | null
  | bool (b : Bool)
  | int (n : Int)
  | float (x : Binary64)
  | text (s : String)
  | date (d : Date)
  | moment (m : Moment)
  | bytes (b : List UInt8)
  deriving DecidableEq, Repr, Inhabited

/-- A document value. Pairs and sets come only from documents that ask for them by name; a pair is
no list, and a set holds its members in the order in which they were written. A collection may hold
itself: it is written out level by level, and far inside there is a place from which on it is not
written out. Whoever gets that far would never come to an end. -/
inductive Value where
  | scalar (s : Scalar)
  | list (items : List Value)
  | map (entries : List (Scalar × Value))
  | pair (first second : Value)
  | set (members : List Scalar)
  | endless
  deriving Repr, Inhabited

/-- The entries of a mapping, in order. -/
abbrev Entries := List (Scalar × Value)

namespace Scalar

/-- The number that a scalar is when it serves as one: a boolean counts as zero or one. -/
def number? : Scalar → Option Number
  | .bool b => some (.int (if b then 1 else 0))
  | .int n => some (.int n)
  | .float x => some (.float x)
  | _ => none

/-- Whether two scalars are the same key: numbers and booleans by their numeric value, moments by
when they happen, everything else by identity. -/
def same (a b : Scalar) : Bool :=
  match a, b with
  | .float (.nan o), .float (.nan p) => o == p && o != .other
  | .moment m, .moment n => m.same n
  | a, b =>
    match a.number?, b.number? with
    | some x, some y => x.eq y
    | none, none => decide (a = b)
    | _, _ => false

instance : BEq Scalar := ⟨same⟩

end Scalar

namespace Value

mutual

/-- Identity of values is decidable. -/
def decEq : (a b : Value) → Decidable (a = b)
  | .scalar a, .scalar b => decidable_of_iff (a = b) (by simp)
  | .list a, .list b =>
    match decEqItems a b with
    | isTrue h => isTrue (by rw [h])
    | isFalse h => isFalse (by simpa using h)
  | .map a, .map b =>
    match decEqEntries a b with
    | isTrue h => isTrue (by rw [h])
    | isFalse h => isFalse (by simpa using h)
  | .pair a b, .pair c d =>
    match decEq a c, decEq b d with
    | isTrue h, isTrue h' => isTrue (by rw [h, h'])
    | isFalse h, _ => isFalse (by simp [h])
    | _, isFalse h => isFalse (by simp [h])
  | .set a, .set b => decidable_of_iff (a = b) (by simp)
  | .endless, .endless => isTrue rfl
  | .scalar _, .list _ | .scalar _, .map _ | .scalar _, .pair _ _ | .scalar _, .set _
  | .list _, .scalar _ | .list _, .map _ | .list _, .pair _ _ | .list _, .set _
  | .map _, .scalar _ | .map _, .list _ | .map _, .pair _ _ | .map _, .set _
  | .pair _ _, .scalar _ | .pair _ _, .list _ | .pair _ _, .map _ | .pair _ _, .set _
  | .set _, .scalar _ | .set _, .list _ | .set _, .map _ | .set _, .pair _ _
  | .scalar _, .endless | .list _, .endless | .map _, .endless | .pair _ _, .endless
  | .set _, .endless | .endless, .scalar _ | .endless, .list _ | .endless, .map _
  | .endless, .pair _ _ | .endless, .set _ => isFalse (by simp)

def decEqItems : (a b : List Value) → Decidable (a = b)
  | [], [] => isTrue rfl
  | [], _ :: _ | _ :: _, [] => isFalse (by simp)
  | x :: xs, y :: ys =>
    match decEq x y, decEqItems xs ys with
    | isTrue h, isTrue h' => isTrue (by rw [h, h'])
    | isFalse h, _ => isFalse (by simp [h])
    | _, isFalse h => isFalse (by simp [h])

def decEqEntries : (a b : Entries) → Decidable (a = b)
  | [], [] => isTrue rfl
  | [], _ :: _ | _ :: _, [] => isFalse (by simp)
  | (k, x) :: xs, (l, y) :: ys =>
    match decEq x y, decEqEntries xs ys, (inferInstance : Decidable (k = l)) with
    | isTrue h, isTrue h', isTrue h'' => isTrue (by rw [h, h', h''])
    | isFalse h, _, _ => isFalse (by simp [h])
    | _, isFalse h, _ => isFalse (by simp [h])
    | _, _, isFalse h => isFalse (by simp [h])

end

instance : DecidableEq Value := decEq

@[match_pattern] abbrev null : Value := .scalar .null
@[match_pattern] abbrev bool (b : Bool) : Value := .scalar (.bool b)
@[match_pattern] abbrev int (n : Int) : Value := .scalar (.int n)
@[match_pattern] abbrev float (x : Binary64) : Value := .scalar (.float x)
@[match_pattern] abbrev text (s : String) : Value := .scalar (.text s)
@[match_pattern] abbrev date (d : Date) : Value := .scalar (.date d)
@[match_pattern] abbrev moment (m : Moment) : Value := .scalar (.moment m)
@[match_pattern] abbrev bytes (b : List UInt8) : Value := .scalar (.bytes b)

/-- A mapping with text keys. -/
def object (entries : List (String × Value)) : Value :=
  .map (entries.map fun e => (.text e.1, e.2))

/-- A list of texts. -/
def texts (items : List String) : Value :=
  .list (items.map .text)

def isMap : Value → Bool
  | .map _ => true
  | _ => false

def isList : Value → Bool
  | .list _ => true
  | _ => false

/-- Null, false, zero and everything empty are not truthy. -/
def truthy : Value → Bool
  | .null => false
  | .bool b => b
  | .int n => n != 0
  | .float x => !x.isZero
  | .text s => !s.isEmpty
  | .date _ => true
  | .moment _ => true
  | .bytes b => !b.isEmpty
  | .list items => !items.isEmpty
  | .map entries => !entries.isEmpty
  | .pair _ _ | .endless => true
  | .set members => !members.isEmpty

mutual

/-- The number of places at which a value is not written out further. -/
def openEnds : Value → Nat
  | .scalar _ | .set _ => 0
  | .list items => openEndsOfItems items
  | .map entries => openEndsOfEntries entries
  | .pair a b => openEnds a + openEnds b
  | .endless => 1

def openEndsOfItems : List Value → Nat
  | [] => 0
  | v :: vs => openEnds v + openEndsOfItems vs

def openEndsOfEntries : Entries → Nat
  | [] => 0
  | (_, v) :: es => openEnds v + openEndsOfEntries es

end

/-- The number that a value is when it serves as one. -/
def number? : Value → Option Number
  | .scalar s => s.number?
  | _ => none

/-- The value itself, unless it is null. -/
def present? : Value → Option Value
  | .null => none
  | v => some v

end Value

namespace Entries

/-- The value under a text key. -/
def find? (m : Entries) (k : String) : Option Value :=
  Ordered.find? m (.text k)

/-- Whether a text key is bound. -/
def has (m : Entries) (k : String) : Bool :=
  Ordered.has m (.text k)

/-- The value under a text key, null when there is none. -/
def get (m : Entries) (k : String) : Value :=
  (find? m k).getD .null

/-- Binds a text key. -/
def insert (m : Entries) (k : String) (v : Value) : Entries :=
  Ordered.insert m (.text k) v

end Entries

end ApiRouter
