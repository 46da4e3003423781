import ApiRouter.Text.Case
import ApiRouter.Text.Digit
import ApiRouter.Text.Name
import ApiRouter.Text.Split
import ApiRouter.Text.Word

set_option autoImplicit false

/-! # Literals

The parameters of an action mark are literals: numbers, texts, bytes, a few constants, and tuples,
sets and mappings of literals. Here only their form counts. -/

namespace ApiRouter.Text.Literal

/-- What kind of literal there is, as far as it matters for what can be built with it. -/
inductive Kind where
  | real
  | imaginary
  | signedReal
  | signedImaginary
  | text
  | bytes
  /-- Another literal that can be a key. -/
  | other
  /-- A set or a mapping, or a tuple with one in it. -/
  | changeable
  deriving DecidableEq, Repr

/-- The kind of a tuple. -/
def tupleOf (kinds : List Kind) : Kind :=
  if kinds.contains .changeable then .changeable else .other

/-! ## White space -/

/-- What remains after blanks, comments and continued lines, and after line breaks if these do not
count. -/
def skipGap (breaks : Bool) : (fuel : Nat) → List Char → List Char
  | 0, cs => cs
  | fuel + 1, cs =>
    match cs with
    | '\\' :: '\n' :: rest => skipGap breaks fuel rest
    | '#' :: rest => skipGap breaks fuel (rest.dropWhile (· != '\n'))
    | c :: rest =>
      if c == ' ' || c == '\t' || c == '\x0c' || (breaks && (c == '\n' || c == '\r')) then
        skipGap breaks fuel rest
      else c :: rest
    | [] => []

/-- What remains after white space. -/
def skip (breaks : Bool) (cs : List Char) : List Char :=
  skipGap breaks (cs.length + 1) cs

/-! ## Numbers -/

/-- Whether the characters are digits with single underscores between them. -/
def areDigits (isDigit : Char → Bool) (cs : List Char) : Bool :=
  (split '_' cs).all fun part => !part.isEmpty && part.all isDigit

/-- Whether the characters are an exponent without its letter. -/
def isExponent : List Char → Bool
  | c :: rest =>
    if c == '+' || c == '-' then areDigits isAsciiDigit rest else areDigits isAsciiDigit (c :: rest)
  | [] => false

/-- Whether the characters are a number with a point or an exponent. -/
def isFraction (cs : List Char) : Bool :=
  let mantissa := cs.takeWhile fun c => c != 'e' && c != 'E'
  let exponent := cs.drop mantissa.length
  let whole := mantissa.takeWhile (· != '.')
  let parts := [whole, mantissa.drop (whole.length + 1)].filter fun part => !part.isEmpty
  !parts.isEmpty && parts.all (areDigits isAsciiDigit) &&
    (exponent.isEmpty || isExponent (exponent.drop 1)) &&
    (mantissa.contains '.' || !exponent.isEmpty)

/-- Whether the characters are a whole number of a base after its mark. -/
def isBased (isDigit : Char → Bool) : List Char → Bool
  | '_' :: rest => areDigits isDigit rest
  | cs => areDigits isDigit cs

/-- Whether the characters are a whole number. A decimal one does not start with zero unless it is
zero. -/
def isWhole (cs : List Char) : Bool :=
  match cs with
  | '0' :: mark :: rest =>
    if mark == 'x' || mark == 'X' then isBased (fun c => (hexValue? c).isSome) rest
    else if mark == 'o' || mark == 'O' then isBased (fun c => '0' ≤ c && c ≤ '7') rest
    else if mark == 'b' || mark == 'B' then isBased (fun c => c == '0' || c == '1') rest
    else areDigits (· == '0') cs
  | cs => areDigits isAsciiDigit cs

/-- The kind of the number that the characters are. -/
def numberKind? (cs : List Char) : Option Kind :=
  if isWhole cs || isFraction cs then some .real
  else
    match cs.getLast? with
    | some c =>
      let digits := cs.dropLast
      if (c == 'j' || c == 'J') && (areDigits isAsciiDigit digits || isFraction digits) then
        some .imaginary
      else none
    | none => none

/-- The characters of a number and what follows them. A sign may come after the letter of an
exponent, as `exponent` says of the first character; `based` says that there are no exponents. -/
def spanNumber (based exponent : Bool) : List Char → List Char × List Char
  | [] => ([], [])
  | c :: rest =>
    if c == '.' || isWord c then
      let (cs, left) := spanNumber based (!based && (c == 'e' || c == 'E')) rest
      (c :: cs, left)
    else if exponent && (c == '+' || c == '-') && rest.head?.any isAsciiDigit then
      let (cs, left) := spanNumber based false rest
      (c :: cs, left)
    else ([], c :: rest)

/-! ## Texts -/

/-- How many characters an escape takes after its backslash, if it is well-formed. -/
def escapeLength? (bytes : Bool) : List Char → Option Nat
  | [] => none
  | c :: rest =>
    let digits (n : Nat) : Option Nat :=
      match hexNumber? (rest.take n) with
      | some code => if (rest.take n).length == n && code ≤ 0x10FFFF then some (n + 1) else none
      | none => none
    if c == 'x' then digits 2
    else if bytes then some 1
    else if c == 'u' then digits 4
    else if c == 'U' then digits 8
    else if c == 'N' then
      match rest with
      | '\x7b' :: rest =>
        let name := rest.takeWhile (· != '\x7d')
        if name.length < rest.length && (codeOfName? (String.ofList name)).isSome then
          some (name.length + 3)
        else none
      | _ => none
    else some 1

/-- What follows the closing quote, which is three characters for a long text. -/
def afterQuote? (quote : Char) (long raw bytes : Bool) (skip : Nat) :
    List Char → Option (List Char)
  | [] => none
  | c :: rest =>
    match skip with
    | skip + 1 => afterQuote? quote long raw bytes skip rest
    | 0 =>
      if bytes && c.toNat ≥ 128 then none
      else if c == '\\' then
        if raw then (if rest.isEmpty then none else afterQuote? quote long raw bytes 1 rest)
        else do
          let length ← escapeLength? bytes rest
          afterQuote? quote long raw bytes length rest
      else if c == quote then
        if !long then some rest
        else
          match rest with
          | a :: b :: after =>
            if a == quote && b == quote then some after
            else afterQuote? quote long raw bytes 0 rest
          | _ => none
      else if !long && (c == '\n' || c == '\r') then none
      else afterQuote? quote long raw bytes 0 rest

/-- What follows a text or bytes that start at a quote. -/
def quoted? (raw bytes : Bool) : List Char → Option (List Char)
  | c :: d :: e :: rest =>
    if d == c && e == c then afterQuote? c true raw bytes 0 rest
    else afterQuote? c false raw bytes 0 (d :: e :: rest)
  | c :: rest => afterQuote? c false raw bytes 0 rest
  | [] => none

/-- What letters before a quote say: whether backslashes stay as they are, and whether there are
bytes. -/
def quoteLetters? (letters : List Char) : Option (Bool × Bool) :=
  match lower (String.ofList letters) with
  | "" | "u" => some (false, false)
  | "r" => some (true, false)
  | "b" => some (false, true)
  | "br" | "rb" => some (true, true)
  | _ => none

/-! ## Literals -/

/-- A constant or an empty set that a name stands for, and what follows it. -/
def named? (breaks : Bool) (name after : List Char) : Option (Kind × List Char) :=
  match String.ofList name with
  | "True" | "False" | "None" => some (.other, after)
  | "set" =>
    match skip breaks after with
    | '(' :: rest =>
      match skip true rest with
      | ')' :: rest => some (.changeable, rest)
      | _ => none
    | _ => none
  | _ => none

/-- The letters before a quote and what starts at the quote, if a quote comes next. -/
def quoteStart? (cs : List Char) : Option (List Char × List Char) :=
  let letters := cs.takeWhile isWord
  match cs.drop letters.length with
  | q :: rest => if q == '"' || q == '\'' then some (letters, q :: rest) else none
  | [] => none

/-- One text or bytes, and what follows. -/
def quotedKind? (letters cs : List Char) : Option (Kind × List Char) := do
  let (raw, bytes) ← quoteLetters? letters
  let rest ← quoted? raw bytes cs
  some (if bytes then .bytes else .text, rest)

/-- Texts or bytes in a row, after the first one, are one. -/
def adjacent? (breaks : Bool) (kind : Kind) : (fuel : Nat) → List Char → Option (Kind × List Char)
  | 0, _ => none
  | fuel + 1, cs =>
    match quoteStart? (skip breaks cs) with
    | none => some (kind, cs)
    | some (letters, rest) => do
      let (next, rest) ← quotedKind? letters rest
      if next == kind then adjacent? breaks kind fuel rest else none

mutual

/-- A literal without a sign, and what follows it. -/
def atom? (breaks : Bool) : (fuel : Nat) → List Char → Option (Kind × List Char)
  | 0, _ => none
  | fuel + 1, cs =>
    match cs with
    | '(' :: rest =>
      match skip true rest with
      | ')' :: rest => some (.other, rest)
      | rest => do
        let (kinds, ended, rest) ← items? true fuel rest
        match skip true rest, kinds, ended with
        | ')' :: rest, [kind], false => some (kind, rest)
        | ')' :: rest, kinds, _ => some (tupleOf kinds, rest)
        | _, _, _ => none
    | '\x7b' :: rest =>
      match skip true rest with
      | '\x7d' :: rest => some (.changeable, rest)
      | rest => members? none fuel rest
    | '.' :: '.' :: '.' :: rest => some (.other, rest)
    | [] => none
    | c :: rest =>
      if isAsciiDigit c || c == '.' then
        let based := c == '0' && rest.head?.any fun d => d == 'x' || d == 'X'
        let (number, rest) := spanNumber based false cs
        (numberKind? number).map (·, rest)
      else
        match quoteStart? cs with
        | some (letters, rest) => do
          let (kind, rest) ← quotedKind? letters rest
          adjacent? breaks kind (rest.length + 1) rest
        | none =>
          let name := cs.takeWhile isWord
          named? breaks name (cs.drop name.length)
termination_by structural fuel => fuel

/-- A literal that may have a sign if it is a number, and what follows it. -/
def signed? (breaks : Bool) : (fuel : Nat) → List Char → Option (Kind × List Char)
  | 0, _ => none
  | fuel + 1, cs =>
    match cs with
    | [] => none
    | c :: rest =>
      if c == '+' || c == '-' then do
        let (kind, rest) ← atom? breaks fuel (skip breaks rest)
        match kind with
        | .real => some (.signedReal, rest)
        | .imaginary => some (.signedImaginary, rest)
        | _ => none
      else atom? breaks fuel cs
termination_by structural fuel => fuel

/-- A literal, which may be the sum of a real and an imaginary number, and what follows it. -/
def sum? (breaks : Bool) : (fuel : Nat) → List Char → Option (Kind × List Char)
  | 0, _ => none
  | fuel + 1, cs => do
    let (kind, rest) ← signed? breaks fuel cs
    match skip breaks rest with
    | c :: after =>
      if c == '+' || c == '-' then do
        let (second, rest) ← atom? breaks fuel (skip breaks after)
        if (kind == .real || kind == .signedReal) && second == .imaginary then some (.other, rest)
        else none
      else some (kind, rest)
    | [] => some (kind, rest)
termination_by structural fuel => fuel

/-- Literals with commas between them, whether a comma ends them, and what follows. -/
def items? (breaks : Bool) : (fuel : Nat) → List Char → Option (List Kind × Bool × List Char)
  | 0, _ => none
  | fuel + 1, cs => do
    let (kind, rest) ← sum? breaks fuel cs
    match skip breaks rest with
    | ',' :: after =>
      let after := skip breaks after
      if after.isEmpty || after.head? == some ')' then some ([kind], true, after)
      else do
        let (kinds, ended, rest) ← items? breaks fuel after
        some (kind :: kinds, ended, rest)
    | rest => some ([kind], false, rest)
termination_by structural fuel => fuel

/-- The members of a set or the entries of a mapping up to the closing brace; `pairs` tells which
of them there are, once it is known. -/
def members? (pairs : Option Bool) : (fuel : Nat) → List Char → Option (Kind × List Char)
  | 0, _ => none
  | fuel + 1, cs => do
    let (kind, rest) ← sum? true fuel cs
    if kind == .changeable then none
    let (found, rest) ←
      match skip true rest with
      | ':' :: rest => do
        let (_, rest) ← sum? true fuel (skip true rest)
        some (true, skip true rest)
      | rest => some (false, rest)
    if pairs.any (· != found) then none
    match rest with
    | '\x7d' :: rest => some (.changeable, rest)
    | ',' :: rest =>
      match skip true rest with
      | '\x7d' :: rest => some (.changeable, rest)
      | rest => members? (some found) fuel rest
    | _ => none
termination_by structural fuel => fuel

end

/-- Whether the characters are a literal; one with commas is a tuple. -/
def isLiteral (cs : List Char) : Bool :=
  if cs.contains '\x00' then false
  else
    match items? false (6 * cs.length + 6) cs with
    | some (_, _, rest) => (skip true rest).isEmpty
    | none => false

end ApiRouter.Text.Literal
