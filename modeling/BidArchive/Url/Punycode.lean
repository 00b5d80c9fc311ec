/-!
# Punycode

A label of a domain name with characters beyond ASCII is written in ASCII: its ASCII characters
first, then, behind a hyphen, where the others belong and which they are, as a sequence of
differences. A difference is a numeral in base 36 whose digits, from the lowest one up, end with
the first that is below a threshold. The thresholds follow a bias that adapts to the differences
seen.
-/

namespace BidArchive.Url.Punycode

/-- The first code point beyond ASCII. -/
def firstCode : Nat := 128

/-- The bias before any difference was seen. -/
def firstBias : Nat := 72

/-- The digit of a value below 36. -/
def digit (n : Nat) : Char := if n < 26 then Char.ofNat (97 + n) else Char.ofNat (22 + n)

/-- The value of a digit. -/
def value? (c : Char) : Option Nat :=
  if 'a' ≤ c ∧ c ≤ 'z' then some (c.toNat - 97)
  else if 'A' ≤ c ∧ c ≤ 'Z' then some (c.toNat - 65)
  else if '0' ≤ c ∧ c ≤ '9' then some (c.toNat - 22)
  else none

/-- The threshold of a digit that stands at `place`, which counts in steps of 36. -/
def threshold (place bias : Nat) : Nat := max 1 (min 26 (place - bias))

/-- Divides a difference by 35 until it is small, and counts the divisions in steps of 36. -/
def shrink (delta steps : Nat) : Nat × Nat :=
  if 455 < delta then shrink (delta / 35) (steps + 36) else (delta, steps)
termination_by delta

/-- The bias behind a difference, with `count` characters placed. -/
def adapt (delta count : Nat) (first : Bool) : Nat :=
  let scaled := if first then delta / 700 else delta / 2
  let (small, steps) := shrink (scaled + scaled / count) 0
  steps + 36 * small / (small + 38)

/-- The digits of a difference. -/
def numeral (bias place n : Nat) : List Char :=
  let t := threshold place bias
  if n < t then [digit n]
  else if h : t < 36 ∧ 1 ≤ t then
    digit (t + (n - t) % (36 - t)) :: numeral bias (place + 36) ((n - t) / (36 - t))
  else []
termination_by n
decreasing_by
  have := Nat.div_le_self (n - threshold place bias) (36 - threshold place bias)
  omega

/-- An encoding under way. -/
structure Writing where
  /-- Every character with a lower code point is placed. -/
  code : Nat := firstCode
  delta : Nat := 0
  bias : Nat := firstBias
  placed : Nat
  /-- How many of the placed characters are ASCII. -/
  basic : Nat
  /-- What was written, from right to left. -/
  text : List Char := []

/-- Passes over one character of the label while those of code point `w.code` are placed. -/
def Writing.pass (w : Writing) (c : Char) : Writing :=
  if c.toNat < w.code then { w with delta := w.delta + 1 }
  else if c.toNat = w.code then
    { w with
      text := (numeral w.bias 36 w.delta).reverse ++ w.text
      bias := adapt w.delta (w.placed + 1) (w.placed == w.basic)
      delta := 0
      placed := w.placed + 1 }
  else w

/-- Places all characters of one code point after the other, given in ascending order. -/
def Writing.place (label : List Char) (w : Writing) : List Nat → Writing
  | [] => w
  | code :: rest =>
    let w := { w with delta := w.delta + (code - w.code) * (w.placed + 1), code := code }
    let w := label.foldl Writing.pass w
    Writing.place label { w with delta := w.delta + 1, code := code + 1 } rest

/-- Puts a number into an ascending list that does not hold it yet. -/
def insertCode (n : Nat) : List Nat → List Nat
  | [] => [n]
  | m :: rest =>
    if n < m then n :: m :: rest else if n = m then m :: rest else m :: insertCode n rest

/-- Writes a label in ASCII. -/
def encode (label : List Char) : List Char :=
  let basic := label.filter fun c => decide (c.toNat < firstCode)
  let codes := (label.filter fun c => decide (firstCode ≤ c.toNat)).map Char.toNat
  let start : Writing := { placed := basic.length, basic := basic.length }
  let written := start.place label (codes.foldr insertCode [])
  basic ++ (if basic.isEmpty then [] else ['-']) ++ written.text.reverse

/-- Reads a difference: its value and what stands behind it. -/
def readNumeral (bias place weight sum : Nat) : List Char → Option (Nat × List Char)
  | [] => none
  | c :: rest => do
    let d ← value? c
    let t := threshold place bias
    if d < t then return (sum + d * weight, rest)
    else readNumeral bias (place + 36) (weight * (36 - t)) (sum + d * weight) rest

theorem length_of_readNumeral {bias place weight sum : Nat} {cs : List Char} {r : Nat × List Char}
    (h : readNumeral bias place weight sum cs = some r) : r.2.length < cs.length := by
  induction cs generalizing place weight sum with
  | nil => simp [readNumeral] at h
  | cons c rest ih =>
    simp only [readNumeral] at h
    cases hv : value? c with
    | none => simp [hv] at h
    | some d =>
      simp only [hv, Option.bind_eq_bind, Option.bind_some] at h
      split at h
      · cases h
        simp
      · have := ih h
        simp only [List.length_cons]
        omega

/-- Reads differences and places the characters that they tell. `start` is the place behind the
character placed last. -/
def readFrom (code start bias : Nat) (first : Bool) (label : List Char) (cs : List Char) :
    Option (List Char) :=
  match cs with
  | [] => some label
  | c :: rest =>
    match h : readNumeral bias 36 1 0 (c :: rest) with
    | none => none
    | some (delta, left) =>
      let size := label.length + 1
      let code := code + (start + delta) / size
      let place := (start + delta) % size
      if Nat.isValidChar code then
        have : left.length ≤ rest.length := Nat.le_of_lt_succ (length_of_readNumeral h)
        readFrom code (place + 1) (adapt delta size first) false
          (label.take place ++ Char.ofNat code :: label.drop place) left
      else none
termination_by cs.length

/-- What stands before and behind the last hyphen. A hyphen in front separates nothing. -/
def splitLast (cs : List Char) : List Char × List Char :=
  match cs.reverse.span (· ≠ '-') with
  | (back, _ :: c :: front) => ((c :: front).reverse, back.reverse)
  | _ => ([], cs)

/-- Reads a label from ASCII. -/
def decode? (cs : List Char) : Option (List Char) :=
  let (basic, rest) := splitLast cs
  if basic.all fun c => decide (c.toNat < firstCode) then
    readFrom firstCode 0 firstBias true basic rest
  else none

end BidArchive.Url.Punycode
