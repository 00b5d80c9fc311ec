/-!
# UTF-8

Reading characters from bytes. A character takes one to four bytes; the first byte fixes how many
follow and, for the borders of the code space, which range the second one lies in. Where bytes
are no character, the longest piece that could have begun one counts as a single gap. `decode?`
refuses a text with gaps and `decodeLossy` shows each as the replacement character.
-/

namespace BidArchive.Text.Utf8

/-- Reads `count` further bytes of a character whose bits so far are `bits`. The first of them
lies from `lo` to `hi`, the others in the common range. The rest begins with the first byte that
does not belong. -/
def tail (bits lo hi : Nat) : Nat → List UInt8 → Option Char × List UInt8
  | 0, rest => (some (Char.ofNat bits), rest)
  | _ + 1, [] => (none, [])
  | count + 1, b :: rest =>
    if lo ≤ b.toNat ∧ b.toNat ≤ hi then tail (bits * 64 + b.toNat % 64) 0x80 0xbf count rest
    else (none, b :: rest)

/-- Reads one character, or one gap, that begins with the given byte. -/
def next (b : UInt8) (rest : List UInt8) : Option Char × List UInt8 :=
  let n := b.toNat
  if n < 0x80 then (some (Char.ofNat n), rest)
  else if n < 0xc2 then (none, rest)
  else if n < 0xe0 then tail (n - 0xc0) 0x80 0xbf 1 rest
  else if n = 0xe0 then tail 0 0xa0 0xbf 2 rest
  else if n = 0xed then tail 0xd 0x80 0x9f 2 rest
  else if n < 0xf0 then tail (n - 0xe0) 0x80 0xbf 2 rest
  else if n = 0xf0 then tail 0 0x90 0xbf 3 rest
  else if n < 0xf4 then tail (n - 0xf0) 0x80 0xbf 3 rest
  else if n = 0xf4 then tail 4 0x80 0x8f 3 rest
  else (none, rest)

theorem length_tail_le (bits lo hi count : Nat) (rest : List UInt8) :
    (tail bits lo hi count rest).2.length ≤ rest.length := by
  induction count generalizing bits lo hi rest with
  | zero => simp [tail]
  | succ count ih =>
    cases rest with
    | nil => simp [tail]
    | cons b rest =>
      simp only [tail]
      split
      · exact Nat.le_succ_of_le (ih _ _ _ _)
      · exact Nat.le_refl _

theorem length_next_le (b : UInt8) (rest : List UInt8) :
    (next b rest).2.length ≤ rest.length := by
  simp only [next]
  repeat' split
  all_goals simp [length_tail_le]

/-- The characters and gaps of a byte text, in order. -/
def pieces : List UInt8 → List (Option Char)
  | [] => []
  | b :: rest => (next b rest).1 :: pieces (next b rest).2
termination_by bytes => bytes.length
decreasing_by
  have := length_next_le b rest
  simp only [List.length_cons]
  omega

/-- The characters of a byte text without gaps. -/
def decode? (bytes : List UInt8) : Option (List Char) := (pieces bytes).mapM id

/-- The characters of a byte text, with the replacement character for every gap. -/
def decodeLossy (bytes : List UInt8) : List Char :=
  (pieces bytes).map (·.getD (Char.ofNat 0xfffd))

/-- The bytes of a text. -/
def encode (cs : List Char) : List UInt8 := cs.flatMap String.utf8EncodeChar

end BidArchive.Text.Utf8
