import BidArchive.Json.Number
import BidArchive.Text.Hex
import BidArchive.Text.Utf8

/-!
# Events of a JSON text

A JSON text is read as the list of what its bytes announce from left to right: a scalar, a key,
the start or end of an array or an object. Where the bytes stop being JSON the list ends with
`stray`; after a complete value it ends with `finish`. A decoder walks along the events and can
refuse a value of the wrong kind before it comes to a fault of the text further on.

Texts and numbers that are well formed but stand for nothing, such as one half of a surrogate
pair or a number beyond all bounds, are events without content: they only matter to a decoder that
wants the content.
-/

namespace BidArchive.Json

/-- What the bytes of a JSON text announce. -/
inductive Event
  | null
  | bool (b : Bool)
  | number (n : Option Number)
  | text (s : Option String)
  | key (s : Option String)
  | arrayStart
  | arrayEnd
  | objectStart
  | objectEnd
  /-- The bytes are not JSON from here on. -/
  | stray
  /-- The value is complete and only blanks follow. -/
  | finish
deriving DecidableEq, Repr

/-- Space, tab, line feed and carriage return. -/
def isBlankByte (b : UInt8) : Bool := b == 32 || b == 9 || b == 10 || b == 13

/-- The value of an ASCII digit. -/
def digitOf? (b : UInt8) : Option Nat :=
  if 48 ≤ b.toNat ∧ b.toNat ≤ 57 then some (b.toNat - 48) else none

/-- The value of a hexadecimal digit. -/
def hexOf? (b : UInt8) : Option Nat := Text.hexValue? (Char.ofNat b.toNat)

/-! ## Texts -/

/-- The content of a text gathered so far: its bytes from right to left, the first half of a
surrogate pair that waits for its second half, and whether all halves met so far were paired. -/
structure Content where
  bytes : List UInt8
  pending : Option Nat
  paired : Bool

namespace Content

/-- Nothing yet. -/
def empty : Content := ⟨[], none, true⟩

/-- Takes bytes that are no half of a pair. -/
def push (c : Content) (bytes : List UInt8) : Content :=
  ⟨bytes.reverse ++ c.bytes, none, c.paired && c.pending.isNone⟩

/-- Takes a code unit written by its number. -/
def unit (c : Content) (n : Nat) : Content :=
  if 0xdc00 ≤ n ∧ n < 0xe000 then
    match c.pending with
    | some high =>
      let code := 0x10000 + (high - 0xd800) * 0x400 + (n - 0xdc00)
      ⟨(String.utf8EncodeChar (Char.ofNat code)).reverse ++ c.bytes, none, c.paired⟩
    | none => ⟨c.bytes, none, false⟩
  else if 0xd800 ≤ n ∧ n < 0xdc00 then ⟨c.bytes, some n, c.paired && c.pending.isNone⟩
  else c.push (String.utf8EncodeChar (Char.ofNat n))

/-- The text, if every half was paired and the bytes are characters. -/
def text? (c : Content) : Option String :=
  if c.paired && c.pending.isNone then (Text.Utf8.decode? c.bytes.reverse).map String.ofList
  else none

end Content

/-- The byte that a letter behind a backslash stands for. -/
def escaped? (b : UInt8) : Option UInt8 :=
  if b = 34 ∨ b = 92 ∨ b = 47 then some b
  else if b = 98 then some 8
  else if b = 102 then some 12
  else if b = 110 then some 10
  else if b = 114 then some 13
  else if b = 116 then some 9
  else none

/-- Reads a text behind its opening quote. Answers what it holds and the bytes behind the closing
quote, or nothing when the text is not well formed. -/
def readText (c : Content) : List UInt8 → Option (Option String × List UInt8)
  | [] => none
  | 34 :: rest => some (c.text?, rest)
  | 92 :: 117 :: x₁ :: x₂ :: x₃ :: x₄ :: rest =>
    match hexOf? x₁, hexOf? x₂, hexOf? x₃, hexOf? x₄ with
    | some a, some b, some d, some e => readText (c.unit (((a * 16 + b) * 16 + d) * 16 + e)) rest
    | _, _, _, _ => none
  | 92 :: b :: rest =>
    match escaped? b with
    | some byte => readText (c.push [byte]) rest
    | none => none
  | b :: rest => if b.toNat < 32 ∨ b = 92 then none else readText (c.push [b]) rest

theorem length_readText_lt {c : Content} {bytes : List UInt8} {s : Option String}
    {rest : List UInt8} (h : readText c bytes = some (s, rest)) : rest.length < bytes.length := by
  fun_induction readText c bytes <;> simp_all <;> omega

/-! ## Numbers -/

/-- The leading digits and what follows them. -/
def takeDigits : List UInt8 → List Nat × List UInt8
  | [] => ([], [])
  | b :: rest =>
    match digitOf? b with
    | some d => (d :: (takeDigits rest).1, (takeDigits rest).2)
    | none => ([], b :: rest)

theorem length_takeDigits (bytes : List UInt8) :
    (takeDigits bytes).1.length + (takeDigits bytes).2.length = bytes.length := by
  induction bytes with
  | nil => rfl
  | cons b rest ih =>
    simp only [takeDigits]
    split
    · simp only [List.length_cons]
      omega
    · simp

/-- Reads the fraction behind a whole part, if there is one. -/
def readFraction : List UInt8 → Option (Option (List Nat) × List UInt8)
  | 46 :: rest =>
    match takeDigits rest with
    | ([], _) => none
    | (digits, rest) => some (some digits, rest)
  | bytes => some (none, bytes)

/-- The number that digits spell. -/
def valueOf (digits : List Nat) : Nat := digits.foldl (fun n d => n * 10 + d) 0

/-- Reads the exponent behind a number, if there is one. -/
def readExponent : List UInt8 → Option (Option Int × List UInt8)
  | b :: rest =>
    if b = 101 ∨ b = 69 then
      let (isNegative, rest) :=
        match rest with
        | 43 :: rest => (false, rest)
        | 45 :: rest => (true, rest)
        | rest => (false, rest)
      match takeDigits rest with
      | ([], _) => none
      | (digits, rest) =>
        some (some (if isNegative then -(valueOf digits : Int) else valueOf digits), rest)
    else some (none, b :: rest)
  | [] => some (none, [])

/-- Reads a number behind its sign. -/
def readNumber (isNegative : Bool) (bytes : List UInt8) :
    Option (Option Number × List UInt8) :=
  match takeDigits bytes with
  | ([], _) => none
  | (0 :: _ :: _, _) => none
  | (whole, rest) => do
    let (fraction, rest) ← readFraction rest
    let (exponent, rest) ← readExponent rest
    return (Number.ofDigits? isNegative whole fraction exponent, rest)

theorem length_readFraction_le {bytes rest : List UInt8} {f : Option (List Nat)}
    (h : readFraction bytes = some (f, rest)) : rest.length ≤ bytes.length := by
  unfold readFraction at h
  split at h
  · rename_i tail
    have := length_takeDigits tail
    split at h <;> simp_all
    omega
  · simp_all

theorem length_readExponent_le {bytes rest : List UInt8} {e : Option Int}
    (h : readExponent bytes = some (e, rest)) : rest.length ≤ bytes.length := by
  unfold readExponent at h
  split at h
  · rename_i b tail
    split at h
    · have key (bytes : List UInt8) := length_takeDigits bytes
      split at h
      rename_i s tail' heq
      have htail : tail'.length ≤ tail.length := by
        split at heq <;> simp_all
      have := key tail'
      split at h
      · simp at h
      · simp_all
        omega
    · simp_all
  · simp_all

theorem length_readNumber_lt {isNegative : Bool} {bytes rest : List UInt8} {n : Option Number}
    (h : readNumber isNegative bytes = some (n, rest)) : rest.length < bytes.length := by
  unfold readNumber at h
  have hlen := length_takeDigits bytes
  split at h
  · simp at h
  · simp at h
  · rename_i whole tail hne _ heq
    rw [heq] at hlen
    simp only [Option.bind_eq_bind, Option.bind_eq_some_iff, Option.pure_def, Option.some.injEq,
      Prod.mk.injEq] at h
    obtain ⟨⟨f, r₁⟩, h₁, ⟨e, r₂⟩, h₂, -, rfl⟩ := h
    have hfraction := length_readFraction_le h₁
    have hexponent := length_readExponent_le h₂
    have hwhole : 0 < whole.length := List.length_pos_iff.mpr hne
    dsimp only at hlen hfraction hexponent ⊢
    omega

/-! ## The whole text -/

/-- What may come next. -/
inductive Expect
  /-- A value. -/
  | value
  /-- A value, or the end of the array just opened. -/
  | firstItem
  /-- A key, or the end of the object just opened. -/
  | firstKey
  /-- A key. -/
  | key
  /-- The colon behind a key. -/
  | colon
  /-- What may stand behind a complete value: a comma or an end, or blanks when nothing is open. -/
  | next
deriving DecidableEq, Repr

/-- What is open around a place: an array or an object. -/
inductive Frame
  | array
  | object
deriving DecidableEq, Repr

/-- The bytes of the given ASCII word stand in front; answers what follows. -/
def dropWord? : List UInt8 → List UInt8 → Option (List UInt8)
  | [], bytes => some bytes
  | _ :: _, [] => none
  | w :: ws, b :: rest => if w = b then dropWord? ws rest else none

theorem length_dropWord_le {word bytes rest : List UInt8} (h : dropWord? word bytes = some rest) :
    rest.length ≤ bytes.length := by
  fun_induction dropWord? word bytes <;> simp_all
  omega

/-- The events of what is left of a text, given what may come next and what is open. -/
def scan (expect : Expect) (frames : List Frame) : List UInt8 → List Event
  | [] => if expect = .next ∧ frames = [] then [.finish] else [.stray]
  | b :: rest =>
    if isBlankByte b then scan expect frames rest
    else
      match expect with
      | .next =>
        match frames with
        | [] => [.stray]
        | .array :: outer =>
          if b = 44 then scan .value frames rest
          else if b = 93 then .arrayEnd :: scan .next outer rest
          else [.stray]
        | .object :: outer =>
          if b = 44 then scan .key frames rest
          else if b = 125 then .objectEnd :: scan .next outer rest
          else [.stray]
      | .colon => if b = 58 then scan .value frames rest else [.stray]
      | .firstKey | .key =>
        if b = 34 then
          match h : readText .empty rest with
          | some (s, tail) =>
            have := length_readText_lt h
            .key s :: scan .colon frames tail
          | none => [.stray]
        else if b = 125 ∧ expect = .firstKey then .objectEnd :: scan .next frames.tail rest
        else [.stray]
      | .firstItem | .value =>
        if b = 34 then
          match h : readText .empty rest with
          | some (s, tail) =>
            have := length_readText_lt h
            .text s :: scan .next frames tail
          | none => [.stray]
        else if b = 123 then .objectStart :: scan .firstKey (.object :: frames) rest
        else if b = 91 then .arrayStart :: scan .firstItem (.array :: frames) rest
        else if b = 93 ∧ expect = .firstItem then .arrayEnd :: scan .next frames.tail rest
        else if b = 45 then
          match h : readNumber true rest with
          | some (n, tail) =>
            have := length_readNumber_lt h
            .number n :: scan .next frames tail
          | none => [.stray]
        else if (digitOf? b).isSome then
          match h : readNumber false (b :: rest) with
          | some (n, tail) =>
            have : tail.length ≤ rest.length := Nat.le_of_lt_succ (length_readNumber_lt h)
            .number n :: scan .next frames tail
          | none => [.stray]
        else if b = 110 then
          match h : dropWord? [117, 108, 108] rest with
          | some tail =>
            have := length_dropWord_le h
            .null :: scan .next frames tail
          | none => [.stray]
        else if b = 116 then
          match h : dropWord? [114, 117, 101] rest with
          | some tail =>
            have := length_dropWord_le h
            .bool true :: scan .next frames tail
          | none => [.stray]
        else if b = 102 then
          match h : dropWord? [97, 108, 115, 101] rest with
          | some tail =>
            have := length_dropWord_le h
            .bool false :: scan .next frames tail
          | none => [.stray]
        else [.stray]
termination_by bytes => bytes.length

/-- The events of a JSON text. -/
def events (bytes : List UInt8) : List Event := scan .value [] bytes

end BidArchive.Json
