import BidArchive.Text.Utf8

/-!
# Written characters are read

The bytes that a character is written as are read as that character, whatever follows them
(`next_utf8EncodeChar`): the first byte tells how many others belong to it, and the ranges for the
second one leave out what would take fewer bytes, the surrogates and what lies beyond the last
character. So a text is what is read from its bytes (`decode?_encode`).
-/

namespace BidArchive.Text.Utf8

variable {cs : List Char} {bits lo hi count b v : Nat} {rest : List UInt8}

/-- A byte in its range adds six bits. -/
theorem tail_cons (hlo : lo ≤ b) (hhi : b ≤ hi) (hb : b < 256) :
    tail bits lo hi (count + 1) (UInt8.ofNat b :: rest)
      = tail (bits * 64 + b % 64) 0x80 0xbf count rest := by
  have hbyte : (UInt8.ofNat b).toNat = b := UInt8.toNat_ofNat_of_lt' hb
  rw [tail, hbyte, if_pos ⟨hlo, hhi⟩]

/-- The last byte of a character holds its last six bits. -/
theorem tail_last (h : bits = v / 64) :
    tail bits 0x80 0xbf 1 (UInt8.ofNat (v % 64 + 128) :: rest) = (some (Char.ofNat v), rest) := by
  rw [tail_cons (by omega) (by omega) (by omega), tail, h]
  have hbits : v / 64 * 64 + (v % 64 + 128) % 64 = v := by omega
  rw [hbits]

/-- The last two bytes of a character hold its last twelve bits. -/
theorem tail_last_two (h : bits = v / 4096) (hlo : lo ≤ v / 64 % 64 + 128)
    (hhi : v / 64 % 64 + 128 ≤ hi) :
    tail bits lo hi 2 (UInt8.ofNat (v / 64 % 64 + 128) :: UInt8.ofNat (v % 64 + 128) :: rest)
      = (some (Char.ofNat v), rest) := by
  rw [tail_cons hlo hhi (by omega)]
  exact tail_last (by omega)

/-- The last three bytes of a character hold its last eighteen bits. -/
theorem tail_last_three (h : bits = v / 262144) (hlo : lo ≤ v / 4096 % 64 + 128)
    (hhi : v / 4096 % 64 + 128 ≤ hi) :
    tail bits lo hi 3 (UInt8.ofNat (v / 4096 % 64 + 128) :: UInt8.ofNat (v / 64 % 64 + 128)
        :: UInt8.ofNat (v % 64 + 128) :: rest)
      = (some (Char.ofNat v), rest) := by
  rw [tail_cons hlo hhi (by omega)]
  exact tail_last_two (by omega) (by omega) (by omega)

/-- What is read at the first byte, given as a number. -/
theorem next_ofNat (hb : b < 256) : next (UInt8.ofNat b) rest =
    if b < 0x80 then (some (Char.ofNat b), rest)
    else if b < 0xc2 then (none, rest)
    else if b < 0xe0 then tail (b - 0xc0) 0x80 0xbf 1 rest
    else if b = 0xe0 then tail 0 0xa0 0xbf 2 rest
    else if b = 0xed then tail 0xd 0x80 0x9f 2 rest
    else if b < 0xf0 then tail (b - 0xe0) 0x80 0xbf 2 rest
    else if b = 0xf0 then tail 0 0x90 0xbf 3 rest
    else if b < 0xf4 then tail (b - 0xf0) 0x80 0xbf 3 rest
    else if b = 0xf4 then tail 4 0x80 0x8f 3 rest
    else (none, rest) := by
  unfold next
  rw [UInt8.toNat_ofNat_of_lt' hb]

/-- The numbers of characters leave out the surrogates. -/
theorem toNat_cases (c : Char) : c.toNat < 0xd800 ∨ 0xdfff < c.toNat ∧ c.toNat < 0x110000 := c.valid

/-- **A character is read from its bytes**, and nothing behind them is touched. -/
theorem next_utf8EncodeChar (c : Char) (rest : List UInt8) : ∃ first others,
    String.utf8EncodeChar c = first :: others ∧ next first (others ++ rest) = (some c, rest) := by
  have hvalid := toNat_cases c
  obtain ⟨v, hv⟩ : ∃ v, c.val.toNat = v := ⟨_, rfl⟩
  have hself : c = Char.ofNat v := by rw [← hv]; exact (Char.ofNat_toNat c).symm
  unfold String.utf8EncodeChar
  unfold Char.toNat at hvalid
  rw [hv] at hvalid ⊢
  rw [hself]
  dsimp only
  split
  · refine ⟨_, _, rfl, ?_⟩
    rw [next_ofNat (by omega), if_pos (by omega), List.nil_append]
  split
  · refine ⟨_, _, rfl, ?_⟩
    rw [next_ofNat (by omega), if_neg (by omega), if_neg (by omega), if_pos (by omega)]
    exact tail_last (v := v) (by omega)
  split
  · refine ⟨_, _, rfl, ?_⟩
    rw [next_ofNat (by omega), if_neg (by omega), if_neg (by omega), if_neg (by omega)]
    split
    · exact tail_last_two (v := v) (by omega) (by omega) (by omega)
    split
    · exact tail_last_two (v := v) (by omega) (by omega) (by omega)
    · rw [if_pos (by omega)]
      exact tail_last_two (v := v) (by omega) (by omega) (by omega)
  · refine ⟨_, _, rfl, ?_⟩
    rw [next_ofNat (by omega), if_neg (by omega), if_neg (by omega), if_neg (by omega),
      if_neg (by omega), if_neg (by omega), if_neg (by omega)]
    split
    · exact tail_last_three (v := v) (by omega) (by omega) (by omega)
    split
    · exact tail_last_three (v := v) (by omega) (by omega) (by omega)
    · rw [if_pos (by omega)]
      exact tail_last_three (v := v) (by omega) (by omega) (by omega)

theorem pieces_encode (cs : List Char) : pieces (encode cs) = cs.map some := by
  induction cs with
  | nil => rw [encode, List.flatMap_nil, pieces, List.map_nil]
  | cons c rest ih =>
      obtain ⟨first, others, hbytes, hnext⟩ := next_utf8EncodeChar c (encode rest)
      have hencode : encode (c :: rest) = first :: (others ++ encode rest) := by
        unfold encode
        rw [List.flatMap_cons, hbytes, List.cons_append]
      rw [hencode, pieces, hnext, ih, List.map_cons]

/-- **A text is read from its bytes.** -/
theorem decode?_encode (cs : List Char) : decode? (encode cs) = some cs := by
  unfold decode?
  rw [pieces_encode]
  induction cs with
  | nil => rfl
  | cons c rest ih =>
      rw [List.map_cons, List.mapM_cons, ih]
      rfl

/-! ## Lengths -/

/-- Every character takes a byte at least. -/
theorem length_utf8EncodeChar_pos (c : Char) : 0 < (String.utf8EncodeChar c).length := by
  rw [String.length_utf8EncodeChar]
  exact c.utf8Size_pos

theorem length_encode_append (cs ds : List Char) :
    (encode (cs ++ ds)).length = (encode cs).length + (encode ds).length := by
  unfold encode
  rw [List.flatMap_append, List.length_append]

theorem length_encode_cons (c : Char) (cs : List Char) :
    (encode (c :: cs)).length = (String.utf8EncodeChar c).length + (encode cs).length := by
  unfold encode
  rw [List.flatMap_cons, List.length_append]

/-- The bytes of a text are as many as it is said to have. -/
theorem length_encode (text : String) : (encode text.toList).length = text.utf8ByteSize := by
  rw [← String.size_toByteArray, ← String.utf8Encode_toList, List.utf8Encode,
    List.size_toByteArray]
  rfl

/-- The end of a text is shorter than the text unless it is all of it. -/
theorem eq_of_suffix_of_length_le {shown : List Char} (h : shown <:+ cs)
    (hlen : (encode cs).length ≤ (encode shown).length) : shown = cs := by
  obtain ⟨hidden, rfl⟩ := h
  rw [length_encode_append] at hlen
  cases hidden with
  | nil => rfl
  | cons c hidden =>
      have hpos := length_utf8EncodeChar_pos c
      rw [length_encode_cons] at hlen
      omega

end BidArchive.Text.Utf8
