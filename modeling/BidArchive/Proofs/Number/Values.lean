import BidArchive.Proofs.Number.Integers

/-!
# Which texts are values

A value is read from more texts than those that spell a number in base ten or behind `0x` in base
sixteen. The bases eight and two have their marks too, underscores may stand between digits, before
and behind them, and what holds no digit at all is read as zero. `SpellsLoosely` says what is taken
for which number, and `ofText_eq_ok_iff` that a text is read if and only if that number fits.

Both readers look at the size of a number before they know it. Base ten looks at the leading digits,
which weigh no more than all digits do (`readTen_eq_ok_iff`). The other bases, which are powers of
two and start from the right, look at the weight of one digit, and what lies to the right of it
weighs less than one unit of its place (`readFromRight_eq_ok_iff`).

Strictly written texts (`Strict`) are those without underscores that announce no base but
sixteen and have a digit. Of the texts that are read they are the numerals
(`strict_iff_spellsWide`).
-/

namespace BidArchive.Numeral

open Text (hexValue?)

variable {base d n r : Nat} {c : Char} {cs : List Char} {text : String}

/-- The base that the front of a text announces, and what stands behind the mark. -/
def announcedBase : List Char → Nat × List Char
  | '0' :: mark :: rest =>
    if mark = 'x' ∨ mark = 'X' then (16, rest)
    else if mark = 'o' ∨ mark = 'O' then (8, rest)
    else if mark = 'b' ∨ mark = 'B' then (2, rest)
    else (10, '0' :: mark :: rest)
  | cs => (10, cs)

/-- Without underscores. -/
def plain (cs : List Char) : List Char := cs.filter (· ≠ '_')

/-- In the base that it announces the text spells the number, underscores apart. No digits spell
zero. -/
def SpellsLoosely (text : String) (n : Nat) : Prop :=
  SpellsIn (announcedBase text.toList).1 (plain (announcedBase text.toList).2) n

/-- The text is in base ten or sixteen, and what stands behind the mark is not empty and holds no
underscores. -/
structure Strict (text : String) : Prop where
  base : (announcedBase text.toList).1 = 10 ∨ (announcedBase text.toList).1 = 16
  some_digit : (announcedBase text.toList).2 ≠ []
  no_underscore : '_' ∉ (announcedBase text.toList).2

instance (text : String) : Decidable (Strict text) :=
  decidable_of_iff
    (((announcedBase text.toList).1 = 10 ∨ (announcedBase text.toList).1 = 16)
      ∧ (announcedBase text.toList).2 ≠ [] ∧ '_' ∉ (announcedBase text.toList).2)
    ⟨fun ⟨h₁, h₂, h₃⟩ => ⟨h₁, h₂, h₃⟩, fun h => ⟨h.1, h.2, h.3⟩⟩

/-! ## Bytes and characters -/

theorem toList_loop_eq (bytes : ByteArray) (i : Nat) (r : List UInt8) :
    ByteArray.toList.loop bytes i r = r.reverse ++ bytes.data.toList.drop i := by
  rw [ByteArray.toList.loop]
  split
  · next hlt =>
      have hlen : i < bytes.data.toList.length := hlt
      have hget : bytes.get! i = bytes.data.toList[i] := by
        show bytes.data[i]! = _
        rw [getElem!_pos bytes.data i hlt, Array.getElem_toList]
      rw [toList_loop_eq bytes (i + 1), List.drop_eq_getElem_cons hlen, List.reverse_cons, hget,
        List.append_assoc, List.singleton_append]
  · next hge =>
      rw [List.drop_eq_nil_of_le (Nat.le_of_not_lt hge), List.append_nil]
termination_by bytes.size - i

/-- The bytes of a text are those of its characters in a row. -/
theorem bytes_eq_flatMap (text : String) :
    text.toUTF8.toList = text.toList.flatMap String.utf8EncodeChar := by
  rw [ByteArray.toList, toList_loop_eq, List.reverse_nil, List.nil_append, List.drop_zero,
    String.toUTF8_eq_toByteArray, ← String.utf8Encode_toList, List.utf8Encode,
    List.toList_data_toByteArray]

/-- Text in ASCII has a byte for each character. -/
theorem bytes_of_ascii {text : String} (h : ∀ c ∈ text.toList, c.toNat < 0x80) :
    text.toUTF8.toList = text.toList.map Char.toUInt8 := by
  have hsingle : ∀ c ∈ text.toList, String.utf8EncodeChar c = [c.toUInt8] := by
    intro c hc
    have hle : c.val ≤ 127 := UInt32.le_iff_toNat_le.mpr (Nat.le_of_lt_succ (h c hc))
    exact String.utf8EncodeChar_eq_singleton (Char.utf8Size_eq_one_iff.mpr hle)
  rw [bytes_eq_flatMap]
  generalize text.toList = cs at hsingle
  induction cs with
  | nil => rfl
  | cons c rest ih =>
      obtain ⟨hc, hrest⟩ := List.forall_mem_cons.mp hsingle
      rw [List.flatMap_cons, hc, ih hrest]
      rfl

/-- In ASCII a character is known by its byte. -/
theorem toUInt8_eq_iff {a b : Char} (ha : a.toNat < 0x80) (hb : b.toNat < 0x80) :
    a.toUInt8 = b.toUInt8 ↔ a = b := by
  constructor
  · intro h
    have hnat : a.toNat % 256 = b.toNat % 256 := congrArg UInt8.toNat h
    rw [Nat.mod_eq_of_lt (by omega), Nat.mod_eq_of_lt (by omega)] at hnat
    exact Char.toNat_inj.mp hnat
  · rintro rfl
    rfl

/-- A byte whose value as a digit is below sixteen is a digit of base sixteen. -/
theorem hex_of_digitValue : ∀ n ∈ List.range 0x80,
    ∀ v ∈ Wide.digitValue? (Char.ofNat n).toUInt8, v < 16 → hexValue? (Char.ofNat n) = some v := by
  decide +kernel

theorem digitIn_eq (h : hexValue? c = some d) (hd : d < base) :
    Wide.digitIn base c.toUInt8 = .ok d := by
  unfold Wide.digitIn
  rw [(readings_of_hexValue? h).2.2]
  exact if_pos hd

theorem digitIn_eq_ok_iff (hbase : base ≤ 16) (hc : c.toNat < 0x80) :
    Wide.digitIn base c.toUInt8 = .ok d ↔ hexValue? c = some d ∧ d < base := by
  constructor
  · intro h
    unfold Wide.digitIn at h
    split at h
    · rename_i v hv
      split at h
      · rename_i hlt
        obtain rfl := Except.ok.inj h
        have hhex := hex_of_digitValue c.toNat (List.mem_range.mpr hc)
        rw [Char.ofNat_toNat] at hhex
        exact ⟨hhex v hv (Nat.lt_of_lt_of_le hlt hbase), hlt⟩
      · exact absurd h (by simp)
    · exact absurd h (by simp)
  · rintro ⟨hvalue, hlt⟩
    exact digitIn_eq hvalue hlt

/-- Digits are ASCII. -/
theorem lt_of_digitIn {byte : UInt8} (h : Wide.digitIn base byte = .ok d) : byte.toNat < 0x80 := by
  unfold Wide.digitIn Wide.digitValue? at h
  dsimp only at h
  by_cases hlt : byte.toNat < 0x80
  · exact hlt
  · rw [if_neg (by omega), if_neg (by omega), if_neg (by omega)] at h
    exact absurd h (by simp)

theorem lt_of_readTen {bytes : List UInt8} {value scale chunk count : Nat}
    (h : Wide.readTen value scale chunk count bytes = .ok r) : ∀ b ∈ bytes, b.toNat < 0x80 := by
  induction bytes generalizing value scale chunk count with
  | nil => exact fun b hb => absurd hb List.not_mem_nil
  | cons byte rest ih =>
      rw [Wide.readTen] at h
      split at h
      · rename_i hseparator
        exact List.forall_mem_cons.mpr ⟨by rw [hseparator]; decide, ih h⟩
      · cases hdigit : Wide.digitIn 10 byte with
        | error fault =>
            rw [hdigit] at h
            exact absurd h (by simp [bind, Except.bind])
        | ok d =>
            rw [hdigit] at h
            dsimp only [bind, Except.bind] at h
            refine List.forall_mem_cons.mpr ⟨lt_of_digitIn hdigit, ?_⟩
            split at h
            · split at h
              · exact absurd h (by simp)
              · exact ih h
            · exact ih h

theorem lt_of_readFromRight {bytes : List UInt8} {value scale : Nat}
    (h : Wide.readFromRight base value scale bytes = .ok r) : ∀ b ∈ bytes, b.toNat < 0x80 := by
  induction bytes generalizing value scale with
  | nil => exact fun b hb => absurd hb List.not_mem_nil
  | cons byte rest ih =>
      rw [Wide.readFromRight] at h
      split at h
      · rename_i hseparator
        exact List.forall_mem_cons.mpr ⟨by rw [hseparator]; decide, ih h⟩
      · cases hdigit : Wide.digitIn base byte with
        | error fault =>
            rw [hdigit] at h
            exact absurd h (by simp [bind, Except.bind])
        | ok d =>
            rw [hdigit] at h
            dsimp only [bind, Except.bind] at h
            refine List.forall_mem_cons.mpr ⟨lt_of_digitIn hdigit, ?_⟩
            split at h
            · exact ih h
            · exact absurd h (by simp)

/-- Apart from its mark and the zero in front, all of a text is behind the mark. -/
theorem splitBase_cases (bytes : List UInt8) :
    (Wide.splitBase bytes).2 = bytes
      ∨ ∃ mark, mark.toNat < 0x80 ∧ bytes = 48 :: mark :: (Wide.splitBase bytes).2 := by
  unfold Wide.splitBase
  split
  · rename_i mark rest
    by_cases hascii : mark.toNat < 0x80
    · split
      · exact Or.inr ⟨mark, hascii, rfl⟩
      split
      · exact Or.inr ⟨mark, hascii, rfl⟩
      split
      · exact Or.inr ⟨mark, hascii, rfl⟩
      · exact Or.inl rfl
    · -- no mark is beyond ASCII
      rw [if_neg, if_neg, if_neg]
      · exact Or.inl rfl
      all_goals
        rintro (rfl | rfl)
        all_goals exact hascii (by decide)
  · exact Or.inl rfl

/-- **What is read is ASCII.** -/
theorem lt_of_readBytes {bytes : List UInt8} (h : Wide.readBytes bytes = .ok r) :
    ∀ b ∈ bytes, b.toNat < 0x80 := by
  have hbehind : ∀ b ∈ (Wide.splitBase bytes).2, b.toNat < 0x80 := by
    unfold Wide.readBytes at h
    split at h
    · rename_i digits hsplit
      rw [hsplit]
      exact lt_of_readTen h
    · rename_i base digits _ hsplit
      rw [hsplit]
      exact fun b hb => lt_of_readFromRight h b (List.mem_reverse.mpr hb)
  rcases splitBase_cases bytes with hall | ⟨mark, hmark, hbytes⟩
  · rw [← hall]
    exact hbehind
  · rw [hbytes]
    exact List.forall_mem_cons.mpr ⟨by decide, List.forall_mem_cons.mpr ⟨hmark, hbehind⟩⟩

/-- A character beyond ASCII has a byte beyond ASCII. -/
theorem exists_byte_of_not_ascii (hc : 0x80 ≤ c.toNat) :
    ∃ b ∈ String.utf8EncodeChar c, 0x80 ≤ b.toNat := by
  have hv : ¬ c.val.toNat ≤ 127 := Nat.not_le.mpr hc
  have hlast : 0x80 ≤ (UInt8.ofNat (c.val.toNat % 64 + 128)).toNat := by
    rw [UInt8.toNat_ofNat']
    omega
  refine ⟨UInt8.ofNat (c.val.toNat % 64 + 128), ?_, hlast⟩
  unfold String.utf8EncodeChar
  dsimp only
  rw [if_neg hv]
  split
  · simp
  split
  · simp
  · simp

/-- Text whose bytes are ASCII is ASCII. -/
theorem ascii_of_bytes (h : ∀ b ∈ text.toUTF8.toList, b.toNat < 0x80) :
    ∀ c ∈ text.toList, c.toNat < 0x80 := by
  intro c hc
  by_contra hbeyond
  obtain ⟨b, hb, hlarge⟩ := exists_byte_of_not_ascii (Nat.le_of_not_lt hbeyond)
  have hsmall := h b (by
    rw [bytes_eq_flatMap]
    exact List.mem_flatMap.mpr ⟨c, hc, hb⟩)
  omega

/-! ## The readers -/

theorem plain_cons_underscore (cs : List Char) : plain ('_' :: cs) = plain cs := rfl

theorem plain_cons_of_ne (h : c ≠ '_') : plain (c :: cs) = c :: plain cs := by
  unfold plain
  rw [List.filter_cons, if_pos (by simpa using h)]

theorem toUInt8_eq_separator_iff (hc : c.toNat < 0x80) :
    c.toUInt8 = Wide.separator ↔ c = '_' :=
  toUInt8_eq_iff (b := '_') hc (by decide)

theorem append_eq_ok_iff {value scale chunk : Nat} :
    Wide.append value scale chunk = .ok r
      ↔ r = value * scale + chunk ∧ value * scale + chunk < Wide.bound := by
  unfold Wide.append
  constructor
  · intro h
    split at h
    · rename_i hfits
      exact ⟨(Except.ok.inj h).symm, hfits⟩
    · exact absurd h (by simp)
  · rintro ⟨rfl, hfits⟩
    rw [if_pos hfits]

/-- **Base ten is read if and only if the number fits**, behind what was read before. -/
theorem readTen_eq_ok_iff {value scale chunk count : Nat} (hcs : ∀ c ∈ cs, c.toNat < 0x80) :
    Wide.readTen value scale chunk count (cs.map Char.toUInt8) = .ok r
      ↔ ∃ n, SpellsIn 10 (plain cs) n
        ∧ r = (value * scale + chunk) * 10 ^ (plain cs).length + n ∧ r < Wide.bound := by
  induction cs generalizing value scale chunk count with
  | nil =>
      rw [List.map_nil, Wide.readTen, append_eq_ok_iff]
      constructor
      · rintro ⟨rfl, hfits⟩
        exact ⟨0, spellsIn_nil_iff.mpr rfl, by simp [plain], hfits⟩
      · rintro ⟨n, hn, hr, hfits⟩
        obtain rfl := spellsIn_nil_iff.mp hn
        have hread : r = value * scale + chunk := by simpa [plain] using hr
        exact ⟨hread, hread ▸ hfits⟩
  | cons c rest ih =>
      obtain ⟨hc, hrest⟩ := List.forall_mem_cons.mp hcs
      rw [List.map_cons, Wide.readTen]
      by_cases hbar : c = '_'
      · subst hbar
        rw [if_pos ((toUInt8_eq_separator_iff hc).mpr rfl), plain_cons_underscore]
        exact ih hrest
      rw [if_neg (mt (toUInt8_eq_separator_iff hc).mp hbar), plain_cons_of_ne hbar]
      cases hdigit : Wide.digitIn 10 c.toUInt8 with
      | error fault =>
          refine iff_of_false (by simp [bind, Except.bind]) ?_
          rintro ⟨n, hn, -⟩
          obtain ⟨d, m, hvalue, hd, -⟩ := spellsIn_cons_iff.mp hn
          rw [digitIn_eq hvalue hd] at hdigit
          exact absurd hdigit (by simp)
      | ok d =>
          obtain ⟨hvalue, hd⟩ := (digitIn_eq_ok_iff (by decide) hc).mp hdigit
          -- what was read before moves up by one digit for each one behind it
          have hsum : ∀ m, (value * scale + chunk) * 10 ^ (c :: plain rest).length
                + (d * 10 ^ (plain rest).length + m)
              = (value * (scale * 10) + (chunk * 10 + d)) * 10 ^ (plain rest).length + m := by
            intro m
            rw [List.length_cons]
            ring
          have hspells : (∃ n, SpellsIn 10 (c :: plain rest) n
                ∧ r = (value * scale + chunk) * 10 ^ (c :: plain rest).length + n ∧ r < Wide.bound)
              ↔ ∃ m, SpellsIn 10 (plain rest) m
                ∧ r = (value * (scale * 10) + (chunk * 10 + d)) * 10 ^ (plain rest).length + m
                ∧ r < Wide.bound := by
            constructor
            · rintro ⟨n, hn, hr, hfits⟩
              obtain ⟨d', m, hvalue', -, hm, rfl⟩ := spellsIn_cons_iff.mp hn
              obtain rfl := Option.some.inj (hvalue.symm.trans hvalue')
              exact ⟨m, hm, hr.trans (hsum m), hfits⟩
            · rintro ⟨m, hm, hr, hfits⟩
              refine ⟨d * 10 ^ (plain rest).length + m, ?_, hr.trans (hsum m).symm, hfits⟩
              exact spellsIn_cons_iff.mpr ⟨d, m, hvalue, hd, hm, rfl⟩
          rw [hspells]
          dsimp only [bind, Except.bind]
          split
          · -- a chunk is complete and goes behind the value, if that fits
            cases hchunk : Wide.append value (scale * 10) (chunk * 10 + d) with
            | error fault =>
                refine iff_of_false (by simp) ?_
                rintro ⟨m, -, hr, hfits⟩
                have hpos : 1 ≤ 10 ^ (plain rest).length := Nat.one_le_pow _ _ (by decide)
                have hgrows := Nat.mul_le_mul_left (value * (scale * 10) + (chunk * 10 + d)) hpos
                have hsmall : value * (scale * 10) + (chunk * 10 + d) < Wide.bound := by omega
                rw [append_eq_ok_iff.mpr ⟨rfl, hsmall⟩] at hchunk
                exact absurd hchunk (by simp)
            | ok v =>
                obtain ⟨rfl, -⟩ := append_eq_ok_iff.mp hchunk
                dsimp only
                rw [ih hrest]
                simp
          · exact ih hrest

/-- In a base that is a power of two, what lies to the right of a digit does not matter for whether
the number up to that digit fits. -/
theorem place_fits {k m value : Nat} (hvalue : value < 2 ^ m) (hfits : value < Wide.bound)
    (hd : d < 2 ^ k) (hplace : d * 2 ^ m < Wide.bound) :
    value + d * 2 ^ m < 2 ^ (m + k) ∧ value + d * 2 ^ m < Wide.bound := by
  have hunit : value + d * 2 ^ m < (d + 1) * 2 ^ m := by
    rw [Nat.succ_mul]
    omega
  have hbound : Wide.bound = 2 ^ 256 := by decide
  constructor
  · have hle : (d + 1) * 2 ^ m ≤ 2 ^ k * 2 ^ m := Nat.mul_le_mul_right _ hd
    rw [Nat.pow_add, Nat.mul_comm (2 ^ m)]
    omega
  · cases Nat.eq_zero_or_pos d with
    | inl hzero =>
        rw [hzero, Nat.zero_mul]
        exact hfits
    | inr hpos =>
        rw [hbound] at hplace ⊢
        have hone : 2 ^ m ≤ d * 2 ^ m := Nat.le_mul_of_pos_left _ hpos
        have hm : m < 256 :=
          (Nat.pow_lt_pow_iff_right (by decide)).mp (Nat.lt_of_le_of_lt hone hplace)
        have hcut : 2 ^ 256 = 2 ^ (256 - m) * 2 ^ m := by
          rw [← Nat.pow_add, Nat.sub_add_cancel (Nat.le_of_lt hm)]
        rw [hcut] at hplace ⊢
        have hlt : d < 2 ^ (256 - m) := Nat.lt_of_mul_lt_mul_right hplace
        exact Nat.lt_of_lt_of_le hunit (Nat.mul_le_mul_right _ hlt)

/-- **A power of two is read from the right if and only if the number fits**, in front of what was
read before. -/
theorem readFromRight_eq_ok_iff {k m value : Nat} (hbase : 2 ^ k ≤ 16) (hvalue : value < 2 ^ m)
    (hfits : value < Wide.bound) (hcs : ∀ c ∈ cs, c.toNat < 0x80) :
    Wide.readFromRight (2 ^ k) value (2 ^ m) (cs.map Char.toUInt8) = .ok r
      ↔ ∃ n, SpellsIn (2 ^ k) (plain cs).reverse n ∧ r = value + 2 ^ m * n ∧ r < Wide.bound := by
  induction cs generalizing value m with
  | nil =>
      rw [List.map_nil, Wide.readFromRight, Except.ok.injEq]
      constructor
      · rintro rfl
        exact ⟨0, spellsIn_nil_iff.mpr rfl, rfl, hfits⟩
      · rintro ⟨n, hn, rfl, -⟩
        obtain rfl := spellsIn_nil_iff.mp hn
        rfl
  | cons c rest ih =>
      obtain ⟨hc, hrest⟩ := List.forall_mem_cons.mp hcs
      rw [List.map_cons, Wide.readFromRight]
      by_cases hbar : c = '_'
      · subst hbar
        rw [if_pos ((toUInt8_eq_separator_iff hc).mpr rfl), plain_cons_underscore]
        exact ih hvalue hfits hrest
      rw [if_neg (mt (toUInt8_eq_separator_iff hc).mp hbar), plain_cons_of_ne hbar,
        List.reverse_cons]
      cases hdigit : Wide.digitIn (2 ^ k) c.toUInt8 with
      | error fault =>
          refine iff_of_false (by simp [bind, Except.bind]) ?_
          rintro ⟨n, hn, -⟩
          obtain ⟨d, q, hd_value, hd, -⟩ := spellsIn_append_singleton_iff.mp hn
          rw [digitIn_eq hd_value hd] at hdigit
          exact absurd hdigit (by simp)
      | ok d =>
          obtain ⟨hd_value, hd⟩ := (digitIn_eq_ok_iff hbase hc).mp hdigit
          have hsum : ∀ q, value + 2 ^ m * (q * 2 ^ k + d)
              = value + d * 2 ^ m + 2 ^ (m + k) * q := by
            intro q
            rw [Nat.pow_add]
            ring
          dsimp only [bind, Except.bind]
          split
          · rename_i hplace
            obtain ⟨hnext, hnext_fits⟩ := place_fits hvalue hfits hd hplace
            rw [← Nat.pow_add, ih hnext hnext_fits hrest]
            constructor
            · rintro ⟨q, hq, hr, hr_fits⟩
              refine ⟨q * 2 ^ k + d, ?_, hr.trans (hsum q).symm, hr_fits⟩
              exact spellsIn_append_singleton_iff.mpr ⟨d, q, hd_value, hd, hq, rfl⟩
            · rintro ⟨n, hn, hr, hr_fits⟩
              obtain ⟨d', q, hd_value', -, hq, rfl⟩ := spellsIn_append_singleton_iff.mp hn
              obtain rfl := Option.some.inj (hd_value.symm.trans hd_value')
              exact ⟨q, hq, hr.trans (hsum q), hr_fits⟩
          · -- this digit alone is too large
            rename_i hplace
            refine iff_of_false (by simp) ?_
            rintro ⟨n, hn, hr, hr_fits⟩
            obtain ⟨d', q, hd_value', -, hq, rfl⟩ := spellsIn_append_singleton_iff.mp hn
            obtain rfl := Option.some.inj (hd_value.symm.trans hd_value')
            rw [hsum] at hr
            omega

/-! ## Values -/

/-- The bytes of a text announce what its characters announce. -/
theorem splitBase_eq (hcs : ∀ c ∈ cs, c.toNat < 0x80) :
    Wide.splitBase (cs.map Char.toUInt8)
      = ((announcedBase cs).1, (announcedBase cs).2.map Char.toUInt8) := by
  unfold announcedBase
  split
  · rename_i mark rest
    have hmark : mark.toNat < 0x80 := hcs mark (by simp)
    have hmarks : ∀ m n : Char, m.toNat < 0x80 → n.toNat < 0x80 →
        (mark.toUInt8 = m.toUInt8 ∨ mark.toUInt8 = n.toUInt8 ↔ mark = m ∨ mark = n) := by
      intro m n hm hn
      rw [toUInt8_eq_iff hmark hm, toUInt8_eq_iff hmark hn]
    have hx := hmarks 'x' 'X' (by decide) (by decide)
    have ho := hmarks 'o' 'O' (by decide) (by decide)
    have hb := hmarks 'b' 'B' (by decide) (by decide)
    show (if mark.toUInt8 = 'x'.toUInt8 ∨ mark.toUInt8 = 'X'.toUInt8 then _
      else if mark.toUInt8 = 'o'.toUInt8 ∨ mark.toUInt8 = 'O'.toUInt8 then _
      else if mark.toUInt8 = 'b'.toUInt8 ∨ mark.toUInt8 = 'B'.toUInt8 then _ else _) = _
    by_cases h₁ : mark = 'x' ∨ mark = 'X'
    · rw [if_pos (hx.mpr h₁), if_pos h₁]
    rw [if_neg (mt hx.mp h₁), if_neg h₁]
    by_cases h₂ : mark = 'o' ∨ mark = 'O'
    · rw [if_pos (ho.mpr h₂), if_pos h₂]
    rw [if_neg (mt ho.mp h₂), if_neg h₂]
    by_cases h₃ : mark = 'b' ∨ mark = 'B'
    · rw [if_pos (hb.mpr h₃), if_pos h₃]
    rw [if_neg (mt hb.mp h₃), if_neg h₃]
    rfl
  · rename_i hnone
    unfold Wide.splitBase
    split
    · -- only a zero has the byte of a zero
      rename_i mark rest heq
      obtain ⟨first, tail, rfl, hfirst, htail⟩ := List.map_eq_cons_iff.mp heq
      obtain ⟨second, tail, rfl, hsecond, -⟩ := List.map_eq_cons_iff.mp htail
      have hzero : first = '0' :=
        (toUInt8_eq_iff (hcs first (by simp)) (by decide)).mp hfirst
      exact absurd (by rw [hzero]) (hnone second tail)
    · rfl

/-- **What a text may announce**: base ten with nothing before the digits, or one of the others with
a mark. -/
theorem announcedBase_cases (cs : List Char) :
    announcedBase cs = (10, cs)
      ∨ ∃ mark rest, cs = '0' :: mark :: rest
        ∧ ((mark = 'x' ∨ mark = 'X') ∧ announcedBase cs = (16, rest)
          ∨ (mark = 'o' ∨ mark = 'O') ∧ announcedBase cs = (8, rest)
          ∨ (mark = 'b' ∨ mark = 'B') ∧ announcedBase cs = (2, rest)) := by
  unfold announcedBase
  split
  · rename_i mark rest
    split
    · rename_i hmark
      exact Or.inr ⟨mark, rest, rfl, Or.inl ⟨hmark, rfl⟩⟩
    split
    · rename_i hmark
      exact Or.inr ⟨mark, rest, rfl, Or.inr (Or.inl ⟨hmark, rfl⟩)⟩
    split
    · rename_i hmark
      exact Or.inr ⟨mark, rest, rfl, Or.inr (Or.inr ⟨hmark, rfl⟩)⟩
    · exact Or.inl rfl
  · exact Or.inl rfl

/-- What stands behind the mark ends the text, and all in front of it is ASCII. -/
theorem exists_front (cs : List Char) :
    ∃ front, front ++ (announcedBase cs).2 = cs ∧ ∀ c ∈ front, c.toNat < 0x80 := by
  rcases announcedBase_cases cs with hten | ⟨mark, rest, rfl, hmark⟩
  · rw [hten]
    exact ⟨[], rfl, fun c hc => absurd hc List.not_mem_nil⟩
  · refine ⟨['0', mark], ?_,
      List.forall_mem_cons.mpr ⟨by decide, List.forall_mem_singleton.mpr ?_⟩⟩
    · rcases hmark with ⟨-, h⟩ | ⟨-, h⟩ | ⟨-, h⟩ <;> rw [h] <;> rfl
    · rcases hmark with ⟨rfl | rfl, -⟩ | ⟨rfl | rfl, -⟩ | ⟨rfl | rfl, -⟩ <;> decide

theorem plain_reverse (cs : List Char) : plain cs.reverse = (plain cs).reverse :=
  List.filter_reverse

/-- **What is announced is read if and only if it spells a number that fits.** -/
theorem readBytes_eq_ok_iff (hcs : ∀ c ∈ cs, c.toNat < 0x80) :
    Wide.readBytes (cs.map Char.toUInt8) = .ok r
      ↔ SpellsIn (announcedBase cs).1 (plain (announcedBase cs).2) r ∧ r < Wide.bound := by
  have hbehind : ∀ c ∈ (announcedBase cs).2, c.toNat < 0x80 := by
    obtain ⟨front, hcs_eq, -⟩ := exists_front cs
    intro c hc
    exact hcs c (hcs_eq ▸ List.mem_append_right front hc)
  have hreversed : ∀ c ∈ (announcedBase cs).2.reverse, c.toNat < 0x80 :=
    fun c hc => hbehind c (List.mem_reverse.mp hc)
  have hten : ∀ digits : List Char, (∀ c ∈ digits, c.toNat < 0x80) →
      (Wide.readTen 0 1 0 0 (digits.map Char.toUInt8) = .ok r
        ↔ SpellsIn 10 (plain digits) r ∧ r < Wide.bound) := by
    intro digits hdigits
    rw [readTen_eq_ok_iff hdigits]
    simp
  have htwo : ∀ k, 2 ^ k ≤ 16 →
      (Wide.readFromRight (2 ^ k) 0 1 ((announcedBase cs).2.map Char.toUInt8).reverse = .ok r
        ↔ SpellsIn (2 ^ k) (plain (announcedBase cs).2) r ∧ r < Wide.bound) := by
    intro k hk
    rw [← List.map_reverse]
    have hread := readFromRight_eq_ok_iff (r := r) hk (show 0 < 2 ^ 0 by decide) (by decide)
      hreversed
    rw [plain_reverse, List.reverse_reverse] at hread
    rw [show (1 : Nat) = 2 ^ 0 from rfl, hread]
    simp
  unfold Wide.readBytes
  rw [splitBase_eq hcs]
  rcases announcedBase_cases cs with h | ⟨_, _, _, ⟨_, h⟩ | ⟨_, h⟩ | ⟨_, h⟩⟩
  · rw [h]
    exact hten cs hcs
  · rw [h] at htwo ⊢
    exact htwo 4 (by decide)
  · rw [h] at htwo ⊢
    exact htwo 3 (by decide)
  · rw [h] at htwo ⊢
    exact htwo 1 (by decide)

/-- Only ASCII spells anything. -/
theorem SpellsLoosely.ascii (h : SpellsLoosely text n) : ∀ c ∈ text.toList, c.toNat < 0x80 := by
  obtain ⟨front, htext, hfront⟩ := exists_front text.toList
  intro c hc
  rw [← htext] at hc
  rcases List.mem_append.mp hc with hc | hc
  · exact hfront c hc
  · by_cases hbar : c = '_'
    · rw [hbar]
      decide
    · exact ascii_of_spellsIn h c (List.mem_filter.mpr ⟨hc, by simpa using hbar⟩)

/-- **A text is read as a value if and only if it spells it loosely.** -/
theorem ofText_eq_ok_iff {v : Wide} : Wide.ofText text = .ok v ↔ SpellsLoosely text v.toNat := by
  have hbound : Wide.bound = 2 ^ 256 := by decide
  unfold Wide.ofText
  rw [map_eq_ok_iff]
  constructor
  · rintro ⟨r, hr, rfl⟩
    have hascii := ascii_of_bytes (lt_of_readBytes hr)
    rw [bytes_of_ascii hascii, readBytes_eq_ok_iff hascii, hbound] at hr
    obtain ⟨hspells, hfits⟩ := hr
    unfold SpellsLoosely
    rwa [BitVec.toNat_ofNat, Nat.mod_eq_of_lt hfits]
  · intro hspells
    have hascii := hspells.ascii
    refine ⟨v.toNat, ?_, ?_⟩
    · rw [bytes_of_ascii hascii, readBytes_eq_ok_iff hascii, hbound]
      exact ⟨hspells, v.isLt⟩
    · rw [BitVec.ofNat_toNat, BitVec.setWidth_eq]

/-! ## Strictly written values -/

/-- Texts that hold no underscore are as they are without. -/
theorem plain_eq_self (h : '_' ∉ cs) : plain cs = cs := by
  unfold plain
  rw [List.filter_eq_self]
  intro c hc
  have hne : c ≠ '_' := by
    rintro rfl
    exact h hc
  simpa using hne

/-- No digit is an underscore. -/
theorem SpellsIn.no_underscore (h : SpellsIn base cs n) : '_' ∉ cs := by
  intro hmem
  obtain ⟨ds, hcs, -⟩ := h
  have hvalue : hexValue? '_' ∈ ds.map some := hcs ▸ List.mem_map_of_mem hmem
  have hnone : hexValue? '_' = none := by decide
  obtain ⟨d, -, hd⟩ := List.mem_map.mp hvalue
  rw [hnone] at hd
  exact absurd hd (by simp)

/-- Digits of base ten announce no base. -/
theorem announcedBase_of_spellsIn (h : SpellsIn 10 cs n) : announcedBase cs = (10, cs) := by
  unfold announcedBase
  split
  · rename_i mark rest
    obtain ⟨-, m, -, -, hrest, -⟩ := spellsIn_cons_iff.mp h
    obtain ⟨d, -, hmark, hd, -⟩ := spellsIn_cons_iff.mp hrest
    have hmarks : ∀ x : Char, (∀ v ∈ hexValue? x, 10 ≤ v) → mark ≠ x := by
      rintro x hx rfl
      have := hx d hmark
      omega
    rw [if_neg, if_neg, if_neg]
    all_goals
      rintro (hx | hx)
      all_goals exact hmarks _ (by decide) hx
  · rfl

theorem announcedBase_of_mark {mark : Char} (h : mark = 'x' ∨ mark = 'X') (cs : List Char) :
    announcedBase ('0' :: mark :: cs) = (16, cs) := if_pos h

/-- **A numeral spells its number**, and it is written strictly. -/
theorem SpellsWide.spellsLoosely (h : SpellsWide text n) : SpellsLoosely text n ∧ Strict text := by
  obtain ⟨digits, hne, ⟨htext, hspells⟩ | ⟨⟨mark, hmark, htext⟩, hspells⟩⟩ := h
  · have hbase := announcedBase_of_spellsIn hspells
    refine ⟨?_, ?_, ?_, ?_⟩
    · unfold SpellsLoosely
      rw [htext, hbase, plain_eq_self hspells.no_underscore]
      exact hspells
    · exact Or.inl (by rw [htext, hbase])
    · rw [htext, hbase]
      exact hne
    · rw [htext, hbase]
      exact hspells.no_underscore
  · have hbase := announcedBase_of_mark hmark digits
    refine ⟨?_, ?_, ?_, ?_⟩
    · unfold SpellsLoosely
      rw [htext, hbase, plain_eq_self hspells.no_underscore]
      exact hspells
    · exact Or.inr (by rw [htext, hbase])
    · rw [htext, hbase]
      exact hne
    · rw [htext, hbase]
      exact hspells.no_underscore

/-- **Strictly written, what spells a number is a numeral.** -/
theorem SpellsLoosely.spellsWide (h : SpellsLoosely text n) (hs : Strict text) :
    SpellsWide text n := by
  have hbase := hs.base
  have hdigits := hs.some_digit
  unfold SpellsLoosely at h
  rw [plain_eq_self hs.no_underscore] at h
  rcases announcedBase_cases text.toList with hten | ⟨mark, rest, htext, hmark⟩
  · rw [hten] at h hdigits
    exact ⟨text.toList, hdigits, Or.inl ⟨rfl, h⟩⟩
  · rcases hmark with ⟨hmark, hsixteen⟩ | ⟨-, height⟩ | ⟨-, htwo⟩
    · rw [hsixteen] at h hdigits
      exact ⟨rest, hdigits, Or.inr ⟨⟨mark, hmark, htext⟩, h⟩⟩
    · rw [height] at hbase
      exact absurd hbase (by simp)
    · rw [htwo] at hbase
      exact absurd hbase (by simp)

/-- **What is read as a value is a numeral of it if and only if it is written strictly.** -/
theorem strict_iff_spellsWide {v : Wide} (h : Wide.ofText text = .ok v) :
    Strict text ↔ SpellsWide text v.toNat :=
  ⟨fun hs => (ofText_eq_ok_iff.mp h).spellsWide hs, fun hw => hw.spellsLoosely.2⟩

end BidArchive.Numeral
