import BidArchive.Bid.Basic
import BidArchive.Text.Hex
import BidArchive.Proofs.Text.Parts

/-!
# The normal form of hexadecimal

Relays write the same bytes in either case, and some with blanks around them. All of that
is gone in normal form: whatever spells some bytes comes out as their hexadecimal in lower
case. Putting a text into normal form brings no bars into it, which matters where texts
are joined by bars.
-/

namespace BidArchive.Text

variable {c : Char} {cs before behind digits : List Char} {bytes : List UInt8} {n v : Nat}

/-! ## Lower case -/

theorem toNat_ofNat (n : Nat) : (Char.ofNat n).toNat = if n.isValidChar then n else 0 := by
  unfold Char.ofNat
  by_cases h : n.isValidChar
  · rw [dif_pos h, if_pos h]
    rfl
  · rw [dif_neg h, if_neg h]
    rfl

/-- Apart from the Latin capitals no character of ASCII has another lower case form. -/
theorem le_first_of_mem_tail : ∀ run ∈ lowerRuns.tail, 0x80 ≤ run.first := by decide +kernel

/-- No run of mappings comes upon the bar. -/
theorem bar_not_in_image : ∀ run ∈ lowerRuns,
    (run.last : Int) + run.shift < 0x7c ∨ 0x7c < (run.first : Int) + run.shift := by
  decide +kernel

/-- ASCII is put into lower case letter by letter. -/
theorem lowerChar_of_lt (h : c.toNat < 0x80) : lowerChar c = [c.toLower] := by
  have hdot : c ≠ 'İ' := by
    rintro rfl
    exact absurd h (by decide)
  have htail : lowerRuns.tail.find? (·.has c) = none := by
    refine List.find?_eq_none.mpr fun run hrun => ?_
    have := le_first_of_mem_tail run hrun
    simp only [ShiftRun.has, Bool.and_eq_true, decide_eq_true_iff]
    omega
  have hruns : lowerRuns = ⟨0x41, 0x5a, 1, 32⟩ :: lowerRuns.tail := rfl
  unfold lowerChar shifted?
  rw [if_neg hdot, hruns, List.find?_cons, htail]
  unfold Char.toLower
  by_cases hcap : c.val ≥ 'A'.val ∧ c.val ≤ 'Z'.val
  · have hlow : 0x41 ≤ c.toNat := UInt32.le_iff_toNat_le.mp hcap.1
    have hhigh : c.toNat ≤ 0x5a := UInt32.le_iff_toNat_le.mp hcap.2
    have hhas : ShiftRun.has ⟨0x41, 0x5a, 1, 32⟩ c = true := by
      simp [ShiftRun.has, hlow, hhigh, Nat.mod_one]
    rw [hhas, dif_pos hcap]
    refine congrArg (fun x => [x]) (Char.toNat_inj.mp ?_)
    show (Char.ofNat ((c.toNat : Int) + 32).toNat).toNat = (c.val + 32).toNat
    have hsum : ((c.toNat : Int) + 32).toNat = c.toNat + 32 := by omega
    have hvalid : (c.toNat + 32).isValidChar := Or.inl (by omega)
    rw [hsum, toNat_ofNat, if_pos hvalid, UInt32.toNat_add]
    exact (Nat.mod_eq_of_lt (show c.toNat + 32 < 2 ^ 32 by omega)).symm
  · have hhas : ShiftRun.has ⟨0x41, 0x5a, 1, 32⟩ c = false := by
      simp only [ShiftRun.has, Bool.and_eq_false_iff, decide_eq_false_iff_not]
      rcases Decidable.not_and_iff_or_not.mp hcap with hlow | hhigh
      · exact Or.inl (Or.inl fun h' => hlow (UInt32.le_iff_toNat_le.mpr h'))
      · exact Or.inl (Or.inr fun h' => hhigh (UInt32.le_iff_toNat_le.mpr h'))
    rw [hhas, dif_neg hcap]
    rfl

theorem lower_of_ascii (h : ∀ c ∈ cs, c.toNat < 0x80) : lower cs = cs.map Char.toLower := by
  suffices hbehind : ∀ before, lowerBehind before cs = cs.map Char.toLower from hbehind []
  induction cs with
  | nil => exact fun _ => rfl
  | cons c rest ih =>
      intro before
      obtain ⟨hc, hrest⟩ := List.forall_mem_cons.mp h
      have hsigma : c ≠ 'Σ' := by
        rintro rfl
        exact absurd hc (by decide)
      rw [lowerBehind, if_neg hsigma, lowerChar_of_lt hc, ih hrest]
      rfl

theorem bar_not_mem_lowerChar (h : c ≠ '|') : '|' ∉ lowerChar c := by
  unfold lowerChar
  split
  · decide
  split
  · next l hl =>
      obtain ⟨run, hrun, rfl⟩ := Option.map_eq_some_iff.mp hl
      have himage := bar_not_in_image run (List.mem_of_find?_eq_some hrun)
      have hhas := List.find?_some hrun
      simp only [ShiftRun.has, Bool.and_eq_true, decide_eq_true_iff] at hhas
      intro hbar
      have hnat : 0x7c = _ := congrArg Char.toNat (List.mem_singleton.mp hbar)
      rw [toNat_ofNat] at hnat
      split at hnat <;> omega
  · exact fun hbar => h (List.mem_singleton.mp hbar).symm

theorem bar_not_mem_lower (h : '|' ∉ cs) : '|' ∉ lower cs := by
  suffices hbehind : ∀ before, '|' ∉ lowerBehind before cs from hbehind []
  induction cs with
  | nil => exact fun _ => List.not_mem_nil
  | cons c rest ih =>
      intro before
      obtain ⟨hc, hrest⟩ := not_or.mp (mt List.mem_cons.mpr h)
      rw [lowerBehind]
      refine List.not_mem_append ?_ (ih hrest _)
      split
      · split <;> decide
      · exact bar_not_mem_lowerChar (Ne.symm hc)

/-! ## Blanks around -/

theorem trim_sublist (cs : List Char) : (trim cs).Sublist cs := by
  have hright := (List.dropWhile_sublist isBlank (l := (trimLeft cs).reverse)).reverse
  rw [List.reverse_reverse] at hright
  exact hright.trans (List.dropWhile_sublist isBlank)

/-- A text without blanks is what is left when the blanks around it go. -/
theorem trim_append (hbefore : ∀ c ∈ before, isBlank c) (hbehind : ∀ c ∈ behind, isBlank c)
    (hcs : ∀ c ∈ cs, isBlank c = false) : trim (before ++ cs ++ behind) = cs := by
  have hends : Bare cs := by
    constructor
    · exact fun c hc => hcs c (List.mem_of_head? hc)
    · exact fun c hc => hcs c (List.mem_of_getLast? hc)
  exact trim_around hbefore hbehind hends

/-- Putting a text into normal form brings no bars into it. -/
theorem bar_not_mem_normalHex {s : String} (h : '|' ∉ s.toList) : '|' ∉ (normalHex s).toList := by
  rw [normalHex, String.toList_ofList]
  exact bar_not_mem_lower fun hbar => h ((trim_sublist _).mem hbar)

/-! ## Digits -/

/-- What there is to know of the digits. -/
theorem digit_facts : ∀ n ∈ List.range 0x80, ∀ v ∈ hexValue? (Char.ofNat n),
    v < 16 ∧ (Char.ofNat n).toLower = hexDigit v ∧ isBlank (Char.ofNat n) = false := by
  decide +kernel

theorem lt_of_hexValue? (h : hexValue? c = some v) : c.toNat < 0x80 := by
  have hbounds : c.toNat ≤ '9'.toNat ∨ c.toNat ≤ 'f'.toNat ∨ c.toNat ≤ 'F'.toNat := by
    unfold hexValue? at h
    split at h
    · next hc => exact Or.inl hc.2
    split at h
    · next hc => exact Or.inr (Or.inl hc.2)
    split at h
    · next hc => exact Or.inr (Or.inr hc.2)
    · exact absurd h (by simp)
  rcases hbounds with hle | hle | hle <;> exact Nat.lt_of_le_of_lt hle (by decide)

theorem facts_of_hexValue? (h : hexValue? c = some v) :
    v < 16 ∧ c.toLower = hexDigit v ∧ isBlank c = false := by
  have hfacts := digit_facts c.toNat (List.mem_range.mpr (lt_of_hexValue? h))
  rw [Char.ofNat_toNat] at hfacts
  exact hfacts v h

theorem bar_ne_hexDigit : ∀ v < 16, '|' ≠ hexDigit v := by decide

theorem bar_not_mem_prefixedHex (bytes : List UInt8) : '|' ∉ (prefixedHex bytes).toList := by
  rw [prefixedHex, String.toList_ofList]
  refine List.not_mem_append (by decide) fun hbar => ?_
  obtain ⟨b, _, hb⟩ := List.mem_flatMap.mp hbar
  have hlt := b.toNat_lt
  rcases List.mem_cons.mp hb with hhi | hlo
  · exact bar_ne_hexDigit _ (by omega) hhi
  · exact bar_ne_hexDigit _ (Nat.mod_lt _ (by decide)) (List.mem_singleton.mp hlo)

/-- A byte is written in the digits it was read from. -/
theorem hexByte_ofNat {hi lo : Nat} (hhi : hi < 16) (hlo : lo < 16) :
    hexByte (UInt8.ofNat (hi * 16 + lo)) = [hexDigit hi, hexDigit lo] := by
  have hval : (UInt8.ofNat (hi * 16 + lo)).toNat = hi * 16 + lo :=
    UInt8.toNat_ofNat_of_lt' (show hi * 16 + lo < 256 by omega)
  unfold hexByte
  rw [hval, show (hi * 16 + lo) / 16 = hi by omega, show (hi * 16 + lo) % 16 = lo by omega]

theorem hexValue?_hexDigit : ∀ v < 16, hexValue? (hexDigit v) = some v := by decide

/-- Bytes are read back from the digits they are written in. -/
theorem bytesOfHex?_hexChars (bytes : List UInt8) : bytesOfHex? (hexChars bytes) = some bytes := by
  induction bytes with
  | nil => rfl
  | cons b rest ih =>
      have hb := b.toNat_lt
      have hsum : b.toNat / 16 * 16 + b.toNat % 16 = b.toNat := by omega
      have hchars : hexChars (b :: rest)
          = hexDigit (b.toNat / 16) :: hexDigit (b.toNat % 16) :: hexChars rest := rfl
      rw [hchars, bytesOfHex?, hexValue?_hexDigit _ (by omega), hexValue?_hexDigit _ (by omega), ih]
      simp only [Option.bind_eq_bind, Option.bind_some, hsum, UInt8.ofNat_toNat]
      rfl

theorem prefixedHex_inj {a b : List UInt8} (h : prefixedHex a = prefixedHex b) : a = b := by
  have hchars : hexChars a = hexChars b := List.append_cancel_left (String.ofList_inj.mp h)
  have hbytes := bytesOfHex?_hexChars a
  rw [hchars, bytesOfHex?_hexChars b] at hbytes
  exact (Option.some.inj hbytes).symm

/-- **In lower case the digits that spell some bytes are those the bytes are written in.** -/
theorem of_bytesOfHex? (h : bytesOfHex? digits = some bytes) :
    digits.map Char.toLower = hexChars bytes
      ∧ ∀ c ∈ digits, c.toNat < 0x80 ∧ isBlank c = false := by
  induction digits using bytesOfHex?.induct generalizing bytes with
  | case1 =>
      obtain rfl := Option.some.inj h
      exact ⟨rfl, fun _ hc => absurd hc List.not_mem_nil⟩
  | case2 => exact absurd h (by simp [bytesOfHex?])
  | case3 a b rest ih =>
      rw [bytesOfHex?] at h
      obtain ⟨hi, ha, h⟩ := Option.bind_eq_some_iff.mp h
      obtain ⟨lo, hb, h⟩ := Option.bind_eq_some_iff.mp h
      obtain ⟨tail, hrest, h⟩ := Option.bind_eq_some_iff.mp h
      obtain rfl := Option.some.inj h
      obtain ⟨hhi, hlowerA, hblankA⟩ := facts_of_hexValue? ha
      obtain ⟨hlo, hlowerB, hblankB⟩ := facts_of_hexValue? hb
      obtain ⟨hlower, hblank⟩ := ih hrest
      refine ⟨?_, List.forall_mem_cons.mpr ⟨⟨lt_of_hexValue? ha, hblankA⟩,
        List.forall_mem_cons.mpr ⟨⟨lt_of_hexValue? hb, hblankB⟩, hblank⟩⟩⟩
      unfold hexChars at hlower ⊢
      rw [List.map_cons, List.map_cons, hlower, List.flatMap_cons, hexByte_ofNat hhi hlo, hlowerA,
        hlowerB]
      rfl

/-- The text spells the bytes: `0x` or `0X` and two digits of either case for each of them, with
any blanks around. -/
def Spells (s : String) (bytes : List UInt8) : Prop :=
  ∃ before mark digits behind, s.toList = before ++ '0' :: mark :: digits ++ behind
    ∧ (∀ c ∈ before ++ behind, isBlank c) ∧ (mark = 'x' ∨ mark = 'X')
    ∧ bytesOfHex? digits = some bytes

/-- **Whatever spells the bytes has one normal form.** -/
theorem Spells.normalHex_eq {s : String} (h : Spells s bytes) :
    normalHex s = prefixedHex bytes := by
  obtain ⟨before, mark, digits, behind, htext, haround, hmark, hdigits⟩ := h
  obtain ⟨hlower, hchars⟩ := of_bytesOfHex? hdigits
  have hfront : mark.toNat < 0x80 ∧ isBlank mark = false ∧ mark.toLower = 'x' := by
    rcases hmark with rfl | rfl <;> decide
  have hcore : ∀ c ∈ '0' :: mark :: digits, c.toNat < 0x80 ∧ isBlank c = false :=
    List.forall_mem_cons.mpr ⟨by decide,
      List.forall_mem_cons.mpr ⟨⟨hfront.1, hfront.2.1⟩, hchars⟩⟩
  unfold normalHex prefixedHex
  rw [htext, trim_append (fun c hc => haround c (List.mem_append_left _ hc))
      (fun c hc => haround c (List.mem_append_right _ hc)) (fun c hc => (hcore c hc).2),
    lower_of_ascii fun c hc => (hcore c hc).1, List.map_cons, List.map_cons, hlower, hfront.2.2]
  rfl

end BidArchive.Text
