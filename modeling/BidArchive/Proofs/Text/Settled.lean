import Mathlib.Data.List.Basic
import Mathlib.Data.List.Forall2
import BidArchive.Proofs.Text.NormalForm

/-!
# Settled texts

A text in lower case is settled: putting it into lower case again changes nothing, although a
letter may have become two on the way and what becomes of a sigma depends on what stands around
it. It comes down to the table of mappings, where no run comes upon a character that another run
maps, upon the dotted capital I or upon a blank. Hence a text in normal form has no blanks around
it that trimming would still take away, and is its own normal form (`normalHex_normalHex`).

Within ASCII nothing else is lost on the way: two texts have one normal form just when what stands
between the blanks around them is the same letter by letter, but for the case of the letters
(`normalHex_eq_iff`).
-/

namespace BidArchive.Text

variable {c l : Char} {cs before form : List Char} {run other : ShiftRun} {range : Nat × Nat}

/-! ## The table of mappings -/

namespace ShiftRun

/-- Where the run takes a code point. -/
def imageOf (run : ShiftRun) (n : Nat) : Nat := ((n : Int) + run.shift).toNat

/-- The run takes nothing into the range. -/
def avoids (run : ShiftRun) (range : Nat × Nat) : Bool :=
  (run.imageOf run.last).blt range.1 || range.2.blt (run.imageOf run.first)

/-- The other run maps every second code point, and this one comes upon those between. -/
def alternates (run other : ShiftRun) : Bool :=
  other.step == 2 && (run.step == 2 || run.first == run.last)
    && (run.imageOf run.first + other.first) % 2 == 1

theorem has_iff : run.has c = true
    ↔ run.first ≤ c.toNat ∧ c.toNat ≤ run.last ∧ (c.toNat - run.first) % run.step = 0 := by
  simp only [has, Bool.and_eq_true, decide_eq_true_iff, beq_iff_eq, and_assoc]

theorem imageOf_of_avoids (h : run.avoids range = true) (hc : run.has c = true) :
    run.imageOf c.toNat < range.1 ∨ range.2 < run.imageOf c.toNat := by
  obtain ⟨hfirst, hlast, -⟩ := has_iff.mp hc
  simp only [avoids, Bool.or_eq_true, Nat.blt_eq] at h
  unfold imageOf at h ⊢
  omega

/-- What a run takes to the places between those of the other one is not in it. -/
theorem has_eq_false_of_alternates (h : run.alternates other = true)
    (hfirst : 0 ≤ (run.first : Int) + run.shift) (hc : run.has c = true)
    (hl : l.toNat = run.imageOf c.toNat) : other.has l = false := by
  rw [← Bool.not_eq_true, has_iff]
  rintro ⟨hother, -, hplace⟩
  obtain ⟨hlow, hhigh, hstep⟩ := has_iff.mp hc
  simp only [alternates, Bool.and_eq_true, Bool.or_eq_true, beq_iff_eq] at h
  obtain ⟨⟨htwo, heven⟩, hodd⟩ := h
  rw [htwo] at hplace
  unfold imageOf at hl hodd
  rcases heven with heven | hsingle
  · rw [heven] at hstep
    omega
  · omega

end ShiftRun

/-- No run leaves the code points, at either end. -/
theorem bounds_of_mem_lowerRuns : ∀ run ∈ lowerRuns,
    0 ≤ (run.first : Int) + run.shift ∧ run.imageOf run.last < 0x110000 := by
  decide +kernel

/-- No run comes upon the dotted capital I, upon a surrogate or upon a blank. -/
theorem avoids_of_mem_lowerRuns : ∀ run ∈ lowerRuns,
    ∀ range ∈ (0x130, 0x130) :: (0xd800, 0xdfff) :: blankRanges, run.avoids range = true := by
  decide +kernel

/-- **No run comes upon a character that a run maps.** -/
theorem apart_of_mem_lowerRuns : ∀ run ∈ lowerRuns, (lowerRuns.all fun other =>
    run.avoids (other.first, other.last) || run.alternates other) = true := by
  decide +kernel

/-- What a character is mapped to lies where one of the runs takes it. -/
theorem exists_run_of_shifted? (h : shifted? lowerRuns c = some l) :
    ∃ run ∈ lowerRuns, run.has c = true ∧ l.toNat = run.imageOf c.toNat := by
  obtain ⟨run, hfind, rfl⟩ := Option.map_eq_some_iff.mp h
  have hrun := List.mem_of_find?_eq_some hfind
  have hc := List.find?_some hfind
  refine ⟨run, hrun, hc, ?_⟩
  have hsurrogate := ShiftRun.imageOf_of_avoids
    (avoids_of_mem_lowerRuns run hrun (0xd800, 0xdfff) (by simp)) hc
  have hlimit := (bounds_of_mem_lowerRuns run hrun).2
  have hlast := (ShiftRun.has_iff.mp hc).2.1
  unfold ShiftRun.imageOf at hsurrogate hlimit ⊢
  rw [toNat_ofNat, if_pos]
  unfold Nat.isValidChar
  omega

/-! ## Settled characters -/

/-- A character that stays what it is in lower case, wherever it stands. -/
def Settled (c : Char) : Prop := c ≠ 'Σ' ∧ lowerChar c = [c]

instance (c : Char) : Decidable (Settled c) := inferInstanceAs (Decidable (_ ∧ _))

/-- A character that no run maps is settled, but for the dotted capital. -/
theorem settled_of_shifted?_none (hdot : c ≠ 'İ') (h : shifted? lowerRuns c = none) :
    Settled c := by
  constructor
  · rintro rfl
    exact absurd h (by decide +kernel)
  · unfold lowerChar
    rw [if_neg hdot, h]

/-- What a character is mapped to is settled and no blank. -/
theorem settled_of_shifted? (h : shifted? lowerRuns c = some l) :
    Settled l ∧ isBlank l = false := by
  obtain ⟨run, hrun, hc, hl⟩ := exists_run_of_shifted? h
  have havoids : ∀ range ∈ (0x130, 0x130) :: (0xd800, 0xdfff) :: blankRanges,
      l.toNat < range.1 ∨ range.2 < l.toNat := fun range hrange => by
    rw [hl]
    exact ShiftRun.imageOf_of_avoids (avoids_of_mem_lowerRuns run hrun range hrange) hc
  refine ⟨settled_of_shifted?_none ?_ ?_, ?_⟩
  · rintro rfl
    exact absurd (havoids _ List.mem_cons_self) (by decide)
  · refine Option.map_eq_none_iff.mpr (List.find?_eq_none.mpr fun other hother => ?_)
    have hapart := List.all_eq_true.mp (apart_of_mem_lowerRuns run hrun) other hother
    rcases Bool.or_eq_true_iff.mp hapart with hrange | halternates
    · have hplace := ShiftRun.imageOf_of_avoids hrange hc
      rw [ShiftRun.has_iff]
      dsimp only at hplace
      omega
    · have hfirst := (bounds_of_mem_lowerRuns run hrun).1
      rw [ShiftRun.has_eq_false_of_alternates halternates hfirst hc hl]
      exact Bool.false_ne_true
  · refine List.any_eq_false.mpr fun range hrange => ?_
    have hplace := havoids range (List.mem_cons_of_mem _ (List.mem_cons_of_mem _ hrange))
    simp only [Bool.and_eq_true, decide_eq_true_iff]
    omega

/-! ## Forms -/

/-- What a character may become in lower case, in one context or another. -/
structure Form (c : Char) (form : List Char) : Prop where
  ne_nil : form ≠ []
  settled : ∀ l ∈ form, Settled l
  /-- Blanks come of nothing but blanks. -/
  not_blank : isBlank c = false → ∀ l ∈ form, isBlank l = false

theorem form_singleton (hsettled : Settled l) (hblank : isBlank c = false → isBlank l = false) :
    Form c [l] :=
  ⟨List.cons_ne_nil _ _, List.forall_mem_singleton.mpr hsettled,
    fun hc => List.forall_mem_singleton.mpr (hblank hc)⟩

theorem form_lowerChar (c : Char) : Form c (lowerChar c) := by
  unfold lowerChar
  split
  · have hi : Settled 'i' ∧ isBlank 'i' = false := by decide +kernel
    have hmark : Settled (Char.ofNat 0x307) ∧ isBlank (Char.ofNat 0x307) = false := by
      decide +kernel
    exact ⟨List.cons_ne_nil _ _,
      List.forall_mem_cons.mpr ⟨hi.1, List.forall_mem_singleton.mpr hmark.1⟩,
      fun _ => List.forall_mem_cons.mpr ⟨hi.2, List.forall_mem_singleton.mpr hmark.2⟩⟩
  · next hdot =>
      split
      · next l hl =>
          obtain ⟨hsettled, hblank⟩ := settled_of_shifted? hl
          exact form_singleton hsettled fun _ => hblank
      · next hnone => exact form_singleton (settled_of_shifted?_none hdot hnone) id

/-- **A text is put into lower case form by form**, each picked by what stands around. -/
theorem exists_form (before : List Char) (c : Char) (rest : List Char) :
    ∃ form, Form c form ∧ lowerBehind before (c :: rest) = form ++ lowerBehind (c :: before) rest
      ∧ (Settled c → form = [c]) := by
  refine ⟨_, ?_, rfl, ?_⟩
  · split
    · have hfinal : Settled 'ς' ∧ isBlank 'ς' = false := by decide +kernel
      have hinner : Settled 'σ' ∧ isBlank 'σ' = false := by decide +kernel
      split
      · exact form_singleton hfinal.1 fun _ => hfinal.2
      · exact form_singleton hinner.1 fun _ => hinner.2
    · exact form_lowerChar c
  · rintro ⟨hsigma, hsame⟩
    rw [if_neg hsigma, hsame]

theorem settled_of_mem_lower (h : l ∈ lower cs) : Settled l := by
  suffices hbehind : ∀ before, l ∈ lowerBehind before cs → Settled l from hbehind [] h
  clear h
  induction cs with
  | nil => exact fun _ h => absurd h List.not_mem_nil
  | cons c rest ih =>
      intro before h
      obtain ⟨form, hform, heq, -⟩ := exists_form before c rest
      rw [heq] at h
      rcases List.mem_append.mp h with hl | hl
      · exact hform.settled l hl
      · exact ih _ hl

theorem lower_of_settled (h : ∀ c ∈ cs, Settled c) : lower cs = cs := by
  suffices hbehind : ∀ before, lowerBehind before cs = cs from hbehind []
  induction cs with
  | nil => exact fun _ => rfl
  | cons c rest ih =>
      intro before
      obtain ⟨hc, hrest⟩ := List.forall_mem_cons.mp h
      obtain ⟨form, -, heq, hsettled⟩ := exists_form before c rest
      rw [heq, hsettled hc, ih hrest]
      rfl

/-- **Lower case is put into lower case without change.** -/
theorem lower_lower (cs : List Char) : lower (lower cs) = lower cs :=
  lower_of_settled fun _ => settled_of_mem_lower

/-! ## Blanks around -/

theorem lowerBehind_ne_nil (h : cs ≠ []) : lowerBehind before cs ≠ [] := by
  cases cs with
  | nil => exact absurd rfl h
  | cons c rest =>
      obtain ⟨form, hform, heq, -⟩ := exists_form before c rest
      rw [heq]
      exact List.append_ne_nil_of_left_ne_nil hform.ne_nil _

theorem not_blank_of_mem_head? (h : ∀ c ∈ cs.head?, isBlank c = false) :
    ∀ l ∈ (lowerBehind before cs).head?, isBlank l = false := by
  cases cs with
  | nil => exact h
  | cons c rest =>
      obtain ⟨form, hform, heq, -⟩ := exists_form before c rest
      rw [heq, List.head?_append_of_ne_nil _ hform.ne_nil]
      exact fun l hl => hform.not_blank (h c rfl) l (List.mem_of_mem_head? hl)

theorem not_blank_of_mem_getLast? (h : ∀ c ∈ cs.getLast?, isBlank c = false) :
    ∀ l ∈ (lowerBehind before cs).getLast?, isBlank l = false := by
  induction cs generalizing before with
  | nil => exact h
  | cons c rest ih =>
      obtain ⟨form, hform, heq, -⟩ := exists_form before c rest
      rw [heq]
      cases rest with
      | nil =>
          rw [lowerBehind, List.append_nil]
          exact fun l hl => hform.not_blank (h c rfl) l (List.mem_of_getLast? hl)
      | cons d rest =>
          rw [List.getLast?_append_of_ne_nil _ (lowerBehind_ne_nil (List.cons_ne_nil d rest))]
          exact ih h

/-- A text without blanks around it has none around it in lower case. -/
theorem Bare.lower (h : Bare cs) : Bare (lower cs) :=
  ⟨not_blank_of_mem_head? h.1, not_blank_of_mem_getLast? h.2⟩

theorem Bare.trim_eq (h : Bare cs) : trim cs = cs :=
  trim_eq_iff.mpr ⟨h, [], [], blank_nil, blank_nil, by simp⟩

/-- **A text in normal form is its own normal form.** -/
theorem normalHex_normalHex (s : String) : normalHex (normalHex s) = normalHex s := by
  unfold normalHex
  rw [String.toList_ofList, (exists_trim s.toList).1.lower.trim_eq, lower_lower]

/-! ## ASCII -/

/-- All characters are of ASCII. -/
def Ascii (s : String) : Prop := ∀ c ∈ s.toList, c.toNat < 0x80

instance (s : String) : Decidable (Ascii s) :=
  decidable_of_iff (s.toList.all (·.toNat < 0x80) = true) <| by
    simp only [Ascii, List.all_eq_true, decide_eq_true_iff]

/-- The same character, or the two cases of a letter of ASCII. -/
def SameButCase (a b : Char) : Prop :=
  a = b ∨ a.isAlpha = true ∧ b.isAlpha = true ∧ (a.toNat + 32 = b.toNat ∨ b.toNat + 32 = a.toNat)

instance (a b : Char) : Decidable (SameButCase a b) := inferInstanceAs (Decidable (_ ∨ _))

theorem isUpper_iff : c.isUpper = true ↔ 65 ≤ c.toNat ∧ c.toNat ≤ 90 :=
  decide_eq_true_iff.trans (and_congr UInt32.le_iff_toNat_le UInt32.le_iff_toNat_le)

theorem isLower_iff : c.isLower = true ↔ 97 ≤ c.toNat ∧ c.toNat ≤ 122 :=
  (Bool.and_eq_true_iff.trans (and_congr decide_eq_true_iff decide_eq_true_iff)).trans
    (and_congr UInt32.le_iff_toNat_le UInt32.le_iff_toNat_le)

theorem isAlpha_iff : c.isAlpha = true
    ↔ (65 ≤ c.toNat ∧ c.toNat ≤ 90) ∨ 97 ≤ c.toNat ∧ c.toNat ≤ 122 :=
  Bool.or_eq_true_iff.trans (or_congr isUpper_iff isLower_iff)

theorem toNat_toLower (c : Char) :
    c.toLower.toNat = if c.isUpper then c.toNat + 32 else c.toNat := by
  have hcond : (c.val ≥ 'A'.val ∧ c.val ≤ 'Z'.val) ↔ c.isUpper = true := by
    rw [isUpper_iff, ge_iff_le, UInt32.le_iff_toNat_le, UInt32.le_iff_toNat_le]
    rfl
  unfold Char.toLower
  by_cases hupper : c.isUpper = true
  · rw [dif_pos (hcond.mpr hupper), if_pos hupper]
    have hhigh := (isUpper_iff.mp hupper).2
    show (c.val + 32).toNat = c.toNat + 32
    rw [UInt32.toNat_add]
    exact Nat.mod_eq_of_lt (show c.toNat + 32 < 2 ^ 32 by omega)
  · rw [dif_neg (mt hcond.mp hupper), if_neg hupper]

theorem toLower_eq_iff {a b : Char} : a.toLower = b.toLower ↔ SameButCase a b := by
  unfold SameButCase
  rw [← Char.toNat_inj, ← Char.toNat_inj, toNat_toLower, toNat_toLower]
  simp only [isUpper_iff, isAlpha_iff]
  split <;> split <;> omega

/-- **ASCII texts have one normal form just when they differ in nothing but the case of letters**,
the blanks around them left out. -/
theorem normalHex_eq_iff {s t : String} (hs : Ascii s) (ht : Ascii t) : normalHex s = normalHex t
    ↔ List.Forall₂ SameButCase (trim s.toList) (trim t.toList) := by
  have hlower : ∀ {s : String}, Ascii s →
      lower (trim s.toList) = (trim s.toList).map Char.toLower := fun h =>
    lower_of_ascii fun c hc => h c ((trim_sublist _).mem hc)
  unfold normalHex
  rw [String.ofList_inj, hlower hs, hlower ht, ← List.forall₂_eq_eq_eq, List.forall₂_map_left_iff,
    List.forall₂_map_right_iff]
  simp only [toLower_eq_iff]

end BidArchive.Text
