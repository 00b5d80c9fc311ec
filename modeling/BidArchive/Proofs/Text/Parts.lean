import BidArchive.Text.Blank
import Mathlib.Data.List.TakeWhile

/-!
# Parts of a text

What is left of a text when the blanks around it go, and what stands between separators. A text is
blanks, a core that neither begins nor ends with one, and blanks again, in one way only
(`trim_eq_iff`). It is what stands before the first separator, the separator and the rest, in one
way only (`splitOnce?_eq_some_iff`), and cutting it at all of them is what the library does
(`splitAt_eq_splitOn`).
-/

namespace BidArchive.Text

variable {c separator : Char} {cs core before behind front back part : List Char}

/-! ## Blanks around -/

/-- Nothing but blanks. -/
def Blank (cs : List Char) : Prop := ∀ c ∈ cs, isBlank c = true

/-- Without a blank at either end. -/
def Bare (cs : List Char) : Prop :=
  (∀ c ∈ cs.head?, isBlank c = false) ∧ ∀ c ∈ cs.getLast?, isBlank c = false

instance (cs : List Char) : Decidable (Blank cs) :=
  decidable_of_iff (cs.all isBlank = true) List.all_eq_true

instance (cs : List Char) : Decidable (Bare cs) :=
  decidable_of_iff (cs.head?.all (!isBlank ·) = true ∧ cs.getLast?.all (!isBlank ·) = true) <| by
    simp only [Bare, Option.all_eq_true, Option.mem_def, Bool.not_eq_true']

theorem blank_nil : Blank [] := fun _ h => absurd h List.not_mem_nil

theorem bare_nil : Bare [] := ⟨fun _ h => absurd h (by simp), fun _ h => absurd h (by simp)⟩

theorem blank_append : Blank (before ++ behind) ↔ Blank before ∧ Blank behind :=
  List.forall_mem_append

theorem Blank.not_mem (h : Blank cs) (hc : isBlank c = false) : c ∉ cs := by
  intro hmem
  exact absurd (h c hmem) (by rw [hc]; decide)

/-- Blanks in front go, and what comes first of the rest stays. -/
theorem trimLeft_around (hbefore : Blank before) (hhead : ∀ c ∈ cs.head?, isBlank c = false) :
    trimLeft (before ++ cs) = cs := by
  unfold trimLeft
  rw [List.dropWhile_append_of_pos hbefore]
  cases cs with
  | nil => rfl
  | cons c rest => exact List.dropWhile_cons_of_neg (by rw [hhead c rfl]; decide)

theorem trimRight_eq (cs : List Char) : trimRight cs = (trimLeft cs.reverse).reverse := rfl

theorem trimRight_around (hbehind : Blank behind) (hlast : ∀ c ∈ cs.getLast?, isBlank c = false) :
    trimRight (cs ++ behind) = cs := by
  rw [trimRight_eq, List.reverse_append,
    trimLeft_around (fun c hc => hbehind c (List.mem_reverse.mp hc))
      (by rwa [List.head?_reverse]), List.reverse_reverse]

/-- A core with blanks around it is what is left when they go. -/
theorem trim_around (hbefore : Blank before) (hbehind : Blank behind) (hcore : Bare core) :
    trim (before ++ core ++ behind) = core := by
  unfold trim
  cases core with
  | nil =>
      have hall : Blank (before ++ [] ++ behind) := by
        rw [List.append_nil]
        exact blank_append.mpr ⟨hbefore, hbehind⟩
      have hleft := trimLeft_around hall bare_nil.1
      rw [List.append_nil] at hleft
      rw [hleft]
      rfl
  | cons c rest =>
      have hleft : trimLeft (before ++ (c :: rest ++ behind)) = c :: rest ++ behind :=
        trimLeft_around hbefore hcore.1
      rw [List.append_assoc, hleft, trimRight_around hbehind hcore.2]

/-- What is left when the blanks in front go begins without one. -/
theorem exists_trimLeft (cs : List Char) : ∃ before, Blank before ∧ cs = before ++ trimLeft cs
    ∧ ∀ c ∈ (trimLeft cs).head?, isBlank c = false := by
  refine ⟨cs.takeWhile isBlank, fun c hc => List.mem_takeWhile_imp hc,
    List.takeWhile_append_dropWhile.symm, fun c hc => ?_⟩
  have h := List.head?_dropWhile_not isBlank cs
  unfold trimLeft at hc
  rw [hc] at h
  simpa using h

/-- A text is its core with blanks around it. -/
theorem exists_trim (cs : List Char) : Bare (trim cs) ∧ ∃ before behind, Blank before
    ∧ Blank behind ∧ cs = before ++ trim cs ++ behind := by
  obtain ⟨before, hbefore, hcs, hhead⟩ := exists_trimLeft cs
  obtain ⟨behind, hbehind, hleft, hlast⟩ := exists_trimLeft (trimLeft cs).reverse
  rw [List.reverse_eq_iff, List.reverse_append] at hleft
  have htrim : trim cs = (trimLeft (trimLeft cs).reverse).reverse := rfl
  rw [← htrim] at hleft
  refine ⟨⟨?_, by rwa [htrim, List.getLast?_reverse]⟩, before, behind.reverse, hbefore,
    fun c hc => hbehind c (List.mem_reverse.mp hc), ?_⟩
  · -- what comes first is still what came first before the blanks behind went
    intro c hc
    refine hhead c ?_
    rw [hleft, List.head?_append, hc]
    rfl
  · rw [List.append_assoc, ← hleft]
    exact hcs

/-- **What is left of a text when the blanks around it go** is the one core it has. -/
theorem trim_eq_iff : trim cs = core ↔ Bare core
    ∧ ∃ before behind, Blank before ∧ Blank behind ∧ cs = before ++ core ++ behind := by
  constructor
  · rintro rfl
    exact exists_trim cs
  · rintro ⟨hcore, before, behind, hbefore, hbehind, rfl⟩
    exact trim_around hbefore hbehind hcore

theorem trim_eq_nil_iff : trim cs = [] ↔ Blank cs := by
  rw [trim_eq_iff]
  constructor
  · rintro ⟨-, before, behind, hbefore, hbehind, rfl⟩
    rw [List.append_nil]
    exact blank_append.mpr ⟨hbefore, hbehind⟩
  · intro h
    exact ⟨bare_nil, cs, [], h, blank_nil, by simp⟩

/-- More blanks around make no difference. -/
theorem trim_blanks (hbefore : Blank before) (hbehind : Blank behind) :
    trim (before ++ cs ++ behind) = trim cs := by
  obtain ⟨hcore, front, back, hfront, hback, hcs⟩ := exists_trim cs
  refine trim_eq_iff.mpr ⟨hcore, before ++ front, back ++ behind,
    blank_append.mpr ⟨hbefore, hfront⟩, blank_append.mpr ⟨hback, hbehind⟩, ?_⟩
  conv => lhs; rw [hcs]
  simp only [List.append_assoc]

/-! ## Separators -/

theorem splitOnce?_eq_none_iff : splitOnce? separator cs = none ↔ separator ∉ cs := by
  induction cs with
  | nil => simp [splitOnce?]
  | cons c rest ih =>
      rw [splitOnce?, List.mem_cons]
      split
      · next hc => simp [hc]
      · next hc =>
          rw [Option.map_eq_none_iff, ih]
          simp [Ne.symm hc]

/-- **The first separator parts a text in two**: none stands before it. -/
theorem splitOnce?_eq_some_iff : splitOnce? separator cs = some (front, back)
    ↔ cs = front ++ separator :: back ∧ separator ∉ front := by
  induction cs generalizing front with
  | nil => simp [splitOnce?]
  | cons c rest ih =>
      rw [splitOnce?]
      split
      · next hc =>
          subst hc
          cases front with
          | nil => simp [eq_comm]
          | cons f front =>
              simp only [Option.some.injEq, Prod.mk.injEq, List.cons_append, List.cons.injEq,
                List.mem_cons, not_or, reduceCtorEq, false_and, false_iff]
              rintro ⟨⟨rfl, -⟩, hne, -⟩
              exact hne rfl
      · next hc =>
          cases front with
          | nil => simp [hc]
          | cons f front =>
              have hsplit : splitOnce? separator rest = some (front, back)
                  ↔ rest = front ++ separator :: back ∧ separator ∉ front := ih
              simp only [Option.map_eq_some_iff, Prod.exists, Prod.mk.injEq, List.cons.injEq,
                List.cons_append, List.mem_cons, not_or]
              constructor
              · rintro ⟨front', back', h, ⟨rfl, rfl⟩, rfl⟩
                obtain ⟨hrest, hfront⟩ := hsplit.mp h
                exact ⟨⟨rfl, hrest⟩, Ne.symm hc, hfront⟩
              · rintro ⟨⟨rfl, hrest⟩, -, hfront⟩
                exact ⟨front, back, hsplit.mpr ⟨hrest, hfront⟩, ⟨rfl, rfl⟩, rfl⟩

/-- Blanks around a text stay with what they stand next to. -/
theorem splitOnce?_blanks (hseparator : isBlank separator = false) (hbefore : Blank before)
    (hbehind : Blank behind) : splitOnce? separator (before ++ cs ++ behind)
      = (splitOnce? separator cs).map fun (front, back) => (before ++ front, back ++ behind) := by
  cases h : splitOnce? separator cs with
  | none =>
      have hcs := splitOnce?_eq_none_iff.mp h
      refine splitOnce?_eq_none_iff.mpr (List.not_mem_append (List.not_mem_append ?_ hcs) ?_)
      · exact hbefore.not_mem hseparator
      · exact hbehind.not_mem hseparator
  | some parts =>
      obtain ⟨rfl, hfront⟩ := splitOnce?_eq_some_iff.mp h
      refine splitOnce?_eq_some_iff.mpr
        ⟨?_, List.not_mem_append (hbefore.not_mem hseparator) hfront⟩
      simp only [List.append_assoc, List.cons_append]

/-- Cutting a text at every separator is what the library does. -/
theorem splitAt_eq_splitOn (separator : Char) (cs : List Char) :
    splitAt separator cs = cs.splitOn separator := by
  unfold splitAt
  rw [List.splitOn_eq_splitOnP]
  induction cs with
  | nil => rfl
  | cons c rest ih =>
      rw [splitBy, List.splitOnP_cons_eq_if_modifyHead, ih]
      cases hrest : rest.splitOnP (· == separator) with
      | nil => exact absurd hrest (List.splitOnP_ne_nil _ _)
      | cons part parts => rfl

/-- No part of a text that is cut holds a separator. -/
theorem not_mem_of_mem_splitAt (hpart : part ∈ splitAt separator cs) : separator ∉ part := by
  unfold splitAt at hpart
  induction cs generalizing part with
  | nil =>
      obtain rfl := List.mem_singleton.mp hpart
      exact List.not_mem_nil
  | cons c rest ih =>
      rw [splitBy] at hpart
      split at hpart
      · rcases List.mem_cons.mp hpart with rfl | hrest
        · exact List.not_mem_nil
        · exact ih hrest
      · next hc =>
          have hne : separator ≠ c := fun h => hc (beq_iff_eq.mpr h.symm)
          split at hpart
          · obtain rfl := List.mem_singleton.mp hpart
            simpa using hne
          · next first parts hsplit =>
              rw [hsplit] at ih
              rcases List.mem_cons.mp hpart with rfl | hrest
              · exact List.not_mem_cons_of_ne_of_not_mem hne (ih List.mem_cons_self)
              · exact ih (List.mem_cons_of_mem _ hrest)

/-- **What a text is cut into are the texts without a separator that it joins.** -/
theorem splitOn_eq_iff {parts : List (List Char)} (hparts : parts ≠ []) :
    cs.splitOn separator = parts
      ↔ cs = [separator].intercalate parts ∧ ∀ part ∈ parts, separator ∉ part := by
  constructor
  · rintro rfl
    refine ⟨(List.intercalate_splitOn separator).symm, fun part hpart => ?_⟩
    rw [← splitAt_eq_splitOn] at hpart
    exact not_mem_of_mem_splitAt hpart
  · rintro ⟨rfl, h⟩
    exact List.splitOn_intercalate separator h hparts

end BidArchive.Text
