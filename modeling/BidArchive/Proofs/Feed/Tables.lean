import BidArchive.Feed.KnownErrors
import BidArchive.Proofs.Text.Parts

/-!
# Tables of known errors in texts

A text is cut at its semicolons. A part of it says nothing when it is blank, it spells an entry when
it holds the name of an outcome, a colon and a piece with blanks around either, and else something
is missing from it. So the texts that are read as a table are those whose parts spell its entries in
order, with parts that say nothing between them, and only tables that can be told by such a text
come out.
-/

namespace BidArchive.Feed

open Text

variable {outcome : Outcome} {fault : TableFault} {entry : String × Outcome}
  {cs part front back : List Char} {parts : List (List Char)} {entries : List (String × Outcome)}

/-! ## Outcomes -/

theorem Outcome.ofName?_eq_some_iff {name : String} :
    Outcome.ofName? name = some outcome ↔ name = outcome.text := by
  unfold Outcome.ofName?
  cases outcome with
  | noBid =>
      show _ ↔ name = "no-bid"
      split
      · next h => simp [h]
      · next h => split <;> simp [h]
  | rateLimited =>
      show _ ↔ name = "rate-limited"
      split
      · next h => simp [h]
      · next h => split <;> simp_all

theorem Outcome.ofName?_ofList_eq_some_iff :
    Outcome.ofName? (String.ofList cs) = some outcome ↔ cs = outcome.text.toList := by
  rw [Outcome.ofName?_eq_some_iff, ← String.toList_inj, String.toList_ofList]

theorem Outcome.read_eq_ok_iff :
    Outcome.read (String.ofList cs) = .ok outcome ↔ trim cs = outcome.text.toList := by
  rw [← Outcome.ofName?_ofList_eq_some_iff]
  simp only [Outcome.read, trimmed, String.toList_ofList]
  cases Outcome.ofName? (String.ofList (trim cs)) <;> simp

theorem Outcome.read_eq_error_iff : Outcome.read (String.ofList cs) = .error fault
    ↔ (∀ outcome : Outcome, trim cs ≠ outcome.text.toList)
      ∧ fault = .unknownOutcome (String.ofList (trim cs)) := by
  simp only [Outcome.read, trimmed, String.toList_ofList]
  cases h : Outcome.ofName? (String.ofList (trim cs)) with
  | some outcome =>
      have hname := Outcome.ofName?_ofList_eq_some_iff.mp h
      simp only [reduceCtorEq, false_iff, not_and]
      exact fun hnone => absurd hname (hnone outcome)
  | none =>
      have hnone : ∀ outcome : Outcome, trim cs ≠ outcome.text.toList := by
        intro outcome hname
        rw [Outcome.ofName?_ofList_eq_some_iff.mpr hname] at h
        exact absurd h (by simp)
      simp only [Except.error.injEq, hnone, ne_eq, not_false_eq_true, implies_true, true_and]
      exact eq_comm

theorem colon_not_blank : isBlank ':' = false := by decide

theorem semicolon_not_blank : isBlank ';' = false := by decide

/-- No name of an outcome holds what separates, or blanks at its ends. -/
theorem Outcome.text_facts (outcome : Outcome) : Bare outcome.text.toList
    ∧ ':' ∉ outcome.text.toList ∧ ';' ∉ outcome.text.toList := by
  cases outcome <;> decide +kernel

namespace KnownErrors

/-! ## Entries -/

/-- The part holds the name of the outcome, a colon and the piece, with blanks around either. -/
def Spells (part : List Char) (entry : String × Outcome) : Prop :=
  ∃ a b c d, Blank a ∧ Blank b ∧ Blank c ∧ Blank d
    ∧ part = a ++ entry.2.text.toList ++ b ++ ':' :: (c ++ entry.1.toList ++ d)

/-- The piece can stand in an entry: there is something of it, no semicolon in it, and no blank at
either end. -/
structure Tellable (piece : String) : Prop where
  ne_empty : piece ≠ ""
  no_semicolon : ';' ∉ piece.toList
  bare : Bare piece.toList

instance (piece : String) : Decidable (Tellable piece) :=
  decidable_of_iff (piece ≠ "" ∧ ';' ∉ piece.toList ∧ Bare piece.toList)
    ⟨fun ⟨hne, hsemicolon, hbare⟩ => ⟨hne, hsemicolon, hbare⟩,
      fun h => ⟨h.ne_empty, h.no_semicolon, h.bare⟩⟩

/-- What is missing from a part, as it is reported. -/
inductive Lacks (part : List Char) : TableFault → Prop
  | separator : ¬ Blank part → ':' ∉ part →
      Lacks part (.missingSeparator (String.ofList (trim part)))
  | piece {front back : List Char} : part = front ++ ':' :: back → ':' ∉ front → Blank back →
      Lacks part (.emptyPiece (String.ofList (trim part)))
  | outcome {front back : List Char} : part = front ++ ':' :: back → ':' ∉ front → ¬ Blank back →
      (∀ outcome : Outcome, trim front ≠ outcome.text.toList) →
      Lacks part (.unknownOutcome (String.ofList (trim front)))

theorem splitOnce?_colon (part : List Char) : ∃ before behind, Blank before ∧ Blank behind
    ∧ splitOnce? ':' part = (splitOnce? ':' (trim part)).map fun (front, back) =>
      (before ++ front, back ++ behind) := by
  obtain ⟨-, before, behind, hbefore, hbehind, hpart⟩ := exists_trim part
  refine ⟨before, behind, hbefore, hbehind, ?_⟩
  rw [← splitOnce?_blanks colon_not_blank hbefore hbehind, ← hpart]

theorem readEntry_trim_of_not_mem (h : ':' ∉ part) :
    readEntry (trim part) = .error (.missingSeparator (String.ofList (trim part))) := by
  obtain ⟨before, behind, -, -, hsplit⟩ := splitOnce?_colon part
  rw [splitOnce?_eq_none_iff.mpr h, eq_comm, Option.map_eq_none_iff] at hsplit
  unfold readEntry
  rw [hsplit]

/-- Taking the blanks around an entry away first makes no difference to what is read. -/
theorem readEntry_trim_of_cut (hcut : part = front ++ ':' :: back) (hcolon : ':' ∉ front) :
    readEntry (trim part)
      = if trim back = [] then .error (.emptyPiece (String.ofList (trim part)))
        else (Outcome.read (String.ofList front)).map fun outcome =>
          (String.ofList (trim back), outcome) := by
  obtain ⟨before, behind, hbefore, hbehind, hsplit⟩ := splitOnce?_colon part
  rw [splitOnce?_eq_some_iff.mpr ⟨hcut, hcolon⟩, eq_comm, Option.map_eq_some_iff] at hsplit
  obtain ⟨⟨front', back'⟩, hsplit, hends⟩ := hsplit
  obtain ⟨rfl, rfl⟩ := Prod.mk.inj hends
  have hfront : trim (before ++ front') = trim front' := by
    have h : trim (before ++ front' ++ []) = trim front' := trim_blanks hbefore blank_nil
    rwa [List.append_nil] at h
  have hback : trim (back' ++ behind) = trim back' := trim_blanks blank_nil hbehind
  unfold readEntry
  simp only [hsplit, hfront, hback, List.isEmpty_iff, Outcome.read, trimmed, String.toList_ofList]
  split
  · rfl
  · cases Outcome.ofName? (String.ofList (trim front')) <;> rfl

/-- **An entry is read from the parts that spell it**, when there is something to its piece. -/
theorem readEntry_trim_eq_ok_iff : readEntry (trim part) = .ok entry
    ↔ Spells part entry ∧ entry.1 ≠ "" ∧ Bare entry.1.toList := by
  obtain ⟨piece, outcome⟩ := entry
  constructor
  · intro h
    by_cases hcolon : ':' ∈ part
    · obtain ⟨front, back, rfl, hfront⟩ := List.eq_append_cons_of_mem hcolon
      rw [readEntry_trim_of_cut rfl hfront] at h
      split at h
      · exact absurd h (by simp)
      · next hne =>
        cases hread : Outcome.read (String.ofList front) with
        | error fault => exact absurd (hread ▸ h) (by simp [Except.map])
        | ok named =>
            rw [hread] at h
            obtain ⟨rfl, rfl⟩ := Prod.mk.inj (Except.ok.inj h)
            obtain ⟨-, a, b, ha, hb, hname⟩ := trim_eq_iff.mp (Outcome.read_eq_ok_iff.mp hread)
            obtain ⟨hbare, c, d, hc, hd, hpiece⟩ := exists_trim back
            refine ⟨⟨a, b, c, d, ha, hb, hc, hd, ?_⟩, ?_, ?_⟩
            · rw [String.toList_ofList, ← hname, ← hpiece]
            · exact fun hempty => hne (String.ofList_eq_empty_iff.mp hempty)
            · rwa [String.toList_ofList]
    · rw [readEntry_trim_of_not_mem hcolon] at h
      exact absurd h (by simp)
  · rintro ⟨⟨a, b, c, d, ha, hb, hc, hd, hcut⟩, hne, hbare⟩
    obtain ⟨hname, hcolon, -⟩ := outcome.text_facts
    have hfront : ':' ∉ a ++ outcome.text.toList ++ b :=
      List.not_mem_append (List.not_mem_append (ha.not_mem colon_not_blank) hcolon)
        (hb.not_mem colon_not_blank)
    have hpiece : piece.toList ≠ [] := mt String.toList_eq_nil_iff.mp hne
    rw [readEntry_trim_of_cut hcut hfront, trim_around hc hd hbare, if_neg hpiece,
      Outcome.read_eq_ok_iff.mpr (trim_around ha hb hname), String.ofList_toList]
    rfl

/-- **What is reported of a part is what is missing from it.** -/
theorem readEntry_trim_eq_error_iff (hpart : ¬ Blank part) :
    readEntry (trim part) = .error fault ↔ Lacks part fault := by
  constructor
  · intro h
    by_cases hcolon : ':' ∈ part
    · obtain ⟨front, back, hcut, hfront⟩ := List.eq_append_cons_of_mem hcolon
      rw [readEntry_trim_of_cut hcut hfront] at h
      split at h
      · next hpiece =>
        obtain rfl := Except.error.inj h
        exact .piece hcut hfront (trim_eq_nil_iff.mp hpiece)
      · next hpiece =>
        cases hread : Outcome.read (String.ofList front) with
        | ok outcome => exact absurd (hread ▸ h) (by simp [Except.map])
        | error other =>
            rw [hread] at h
            obtain rfl := Except.error.inj h
            obtain ⟨hnone, rfl⟩ := Outcome.read_eq_error_iff.mp hread
            exact .outcome hcut hfront (mt trim_eq_nil_iff.mpr hpiece) hnone
    · rw [readEntry_trim_of_not_mem hcolon] at h
      obtain rfl := Except.error.inj h
      exact .separator hpart hcolon
  · intro h
    cases h with
    | separator _ hcolon => exact readEntry_trim_of_not_mem hcolon
    | piece hcut hcolon hblank =>
        rw [readEntry_trim_of_cut hcut hcolon, if_pos (trim_eq_nil_iff.mpr hblank)]
    | outcome hcut hcolon hpiece hnone =>
        rw [readEntry_trim_of_cut hcut hcolon, if_neg (mt trim_eq_nil_iff.mp hpiece),
          Outcome.read_eq_error_iff.mpr ⟨hnone, rfl⟩]
        rfl

/-! ## Parts -/

/-- The parts spell the entries in order, with parts that say nothing between them. -/
inductive Lists : List (List Char) → List (String × Outcome) → Prop
  | nil : Lists [] []
  | gap {part : List Char} {parts : List (List Char)} {entries : List (String × Outcome)} :
      Blank part → Lists parts entries → Lists (part :: parts) entries
  | entry {part : List Char} {parts : List (List Char)} {entry : String × Outcome}
      {entries : List (String × Outcome)} :
      Spells part entry → Lists parts entries → Lists (part :: parts) (entry :: entries)

/-- The entries the parts of a text are read as. -/
def entriesOf (parts : List (List Char)) : Except TableFault (List (String × Outcome)) :=
  ((parts.map trim).filter (!·.isEmpty)).mapM readEntry

theorem entriesOf_blank (hpart : Blank part) : entriesOf (part :: parts) = entriesOf parts := by
  unfold entriesOf
  rw [List.map_cons, trim_eq_nil_iff.mpr hpart]
  rfl

theorem entriesOf_cons (hpart : ¬ Blank part) : entriesOf (part :: parts)
    = readEntry (trim part) >>= fun entry =>
      entriesOf parts >>= fun entries => pure (entry :: entries) := by
  have hne : (!(trim part).isEmpty) = true := by
    rw [Bool.not_eq_true', ← Bool.not_eq_true, List.isEmpty_iff]
    exact mt trim_eq_nil_iff.mp hpart
  unfold entriesOf
  rw [List.map_cons, List.filter_cons, if_pos hne, List.mapM_cons]

theorem entriesOf_cons_eq_ok_iff (hpart : ¬ Blank part) : entriesOf (part :: parts) = .ok entries
    ↔ ∃ entry rest, readEntry (trim part) = .ok entry ∧ entriesOf parts = .ok rest
      ∧ entry :: rest = entries := by
  rw [entriesOf_cons hpart]
  cases readEntry (trim part) with
  | error fault => simp [bind, Except.bind]
  | ok entry => cases entriesOf parts <;> simp [bind, Except.bind, pure, Except.pure]

theorem entriesOf_cons_eq_error_iff (hpart : ¬ Blank part) :
    entriesOf (part :: parts) = .error fault ↔ readEntry (trim part) = .error fault
      ∨ ∃ entry, readEntry (trim part) = .ok entry ∧ entriesOf parts = .error fault := by
  rw [entriesOf_cons hpart]
  cases readEntry (trim part) with
  | error fault => simp [bind, Except.bind]
  | ok entry => cases entriesOf parts <;> simp [bind, Except.bind, pure, Except.pure]

theorem Spells.not_blank (h : Spells part entry) : ¬ Blank part := by
  obtain ⟨a, b, c, d, -, -, -, -, rfl⟩ := h
  exact fun hblank => hblank.not_mem colon_not_blank (by simp)

theorem Lacks.not_blank (h : Lacks part fault) : ¬ Blank part := by
  cases h with
  | separator hpart _ => exact hpart
  | piece hcut _ _ | outcome hcut _ _ _ =>
      exact fun hblank => hblank.not_mem colon_not_blank (by simp [hcut])

/-- **Entries are read from the parts that spell them in order**, when there is something to each of
their pieces. -/
theorem entriesOf_eq_ok_iff : entriesOf parts = .ok entries
    ↔ Lists parts entries ∧ ∀ entry ∈ entries, entry.1 ≠ "" ∧ Bare entry.1.toList := by
  induction parts generalizing entries with
  | nil =>
      constructor
      · intro h
        obtain rfl : [] = entries := Except.ok.inj h
        exact ⟨.nil, fun _ h => absurd h List.not_mem_nil⟩
      · rintro ⟨hlists, -⟩
        cases hlists
        rfl
  | cons part parts ih =>
      by_cases hpart : Blank part
      · rw [entriesOf_blank hpart, ih]
        refine and_congr_left fun _ => ⟨.gap hpart, fun hlists => ?_⟩
        cases hlists with
        | gap _ h => exact h
        | entry hspells _ => exact absurd hpart hspells.not_blank
      · rw [entriesOf_cons_eq_ok_iff hpart]
        constructor
        · rintro ⟨entry, rest, hentry, hrest, rfl⟩
          obtain ⟨hspells, hpiece⟩ := readEntry_trim_eq_ok_iff.mp hentry
          obtain ⟨hlists, hpieces⟩ := ih.mp hrest
          exact ⟨.entry hspells hlists, List.forall_mem_cons.mpr ⟨hpiece, hpieces⟩⟩
        · rintro ⟨hlists, hpieces⟩
          cases hlists with
          | gap h _ => exact absurd h hpart
          | entry hspells h =>
              obtain ⟨hpiece, hrest⟩ := List.forall_mem_cons.mp hpieces
              exact ⟨_, _, readEntry_trim_eq_ok_iff.mpr ⟨hspells, hpiece⟩, ih.mpr ⟨h, hrest⟩, rfl⟩

/-- What is reported is missing from the first part that lacks anything. -/
theorem entriesOf_eq_error_iff : entriesOf parts = .error fault
    ↔ ∃ front part back, parts = front ++ part :: back ∧ (∃ entries, entriesOf front = .ok entries)
      ∧ Lacks part fault := by
  induction parts with
  | nil =>
      constructor
      · intro h
        exact absurd h (by simp [entriesOf, pure, Except.pure])
      · rintro ⟨front, part, back, h, -⟩
        exact absurd h (by simp)
  | cons part parts ih =>
      by_cases hpart : Blank part
      · rw [entriesOf_blank hpart, ih]
        constructor
        · rintro ⟨front, lacking, back, rfl, hfront, hlacks⟩
          exact ⟨part :: front, lacking, back, rfl, by rwa [entriesOf_blank hpart], hlacks⟩
        · rintro ⟨front, lacking, back, hcut, hfront, hlacks⟩
          cases front with
          | nil =>
              obtain ⟨rfl, -⟩ := List.cons.inj hcut
              exact absurd hpart hlacks.not_blank
          | cons first front =>
              obtain ⟨rfl, rfl⟩ := List.cons.inj hcut
              rw [entriesOf_blank hpart] at hfront
              exact ⟨front, lacking, back, rfl, hfront, hlacks⟩
      · rw [entriesOf_cons_eq_error_iff hpart]
        constructor
        · rintro (hread | ⟨entry, hread, hrest⟩)
          · exact ⟨[], part, parts, rfl, ⟨[], rfl⟩, (readEntry_trim_eq_error_iff hpart).mp hread⟩
          · obtain ⟨front, lacking, back, rfl, ⟨entries, hfront⟩, hlacks⟩ := ih.mp hrest
            exact ⟨part :: front, lacking, back, rfl, ⟨entry :: entries,
              (entriesOf_cons_eq_ok_iff hpart).mpr ⟨entry, entries, hread, hfront, rfl⟩⟩, hlacks⟩
        · rintro ⟨front, lacking, back, hcut, ⟨entries, hfront⟩, hlacks⟩
          cases front with
          | nil =>
              obtain ⟨rfl, -⟩ := List.cons.inj hcut
              exact Or.inl ((readEntry_trim_eq_error_iff hpart).mpr hlacks)
          | cons first front =>
              obtain ⟨rfl, rfl⟩ := List.cons.inj hcut
              obtain ⟨entry, rest, hread, hrest, -⟩ := (entriesOf_cons_eq_ok_iff hpart).mp hfront
              exact Or.inr ⟨entry, hread, ih.mpr ⟨front, lacking, back, rfl, ⟨rest, hrest⟩, hlacks⟩⟩

theorem Lists.blank_or_spells (h : Lists parts entries) (hpart : part ∈ parts) :
    Blank part ∨ ∃ entry ∈ entries, Spells part entry := by
  induction h with
  | nil => exact absurd hpart List.not_mem_nil
  | gap hblank _ ih =>
      rcases List.mem_cons.mp hpart with rfl | hrest
      · exact Or.inl hblank
      · exact ih hrest
  | entry hspells _ ih =>
      rcases List.mem_cons.mp hpart with rfl | hrest
      · exact Or.inr ⟨_, List.mem_cons_self, hspells⟩
      · exact (ih hrest).imp_right fun ⟨said, hsaid, h⟩ =>
          ⟨said, List.mem_cons_of_mem _ hsaid, h⟩

theorem Lists.exists_spells (h : Lists parts entries) (hentry : entry ∈ entries) :
    ∃ part ∈ parts, Spells part entry := by
  induction h with
  | nil => exact absurd hentry List.not_mem_nil
  | gap _ _ ih => exact (ih hentry).imp fun part h => ⟨List.mem_cons_of_mem _ h.1, h.2⟩
  | entry hspells _ ih =>
      rcases List.mem_cons.mp hentry with rfl | hrest
      · exact ⟨_, List.mem_cons_self, hspells⟩
      · exact (ih hrest).imp fun part h => ⟨List.mem_cons_of_mem _ h.1, h.2⟩

/-- **Parts are refused when anything is missing from one of them.** -/
theorem exists_entriesOf_eq_error_iff :
    (∃ fault, entriesOf parts = .error fault) ↔ ∃ part ∈ parts, ∃ fault, Lacks part fault := by
  constructor
  · rintro ⟨fault, h⟩
    obtain ⟨front, part, back, rfl, -, hlacks⟩ := entriesOf_eq_error_iff.mp h
    exact ⟨part, by simp, fault, hlacks⟩
  · rintro ⟨part, hpart, fault, hlacks⟩
    cases hread : entriesOf parts with
    | error fault => exact ⟨fault, rfl⟩
    | ok entries =>
        obtain ⟨hlists, hpieces⟩ := entriesOf_eq_ok_iff.mp hread
        rcases hlists.blank_or_spells hpart with hblank | ⟨entry, hentry, hspells⟩
        · exact absurd hblank hlacks.not_blank
        · have hok := readEntry_trim_eq_ok_iff.mpr ⟨hspells, hpieces entry hentry⟩
          rw [(readEntry_trim_eq_error_iff hlacks.not_blank).mpr hlacks] at hok
          exact absurd hok (by simp)

/-- What can be missing from a part. -/
theorem exists_lacks_iff : (∃ fault, Lacks part fault) ↔ ¬ Blank part ∧ (':' ∉ part
    ∨ ∃ front back, part = front ++ ':' :: back ∧ ':' ∉ front
      ∧ (Blank back ∨ ∀ outcome : Outcome, trim front ≠ outcome.text.toList)) := by
  constructor
  · rintro ⟨fault, h⟩
    refine ⟨h.not_blank, ?_⟩
    cases h with
    | separator _ hcolon => exact Or.inl hcolon
    | piece hcut hcolon hblank => exact Or.inr ⟨_, _, hcut, hcolon, Or.inl hblank⟩
    | outcome hcut hcolon _ hnone => exact Or.inr ⟨_, _, hcut, hcolon, Or.inr hnone⟩
  · rintro ⟨hpart, hcolon | ⟨front, back, hcut, hcolon, hrest⟩⟩
    · exact ⟨_, .separator hpart hcolon⟩
    · by_cases hblank : Blank back
      · exact ⟨_, .piece hcut hcolon hblank⟩
      · exact ⟨_, .outcome hcut hcolon hblank (hrest.resolve_left hblank)⟩

/-! ## Tables -/

theorem read_eq (text : String) :
    read text = (entriesOf (text.toList.splitOn ';')).map KnownErrors.mk := by
  unfold read entriesOf
  rw [splitAt_eq_splitOn]
  dsimp only
  cases List.mapM readEntry _ <;> rfl

theorem Spells.semicolon_mem_iff (h : Spells part entry) : ';' ∈ part ↔ ';' ∈ entry.1.toList := by
  obtain ⟨a, b, c, d, ha, hb, hc, hd, rfl⟩ := h
  have hblank := semicolon_not_blank
  simp [ha.not_mem hblank, hb.not_mem hblank, hc.not_mem hblank, hd.not_mem hblank,
    entry.2.text_facts.2.2]

/-- **The texts that are read as a table**: their parts spell its entries, and it can be told. -/
theorem read_eq_ok_iff {text : String} {table : KnownErrors} :
    read text = .ok table ↔ (∀ entry ∈ table.entries, Tellable entry.1)
      ∧ ∃ parts, Lists parts table.entries ∧ text.toList = [';'].intercalate parts := by
  obtain ⟨entries⟩ := table
  have hread : read text = .ok ⟨entries⟩ ↔ entriesOf (text.toList.splitOn ';') = .ok entries := by
    rw [read_eq]
    cases entriesOf (text.toList.splitOn ';') <;> simp [Except.map]
  rw [hread]
  constructor
  · intro h
    obtain ⟨hlists, hpieces⟩ := entriesOf_eq_ok_iff.mp h
    obtain ⟨htext, hparts⟩ := (splitOn_eq_iff (List.splitOn_ne_nil ';' text.toList)).mp rfl
    refine ⟨fun entry hentry => ⟨(hpieces entry hentry).1, ?_, (hpieces entry hentry).2⟩,
      _, hlists, htext⟩
    obtain ⟨part, hpart, hspells⟩ := hlists.exists_spells hentry
    exact mt hspells.semicolon_mem_iff.mpr (hparts part hpart)
  · rintro ⟨htellable, parts, hlists, htext⟩
    have hpieces : ∀ entry ∈ entries, entry.1 ≠ "" ∧ Bare entry.1.toList :=
      fun entry hentry => ⟨(htellable entry hentry).ne_empty, (htellable entry hentry).bare⟩
    have hentries := entriesOf_eq_ok_iff.mpr ⟨hlists, hpieces⟩
    by_cases hnil : parts = []
    · -- of no parts at all there comes the same text as of an empty one
      subst hnil
      rw [htext]
      exact (entriesOf_blank blank_nil).trans hentries
    · have hparts : ∀ part ∈ parts, ';' ∉ part := by
        intro part hpart
        rcases hlists.blank_or_spells hpart with hblank | ⟨entry, hentry, hspells⟩
        · exact hblank.not_mem semicolon_not_blank
        · exact mt hspells.semicolon_mem_iff.mp (htellable entry hentry).no_semicolon
      rw [(splitOn_eq_iff hnil).mpr ⟨htext, hparts⟩]
      exact hentries

theorem read_eq_error_iff {text : String} :
    read text = .error fault ↔ entriesOf (text.toList.splitOn ';') = .error fault := by
  rw [read_eq]
  cases entriesOf (text.toList.splitOn ';') <;> simp [Except.map]

/-- **The fault of a text that is reported** is what is missing from its first part that lacks
anything. -/
theorem read_eq_error_iff_first {text : String} : read text = .error fault
    ↔ ∃ front part back, text.toList.splitOn ';' = front ++ part :: back
      ∧ (∀ before ∈ front, ∀ other, ¬ Lacks before other) ∧ Lacks part fault := by
  have hfront : ∀ front : List (List Char), (∃ entries, entriesOf front = .ok entries)
      ↔ ∀ before ∈ front, ∀ other, ¬ Lacks before other := by
    intro front
    constructor
    · rintro ⟨entries, hok⟩ before hbefore other hlacks
      obtain ⟨fault, herror⟩ := exists_entriesOf_eq_error_iff.mpr ⟨before, hbefore, other, hlacks⟩
      exact absurd (hok.symm.trans herror) (by simp)
    · intro hnone
      cases hfront : entriesOf front with
      | ok entries => exact ⟨entries, rfl⟩
      | error fault =>
          obtain ⟨before, hbefore, other, hlacks⟩ := exists_entriesOf_eq_error_iff.mp ⟨_, hfront⟩
          exact absurd hlacks (hnone before hbefore other)
  rw [read_eq_error_iff, entriesOf_eq_error_iff]
  simp only [hfront]

/-- Only an empty piece is found in the empty message. -/
theorem classify_empty_eq_none_iff {table : KnownErrors} :
    table.classify "" = none ↔ ∀ entry ∈ table.entries, entry.1 ≠ "" := by
  unfold classify
  rw [Option.map_eq_none_iff, List.find?_eq_none]
  refine forall₂_congr fun entry _ => not_congr ?_
  show entry.1.toList.isEmpty = true ↔ _
  rw [List.isEmpty_iff, String.toList_eq_nil_iff]

theorem occursIn_empty (message : List Char) : occursIn [] message = true := by
  cases message <;> rfl

/-- **The tables that take every message for an expected error** are those with an empty piece. -/
theorem classify_ne_none_iff {table : KnownErrors} :
    (∀ message, table.classify message ≠ none) ↔ ∃ entry ∈ table.entries, entry.1 = "" := by
  constructor
  · intro h
    by_contra hnone
    exact h "" (classify_empty_eq_none_iff.mpr fun entry hentry hpiece =>
      hnone ⟨entry, hentry, hpiece⟩)
  · rintro ⟨entry, hentry, hpiece⟩ message
    unfold classify
    rw [ne_eq, Option.map_eq_none_iff, List.find?_eq_none]
    intro hnone
    refine hnone entry hentry ?_
    rw [hpiece]
    exact occursIn_empty message.toList

/-- The table written in one line. -/
def text (table : KnownErrors) : String :=
  ";".intercalate (table.entries.map fun entry => entry.2.text ++ ":" ++ entry.1)

theorem lists_text (table : KnownErrors) : ∃ parts, Lists parts table.entries
    ∧ table.text.toList = [';'].intercalate parts := by
  refine ⟨table.entries.map fun entry => entry.2.text.toList ++ ':' :: entry.1.toList, ?_, ?_⟩
  · induction table.entries with
    | nil => exact .nil
    | cons entry entries ih =>
        refine .entry ⟨[], [], [], [], blank_nil, blank_nil, blank_nil, blank_nil, ?_⟩ ih
        simp only [List.nil_append, List.append_nil]
  · unfold text
    rw [String.toList_intercalate, List.map_map]
    refine congrArg _ (List.map_congr_left fun entry _ => ?_)
    simp

/-- **Tables in texts.** Whatever way its entries are written, with blanks around their parts and
nothing between some of them, a table is read back as it was, and no text is read as a table whose
pieces are empty, hold a semicolon or have blanks at their ends. A text is refused if and only if
something is missing from a part of it: a colon, a piece behind the first colon, or the name of an
outcome before it. No table that is read takes every message for an expected error. -/
theorem tables_of_texts (text : String) (table : KnownErrors) :
    (read text = .ok table ↔ (∀ entry ∈ table.entries, Tellable entry.1)
      ∧ ∃ parts, Lists parts table.entries ∧ text.toList = [';'].intercalate parts)
    ∧ ((∃ fault, read text = .error fault) ↔ ∃ part ∈ text.toList.splitOn ';', ¬ Blank part
      ∧ (':' ∉ part ∨ ∃ front back, part = front ++ ':' :: back ∧ ':' ∉ front
        ∧ (Blank back ∨ ∀ outcome : Outcome, trim front ≠ outcome.text.toList)))
    ∧ ((∀ entry ∈ table.entries, Tellable entry.1) → read table.text = .ok table)
    ∧ (read text = .ok table → table.classify "" = none) := by
  refine ⟨read_eq_ok_iff, ?_, fun htellable => ?_, fun hread => ?_⟩
  · simp only [← exists_lacks_iff, read_eq_error_iff]
    exact exists_entriesOf_eq_error_iff
  · exact read_eq_ok_iff.mpr ⟨htellable, lists_text table⟩
  · refine classify_empty_eq_none_iff.mpr fun entry hentry => ?_
    exact ((read_eq_ok_iff.mp hread).1 entry hentry).ne_empty

/-- A table with a colon in one of its pieces. -/
def waiting : KnownErrors := ⟨[("no bid", .noBid), ("429: wait", .rateLimited)]⟩

/-- The table is read from a text with blanks and gaps, and from its own. -/
theorem waiting_of_texts : (∀ entry ∈ waiting.entries, Tellable entry.1)
    ∧ read " no-bid : no bid;; rate-limited:429: wait" = .ok waiting
    ∧ read waiting.text = .ok waiting ∧ waiting.classify "" = none := by
  have htellable : ∀ entry ∈ waiting.entries, Tellable entry.1 := by decide +kernel
  have hlists : Lists [" no-bid : no bid".toList, [], " rate-limited:429: wait".toList]
      waiting.entries := by
    refine .entry ⟨[' '], [' '], [' '], [], ?_⟩ (.gap blank_nil
      (.entry ⟨[' '], [], [], [], ?_⟩ .nil))
    · decide +kernel
    · decide +kernel
  obtain ⟨hread, -, hown, hnone⟩ :=
    tables_of_texts " no-bid : no bid;; rate-limited:429: wait" waiting
  have hok := hread.mpr ⟨htellable, _, hlists, by decide⟩
  exact ⟨htellable, hok, hown htellable, hnone hok⟩

end KnownErrors

end BidArchive.Feed
