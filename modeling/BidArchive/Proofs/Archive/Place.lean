import BidArchive.Archive.Files
import BidArchive.Proofs.Archive.Delimited
import BidArchive.Proofs.Archive.Tree

/-!
# Where the file of a bucket lies

The name of the collector may hold anything, also slashes and steps up, and buckets that
start within one minute share a name, so that two buckets may well have one file. What
can be relied on is the end of the name: it comes behind everything that is free, holds
no slash, and always has the same length. So it can be read off a place, and with it the
kind and the delimiter of all rows in the file; and the two files of a bucket lie side by
side under names that differ in nothing but the kind.
-/

namespace BidArchive

/-! ## The last step of a path -/

namespace Text

theorem splitAt_of_not_mem {b : List Char} (h : '/' ∉ b) : splitAt '/' b = [b] := by
  unfold splitAt
  induction b with
  | nil => rfl
  | cons c b ih =>
      obtain ⟨hc, hb⟩ := not_or.mp (mt List.mem_cons.mpr h)
      rw [splitBy, if_neg (by simpa using Ne.symm hc), ih hb]

/-- What holds no slash stays in one part with what stands before it. -/
theorem exists_splitAt (a : List Char) : ∃ front last, ∀ b, '/' ∉ b →
    splitAt '/' (a ++ b) = front ++ [last ++ b] := by
  induction a with
  | nil => exact ⟨[], [], fun b hb => splitAt_of_not_mem hb⟩
  | cons c a ih =>
      obtain ⟨front, last, h⟩ := ih
      unfold splitAt at *
      by_cases hc : (c == '/') = true
      · refine ⟨[] :: front, last, fun b hb => ?_⟩
        rw [List.cons_append, splitBy, if_pos hc, h b hb, List.cons_append]
      · cases front with
        | nil =>
            refine ⟨[], c :: last, fun b hb => ?_⟩
            rw [List.cons_append, splitBy, if_neg hc, h b hb]
            rfl
        | cons part front =>
            refine ⟨(c :: part) :: front, last, fun b hb => ?_⟩
            rw [List.cons_append, splitBy, if_neg hc, h b hb]
            rfl

end Text

namespace Layout

variable {layout layout' : Layout} {start start' : Int64} {kind kind' : RowKind} {place : Place}

/-! ## The place of a file -/

/-- Where the file of a bucket lies, when the calendar covers the start of the bucket. -/
def place? (layout : Layout) (start : Int64) (kind : RowKind) : Option Place :=
  (layout.filePath? start kind).map fun path =>
    Tree.resolve [] (Archive.directorySteps path) ++ [((Archive.steps path).getLast?).getD ""]

/-- The end of a file name, which says what the file holds. -/
def ending (layout : Layout) (kind : RowKind) : String :=
  "_" ++ kind.text ++ "." ++ layout.extension

theorem slash_not_mem_ending : '/' ∉ (layout.ending kind).toList := by
  unfold ending extension
  cases kind <;> cases layout.tabs <;> decide

theorem length_ending : (layout.ending kind).toList.length = 8 := by
  unfold ending extension
  cases kind <;> cases layout.tabs <;> rfl

theorem ending_inj (h : layout.ending kind = layout'.ending kind') :
    layout.tabs = layout'.tabs ∧ kind = kind' := by
  unfold ending extension at h
  revert h
  cases kind <;> cases kind' <;> cases layout.tabs <;> cases layout'.tabs <;> decide

/-- **The files of a bucket lie side by side.** -/
theorem place?_cases (layout : Layout) (start : Int64) :
    (∀ kind, layout.place? start kind = none)
      ∨ ∃ directory stem, ∀ kind,
          layout.place? start kind = some (directory ++ [stem ++ layout.ending kind]) := by
  unfold place? filePath?
  cases hi : Time.Instant.ofSeconds? start.toInt with
  | none => exact Or.inl fun kind => rfl
  | some instant =>
      refine Or.inr ?_
      -- everything before the end of the name is the same for both kinds
      have hpath : ∃ front : String, ∀ kind,
          dayName instant ++ "/" ++ layout.fileName instant kind = front ++ layout.ending kind := by
        unfold fileName ending
        refine ⟨dayName instant ++ "/" ++ (instant.date.text ++ "_" ++ Time.padded 2 instant.hour
          ++ "-" ++ Time.padded 2 instant.minute ++ layout.uidPart), fun kind => ?_⟩
        simp only [String.append_assoc]
      obtain ⟨front, hfront⟩ := hpath
      obtain ⟨parts, last, hsplit⟩ := Text.exists_splitAt front.toList
      have hsteps : ∀ kind, Archive.steps (front ++ layout.ending kind)
          = parts.map String.ofList ++ [String.ofList last ++ layout.ending kind] := by
        intro kind
        unfold Archive.steps
        rw [String.toList_append, hsplit _ slash_not_mem_ending, List.map_append,
          List.map_singleton, String.ofList_append, String.ofList_toList]
      refine ⟨Tree.resolve [] ((parts.map String.ofList).filter fun step => !Tree.isStay step),
        String.ofList last, fun kind => ?_⟩
      show some (Tree.resolve [] (Archive.directorySteps
        (dayName instant ++ "/" ++ layout.fileName instant kind)) ++ _) = _
      rw [hfront, Archive.directorySteps, hsteps, List.dropLast_concat, List.getLast?_concat]
      rfl

/-- The place of a bucket's file is known from the end of its name on. -/
theorem place?_eq_some (h : layout.place? start kind = some place) :
    ∃ directory stem, place = directory ++ [stem ++ layout.ending kind]
      ∧ ∀ kind, layout.place? start kind = some (directory ++ [stem ++ layout.ending kind]) := by
  rcases place?_cases layout start with hnone | ⟨directory, stem, hsome⟩
  · rw [hnone kind] at h
    exact absurd h (by simp)
  · exact ⟨directory, stem, Option.some.inj (h.symm.trans (hsome kind)), hsome⟩

theorem name_inj {directory directory' : Place} {stem stem' : String}
    (h : directory ++ [stem ++ layout.ending kind]
      = directory' ++ [stem' ++ layout'.ending kind']) :
    directory = directory' ∧ stem = stem' ∧ layout.tabs = layout'.tabs ∧ kind = kind' := by
  obtain ⟨hd, hn⟩ := List.append_inj' h rfl
  have hl := congrArg String.toList (List.cons.inj hn).1
  rw [String.toList_append, String.toList_append] at hl
  -- endings have one length, so the two names come apart in the same place
  obtain ⟨hs, he⟩ := List.append_inj' hl (length_ending.trans length_ending.symm)
  exact ⟨hd, String.toList_inj.mp hs, ending_inj (String.toList_inj.mp he)⟩

/-- **A file holds rows of one kind.** -/
theorem kind_eq_of_place?_eq (h : layout.place? start kind = some place)
    (h' : layout'.place? start' kind' = some place) : kind = kind' := by
  obtain ⟨_, _, hp, _⟩ := place?_eq_some h
  obtain ⟨_, _, hp', _⟩ := place?_eq_some h'
  exact (name_inj (hp.symm.trans hp')).2.2.2

/-- **Buckets that share one of their files share the other as well.** -/
theorem place?_congr (h : layout.place? start kind = some place)
    (h' : layout.place? start' kind = some place) (other : RowKind) :
    layout.place? start other = layout.place? start' other := by
  obtain ⟨_, _, hp, hall⟩ := place?_eq_some h
  obtain ⟨_, _, hp', hall'⟩ := place?_eq_some h'
  obtain ⟨hd, hs, _, _⟩ := name_inj (hp.symm.trans hp')
  rw [hall, hall', hd, hs]

end Layout

/-! ## The delimiter of a file -/

/-- The delimiter between the cells of a file, told from the ending of its name. -/
def delimiterAt (place : Place) : Char :=
  if ".tsv".toList <:+ ((place.getLast?).getD "").toList then '\t' else ','

theorem separates_delimiterAt (place : Place) : Delimited.Separates (delimiterAt place) := by
  unfold delimiterAt
  split <;> exact ⟨by decide, by decide⟩

/-- **The name of a file tells its delimiter.** -/
theorem delimiterAt_place {layout : Layout} {start : Int64} {kind : RowKind} {place : Place}
    (h : layout.place? start kind = some place) : delimiterAt place = layout.delimiter := by
  obtain ⟨directory, stem, rfl, _⟩ := Layout.place?_eq_some h
  unfold delimiterAt Layout.delimiter
  rw [List.getLast?_concat, Option.getD_some, String.toList_append]
  cases ht : layout.tabs with
  | true =>
      refine if_pos (List.IsSuffix.trans ?_ (List.suffix_append _ _))
      unfold Layout.ending Layout.extension
      rw [ht]
      cases kind <;> decide
  | false =>
      refine if_neg fun hs => ?_
      -- both are suffixes of the name, and the ending is the longer one
      have hle : ".tsv".toList.length ≤ (layout.ending kind).toList.length := by
        rw [Layout.length_ending]; decide
      have hsuf := List.suffix_of_suffix_length_le hs (List.suffix_append _ _) hle
      unfold Layout.ending Layout.extension at hsuf
      rw [ht] at hsuf
      revert hsuf
      cases kind <;> decide

end BidArchive
