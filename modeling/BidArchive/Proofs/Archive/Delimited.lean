import BidArchive.Archive.Delimited

/-!
# Rows are read back as they were written

The delimiter and the line feed end a cell for the reader, and a cell that holds one of
them is written in quotes, where nothing ends but at a quote that stands alone. So a
cell of any content is read back as it was (`readFrom_cell`), and with it a row and a
file. A row of one empty cell would look like nothing at all, which is why it has a form
of its own.

The beginning of a row is no such thing, but the reader takes it for one row at most
(`length_read_take_row`).
-/

namespace BidArchive.Delimited

/-- The character means nothing else to a reader. -/
structure Separates (d : Char) : Prop where
  ne_quote : d ≠ '"'
  ne_feed : d ≠ '\n'

variable {d : Char} {done : List String} {content xs : List Char}

/-! ## Cells -/

theorem needsQuotes_cons {c : Char} (h : needsQuotes d (c :: xs) = false) :
    c ≠ d ∧ c ≠ '"' ∧ c ≠ '\r' ∧ c ≠ '\n' ∧ needsQuotes d xs = false := by
  unfold needsQuotes at *
  simp only [List.any_cons, Bool.or_eq_false_iff, beq_eq_false_iff_ne] at h
  obtain ⟨⟨⟨⟨hd, hq⟩, hr⟩, hn⟩, hxs⟩ := h
  exact ⟨hd, hq, hr, hn, hxs⟩

/-- Between quotes everything is content, whatever stands behind it. -/
theorem readFrom_doubled (xs rest : List Char) :
    readFrom d .quoted done content (doubled xs ++ '"' :: rest)
      = readFrom d .closing done (xs.reverse ++ content) rest := by
  induction xs generalizing content with
  | nil => rfl
  | cons c xs ih =>
      rw [List.reverse_cons, List.append_assoc, List.singleton_append, ← ih, doubled]
      split
      · rename_i hc
        rw [hc]
        rfl
      · rename_i hc
        rw [List.cons_append, readFrom, if_pos rfl, if_neg hc]

/-- Characters without a meaning are content. -/
theorem readFrom_plain (h : needsQuotes d xs = false) (rest : List Char) :
    readFrom d .bare done content (xs ++ rest)
      = readFrom d .bare done (xs.reverse ++ content) rest := by
  induction xs generalizing content with
  | nil => rfl
  | cons c xs ih =>
      obtain ⟨hd, hq, hr, hn, hxs⟩ := needsQuotes_cons h
      rw [List.cons_append, readFrom, if_neg (by decide), if_neg (by simp [hq]),
        if_neg (by simp [hq]), if_neg hd, if_neg (by simp [hr, hn]), ih hxs,
        List.reverse_cons, List.append_assoc, List.singleton_append]

/-- **A cell is read as its content.** The reader comes out of it outside of quotes, and in front of
a cell only if there was nothing. -/
theorem readFrom_cell (d : Char) (done : List String) (xs : List Char) :
    ∃ place, place ≠ .quoted ∧ (place = .start → xs = []) ∧
      ∀ rest, readFrom d .start done [] (cell d xs ++ rest)
        = readFrom d place done xs.reverse rest := by
  unfold cell
  cases hx : needsQuotes d xs with
  | true =>
      refine ⟨.closing, by decide, fun h => absurd h (by decide), fun rest => ?_⟩
      rw [if_pos rfl, List.append_assoc, List.cons_append, readFrom, if_neg (by decide),
        if_pos ⟨rfl, rfl⟩]
      show readFrom d .quoted done [] (doubled xs ++ '"' :: rest) = _
      rw [readFrom_doubled, List.append_nil]
  | false =>
      cases xs with
      | nil => exact ⟨.start, by decide, fun _ => rfl, fun rest => rfl⟩
      | cons c xs =>
          obtain ⟨hd, hq, hr, hn, hxs⟩ := needsQuotes_cons hx
          refine ⟨.bare, by decide, fun h => absurd h (by decide), fun rest => ?_⟩
          rw [if_neg (by decide), List.cons_append, readFrom, if_neg (by decide),
            if_neg (by simp [hq]), if_neg (by simp [hq]), if_neg hd, if_neg (by simp [hr, hn]),
            readFrom_plain hxs, List.reverse_cons]

/-- The delimiter ends a cell. -/
theorem readFrom_cell_delimiter (hs : Separates d) (xs rest : List Char) :
    readFrom d .start done [] (cell d xs ++ d :: rest)
      = readFrom d .start (String.ofList xs :: done) [] rest := by
  obtain ⟨place, hq, _, hcell⟩ := readFrom_cell d done xs
  rw [hcell, readFrom, if_neg hq, if_neg fun h => hs.ne_quote h.1,
    if_neg fun h => hs.ne_quote h.1, if_pos rfl, List.reverse_reverse]

/-- The line feed ends a cell and its row. -/
theorem readFrom_cell_feed (hs : Separates d) (hne : done ≠ [] ∨ xs ≠ []) (rest : List Char) :
    readFrom d .start done [] (cell d xs ++ '\n' :: rest)
      = (String.ofList xs :: done).reverse :: readFrom d .start [] [] rest := by
  obtain ⟨place, hq, hstart, hcell⟩ := readFrom_cell d done xs
  -- the row is not passed over as a blank one
  have hsome : ¬ (place = .start ∧ done = []) := by
    rintro ⟨hp, hd⟩
    rcases hne with h | h
    · exact h hd
    · exact h (hstart hp)
  rw [hcell, readFrom, if_neg hq, if_neg (by simp), if_neg (by simp), if_neg hs.ne_feed.symm,
    if_pos (Or.inl rfl), if_neg hsome, List.reverse_reverse]

/-! ## Rows -/

theorem readFrom_cells (hs : Separates d) {record : List String} (hne : record ≠ [])
    (hblank : done = [] → record ≠ [""]) (rest : List Char) :
    readFrom d .start done [] (cells d (record.map String.toList) ++ '\n' :: rest)
      = (done.reverse ++ record) :: readFrom d .start [] [] rest := by
  induction record generalizing done with
  | nil => exact absurd rfl hne
  | cons first record ih =>
      cases record with
      | nil =>
          have hcell : done ≠ [] ∨ first.toList ≠ [] := by
            by_cases hd : done = []
            · refine Or.inr fun hf => hblank hd ?_
              rw [String.toList_inj.mp (hf.trans String.toList_empty.symm)]
            · exact Or.inl hd
          show readFrom d .start done [] (cell d first.toList ++ '\n' :: rest) = _
          rw [readFrom_cell_feed hs hcell, String.ofList_toList, List.reverse_cons]
      | cons second record =>
          show readFrom d .start done []
            (cell d first.toList ++ d :: cells d ((second :: record).map String.toList)
              ++ '\n' :: rest) = _
          rw [List.append_assoc, List.cons_append, readFrom_cell_delimiter hs,
            ih (List.cons_ne_nil _ _) (fun h => absurd h (List.cons_ne_nil _ _)),
            String.ofList_toList, List.reverse_cons, List.append_assoc, List.singleton_append]

/-- **A row is read back cell for cell.** -/
theorem readFrom_row (hs : Separates d) {record : List String} (hne : record ≠ [])
    (rest : List Char) :
    readFrom d .start [] [] (row d record ++ rest)
      = record :: readFrom d .start [] [] rest := by
  unfold row
  split
  · show readFrom d .closing [] [] ('\n' :: rest) = _
    rw [readFrom, if_neg (by decide), if_neg (by decide), if_neg (by decide),
      if_neg hs.ne_feed.symm, if_pos (Or.inl rfl), if_neg (by decide)]
    rfl
  · rename_i hblank
    rw [List.append_assoc, List.singleton_append, readFrom_cells hs hne fun _ => hblank]
    rfl

/-- **Rows are read one by one**, with whatever stands behind them. -/
theorem read_rows_append (hs : Separates d) {records : List (List String)}
    (hne : ∀ record ∈ records, record ≠ []) (rest : List Char) :
    read d (records.flatMap (row d) ++ rest) = records ++ read d rest := by
  unfold read
  induction records with
  | nil => rfl
  | cons record records ih =>
      rw [List.flatMap_cons, List.append_assoc, readFrom_row hs (hne record List.mem_cons_self),
        ih fun r hr => hne r (List.mem_cons_of_mem _ hr), List.cons_append]

/-- **A file is read back row for row.** -/
theorem read_rows (hs : Separates d) {records : List (List String)}
    (hne : ∀ record ∈ records, record ≠ []) : read d (records.flatMap (row d)) = records := by
  have h := read_rows_append hs hne []
  rw [List.append_nil] at h
  exact h.trans (List.append_nil _)

/-- Quotes, delimiters and ends of lines in a cell stay its content. -/
example : read ',' (row ',' ["a,\"b", "", "c\r\nd"]) = [["a,\"b", "", "c\r\nd"]] := by
  decide +kernel

/-! ## Rows that are cut short -/

/-- Nothing of a row is read. -/
def Blank (place : Place) (done : List String) : Prop := place = .start ∧ done = []

/-- **What a character does to a reader**: it goes on within the row, or the row ends there. -/
theorem readFrom_cons_cases (d : Char) (place : Place) (done : List String) (content : List Char)
    (c : Char) :
    (∃ place' done' content', (¬ Blank place done → ¬ Blank place' done') ∧ ∀ rest,
        readFrom d place done content (c :: rest) = readFrom d place' done' content' rest)
      ∨ (c = '\n' ∨ c = '\r') ∧ ∃ row, ∀ rest,
        readFrom d place done content (c :: rest) = row :: readFrom d .start [] [] rest := by
  unfold Blank
  simp only [readFrom]
  split
  · split
    · exact .inl ⟨_, _, _, by simp, fun _ => rfl⟩
    · exact .inl ⟨_, _, _, by simp, fun _ => rfl⟩
  · split
    · exact .inl ⟨_, _, _, by simp, fun _ => rfl⟩
    · split
      · exact .inl ⟨_, _, _, by simp, fun _ => rfl⟩
      · split
        · exact .inl ⟨_, _, _, by simp, fun _ => rfl⟩
        · split
          · rename_i hend
            split
            · rename_i hblank
              exact .inl ⟨_, _, _, fun h => absurd hblank h, fun _ => rfl⟩
            · exact .inr ⟨hend, _, fun _ => rfl⟩
          · exact .inl ⟨_, _, _, by simp, fun _ => rfl⟩

theorem readFrom_nil_of_not_blank {place : Place} (h : ¬ Blank place done) :
    readFrom d place done content [] = [(String.ofList content.reverse :: done).reverse] := if_neg h

theorem length_readFrom_nil (d : Char) (place : Place) (done : List String) (content : List Char) :
    (readFrom d place done content []).length ≤ 1 := by
  rw [readFrom]
  split
  · exact Nat.zero_le 1
  · exact Nat.le_refl 1

/-- Once something of a row is read there is a row, whatever comes behind it. -/
theorem one_le_length_readFrom {place : Place} (h : ¬ Blank place done) (rest : List Char) :
    1 ≤ (readFrom d place done content rest).length := by
  induction rest generalizing place done content with
  | nil =>
      rw [readFrom_nil_of_not_blank h]
      exact Nat.le_refl 1
  | cons c rest ih =>
      rcases readFrom_cons_cases d place done content c with
        ⟨place', done', content', hkeep, hread⟩ | ⟨-, row, hread⟩
      · rw [hread]
        exact ih (hkeep h)
      · rw [hread, List.length_cons]
        exact Nat.le_add_left 1 _

/-- **A text holds no fewer rows than its beginning.** -/
theorem length_readFrom_le_append {place : Place} (text rest : List Char) :
    (readFrom d place done content text).length
      ≤ (readFrom d place done content (text ++ rest)).length := by
  induction text generalizing place done content with
  | nil =>
      by_cases h : Blank place done
      · rw [readFrom, if_pos (show place = .start ∧ done = [] from h)]
        exact Nat.zero_le _
      · rw [readFrom_nil_of_not_blank h]
        exact one_le_length_readFrom h rest
  | cons c text ih =>
      rw [List.cons_append]
      rcases readFrom_cons_cases d place done content c with
        ⟨place', done', content', -, hread⟩ | ⟨-, row, hread⟩
      · rw [hread, hread]
        exact ih
      · rw [hread, hread, List.length_cons, List.length_cons]
        exact Nat.succ_le_succ ih

/-- The beginning of a row is read as one row, or as none. -/
theorem length_read_take_row (hs : Separates d) {record : List String} (hne : record ≠ [])
    (count : Nat) : (read d ((row d record).take count)).length ≤ 1 := by
  have hwhole := readFrom_row hs hne []
  rw [List.append_nil, ← List.take_append_drop count (row d record)] at hwhole
  calc (read d ((row d record).take count)).length
      ≤ (readFrom d .start [] [] ((row d record).take count ++ (row d record).drop count)).length :=
        length_readFrom_le_append _ _
    _ = 1 := by
        rw [hwhole]
        rfl

/-- So is whatever ends no line, also with a line feed behind it. -/
theorem length_readFrom_line {place : Place} {line : List Char}
    (h : ∀ c ∈ line, ¬ (c = '\n' ∨ c = '\r')) {rest : List Char}
    (hrest : rest = [] ∨ rest = ['\n']) :
    (readFrom d place done content (line ++ rest)).length ≤ 1 := by
  induction line generalizing place done content with
  | nil =>
      rcases hrest with rfl | rfl
      · exact length_readFrom_nil d place done content
      · rcases readFrom_cons_cases d place done content '\n' with
          ⟨place', done', content', -, hread⟩ | ⟨-, row, hread⟩
        · rw [List.nil_append, hread]
          exact length_readFrom_nil d place' done' content'
        · rw [List.nil_append, hread]
          exact Nat.le_refl 1
  | cons c line ih =>
      obtain ⟨hc, hline⟩ := List.forall_mem_cons.mp h
      rw [List.cons_append]
      rcases readFrom_cons_cases d place done content c with
        ⟨place', done', content', -, hread⟩ | ⟨hend, -⟩
      · rw [hread]
        exact ih hline
      · exact absurd hend hc

end BidArchive.Delimited
