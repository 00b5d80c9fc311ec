import BidArchive.Proofs.Archive.Operations
import BidArchive.Proofs.Bid.Serving

/-!
# Every top row stands among all rows

A recorder over an archive writes a top row only behind the row of the same bid for the
other file of the bucket (`rowsOn_cases`), and the archive puts both into files that
belong together (`place?_congr`). So the rows of a top file are among those of its
sibling, in their order, as long as rows come through whole or not at all (`Owing.sublist`): also
when a write fails between the two, when buckets share their files, and when the
recorder has forgotten all it knew because the program was started again. Nor does it matter what
becomes of other files, so that only those of a bucket are watched.

A row that is cut ends all that. The file that it was meant for has the beginning of a row at its
end, which is read as one row more (`Torn.sublist`); and there the next row would be glued to it.
-/

namespace BidArchive

open Chain (Slot)
open History

/-! ## An archive takes rows -/

namespace Archive

variable {a a' m : Archive} {layout : Layout} {log : List Filing} {bid : Bid} {p q place : Place}
  {start : Int64} {kind : RowKind} {past : List Happening} {done later : List Row} {row : Row}
  {more : List Filing} {base : Option String} {debris : String} {watched : Place → Prop}

theorem Accounts.takes {rows : List Row} (h : Accounts watched log a) (hi : a.Idle)
    (ht : sink.Takes rows a a') :
    Accounts watched (log ++ rows.map fun row => ⟨a.layout, row⟩) a' ∧ a'.Idle
      ∧ a'.layout = a.layout ∧ a.tree.Eases a'.tree := by
  induction rows generalizing a log with
  | nil =>
      obtain rfl : a' = a := ht
      rw [List.map_nil, List.append_nil]
      exact ⟨h, hi, rfl, .refl _⟩
  | cons row rest ih =>
      obtain ⟨m, hm, hrest⟩ := ht
      have hw : a.write row = (.written, m) := hm
      have hwritten : (a.write row).1 = .written := by rw [hw]
      obtain ⟨hone, hidle, hl, heases, -⟩ := h.write hi hwritten
      rw [hw] at hone hidle hl heases
      obtain ⟨hall, hidle', hl', heases'⟩ := ih hone hidle hrest
      rw [hl, List.append_assoc] at hall
      exact ⟨hall, hidle', hl'.trans hl, heases.trans heases'⟩

/-- In every bucket the bids in the top file are among those in the other file, in their order. -/
def Paired (layout : Layout) (log : List Filing) : Prop :=
  ∀ start p q, layout.place? start .all = some p → layout.place? start .top = some q →
    (bidsAt q log).Sublist (bidsAt p log)

/-- The filing of a bid in one of the files of its bucket. -/
def filingOf (layout : Layout) (kind : RowKind) (bid : Bid) : Filing := ⟨layout, ⟨kind, bid⟩⟩

/-- No row of one kind goes into a file of the other. -/
theorem bidsAt_filingOf_ne {kind other : RowKind} (hk : kind ≠ other)
    (hq : layout.place? start other = some q) : bidsAt q [filingOf layout kind bid] = [] := by
  rw [bidsAt_singleton, if_neg]
  exact fun h => hk (Layout.kind_eq_of_place?_eq h hq)

theorem Paired.all (h : Paired layout log) (bid : Bid) :
    Paired layout (log ++ [filingOf layout .all bid]) := by
  intro start p q hp hq
  rw [bidsAt_append, bidsAt_append, bidsAt_filingOf_ne (by decide) hq, List.append_nil]
  exact (h start p q hp hq).trans (List.sublist_append_left _ _)

/-- **Both rows of a bid go into files that belong together.** -/
theorem Paired.both (h : Paired layout log) (bid : Bid) :
    Paired layout (log ++ [filingOf layout .all bid, filingOf layout .top bid]) := by
  intro start p q hp hq
  have hsplit : ∀ place, bidsAt place (log ++ [filingOf layout .all bid, filingOf layout .top bid])
      = bidsAt place log ++ (bidsAt place [filingOf layout .all bid]
        ++ bidsAt place [filingOf layout .top bid]) := by
    intro place
    rw [bidsAt_append, ← bidsAt_append place [filingOf layout .all bid]]
    rfl
  have hnotop : bidsAt q [filingOf layout .all bid] = [] := bidsAt_filingOf_ne (by decide) hq
  have hnoall : bidsAt p [filingOf layout .top bid] = [] := bidsAt_filingOf_ne (by decide) hp
  rw [hsplit, hsplit, hnotop, hnoall, List.nil_append, List.append_nil]
  refine List.Sublist.append (h start p q hp hq) ?_
  rw [bidsAt_singleton, bidsAt_singleton]
  -- a bucket that files its top rows here files the others beside them
  by_cases htop : (filingOf layout .top bid).place? = some q
  · have hall : (filingOf layout .all bid).place? = some p :=
      (Layout.place?_congr htop hq .all).trans hp
    rw [if_pos htop, if_pos hall]
    exact List.Sublist.refl _
  · rw [if_neg htop]
    exact List.nil_sublist _

/-- The rows of a bid leave files paired, whether or not they are all taken. -/
theorem Paired.rows (h : Paired layout log) (hrows : rowsOn past bid = done ++ later) :
    Paired layout (log ++ done.map fun row => ⟨layout, row⟩) := by
  rcases prefix_rowsOn_cases ⟨later, hrows.symm⟩ with rfl | rfl | rfl
  · rw [List.map_nil, List.append_nil]
    exact h
  · exact h.all bid
  · exact h.both bid

/-! ## What a recorder leaves behind -/

/-- The files are paired, and every row that was written is on file. -/
def Balanced (watched : Place → Prop) (layout : Layout) (a : Archive) : Prop :=
  a.layout = layout ∧ a.Idle ∧ ∃ log, Accounts watched log a ∧ Paired layout log

/-- The files are paired, and will be so when a row that has not come through does. -/
def Owing (watched : Place → Prop) (layout : Layout) (a : Archive) : Prop :=
  a.layout = layout ∧ ∃ log, Accounts watched log a ∧ Paired layout log
    ∧ (a.Idle ∨ ∃ f, Owes watched f a ∧ Paired layout (log ++ [f]))

/-- The files are paired, but for debris at the end of one of them. They would be so with the row
that it comes from. -/
def Torn (watched : Place → Prop) (layout : Layout) (a : Archive) : Prop :=
  a.layout = layout ∧ ∃ log more, Paired layout log ∧ Paired layout (log ++ more)
    ∧ ∃ place base debris, Frayed watched log more a place base debris

theorem Balanced.owing (h : Balanced watched layout a) : Owing watched layout a := by
  obtain ⟨hl, hidle, log, hacc, hpair⟩ := h
  exact ⟨hl, log, hacc, hpair, .inl hidle⟩

theorem Balanced.torn (h : Balanced watched layout a) : Torn watched layout a := by
  obtain ⟨hl, -, log, hacc, hpair⟩ := h
  refine ⟨hl, log, [], hpair, ?_, _, _, _, hacc.frayed [] []⟩
  rw [List.append_nil]
  exact hpair

/-- **Rows that are taken** leave the files paired. -/
theorem Balanced.takes (h : Balanced watched layout a) (hrows : rowsOn past bid = done ++ later)
    (ht : sink.Takes done a a') : Balanced watched layout a' ∧ a.tree.Eases a'.tree := by
  obtain ⟨rfl, hidle, log, hacc, hpair⟩ := h
  obtain ⟨hacc', hidle', hl, heases⟩ := hacc.takes hidle ht
  exact ⟨⟨hl, hidle', _, hacc', hpair.rows hrows⟩, heases⟩

/-- **A row that is refused** tears at most one file, and is owed where no text is cut. The refusal
is never a crash. -/
theorem Balanced.refuses {halt : Halt (RecorderFault ArchiveFault)}
    (h : Balanced watched layout a) (hrows : rowsOn past bid = done ++ row :: later)
    (ht : sink.Takes done a m) (hr : Recorder.Refuses sink row m a' halt) :
    (∃ cause, halt = .failed (.sink cause)) ∧ a.tree.Eases a'.tree ∧ Torn watched layout a'
      ∧ (Spared watched a → Owing watched layout a') := by
  obtain ⟨rfl, hidle, log, hacc, hpair⟩ := h
  obtain ⟨hacc', hidle', hl, heases⟩ := hacc.takes hidle ht
  have hdone := hpair.rows hrows
  have hmore := hpair.rows (hrows.trans (List.append_cons done row later))
  rw [List.map_append, ← List.append_assoc] at hmore
  rcases hr with ⟨cause, hw, hh⟩ | ⟨hw, -⟩
  · have hw' : m.write row = (.failed cause, a') := hw
    have hne : (m.write row).1 ≠ .written := by rw [hw']; simp
    obtain ⟨hl', heases', hfrayed, hspared⟩ := hacc'.write_failed hidle' hne
    rw [hw'] at hl' hfrayed hspared heases'
    rw [hl] at hl' hfrayed hspared
    refine ⟨⟨cause, hh⟩, heases.trans heases', ⟨hl', _, _, hdone, hmore, hfrayed⟩, fun hs => ?_⟩
    obtain ⟨hacc'', howes⟩ := hspared (hs.of_eases heases)
    exact ⟨hl', _, hacc'', hdone, howes.imp_right fun ho => ⟨_, ho, hmore⟩⟩
  · exact absurd (show (m.write row).1 = .crashed by rw [show m.write row = _ from hw])
      (m.write_ne_crashed row)

/-- If nobody leaves an archive nothing is owed any more: the last row is lost. -/
theorem Owing.lost (h : Owing watched layout a) :
    Balanced watched layout { layout := layout, tree := a.tree } := by
  obtain ⟨rfl, log, hacc, hpair, -⟩ := h
  exact ⟨rfl, fun e he => absurd he List.not_mem_nil, log,
    ⟨hacc.content, fun e he => absurd he List.not_mem_nil, hacc.placed⟩, hpair⟩

/-- **Once an archive is left** nothing is owed, whether or not the last row has come through. -/
theorem Owing.close (h : Owing watched layout a) (hs : Spared watched a) :
    Balanced watched layout { layout := layout, tree := a.close } ∧ a.tree.Eases a.close := by
  obtain ⟨rfl, log, hacc, hpair, hidle | ⟨f, howes, hmore⟩⟩ := h
  · rw [hidle.close_eq]
    exact ⟨Owing.lost ⟨rfl, log, hacc, hpair, .inl hidle⟩, .refl _⟩
  · obtain ⟨more, hcases, heases, hacc'⟩ := hacc.close howes hs
    refine ⟨⟨rfl, fun e he => absurd he List.not_mem_nil, _, hacc', ?_⟩, heases⟩
    rcases hcases with rfl | rfl
    · rw [List.append_nil]
      exact hpair
    · exact hmore

/-! ## The rows that are read -/

/-- The rows of a bucket's file, below the names of the columns. -/
def dataRows (layout : Layout) (tree : Tree) (start : Int64) (kind : RowKind) :
    List (List String) :=
  match (layout.place? start kind).bind tree.content? with
  | some text => (Delimited.read layout.delimiter text.toList).tail
  | none => []

theorem dataRows_of_content {text : String} (hp : layout.place? start kind = some p)
    (hc : a.tree.content? p = some text) :
    dataRows layout a.tree start kind = (Delimited.read (delimiterAt p) text.toList).tail := by
  unfold dataRows
  rw [hp, Option.bind_some, hc, delimiterAt_place hp]

/-- What stands behind the rows of bids is read by itself. -/
theorem dataRows_of_textOf {bids : List Bid} {rest : String}
    (hp : layout.place? start kind = some p)
    (hc : a.tree.content? p = some (textOf p bids ++ rest)) :
    dataRows layout a.tree start kind
      = bids.map Bid.record ++ Delimited.read layout.delimiter rest.toList := by
  rw [dataRows_of_content hp hc, String.toList_append, read_textOf_append, delimiterAt_place hp]
  rfl

theorem dataRows_of_holds {bids : List Bid} (hp : layout.place? start kind = some p)
    (h : Holds p bids (a.tree.content? p)) :
    dataRows layout a.tree start kind = bids.map Bid.record := by
  rcases h.cases with ⟨he, rfl⟩ | hsome
  · cases hc : a.tree.content? p with
    | none =>
        unfold dataRows
        rw [hp, Option.bind_some, hc]
        rfl
    | some text =>
        rw [hc, Option.getD_some] at he
        rw [dataRows_of_content hp hc, he]
        rfl
  · rw [dataRows_of_content hp hsome, read_textOf]
    rfl

/-- What is read of the beginning of a row. -/
def readCut (layout : Layout) (record : List String) (count : Nat) : List (List String) :=
  Delimited.read layout.delimiter ((Delimited.row layout.delimiter record).take count)

/-- It is no more than a row. -/
theorem length_readCut (hp : layout.place? start kind = some p) (bid : Bid) (count : Nat) :
    (readCut layout bid.record count).length ≤ 1 :=
  Delimited.length_read_take_row (delimiterAt_place hp ▸ separates_delimiterAt p)
    (record_ne_nil bid) count

/-- **Debris behind a file** is read as nothing, or as the beginning of a row that was to be filed
there. -/
theorem Frayed.dataRows_eq (h : Frayed watched log more a place base debris)
    (hp : layout.place? start kind = some p) (hwatched : watched p) :
    dataRows layout a.tree start kind = (bidsAt p log).map Bid.record
      ∨ ∃ f count, more = [f] ∧ f.place? = some p
        ∧ dataRows layout a.tree start kind = (bidsAt p log).map Bid.record
          ++ readCut layout f.row.bid.record count := by
  by_cases hpp : p = place
  · subst hpp
    have hc := h.content
    have hholds := h.holds hwatched
    cases h.debris hwatched with
    | none =>
        refine .inl (dataRows_of_holds hp ?_)
        have hsame : base.map (· ++ "") = base := by simp
        rw [hc, hsame]
        exact hholds
    | scrap hshort =>
        -- there is no row, as what is read in front is taken for the columns
        refine .inl ?_
        have hnil := hholds.nil_of_getD_eq_empty rfl
        have hdebris : ("" ++ debris).toList = debris.toList := by rw [String.empty_append]
        rw [dataRows_of_content hp hc, hnil, List.map_nil, hdebris]
        refine List.eq_nil_of_length_eq_zero ?_
        rw [List.length_tail]
        omega
    | @row f text count hmore hfiled htext =>
        obtain rfl := hholds.resolve_right fun he => htext he.1
        refine .inr ⟨f, count, hmore, hfiled, ?_⟩
        rw [dataRows_of_textOf hp hc, String.toList_ofList, delimiterAt_place hp, readCut]
  · exact .inl (dataRows_of_holds hp (h.others p hwatched hpp))

/-- The files of a bucket, which are watched. -/
def IsFileOf (layout : Layout) (start : Int64) (place : Place) : Prop :=
  ∃ kind, layout.place? start kind = some place

/-- **The rows of a top file are among those of its sibling.** -/
theorem Owing.sublist (h : Owing (IsFileOf layout start) layout a) :
    (dataRows layout a.tree start .top).Sublist (dataRows layout a.tree start .all) := by
  obtain ⟨_, log, hacc, hpair, -⟩ := h
  rcases Layout.place?_cases layout start with hnone | ⟨directory, stem, hsome⟩
  · unfold dataRows
    rw [hnone]
    exact List.nil_sublist _
  · rw [dataRows_of_holds (hsome .top) (hacc.content _ ⟨_, hsome .top⟩),
      dataRows_of_holds (hsome .all) (hacc.content _ ⟨_, hsome .all⟩)]
    exact (hpair start _ _ (hsome .all) (hsome .top)).map Bid.record

/-- **So are those of a torn one**, but for the last, which is read from the beginning of a row
whose whole is among those of its sibling. -/
theorem Torn.sublist (h : Torn (IsFileOf layout start) layout a) : ∃ rows,
    rows.Sublist (dataRows layout a.tree start .all)
      ∧ (dataRows layout a.tree start .top = rows
        ∨ ∃ whole record count, rows = whole ++ [record]
          ∧ (readCut layout record count).length ≤ 1
          ∧ dataRows layout a.tree start .top = whole ++ readCut layout record count) := by
  obtain ⟨_, log, more, hpair, hmore, place, base, debris, hfrayed⟩ := h
  rcases Layout.place?_cases layout start with hnone | ⟨directory, stem, hsome⟩
  · refine ⟨[], List.nil_sublist _, .inl ?_⟩
    unfold dataRows
    rw [hnone]
    rfl
  · have hall : ((bidsAt (directory ++ [stem ++ layout.ending .all]) log).map Bid.record).Sublist
        (dataRows layout a.tree start .all) := by
      rcases hfrayed.dataRows_eq (hsome .all) ⟨_, hsome .all⟩ with hrows | ⟨_, _, -, -, hrows⟩
      · rw [hrows]
      · rw [hrows]
        exact List.sublist_append_left _ _
    rcases hfrayed.dataRows_eq (hsome .top) ⟨_, hsome .top⟩ with
      hrows | ⟨f, count, rfl, hfiled, hrows⟩
    · exact ⟨_, ((hpair start _ _ (hsome .all) (hsome .top)).map Bid.record).trans hall,
        .inl hrows⟩
    · -- the row that was cut is a top row, and so no row of the sibling
      have hpairs := hmore start _ _ (hsome .all) (hsome .top)
      have hne : directory ++ [stem ++ layout.ending .all]
          ≠ directory ++ [stem ++ layout.ending .top] := fun he =>
        absurd (Layout.kind_eq_of_place?_eq (hsome .all) (he ▸ hsome .top)) (by decide)
      rw [bidsAt_concat hfiled, bidsAt_concat hfiled, if_pos rfl, if_neg hne] at hpairs
      refine ⟨_, (hpairs.map Bid.record).trans hall, .inr ⟨_, f.row.bid.record, count, ?_,
        length_readCut (hsome .top) f.row.bid count, hrows⟩⟩
      rw [List.map_append, List.map_singleton]

end Archive

end BidArchive
