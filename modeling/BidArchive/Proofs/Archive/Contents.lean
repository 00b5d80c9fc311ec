import BidArchive.Proofs.Archive.Place

/-!
# What the files hold

The content of every file is accounted for by the rows that were written: the names of the columns
once, in front, and behind them one row for each bid that was filed there, in order (`Accounts`).
The account goes by the place of a file, so it does not matter through which bucket, in which layout
or after how many reopenings a row came; and as no file has a say in what becomes of another one, it
can be kept for some files only, those that are watched. As long as every write succeeds nothing is
held back (`Idle`).

A write that fails leaves the account as it was, but for one file that may have debris behind it: a
scrap of the names of the columns or the beginning of the row (`Frayed`). Where a text comes through
whole or not at all there is no debris, but the row may still be owed (`Owes`), and come to the file
when the archive is left (`Accounts.close`). Where files that are open do what they are asked for, a
write can only fail before its file is open, and leaves no mark on the bucket
(`Accounts.write_refused`).
-/

namespace BidArchive.Archive

variable {a a' : Archive} {start : Int64} {kind : RowKind} {place q : Place} {row : Row}
  {fault : ArchiveFault}

/-! ## The account -/

/-- A row that was written, with the layout that the archive had at the time. -/
structure Filing where
  layout : Layout
  row : Row
deriving DecidableEq, Repr

/-- The bucket of a row in a layout, by its start and the kind. -/
def bucketOf (layout : Layout) (row : Row) : Int64 × RowKind :=
  (layout.bucketStart row.bid.receivedAtMs, row.kind)

/-- The bucket that the row was written to. -/
def Filing.bucket (f : Filing) : Int64 × RowKind := bucketOf f.layout f.row

/-- Where the file of the bucket lies. -/
def Filing.place? (f : Filing) : Option Place := f.layout.place? f.bucket.1 f.bucket.2

/-- The bids that were filed at a place. -/
def bidsAt (place : Place) (log : List Filing) : List Bid :=
  (log.filter fun f => f.place? = some place).map (·.row.bid)

/-- The text of a file with rows for the given bids. -/
def textOf (place : Place) (bids : List Bid) : String :=
  String.ofList ((columns :: bids.map Bid.record).flatMap (Delimited.row (delimiterAt place)))

/-- What stands at a place where the given bids were filed: nothing, if there were none. -/
def contentOf (place : Place) (bids : List Bid) : Option String :=
  if bids = [] then none else some (textOf place bids)

/-- What may stand at a place where the given bids were filed: the columns and a row for each of
them. Where there were none there need be no file, and if there is one it may be empty. -/
def Holds (place : Place) (bids : List Bid) : Option String → Prop
  | none => bids = []
  | some text => text = textOf place bids ∨ text = "" ∧ bids = []

/-- **The files that are watched hold what was filed.** -/
structure Accounts (watched : Place → Prop) (log : List Filing) (a : Archive) : Prop where
  /-- Every file holds the bids that were filed there. -/
  content : ∀ place, watched place → Holds place (bidsAt place log) (a.tree.content? place)
  /-- A file that is open is the file of its bucket, and the columns are in it. -/
  opened : ∀ e ∈ a.opened, a.layout.place? e.1.1 e.1.2 = some e.2.place
    ∧ (watched e.2.place →
      a.tree.content? e.2.place = some (textOf e.2.place (bidsAt e.2.place log)))
  /-- Whatever was filed went into a file. -/
  placed : ∀ f ∈ log, ∃ place, f.place? = some place

/-- All that was written has come through. -/
def Idle (a : Archive) : Prop := ∀ e ∈ a.opened, e.2.held = ""

/-- One row that was written has not come through. If its file is watched, nothing of it has. -/
def Owes (watched : Place → Prop) (f : Filing) (a : Archive) : Prop :=
  ∃ bucket writer rest, a.opened = (bucket, writer) :: rest ∧ (∀ e ∈ rest, e.2.held = "")
    ∧ (watched writer.place → writer.held = rowText f.layout f.row.bid.record)
    ∧ f.place? = some writer.place

/-- Whatever is added to a file that is watched comes through whole or not at all. -/
def Spared (watched : Place → Prop) (a : Archive) : Prop :=
  ∀ q, watched q → a.tree.trouble.Spares q

/-- What may stand behind a file when `more` was to be filed next. -/
inductive Debris (more : List Filing) (place : Place) : Option String → String → Prop
  | none (base : Option String) : Debris more place base ""
  /-- In a file without anything, what is read as one row or as none. -/
  | scrap {debris : String} (h : (Delimited.read (delimiterAt place) debris.toList).length ≤ 1) :
      Debris more place (some "") debris
  /-- Behind the columns, the beginning of a row. -/
  | row {f : Filing} {text : String} (count : Nat) (hf : more = [f])
      (hp : f.place? = some place) (htext : text ≠ "") : Debris more place (some text)
        (String.ofList ((Delimited.row (delimiterAt place) f.row.bid.record).take count))

/-- The files that are watched hold what was filed, but for one with debris behind it. -/
structure Frayed (watched : Place → Prop) (log more : List Filing) (a : Archive) (place : Place)
    (base : Option String) (debris : String) : Prop where
  content : a.tree.content? place = base.map (· ++ debris)
  holds : watched place → Holds place (bidsAt place log) base
  debris : watched place → Debris more place base debris
  others : ∀ q, watched q → q ≠ place → Holds q (bidsAt q log) (a.tree.content? q)

theorem bidsAt_append (place : Place) (p q : List Filing) :
    bidsAt place (p ++ q) = bidsAt place p ++ bidsAt place q := by
  unfold bidsAt
  rw [List.filter_append, List.map_append]

/-- A file does not lose its rows. -/
theorem bidsAt_ne_nil {log : List Filing} (h : bidsAt place log ≠ []) (more : List Filing) :
    bidsAt place (log ++ more) ≠ [] := by
  rw [bidsAt_append]
  exact fun hnil => h (List.append_eq_nil_iff.mp hnil).1

theorem bidsAt_singleton (place : Place) (f : Filing) :
    bidsAt place [f] = if f.place? = some place then [f.row.bid] else [] := by
  unfold bidsAt
  by_cases h : f.place? = some place <;> simp [h]

/-- One more filing concerns one file. -/
theorem bidsAt_concat {f : Filing} (h : f.place? = some place) (log : List Filing) :
    bidsAt q (log ++ [f]) = if q = place then bidsAt q log ++ [f.row.bid] else bidsAt q log := by
  rw [bidsAt_append, bidsAt_singleton, h]
  by_cases hq : q = place
  · rw [if_pos hq, if_pos (by rw [hq])]
  · rw [if_neg hq, if_neg fun he => hq (Option.some.inj he).symm, List.append_nil]

/-! ## Texts -/

theorem record_ne_nil (bid : Bid) : bid.record ≠ [] := List.cons_ne_nil _ _

theorem textOf_nil {layout : Layout} (h : layout.place? start kind = some place) :
    textOf place [] = rowText layout columns := by
  unfold textOf rowText
  rw [delimiterAt_place h, List.map_nil, List.flatMap_cons, List.flatMap_nil, List.append_nil]

theorem textOf_append {layout : Layout} (h : layout.place? start kind = some place)
    (bids : List Bid) (bid : Bid) :
    textOf place (bids ++ [bid]) = textOf place bids ++ rowText layout bid.record := by
  unfold textOf rowText
  rw [delimiterAt_place h, ← String.ofList_append, List.map_append, ← List.cons_append,
    List.flatMap_append, List.map_singleton, List.flatMap_singleton]

theorem textOf_ne_empty (place : Place) (bids : List Bid) : textOf place bids ≠ "" := by
  intro h
  have hl := congrArg String.toList h
  unfold textOf at hl
  rw [String.toList_ofList, List.flatMap_cons] at hl
  have hrow := (List.append_eq_nil_iff.mp hl).1
  exact absurd (List.append_eq_nil_iff.mp hrow).2 (List.cons_ne_nil _ _)

/-- The text of a file is read as the columns and the records of its bids, with whatever stands
behind it. -/
theorem read_textOf_append (place : Place) (bids : List Bid) (rest : List Char) :
    Delimited.read (delimiterAt place) ((textOf place bids).toList ++ rest)
      = columns :: bids.map Bid.record ++ Delimited.read (delimiterAt place) rest := by
  unfold textOf
  rw [String.toList_ofList]
  refine Delimited.read_rows_append (separates_delimiterAt place) (fun record hr => ?_) rest
  rcases List.mem_cons.mp hr with hr | hr
  · rw [hr]
    exact List.cons_ne_nil _ _
  · obtain ⟨bid, _, rfl⟩ := List.mem_map.mp hr
    exact record_ne_nil bid

/-- **The text of a file is read back** as the columns and the records of its bids. -/
theorem read_textOf (place : Place) (bids : List Bid) :
    Delimited.read (delimiterAt place) (textOf place bids).toList
      = columns :: bids.map Bid.record := by
  have h := read_textOf_append place bids []
  rw [List.append_nil] at h
  exact h.trans (List.append_nil _)

/-! ## Writers -/

/-- A writer that is let go adds some of what it holds to its file. -/
theorem sets_close (writer : Writer) (tree : Tree) : ∃ count,
    (tree.trouble.Spares writer.place → count = 0 ∨ writer.held.toList.length ≤ count)
      ∧ tree.Sets writer.place ((tree.content? writer.place).map
          (· ++ String.ofList (writer.held.toList.take count))) (writer.close tree) := by
  have hclose : writer.close tree = (tree.append writer.place writer.held).2 := by
    unfold Writer.close Writer.flush
    split
    all_goals rename_i h; rw [h]
  obtain ⟨count, -, hwhole, hsets⟩ := tree.sets_append writer.place writer.held
  exact ⟨count, hwhole, hclose ▸ hsets⟩

/-- A writer that holds nothing has nothing to hand over. -/
theorem flush_of_held_eq_empty {writer : Writer} (h : writer.held = "") (tree : Tree) :
    writer.flush tree = (.ok (), writer, tree) := by
  obtain ⟨place, held⟩ := writer
  obtain rfl : held = "" := h
  rfl

theorem foldl_close_of_idle {opened : List (Bucket × Writer)} (h : ∀ e ∈ opened, e.2.held = "")
    (tree : Tree) : opened.foldl (fun tree entry => entry.2.close tree) tree = tree := by
  induction opened with
  | nil => rfl
  | cons e rest ih =>
      obtain ⟨he, hrest⟩ := List.forall_mem_cons.mp h
      rw [List.foldl_cons, Writer.close, flush_of_held_eq_empty he]
      exact ih hrest

theorem Idle.close_eq (h : a.Idle) : a.close = a.tree := foldl_close_of_idle h a.tree

theorem flushAll_of_idle {opened : List (Bucket × Writer)} (h : ∀ e ∈ opened, e.2.held = "")
    (tree : Tree) : flushAll tree opened = (.ok (), opened, tree) := by
  induction opened with
  | nil => rfl
  | cons e rest ih =>
      obtain ⟨he, hrest⟩ := List.forall_mem_cons.mp h
      rw [flushAll, flush_of_held_eq_empty he]
      dsimp only
      rw [ih hrest]

theorem Idle.flush_eq (h : a.Idle) : a.flush = (.ok (), a) := by
  unfold flush
  rw [flushAll_of_idle h]

/-! ## Opening files -/

/-- What an attempt at the names of the columns may leave: some of them, and behind these what came
through when the writer was let go. -/
def Scrap (layout : Layout) (trouble : Tree.Trouble) (place : Place) (debris : String) : Prop :=
  ∃ count back, count < (rowText layout columns).toList.length
    ∧ back.Sublist (rowText layout columns).toList
    ∧ debris = String.ofList ((rowText layout columns).toList.take count ++ back)
    ∧ (trouble.Spares place → count = 0 ∧ (back = [] ∨ back = (rowText layout columns).toList))

theorem Scrap.of_eases {layout : Layout} {tree tree' : Tree} {debris : String}
    (h : Scrap layout tree'.trouble place debris) (he : tree.Eases tree') :
    Scrap layout tree.trouble place debris := by
  obtain ⟨count, back, hcount, hback, hdebris, hwhole⟩ := h
  exact ⟨count, back, hcount, hback, hdebris, fun hs => hwhole (he.spares hs)⟩

/-- The names of the columns go into an empty file, or a scrap of them does. -/
theorem write_columns_cases (layout : Layout) {tree : Tree}
    (hempty : tree.content? place = some "") :
    (∃ later, Writer.write { place := place } (rowText layout columns) tree
          = (.ok (), { place := place }, later)
        ∧ tree.Sets place (some (rowText layout columns)) later)
      ∨ ¬ tree.trouble.Serves ∧ ∃ fault writer later debris,
        Writer.write { place := place } (rowText layout columns) tree
          = (.error fault, writer, later)
        ∧ Scrap layout tree.trouble place debris
        ∧ tree.Sets place (some debris) (writer.close later) := by
  obtain ⟨count, hok, hwhole, hsets⟩ := tree.sets_append place (rowText layout columns)
  rw [hempty, Option.map_some, String.empty_append] at hsets
  unfold Writer.write Writer.flush
  rw [String.empty_append]
  dsimp only
  cases happend : tree.append place (rowText layout columns) with
  | mk result later =>
      rw [happend] at hok hsets
      cases result with
      | ok u =>
          rw [List.take_of_length_le (hok.mp rfl), String.ofList_toList] at hsets
          exact .inl ⟨later, rfl, hsets⟩
      | error cut =>
          have hshort : ¬ (rowText layout columns).toList.length ≤ count :=
            fun hle => absurd (hok.mpr hle) (by simp)
          -- the writer is let go, so that it comes to a second attempt
          obtain ⟨more, hmore, hclose⟩ :=
            sets_close { place := place, held := cut.handed (rowText layout columns) } later
          rw [hsets.here, Option.map_some, ← String.ofList_append] at hclose
          refine .inr ⟨fun hs => ?_, _, _, later, _, rfl, ⟨count, _, Nat.lt_of_not_le hshort,
            (List.take_sublist more _).trans (cut.handed_sublist _), rfl, fun hs =>
              ⟨(hwhole hs).resolve_right hshort, ?_⟩⟩, hsets.trans hclose⟩
          · obtain ⟨_, hserved⟩ := hs.append place (rowText layout columns)
            rw [happend] at hserved
            exact absurd (Prod.mk.inj hserved).1 (by simp)
          · have hrefuses := Tree.refuses_of_append_error hs happend
            rw [hrefuses.handed_eq] at hmore ⊢
            rcases hmore (hsets.eases.spares hs) with rfl | hall
            · exact .inl List.take_zero
            · exact .inr (List.take_of_length_le hall)

/-- **What becomes of a file that was just opened.** It has a writer and begins with the names of
the columns, if it was empty; or it has none, and is as it was but for a scrap of these. -/
theorem begin_cases (layout : Layout) {tree : Tree} {base : String}
    (hbase : tree.content? place = some base) :
    (∃ later, begin layout place tree = (.ok { place := place }, later)
        ∧ tree.Sets place (some (if base = "" then rowText layout columns else base)) later)
      ∨ ¬ tree.trouble.Serves ∧ ∃ fault later debris,
        begin layout place tree = (.error fault, later)
        ∧ (debris = "" ∨ base = "" ∧ Scrap layout tree.trouble place debris)
        ∧ tree.Sets place (some (base ++ debris)) later := by
  have hsame : tree.Sets place (some base) tree := hbase ▸ Tree.Sets.refl tree place
  unfold begin Tree.isEmpty?
  cases hfind : tree.trouble.unmeasured.find? (·.1 = place) with
  | some e =>
      refine .inr ⟨fun hs => ?_, _, tree, "", rfl, .inl rfl, ?_⟩
      · rw [hs.unmeasured] at hfind
        exact absurd hfind (by simp)
      · rw [String.append_empty]
        exact hsame
  | none =>
      dsimp only
      rw [hbase]
      by_cases hempty : base = ""
      · subst hempty
        rw [decide_eq_true rfl]
        dsimp only
        rcases write_columns_cases layout hbase with
          ⟨later, hw, hsets⟩ | ⟨hs, fault, writer, later, debris, hw, hscrap, hsets⟩
        · rw [hw]
          exact .inl ⟨later, rfl, hsets⟩
        · rw [hw]
          refine .inr ⟨hs, fault, _, debris, rfl, .inr ⟨rfl, hscrap⟩, ?_⟩
          rw [String.empty_append]
          exact hsets
      · rw [decide_eq_false fun h => hempty (Option.some.inj h)]
        refine .inl ⟨tree, rfl, ?_⟩
        rw [if_neg hempty]
        exact hsame

/-- **What opening a file comes to.** It does not come to that; or the file of the bucket has a
writer; or it was opened and has none, with a scrap of the columns if there was nothing in it. -/
theorem openFile_cases (a : Archive) (start : Int64) (kind : RowKind) :
    (∃ fault tree, a.openFile start kind = (.error fault, { a with tree := tree })
        ∧ a.tree.SameFiles tree)
      ∨ ∃ place later base, a.layout.place? start kind = some place
        ∧ base = (a.tree.content? place).getD ""
        ∧ (a.openFile start kind = (.ok { place := place }, { a with
              tree := later
              opened := ((start, kind), { place := place }) :: a.opened })
            ∧ a.tree.Sets place (some (if base = "" then rowText a.layout columns else base)) later
          ∨ ¬ a.tree.trouble.Serves ∧ ∃ fault debris,
            a.openFile start kind = (.error fault, { a with tree := later })
            ∧ (debris = "" ∨ base = "" ∧ Scrap a.layout a.tree.trouble place debris)
            ∧ a.tree.Sets place (some (base ++ debris)) later) := by
  unfold openFile Layout.place?
  cases a.layout.filePath? start kind with
  | none => exact .inl ⟨_, a.tree, rfl, .refl _⟩
  | some path =>
      have hsame := Tree.sameFiles_makeDirectories a.tree (directorySteps path)
        ((directorySteps path).length + 1)
      dsimp only
      cases hm : a.tree.makeDirectories (directorySteps path)
          ((directorySteps path).length + 1) with
      | mk result made =>
          rw [hm] at hsame
          cases result with
          | error fault => exact .inl ⟨_, made, rfl, hsame⟩
          | ok u =>
              dsimp only
              cases ho : made.openFile (directorySteps path
                  ++ [((steps path).getLast?).getD ""]) with
              | error fault => exact .inl ⟨_, made, rfl, hsame⟩
              | ok opened =>
                  obtain ⟨place, tree⟩ := opened
                  have hopened := hsame.sets (Tree.sets_of_openFile ho)
                  rw [hsame.content] at hopened
                  have hplace : some place = some (Tree.resolve [] (directorySteps path)
                      ++ [((steps path).getLast?).getD ""]) := by
                    rw [(Tree.openFile_eq_ok ho).1]
                  dsimp only
                  rcases begin_cases a.layout hopened.here with
                    ⟨later, hb, hsets⟩ | ⟨hs, fault, later, debris, hb, hdebris, hsets⟩
                  · rw [hb]
                    exact .inr ⟨place, later, _, hplace.symm, rfl,
                      .inl ⟨rfl, hopened.trans hsets⟩⟩
                  · rw [hb]
                    exact .inr ⟨place, later, _, hplace.symm, rfl,
                      .inr ⟨fun hserves => hs (hopened.eases.serves hserves), fault, debris, rfl,
                        hdebris.imp_right fun h => ⟨h.1, h.2.of_eases hopened.eases⟩,
                        hopened.trans hsets⟩⟩

theorem file_error (h : a.file start kind = (.error fault, a')) :
    a.opened.find? (·.1 = (start, kind)) = none ∧ a.openFile start kind = (.error fault, a') := by
  unfold file at h
  split at h
  · exact absurd (Prod.mk.inj h).1 (by simp)
  · rename_i hnone
    exact ⟨hnone, h⟩

/-- A file that is opened is that of the bucket. -/
theorem mem_opened_file {e : Bucket × Writer} (he : e ∈ (a.file start kind).2.opened) :
    e ∈ a.opened ∨ e.1 = (start, kind) := by
  unfold file at he
  split at he
  · exact .inl he
  · rcases a.openFile_cases start kind with ⟨fault, tree, ho, -⟩ |
      ⟨place, later, base, -, -, ⟨ho, -⟩ | ⟨-, fault, debris, ho, -⟩⟩
    · rw [ho] at he
      exact .inl he
    · rw [ho] at he
      rcases List.mem_cons.mp he with rfl | he
      · exact .inr rfl
      · exact .inl he
    · rw [ho] at he
      exact .inl he

/-! ## The account and files that are opened -/

section

variable {watched : Place → Prop} {log : List Filing} {bids : List Bid} {base debris : String}

/-- A file has the columns in it, unless it is empty or missing and nothing was filed there. -/
theorem Holds.cases {content : Option String} (h : Holds place bids content) :
    (content.getD "" = "" ∧ bids = []) ∨ content = some (textOf place bids) := by
  cases content with
  | none => exact .inl ⟨rfl, h⟩
  | some text =>
      rcases h with rfl | ⟨rfl, hnil⟩
      · exact .inr rfl
      · exact .inl ⟨rfl, hnil⟩

theorem Holds.nil_of_getD_eq_empty {content : Option String} (h : Holds place bids content)
    (he : content.getD "" = "") : bids = [] := by
  rcases h.cases with ⟨-, hnil⟩ | rfl
  · exact hnil
  · exact absurd he (textOf_ne_empty place bids)

/-- A file may be made where there is none. -/
theorem Holds.some_getD {content : Option String} (h : Holds place bids content) :
    Holds place bids (some (content.getD "")) := by
  rcases h.cases with ⟨he, hnil⟩ | rfl
  · exact .inr ⟨he, hnil⟩
  · exact .inl rfl

/-- A writer of the file of a bucket, at the end of what was filed there. -/
structure Ready (watched : Place → Prop) (log : List Filing) (a : Archive) (bucket : Bucket)
    (writer : Writer) : Prop where
  place : a.layout.place? bucket.1 bucket.2 = some writer.place
  held : writer.held = ""
  content : watched writer.place →
    a.tree.content? writer.place = some (textOf writer.place (bidsAt writer.place log))

/-- **One file changes** and holds what is filed there then. If it is open, it has its columns. -/
theorem Accounts.changed {log' : List Filing} {later : Tree} {opened : List (Bucket × Writer)}
    {text : Option String} (h : Accounts watched log a) (hsets : a.tree.Sets place text later)
    (hlog : ∀ q, q ≠ place → bidsAt q log' = bidsAt q log)
    (hholds : watched place → Holds place (bidsAt place log') text)
    (hopened : ∀ e ∈ opened,
      e ∈ a.opened ∨ a.layout.place? e.1.1 e.1.2 = some place ∧ e.2.place = place)
    (htext : watched place → ∀ e ∈ opened, e.2.place = place →
      text = some (textOf place (bidsAt place log')))
    (hplaced : ∀ f ∈ log', ∃ place, f.place? = some place) :
    Accounts watched log' { layout := a.layout, tree := later, opened := opened } where
  content q hq := by
    show Holds q _ (later.content? q)
    by_cases hplace : q = place
    · rw [hplace, hsets.here]
      exact hholds (hplace ▸ hq)
    · rw [hsets.others q hplace, hlog q hplace]
      exact h.content q hq
  opened e he := by
    show _ ∧ (_ → later.content? _ = _)
    by_cases hplace : e.2.place = place
    · rw [hplace]
      refine ⟨?_, fun hwatched => hsets.here.trans (htext hwatched e he hplace)⟩
      rcases hopened e he with hold | ⟨hnew, -⟩
      · exact hplace ▸ (h.opened e hold).1
      · exact hnew
    · rw [hsets.others _ hplace, hlog _ hplace]
      exact h.opened e ((hopened e he).resolve_right fun hnew => hplace hnew.2)
  placed := hplaced

/-- One more filing goes into a file. -/
theorem Accounts.placed_concat {f : Filing} (h : Accounts watched log a)
    (hf : f.place? = some place) : ∀ g ∈ log ++ [f], ∃ place, g.place? = some place := by
  intro g hg
  rcases List.mem_append.mp hg with hg | hg
  · exact h.placed g hg
  · rw [List.mem_singleton.mp hg]
    exact ⟨place, hf⟩

/-- **The file of a bucket is at hand** with all that was filed there, and the columns in any
case. -/
theorem Accounts.file_ok {writer : Writer} (h : Accounts watched log a) (hi : a.Idle)
    (hf : a.file start kind = (.ok writer, a')) :
    Accounts watched log a' ∧ a'.Idle ∧ a'.layout = a.layout ∧ a.tree.Eases a'.tree
      ∧ Ready watched log a' (start, kind) writer
      ∧ ∀ q, q ≠ writer.place → a'.tree.content? q = a.tree.content? q := by
  unfold file at hf
  split at hf
  · rename_i found hfind
    obtain ⟨hw, rfl⟩ := Prod.mk.inj hf
    obtain rfl := Except.ok.inj hw
    have hmem := List.mem_of_find?_eq_some hfind
    obtain ⟨hplace, hcontent⟩ := h.opened _ hmem
    have hkey := List.find?_some hfind
    rw [decide_eq_true_iff] at hkey
    dsimp only at hkey hplace hcontent
    rw [hkey] at hplace
    exact ⟨h, hi, rfl, .refl _, ⟨hplace, hi _ hmem, hcontent⟩, fun _ _ => rfl⟩
  · rcases a.openFile_cases start kind with ⟨_, tree, ho, _⟩ |
      ⟨place, later, base, hplace, hbase, ⟨ho, hsets⟩ | ⟨-, fault, _, ho, -⟩⟩
    · rw [ho] at hf
      exact absurd (Prod.mk.inj hf).1 (by simp)
    · rw [ho] at hf
      obtain ⟨hw, rfl⟩ := Prod.mk.inj hf
      obtain rfl := Except.ok.inj hw
      -- an empty file has just got its columns, one with content has had them
      have htext : watched place → (if base = "" then rowText a.layout columns else base)
          = textOf place (bidsAt place log) := by
        intro hwatched
        rw [hbase]
        rcases (h.content place hwatched).cases with ⟨he, hnil⟩ | hsome
        · rw [if_pos he, hnil, textOf_nil hplace]
        · rw [hsome, Option.getD_some, if_neg (textOf_ne_empty _ _)]
      refine ⟨h.changed hsets (fun _ _ => rfl) (fun hwatched => .inl (htext hwatched))
        (fun e he => ?_) (fun hwatched _ _ _ => congrArg some (htext hwatched)) h.placed,
        fun e he => ?_, rfl, hsets.eases,
        ⟨hplace, rfl, fun hwatched => hsets.here.trans (congrArg some (htext hwatched))⟩,
        hsets.others⟩
      · rcases List.mem_cons.mp he with rfl | he
        · exact .inr ⟨hplace, rfl⟩
        · exact .inl he
      · rcases List.mem_cons.mp he with rfl | he
        · rfl
        · exact hi e he
    · rw [ho] at hf
      exact absurd (Prod.mk.inj hf).1 (by simp)

/-- The names of the columns are one line. -/
theorem row_columns (layout : Layout) : ∃ line,
    Delimited.row layout.delimiter columns = line ++ ['\n']
      ∧ ∀ c ∈ line, ¬ (c = '\n' ∨ c = '\r') := by
  have hline : ∀ line : List Char, line.all (fun c => !(c == '\n' || c == '\r')) = true →
      ∀ c ∈ line, ¬ (c = '\n' ∨ c = '\r') := by
    intro line h c hc
    simpa using List.all_eq_true.mp h c hc
  unfold Layout.delimiter
  cases layout.tabs with
  | true =>
      exact ⟨(Delimited.row '\t' columns).dropLast, by decide +kernel,
        hline _ (by decide +kernel)⟩
  | false =>
      exact ⟨(Delimited.row ',' columns).dropLast, by decide +kernel,
        hline _ (by decide +kernel)⟩

/-- A scrap of the columns is one row, or none. -/
theorem Scrap.short {layout : Layout} {trouble : Tree.Trouble}
    (h : Scrap layout trouble place debris) (delimiter : Char) :
    (Delimited.read delimiter debris.toList).length ≤ 1 := by
  obtain ⟨count, back, hcount, hback, rfl, -⟩ := h
  obtain ⟨line, hrow, hline⟩ := row_columns layout
  have htext : (rowText layout columns).toList = line ++ ['\n'] := by
    unfold rowText
    rw [String.toList_ofList, hrow]
  rw [htext, List.length_append, List.length_singleton] at hcount
  rw [htext] at hback
  rw [htext, String.toList_ofList, List.take_append_of_le_length (Nat.le_of_lt_succ hcount)]
  -- only the second attempt can have come to the end of the line
  obtain ⟨front, ending, rfl, hfront, hending⟩ := List.sublist_append_iff.mp hback
  have hrest : ending = [] ∨ ending = ['\n'] := by
    rcases List.sublist_cons_iff.mp hending with hnil | ⟨rest, rfl, hnil⟩
    · exact .inl (List.sublist_nil.mp hnil)
    · exact .inr (by rw [List.sublist_nil.mp hnil])
  rw [← List.append_assoc]
  refine Delimited.length_readFrom_line (fun c hc => ?_) hrest
  rcases List.mem_append.mp hc with hc | hc
  · exact hline c (List.mem_of_mem_take hc)
  · exact hline c (hfront.subset hc)

/-- A scrap of the columns is all of them, or nothing, where no text is cut. -/
theorem Scrap.of_spares {layout : Layout} {trouble : Tree.Trouble}
    (h : Scrap layout trouble place debris) (hs : trouble.Spares place) :
    debris = "" ∨ debris = rowText layout columns := by
  obtain ⟨count, back, -, -, rfl, hwhole⟩ := h
  obtain ⟨rfl, rfl | rfl⟩ := hwhole hs
  · exact .inl rfl
  · refine .inr ?_
    rw [List.take_zero, List.nil_append, String.ofList_toList]

theorem Spared.of_eases (h : Spared watched a) (he : a.tree.Eases a'.tree) : Spared watched a' :=
  fun q hq => he.spares (h q hq)

theorem Accounts.of_sameFiles (h : Accounts watched log a) (ht : a.tree.SameFiles a'.tree)
    (hl : a'.layout = a.layout) (ho : a'.opened = a.opened) : Accounts watched log a' where
  content place := by
    rw [ht.content]
    exact h.content place
  opened := by
    rw [hl, ho]
    intro e he
    rw [ht.content]
    exact h.opened e he
  placed := h.placed

/-- No file has to be frayed. -/
theorem Accounts.frayed (h : Accounts watched log a) (more : List Filing) (place : Place) :
    Frayed watched log more a place (a.tree.content? place) "" where
  content := by
    cases a.tree.content? place with
    | none => rfl
    | some text => rw [Option.map_some, String.append_empty]
  holds := h.content place
  debris _ := .none _
  others q hq _ := h.content q hq

/-- **A file that is not at hand** leaves all files as they were, but for a scrap of the columns in
one that nothing was filed in. -/
theorem Accounts.file_error (h : Accounts watched log a) (more : List Filing)
    (hf : a.file start kind = (.error fault, a')) :
    a'.layout = a.layout ∧ a'.opened = a.opened ∧ a.tree.Eases a'.tree
      ∧ (a.tree.trouble.Serves → a.tree.SameFiles a'.tree)
      ∧ (∃ place base debris, Frayed watched log more a' place base debris)
      ∧ (Spared watched a → Accounts watched log a') := by
  obtain ⟨-, hopen⟩ := Archive.file_error hf
  rcases a.openFile_cases start kind with ⟨_, tree, ho, hsame⟩ |
    ⟨place, later, base, hplace, hbase, ⟨ho, -⟩ | ⟨hs, fault, debris, ho, hdebris, hsets⟩⟩
  · rw [ho] at hopen
    obtain ⟨-, rfl⟩ := Prod.mk.inj hopen
    have hacc : Accounts watched log { a with tree := tree } := h.of_sameFiles hsame rfl rfl
    exact ⟨rfl, rfl, hsame.eases, fun _ => hsame, ⟨_, _, _, hacc.frayed more []⟩, fun _ => hacc⟩
  · rw [ho] at hopen
    exact absurd (Prod.mk.inj hopen).1 (by simp)
  · rw [ho] at hopen
    obtain ⟨-, rfl⟩ := Prod.mk.inj hopen
    have hheld : watched place → Holds place (bidsAt place log) (some base) :=
      fun hwatched => hbase ▸ (h.content place hwatched).some_getD
    refine ⟨rfl, rfl, hsets.eases, fun hserves => absurd hserves hs,
      ⟨place, some base, debris, hsets.here, hheld, fun _ => ?_, fun q hq hplace => ?_⟩,
      fun hspared => h.changed hsets (fun _ _ => rfl) (fun hwatched => ?_) (fun _ he => .inl he)
        (fun hwatched e he hplace => ?_) h.placed⟩
    · rcases hdebris with rfl | ⟨rfl, hscrap⟩
      · exact .none _
      · exact .scrap (hscrap.short _)
    · show Holds q _ (later.content? q)
      rw [hsets.others q hplace]
      exact h.content q hq
    · rcases hdebris with rfl | ⟨rfl, hscrap⟩
      · rw [String.append_empty]
        exact hheld hwatched
      · have hnil := (h.content place hwatched).nil_of_getD_eq_empty hbase.symm
        rw [String.empty_append, hnil]
        rcases hscrap.of_spares (hspared place hwatched) with rfl | rfl
        · exact .inr ⟨rfl, rfl⟩
        · exact .inl (textOf_nil hplace).symm
    · -- a file that is open has its columns, so that there is no scrap of them
      have hc := (h.opened e he).2 (hplace ▸ hwatched)
      rw [hplace] at hc
      rw [hc, Option.getD_some] at hbase
      rcases hdebris with rfl | ⟨hnil, -⟩
      · rw [hbase, String.append_empty]
      · exact absurd (hbase.symm.trans hnil) (textOf_ne_empty _ _)

/-! ## Writing rows -/

variable {f : Filing}

theorem mem_opened_worked {bucket : Bucket} {writer : Writer} {e : Bucket × Writer}
    (h : e ∈ (bucket, writer) :: a.opened.filter (·.1 ≠ bucket)) :
    e = (bucket, writer) ∨ e ∈ a.opened :=
  (List.mem_cons.mp h).imp_right fun h => (List.mem_filter.mp h).1

/-- **What a write comes to.** The file is not at hand, or the row is added to it, or the file does
not take all of it. -/
theorem write_cases (a : Archive) (row : Row) :
    (∃ fault a', a.file (bucketOf a.layout row).1 row.kind = (.error fault, a')
        ∧ a.write row = (.failed fault, a'))
      ∨ ∃ writer a₁ later, a.file (bucketOf a.layout row).1 row.kind = (.ok writer, a₁)
        ∧ (a₁.tree.append writer.place (writer.held ++ rowText a₁.layout row.bid.record)
              = (.ok (), later)
            ∧ a.write row
              = (.written, a₁.worked (bucketOf a.layout row) { writer with held := "" } later)
          ∨ ∃ cut, a₁.tree.append writer.place (writer.held ++ rowText a₁.layout row.bid.record)
              = (.error cut, later)
            ∧ a.write row = (.failed (.fileFailed cut.cause), a₁.worked (bucketOf a.layout row)
                { writer with held := cut.handed (writer.held
                  ++ rowText a₁.layout row.bid.record) } later)) := by
  unfold write bucketOf Writer.write Writer.flush
  dsimp only
  cases a.file (a.layout.bucketStart row.bid.receivedAtMs) row.kind with
  | mk result a₁ =>
      cases result with
      | error fault => exact .inl ⟨fault, a₁, rfl, rfl⟩
      | ok writer =>
          dsimp only
          cases happend : a₁.tree.append writer.place
              (writer.held ++ rowText a₁.layout row.bid.record) with
          | mk result later =>
              cases result with
              | ok u => exact .inr ⟨writer, a₁, later, rfl, .inl ⟨happend, rfl⟩⟩
              | error cut => exact .inr ⟨writer, a₁, later, rfl, .inr ⟨cut, happend, rfl⟩⟩

/-- The archive does not crash. -/
theorem write_ne_crashed (a : Archive) (row : Row) : (a.write row).1 ≠ .crashed := by
  rcases a.write_cases row with ⟨_, _, -, hw⟩ | ⟨_, _, _, -, ⟨-, hw⟩ | ⟨_, -, hw⟩⟩
  all_goals rw [hw]; simp

/-- A write opens the file of its bucket, and no other. -/
theorem mem_opened_write {e : Bucket × Writer} (he : e ∈ (a.write row).2.opened) :
    e ∈ a.opened ∨ e.1 = bucketOf a.layout row := by
  have hfile : e ∈ (a.file (bucketOf a.layout row).1 row.kind).2.opened →
      e ∈ a.opened ∨ e.1 = bucketOf a.layout row := mem_opened_file
  rcases a.write_cases row with ⟨_, a', hf, hw⟩ | ⟨_, a₁, _, hf, ⟨-, hw⟩ | ⟨_, -, hw⟩⟩
  · rw [hw] at he
    rw [hf] at hfile
    exact hfile he
  all_goals
    rw [hw] at he
    rw [hf] at hfile
    rcases mem_opened_worked he with rfl | he
    · exact .inr rfl
    · exact hfile he

/-- **A row that comes through** is filed. -/
theorem Accounts.added {writer : Writer} {later : Tree} (h : Accounts watched log a)
    (hr : Ready watched log a (bucketOf a.layout row) writer)
    (happend : a.tree.append writer.place (rowText a.layout row.bid.record) = (.ok (), later)) :
    Accounts watched (log ++ [⟨a.layout, row⟩])
      (a.worked (bucketOf a.layout row) { writer with held := "" } later) := by
  have hfiled : (⟨a.layout, row⟩ : Filing).place? = some writer.place := hr.place
  have htext : watched writer.place →
      (a.tree.content? writer.place).map (· ++ rowText a.layout row.bid.record)
        = some (textOf writer.place (bidsAt writer.place (log ++ [⟨a.layout, row⟩]))) := by
    intro hwatched
    rw [hr.content hwatched, bidsAt_concat hfiled, if_pos rfl, textOf_append hr.place]
    rfl
  refine h.changed (Tree.sets_of_append_ok happend) (fun q hq => ?_)
    (fun hwatched => htext hwatched ▸ .inl rfl) (fun e he => ?_)
    (fun hwatched _ _ _ => htext hwatched) (h.placed_concat hfiled)
  · rw [bidsAt_concat hfiled, if_neg hq]
  · rcases mem_opened_worked he with rfl | he
    · exact .inr ⟨hr.place, rfl⟩
    · exact .inl he

/-- **A row that is cut** frays its file. If nothing of it came through, all files are as they were
and the row is still owed. -/
theorem Accounts.cut {writer : Writer} {later : Tree} {cut : Tree.Cut} (h : Accounts watched log a)
    (hi : a.Idle) (hr : Ready watched log a (bucketOf a.layout row) writer)
    (happend : a.tree.append writer.place (rowText a.layout row.bid.record)
      = (.error cut, later)) :
    (∃ base debris, Frayed watched log [⟨a.layout, row⟩] (a.worked (bucketOf a.layout row)
        { writer with held := cut.handed (rowText a.layout row.bid.record) } later)
          writer.place base debris)
      ∧ (Spared watched a →
        Accounts watched log (a.worked (bucketOf a.layout row)
          { writer with held := cut.handed (rowText a.layout row.bid.record) } later)
        ∧ Owes watched ⟨a.layout, row⟩ (a.worked (bucketOf a.layout row)
          { writer with held := cut.handed (rowText a.layout row.bid.record) } later)) := by
  obtain ⟨count, hok, hwhole, hsets⟩ :=
    a.tree.sets_append writer.place (rowText a.layout row.bid.record)
  rw [happend] at hok hsets
  have hsame : watched writer.place → a.tree.trouble.Spares writer.place →
      (a.tree.content? writer.place).map
          (· ++ String.ofList ((rowText a.layout row.bid.record).toList.take count))
        = some (textOf writer.place (bidsAt writer.place log)) := by
    -- nothing of the row came through
    intro hwatched hspared
    have hnone := (hwhole hspared).resolve_right fun hle => absurd (hok.mpr hle) (by simp)
    rw [hr.content hwatched, hnone, Option.map_some, List.take_zero, String.ofList_nil,
      String.append_empty]
  refine ⟨⟨_, _, hsets.here, fun hwatched => ?_, fun hwatched => ?_, fun q hq hplace => ?_⟩,
    fun hspared => ⟨?_, ?_⟩⟩
  · rw [hr.content hwatched]
    exact .inl rfl
  · rw [hr.content hwatched, rowText, String.toList_ofList, ← delimiterAt_place hr.place]
    exact .row count rfl hr.place (textOf_ne_empty _ _)
  · show Holds q _ (later.content? q)
    rw [hsets.others q hplace]
    exact h.content q hq
  · refine h.changed hsets (fun _ _ => rfl)
      (fun hwatched => hsame hwatched (hspared _ hwatched) ▸ .inl rfl) (fun e he => ?_)
      (fun hwatched _ _ _ => hsame hwatched (hspared _ hwatched)) h.placed
    rcases mem_opened_worked he with rfl | he
    · exact .inr ⟨hr.place, rfl⟩
    · exact .inl he
  · exact ⟨_, _, _, rfl, fun e he => hi e (List.mem_filter.mp he).1, fun hwatched =>
      (Tree.refuses_of_append_error (hspared _ hwatched) happend).handed_eq _, hr.place⟩

/-- **A write that succeeds** files its row, and touches no file that nothing is filed in. -/
theorem Accounts.write (h : Accounts watched log a) (hi : a.Idle)
    (hw : (a.write row).1 = .written) :
    Accounts watched (log ++ [⟨a.layout, row⟩]) (a.write row).2 ∧ (a.write row).2.Idle
      ∧ (a.write row).2.layout = a.layout ∧ a.tree.Eases (a.write row).2.tree
      ∧ ∀ q, bidsAt q (log ++ [⟨a.layout, row⟩]) = [] →
          (a.write row).2.tree.content? q = a.tree.content? q := by
  rcases a.write_cases row with ⟨_, _, -, he⟩ | ⟨writer, a₁, later, hf, ⟨happend, he⟩ | ⟨_, -, he⟩⟩
  · rw [he] at hw
    exact absurd hw (by simp)
  · obtain ⟨hacc, hidle, hlayout, heases, hready, hothers⟩ := h.file_ok hi hf
    rw [hready.held, String.empty_append] at happend
    have hsets := Tree.sets_of_append_ok happend
    rw [he]
    have hkey : bucketOf a.layout row = bucketOf a₁.layout row := by rw [hlayout]
    have hready : Ready watched log a₁ (bucketOf a₁.layout row) writer := hkey ▸ hready
    rw [hkey, ← hlayout]
    refine ⟨hacc.added hready happend, fun e he => ?_, rfl, heases.trans hsets.eases,
      fun q hq => ?_⟩
    · rcases mem_opened_worked he with rfl | he
      · rfl
      · exact hidle e he
    · have hne : q ≠ writer.place := by
        rintro rfl
        have hfiled : (⟨a₁.layout, row⟩ : Filing).place? = some writer.place := hready.place
        rw [bidsAt_concat hfiled, if_pos rfl] at hq
        exact absurd hq (by simp)
      show later.content? q = _
      rw [hsets.others q hne, hothers q hne]
  · rw [he] at hw
    exact absurd hw (by simp)

/-- **A write that fails** leaves at most one file frayed. Where no text is cut the account is as it
was, and the row may still be owed. -/
theorem Accounts.write_failed (h : Accounts watched log a) (hi : a.Idle)
    (hw : (a.write row).1 ≠ .written) :
    (a.write row).2.layout = a.layout ∧ a.tree.Eases (a.write row).2.tree
      ∧ (∃ place base debris,
        Frayed watched log [⟨a.layout, row⟩] (a.write row).2 place base debris)
      ∧ (Spared watched a → Accounts watched log (a.write row).2
        ∧ ((a.write row).2.Idle ∨ Owes watched ⟨a.layout, row⟩ (a.write row).2)) := by
  rcases a.write_cases row with
    ⟨_, a', hf, he⟩ | ⟨writer, a₁, later, hf, ⟨-, he⟩ | ⟨cut, happend, he⟩⟩
  · obtain ⟨hlayout, hopened, heases, -, hfrayed, hwhole⟩ := h.file_error [⟨a.layout, row⟩] hf
    rw [he]
    refine ⟨hlayout, heases, hfrayed, fun hspared => ⟨hwhole hspared, .inl ?_⟩⟩
    unfold Idle
    rw [hopened]
    exact hi
  · rw [he] at hw
    exact absurd rfl hw
  · obtain ⟨hacc, hidle, hlayout, heases, hready, -⟩ := h.file_ok hi hf
    rw [hready.held, String.empty_append] at happend
    obtain ⟨_, -, -, hsets⟩ := a₁.tree.sets_append writer.place (rowText a₁.layout row.bid.record)
    rw [happend] at hsets
    rw [he, hready.held, String.empty_append]
    have hkey : bucketOf a.layout row = bucketOf a₁.layout row := by rw [hlayout]
    have hready : Ready watched log a₁ (bucketOf a₁.layout row) writer := hkey ▸ hready
    rw [hkey, ← hlayout]
    obtain ⟨⟨base, debris, hfrayed⟩, hwhole⟩ := hacc.cut hidle hready happend
    refine ⟨rfl, heases.trans hsets.eases, ⟨_, base, debris, hfrayed⟩, fun hspared => ?_⟩
    obtain ⟨hacc', howes⟩ := hwhole (hspared.of_eases heases)
    exact ⟨hacc', .inr howes⟩

/-- Where files that are open do what they are asked for, a write that fails changes no file and
opens none. -/
theorem Accounts.write_refused (h : Accounts watched log a) (hi : a.Idle)
    (hs : a.tree.trouble.Serves) (hw : (a.write row).1 ≠ .written) :
    a.tree.SameFiles (a.write row).2.tree ∧ (a.write row).2.layout = a.layout
      ∧ (a.write row).2.opened = a.opened
      ∧ a.opened.find? (·.1 = bucketOf a.layout row) = none := by
  rcases a.write_cases row with
    ⟨_, a', hf, he⟩ | ⟨writer, a₁, later, hf, ⟨-, he⟩ | ⟨cut, happend, -⟩⟩
  · obtain ⟨hlayout, hopened, -, hsame, -⟩ := h.file_error [] hf
    rw [he]
    exact ⟨hsame hs, hlayout, hopened, (Archive.file_error hf).1⟩
  · rw [he] at hw
    exact absurd rfl hw
  · obtain ⟨-, -, -, heases, -⟩ := h.file_ok hi hf
    obtain ⟨_, hserved⟩ := (heases.serves hs).append writer.place
      (writer.held ++ rowText a₁.layout row.bid.record)
    rw [happend] at hserved
    exact absurd (Prod.mk.inj hserved).1 (by simp)

/-! ## Leaving an archive -/

/-- **An archive that is left** has filed the row that it owed, or it has not. -/
theorem Accounts.close {f : Filing} (h : Accounts watched log a) (ho : Owes watched f a)
    (hspared : Spared watched a) :
    ∃ more, (more = [] ∨ more = [f]) ∧ a.tree.Eases a.close
      ∧ Accounts watched (log ++ more) { layout := a.layout, tree := a.close } := by
  obtain ⟨bucket, writer, rest, hopened, hrest, hheld, hplace⟩ := ho
  have hclose : a.close = writer.close a.tree := by
    unfold Archive.close
    rw [hopened, List.foldl_cons, foldl_close_of_idle hrest]
  obtain ⟨-, hc⟩ := h.opened (bucket, writer) (by rw [hopened]; exact List.mem_cons_self)
  obtain ⟨count, hwhole, hsets⟩ := sets_close writer a.tree
  rw [← hclose] at hsets
  by_cases hfull : watched writer.place ∧ writer.held.toList.length ≤ count
  · obtain ⟨hwatched, hle⟩ := hfull
    have htext : (a.tree.content? writer.place).map
          (· ++ String.ofList (writer.held.toList.take count))
        = some (textOf writer.place (bidsAt writer.place (log ++ [f]))) := by
      rw [hc hwatched, bidsAt_concat hplace, if_pos rfl, List.take_of_length_le hle,
        String.ofList_toList, hheld hwatched, textOf_append hplace]
      rfl
    refine ⟨[f], .inr rfl, hsets.eases, h.changed hsets (fun q hq => ?_)
      (fun _ => htext ▸ .inl rfl) (fun e he => absurd he List.not_mem_nil)
      (fun _ e he => absurd he List.not_mem_nil) (h.placed_concat hplace)⟩
    rw [bidsAt_concat hplace, if_neg hq]
  · -- nothing has come through, or into a file that is not watched
    refine ⟨[], .inl rfl, hsets.eases, ?_⟩
    rw [List.append_nil]
    refine h.changed hsets (fun _ _ => rfl) (fun hwatched => ?_)
      (fun e he => absurd he List.not_mem_nil) (fun _ e he => absurd he List.not_mem_nil) h.placed
    have hnone := (hwhole (hspared _ hwatched)).resolve_right fun hle => hfull ⟨hwatched, hle⟩
    rw [hnone, hc hwatched, Option.map_some, List.take_zero, String.ofList_nil,
      String.append_empty]
    exact .inl rfl

end

end BidArchive.Archive
