import BidArchive.Proofs.Archive.Contents
import BidArchive.Proofs.Bid.Identity

/-!
# Any operations in any order

An archive is written to, flushed and opened anew in other layouts, and places are denied
to it and given back meanwhile. The account of its files is kept by every one of these
operations, and so by all of them in a row (`Accounts.after`).
-/

namespace BidArchive.Archive

variable {a : Archive} {layout : Layout} {log : List Filing} {bucket : Int64 × RowKind}

/-- What may happen to an archive. -/
inductive Operation
  | write (row : Row)
  | flush
  /-- The archive is left and another one opened over its files, if the layout allows it. -/
  | reopen (layout : Layout)
  /-- From here on these places are denied, and no others. -/
  | deny (places : List Place)
deriving DecidableEq, Repr

/-- Another archive over the same files, if the layout allows it. -/
def reopened (a : Archive) (layout : Layout) : Archive :=
  match open? layout a.close with
  | .ok a => a
  | .error _ => a

/-- The archive after an operation. -/
def perform (a : Archive) : Operation → Archive
  | .write row => (a.write row).2
  | .flush => (sink.flush a).2
  | .reopen layout => a.reopened layout
  | .deny places => { a with tree := { a.tree with trouble := { denied := places } } }

/-- What a write files. -/
def written (a : Archive) (row : Row) : List Filing :=
  match (a.write row).1 with
  | .written => [⟨a.layout, row⟩]
  | _ => []

/-- What an operation files. -/
def filed (a : Archive) : Operation → List Filing
  | .write row => a.written row
  | _ => []

/-- The archive after operations. -/
def after (a : Archive) (ops : List Operation) : Archive := ops.foldl perform a

/-- The rows that operations filed, in order. -/
def filings (a : Archive) : List Operation → List Filing
  | [] => []
  | op :: rest => a.filed op ++ (a.perform op).filings rest

/-! ## One operation -/

theorem written_eq_singleton {row : Row} (h : (a.write row).1 = .written) :
    a.written row = [⟨a.layout, row⟩] := by
  unfold written
  rw [h]

theorem written_eq_nil {row : Row} (h : (a.write row).1 ≠ .written) : a.written row = [] := by
  unfold written
  split
  · rename_i hw
    exact absurd hw h
  · rfl

theorem reopened_eq (a : Archive) (h : 0 < layout.bucketSeconds.toInt) :
    a.reopened layout = { layout := layout, tree := a.close } := by
  unfold reopened open?
  rw [if_pos h]

theorem reopened_cases (a : Archive) (layout : Layout) :
    a.reopened layout = a ∨ a.reopened layout = { layout := layout, tree := a.close } := by
  by_cases h : 0 < layout.bucketSeconds.toInt
  · exact Or.inr (a.reopened_eq h)
  · unfold reopened open?
    rw [if_neg h]
    exact Or.inl rfl

/-- All files are watched. -/
def Everywhere : Place → Prop := fun _ => True

/-- The account of files that do what they are asked for once they are open: nothing is owed, and
there is no file without rows. -/
structure Settled (log : List Filing) (a : Archive) : Prop where
  accounts : Accounts Everywhere log a
  idle : a.Idle
  serves : a.tree.trouble.Serves
  bare : ∀ place, bidsAt place log = [] → a.tree.content? place = none

theorem Settled.content_eq (h : Settled log a) (place : Place) :
    a.tree.content? place = contentOf place (bidsAt place log) := by
  unfold contentOf
  by_cases hnil : bidsAt place log = []
  · rw [if_pos hnil]
    exact h.bare place hnil
  · rw [if_neg hnil]
    exact (h.accounts.content place trivial).cases.resolve_left fun hc => hnil hc.2

theorem Settled.perform (h : Settled log a) (op : Operation) :
    Settled (log ++ a.filed op) (a.perform op) := by
  cases op with
  | write row =>
      show Settled (log ++ a.written row) (a.write row).2
      by_cases hw : (a.write row).1 = .written
      · obtain ⟨hacc, hidle, -, heases, hbare⟩ := h.accounts.write h.idle hw
        rw [written_eq_singleton hw]
        refine ⟨hacc, hidle, heases.serves h.serves, fun place hnil => ?_⟩
        rw [hbare place hnil]
        exact h.bare place (Classical.byContradiction fun hne => bidsAt_ne_nil hne _ hnil)
      · obtain ⟨hsame, hl, ho, _⟩ := h.accounts.write_refused h.idle h.serves hw
        rw [written_eq_nil hw, List.append_nil]
        refine ⟨h.accounts.of_sameFiles hsame hl ho, ?_, hsame.eases.serves h.serves,
          fun place hnil => ?_⟩
        · unfold Idle
          rw [ho]
          exact h.idle
        · rw [hsame.content]
          exact h.bare place hnil
  | flush =>
      show Settled (log ++ []) a.flush.2
      rw [List.append_nil, h.idle.flush_eq]
      exact h
  | reopen layout =>
      show Settled (log ++ []) (a.reopened layout)
      rw [List.append_nil]
      rcases a.reopened_cases layout with hr | hr
      · rw [hr]
        exact h
      · rw [hr, h.idle.close_eq]
        exact ⟨⟨h.accounts.content, fun e he => absurd he List.not_mem_nil, h.accounts.placed⟩,
          fun e he => absurd he List.not_mem_nil, h.serves, h.bare⟩
  | deny places =>
      show Settled (log ++ []) _
      rw [List.append_nil]
      exact ⟨⟨h.accounts.content, h.accounts.opened, h.accounts.placed⟩, h.idle, ⟨rfl, rfl⟩, h.bare⟩

/-- **The account is kept.** -/
theorem Settled.after (h : Settled log a) (ops : List Operation) :
    Settled (log ++ a.filings ops) (a.after ops) := by
  induction ops generalizing a log with
  | nil =>
      show Settled (log ++ []) a
      rw [List.append_nil]
      exact h
  | cons op rest ih =>
      show Settled (log ++ (a.filed op ++ (a.perform op).filings rest)) ((a.perform op).after rest)
      rw [← List.append_assoc]
      exact ih (h.perform op)

theorem content?_empty (place : Place) : Tree.content? {} place = none := by
  unfold Tree.content? Tree.at?
  by_cases hp : place.all Tree.isUp
  · rw [if_pos hp]
  · rw [if_neg hp]
    rfl

theorem eq_of_open {tree : Tree} (h : open? layout tree = .ok a) :
    a = { layout := layout, tree := tree } := by
  unfold open? at h
  split at h
  · exact (Except.ok.inj h).symm
  · exact absurd h (by simp)

theorem accepted_of_open {tree : Tree} (h : open? layout tree = .ok a) :
    0 < layout.bucketSeconds.toInt := by
  unfold open? at h
  split at h
  · assumption
  · exact absurd h (by simp)

theorem settled_open (h : open? layout {} = .ok a) : Settled [] a := by
  obtain rfl := eq_of_open h
  refine ⟨⟨fun place _ => ?_, fun e he => absurd he List.not_mem_nil,
    fun f hf => absurd hf List.not_mem_nil⟩, fun e he => absurd he List.not_mem_nil, ⟨rfl, rfl⟩,
    fun place _ => content?_empty place⟩
  show Holds place _ (Tree.content? {} place)
  rw [content?_empty]
  rfl

/-! ## Buckets without an open file -/

/-- No file is open for the bucket. -/
def Closed (bucket : Int64 × RowKind) (a : Archive) : Prop := ∀ e ∈ a.opened, e.1 ≠ bucket

theorem closed_iff : Closed bucket a ↔ a.opened.find? (·.1 = bucket) = none := by
  rw [List.find?_eq_none]
  simp [Closed]

theorem Closed.file_eq (h : Closed bucket a) :
    a.file bucket.1 bucket.2 = a.openFile bucket.1 bucket.2 := by
  unfold file
  rw [closed_iff.mp h]

/-- A file is only opened for a row that is filed. -/
theorem Closed.perform (h : Closed bucket a) (hs : Settled log a) (op : Operation)
    (hf : ∀ f ∈ a.filed op, f.bucket ≠ bucket) : Closed bucket (a.perform op) := by
  cases op with
  | write row =>
      intro e he
      by_cases hw : (a.write row).1 = .written
      · rcases mem_opened_write he with he | he
        · exact h e he
        · rw [he]
          refine hf ⟨a.layout, row⟩ ?_
          show _ ∈ a.written row
          rw [written_eq_singleton hw]
          exact List.mem_cons_self
      · obtain ⟨-, -, hopened, -⟩ := hs.accounts.write_refused hs.idle hs.serves hw
        rw [Archive.perform, hopened] at he
        exact h e he
  | flush =>
      show Closed bucket a.flush.2
      rw [hs.idle.flush_eq]
      exact h
  | reopen layout =>
      show Closed bucket (a.reopened layout)
      rcases a.reopened_cases layout with hr | hr
      · rw [hr]
        exact h
      · rw [hr]
        exact fun e he => absurd he List.not_mem_nil
  | deny places => exact h

theorem Closed.after (h : Closed bucket a) (hs : Settled log a) (ops : List Operation)
    (hf : ∀ f ∈ a.filings ops, f.bucket ≠ bucket) : Closed bucket (a.after ops) := by
  induction ops generalizing a log with
  | nil => exact h
  | cons op rest ih =>
      exact ih (h.perform hs op fun f hm => hf f (List.mem_append_left _ hm)) (hs.perform op)
        fun f hm => hf f (List.mem_append_right _ hm)

/-! ## The files of an archive -/

/--
**The files hold the rows that were written, and nothing else.**

An archive that began over no files, after any operations: every file holds the names of the
columns and behind them a row for each bid that was written there, in order, and reads back as such;
a place where nothing was written holds no file. A write that does not succeed changes no file and
makes none, and until a row is written to its bucket every attempt opens the file anew.
-/
theorem files_of_operations (ho : open? layout {} = .ok a) (ops : List Operation) :
    (∀ f ∈ a.filings ops, ∃ place, f.place? = some place)
      ∧ (∀ place, (a.after ops).tree.content? place
          = if bidsAt place (a.filings ops) = [] then none
            else some (textOf place (bidsAt place (a.filings ops))))
      ∧ (∀ place text, (a.after ops).tree.content? place = some text →
          Delimited.read (delimiterAt place) text.toList
            = columns :: (bidsAt place (a.filings ops)).map Bid.record)
      ∧ ∀ row start kind, ((a.after ops).write row).1 ≠ .written →
          bucketOf (a.after ops).layout row = (start, kind) →
          (∀ place, ((a.after ops).write row).2.tree.content? place
            = (a.after ops).tree.content? place)
          ∧ ∀ more, (∀ f ∈ ((a.after ops).write row).2.filings more, f.bucket ≠ (start, kind)) →
              (((a.after ops).write row).2.after more).file start kind
                = (((a.after ops).write row).2.after more).openFile start kind := by
  have h : Settled (a.filings ops) (a.after ops) := (settled_open ho).after ops
  refine ⟨h.accounts.placed, h.content_eq, ?_, ?_⟩
  · intro place text ht
    rw [h.content_eq, contentOf] at ht
    split at ht
    · exact absurd ht (by simp)
    · obtain rfl := Option.some.inj ht
      exact read_textOf place _
  · intro row start kind hw hb
    obtain ⟨hsame, _, hopened, hfind⟩ := h.accounts.write_refused h.idle h.serves hw
    refine ⟨hsame.content, fun more hmore => ?_⟩
    rw [hb, ← closed_iff] at hfind
    have hclosed : Closed (start, kind) ((a.after ops).write row).2 := by
      unfold Closed
      rw [hopened]
      exact hfind
    exact (hclosed.after (h.perform (.write row)) more hmore).file_eq

/-- A bid whose texts hold what has a meaning in a file. -/
def quotedBid : Bid := { Bid.plain ⟨7⟩ 5 with blockHash := "0x,\n\"\"", parentHash := "\t" }

/-- A write that is denied, one that is not, and one to a shorter bucket of the same name. -/
def deniedThenWritten : List Operation :=
  [.deny [["1970-01-01"]], .write ⟨.all, quotedBid⟩, .deny [], .write ⟨.all, quotedBid⟩, .flush,
    .reopen { bucketSeconds := 30 }, .write ⟨.all, { quotedBid with receivedAtMs := 31000 }⟩]

/-- Both rows stand in one file below one row of columns. -/
theorem files_of_deniedThenWritten : open? {} {} = .ok { layout := {}, tree := {} }
    ∧ ∃ text, (after { layout := {}, tree := {} } deniedThenWritten).tree.content?
          ["1970-01-01", "1970-01-01_00-00_all.csv"] = some text
        ∧ Delimited.read ',' text.toList
          = [columns, quotedBid.record, { quotedBid with receivedAtMs := 31000 }.record] := by
  have ho : open? {} {} = .ok { layout := {}, tree := {} } := rfl
  obtain ⟨_, hcontent, hread, _⟩ := files_of_operations ho deniedThenWritten
  have hbids : bidsAt ["1970-01-01", "1970-01-01_00-00_all.csv"]
      (filings { layout := {}, tree := {} } deniedThenWritten)
        = [quotedBid, { quotedBid with receivedAtMs := 31000 }] := by decide +kernel
  have htext := hcontent ["1970-01-01", "1970-01-01_00-00_all.csv"]
  rw [hbids, if_neg (List.cons_ne_nil _ _)] at htext
  refine ⟨ho, _, htext, ?_⟩
  have h := hread _ _ htext
  rw [hbids] at h
  exact h

end BidArchive.Archive
