import BidArchive.Proofs.Archive.Pairs

/-!
# Calls, failures and new starts

A recorder stands over an archive and is asked for one thing after another. The file system
may get into trouble at any time, so that a write fails, from when on the recorder is
left alone; and the program may be started again at any time, with a recorder that knows
nothing over the files that are there. For as long as the recorder is asked at all, its
ledger digests a past and the files that are watched are paired (`Sound`). They are so
through failures and new starts as well, if no text for one of them is cut in two (`Whole`).

A failure that cuts a text leaves a torn row behind. Until the program is started again
it is the last one of its file, and the only row of a top file that may be missing from
the other one (`top_rows_of_calls`); after that the next row is glued to it
(`torn_rows_unpaired`). Other files have nothing to do with it.
-/

namespace BidArchive

open Archive (Balanced Owing Torn Spared IsFileOf dataRows readCut)

namespace Archive

variable {a : Archive} {layout : Layout} {watched : Place → Prop}

/-- The archive in other trouble. -/
def struck (a : Archive) (trouble : Tree.Trouble) : Archive :=
  { a with tree := { a.tree with trouble := trouble } }

/-! Trouble alone changes no file. -/

theorem Balanced.struck (h : Balanced watched layout a) (t : Tree.Trouble) :
    Balanced watched layout (a.struck t) := by
  obtain ⟨hl, hidle, log, hacc, hpair⟩ := h
  exact ⟨hl, hidle, log, ⟨hacc.content, hacc.opened, hacc.placed⟩, hpair⟩

theorem Owing.struck (h : Owing watched layout a) (t : Tree.Trouble) :
    Owing watched layout (a.struck t) := by
  obtain ⟨hl, log, hacc, hpair, howes⟩ := h
  exact ⟨hl, log, ⟨hacc.content, hacc.opened, hacc.placed⟩, hpair, howes⟩

theorem Torn.struck (h : Torn watched layout a) (t : Tree.Trouble) :
    Torn watched layout (a.struck t) := by
  obtain ⟨hl, log, more, hpair, hmore, place, base, debris, hfrayed⟩ := h
  exact ⟨hl, log, more, hpair, hmore, place, base, debris,
    ⟨hfrayed.content, hfrayed.holds, hfrayed.debris, hfrayed.others⟩⟩

end Archive

/-- A recorder over an archive. -/
structure Station where
  recorder : Recorder Archive
  /-- The sink failed, and the recorder is asked for nothing more. -/
  stopped : Bool := false

namespace Station

variable {watched : Place → Prop} {layout : Layout} {s : Station} {r : Recorder Archive}
  {past : List Happening}

/-- What may happen to a station. -/
inductive Event
  | call (call : Recorder.Call)
  /-- The archive is left. There is a new recorder over a new archive with the same layout and the
  same files. -/
  | restart
  /-- There is one as well, but nobody leaves the archive, and what its writers hold is lost. -/
  | kill
  /-- From here on this is the trouble below the directory. -/
  | trouble (trouble : Tree.Trouble)
deriving DecidableEq, Repr

/-- The event brings no trouble that cuts a text for a file that is watched in two. -/
def Event.Spares (watched : Place → Prop) : Event → Prop
  | .call _ | .restart | .kill => True
  | .trouble t => ∀ place, watched place → t.Spares place

/-- The program is started again. -/
def Event.isStart : Event → Bool
  | .restart | .kill => true
  | .call _ | .trouble _ => false

/-- The archive at work. -/
def archive (s : Station) : Archive := s.recorder.sink

/-- A station that begins over an archive. -/
def started (archive : Archive) : Station := { recorder := { sink := archive } }

/-- The answer tells of a failure of the sink. -/
def sinkFailed : Except (Halt (RecorderFault ArchiveFault)) Unit → Bool
  | .error (.failed (.sink _)) => true
  | _ => false

/-- The station after a call, which goes to the recorder unless the sink failed before. -/
def asked (s : Station) (call : Recorder.Call) : Station :=
  if s.stopped then s
  else
    let answer := Recorder.answer Archive.sink s.recorder call
    { recorder := answer.2, stopped := sinkFailed answer.1 }

/-- The station after an event. -/
def step (s : Station) : Event → Station
  | .call call => s.asked call
  | .restart => started (s.archive.perform (.reopen s.archive.layout))
  | .kill => started { s.archive with opened := [] }
  | .trouble t => { s with recorder := { s.recorder with sink := s.archive.struck t } }

/-- The station after events. -/
def after (s : Station) (events : List Event) : Station := events.foldl step s

/-! ## One happening -/

/-- The recorder can be asked on: it is not locked, and its ledger digests a past. -/
def Remembers (r : Recorder Archive) : Prop :=
  r.locked = false ∧ ∃ past, Mirrors past r.ledger

theorem meet_housekeeping_error {current : Chain.Slot} {r' : Recorder Archive}
    {halt : Halt (RecorderFault ArchiveFault)}
    (h : Recorder.meet Archive.sink r (.housekeeping current) = (.error halt, r')) : r' = r := by
  unfold Recorder.meet Recorder.housekeep at h
  dsimp only at h
  cases ho : current.earlier? slotsKept with
  | none =>
      rw [ho] at h
      exact (Prod.mk.inj h).2.symm
  | some oldest =>
      rw [ho] at h
      cases hl : r.locked with
      | true =>
          rw [hl] at h
          exact (Prod.mk.inj h).2.symm
      | false =>
          rw [hl] at h
          exact absurd (Prod.mk.inj h).1 (by simp)

/-- **The files are paired, and the recorder remembers** as long as it is asked. Behind a failure
one of the files may be torn. -/
structure Sound (watched : Place → Prop) (layout : Layout) (s : Station) : Prop where
  working : s.stopped = false → Balanced watched layout s.archive ∧ Remembers s.recorder
  torn : Torn watched layout s.archive

/-- What becomes of an archive by asking its recorder. -/
structure Leaves (watched : Place → Prop) (layout : Layout) (a : Archive) (s : Station) : Prop where
  sound : Sound watched layout s
  eases : a.tree.Eases s.archive.tree
  owing : Spared watched a → Owing watched layout s.archive

theorem leaves_of_balanced {a : Archive} (hb : Balanced watched layout s.archive)
    (hr : Remembers s.recorder) (he : a.tree.Eases s.archive.tree) : Leaves watched layout a s where
  sound := ⟨fun _ => ⟨hb, hr⟩, hb.torn⟩
  eases := he
  owing _ := hb.owing

/-- **One happening** keeps the files paired and the memory, unless the sink fails. -/
theorem leaves_meet (hb : Balanced watched layout r.sink) (hr : Remembers r) (h : Happening) :
    Leaves watched layout r.sink ⟨(Recorder.meet Archive.sink r h).2,
      sinkFailed (Recorder.meet Archive.sink r h).1⟩ := by
  obtain ⟨hl, past, hm⟩ := id hr
  cases hmeet : Recorder.meet Archive.sink r h with
  | mk result r' =>
      cases result with
      | ok u =>
          obtain ⟨hm', hl', ht⟩ := Recorder.meet_ok hm hmeet
          have hr' : Remembers r' := ⟨hl'.trans hl, _, hm'⟩
          cases h with
          | arrival bid =>
              obtain ⟨hb', heases⟩ := hb.takes (List.append_nil _).symm ht
              exact leaves_of_balanced hb' hr' heases
          | housekeeping current =>
              have hsink : r'.sink = r.sink := ht
              have hb' : Balanced watched layout r'.sink := by
                rw [hsink]
                exact hb
              refine leaves_of_balanced hb' hr' ?_
              show r.sink.tree.Eases r'.sink.tree
              rw [hsink]
              exact .refl _
      | error halt =>
          cases h with
          | arrival bid =>
              obtain ⟨done, row, later, m, hrows, ht, hrefused⟩ :=
                Recorder.take_error hmeet
              rw [hm.rowsFor_eq] at hrows
              obtain ⟨⟨cause, rfl⟩, heases, htorn, howing⟩ :=
                hb.refuses hrows ht (Recorder.refuses_of_write hrefused)
              exact ⟨⟨fun hf => absurd hf (by simp [sinkFailed]), htorn⟩, heases, howing⟩
          | housekeeping current =>
              obtain rfl := meet_housekeeping_error hmeet
              exact leaves_of_balanced hb hr (.refl _)

/-- **Happenings one after the other.** -/
theorem leaves_undergo (hb : Balanced watched layout r.sink) (hr : Remembers r)
    (later : List Happening) :
    Leaves watched layout r.sink ⟨(Recorder.undergo Archive.sink r later).2,
      sinkFailed (Recorder.undergo Archive.sink r later).1⟩ := by
  induction later generalizing r with
  | nil => exact leaves_of_balanced hb hr (.refl _)
  | cons h rest ih =>
      have hone := leaves_meet hb hr h
      rw [Recorder.undergo]
      cases hmeet : Recorder.meet Archive.sink r h with
      | mk result r' =>
          rw [hmeet] at hone
          cases result with
          | error halt => exact hone
          | ok u =>
              obtain ⟨hb', hr'⟩ := hone.sound.working rfl
              have hrest := ih hb' hr'
              exact ⟨hrest.sound, hone.eases.trans hrest.eases,
                fun hs => hrest.owing (hs.of_eases hone.eases)⟩

/-! ## Any events in any order -/

theorem remembers_started (a : Archive) : Remembers (started a).recorder :=
  ⟨rfl, [], Mirrors.init⟩

theorem leaves_asked (h : Sound watched layout s) (hs : s.stopped = false)
    (call : Recorder.Call) : Leaves watched layout s.archive (s.asked call) := by
  obtain ⟨hb, hr⟩ := h.working hs
  unfold asked
  rw [if_neg (by simp [hs]), Recorder.answer_eq_undergo hr.1]
  exact leaves_undergo hb hr call.happenings

/-- **Every event but a new start** keeps what holds of files and recorder. -/
theorem Sound.step (h : Sound watched layout s) {event : Event} (he : event.isStart = false) :
    Sound watched layout (s.step event) := by
  cases event with
  | restart | kill => exact absurd he (by decide)
  | call call =>
      cases hs : s.stopped with
      | false => exact (leaves_asked h hs call).sound
      | true =>
          show Sound watched layout (s.asked call)
          unfold asked
          rw [if_pos hs]
          exact h
  | trouble t =>
      refine ⟨fun hs => ?_, h.torn.struck t⟩
      obtain ⟨hb, hr⟩ := h.working hs
      exact ⟨hb.struck t, hr⟩

theorem Sound.after (h : Sound watched layout s) {events : List Event}
    (he : ∀ event ∈ events, event.isStart = false) : Sound watched layout (s.after events) := by
  induction events generalizing s with
  | nil => exact h
  | cons event rest ih =>
      obtain ⟨hone, hrest⟩ := List.forall_mem_cons.mp he
      exact ih (h.step hone) hrest

/-- **What holds while no text is cut**, also behind a failure. -/
structure Whole (watched : Place → Prop) (layout : Layout) (s : Station) : Prop
    extends Sound watched layout s where
  accepted : 0 < layout.bucketSeconds.toInt
  spared : Spared watched s.archive
  owing : Owing watched layout s.archive

theorem whole_started {a : Archive} (hb : Balanced watched layout a) (hs : Spared watched a)
    (hp : 0 < layout.bucketSeconds.toInt) : Whole watched layout (started a) :=
  ⟨⟨fun _ => ⟨hb, remembers_started a⟩, hb.torn⟩, hp, hs, hb.owing⟩

/-- **Every event** keeps it, new starts included. -/
theorem Whole.step (h : Whole watched layout s) {event : Event} (he : event.Spares watched) :
    Whole watched layout (s.step event) := by
  cases event with
  | call call =>
      cases hs : s.stopped with
      | false =>
          have hleaves := leaves_asked h.toSound hs call
          exact ⟨hleaves.sound, h.accepted, h.spared.of_eases hleaves.eases,
            hleaves.owing h.spared⟩
      | true =>
          show Whole watched layout (s.asked call)
          unfold asked
          rw [if_pos hs]
          exact h
  | restart =>
      obtain ⟨hb, heases⟩ := h.owing.close h.spared
      show Whole watched layout (started (s.archive.reopened s.archive.layout))
      rw [h.owing.1, s.archive.reopened_eq h.accepted]
      exact whole_started hb (h.spared.of_eases heases) h.accepted
  | kill =>
      show Whole watched layout (started { layout := s.archive.layout, tree := s.archive.tree })
      rw [h.owing.1]
      exact whole_started h.owing.lost h.spared h.accepted
  | trouble t => exact ⟨h.toSound.step rfl, h.accepted, he, h.owing.struck t⟩

theorem Whole.after (h : Whole watched layout s) {events : List Event}
    (he : ∀ event ∈ events, event.Spares watched) : Whole watched layout (s.after events) := by
  induction events generalizing s with
  | nil => exact h
  | cons event rest ih =>
      obtain ⟨hone, hrest⟩ := List.forall_mem_cons.mp he
      exact ih (h.step hone) hrest

theorem whole_of_open {a : Archive} (ho : Archive.open? layout {} = .ok a) :
    Whole watched layout (started a) := by
  have hsettled := Archive.settled_open ho
  obtain rfl := Archive.eq_of_open ho
  have haccounts : Archive.Accounts watched [] { layout := layout, tree := {} } :=
    ⟨fun place _ => hsettled.accounts.content place trivial,
      fun e he => absurd he List.not_mem_nil, hsettled.accounts.placed⟩
  refine whole_started ⟨rfl, hsettled.idle, [], haccounts, ?_⟩
    (fun place _ cut hcut => absurd hcut List.not_mem_nil) (Archive.accepted_of_open ho)
  exact fun start p q hp hq => List.Sublist.refl _

/--
**Every top row stands among all rows.**

Over an archive that began without files, whatever calls, failures and new starts there were: as
long as every text that is added to the files of a bucket comes through whole or not at all, the
rows of its top file are among the rows of its other file, in their order, whatever becomes of the
files of other buckets.

If then texts for these files are cut, that still holds until the program is started again, but for
the last row of the top file: behind a failure it may be what is read of the beginning of a row, if
anything is, whose whole stands among all rows.
-/
theorem top_rows_of_calls {a : Archive} (ho : Archive.open? layout {} = .ok a) (start : Int64)
    (before life : List Event) (hbefore : ∀ event ∈ before, event.Spares (IsFileOf layout start))
    (hlife : ∀ event ∈ life, event.isStart = false) :
    (dataRows layout ((started a).after before).archive.tree start .top).Sublist
        (dataRows layout ((started a).after before).archive.tree start .all)
      ∧ ∃ rows, rows.Sublist
          (dataRows layout (((started a).after before).after life).archive.tree start .all)
        ∧ (dataRows layout (((started a).after before).after life).archive.tree start .top = rows
          ∨ (((started a).after before).after life).stopped = true
            ∧ ∃ whole record count, rows = whole ++ [record]
              ∧ (readCut layout record count).length ≤ 1
              ∧ dataRows layout (((started a).after before).after life).archive.tree start .top
                = whole ++ readCut layout record count) := by
  have hw := (whole_of_open ho).after hbefore
  refine ⟨hw.owing.sublist, ?_⟩
  have h := hw.toSound.after hlife
  cases hs : (((started a).after before).after life).stopped with
  | false => exact ⟨_, (h.working hs).1.owing.sublist, .inl rfl⟩
  | true =>
      obtain ⟨rows, hrows, htop⟩ := h.torn.sublist
      exact ⟨rows, hrows, htop.imp_right fun htorn => ⟨rfl, htorn⟩⟩

/-- A station over a directory without files. -/
def fresh : Station := started { layout := {}, tree := {} }

/-- The file for rows of a kind that are received in the first hour. -/
def firstFile (kind : RowKind) : Place :=
  ["1970-01-01", "1970-01-01_00-00_" ++ kind.text ++ ".csv"]

/-- There is room for no more than that of a text. -/
def roomFor (count : Nat) : Option Tree.Cut := some { cause := "no space", through := count }

/-- A text for a file of the second hour is cut. The file of a top row of the first hour is denied,
and such a row is refused by its file. Each time the program is started again. -/
def refusedTop : List Event :=
  [.trouble { appends := [(["1970-01-01", "1970-01-01_01-00_all.csv"], roomFor 12)] },
    .call (.process [{ Bid.plain ⟨3⟩ 2 with receivedAtMs := 3600000 }]), .restart,
    .trouble { denied := [firstFile .top] }, .call (.process [Bid.plain ⟨3⟩ 2]), .kill,
    .trouble { appends := [(firstFile .top, none), (firstFile .top, roomFor 0),
      (firstFile .top, roomFor 0)] },
    .call (.process [Bid.plain ⟨3⟩ 2]), .restart]

/-- Behind so many texts there is room for the beginning of a top row. -/
def cutBehind (texts : Nat) : List Event :=
  [.trouble { appends := List.replicate texts (firstFile .top, none)
      ++ [(firstFile .top, roomFor 12)] },
    .call (.process [Bid.plain ⟨3⟩ 2]), .call (.process [Bid.plain ⟨3⟩ 9])]

theorem eq_firstFile {place : Place} (h : IsFileOf {} 0 place) :
    place = firstFile .all ∨ place = firstFile .top := by
  obtain ⟨kind, hkind⟩ := h
  have hplace : Layout.place? {} 0 kind = some (firstFile kind) := by
    cases kind <;> decide +kernel
  cases kind with
  | all => exact .inl (Option.some.inj (hkind.symm.trans hplace))
  | top => exact .inr (Option.some.inj (hkind.symm.trans hplace))

/-- The text that is cut is for neither file of the first hour, and nothing of those that are
refused comes through. -/
theorem spares_refusedTop : ∀ event ∈ refusedTop, event.Spares (IsFileOf {} 0) := by
  have hother : ∀ place, IsFileOf {} 0 place →
      place ≠ ["1970-01-01", "1970-01-01_01-00_all.csv"] := by
    intro place hplace
    rcases eq_firstFile hplace with rfl | rfl <;> decide
  have hroom : ∀ cut, some cut = roomFor 0 → cut.Refuses := by
    rintro _ ⟨⟩
    exact ⟨rfl, rfl⟩
  simp only [refusedTop, List.forall_mem_cons, Event.Spares, Tree.Trouble.Spares]
  refine ⟨fun place hplace cut hcut => ?_, trivial, trivial,
    fun place _ cut hcut => absurd hcut List.not_mem_nil, trivial, trivial,
    fun place _ cut hcut => ?_, trivial, trivial, fun event he => absurd he List.not_mem_nil⟩
  · exact absurd (Prod.mk.inj (List.mem_singleton.mp hcut)).1 (hother place hplace)
  · simp only [List.mem_cons, List.not_mem_nil, Prod.mk.injEq, or_false] at hcut
    rcases hcut with ⟨-, h⟩ | ⟨-, h⟩ | ⟨-, h⟩
    · exact absurd h (by simp)
    · exact hroom cut h
    · exact hroom cut h

/-- A top row is cut after all these failures. -/
theorem top_rows_of_cutBehind : Archive.open? {} {} = .ok { layout := {}, tree := {} }
    ∧ (∀ event ∈ refusedTop, event.Spares (IsFileOf {} 0))
    ∧ (∀ event ∈ cutBehind 0, event.isStart = false)
    ∧ ∃ rows : List (List String),
      rows.Sublist (dataRows {} ((fresh.after refusedTop).after (cutBehind 0)).archive.tree 0 .all)
        ∧ (dataRows {} ((fresh.after refusedTop).after (cutBehind 0)).archive.tree 0 .top = rows
          ∨ ((fresh.after refusedTop).after (cutBehind 0)).stopped = true
            ∧ ∃ whole record count, rows = whole ++ [record]
              ∧ (readCut {} record count).length ≤ 1
              ∧ dataRows {} ((fresh.after refusedTop).after (cutBehind 0)).archive.tree 0 .top
                = whole ++ readCut {} record count) := by
  have ho : Archive.open? {} {} = .ok { layout := {}, tree := {} } := rfl
  have hlife : ∀ event ∈ cutBehind 0, event.isStart = false := by decide
  exact ⟨ho, spares_refusedTop, hlife,
    (top_rows_of_calls ho 0 refusedTop _ spares_refusedTop hlife).2⟩

/-- There is room for the beginning of a row, and for nothing more until the program is started
again. -/
def cutThenRestarted : List Event :=
  [.trouble { appends := [(firstFile .all, none), (firstFile .all, roomFor 12),
      (firstFile .all, roomFor 0)] },
    .call (.process [Bid.plain ⟨3⟩ 2]), .restart, .call (.process [Bid.plain ⟨3⟩ 2])]

theorem dataRows_firstFile (a : Archive) (kind : RowKind) (bids : List Bid) (rest : String)
    (h : a.tree.content? (firstFile kind)
      = some (Archive.textOf (firstFile kind) bids ++ rest)) :
    dataRows {} a.tree 0 kind = bids.map Bid.record ++ Delimited.read ',' rest.toList := by
  have hp : Layout.place? {} 0 kind = some (firstFile kind) := by
    cases kind <;> decide +kernel
  exact Archive.dataRows_of_textOf hp h

/-- **A top row that is cut** is no row of the other file. And the row of a bid is glued to one that
was cut before the program was started again, while its top row stands for itself. -/
theorem torn_rows_unpaired :
    ¬ (dataRows {} (fresh.after (cutBehind 1)).archive.tree 0 .top).Sublist
        (dataRows {} (fresh.after (cutBehind 1)).archive.tree 0 .all)
      ∧ ¬ (dataRows {} (fresh.after cutThenRestarted).archive.tree 0 .top).Sublist
        (dataRows {} (fresh.after cutThenRestarted).archive.tree 0 .all) := by
  constructor
  · have htop := dataRows_firstFile (fresh.after (cutBehind 1)).archive .top []
      "data-api,0,," (by decide +kernel)
    have hall := dataRows_firstFile (fresh.after (cutBehind 1)).archive .all [Bid.plain ⟨3⟩ 2]
      "" (by decide +kernel)
    rw [htop, hall]
    decide +kernel
  · have htop := dataRows_firstFile (fresh.after cutThenRestarted).archive .top
      [Bid.plain ⟨3⟩ 2] "" (by decide +kernel)
    have hall := dataRows_firstFile (fresh.after cutThenRestarted).archive .all []
      "data-api,0,,data-api,0,,3,,2,,,,0,,,,,\n" (by decide +kernel)
    rw [htop, hall]
    decide +kernel

end Station

end BidArchive
