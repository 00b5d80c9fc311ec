import BidArchive.Feed.Delivery
import BidArchive.Proofs.Bid.SlotTime
import BidArchive.Proofs.Feed.Forwarding
import BidArchive.Proofs.Feed.Frames
import BidArchive.Proofs.Feed.Polls
import BidArchive.Proofs.Feed.Requests
import BidArchive.Proofs.Relay.Trace
import BidArchive.Relay.Client

/-!
# Slots in range

What comes in over the stream, from relays and from the beacon node may hold any number,
and what is calculated from it has to fit a word. Frames, traces, heads and duties are
read only if their slots are in range, whose starts fit.

The slot after a head need not be in range. Behind the last one that is, starts are
clamped and leave no room for the delay of a request (`schedule_crashes_iff`). What rules
this out is that a slot is scheduled for a known proposer only, and known are proposers
of slots that were checked when the duties were read (`Scene.InRange`).

So every bid that is handed on has a slot in range (`Sent.inRange`), and its time within
the slot is what the integers say (`Bid.Exact`). The poller calculates with slots from
its clock alone.
-/

namespace BidArchive

open Chain (Slot)

/-! ## Times of a bid -/

namespace Bid

variable {bid : Bid}

/-- What the row of a bid shows of the time from the start of its slot to the time reported, by the
integers: nothing without such a time, or for one too long before the slot for a word. -/
def distanceText (bid : Bid) : String :=
  match bid.timestampMs with
  | some reported =>
    if -0x8000000000000000 ≤ reported.toInt - bid.slot.startInt then
      (reported.toInt - bid.slot.startInt).repr
    else ""
  | none => ""

/-- The bid has a slot in range, and the calculations with it are those of the integers. -/
structure Exact (bid : Bid) : Prop where
  inRange : bid.slot.inRange = true
  /-- The start of the slot fits a word. -/
  start : ∃ start, bid.slot.start? = some start ∧ start.toInt = bid.slot.startInt
  /-- There is a distance to the time reported if and only if it fits a word. -/
  distance : ∀ ms, bid.sinceSlotStart? = some ms
    ↔ ∃ reported, bid.timestampMs = some reported ∧ ms.toInt = reported.toInt - bid.slot.startInt
  /-- The row shows it. -/
  cell : ("slot_t_ms", bid.distanceText) ∈ columns.zip bid.record

/-- **A bid for a slot in range is exact.** -/
theorem exact_of_inRange (h : bid.slot.inRange = true) : bid.Exact := by
  obtain ⟨start, hstart, -⟩ := Slot.exists_start h
  have hint : start.toInt = bid.slot.startInt := Slot.start?_eq_some_iff.mp hstart
  have hdistance : ∀ ms, bid.sinceSlotStart? = some ms ↔ ∃ reported,
      bid.timestampMs = some reported ∧ ms.toInt = reported.toInt - bid.slot.startInt :=
    fun ms => sinceSlotStart?_eq_some_iff.trans
      (and_iff_right (Option.isSome_iff_exists.mpr ⟨start, hstart⟩))
  refine ⟨h, ⟨start, hstart, hint⟩, hdistance, ?_⟩
  have hcell : numberCell bid.sinceSlotStart? = bid.distanceText := by
    unfold distanceText
    cases hreported : bid.timestampMs with
    | none => simp [sinceSlotStart?, hreported, numberCell]
    | some reported =>
        dsimp only
        split
        · -- no slot in range starts before 1970, so the distance is not too long either
          rename_i hfits
          have hgenesis := (Slot.inRange_iff.mp h).1
          have hlt := reported.toInt_lt
          obtain ⟨ms, hms⟩ := Word.exists_toInt_eq hfits (by unfold Slot.startInt; omega)
          rw [(hdistance ms).mpr ⟨reported, hreported, hms⟩, ← hms]
          rfl
        · rename_i hfits
          cases hsince : bid.sinceSlotStart? with
          | none => rfl
          | some ms =>
              obtain ⟨x, hx, hms⟩ := (hdistance ms).mp hsince
              have hlo := ms.le_toInt
              rw [← Option.some.inj (hreported.symm.trans hx)] at hms
              omega
  rw [← hcell]
  exact List.mem_of_getElem? (i := 4) rfl

end Bid

namespace Feed

open Beacon (Node readHead)

variable {σ ε : Type} {node : Node σ ε} {scene : Scene σ} {relays : List Relay.Entry}
  {nowMs : Int64} {bid : Bid}

/-! ## Bids of the stream and of listings -/

/-- **What the stream announces is in range.** -/
theorem inRange_of_forward {relay : String} {capacity : Option Nat} {items : List Item}
    (h : bid ∈ (forward relay nowMs capacity items).bids) : bid.slot.inRange = true := by
  obtain ⟨_, _, _, -, htop, rfl⟩ := exists_frame_of_mem_bids h
  exact (parts_of_ofFrame htop).2.1

/-- **What relays list is in range.** -/
theorem inRange_of_listed {relay : Relay.Entry} {hostname : String} {slot : Slot}
    {offsetMs : Int64} {answer : Http.Reply}
    (h : bid ∈ (Delivery.ofTraces hostname slot offsetMs nowMs
      (relay.readTraces slot answer)).batch) : bid.slot.inRange = true := by
  unfold Delivery.ofTraces at h
  split at h
  · exact absurd h List.not_mem_nil
  · rename_i traces htraces
    obtain ⟨trace, htrace, rfl⟩ := List.mem_map.mp h
    unfold Relay.Entry.readTraces at htraces
    dsimp only at htraces
    split at htraces
    · exact absurd htraces (by simp)
    · split at htraces
      · exact Beacon.inRange_of_decode Relay.Trace.yields_trace.list
          (Json.mapError_eq_ok_iff.mp htraces) trace htrace
      · exact absurd htraces (by simp)

/-! ## Slots that are scheduled -/

/-- **Only behind the last slot in range there is no room for the delay.** -/
theorem add?_requestDelay_eq_none_iff {slot : Slot} (h : 0 ≤ slot.number.toInt) :
    Word.add? slot.startMs requestDelayMs = none ↔ Slot.last < slot := by
  have hdelay : requestDelayMs.toInt = 1000 := by decide
  have hlast : Slot.last.number.toInt = 768614202502562 := by decide
  have hlo : 0 ≤ slot.startInt := by
    unfold Slot.startInt
    omega
  unfold Word.add?
  rw [Word.signed?_eq_none_iff, Slot.toInt_startMs (by omega), hdelay, Slot.lt_iff, hlast]
  unfold Slot.startInt
  omega

/-- **So it is only there that scheduling fails**, if the node has the hash of the payload. -/
theorem schedule_crashes_iff {slot : Slot} (h : 0 ≤ slot.number.toInt) (node : Node σ ε)
    (head : Beacon.Head) (proposer : String) (state : HeadState) (s : σ) :
    (HeadState.schedule node head slot proposer state s).outcome = .crashed
      ↔ (∃ hash, (node.blockHash head.block s).1 = .ok (some hash)) ∧ Slot.last < slot := by
  unfold HeadState.schedule
  split
  · rename_i hblock
    simp [hblock]
  · rename_i hblock
    simp [hblock]
  · rename_i hash s' hblock
    rw [← add?_requestDelay_eq_none_iff h]
    split
    · rename_i hadd
      simp [hblock, hadd]
    · rename_i atMs hadd
      simp [hadd]

/-- All slots scheduled are in range. -/
def Scene.InRange (scene : Scene σ) : Prop :=
  ∀ schedule ∈ scene.schedules, schedule.slot.inRange = true

/-- **No incident schedules a slot out of range**, as proposers are known for none. -/
theorem Scene.InRange.meet (hr : scene.InRange) (h : Orderly relays scene) (hn : node.InRange)
    (incident : Incident) : (scene.meet node relays incident).InRange := by
  have hknown := (h.meet hn incident).known
  unfold InRange
  cases effect_meet h hn incident with
  | scheduled _ _ hadds _ hproposer =>
      rw [congrArg Scene.schedules hadds]
      intro schedule hmem
      rcases List.mem_append.mp hmem with hmem | hmem
      · exact hr schedule hmem
      · rw [List.mem_singleton.mp hmem]
        exact hknown _ _ hproposer
  | skipped _ h | asleep _ h | kept _ h | woken _ _ h | abandoned _ _ h | cancelled h =>
      rw [congrArg Scene.schedules h]
      exact hr

theorem Scene.InRange.play (hr : scene.InRange) (h : Orderly relays scene) (hn : node.InRange)
    (incidents : List Incident) : (scene.play node relays incidents).InRange := by
  induction incidents generalizing scene with
  | nil => exact hr
  | cons incident rest ih => exact ih (hr.meet h hn incident) (h.meet hn incident)

/-- Requests are made for slots that were scheduled. -/
theorem inRange_of_made (hr : scene.InRange) (h : Orderly relays scene)
    {p : HeaderRequest × Int64} (hp : p ∈ scene.made) : p.1.schedule.slot.inRange = true := by
  have hmem : p.1 ∈ scene.schedules.flatMap (·.requests relays) :=
    h.complete.subset (List.mem_append_left _ (List.mem_map_of_mem hp))
  obtain ⟨schedule, hschedule, hrequest⟩ := List.mem_flatMap.mp hmem
  obtain ⟨relay, _, hp_eq⟩ := List.mem_map.mp hrequest
  rw [← hp_eq]
  exact hr schedule hschedule

section Follower

variable (base : String) (reply : Beacon.Question → σ → Http.Reply × σ)
  (relays : List Relay.Entry) (s : σ) (incidents : List Incident)

theorem orderly_after : Orderly relays (Scene.after base reply relays s incidents) :=
  (Orderly.begin relays s).play (Beacon.inRange_overHttp base reply) incidents

theorem inRange_after : (Scene.after base reply relays s incidents).InRange := by
  have hstart : ({ follower := { node := s } } : Scene σ).InRange :=
    fun _ h => absurd h List.not_mem_nil
  exact hstart.play (Orderly.begin relays s) (Beacon.inRange_overHttp base reply) incidents

end Follower

/-! ## Slots that are polled -/

/-- The slot that a poller is at begins far from the ends of a word, and the offsets left are among
those of polls. -/
def Poller.Within : Poller → Prop
  | .considering slot left | .waiting slot _ _ left =>
    -0x4000000000000000 ≤ slot.startInt ∧ slot.startInt ≤ 0x4000000000000000
      ∧ ∀ o ∈ left, o ∈ pollOffsets
  | .crashed => False
  | _ => True

/-- The clock shows a moment that the calendar covers. -/
def Shown (now : Int64) : Prop := ∃ i : Time.Instant, now.toInt = i.millis

theorem bounds_of_shown {now : Int64} (h : Shown now) :
    -8334601228800000 ≤ now.toInt ∧ now.toInt < 8210266876800000 := by
  obtain ⟨i, hi⟩ := h
  rw [hi]
  exact i.millis_bounds

/-- After any moment of the calendar there is a next slot. -/
theorem exists_nextSlot {now : Int64} (h : Shown now) : ∃ slot, nextSlot? now = some slot := by
  have hbounds := bounds_of_shown h
  have hone : (1 : Int64).toInt = 1 := by decide
  have hnear : (Slot.at? now).isSome :=
    Slot.isSome_at?_iff.mpr (by rw [Chain.toInt_genesisMs]; omega)
  obtain ⟨current, hcurrent⟩ := Option.isSome_iff_exists.mp hnear
  have hbegun := Slot.le_of_at? hcurrent
  unfold Slot.startInt at hbegun
  obtain ⟨n, hn⟩ := Word.exists_toInt_eq (n := current.number.toInt + 1) (by omega) (by omega)
  refine ⟨⟨n⟩, ?_⟩
  unfold nextSlot?
  rw [hcurrent]
  exact Slot.later?_eq_some_iff.mpr (by rw [hone]; exact hn)

/-- The moments of such a slot fit a word. -/
theorem pollMoment_ne_overflow {slot : Slot} {o now : Int64}
    (hlo : -0x4000000000000000 ≤ slot.startInt) (hhi : slot.startInt ≤ 0x4000000000000000)
    (ho : o ∈ pollOffsets) : pollMoment slot o now ≠ .overflow := by
  have hsmall : ∀ o ∈ pollOffsets, -4000 ≤ o.toInt ∧ o.toInt ≤ 2000 :=
    forall_pollOffsets.mpr (by decide)
  have hbounds := hsmall o ho
  have hstart := Slot.toInt_startMs (s := slot) (by omega)
  obtain ⟨due, hdue⟩ := Word.exists_toInt_eq (n := slot.startMs.toInt + o.toInt)
    (by omega) (by omega)
  unfold pollMoment
  rw [Word.add?_eq_some_iff.mpr hdue]
  dsimp only
  split <;> simp

theorem Poller.Within.step {p : Poller} {now : Int64} (h : p.Within) (hnow : Shown now) :
    (p.step now).2.Within := by
  cases p with
  | starting =>
      obtain ⟨slot, hslot⟩ := exists_nextSlot hnow
      unfold Poller.step
      rw [hslot]
      trivial
  | aligning first => trivial
  | choosing =>
      obtain ⟨slot, hslot⟩ := exists_nextSlot hnow
      have hbounds := bounds_of_shown hnow
      obtain ⟨hlt, hle⟩ := lt_of_nextSlot? hslot
      unfold Poller.step
      rw [hslot]
      exact ⟨by omega, by omega, fun _ ho => ho⟩
  | considering slot left =>
      cases left with
      | nil => trivial
      | cons o rest =>
          obtain ⟨hlo, hhi, hleft⟩ := h
          have hrest : ∀ x ∈ rest, x ∈ pollOffsets :=
            fun x hx => hleft x (List.mem_cons_of_mem _ hx)
          unfold Poller.step
          dsimp only
          split
          · exact ⟨hlo, hhi, hrest⟩
          · exact ⟨hlo, hhi, hrest⟩
          · rename_i hmoment
            exact pollMoment_ne_overflow hlo hhi (hleft o List.mem_cons_self) hmoment
  | waiting slot o due rest => exact h
  | crashed => exact h.elim

/-- **With any clock of the calendar a poller goes on for ever.** -/
theorem Poller.Within.run {p : Poller} {readings : List Int64} (h : p.Within)
    (hclock : ∀ now ∈ readings, Shown now) : (p.run readings).2.Within := by
  induction readings generalizing p with
  | nil => exact h
  | cons now rest ih =>
      obtain ⟨hnow, hrest⟩ := List.forall_mem_cons.mp hclock
      exact ih (h.step hnow) hrest

/-! ## Bids that are handed on -/

/-- The bids that are handed on, whatever comes in over the stream, whatever relays and beacon node
reply, and whatever happens to the follower of heads. -/
inductive Sent (base : String) (reply : Beacon.Question → σ → Http.Reply × σ)
    (relays : List Relay.Entry) (s : σ) : Bid → Prop
  | announced {relay : String} {capacity : Option Nat} {items : List Item} {nowMs : Int64}
      {bid : Bid} (forwarded : bid ∈ (forward relay nowMs capacity items).bids) :
      Sent base reply relays s bid
  | listed {relay : Relay.Entry} {slot : Slot} {offsetMs nowMs : Int64} {answer : Http.Reply}
      {bid : Bid} (delivered : bid ∈ (Delivery.ofTraces relay.hostname slot offsetMs nowMs
        (relay.readTraces slot answer)).batch) : Sent base reply relays s bid
  | offered {incidents : List Incident} {request : HeaderRequest} {made nowMs : Int64}
      {table : KnownErrors} {answer : Http.Reply} {bid : Bid}
      (requested : (request, made) ∈ (Scene.after base reply relays s incidents).made)
      (delivered : bid ∈ (Delivery.ofHeader request.relay.hostname request.schedule.slot
        request.schedule.proposer table nowMs (request.relay.readHeader request.schedule.slot
          request.schedule.parentHash request.schedule.proposer answer)).batch) :
      Sent base reply relays s bid

/-- A bid that is offered is one for the slot that was asked about. -/
theorem slot_of_offered {hostname proposer : String} {slot : Slot} {table : KnownErrors}
    {answer : Except Relay.HeaderFault Relay.Offer}
    (h : bid ∈ (Delivery.ofHeader hostname slot proposer table nowMs answer).batch) :
    bid.slot = slot := by
  unfold Delivery.ofHeader at h
  split at h
  · exact absurd h List.not_mem_nil
  · rw [List.mem_singleton.mp h]
    rfl

/-- **Every bid that is handed on has a slot in range.** -/
theorem Sent.inRange {base : String} {reply : Beacon.Question → σ → Http.Reply × σ} {s : σ}
    (h : Sent base reply relays s bid) : bid.slot.inRange = true := by
  cases h with
  | announced hforwarded => exact inRange_of_forward hforwarded
  | listed hdelivered => exact inRange_of_listed hdelivered
  | offered hrequested hdelivered =>
      have hmade := inRange_of_made (inRange_after base reply relays s _)
        (orderly_after base reply relays s _) hrequested
      rw [slot_of_offered hdelivered]
      exact hmade

/-- The slot and the epoch after a head that is read have numbers. -/
theorem exists_next_of_readHead {data : String} {head : Beacon.Head}
    (h : readHead data = .ok head) :
    (∃ slot, head.slot.later? 1 = some slot
        ∧ slot.number.toInt = head.slot.number.toInt + 1)
      ∧ ∃ epoch, head.slot.epoch.later? 1 = some epoch
        ∧ epoch.number.toInt = head.slot.number.toInt / 32 + 1 := by
  have hone : (1 : Int64).toInt = 1 := by decide
  have hr := Beacon.inRange_of_readHead h
  obtain ⟨slot, hslot⟩ := Slot.exists_next hr
  obtain ⟨epoch, hepoch⟩ := Slot.exists_next_epoch hr
  have hslot' := Slot.later?_eq_some_iff.mp hslot
  have hepoch' := Chain.Epoch.later?_eq_some_iff.mp hepoch
  rw [hone] at hslot' hepoch'
  rw [Slot.toInt_epoch] at hepoch'
  exact ⟨⟨slot, hslot, hslot'⟩, epoch, hepoch, hepoch'⟩

/--
**Every bid that is handed on has a slot in range, and no calculation overflows on the way.**

Whatever comes in over the stream, whatever relays and beacon node reply and whichever heads they
send, in any order: the start of a bid's slot fits a word, and its row shows the time from there
to the time reported as the integers have it. The follower of heads never fails to calculate: every
head that is read has a next slot and a next epoch, and headers are scheduled for slots in range
only, just a second behind their start. Seconds that a relay reports count if their milliseconds
fit. And the poller goes on for ever under a clock that shows moments of the calendar.
-/
theorem bids_in_range (base : String) (reply : Beacon.Question → σ → Http.Reply × σ)
    (relays : List Relay.Entry) (s : σ) :
    (∀ bid, Sent base reply relays s bid → bid.Exact)
      ∧ (∀ incidents, (Scene.after base reply relays s incidents).follower.isCrashed = false
          ∧ ∀ schedule ∈ (Scene.after base reply relays s incidents).schedules,
            schedule.slot.inRange = true
              ∧ schedule.atMs.toInt = schedule.slot.startInt + 1000)
      ∧ (∀ data head, readHead data = .ok head →
          (∃ slot, head.slot.later? 1 = some slot
              ∧ slot.number.toInt = head.slot.number.toInt + 1)
            ∧ ∃ epoch, head.slot.epoch.later? 1 = some epoch
              ∧ epoch.number.toInt = head.slot.number.toInt / 32 + 1)
      ∧ (∀ (trace : Relay.Trace) (ms : Int64), trace.receivedMs? = some ms
          ↔ trace.timestampMs = some ms
            ∨ trace.timestampMs = none ∧ ∃ seconds, trace.timestamp = some seconds
              ∧ ms.toInt = seconds.toInt * 1000)
      ∧ ∀ readings, (∀ now ∈ readings, Shown now) →
          (Poller.run readings .starting).2 ≠ .crashed := by
  refine ⟨fun bid hsent => Bid.exact_of_inRange hsent.inRange, fun incidents => ⟨?_, ?_⟩,
    fun data head hread => exists_next_of_readHead hread,
    fun trace ms => Relay.Trace.receivedMs?_eq_some_iff, fun readings hclock hcrashed => ?_⟩
  · exact (orderly_after base reply relays s incidents).running
  · intro schedule hschedule
    obtain ⟨start, hstart, hat⟩ :=
      (orderly_after base reply relays s incidents).timed schedule hschedule
    refine ⟨inRange_after base reply relays s incidents schedule hschedule, ?_⟩
    rw [hat, Slot.start?_eq_some_iff.mp hstart]
    rfl
  · have hstart : Poller.starting.Within := trivial
    have hend := hstart.run hclock
    rw [hcrashed] at hend
    exact hend

/-- A server that lists a proposer for the last slot in range. -/
def lastProposer : Beacon.Question → Unit → Http.Reply × Unit
  | .duties _, _ =>
    (.response ⟨.ok, none, "[[[\"0xAB\",\"1\",\"768614202502562\"]]]".toUTF8.toList⟩, ())
  | .blockHash _, _ => (.response ⟨.ok, none, "[[[[[\"0xp\"]]]]]".toUTF8.toList⟩, ())

/-- The head before the last slot and the head at it, with the headers requested in time. -/
def lastIncidents : List Incident :=
  [.news (.event "[\"768614202502561\",\"r\"]"),
    .wake 0 9223372036854768000 9223372036854768000,
    .news (.event "[\"768614202502562\",\"r\"]")]

/-- What is requested. -/
def lastRequest : HeaderRequest where
  relay := ⟨"relay", "", none⟩
  schedule := ⟨Slot.last, "0xp", "0xab", 9223372036854768000⟩

/-- What the relay replies. -/
def lastReply : Http.Reply :=
  .response ⟨.ok, none,
    "[[[[\"0xp\",\"0xf\",\"0xb\",\"1\",\"2\"],\"5\",\"0xk\"]]]".toUTF8.toList⟩

/-- What it offers by that. -/
def lastOffer : Relay.Offer := ⟨⟨"0xp", "0xf", "0xb", 1, 2⟩, 5, "0xk"⟩

/-- A frame for the last slot, with the last time that fits a word. -/
def lastFrame : List UInt8 :=
  List.replicate 7 0xff ++ [0x7f] ++ [162, 109, 130, 240, 12, 187, 2, 0] ++ List.replicate 172 0

/-- **At the last slot all still fits**, and the head behind which nothing would is passed over. -/
theorem bids_in_range_at_last_slot :
    (∃ bid ∈ (forward "top" 0 none [.binary lastFrame]).bids,
        bid.Exact ∧ bid.slot = Slot.last ∧ bid.sinceSlotStart? = some 8807)
      ∧ (Bid.ofOffer lastOffer Slot.last "relay" "0xab" 0).Exact
      ∧ (Scene.after "" lastProposer [⟨"relay", "", none⟩] () lastIncidents).follower.isCrashed
          = false
      ∧ (∃ slot, Slot.last.later? 1 = some slot ∧ Word.add? slot.startMs requestDelayMs = none)
      ∧ (Poller.run [1606824026000] .starting).2 ≠ .crashed := by
  obtain ⟨hbids, hfollower, hheads, -, hpoller⟩ :=
    bids_in_range "" lastProposer [⟨"relay", "", none⟩] ()
  have hslots : (forward "top" 0 none [.binary lastFrame]).bids.map
      (fun bid => (bid.slot, bid.sinceSlotStart?)) = [(Slot.last, some 8807)] := by decide +kernel
  have hmade : (Scene.after "" lastProposer [⟨"relay", "", none⟩] () lastIncidents).made
      = [(lastRequest, 9223372036854768000)] := by decide +kernel
  have hoffered : (Delivery.ofHeader lastRequest.relay.hostname lastRequest.schedule.slot
      lastRequest.schedule.proposer ⟨[]⟩ 0 (lastRequest.relay.readHeader lastRequest.schedule.slot
        lastRequest.schedule.parentHash lastRequest.schedule.proposer lastReply)).batch
      = [Bid.ofOffer lastOffer Slot.last "relay" "0xab" 0] := by decide +kernel
  have hhead : readHead "[\"768614202502562\",\"r\"]" = .ok ⟨Slot.last, "r"⟩ := by decide +kernel
  have hshown : ∀ now ∈ [(1606824026000 : Int64)], Shown now := by
    intro now hnow
    rw [List.mem_singleton.mp hnow]
    exact ⟨⟨1606824026, 0, by decide, by decide, by decide⟩, by decide⟩
  refine ⟨?_, ?_, (hfollower lastIncidents).1, ?_, hpoller _ hshown⟩
  · obtain ⟨bid, hbid, hslot⟩ := List.exists_of_mem_map (hslots ▸ List.mem_singleton_self _)
    obtain ⟨hslot, hsince⟩ := Prod.mk.inj hslot
    exact ⟨bid, hbid, hbids bid (.announced hbid), hslot, hsince⟩
  · have hrequested := hmade ▸ List.mem_singleton_self (lastRequest, (9223372036854768000 : Int64))
    exact hbids _ (.offered hrequested (hoffered ▸ List.mem_singleton_self _))
  · obtain ⟨⟨slot, hslot, hnumber⟩, -⟩ := hheads _ _ hhead
    have hlast : Slot.last.number.toInt = 768614202502562 := by decide
    dsimp only at hnumber
    refine ⟨slot, hslot, (add?_requestDelay_eq_none_iff (by omega)).mpr ?_⟩
    rw [Slot.lt_iff]
    omega

end Feed

end BidArchive
