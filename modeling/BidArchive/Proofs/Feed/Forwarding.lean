import BidArchive.Feed.Forward

/-!
# What is handed on from a connection

A connection is a list of items, and much of what may come in over it means nothing: texts, signs
of life and frames that cannot be read. What counts are the bids that the other frames announce up
to the first item that ends the connection (`announced`), and that item (`endOf`).

One item does one of three things: it ends the connection, says nothing, or announces a bid, which
is taken or not (`forwardTimed_of_ends`, `forwardTimed_of_silent`, `forwardTimed_of_bid?`,
`forwardTimed_of_gone`). By induction over the items, what is handed on are the announced bids one
by one, as long as somebody takes them (`forwardTimed_eq`).
-/

namespace BidArchive.Feed

/-! ## What an item says -/

namespace Item

/-- A frame that closes the connection ends it, and so does a failure to read. -/
def ends : Item → Bool
  | .close | .failure _ => true
  | .binary _ | .text _ | .ping | .pong => false

/-- The bid that an item announces, if it is a frame that can be read. -/
def bid? (relay : String) (readAtMs : Int64) : Item → Option Bid
  | .binary bytes =>
    (TopBid.ofFrame bytes).toOption.map fun top => Bid.ofTopBid top relay readAtMs
  | _ => none

end Item

/-- The bids that are announced before a connection ends, in their order. -/
def announced (relay : String) (items : List (Int64 × Item)) : List Bid :=
  (items.takeWhile fun entry => !entry.2.ends).filterMap fun entry => entry.2.bid? relay entry.1

/-- How a connection ends as long as somebody takes its batches. -/
def endOf (items : List (Int64 × Item)) : StreamEnd :=
  match items.find? fun entry => entry.2.ends with
  | some (_, .failure cause) => .failed cause
  | _ => .closed

section Steps

variable {relay : String} {readAtMs : Int64} {item : Item} {rest : List (Int64 × Item)}
  {capacity : Option Nat} {bid : Bid}

theorem Item.bid?_eq_some_iff : item.bid? relay readAtMs = some bid
    ↔ ∃ bytes top, item = .binary bytes ∧ TopBid.ofFrame bytes = .ok top
      ∧ Bid.ofTopBid top relay readAtMs = bid := by
  cases item with
  | binary bytes =>
      cases hframe : TopBid.ofFrame bytes <;>
        simp [Item.bid?, hframe, Except.toOption]
  | _ => simp [Item.bid?]

theorem Item.ends_of_bid? (h : item.bid? relay readAtMs = some bid) : item.ends = false := by
  obtain ⟨bytes, top, rfl, -⟩ := Item.bid?_eq_some_iff.mp h
  rfl

/-! ## One item -/

theorem announced_of_ends (h : item.ends = true) :
    announced relay ((readAtMs, item) :: rest) = [] := by
  simp [announced, h]

theorem announced_of_silent (hends : item.ends = false) (h : item.bid? relay readAtMs = none) :
    announced relay ((readAtMs, item) :: rest) = announced relay rest := by
  simp [announced, hends, h]

theorem announced_of_bid? (h : item.bid? relay readAtMs = some bid) :
    announced relay ((readAtMs, item) :: rest) = bid :: announced relay rest := by
  simp [announced, Item.ends_of_bid? h, h]

theorem endOf_of_not_ends (h : item.ends = false) :
    endOf ((readAtMs, item) :: rest) = endOf rest := by
  simp [endOf, h]

/-- **An item that ends the connection** ends it, whatever follows. -/
theorem forwardTimed_of_ends (h : item.ends = true) :
    (forwardTimed relay capacity ((readAtMs, item) :: rest)).batches = []
      ∧ (forwardTimed relay capacity ((readAtMs, item) :: rest)).outcome
        = endOf ((readAtMs, item) :: rest) := by
  cases item with
  | close | failure => exact ⟨rfl, rfl⟩
  | binary | text | ping | pong => exact absurd h Bool.false_ne_true

/-- **An item that says nothing** is passed over. -/
theorem forwardTimed_of_silent (rest : List (Int64 × Item)) (capacity : Option Nat)
    (hends : item.ends = false) (h : item.bid? relay readAtMs = none) :
    (forwardTimed relay capacity ((readAtMs, item) :: rest)).batches
        = (forwardTimed relay capacity rest).batches
      ∧ (forwardTimed relay capacity ((readAtMs, item) :: rest)).outcome
        = (forwardTimed relay capacity rest).outcome := by
  cases item with
  | close | failure => exact absurd hends.symm Bool.false_ne_true
  | text | ping | pong => exact ⟨rfl, rfl⟩
  | binary bytes =>
      cases hframe : TopBid.ofFrame bytes with
      | ok top => simp [Item.bid?, hframe, Except.toOption] at h
      | error fault =>
          rw [forwardTimed, hframe]
          exact ⟨rfl, rfl⟩

/-- **A bid that is taken** makes a batch of its own in front of the others. -/
theorem forwardTimed_of_bid? (rest : List (Int64 × Item))
    (h : item.bid? relay readAtMs = some bid) (hroom : capacity ≠ some 0) :
    (forwardTimed relay capacity ((readAtMs, item) :: rest)).batches
        = [bid] :: (forwardTimed relay (capacity.map (· - 1)) rest).batches
      ∧ (forwardTimed relay capacity ((readAtMs, item) :: rest)).outcome
        = (forwardTimed relay (capacity.map (· - 1)) rest).outcome := by
  obtain ⟨bytes, top, rfl, hframe, rfl⟩ := Item.bid?_eq_some_iff.mp h
  rw [forwardTimed, hframe]
  dsimp only
  split
  · exact absurd rfl hroom
  · exact ⟨rfl, rfl⟩

/-- **A bid that nobody takes** stops everything. -/
theorem forwardTimed_of_gone (h : item.bid? relay readAtMs = some bid) :
    (forwardTimed relay (some 0) ((readAtMs, item) :: rest)).batches = []
      ∧ (forwardTimed relay (some 0) ((readAtMs, item) :: rest)).outcome = .stopped := by
  obtain ⟨bytes, top, rfl, hframe, rfl⟩ := Item.bid?_eq_some_iff.mp h
  rw [forwardTimed, hframe]
  exact ⟨rfl, rfl⟩

/-- There is no fourth kind of item. -/
theorem Item.says (relay : String) (readAtMs : Int64) (item : Item) :
    item.ends = true ∨ (item.ends = false ∧ item.bid? relay readAtMs = none)
      ∨ ∃ bid, item.bid? relay readAtMs = some bid := by
  cases hends : item.ends with
  | true => exact .inl rfl
  | false =>
      cases hbid : item.bid? relay readAtMs with
      | none => exact .inr (.inl ⟨rfl, rfl⟩)
      | some bid => exact .inr (.inr ⟨bid, rfl⟩)

end Steps

/-! ## The whole connection -/

/-- As many of the bids as there is somebody to take them. -/
def taken : Option Nat → List Bid → List Bid
  | none, bids => bids
  | some count, bids => bids.take count

theorem taken_nil (capacity : Option Nat) : taken capacity [] = [] := by
  cases capacity with
  | none => rfl
  | some count => exact List.take_nil

theorem taken_cons {capacity : Option Nat} (hroom : capacity ≠ some 0) (bid : Bid)
    (bids : List Bid) :
    taken capacity (bid :: bids) = bid :: taken (capacity.map (· - 1)) bids := by
  cases capacity with
  | none => rfl
  | some count =>
      cases count with
      | zero => exact absurd rfl hroom
      | succ count => rfl

/-- **What a connection comes to**: the announced bids one by one, as many as are taken, and its own
end if all of them are. -/
theorem forwardTimed_eq (relay : String) (capacity : Option Nat) (items : List (Int64 × Item)) :
    (forwardTimed relay capacity items).batches
        = (taken capacity (announced relay items)).map (fun bid => [bid])
      ∧ (forwardTimed relay capacity items).outcome
        = if taken capacity (announced relay items) = announced relay items then endOf items
          else .stopped := by
  -- for every capacity at once, as a bid that is taken leaves less of it for the rest
  induction items generalizing capacity with
  | nil =>
      have hnone : announced relay [] = [] := rfl
      rw [hnone, taken_nil]
      exact ⟨rfl, rfl⟩
  | cons entry rest ih =>
      obtain ⟨readAtMs, item⟩ := entry
      obtain hends | ⟨hends, hsilent⟩ | ⟨bid, hbid⟩ := item.says relay readAtMs
      · rw [announced_of_ends hends, taken_nil, if_pos rfl]
        exact forwardTimed_of_ends hends
      · obtain ⟨hbatches, houtcome⟩ :=
          forwardTimed_of_silent rest capacity hends hsilent
        rw [announced_of_silent hends hsilent, endOf_of_not_ends hends, hbatches, houtcome]
        exact ih capacity
      · rw [announced_of_bid? hbid, endOf_of_not_ends (Item.ends_of_bid? hbid)]
        by_cases hroom : capacity = some 0
        · subst hroom
          have hleft : taken (some 0) (bid :: announced relay rest) = [] := rfl
          rw [hleft, if_neg (List.cons_ne_nil _ _).symm]
          exact forwardTimed_of_gone hbid
        · obtain ⟨hbatches, houtcome⟩ := forwardTimed_of_bid? rest hbid hroom
          obtain ⟨hmore, hend⟩ := ih (capacity.map (· - 1))
          rw [taken_cons hroom, hbatches, houtcome, hmore, hend]
          simp only [List.map_cons, List.cons.injEq, true_and, and_self]

/-- Every bid that is handed on was announced by a frame of the connection. -/
theorem exists_frame_of_mem_bids {relay : String} {capacity : Option Nat}
    {items : List (Int64 × Item)} {bid : Bid} (h : bid ∈ (forwardTimed relay capacity items).bids) :
    ∃ readAtMs bytes top, (readAtMs, Item.binary bytes) ∈ items ∧ TopBid.ofFrame bytes = .ok top
      ∧ Bid.ofTopBid top relay readAtMs = bid := by
  obtain ⟨batch, hbatch, hbid⟩ := List.mem_flatten.mp h
  rw [(forwardTimed_eq relay capacity items).1] at hbatch
  obtain ⟨bid', htaken, rfl⟩ := List.mem_map.mp hbatch
  obtain rfl := List.mem_singleton.mp hbid
  have hannounced : bid ∈ announced relay items := by
    cases capacity with
    | none => exact htaken
    | some count => exact List.mem_of_mem_take htaken
  obtain ⟨⟨readAtMs, item⟩, hitem, hsays⟩ := List.mem_filterMap.mp hannounced
  obtain ⟨bytes, top, rfl, hframe, hbid⟩ := Item.bid?_eq_some_iff.mp hsays
  exact ⟨readAtMs, bytes, top, (List.takeWhile_sublist _).mem hitem, hframe, hbid⟩

/-- An item that ends the connection or announces a bid. -/
def tells (relay : String) (entry : Int64 × Item) : Bool :=
  entry.2.ends || (entry.2.bid? relay entry.1).isSome

/-- What says nothing may be left out. -/
theorem announced_filter_tells (relay : String) (items : List (Int64 × Item)) :
    announced relay (items.filter (tells relay)) = announced relay items
      ∧ endOf (items.filter (tells relay)) = endOf items := by
  induction items with
  | nil => exact ⟨rfl, rfl⟩
  | cons entry rest ih =>
      obtain ⟨readAtMs, item⟩ := entry
      obtain ⟨hannounced, hend⟩ := ih
      obtain hends | ⟨hends, hsilent⟩ | ⟨bid, hbid⟩ := item.says relay readAtMs
      · have htells : tells relay (readAtMs, item) = true := by simp [tells, hends]
        rw [List.filter_cons_of_pos htells, announced_of_ends hends, announced_of_ends hends]
        simp [endOf, hends]
      · have htells : ¬ tells relay (readAtMs, item) = true := by simp [tells, hends, hsilent]
        rw [List.filter_cons_of_neg htells, announced_of_silent hends hsilent,
          endOf_of_not_ends hends]
        exact ⟨hannounced, hend⟩
      · have hends := Item.ends_of_bid? hbid
        have htells : tells relay (readAtMs, item) = true := by simp [tells, hbid]
        rw [List.filter_cons_of_pos htells, announced_of_bid? hbid, announced_of_bid? hbid,
          endOf_of_not_ends hends, endOf_of_not_ends hends, hannounced]
        exact ⟨rfl, hend⟩

/--
**What is handed on from a connection**, whatever items come in over it.

As long as somebody takes them, the batches are the bids that are announced before the connection
ends, each one in a batch of its own and in their order, and the connection ends as its items have
it. If there is nobody any more for the bid behind the first `count`, just these have been handed on
and all stops. Items that neither end the connection nor announce a bid change nothing of this.
-/
theorem batches_of_connection (relay : String) (items : List (Int64 × Item)) :
    (∀ capacity : Option Nat,
        (∀ count, capacity = some count → (announced relay items).length ≤ count) →
          (forwardTimed relay capacity items).batches
              = (announced relay items).map (fun bid => [bid])
            ∧ (forwardTimed relay capacity items).outcome = endOf items)
      ∧ (∀ count, count < (announced relay items).length →
          (forwardTimed relay (some count) items).batches
              = ((announced relay items).take count).map (fun bid => [bid])
            ∧ (forwardTimed relay (some count) items).outcome = .stopped)
      ∧ ∀ capacity : Option Nat,
          (forwardTimed relay capacity (items.filter (tells relay))).batches
              = (forwardTimed relay capacity items).batches
            ∧ (forwardTimed relay capacity (items.filter (tells relay))).outcome
              = (forwardTimed relay capacity items).outcome := by
  refine ⟨fun capacity hroom => ?_, fun count hcount => ?_, fun capacity => ?_⟩
  · obtain ⟨hbatches, hend⟩ := forwardTimed_eq relay capacity items
    have hall : taken capacity (announced relay items) = announced relay items := by
      cases capacity with
      | none => rfl
      | some count => exact List.take_of_length_le (hroom count rfl)
    rw [hbatches, hend, hall, if_pos rfl]
    exact ⟨rfl, rfl⟩
  · obtain ⟨hbatches, hend⟩ := forwardTimed_eq relay (some count) items
    have hmissing : taken (some count) (announced relay items) ≠ announced relay items := by
      intro hall
      have hlength := congrArg List.length hall
      rw [taken, List.length_take] at hlength
      omega
    rw [if_neg hmissing] at hend
    exact ⟨hbatches, hend⟩
  · obtain ⟨hbatches, hend⟩ := forwardTimed_eq relay capacity items
    obtain ⟨hbatches', hend'⟩ := forwardTimed_eq relay capacity (items.filter (tells relay))
    obtain ⟨hannounced, hends⟩ := announced_filter_tells relay items
    rw [hannounced] at hbatches' hend'
    rw [hends] at hend'
    exact ⟨hbatches'.trans hbatches.symm, hend'.trans hend.symm⟩

/-- A connection that is broken off between two frames that can be read and a third. -/
def brokenOff : List (Int64 × Item) :=
  [(1, .ping), (2, .binary []), (3, .binary (List.replicate 188 0)), (4, .text "hello"),
    (5, .binary (List.replicate 188 0)), (6, .failure "reset"),
    (7, .binary (List.replicate 188 0))]

/-- The two frames before the break are handed on, and only the first if nobody takes the second. -/
theorem batches_of_broken_connection :
    (forwardTimed "top" (some 2) brokenOff).batches.map (List.map Bid.receivedAtMs) = [[3], [5]]
      ∧ (forwardTimed "top" (some 2) brokenOff).outcome = .failed "reset"
      ∧ (forwardTimed "top" (some 1) brokenOff).batches.map (List.map Bid.receivedAtMs) = [[3]]
      ∧ (forwardTimed "top" (some 1) brokenOff).outcome = .stopped := by
  obtain ⟨htaken, hgone, -⟩ := batches_of_connection "top" brokenOff
  have htimes : (announced "top" brokenOff).map Bid.receivedAtMs = [3, 5] := by decide +kernel
  have hlength : (announced "top" brokenOff).length = 2 := by
    rw [← List.length_map (f := Bid.receivedAtMs), htimes]
    rfl
  obtain ⟨hboth, hend⟩ := htaken (some 2) fun count hcount => by
    rw [← Option.some.inj hcount]
    omega
  obtain ⟨hfirst, hstopped⟩ := hgone 1 (by omega)
  have hbatches : ∀ bids : List Bid, (bids.map fun bid => [bid]).map (List.map Bid.receivedAtMs)
      = (bids.map Bid.receivedAtMs).map fun ms => [ms] := by
    intro bids
    rw [List.map_map, List.map_map]
    rfl
  refine ⟨?_, hend.trans (by decide +kernel), ?_, hstopped⟩
  · rw [hboth, hbatches, htimes]
    rfl
  · rw [hfirst, hbatches, List.map_take, htimes]
    rfl

end BidArchive.Feed
