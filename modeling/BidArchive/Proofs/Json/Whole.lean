import BidArchive.Proofs.Json.Records

/-!
# Texts that are read to their end

The events of a text never leave the reading in doubt: the innermost array or object is open for
what may come next, and those around it wait for it to be a value of theirs (`Agrees`). Each byte
moves the text on in one of few ways (`Moves`, `scan_cons`), and the reading follows
(`Agrees.step`).

So where a text is complete nothing is left open, and no value in it was cut off or went astray
(`whole_of_complete`). A decoder then has the whole value before it, and what it reads from it is
what it reads from the text (`whole_and_decodeBytes_of_read`).
-/

namespace BidArchive.Json

/-! ## Whole values -/

theorem wholeItems_iff {items : List Node} :
    wholeItems items = true ↔ ∀ item ∈ items, item.whole = true := by
  induction items with
  | nil => simp [wholeItems]
  | cons item rest ih => simp [wholeItems, ih]

theorem wholeMembers_iff {members : List (Option String × Node)} :
    wholeMembers members = true ↔ ∀ member ∈ members, member.2.whole = true := by
  induction members with
  | nil => simp [wholeMembers]
  | cons member rest ih => simp [wholeMembers, ih]

theorem whole_array_iff {items : List Node} {cut : Bool} :
    (Node.array items cut).whole = true ↔ cut = false ∧ ∀ item ∈ items, item.whole = true := by
  simp [Node.whole, wholeItems_iff]

theorem whole_object_iff {members : List (Option String × Node)} {cut : Bool} :
    (Node.object members cut).whole = true
      ↔ cut = false ∧ ∀ member ∈ members, member.2.whole = true := by
  simp [Node.whole, wholeMembers_iff]

/-! ## How a text goes on -/

/-- Between two places of a text: what is announced there, and how what may come next and what is
open change with it. -/
inductive Moves : Expect → List Frame → List Event → Expect → List Frame → Prop
  | stay (expect : Expect) (frames : List Frame) : Moves expect frames [] expect frames
  | item (outer : List Frame) : Moves .next (.array :: outer) [] .value (.array :: outer)
  | member (outer : List Frame) : Moves .next (.object :: outer) [] .key (.object :: outer)
  | colon (frames : List Frame) : Moves .colon frames [] .value frames
  | key {expect : Expect} (frames : List Frame) (name : Option String)
    (h : expect = .firstKey ∨ expect = .key) : Moves expect frames [.key name] .colon frames
  | null {expect : Expect} (frames : List Frame)
    (h : expect = .firstItem ∨ expect = .value) : Moves expect frames [.null] .next frames
  | bool {expect : Expect} (frames : List Frame) (b : Bool)
    (h : expect = .firstItem ∨ expect = .value) : Moves expect frames [.bool b] .next frames
  | number {expect : Expect} (frames : List Frame) (n : Option Number)
    (h : expect = .firstItem ∨ expect = .value) : Moves expect frames [.number n] .next frames
  | text {expect : Expect} (frames : List Frame) (s : Option String)
    (h : expect = .firstItem ∨ expect = .value) : Moves expect frames [.text s] .next frames
  | openArray {expect : Expect} (frames : List Frame)
    (h : expect = .firstItem ∨ expect = .value) :
    Moves expect frames [.arrayStart] .firstItem (.array :: frames)
  | openObject {expect : Expect} (frames : List Frame)
    (h : expect = .firstItem ∨ expect = .value) :
    Moves expect frames [.objectStart] .firstKey (.object :: frames)
  | closeArray (outer : List Frame) : Moves .next (.array :: outer) [.arrayEnd] .next outer
  | closeObject (outer : List Frame) : Moves .next (.object :: outer) [.objectEnd] .next outer
  | emptyArray {expect : Expect} (frames : List Frame) (h : expect = .firstItem) :
    Moves expect frames [.arrayEnd] .next frames.tail
  | emptyObject {expect : Expect} (frames : List Frame) (h : expect = .firstKey) :
    Moves expect frames [.objectEnd] .next frames.tail

/-- The text moves on over no more than the rest of the bytes, or it stops being JSON. -/
def GoesOn (expect : Expect) (frames : List Frame) (rest : List UInt8) (found : List Event) :
    Prop :=
  found = [.stray] ∨ ∃ events expect' frames' tail, Moves expect frames events expect' frames'
    ∧ tail.length ≤ rest.length ∧ found = events ++ scan expect' frames' tail

theorem GoesOn.stray (expect : Expect) (frames : List Frame) (rest : List UInt8) :
    GoesOn expect frames rest [.stray] := Or.inl rfl

theorem Moves.goesOn {expect expect' : Expect} {frames frames' : List Frame} {events : List Event}
    (h : Moves expect frames events expect' frames') {tail rest : List UInt8}
    (hlen : tail.length ≤ rest.length) :
    GoesOn expect frames rest (events ++ scan expect' frames' tail) :=
  Or.inr ⟨events, expect', frames', tail, h, hlen, rfl⟩

/-- What is looked at in a byte decides between two ways on. -/
theorem GoesOn.ite {expect : Expect} {frames : List Frame} {rest : List UInt8} {p : Prop}
    [Decidable p] {found other : List Event} (hp : p → GoesOn expect frames rest found)
    (hn : ¬ p → GoesOn expect frames rest other) :
    GoesOn expect frames rest (if p then found else other) := by
  by_cases h : p
  · rw [if_pos h]
    exact hp h
  · rw [if_neg h]
    exact hn h

/-- Where a value may stand. -/
theorem goesOn_value {expect : Expect} (h : expect = .firstItem ∨ expect = .value)
    (frames : List Frame) (b : UInt8) (rest : List UInt8) :
    GoesOn expect frames rest (scan expect frames (b :: rest)) := by
  have hplace := h
  have hstray := GoesOn.stray expect frames rest
  rcases h with rfl | rfl
  -- the first byte of a value tells which kind it is of
  all_goals
    rw [scan]
    refine GoesOn.ite (fun _ => (Moves.stay _ _).goesOn (Nat.le_refl _)) fun _ => ?_
    refine GoesOn.ite (fun _ => ?_) fun _ => ?_
    · split
      · rename_i hread
        exact (Moves.text frames _ hplace).goesOn (Nat.le_of_lt (length_readText_lt hread))
      · exact hstray
    refine GoesOn.ite (fun _ => (Moves.openObject frames hplace).goesOn (Nat.le_refl _)) fun _ => ?_
    refine GoesOn.ite (fun _ => (Moves.openArray frames hplace).goesOn (Nat.le_refl _)) fun _ => ?_
    refine GoesOn.ite (fun hend => ?_) fun _ => ?_
    · exact (Moves.emptyArray frames hend.2).goesOn (Nat.le_refl _)
    refine GoesOn.ite (fun _ => ?_) fun _ => ?_
    · split
      · rename_i hread
        exact (Moves.number frames _ hplace).goesOn (Nat.le_of_lt (length_readNumber_lt hread))
      · exact hstray
    refine GoesOn.ite (fun _ => ?_) fun _ => ?_
    · split
      · rename_i hread
        exact (Moves.number frames _ hplace).goesOn (Nat.le_of_lt_succ (length_readNumber_lt hread))
      · exact hstray
    refine GoesOn.ite (fun _ => ?_) fun _ => ?_
    · split
      · rename_i hword
        exact (Moves.null frames hplace).goesOn (length_dropWord_le hword)
      · exact hstray
    refine GoesOn.ite (fun _ => ?_) fun _ => ?_
    · split
      · rename_i hword
        exact (Moves.bool frames true hplace).goesOn (length_dropWord_le hword)
      · exact hstray
    refine GoesOn.ite (fun _ => ?_) fun _ => hstray
    split
    · rename_i hword
      exact (Moves.bool frames false hplace).goesOn (length_dropWord_le hword)
    · exact hstray

/-- Where a key may stand. -/
theorem goesOn_key {expect : Expect} (h : expect = .firstKey ∨ expect = .key)
    (frames : List Frame) (b : UInt8) (rest : List UInt8) :
    GoesOn expect frames rest (scan expect frames (b :: rest)) := by
  have hplace := h
  have hstray := GoesOn.stray expect frames rest
  rcases h with rfl | rfl
  all_goals
    rw [scan]
    refine GoesOn.ite (fun _ => (Moves.stay _ _).goesOn (Nat.le_refl _)) fun _ => ?_
    refine GoesOn.ite (fun _ => ?_) fun _ => ?_
    · split
      · rename_i hread
        exact (Moves.key frames _ hplace).goesOn (Nat.le_of_lt (length_readText_lt hread))
      · exact hstray
    refine GoesOn.ite (fun hend => ?_) fun _ => hstray
    exact (Moves.emptyObject frames hend.2).goesOn (Nat.le_refl _)

/-- Behind a complete value. -/
theorem goesOn_next (frames : List Frame) (b : UInt8) (rest : List UInt8) :
    GoesOn .next frames rest (scan .next frames (b :: rest)) := by
  have hstray := GoesOn.stray .next frames rest
  rcases frames with - | ⟨- | -, outer⟩
  all_goals
    rw [scan]
    refine GoesOn.ite (fun _ => (Moves.stay _ _).goesOn (Nat.le_refl _)) fun _ => ?_
  · exact hstray
  · refine GoesOn.ite (fun _ => (Moves.item _).goesOn (Nat.le_refl _)) fun _ => ?_
    exact GoesOn.ite (fun _ => (Moves.closeArray _).goesOn (Nat.le_refl _)) fun _ => hstray
  · refine GoesOn.ite (fun _ => (Moves.member _).goesOn (Nat.le_refl _)) fun _ => ?_
    exact GoesOn.ite (fun _ => (Moves.closeObject _).goesOn (Nat.le_refl _)) fun _ => hstray

/-- **A byte moves the text on**, or the text stops being JSON there. -/
theorem scan_cons (expect : Expect) (frames : List Frame) (b : UInt8) (rest : List UInt8) :
    GoesOn expect frames rest (scan expect frames (b :: rest)) := by
  cases expect with
  | value => exact goesOn_value (Or.inr rfl) frames b rest
  | firstItem => exact goesOn_value (Or.inl rfl) frames b rest
  | firstKey => exact goesOn_key (Or.inl rfl) frames b rest
  | key => exact goesOn_key (Or.inr rfl) frames b rest
  | next => exact goesOn_next frames b rest
  | colon =>
      rw [scan]
      refine GoesOn.ite (fun _ => (Moves.stay _ _).goesOn (Nat.le_refl _)) fun _ => ?_
      exact GoesOn.ite (fun _ => (Moves.colon _).goesOn (Nat.le_refl _)) fun _ =>
        GoesOn.stray _ _ _

/-! ## How the reading follows -/

/-- Whether an array or an object is open. -/
def Open.frame : Open → Frame
  | .array _ => .array
  | .object _ _ => .object

/-- A value may be put here: an item, or the value of a member that has its name. -/
def Open.awaits : Open → Bool
  | .array _ => true
  | .object _ name => name.isSome

/-- No member waits for its value. -/
def Open.settled : Open → Bool
  | .array _ => true
  | .object _ name => name.isNone

/-- All that was put here could be read to its end. -/
def Open.whole : Open → Bool
  | .array items => wholeItems items
  | .object members _ => wholeMembers members

theorem Open.whole_put {frame : Open} {node : Node} (h : frame.whole = true)
    (hn : node.whole = true) : (frame.put node).whole = true := by
  cases frame with
  | array items => exact Bool.and_eq_true_iff.mpr ⟨hn, h⟩
  | object members name =>
      cases name with
      | none => exact Bool.and_eq_true_iff.mpr ⟨hn, h⟩
      | some name => exact Bool.and_eq_true_iff.mpr ⟨hn, h⟩

theorem Open.frame_put (frame : Open) (node : Node) : (frame.put node).frame = frame.frame := by
  cases frame with
  | array items => rfl
  | object members name => cases name <;> rfl

theorem Open.settled_put (frame : Open) (node : Node) : (frame.put node).settled = true := by
  cases frame with
  | array items => rfl
  | object members name => cases name <;> rfl

/-- What is closed while no member waits is whole. -/
theorem Open.whole_close {frame : Open} (h : frame.whole = true) (hs : frame.settled = true) :
    (frame.close false).whole = true := by
  cases frame with
  | array items =>
      refine whole_array_iff.mpr ⟨rfl, fun item hitem => ?_⟩
      exact wholeItems_iff.mp h item (List.mem_reverse.mp hitem)
  | object members name =>
      obtain rfl := Option.isNone_iff_eq_none.mp hs
      refine whole_object_iff.mpr ⟨rfl, fun member hmember => ?_⟩
      exact wholeMembers_iff.mp h member (List.mem_reverse.mp hmember)

/-- The innermost of what is open suits what may come next. -/
def Expect.Suits : Expect → Reading → Prop
  | .value, reading => ∀ frame ∈ reading.frames.head?, frame.awaits = true
  | .firstItem, reading => ∃ frame ∈ reading.frames.head?, frame.frame = .array
  | .firstKey, reading | .key, reading =>
    ∃ frame ∈ reading.frames.head?, frame.frame = .object ∧ frame.settled = true
  | .colon, reading => ∃ frame ∈ reading.frames.head?, frame.frame = .object ∧ frame.awaits = true
  | .next, reading => (∀ frame ∈ reading.frames.head?, frame.settled = true)
    ∧ (reading.frames = [] → ∃ node, reading.root = some node ∧ node.whole = true)

/-- A reading is at a place of a text: the same is open, all of it whole so far, the innermost suits
what may come next, and each of the others waits for the one within it. -/
structure Agrees (expect : Expect) (frames : List Frame) (reading : Reading) : Prop where
  frames : reading.frames.map Open.frame = frames
  whole : ∀ frame ∈ reading.frames, frame.whole = true
  outer : ∀ frame ∈ reading.frames.tail, frame.awaits = true
  inner : expect.Suits reading

theorem agrees_start : Agrees .value [] Reading.start where
  frames := rfl
  whole := fun _ h => absurd h List.not_mem_nil
  outer := fun _ h => absurd h List.not_mem_nil
  inner := fun _ h => absurd h (by simp [Reading.start])

theorem Open.awaits_of_array {frame : Open} (h : frame.frame = .array) : frame.awaits = true := by
  cases frame with
  | array items => rfl
  | object members name => exact absurd h (by simp [Open.frame])

theorem Open.settled_of_array {frame : Open} (h : frame.frame = .array) : frame.settled = true := by
  cases frame with
  | array items => rfl
  | object members name => exact absurd h (by simp [Open.frame])

variable {expect expect' : Expect} {frames frames' : List Frame} {reading : Reading} {node : Node}

/-- What is open innermost. -/
theorem Agrees.exists_head {frame : Frame} {outer : List Frame}
    (h : Agrees expect (frame :: outer) reading) :
    ∃ head ∈ reading.frames.head?, head.frame = frame := by
  obtain ⟨head, rest, hframes, hhead, -⟩ := List.map_eq_cons_iff.mp h.frames
  exact ⟨head, by rw [hframes]; rfl, hhead⟩

/-- Where a value may stand, all that is open waits for it. -/
theorem Agrees.awaits (h : Agrees expect frames reading)
    (hplace : expect = .firstItem ∨ expect = .value) :
    ∀ frame ∈ reading.frames, frame.awaits = true := by
  have hhead : ∀ frame ∈ reading.frames.head?, frame.awaits = true := by
    rcases hplace with rfl | rfl
    · obtain ⟨head, hmem, harray⟩ := h.inner
      intro frame hframe
      obtain rfl := Option.mem_unique hframe hmem
      exact Open.awaits_of_array harray
    · exact h.inner
  intro frame hframe
  have houter := h.outer
  cases hopen : reading.frames with
  | nil =>
      rw [hopen] at hframe
      exact absurd hframe List.not_mem_nil
  | cons head rest =>
      rw [hopen] at hframe hhead houter
      rcases List.mem_cons.mp hframe with rfl | hrest
      · exact hhead _ rfl
      · exact houter frame hrest

/-- A whole value completes what waits for it. -/
theorem Agrees.put (h : Agrees expect frames reading) (hn : node.whole = true) :
    Agrees .next frames (reading.put node) := by
  obtain ⟨opened, root⟩ := reading
  cases opened with
  | nil =>
      exact {
        frames := h.frames
        whole := h.whole
        outer := h.outer
        inner := ⟨fun _ hmem => absurd hmem (by simp [Reading.put]), fun _ => ⟨node, rfl, hn⟩⟩ }
  | cons head rest =>
      obtain ⟨hhead, hrest⟩ := List.forall_mem_cons.mp h.whole
      exact {
        frames := by
          rw [← h.frames]
          exact congrArg (· :: rest.map Open.frame) (Open.frame_put head node)
        whole := List.forall_mem_cons.mpr ⟨Open.whole_put hhead hn, hrest⟩
        outer := h.outer
        inner := by
          refine ⟨fun frame hmem => ?_, fun hnil => absurd hnil (by simp [Reading.put])⟩
          obtain rfl := Option.some.inj hmem
          exact Open.settled_put head node }

/-- What is closed becomes a whole value of what is around it. -/
theorem Agrees.close (h : Agrees expect frames reading)
    (hs : ∃ frame ∈ reading.frames.head?, frame.settled = true) :
    Agrees .next frames.tail reading.close := by
  obtain ⟨opened, root⟩ := reading
  obtain ⟨head, hmem, hsettled⟩ := hs
  cases opened with
  | nil => exact absurd hmem (by simp)
  | cons first rest =>
      obtain rfl := Option.some.inj hmem
      obtain ⟨hfirst, hrest⟩ := List.forall_mem_cons.mp h.whole
      -- what is around it waits for a value, and now gets one
      have haround : Agrees .value frames.tail ⟨rest, root⟩ := {
        frames := by rw [← h.frames]; rfl
        whole := hrest
        outer := fun frame hframe => h.outer frame (List.mem_of_mem_tail hframe)
        inner := fun frame hframe => h.outer frame (List.mem_of_mem_head? hframe) }
      exact haround.put (Open.whole_close hfirst hsettled)

/-- What is opened waits for nothing yet. -/
theorem Agrees.open (h : Agrees expect frames reading)
    (hplace : expect = .firstItem ∨ expect = .value) {opened : Open} (hw : opened.whole = true)
    {expect' : Expect} (hi : expect'.Suits ⟨opened :: reading.frames, reading.root⟩) :
    Agrees expect' (opened.frame :: frames) ⟨opened :: reading.frames, reading.root⟩ where
  frames := congrArg (opened.frame :: ·) h.frames
  whole := List.forall_mem_cons.mpr ⟨hw, h.whole⟩
  outer := h.awaits hplace
  inner := hi

/-- The name of a member waits for its value. -/
theorem Agrees.key (h : Agrees expect frames reading)
    (hplace : expect = .firstKey ∨ expect = .key) (name : Option String) :
    Agrees .colon frames (reading.key name) := by
  have hinner : ∃ frame ∈ reading.frames.head?, frame.frame = .object ∧ frame.settled = true := by
    rcases hplace with rfl | rfl
    · exact h.inner
    · exact h.inner
  obtain ⟨opened, root⟩ := reading
  obtain ⟨head, hmem, hobject, -⟩ := hinner
  cases opened with
  | nil => exact absurd hmem (by simp)
  | cons first rest =>
      obtain rfl := Option.some.inj hmem
      cases first with
      | array items => exact absurd hobject (by simp [Open.frame])
      | object members waiting =>
          obtain ⟨hfirst, hrest⟩ := List.forall_mem_cons.mp h.whole
          exact {
            frames := h.frames
            whole := List.forall_mem_cons.mpr ⟨hfirst, hrest⟩
            outer := h.outer
            inner := ⟨_, rfl, rfl, rfl⟩ }

/-- **The reading follows the text.** -/
theorem Agrees.step {events : List Event} (hm : Moves expect frames events expect' frames')
    (h : Agrees expect frames reading) :
    ∃ reading', Agrees expect' frames' reading'
      ∧ ∀ rest, reading.finish (events ++ rest) = reading'.finish rest := by
  cases hm with
  | stay => exact ⟨reading, h, fun _ => rfl⟩
  | item outer =>
      refine ⟨reading, ⟨h.frames, h.whole, h.outer, ?_⟩, fun _ => rfl⟩
      obtain ⟨head, hmem, harray⟩ := h.exists_head
      intro frame hframe
      obtain rfl := Option.mem_unique hframe hmem
      exact Open.awaits_of_array harray
  | member outer =>
      refine ⟨reading, ⟨h.frames, h.whole, h.outer, ?_⟩, fun _ => rfl⟩
      obtain ⟨head, hmem, hobject⟩ := h.exists_head
      exact ⟨head, hmem, hobject, h.inner.1 head hmem⟩
  | colon =>
      refine ⟨reading, ⟨h.frames, h.whole, h.outer, ?_⟩, fun _ => rfl⟩
      obtain ⟨head, hmem, -, hawaits⟩ := h.inner
      intro frame hframe
      obtain rfl := Option.mem_unique hframe hmem
      exact hawaits
  | key _ name hplace => exact ⟨reading.key name, h.key hplace name, fun _ => rfl⟩
  | null _ hplace => exact ⟨reading.put .null, h.put rfl, fun _ => rfl⟩
  | bool _ b hplace => exact ⟨reading.put (.bool b), h.put rfl, fun _ => rfl⟩
  | number _ n hplace => exact ⟨reading.put (.number n), h.put rfl, fun _ => rfl⟩
  | text _ s hplace => exact ⟨reading.put (.text s), h.put rfl, fun _ => rfl⟩
  | openArray _ hplace =>
      refine ⟨⟨.array [] :: reading.frames, reading.root⟩, ?_, fun _ => rfl⟩
      exact h.open hplace (show (Open.array []).whole = true from rfl) ⟨_, rfl, rfl⟩
  | openObject _ hplace =>
      refine ⟨⟨.object [] none :: reading.frames, reading.root⟩, ?_, fun _ => rfl⟩
      exact h.open hplace (show (Open.object [] none).whole = true from rfl) ⟨_, rfl, rfl, rfl⟩
  | closeArray outer =>
      obtain ⟨head, hmem, -⟩ := h.exists_head
      exact ⟨reading.close, h.close ⟨head, hmem, h.inner.1 head hmem⟩, fun _ => rfl⟩
  | closeObject outer =>
      obtain ⟨head, hmem, -⟩ := h.exists_head
      exact ⟨reading.close, h.close ⟨head, hmem, h.inner.1 head hmem⟩, fun _ => rfl⟩
  | emptyArray _ hplace =>
      subst hplace
      obtain ⟨head, hmem, harray⟩ := h.inner
      exact ⟨reading.close, h.close ⟨head, hmem, Open.settled_of_array harray⟩, fun _ => rfl⟩
  | emptyObject _ hplace =>
      subst hplace
      obtain ⟨head, hmem, -, hsettled⟩ := h.inner
      exact ⟨reading.close, h.close ⟨head, hmem, hsettled⟩, fun _ => rfl⟩

/-! ## Complete texts -/

theorem complete_cut (reading : Reading) : reading.cut.complete = false := by
  unfold Reading.cut
  split
  · rfl
  · rfl

/-- A reading that agrees with the place in its text ends with a whole value, if it comes to the
end. -/
theorem Agrees.whole_of_complete {bytes : List UInt8} (h : Agrees expect frames reading)
    (hc : (reading.finish (scan expect frames bytes)).complete = true) :
    (reading.finish (scan expect frames bytes)).root.whole = true := by
  -- on how much of the text is left, since a move may take many bytes at once
  induction hlen : bytes.length using Nat.strongRecOn
    generalizing expect frames reading bytes with
  | ind length ih =>
      cases bytes with
      | nil =>
          -- the text may end only where nothing is open, and there the root is whole
          rw [scan] at hc ⊢
          split at hc
          · rename_i hend
            obtain ⟨rfl, rfl⟩ := hend
            obtain ⟨node, hroot, hwhole⟩ := h.inner.2 (List.map_eq_nil_iff.mp h.frames)
            show (reading.root.getD .stray).whole = true
            rw [hroot]
            exact hwhole
          · exact absurd hc (by simp [Reading.finish, complete_cut])
      | cons b rest =>
          rcases scan_cons expect frames b rest with
            hstray | ⟨events, expect', frames', tail, hm, htail, hscan⟩
          · rw [hstray] at hc
            exact absurd hc (by simp [Reading.finish, complete_cut])
          · obtain ⟨reading', h', hfinish⟩ := h.step hm
            rw [hscan, hfinish] at hc ⊢
            refine ih tail.length ?_ h' hc rfl
            rw [← hlen]
            exact Nat.lt_succ_of_le htail

/-- **A text that is complete is whole.** -/
theorem whole_of_complete {bytes : List UInt8} (h : (read bytes).complete = true) :
    (read bytes).root.whole = true :=
  agrees_start.whole_of_complete h

/-- A complete text stands for a whole value, and is decoded as it. -/
theorem whole_and_decodeBytes_of_read {α : Type} {decoder : Decoder α} {bytes : List UInt8}
    (h : read bytes = ⟨node, true⟩) :
    node.whole = true ∧ decodeBytes decoder bytes = decoder node := by
  constructor
  · have hwhole : (read bytes).root.whole = true := whole_of_complete (by rw [h])
    rwa [h] at hwhole
  · unfold decodeBytes
    rw [h]
    show (decoder node >>= fun a => if true = true then .ok a else .error .malformed) = _
    cases decoder node with
    | error fault => rfl
    | ok a => rfl

end BidArchive.Json
