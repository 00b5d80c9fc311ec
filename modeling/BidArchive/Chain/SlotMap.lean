import BidArchive.Chain.Slot

/-!
# Values by slots

A slot map holds one value for each of some slots, in ascending order of the slots. That order is
part of the map, so that it need not be carried along: what the operations do is said by what is
found for a slot afterwards (`get?_change`, `get?_keepFrom`), whatever the map.
-/

namespace BidArchive.Chain

variable {α : Type}

/-- A list of values by slots, in ascending order of the slots, one for each. -/
def Ascending (entries : List (Slot × α)) : Prop := entries.Pairwise fun e e' => e.1 < e'.1

/-- Changes what a list in ascending order holds for a slot, which may be nothing so far. -/
def changeEntry (slot : Slot) (f : Option α → α) : List (Slot × α) → List (Slot × α)
  | [] => [(slot, f none)]
  | e :: rest =>
    if e.1 = slot then (slot, f (some e.2)) :: rest
    else if slot < e.1 then (slot, f none) :: e :: rest
    else e :: changeEntry slot f rest

/-- What a list holds for a slot. -/
def held? (slot : Slot) (entries : List (Slot × α)) : Option α :=
  (entries.find? (·.1 = slot)).map (·.2)

variable {slot s oldest : Slot} {f : Option α → α} {entries : List (Slot × α)} {e : Slot × α}

theorem held?_cons : held? s (e :: entries) = if e.1 = s then some e.2 else held? s entries := by
  unfold held?
  by_cases h : e.1 = s <;> simp [h]

theorem held?_eq_none (h : ∀ e ∈ entries, e.1 ≠ s) : held? s entries = none := by
  unfold held?
  rw [List.find?_eq_none.mpr fun e he => by simp [h e he]]
  rfl

theorem mem_changeEntry (h : e ∈ changeEntry slot f entries) : e.1 = slot ∨ e ∈ entries := by
  induction entries with
  | nil => exact .inl (by rw [List.mem_singleton.mp h])
  | cons first rest ih =>
      rw [changeEntry] at h
      split at h
      · rcases List.mem_cons.mp h with rfl | h
        · exact .inl rfl
        · exact .inr (List.mem_cons_of_mem _ h)
      · split at h
        · rcases List.mem_cons.mp h with rfl | h
          · exact .inl rfl
          · exact .inr h
        · rcases List.mem_cons.mp h with rfl | h
          · exact .inr List.mem_cons_self
          · exact (ih h).imp_right (List.mem_cons_of_mem _)

theorem Slot.lt_of_not_lt {a b : Slot} (hne : a ≠ b) (h : ¬ b < a) : a < b := by
  rw [ne_eq, Slot.eq_iff] at hne
  rw [Slot.lt_iff] at *
  omega

theorem Ascending.changeEntry (h : Ascending entries) (slot : Slot) (f : Option α → α) :
    Ascending (changeEntry slot f entries) := by
  induction entries with
  | nil => exact List.pairwise_singleton _ _
  | cons e rest ih =>
      obtain ⟨he, hrest⟩ := List.pairwise_cons.mp h
      rw [Chain.changeEntry]
      split
      · rename_i heq
        exact List.pairwise_cons.mpr ⟨fun x hx => heq ▸ he x hx, hrest⟩
      · rename_i hne
        split
        · rename_i hlt
          refine List.pairwise_cons.mpr ⟨fun x hx => ?_, h⟩
          rcases List.mem_cons.mp hx with rfl | hx
          · exact hlt
          · exact Int.lt_trans hlt (he x hx)
        · rename_i hle
          refine List.pairwise_cons.mpr ⟨fun x hx => ?_, ih hrest⟩
          rcases mem_changeEntry hx with hx | hx
          · rw [hx]
            exact Slot.lt_of_not_lt hne hle
          · exact he x hx

/-- **One slot is changed**, and what is found for the others is left. -/
theorem Ascending.held?_changeEntry (h : Ascending entries) :
    held? s (Chain.changeEntry slot f entries)
      = if s = slot then some (f (held? slot entries)) else held? s entries := by
  induction entries with
  | nil =>
      rw [Chain.changeEntry, held?_cons]
      by_cases hs : s = slot
      · rw [if_pos hs, if_pos hs.symm]
        rfl
      · rw [if_neg hs, if_neg fun h => hs h.symm]
  | cons e rest ih =>
      obtain ⟨he, hrest⟩ := List.pairwise_cons.mp h
      rw [Chain.changeEntry]
      split
      · rename_i heq
        subst heq
        rw [held?_cons, held?_cons, held?_cons, if_pos rfl]
        by_cases hs : s = e.1
        · rw [if_pos hs, if_pos hs.symm]
        · rw [if_neg hs, if_neg fun h => hs h.symm, if_neg fun h => hs h.symm]
      · rename_i hne
        split
        · rename_i hlt
          -- everything in the list lies behind the slot
          have hnone : held? slot (e :: rest) = none := by
            refine held?_eq_none fun x hx heq => ?_
            rcases List.mem_cons.mp hx with rfl | hx
            · exact hne heq
            · exact Int.lt_irrefl _ (Int.lt_trans (heq ▸ he x hx) hlt)
          rw [held?_cons, hnone]
          by_cases hs : s = slot
          · rw [if_pos hs, if_pos hs.symm]
          · rw [if_neg hs, if_neg fun h => hs h.symm]
        · rw [held?_cons, ih hrest, held?_cons, held?_cons, if_neg hne]
          by_cases hs : s = slot
          · rw [if_pos hs, if_pos hs, if_neg fun h => hne (h.trans hs)]
          · rw [if_neg hs, if_neg hs]

/-- **Slots from some slot on** are kept as they are, and nothing is found for the others. -/
theorem held?_filter (entries : List (Slot × α)) :
    held? s (entries.filter fun e => decide (oldest ≤ e.1))
      = if s < oldest then none else held? s entries := by
  induction entries with
  | nil => split <;> rfl
  | cons e rest ih =>
      rw [List.filter_cons, held?_cons]
      by_cases he : oldest ≤ e.1
      · rw [if_pos (decide_eq_true he), held?_cons, ih]
        by_cases hs : e.1 = s
        · rw [if_pos hs, if_pos hs, if_neg]
          exact hs ▸ Int.not_lt.mpr he
        · rw [if_neg hs, if_neg hs]
      · rw [if_neg (by simpa using he), ih]
        by_cases hs : e.1 = s
        · have hlt : s < oldest := hs ▸ Int.not_le.mp he
          rw [if_pos hlt, if_pos hlt]
        · rw [if_neg hs]

/-- Values by slots. -/
structure SlotMap (α : Type) where
  entries : List (Slot × α)
  ascending : Ascending entries
deriving Repr

namespace SlotMap

/-- Nothing for any slot. -/
def empty : SlotMap α := ⟨[], List.Pairwise.nil⟩

/-- What is held for a slot. -/
def get? (m : SlotMap α) (slot : Slot) : Option α := held? slot m.entries

/-- Changes what is held for a slot, which may be nothing so far. -/
def change (m : SlotMap α) (slot : Slot) (f : Option α → α) : SlotMap α :=
  ⟨changeEntry slot f m.entries, m.ascending.changeEntry slot f⟩

/-- Leaves out what is held for the slots before the given one. -/
def keepFrom (m : SlotMap α) (oldest : Slot) : SlotMap α :=
  ⟨m.entries.filter fun e => decide (oldest ≤ e.1), m.ascending.filter _⟩

/-- The slots that something is held for, in ascending order. -/
def slots (m : SlotMap α) : List Slot := m.entries.map (·.1)

/-- For how many slots something is held. -/
def size (m : SlotMap α) : Nat := m.entries.length

variable {m : SlotMap α}

@[simp] theorem get?_empty (slot : Slot) : (empty : SlotMap α).get? slot = none := rfl

theorem get?_change : (m.change slot f).get? s
    = if s = slot then some (f (m.get? slot)) else m.get? s := m.ascending.held?_changeEntry

theorem get?_keepFrom : (m.keepFrom oldest).get? s = if s < oldest then none else m.get? s :=
  held?_filter m.entries

theorem mem_slots : s ∈ m.slots ↔ (m.get? s).isSome := by
  unfold slots get? held?
  rw [Option.isSome_map, List.find?_isSome, List.mem_map]
  simp only [decide_eq_true_eq]

theorem length_slots (m : SlotMap α) : m.slots.length = m.size := List.length_map _

theorem slots_ascending (m : SlotMap α) : m.slots.Pairwise (· < ·) :=
  List.pairwise_map.mpr m.ascending

theorem slots_keepFrom (m : SlotMap α) (oldest : Slot) :
    (m.keepFrom oldest).slots = m.slots.filter fun s => decide (oldest ≤ s) := by
  unfold slots
  rw [List.filter_map]
  rfl

end SlotMap

end BidArchive.Chain
