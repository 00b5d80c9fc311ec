/-!
# Agendas

What is going to happen, in the order of time. Things of the same time happen in the order in which
they were noted down, except that whatever is marked to come last waits for all others.
-/

namespace BidArchive.Rehearsal

/-- Something that is going to happen. -/
structure Item (α : Type) where
  time : Nat
  comesLast : Bool
  what : α

/-- Things to come, the next one first. -/
abbrev Agenda (α : Type) := List (Item α)

variable {α : Type}

/-- The item happens before the other, or was noted down before it and may as well. -/
def Item.precedes (a b : Item α) : Bool :=
  decide (a.time < b.time) || (a.time == b.time && (!a.comesLast || b.comesLast))

/-- Notes an item down. -/
def Agenda.note (item : Item α) : Agenda α → Agenda α
  | [] => [item]
  | first :: rest =>
    if first.precedes item then first :: Agenda.note item rest else item :: first :: rest

end BidArchive.Rehearsal
