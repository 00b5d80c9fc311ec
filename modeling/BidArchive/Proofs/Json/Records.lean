import BidArchive.Json.Codec
import BidArchive.Json.Envelope
import Mathlib.Data.List.Forall2

/-!
# What a decoder guarantees

A record comes from a draft that its fields were read into one by one. What holds of the
empty draft and is kept by the reading of every field holds of the draft that the record
is built from, whatever the members are and whether they stand in an object or an array.

`Yields` says of a decoder that all it reads has some property. Lists and envelopes pass
it on from what is inside them.
-/

namespace BidArchive.Json

variable {α β Draft : Type} {decoder : Decoder α} {p : α → Prop}

/-- What comes of two calculations in a row comes of both. -/
theorem exists_of_bind_eq_ok {φ : Type} {x : Except φ α} {f : α → Except φ β} {b : β}
    (h : (x >>= f) = .ok b) : ∃ a, x = .ok a ∧ f a = .ok b := by
  cases x with
  | error fault => cases h
  | ok a => exact ⟨a, rfl, h⟩

theorem exists_of_map_eq_ok {φ : Type} {x : Except φ α} {f : α → β} {b : β}
    (h : x.map f = .ok b) : ∃ a, x = .ok a ∧ f a = b := by
  cases x with
  | error fault => cases h
  | ok a => exact ⟨a, rfl, Except.ok.inj h⟩

theorem mapError_eq_ok_iff {φ ψ : Type} {x : Except φ α} {f : φ → ψ} {a : α} :
    x.mapError f = .ok a ↔ x = .ok a := by
  cases x with
  | error fault => simp [Except.mapError]
  | ok b => simp [Except.mapError]

/-- All that the decoder reads has the property. -/
def Yields (decoder : Decoder α) (p : α → Prop) : Prop :=
  ∀ node a, decoder node = .ok a → p a

theorem unexpected_ne_ok {expected : String} {node : Node} {a : α} :
    unexpected expected node ≠ .ok a := by
  unfold unexpected
  split <;> simp

/-! ## Texts -/

theorem string_eq_ok_iff {node : Node} {text : String} :
    string node = .ok text ↔ node = .text (some text) := by
  constructor
  · intro h
    unfold string at h
    split at h
    · rw [Except.ok.inj h]
    · exact absurd h unexpected_ne_ok
  · rintro rfl
    rfl

/-- A text is refused for the reason given. -/
def refusal (expected text reason : String) : Fault :=
  .mismatch (.invalidValue (.text ("unexpected value: " ++ text ++ ", error: " ++ reason)) expected)

theorem stringBy_text {rule : String → Except String α} {expected text : String} :
    stringBy rule expected (.text (some text)) = (rule text).mapError (refusal expected text) := by
  unfold stringBy string
  dsimp only [bind, Except.bind]
  cases rule text with
  | error reason => rfl
  | ok a => rfl

/-- What is read by a rule is a text that the rule accepts. -/
theorem stringBy_eq_ok_iff {rule : String → Except String α} {expected : String} {node : Node}
    {a : α} :
    stringBy rule expected node = .ok a ↔ ∃ text, node = .text (some text) ∧ rule text = .ok a := by
  constructor
  · intro h
    obtain ⟨text, htext, -⟩ := exists_of_bind_eq_ok h
    obtain rfl := string_eq_ok_iff.mp htext
    exact ⟨text, rfl, mapError_eq_ok_iff.mp (stringBy_text ▸ h)⟩
  · rintro ⟨text, rfl, hrule⟩
    rw [stringBy_text, mapError_eq_ok_iff]
    exact hrule

/-- Only texts are read by a rule. -/
theorem exists_stringBy_iff {rule : String → Except String α} {expected : String} {node : Node} :
    (∃ a, stringBy rule expected node = .ok a)
      ↔ ∃ text a, node = .text (some text) ∧ stringBy rule expected node = .ok a := by
  constructor
  · rintro ⟨a, ha⟩
    obtain ⟨text, htext, -⟩ := stringBy_eq_ok_iff.mp ha
    exact ⟨text, a, htext, ha⟩
  · rintro ⟨text, a, -, ha⟩
    exact ⟨a, ha⟩

/-! ## Records -/

namespace Schema

variable {schema : Schema Draft α} {q : Draft → Prop}

/-- The reading of a field keeps what holds of drafts. -/
def Keeps (q : Draft → Prop) (field : Field Draft) : Prop :=
  ∀ draft node draft', q draft → field.read draft node = .ok draft' → q draft'

theorem readMembers_keeps (hf : ∀ field ∈ schema.fields, Keeps q field)
    {members : List (Option String × Node)} {draft draft' : Draft} (hq : q draft)
    (h : schema.readMembers draft members = .ok draft') : q draft' := by
  induction members generalizing draft with
  | nil => exact Except.ok.inj h ▸ hq
  | cons member rest ih =>
      obtain ⟨name, value⟩ := member
      cases name with
      | none => exact absurd h (by simp [readMembers])
      | some name =>
          rw [readMembers] at h
          split at h
          · rename_i field hfind
            split at h
            · exact absurd h (by simp)
            · obtain ⟨d, hd, h⟩ := exists_of_bind_eq_ok h
              exact ih (hf field (List.mem_of_find?_eq_some hfind) _ _ _ hq hd) h
          · split at h
            · exact ih hq h
            · exact absurd h (by simp)

theorem readItems_keeps {fields : List (Field Draft)} (hf : ∀ field ∈ fields, Keeps q field)
    {cut : Bool} {index : Nat} {items : List Node} {draft draft' : Draft} (hq : q draft)
    (h : schema.readItems cut index draft fields items = .ok draft') : q draft' := by
  induction fields generalizing index items draft with
  | nil =>
      cases items with
      | nil =>
          rw [readItems] at h
          split at h
          · exact absurd h (by simp)
          · exact Except.ok.inj h ▸ hq
      | cons item rest => exact absurd h (by simp [readItems])
  | cons field fields ih =>
      have hrest : ∀ f ∈ fields, Keeps q f := fun f hmem => hf f (List.mem_cons_of_mem _ hmem)
      cases items with
      | nil =>
          rw [readItems] at h
          split at h
          · exact absurd h (by simp)
          · split at h
            · exact ih hrest hq h
            · exact absurd h (by simp)
      | cons item rest =>
          obtain ⟨d, hd, h⟩ := exists_of_bind_eq_ok h
          exact ih hrest (hf field List.mem_cons_self _ _ _ hq hd) h

theorem build_of_finish {draft : Draft} {a : α} (h : schema.finish draft = .ok a) :
    schema.build draft = some a := by
  unfold finish at h
  split at h
  · exact absurd h (by simp)
  · split at h
    · rename_i hb
      rw [hb, Except.ok.inj h]
    · exact absurd h (by simp)

/-- **A record is built from a draft that its fields kept in order.** -/
theorem exists_draft (hempty : q schema.empty) (hf : ∀ field ∈ schema.fields, Keeps q field)
    {node : Node} {a : α} (h : schema.decoder node = .ok a) :
    ∃ draft, q draft ∧ schema.build draft = some a := by
  -- an object brings named members, an array the fields in their order
  unfold decoder at h
  split at h
  · obtain ⟨draft, hd, h⟩ := exists_of_bind_eq_ok h
    split at h
    · exact absurd h (by simp)
    · exact ⟨draft, readMembers_keeps hf hempty hd, build_of_finish h⟩
  · obtain ⟨draft, hd, h⟩ := exists_of_bind_eq_ok h
    exact ⟨draft, readItems_keeps hf hempty hd, build_of_finish h⟩
  · exact absurd h unexpected_ne_ok

end Schema

/-! ## Lists and envelopes -/

theorem items_yield (h : Yields decoder p) {cut : Bool} {nodes : List Node} {as : List α}
    (ha : items decoder cut nodes = .ok as) : ∀ a ∈ as, p a := by
  induction nodes generalizing as with
  | nil =>
      rw [items] at ha
      split at ha
      · exact absurd ha (by simp)
      · rw [← Except.ok.inj ha]
        exact fun a hmem => absurd hmem List.not_mem_nil
  | cons node rest ih =>
      rw [items] at ha
      obtain ⟨a, hnode, ha⟩ := exists_of_bind_eq_ok ha
      obtain ⟨tail, htail, ha⟩ := exists_of_bind_eq_ok ha
      rw [← Except.ok.inj ha]
      intro x hx
      rcases List.mem_cons.mp hx with rfl | hx
      · exact h node x hnode
      · exact ih htail x hx

/-- **A list is read if and only if all its items are**, each in its place. -/
theorem list_eq_ok_iff {nodes : List Node} {as : List α} :
    list decoder (.array nodes false) = .ok as
      ↔ List.Forall₂ (fun node a => decoder node = .ok a) nodes as := by
  show items decoder false nodes = .ok as ↔ _
  induction nodes generalizing as with
  | nil =>
      rw [items, List.forall₂_nil_left_iff]
      constructor
      · intro h
        exact (Except.ok.inj h).symm
      · rintro rfl
        rfl
  | cons node rest ih =>
      rw [items, List.forall₂_cons_left_iff]
      constructor
      · intro h
        obtain ⟨a, hnode, h⟩ := exists_of_bind_eq_ok h
        obtain ⟨tail, htail, h⟩ := exists_of_bind_eq_ok h
        exact ⟨a, tail, hnode, ih.mp htail, (Except.ok.inj h).symm⟩
      · rintro ⟨a, tail, hnode, htail, rfl⟩
        rw [hnode, ih.mpr htail]
        rfl

theorem exists_list_iff {nodes : List Node} :
    (∃ as, list decoder (.array nodes false) = .ok as)
      ↔ ∀ node ∈ nodes, ∃ a, decoder node = .ok a := by
  simp only [list_eq_ok_iff]
  induction nodes with
  | nil => exact ⟨fun _ node h => absurd h List.not_mem_nil, fun _ => ⟨[], .nil⟩⟩
  | cons node rest ih =>
      rw [List.forall_mem_cons, ← ih]
      constructor
      · rintro ⟨as, h⟩
        obtain ⟨a, tail, hnode, htail, rfl⟩ := List.forall₂_cons_left_iff.mp h
        exact ⟨⟨a, hnode⟩, tail, htail⟩
      · rintro ⟨⟨a, hnode⟩, tail, htail⟩
        exact ⟨a :: tail, .cons hnode htail⟩

theorem Yields.list (h : Yields decoder p) : Yields (list decoder) fun as => ∀ a ∈ as, p a := by
  intro node as ha
  unfold Json.list at ha
  split at ha
  · exact items_yield h ha
  · exact absurd ha unexpected_ne_ok

theorem Yields.envelope (h : Yields decoder p) (record field : String) :
    Yields (envelope record field decoder none).decoder p := by
  intro node a ha
  obtain ⟨draft, hdraft, hbuild⟩ := Schema.exists_draft (q := fun draft => ∀ a ∈ draft, p a)
    (fun a hmem => absurd hmem (by simp [Json.envelope]))
    (fun f hf draft node draft' _ hread => by
      obtain rfl := List.mem_singleton.mp hf
      obtain ⟨b, hb, rfl⟩ := exists_of_map_eq_ok hread
      exact fun a hmem => Option.mem_some.mp hmem ▸ h node b hb) ha
  have hor : draft.or none = some a := hbuild
  rw [Option.or_none] at hor
  exact hdraft a hor

/-- A text that is read by a rule is one that the rule accepts. -/
theorem yields_stringBy {rule : String → Except String α} {expected : String}
    (h : ∀ s a, rule s = .ok a → p a) : Yields (stringBy rule expected) p := by
  intro node a ha
  obtain ⟨s, -, hs⟩ := stringBy_eq_ok_iff.mp ha
  exact h s a hs

/-- **Slots that are read are in range.** -/
theorem yields_slot : Yields slot fun s => s.inRange = true := by
  refine yields_stringBy fun text s h => ?_
  split at h
  · exact absurd h (by simp)
  · split at h
    · rename_i hrange
      exact Except.ok.inj h ▸ hrange
    · exact absurd h (by simp)

end BidArchive.Json
