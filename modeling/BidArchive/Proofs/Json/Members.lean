import BidArchive.Proofs.Json.Records
import Mathlib.Data.List.Nodup

/-!
# What a record takes from a member

A record that was read holds what its members say: of the text in a field the decoder makes
what the rule of the field makes of it, since no other member touches the field and no member
may come twice. It is the same for the items of an array, each of which stands for the field in
its place.

Where a part of the draft belongs to one field alone (`Fills`), what is found there is what the
decoder of the field takes from its member (`Fills.exists_part`, `Fills.exists_draft`).
-/

namespace BidArchive.Json

/-! ## Members of records -/

namespace Schema

variable {Draft α : Type} {schema : Schema Draft α} {field : Field Draft} {q : Draft → Prop}
  {name text : String} {node : Node} {a : α}

/-- The value has the text in the field of this name: as a member or, in an array, in its place. -/
inductive Holds (schema : Schema Draft α) (name text : String) : Node → Prop
  | member {members : List (Option String × Node)} {cut : Bool}
    (h : (some name, .text (some text)) ∈ members) : Holds schema name text (.object members cut)
  | item {items : List Node} {cut : Bool} {i : Nat}
    (hname : (schema.fields.map Field.name)[i]? = some name)
    (h : items[i]? = some (.text (some text))) : Holds schema name text (.array items cut)

/-- A draft into which the field was read from the value is `q`, by which the field is set, and no
other field undoes that. -/
structure Sets (schema : Schema Draft α) (field : Field Draft) (value : Node)
    (q : Draft → Prop) : Prop where
  known : field ∈ schema.fields
  distinct : (schema.fields.map Field.name).Nodup
  reads : ∀ draft draft', field.read draft value = .ok draft' → q draft'
  marks : ∀ draft, q draft → field.isSet draft = true
  keeps : ∀ other ∈ schema.fields, other.name ≠ field.name → Keeps q other

/-- A field is known by its name. -/
theorem Sets.eq_field (hs : schema.Sets field node q) {other : Field Draft}
    (h : other ∈ schema.fields) (hname : other.name = field.name) : other = field :=
  List.inj_on_of_nodup_map hs.distinct h hs.known hname

/-- Further members do not touch the field. -/
theorem Sets.readMembers_keeps (hs : schema.Sets field node q)
    {members : List (Option String × Node)} {draft draft' : Draft} (hq : q draft)
    (h : schema.readMembers draft members = .ok draft') : q draft' := by
  induction members generalizing draft with
  | nil => exact Except.ok.inj h ▸ hq
  | cons member rest ih =>
      obtain ⟨other, value⟩ := member
      cases other with
      | none => exact absurd h (by simp [readMembers])
      | some other =>
          rw [readMembers] at h
          split at h
          · rename_i found hfind
            have hmem := List.mem_of_find?_eq_some hfind
            split at h
            · exact absurd h (by simp)
            · rename_i hunset
              obtain ⟨d, hread, hrest⟩ := exists_of_bind_eq_ok h
              refine ih (hs.keeps found hmem (fun hname => ?_) _ _ _ hq hread) hrest
              -- the field is set, so that its name may not come again
              exact hunset (hs.eq_field hmem hname ▸ hs.marks draft hq)
          · split at h
            · exact ih hq h
            · exact absurd h (by simp)

/-- The member sets the field. -/
theorem Sets.readMembers (hs : schema.Sets field node q)
    {members : List (Option String × Node)} {draft draft' : Draft}
    (hmem : (some field.name, node) ∈ members)
    (h : schema.readMembers draft members = .ok draft') : q draft' := by
  induction members generalizing draft with
  | nil => exact absurd hmem List.not_mem_nil
  | cons member rest ih =>
      obtain ⟨other, value⟩ := member
      cases other with
      | none => exact absurd h (by simp [Schema.readMembers])
      | some other =>
          rw [Schema.readMembers] at h
          split at h
          · rename_i found hfind
            split at h
            · exact absurd h (by simp)
            · obtain ⟨d, hread, hrest⟩ := exists_of_bind_eq_ok h
              rcases List.mem_cons.mp hmem with hhead | htail
              · obtain ⟨hother, rfl⟩ := Prod.mk.inj hhead
                have hname : found.name = field.name := by
                  rw [Option.some.inj hother]
                  simpa using List.find?_some hfind
                rw [hs.eq_field (List.mem_of_find?_eq_some hfind) hname] at hread
                exact hs.readMembers_keeps (hs.reads _ _ hread) hrest
              · exact ih htail hrest
          · rename_i hfind
            split at h
            · rcases List.mem_cons.mp hmem with hhead | htail
              · have hunknown := List.find?_eq_none.mp hfind field hs.known
                exact absurd (Option.some.inj (Prod.mk.inj hhead).1) (by simpa using hunknown)
              · exact ih htail h
            · exact absurd h (by simp)

/-- The item in its place sets the field. -/
theorem Sets.readItems (hs : schema.Sets field node q) {fields : List (Field Draft)}
    (hfields : ∀ field ∈ fields, field ∈ schema.fields) (hd : (fields.map Field.name).Nodup)
    {cut : Bool} {index i : Nat} {items : List Node} {draft draft' : Draft}
    (hname : (fields.map Field.name)[i]? = some field.name)
    (hitem : items[i]? = some node)
    (h : schema.readItems cut index draft fields items = .ok draft') : q draft' := by
  induction fields generalizing index i items draft with
  | nil => exact absurd hname (by simp)
  | cons first fields ih =>
      cases items with
      | nil => exact absurd hitem (by simp)
      | cons item rest =>
          obtain ⟨hfresh, hd⟩ := List.nodup_cons.mp hd
          obtain ⟨hfirst, hfields⟩ := List.forall_mem_cons.mp hfields
          obtain ⟨d, hread, hrest⟩ := exists_of_bind_eq_ok h
          cases i with
          | zero =>
              obtain rfl := hs.eq_field hfirst (Option.some.inj hname)
              obtain rfl := Option.some.inj hitem
              refine readItems_keeps (fun f hf => hs.keeps f (hfields f hf) fun hsame => ?_)
                (hs.reads _ _ hread) hrest
              exact hfresh (hsame ▸ List.mem_map_of_mem hf)
          | succ i => exact ih hfields hd hname hitem hrest

/-- **A record is built from a draft in which its field is set.** -/
theorem Sets.exists_draft (hs : schema.Sets field (.text (some text)) q)
    (hholds : schema.Holds field.name text node) (h : schema.decoder node = .ok a) :
    ∃ draft, q draft ∧ schema.build draft = some a := by
  cases hholds with
  | member hmem =>
      obtain ⟨draft, hread, h⟩ := exists_of_bind_eq_ok h
      split at h
      · exact absurd h (by simp)
      · exact ⟨draft, hs.readMembers hmem hread, build_of_finish h⟩
  | item hname hitem =>
      obtain ⟨draft, hread, h⟩ := exists_of_bind_eq_ok h
      exact ⟨draft, hs.readItems (fun _ hf => hf) hs.distinct hname hitem hread, build_of_finish h⟩

/-! ## Parts of the draft -/

/-- The field keeps what its decoder makes of a value in a part of the draft that is its own. -/
structure Fills {β : Type} (schema : Schema Draft α) (field : Field Draft) (decoder : Decoder β)
    (part : Draft → Option β) : Prop where
  known : field ∈ schema.fields
  distinct : (schema.fields.map Field.name).Nodup
  reads : ∀ draft node d, field.read draft node = .ok d →
    ∃ x, decoder node = .ok x ∧ part d = some x
  marks : ∀ draft, (part draft).isSome = field.isSet draft
  spares : ∀ other ∈ schema.fields, other.name ≠ field.name →
    ∀ draft node d, other.read draft node = .ok d → part d = part draft

variable {β : Type} {decoder : Decoder β} {part : Draft → Option β}

/-- A value that the field was read from is in its part. -/
theorem Fills.sets (hf : schema.Fills field decoder part) (node : Node) :
    schema.Sets field node fun draft => ∃ x, decoder node = .ok x ∧ part draft = some x where
  known := hf.known
  distinct := hf.distinct
  reads := fun draft draft' hread => hf.reads draft node draft' hread
  marks := by
    rintro draft ⟨x, -, hx⟩
    rw [← hf.marks, hx]
    rfl
  keeps := by
    rintro other hother hname draft value draft' ⟨x, hx, hpart⟩ hread
    exact ⟨x, hx, (hf.spares other hother hname _ _ _ hread).trans hpart⟩

/-- A member of the name of the field ends up in its part. -/
theorem Fills.exists_part (hf : schema.Fills field decoder part)
    {members : List (Option String × Node)} {draft draft' : Draft}
    (hmem : (some field.name, node) ∈ members)
    (h : schema.readMembers draft members = .ok draft') :
    ∃ x, decoder node = .ok x ∧ part draft' = some x :=
  (hf.sets node).readMembers hmem h

/-- A record is built from a draft that has in this part what the text of the field is read as. -/
theorem Fills.exists_draft (hf : schema.Fills field decoder part)
    (hholds : schema.Holds field.name text node) (h : schema.decoder node = .ok a) :
    ∃ draft x, decoder (.text (some text)) = .ok x ∧ part draft = some x
      ∧ schema.build draft = some a := by
  obtain ⟨draft, ⟨x, hx, hpart⟩, hbuild⟩ := (hf.sets _).exists_draft hholds h
  exact ⟨draft, x, hx, hpart, hbuild⟩

end Schema

end BidArchive.Json
