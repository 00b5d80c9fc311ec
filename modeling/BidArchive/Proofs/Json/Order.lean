import BidArchive.Proofs.Json.Members
import BidArchive.Proofs.Json.Whole

/-!
# Members in any order

Where each field of a record has a place of its own in the draft (`Lawful`), members can be read in
any order. A step of reading can be exchanged with the next one (`Lawful.readMember_comm`), so
that an object can be shuffled (`Lawful.readMembers_perm`), and members of other names change
nothing at all (`readMembers_filter`). What is read so depends on the known members alone
(`Lawful.decoder_congr`).

Whether a record is read at all is told member by member: each field once, none left out that is
required, and of each a value that its rule takes (`Lawful.decodes_iff`). An array of all fields is
read as the object of these values (`Lawful.decoder_zip`).
-/

namespace BidArchive.Json.Schema

variable {Draft α : Type} {schema : Schema Draft α} {field : Field Draft} {draft d : Draft}
  {name : String} {node : Node} {member : Option String × Node}
  {members members' : List (Option String × Node)} {a : α}

/-- Each field has a place of its own in the draft. -/
structure Lawful (schema : Schema Draft α) : Prop where
  distinct : (schema.fields.map Field.name).Nodup
  fresh : ∀ field ∈ schema.fields, field.isSet schema.empty = false
  /-- Whether a field takes a value does not depend on what was read before. -/
  steady : ∀ field ∈ schema.fields, ∀ draft draft' node d, field.read draft node = .ok d →
    ∃ d', field.read draft' node = .ok d'
  /-- A field that was read is set. -/
  marks : ∀ field ∈ schema.fields, ∀ draft node d, field.read draft node = .ok d →
    field.isSet d = true
  /-- Whether another field is set is not changed. -/
  spares : ∀ field ∈ schema.fields, ∀ other ∈ schema.fields, field.name ≠ other.name →
    ∀ draft node d, field.read draft node = .ok d → other.isSet d = other.isSet draft
  /-- Two fields can be read in either order. -/
  commutes : ∀ field ∈ schema.fields, ∀ other ∈ schema.fields, field.name ≠ other.name →
    ∀ draft node node' d d', field.read draft node = .ok d → other.read d node' = .ok d' →
      ∃ between, other.read draft node' = .ok between ∧ field.read between node = .ok d'
  /-- A record can be built as soon as the fields that are required are set. -/
  builds : ∀ draft, (∀ field ∈ schema.fields, field.presence = .required →
    field.isSet draft = true) → ∃ a, schema.build draft = some a

/-- A field is known by its name. -/
theorem Lawful.eq_field (hl : schema.Lawful) {other : Field Draft} (h : field ∈ schema.fields)
    (h' : other ∈ schema.fields) (hname : field.name = other.name) : field = other :=
  List.inj_on_of_nodup_map hl.distinct h h' hname

theorem Lawful.find?_eq_some_iff (hl : schema.Lawful) :
    schema.fields.find? (·.name == name) = some field
      ↔ field ∈ schema.fields ∧ field.name = name := by
  constructor
  · intro h
    exact ⟨List.mem_of_find?_eq_some h, by simpa using List.find?_some h⟩
  · rintro ⟨hfield, rfl⟩
    cases hfind : schema.fields.find? (·.name == field.name) with
    | none => exact absurd (List.find?_eq_none.mp hfind field hfield) (by simp)
    | some found =>
        have hname : found.name = field.name := by simpa using List.find?_some hfind
        rw [hl.eq_field (List.mem_of_find?_eq_some hfind) hfield hname]

/-! ## One member -/

/-- Reads one member into a draft. -/
def readMember (schema : Schema Draft α) (draft : Draft) :
    Option String × Node → Except Fault Draft
  | (none, _) => .error .malformed
  | (some name, value) =>
    match schema.fields.find? (·.name == name) with
    | some f =>
      if f.isSet draft then .error (.mismatch (.duplicateField name)) else f.read draft value
    | none => if value.whole then .ok draft else .error .malformed

/-- Members are read one by one. -/
theorem readMembers_cons : schema.readMembers draft (member :: members)
    = schema.readMember draft member >>= fun d => schema.readMembers d members := by
  obtain ⟨name, value⟩ := member
  cases name with
  | none => rfl
  | some name =>
      rw [readMembers, readMember]
      cases schema.fields.find? (·.name == name) with
      | some field =>
          dsimp only
          by_cases hset : field.isSet draft = true
          · rw [if_pos hset, if_pos hset]
            rfl
          · rw [if_neg hset, if_neg hset]
      | none =>
          dsimp only
          by_cases hwhole : value.whole = true
          · rw [if_pos hwhole, if_pos hwhole]
            rfl
          · rw [if_neg hwhole, if_neg hwhole]
            rfl

theorem readMembers_cons_eq_ok_iff : schema.readMembers draft (member :: members) = .ok d
    ↔ ∃ between, schema.readMember draft member = .ok between
      ∧ schema.readMembers between members = .ok d := by
  rw [readMembers_cons]
  constructor
  · exact exists_of_bind_eq_ok
  · rintro ⟨between, hfirst, hrest⟩
    rw [hfirst]
    exact hrest

/-- The name belongs to no field. -/
def IsUnknown (schema : Schema Draft α) (name : String) : Prop :=
  ∀ field ∈ schema.fields, field.name ≠ name

theorem find?_eq_none_iff :
    schema.fields.find? (·.name == name) = none ↔ schema.IsUnknown name := by
  rw [List.find?_eq_none]
  refine forall_congr' fun field => forall_congr' fun _ => ?_
  rw [beq_iff_eq]

/-- **What the reading of a member comes to**: its field takes the value for the first time, or the
member is passed over. -/
theorem Lawful.readMember_eq_ok_iff (hl : schema.Lawful) :
    schema.readMember draft member = .ok d
      ↔ (∃ field ∈ schema.fields, member.1 = some field.name ∧ field.isSet draft = false
          ∧ field.read draft member.2 = .ok d)
        ∨ (∃ name, member.1 = some name ∧ schema.IsUnknown name) ∧ member.2.whole = true
          ∧ d = draft := by
  obtain ⟨name, value⟩ := member
  constructor
  · intro h
    cases name with
    | none => exact absurd h (by simp [readMember])
    | some name =>
        rw [readMember] at h
        split at h
        · rename_i field hfind
          split at h
          · exact absurd h (by simp)
          · rename_i hunset
            obtain ⟨hfield, rfl⟩ := hl.find?_eq_some_iff.mp hfind
            exact Or.inl ⟨field, hfield, rfl, Bool.eq_false_iff.mpr hunset, h⟩
        · rename_i hfind
          split at h
          · rename_i hwhole
            exact Or.inr ⟨⟨name, rfl, find?_eq_none_iff.mp hfind⟩, hwhole, (Except.ok.inj h).symm⟩
          · exact absurd h (by simp)
  · rintro (⟨field, hfield, rfl, hunset, hread⟩ | ⟨⟨name, rfl, hunknown⟩, hwhole, rfl⟩)
    · rw [readMember, hl.find?_eq_some_iff.mpr ⟨hfield, rfl⟩]
      simpa [hunset] using hread
    · rw [readMember, find?_eq_none_iff.mpr hunknown]
      exact if_pos hwhole

/-! ## Exchanging members -/

/-- **A member can be read after the next one.** -/
theorem Lawful.readMember_comm (hl : schema.Lawful) {other : Option String × Node} {d' : Draft}
    (h : schema.readMember draft member = .ok d) (h' : schema.readMember d other = .ok d') :
    ∃ between, schema.readMember draft other = .ok between
      ∧ schema.readMember between member = .ok d' := by
  rcases hl.readMember_eq_ok_iff.mp h with
    ⟨first, hfirst, hname, hunset, hread⟩ | ⟨hunknown, hwhole, rfl⟩
  · rcases hl.readMember_eq_ok_iff.mp h' with
      ⟨second, hsecond, hname', hunset', hread'⟩ | ⟨hunknown', hwhole', rfl⟩
    · -- the second one is not set by the first, so that they are not of one name
      have hne : first.name ≠ second.name := by
        intro hsame
        rw [← hl.eq_field hfirst hsecond hsame, hl.marks first hfirst _ _ _ hread] at hunset'
        exact absurd hunset' (by simp)
      obtain ⟨between, hearly, hlate⟩ :=
        hl.commutes first hfirst second hsecond hne _ _ _ _ _ hread hread'
      refine ⟨between, hl.readMember_eq_ok_iff.mpr ?_, hl.readMember_eq_ok_iff.mpr ?_⟩
      · refine Or.inl ⟨second, hsecond, hname', ?_, hearly⟩
        rw [← hl.spares first hfirst second hsecond hne _ _ _ hread]
        exact hunset'
      · refine Or.inl ⟨first, hfirst, hname, ?_, hlate⟩
        rw [hl.spares second hsecond first hfirst (Ne.symm hne) _ _ _ hearly]
        exact hunset
    · exact ⟨draft, hl.readMember_eq_ok_iff.mpr (Or.inr ⟨hunknown', hwhole', rfl⟩), h⟩
  · exact ⟨d', h', hl.readMember_eq_ok_iff.mpr (Or.inr ⟨hunknown, hwhole, rfl⟩)⟩

/-- **Members can be read in any order.** -/
theorem Lawful.readMembers_perm (hl : schema.Lawful) (hp : members.Perm members')
    (h : schema.readMembers draft members = .ok d) : schema.readMembers draft members' = .ok d := by
  induction hp generalizing draft with
  | nil => exact h
  | cons member hp ih =>
      obtain ⟨between, hfirst, hrest⟩ := readMembers_cons_eq_ok_iff.mp h
      exact readMembers_cons_eq_ok_iff.mpr ⟨between, hfirst, ih hrest⟩
  | swap second first rest =>
      obtain ⟨d₁, hfirst, h⟩ := readMembers_cons_eq_ok_iff.mp h
      obtain ⟨d₂, hsecond, hrest⟩ := readMembers_cons_eq_ok_iff.mp h
      obtain ⟨between, hearly, hlate⟩ := hl.readMember_comm hfirst hsecond
      refine readMembers_cons_eq_ok_iff.mpr ⟨between, hearly, ?_⟩
      exact readMembers_cons_eq_ok_iff.mpr ⟨d₂, hlate, hrest⟩
  | trans hp hp' ih ih' => exact ih' (ih h)

/-! ## Passing members over -/

/-- The member is not passed over. What has no name that could be read is not. -/
def isKnown (schema : Schema Draft α) (member : Option String × Node) : Bool :=
  member.1.all fun name => schema.fields.any (·.name == name)

theorem isKnown_eq_false_iff : schema.isKnown member = false
    ↔ ∃ name, member.1 = some name ∧ schema.IsUnknown name := by
  obtain ⟨name, value⟩ := member
  cases name with
  | none => simp [isKnown]
  | some name => simp [isKnown, IsUnknown]

/-- **Members of other names change nothing**, if they can be read to their end. -/
theorem Lawful.readMembers_filter (hl : schema.Lawful)
    (hw : ∀ member ∈ members, member.2.whole = true) :
    schema.readMembers draft (members.filter schema.isKnown)
      = schema.readMembers draft members := by
  induction members generalizing draft with
  | nil => rfl
  | cons member rest ih =>
      obtain ⟨hmember, hrest⟩ := List.forall_mem_cons.mp hw
      -- an unknown member is read too, if only to skip it
      cases hknown : schema.isKnown member with
      | true =>
          rw [List.filter_cons_of_pos hknown, readMembers_cons, readMembers_cons]
          exact congrArg (schema.readMember draft member >>= ·) (funext fun d => ih hrest)
      | false =>
          have hskip : schema.readMember draft member = .ok draft :=
            hl.readMember_eq_ok_iff.mpr
              (Or.inr ⟨isKnown_eq_false_iff.mp hknown, hmember, rfl⟩)
          rw [List.filter_cons_of_neg (by simp [hknown]), readMembers_cons, hskip]
          exact ih hrest

theorem decoder_object_eq_ok_iff : schema.decoder (.object members false) = .ok a
    ↔ ∃ d, schema.readMembers schema.empty members = .ok d ∧ schema.finish d = .ok a := by
  constructor
  · exact exists_of_bind_eq_ok
  · rintro ⟨d, hd, ha⟩
    show (schema.readMembers schema.empty members >>= fun d => _) = _
    rw [hd]
    exact ha

/-- **What is read from an object depends on its known members alone**, and not on their order. -/
theorem Lawful.decoder_congr (hl : schema.Lawful)
    (hw : ∀ member ∈ members, member.2.whole = true)
    (hw' : ∀ member ∈ members', member.2.whole = true)
    (hp : (members.filter schema.isKnown).Perm (members'.filter schema.isKnown))
    (h : schema.decoder (.object members false) = .ok a) :
    schema.decoder (.object members' false) = .ok a := by
  obtain ⟨d, hd, ha⟩ := decoder_object_eq_ok_iff.mp h
  refine decoder_object_eq_ok_iff.mpr ⟨d, ?_, ha⟩
  rw [← hl.readMembers_filter hw] at hd
  rw [← hl.readMembers_filter hw']
  exact hl.readMembers_perm hp hd

/-! ## Which objects are read -/

/-- The rule of the field takes the value. -/
def Accepts (field : Field Draft) (node : Node) : Prop :=
  ∃ draft d, field.read draft node = .ok d

/-- A field that is read by a decoder takes what the decoder takes. -/
theorem accepts_iff {β : Type} {presence : Presence} {isSet : Draft → Bool} {decoder : Decoder β}
    {put : Draft → β → Draft} (draft : Draft) :
    Accepts ⟨name, presence, isSet, fun draft node => (decoder node).map (put draft)⟩ node
      ↔ ∃ x, decoder node = .ok x := by
  constructor
  · rintro ⟨before, d, hread⟩
    obtain ⟨x, hx, -⟩ := exists_of_map_eq_ok hread
    exact ⟨x, hx⟩
  · rintro ⟨x, hx⟩
    exact ⟨draft, put draft x, congrArg (Except.map (put draft)) hx⟩

/-- Behind a draft the members can be read: none of them sets a field again, each is taken by the
rule of its field, and those of other names can be passed over. -/
structure Readable (schema : Schema Draft α) (draft : Draft)
    (members : List (Option String × Node)) : Prop where
  named : ∀ member ∈ members, member.1.isSome = true
  once : ∀ field ∈ schema.fields,
    (field.isSet draft).toNat + (members.map Prod.fst).count (some field.name) ≤ 1
  accepted : ∀ field ∈ schema.fields, ∀ node, (some field.name, node) ∈ members →
    Accepts field node
  skipped : ∀ name node, (some name, node) ∈ members → schema.IsUnknown name → node.whole = true

theorem readable_nil (draft : Draft) : schema.Readable draft [] where
  named := fun _ h => absurd h List.not_mem_nil
  once := fun field _ => Bool.toNat_le (field.isSet draft)
  accepted := fun _ _ _ h => absurd h List.not_mem_nil
  skipped := fun _ _ h => absurd h List.not_mem_nil

/-- Reading a member takes its name off those that may still come. -/
theorem Lawful.once_of_readMember (hl : schema.Lawful) (h : schema.readMember draft member = .ok d)
    {other : Field Draft} (hother : other ∈ schema.fields) :
    (other.isSet d).toNat + (members.map Prod.fst).count (some other.name)
      = (other.isSet draft).toNat
        + ((member :: members).map Prod.fst).count (some other.name) := by
  rw [List.map_cons, List.count_cons]
  rcases hl.readMember_eq_ok_iff.mp h with
    ⟨field, hfield, hname, hunset, hread⟩ | ⟨⟨name, hname, hunknown⟩, -, rfl⟩
  · by_cases hsame : field.name = other.name
    · obtain rfl := hl.eq_field hfield hother hsame
      rw [hl.marks field hfield _ _ _ hread, hunset, hname, if_pos (by simp), Bool.toNat_true,
        Bool.toNat_false]
      omega
    · have hne : ¬ (some field.name == some other.name) = true := by simpa using hsame
      rw [hl.spares field hfield other hother hsame _ _ _ hread, hname, if_neg hne]
      omega
  · have hne : name ≠ other.name := fun hsame => hunknown other hother hsame.symm
    rw [hname, if_neg (by simpa using hne)]
    omega

/-- A member that was read is followed by readable ones if and only if it is the first of
readable ones. -/
theorem Lawful.readable_cons_iff (hl : schema.Lawful) :
    schema.Readable draft (member :: members)
      ↔ ∃ d, schema.readMember draft member = .ok d ∧ schema.Readable d members := by
  constructor
  · intro h
    obtain ⟨hname, hnamed⟩ := List.forall_mem_cons.mp h.named
    obtain ⟨name, hname⟩ := Option.isSome_iff_exists.mp hname
    obtain ⟨d, hd⟩ : ∃ d, schema.readMember draft member = .ok d := by
      by_cases hunknown : schema.IsUnknown name
      · refine ⟨draft, hl.readMember_eq_ok_iff.mpr (Or.inr ⟨⟨name, hname, hunknown⟩, ?_, rfl⟩)⟩
        exact h.skipped name member.2 (List.mem_cons.mpr (Or.inl (by rw [← hname]))) hunknown
      · obtain ⟨field, hfield, rfl⟩ : ∃ field ∈ schema.fields, field.name = name := by
          simpa [IsUnknown] using hunknown
        -- its name counts once here, so that nothing is left of the count for the draft
        have hunset : field.isSet draft = false := by
          have honce := h.once field hfield
          rw [List.map_cons, List.count_cons, hname, if_pos (by simp)] at honce
          cases hset : field.isSet draft with
          | false => rfl
          | true =>
              rw [hset, Bool.toNat_true] at honce
              omega
        obtain ⟨before, after, hread⟩ :=
          h.accepted field hfield member.2 (List.mem_cons.mpr (Or.inl (by rw [← hname])))
        obtain ⟨d, hread⟩ := hl.steady field hfield before draft member.2 after hread
        exact ⟨d, hl.readMember_eq_ok_iff.mpr (Or.inl ⟨field, hfield, hname, hunset, hread⟩)⟩
    refine ⟨d, hd, hnamed, fun other hother => ?_, ?_, ?_⟩
    · rw [hl.once_of_readMember hd hother]
      exact h.once other hother
    · intro field hfield node hmem
      exact h.accepted field hfield node (List.mem_cons_of_mem _ hmem)
    · intro name node hmem
      exact h.skipped name node (List.mem_cons_of_mem _ hmem)
  · rintro ⟨d, hd, h⟩
    have hcases := hl.readMember_eq_ok_iff.mp hd
    refine ⟨List.forall_mem_cons.mpr ⟨?_, h.named⟩, fun other hother => ?_, ?_, ?_⟩
    · rcases hcases with ⟨field, -, hname, -⟩ | ⟨⟨name, hname, -⟩, -⟩
      · rw [hname, Option.isSome_some]
      · rw [hname, Option.isSome_some]
    · rw [← hl.once_of_readMember hd hother]
      exact h.once other hother
    · intro field hfield node hmem
      rcases List.mem_cons.mp hmem with rfl | hmem
      · rcases hcases with ⟨other, hother, hname, -, hread⟩ | ⟨⟨name, hname, hunknown⟩, -⟩
        · obtain rfl := hl.eq_field hfield hother (Option.some.inj hname)
          exact ⟨draft, d, hread⟩
        · exact absurd (Option.some.inj hname) (hunknown field hfield)
      · exact h.accepted field hfield node hmem
    · intro name node hmem hunknown
      rcases List.mem_cons.mp hmem with rfl | hmem
      · rcases hcases with ⟨other, hother, hname, -⟩ | ⟨-, hwhole, -⟩
        · exact absurd (Option.some.inj hname).symm (hunknown other hother)
        · exact hwhole
      · exact h.skipped name node hmem hunknown

/-- Members are read if and only if they are readable. -/
theorem Lawful.exists_readMembers_iff (hl : schema.Lawful) :
    (∃ d, schema.readMembers draft members = .ok d) ↔ schema.Readable draft members := by
  induction members generalizing draft with
  | nil => exact ⟨fun _ => readable_nil draft, fun _ => ⟨draft, rfl⟩⟩
  | cons member rest ih =>
      rw [hl.readable_cons_iff]
      constructor
      · rintro ⟨d, hd⟩
        obtain ⟨between, hfirst, hrest⟩ := readMembers_cons_eq_ok_iff.mp hd
        exact ⟨between, hfirst, ih.mp ⟨d, hrest⟩⟩
      · rintro ⟨between, hfirst, hrest⟩
        obtain ⟨d, hd⟩ := ih.mpr hrest
        exact ⟨d, readMembers_cons_eq_ok_iff.mpr ⟨between, hfirst, hd⟩⟩

/-- What is set behind the members is what was set before or is among them. -/
theorem Lawful.isSet_readMembers (hl : schema.Lawful)
    (h : schema.readMembers draft members = .ok d) {field : Field Draft}
    (hfield : field ∈ schema.fields) :
    (field.isSet d).toNat
      = (field.isSet draft).toNat + (members.map Prod.fst).count (some field.name) := by
  induction members generalizing draft with
  | nil =>
      obtain rfl := Except.ok.inj h
      rfl
  | cons member rest ih =>
      obtain ⟨between, hfirst, hrest⟩ := readMembers_cons_eq_ok_iff.mp h
      rw [ih hrest, hl.once_of_readMember hfirst hfield]

/-- A record comes of a draft if and only if the fields that are required are set in it. -/
theorem Lawful.exists_finish_iff (hl : schema.Lawful) :
    (∃ a, schema.finish d = .ok a)
      ↔ ∀ field ∈ schema.fields, field.presence = .required → field.isSet d = true := by
  unfold finish
  constructor
  · rintro ⟨a, ha⟩ field hfield hrequired
    split at ha
    · exact absurd ha (by simp)
    · rename_i hfind
      have hnone := List.find?_eq_none.mp hfind field hfield
      simpa [hrequired] using hnone
  · intro h
    split
    · rename_i field hfind
      have hsome := List.find?_some hfind
      rw [Bool.and_eq_true, beq_iff_eq] at hsome
      have hset := h field (List.mem_of_find?_eq_some hfind) hsome.1
      rw [hset] at hsome
      exact absurd hsome.2 (by simp)
    · obtain ⟨a, ha⟩ := hl.builds d h
      rw [ha]
      exact ⟨a, rfl⟩

/-- **Which objects are read**: those whose members can be read and leave out no field that is
required. -/
theorem Lawful.decodes_iff (hl : schema.Lawful) :
    (∃ a, schema.decoder (.object members false) = .ok a)
      ↔ schema.Readable schema.empty members
        ∧ ∀ field ∈ schema.fields, field.presence = .required →
          some field.name ∈ members.map Prod.fst := by
  -- nothing is set to begin with, so that what is set was among the members
  have hset {d : Draft} (hd : schema.readMembers schema.empty members = .ok d)
      {field : Field Draft} (hfield : field ∈ schema.fields) :
      field.isSet d = true ↔ some field.name ∈ members.map Prod.fst := by
    have hcount := hl.isSet_readMembers hd hfield
    rw [hl.fresh field hfield, Bool.toNat_false, Nat.zero_add] at hcount
    rw [← List.count_pos_iff, ← hcount]
    cases field.isSet d <;> simp
  rw [← hl.exists_readMembers_iff]
  constructor
  · rintro ⟨a, ha⟩
    obtain ⟨d, hd, ha⟩ := decoder_object_eq_ok_iff.mp ha
    refine ⟨⟨d, hd⟩, fun field hfield hrequired => (hset hd hfield).mp ?_⟩
    exact hl.exists_finish_iff.mp ⟨a, ha⟩ field hfield hrequired
  · rintro ⟨⟨d, hd⟩, hpresent⟩
    obtain ⟨a, ha⟩ := hl.exists_finish_iff.mpr fun field hfield hrequired =>
      (hset hd hfield).mpr (hpresent field hfield hrequired)
    exact ⟨a, decoder_object_eq_ok_iff.mpr ⟨d, hd, ha⟩⟩

/-! ## What members leave in the draft -/

/-- Without a member of that name the part is left as it was. -/
theorem Fills.part_eq_of_absent {β : Type} {decoder : Decoder β} {part : Draft → Option β}
    (hf : schema.Fills field decoder part) (hl : schema.Lawful)
    (habsent : some field.name ∉ members.map Prod.fst)
    (h : schema.readMembers draft members = .ok d) : part d = part draft := by
  induction members generalizing draft with
  | nil => rw [Except.ok.inj h]
  | cons member rest ih =>
      obtain ⟨between, hfirst, hrest⟩ := readMembers_cons_eq_ok_iff.mp h
      rw [List.map_cons, List.mem_cons, not_or] at habsent
      rw [ih habsent.2 hrest]
      rcases hl.readMember_eq_ok_iff.mp hfirst with ⟨other, hother, hname, -, hread⟩ | ⟨-, -, rfl⟩
      · refine hf.spares other hother (fun hsame => habsent.1 ?_) _ _ _ hread
        rw [hname, hsame]
      · rfl

/-! ## Objects and arrays -/

/-- Fields that are not set yet are read from their values as from members. -/
theorem Lawful.readMembers_zip (hl : schema.Lawful) {fields : List (Field Draft)}
    {values : List Node} {index : Nat} (hfields : ∀ field ∈ fields, field ∈ schema.fields)
    (hd : (fields.map Field.name).Nodup) (hunset : ∀ field ∈ fields, field.isSet draft = false)
    (hlen : values.length = fields.length) :
    schema.readMembers draft ((fields.map fun field => some field.name).zip values)
      = schema.readItems false index draft fields values := by
  induction fields generalizing values index draft with
  | nil =>
      obtain rfl := List.length_eq_zero_iff.mp hlen
      rfl
  | cons field rest ih =>
      cases values with
      | nil => exact absurd hlen (by simp)
      | cons value values =>
          obtain ⟨hfield, hfields⟩ := List.forall_mem_cons.mp hfields
          obtain ⟨hfirst, hunset⟩ := List.forall_mem_cons.mp hunset
          obtain ⟨hfresh, hd⟩ := List.nodup_cons.mp hd
          -- no name comes twice, so that the field is not set when its member comes
          have hmember : schema.readMember draft (some field.name, value)
              = field.read draft value := by
            rw [readMember, hl.find?_eq_some_iff.mpr ⟨hfield, rfl⟩]
            exact if_neg (by simp [hfirst])
          rw [List.map_cons, List.zip_cons_cons, readMembers_cons, hmember, readItems]
          cases hread : field.read draft value with
          | error fault => rfl
          | ok d =>
              refine ih hfields hd (fun other hother => ?_) (Nat.succ.inj hlen)
              rw [hl.spares field hfield other (hfields other hother) ?_ _ _ _ hread]
              · exact hunset other hother
              · intro hsame
                exact hfresh (hsame ▸ List.mem_map_of_mem hother)

/-- **An array of all fields is read as the object of its values.** -/
theorem Lawful.decoder_zip (hl : schema.Lawful) {values : List Node}
    (hlen : values.length = schema.fields.length) :
    schema.decoder (.object ((schema.fields.map fun field => some field.name).zip values) false)
      = schema.decoder (.array values false) := by
  have hread : schema.readMembers schema.empty
        ((schema.fields.map fun field => some field.name).zip values)
      = schema.readItems false 0 schema.empty schema.fields values :=
    hl.readMembers_zip (fun _ h => h) hl.distinct hl.fresh hlen
  show (schema.readMembers schema.empty _ >>= fun d => schema.finish d)
    = (schema.readItems false 0 schema.empty schema.fields values >>= fun d => schema.finish d)
  rw [hread]

end BidArchive.Json.Schema
