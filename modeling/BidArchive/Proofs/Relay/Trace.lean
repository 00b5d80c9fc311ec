import BidArchive.Proofs.Json.Members
import BidArchive.Relay.Trace

/-!
# What a trace says of its bid

The fields of a trace that identify its bid are what the members of these names say: slot
and value the numbers read from them, the hashes and the key the texts themselves. And
whatever a trace says, its slot is in range, and it has arrived when the integers say.
-/

namespace BidArchive.Relay.Trace

open Json (Node)

variable {node : Node} {trace : Trace} {text : String}

/-- A field of this name leaves alone what belongs to another. -/
structure Keeps (name : String) (draft draft' : Draft) : Prop where
  slot : name ≠ "slot" → draft'.slot = draft.slot
  parentHash : name ≠ "parent_hash" → draft'.parentHash = draft.parentHash
  blockHash : name ≠ "block_hash" → draft'.blockHash = draft.blockHash
  builderPubkey : name ≠ "builder_pubkey" → draft'.builderPubkey = draft.builderPubkey
  value : name ≠ "value" → draft'.value = draft.value
  timestamp : name ≠ "timestamp" → draft'.timestamp = draft.timestamp
  timestampMs : name ≠ "timestamp_ms" → draft'.timestampMs = draft.timestampMs

theorem keeps_of_read {field : Json.Field Draft} (hfield : field ∈ schema.fields)
    {draft draft' : Draft} {json : Node} (h : field.read draft json = .ok draft') :
    Keeps field.name draft draft' := by
  simp only [schema, List.mem_cons, List.not_mem_nil, or_false] at hfield
  rcases hfield with rfl | rfl | rfl | rfl | rfl | rfl | rfl | rfl | rfl | rfl | rfl
  all_goals
    obtain ⟨x, -, rfl⟩ := Json.exists_of_map_eq_ok h
    constructor <;> simp

/-- What is built was in the draft. -/
structure Built (draft : Draft) (trace : Trace) : Prop where
  slot : draft.slot = some trace.slot
  parentHash : draft.parentHash = some trace.parentHash
  blockHash : draft.blockHash = some trace.blockHash
  builderPubkey : draft.builderPubkey = some trace.builderPubkey
  value : draft.value = some trace.value
  timestamp : trace.timestamp = draft.timestamp.join
  timestampMs : trace.timestampMs = draft.timestampMs.join

theorem built_of_build {draft : Draft} (h : schema.build draft = some trace) :
    Built draft trace := by
  obtain ⟨slot, hslot, h⟩ := Option.bind_eq_some_iff.mp h
  obtain ⟨parent, hparent, h⟩ := Option.bind_eq_some_iff.mp h
  obtain ⟨block, hblock, h⟩ := Option.bind_eq_some_iff.mp h
  obtain ⟨builder, hbuilder, h⟩ := Option.bind_eq_some_iff.mp h
  obtain ⟨proposer, -, h⟩ := Option.bind_eq_some_iff.mp h
  obtain ⟨recipient, -, h⟩ := Option.bind_eq_some_iff.mp h
  obtain ⟨value, hvalue, h⟩ := Option.bind_eq_some_iff.mp h
  obtain ⟨number, -, h⟩ := Option.bind_eq_some_iff.mp h
  obtain rfl := Option.some.inj h
  exact ⟨hslot, hparent, hblock, hbuilder, hvalue, rfl, rfl⟩

/-- A field whose decoder fills a part that others keep has this part as its own. -/
theorem fills_of_decoder {β : Type} {field : Json.Field Draft} {decoder : Json.Decoder β}
    {part : Draft → Option β} {put : Draft → β → Draft} (hknown : field ∈ schema.fields)
    (hread : field.read = fun draft json => (decoder json).map (put draft))
    (hset : field.isSet = fun draft => (part draft).isSome)
    (hput : ∀ draft x, part (put draft x) = some x)
    (hkeeps : ∀ {name draft draft'}, Keeps name draft draft' → name ≠ field.name →
      part draft' = part draft) : schema.Fills field decoder part where
  known := hknown
  distinct := by decide
  reads := by
    intro draft json draft' h
    rw [hread] at h
    obtain ⟨x, hx, rfl⟩ := Json.exists_of_map_eq_ok h
    exact ⟨x, hx, hput draft x⟩
  marks := fun draft => by rw [hset]
  spares := fun _ hother hname _ _ _ h => hkeeps (keeps_of_read hother h) hname

theorem fills_slot : schema.Fills schema.fields[0] Json.slot Draft.slot :=
  fills_of_decoder (List.getElem_mem _) rfl rfl (fun _ _ => rfl) Keeps.slot

theorem fills_parentHash : schema.Fills schema.fields[1] Json.string Draft.parentHash :=
  fills_of_decoder (List.getElem_mem _) rfl rfl (fun _ _ => rfl) Keeps.parentHash

theorem fills_blockHash : schema.Fills schema.fields[2] Json.string Draft.blockHash :=
  fills_of_decoder (List.getElem_mem _) rfl rfl (fun _ _ => rfl) Keeps.blockHash

theorem fills_builderPubkey : schema.Fills schema.fields[3] Json.string Draft.builderPubkey :=
  fills_of_decoder (List.getElem_mem _) rfl rfl (fun _ _ => rfl) Keeps.builderPubkey

theorem fills_value : schema.Fills schema.fields[6] Json.wide Draft.value :=
  fills_of_decoder (List.getElem_mem _) rfl rfl (fun _ _ => rfl) Keeps.value

theorem fills_timestamp : schema.Fills schema.fields[8] Json.optionalWord Draft.timestamp :=
  fills_of_decoder (List.getElem_mem _) rfl rfl (fun _ _ => rfl) Keeps.timestamp

theorem fills_timestampMs : schema.Fills schema.fields[9] Json.optionalWord Draft.timestampMs :=
  fills_of_decoder (List.getElem_mem _) rfl rfl (fun _ _ => rfl) Keeps.timestampMs

/-- A trace is built from a draft that has in this part what the text of the field is read as. -/
theorem exists_built {β : Type} {field : Json.Field Draft} {rule : Json.Decoder β}
    {part : Draft → Option β} (hf : schema.Fills field rule part)
    (hh : schema.Holds field.name text node) (h : decoder node = .ok trace) :
    ∃ draft x, rule (.text (some text)) = .ok x ∧ part draft = some x ∧ Built draft trace := by
  obtain ⟨draft, x, hx, hpart, hbuild⟩ := hf.exists_draft hh h
  exact ⟨draft, x, hx, hpart, built_of_build hbuild⟩

/-- **The slot is what its text is read as.** -/
theorem slot_of_holds (h : decoder node = .ok trace) (hh : schema.Holds "slot" text node) :
    Json.slot (.text (some text)) = .ok trace.slot := by
  obtain ⟨draft, s, hs, hpart, hbuilt⟩ := exists_built fills_slot hh h
  rw [hs, Option.some.inj (hpart.symm.trans hbuilt.slot)]

/-- **The value is what its text is read as.** -/
theorem value_of_holds (h : decoder node = .ok trace) (hh : schema.Holds "value" text node) :
    Json.wide (.text (some text)) = .ok trace.value := by
  obtain ⟨draft, w, hw, hpart, hbuilt⟩ := exists_built fills_value hh h
  rw [hw, Option.some.inj (hpart.symm.trans hbuilt.value)]

/-- **The hashes and the key are the texts as they stand.** -/
theorem text_of_holds (h : decoder node = .ok trace) :
    (schema.Holds "parent_hash" text node → trace.parentHash = text)
      ∧ (schema.Holds "block_hash" text node → trace.blockHash = text)
      ∧ (schema.Holds "builder_pubkey" text node → trace.builderPubkey = text) := by
  refine ⟨fun hh => ?_, fun hh => ?_, fun hh => ?_⟩
  · obtain ⟨draft, s, hs, hpart, hbuilt⟩ := exists_built fills_parentHash hh h
    obtain rfl := Except.ok.inj hs
    exact Option.some.inj (hbuilt.parentHash.symm.trans hpart)
  · obtain ⟨draft, s, hs, hpart, hbuilt⟩ := exists_built fills_blockHash hh h
    obtain rfl := Except.ok.inj hs
    exact Option.some.inj (hbuilt.blockHash.symm.trans hpart)
  · obtain ⟨draft, s, hs, hpart, hbuilt⟩ := exists_built fills_builderPubkey hh h
    obtain rfl := Except.ok.inj hs
    exact Option.some.inj (hbuilt.builderPubkey.symm.trans hpart)

/-- **The slot of a trace is in range.** -/
theorem yields_trace : Json.Yields decoder fun trace => trace.slot.inRange = true := by
  intro node trace h
  have hkeeps : ∀ field ∈ schema.fields,
      Json.Schema.Keeps (fun draft : Draft => ∀ s ∈ draft.slot, s.inRange = true) field := by
    intro field hfield draft json draft' hq hread
    by_cases hname : field.name = "slot"
    · obtain rfl : field = schema.fields[0] :=
        List.inj_on_of_nodup_map (by decide) hfield (List.getElem_mem _) hname
      obtain ⟨s, hs, rfl⟩ := Json.exists_of_map_eq_ok hread
      exact fun t ht => Option.mem_some.mp ht ▸ Json.yields_slot json s hs
    · rw [(keeps_of_read hfield hread).slot hname]
      exact hq
  obtain ⟨draft, hdraft, hbuild⟩ := Json.Schema.exists_draft (by simp [schema]) hkeeps h
  exact hdraft _ (built_of_build hbuild).slot

/-- **When a trace arrived**: seconds count where their milliseconds fit a word. -/
theorem receivedMs?_eq_some_iff {ms : Int64} : trace.receivedMs? = some ms
    ↔ trace.timestampMs = some ms
      ∨ trace.timestampMs = none ∧ ∃ seconds, trace.timestamp = some seconds
        ∧ ms.toInt = seconds.toInt * 1000 := by
  have hthousand : (1000 : Int64).toInt = 1000 := by decide
  unfold receivedMs?
  cases trace.timestampMs with
  | some reported => simp
  | none => simp [Option.bind_eq_some_iff, Word.mul?_eq_some_iff, hthousand]

end BidArchive.Relay.Trace
