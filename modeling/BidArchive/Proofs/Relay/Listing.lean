import BidArchive.Feed.Delivery
import BidArchive.Proofs.Json.Codec
import BidArchive.Proofs.Json.Order
import BidArchive.Proofs.Relay.Trace
import BidArchive.Relay.Client

/-!
# Which traces are read

Relays write traces as objects whose members stand in any order, with further members between
them. A trace is read if and only if its own members are listable (`listable_iff`): each comes at
most once, none of those that are required is missing, and each holds a value of its kind. Nothing
else matters, neither the order nor what other members hold (`lawful`).

A list of traces stands or falls with each of them, and what is made of it is one batch with a bid
for each trace, in their order. The empty list makes none (`traces_of_members`).
-/

namespace BidArchive.Relay.Trace

open Json (Node Number)
open Json.Schema (Accepts)
open Numeral (Spells)

variable {members members' : List (Option String × Node)} {node : Node} {trace : Trace}

/-! ## The fields of a trace -/

/-- What is required suffices to build a trace. -/
theorem exists_build {draft : Draft} (h : ∀ field ∈ schema.fields, field.presence = .required →
    field.isSet draft = true) : ∃ trace, schema.build draft = some trace := by
  -- the build stops at the first part that is missing, and these eight are there
  have hset (i : Nat) (hi : i < schema.fields.length)
      (hrequired : schema.fields[i].presence = .required) :
      schema.fields[i].isSet draft = true := h _ (List.getElem_mem hi) hrequired
  obtain ⟨slot, hslot⟩ := Option.isSome_iff_exists.mp (hset 0 (by decide) rfl)
  obtain ⟨parent, hparent⟩ := Option.isSome_iff_exists.mp (hset 1 (by decide) rfl)
  obtain ⟨block, hblock⟩ := Option.isSome_iff_exists.mp (hset 2 (by decide) rfl)
  obtain ⟨builder, hbuilder⟩ := Option.isSome_iff_exists.mp (hset 3 (by decide) rfl)
  obtain ⟨proposer, hproposer⟩ := Option.isSome_iff_exists.mp (hset 4 (by decide) rfl)
  obtain ⟨recipient, hrecipient⟩ := Option.isSome_iff_exists.mp (hset 5 (by decide) rfl)
  obtain ⟨value, hvalue⟩ := Option.isSome_iff_exists.mp (hset 6 (by decide) rfl)
  obtain ⟨number, hnumber⟩ := Option.isSome_iff_exists.mp (hset 7 (by decide) rfl)
  refine Option.isSome_iff_exists.mp ?_
  simp [schema, hslot, hparent, hblock, hbuilder, hproposer, hrecipient, hvalue, hnumber]

/-- **Each field of a trace has a place of its own**, so that its members can be read in any
order. -/
theorem lawful : schema.Lawful where
  distinct := by decide
  fresh := by
    intro field hfield
    simp only [schema, List.mem_cons, List.not_mem_nil, or_false] at hfield
    rcases hfield with rfl | rfl | rfl | rfl | rfl | rfl | rfl | rfl | rfl | rfl | rfl
    all_goals rfl
  steady := by
    intro field hfield draft draft' json d h
    simp only [schema, List.mem_cons, List.not_mem_nil, or_false] at hfield
    rcases hfield with rfl | rfl | rfl | rfl | rfl | rfl | rfl | rfl | rfl | rfl | rfl
    all_goals
      obtain ⟨x, hx, -⟩ := Json.exists_of_map_eq_ok h
      exact ⟨_, congrArg (Except.map _) hx⟩
  marks := by
    intro field hfield draft json d h
    simp only [schema, List.mem_cons, List.not_mem_nil, or_false] at hfield
    rcases hfield with rfl | rfl | rfl | rfl | rfl | rfl | rfl | rfl | rfl | rfl | rfl
    all_goals
      obtain ⟨x, -, rfl⟩ := Json.exists_of_map_eq_ok h
      rfl
  spares := by
    intro field hfield other hother hname draft json d h
    simp only [schema, List.mem_cons, List.not_mem_nil, or_false] at hfield hother
    rcases hfield with rfl | rfl | rfl | rfl | rfl | rfl | rfl | rfl | rfl | rfl | rfl
    all_goals
      obtain ⟨x, -, rfl⟩ := Json.exists_of_map_eq_ok h
      rcases hother with rfl | rfl | rfl | rfl | rfl | rfl | rfl | rfl | rfl | rfl | rfl
      all_goals first | rfl | exact absurd rfl hname
  commutes := by
    intro field hfield other hother hname draft json json' d d' h h'
    simp only [schema, List.mem_cons, List.not_mem_nil, or_false] at hfield hother
    rcases hfield with rfl | rfl | rfl | rfl | rfl | rfl | rfl | rfl | rfl | rfl | rfl
    -- each field writes one part of the draft, so that both orders lead to one draft
    all_goals
      obtain ⟨x, hx, rfl⟩ := Json.exists_of_map_eq_ok h
      rcases hother with rfl | rfl | rfl | rfl | rfl | rfl | rfl | rfl | rfl | rfl | rfl
      all_goals
        first
        | exact absurd rfl hname
        | obtain ⟨y, hy, rfl⟩ := Json.exists_of_map_eq_ok h'
          exact ⟨_, congrArg (Except.map _) hy, congrArg (Except.map _) hx⟩
  builds := fun _ h => exists_build h

/-! ## Listable members -/

/-- The names of the members of a trace, in their order. -/
def names : List String :=
  ["slot", "parent_hash", "block_hash", "builder_pubkey", "proposer_pubkey",
    "proposer_fee_recipient", "value", "block_number", "timestamp", "timestamp_ms",
    "optimistic_submission"]

/-- The names of the members that may not be left out. -/
def requiredNames : List String :=
  ["slot", "parent_hash", "block_hash", "builder_pubkey", "proposer_pubkey",
    "proposer_fee_recipient", "value", "block_number"]

/-- The names of the members that are taken as they stand. -/
def textNames : List String :=
  ["parent_hash", "block_hash", "builder_pubkey", "proposer_pubkey", "proposer_fee_recipient"]

theorem map_name_fields : schema.fields.map Json.Field.name = names := rfl

theorem map_name_required :
    (schema.fields.filter fun field => field.presence == .required).map Json.Field.name
      = requiredNames := rfl

/-- The members of an object make a trace: all names can be read, none of a trace comes twice, none
that is required is missing, and each of them holds what belongs there. -/
structure Listable (members : List (Option String × Node)) : Prop where
  named : ∀ member ∈ members, member.1.isSome = true
  once : ∀ name ∈ names, (members.map Prod.fst).count (some name) ≤ 1
  present : ∀ name ∈ requiredNames, some name ∈ members.map Prod.fst
  texts : ∀ name ∈ textNames, ∀ node, (some name, node) ∈ members →
    ∃ text, node = .text (some text)
  slot : ∀ node, (some "slot", node) ∈ members →
    ∃ text slot, node = .text (some text) ∧ Json.slot node = .ok slot
  value : ∀ node, (some "value", node) ∈ members →
    ∃ text value, node = .text (some text) ∧ Json.wide node = .ok value
  blockNumber : ∀ node, (some "block_number", node) ∈ members →
    ∃ text number, node = .text (some text) ∧ Json.unsignedWord node = .ok number
  times : ∀ name ∈ ["timestamp", "timestamp_ms"], ∀ node, (some name, node) ∈ members →
    node = .null ∨ node = .text (some "")
      ∨ ∃ (text : String) (n : Int64), node = .text (some text) ∧ Spells text n.toInt
  optimistic : ∀ node, (some "optimistic_submission", node) ∈ members → ∃ b, node = .bool b

/-- The fields take their values if and only if the codecs do. -/
theorem accepted_iff :
    (∀ field ∈ schema.fields, ∀ node, (some field.name, node) ∈ members → Accepts field node)
      ↔ (∀ node, (some "slot", node) ∈ members → ∃ x, Json.slot node = .ok x)
        ∧ (∀ name ∈ textNames, ∀ node, (some name, node) ∈ members → ∃ x, Json.string node = .ok x)
        ∧ (∀ node, (some "value", node) ∈ members → ∃ x, Json.wide node = .ok x)
        ∧ (∀ node, (some "block_number", node) ∈ members → ∃ x, Json.unsignedWord node = .ok x)
        ∧ (∀ name ∈ ["timestamp", "timestamp_ms"], ∀ node, (some name, node) ∈ members →
          ∃ x, Json.optionalWord node = .ok x)
        ∧ (∀ node, (some "optimistic_submission", node) ∈ members →
          ∃ x, Json.boolean node = .ok x) := by
  simp only [schema, textNames, List.forall_mem_cons, Json.Schema.accepts_iff ({} : Draft),
    and_assoc]
  simp only [List.not_mem_nil, false_implies, implies_true, true_and, and_true]

/-- No word, or one that is spelled. -/
theorem exists_optionalWord_iff : (∃ x, Json.optionalWord node = .ok x)
    ↔ node = .null ∨ node = .text (some "")
      ∨ ∃ (text : String) (n : Int64), node = .text (some text) ∧ Spells text n.toInt := by
  constructor
  · rintro ⟨x, hx⟩
    cases x with
    | none =>
        rcases Json.isAbsent_iff.mp (Json.optionalWord_eq_none_iff.mp hx) with h | h
        · exact Or.inl h
        · exact Or.inr (Or.inl h)
    | some n =>
        obtain ⟨text, htext, hspells⟩ := Json.optionalWord_eq_some_iff.mp hx
        exact Or.inr (Or.inr ⟨text, n, htext, hspells⟩)
  · rintro (h | h | ⟨text, n, htext, hspells⟩)
    · exact ⟨none, Json.optionalWord_eq_none_iff.mpr (Json.isAbsent_iff.mpr (Or.inl h))⟩
    · exact ⟨none, Json.optionalWord_eq_none_iff.mpr (Json.isAbsent_iff.mpr (Or.inr h))⟩
    · exact ⟨some n, Json.optionalWord_eq_some_iff.mpr ⟨text, htext, hspells⟩⟩

/-- **The members that a trace is read from are the listable ones.** -/
theorem listable_iff (hw : ∀ member ∈ members, member.2.whole = true) :
    (∃ trace, decoder (.object members false) = .ok trace) ↔ Listable members := by
  have honce : (∀ field ∈ schema.fields, (field.isSet schema.empty).toNat
        + (members.map Prod.fst).count (some field.name) ≤ 1)
      ↔ ∀ name ∈ names, (members.map Prod.fst).count (some name) ≤ 1 := by
    rw [← map_name_fields, List.forall_mem_map]
    refine forall₂_congr fun field hfield => ?_
    rw [lawful.fresh field hfield, Bool.toNat_false, Nat.zero_add]
  have hpresent : (∀ field ∈ schema.fields, field.presence = .required →
        some field.name ∈ members.map Prod.fst)
      ↔ ∀ name ∈ requiredNames, some name ∈ members.map Prod.fst := by
    rw [← map_name_required, List.forall_mem_map]
    simp only [List.mem_filter, beq_iff_eq, and_imp]
  refine lawful.decodes_iff.trans ?_
  rw [hpresent]
  constructor
  · rintro ⟨h, hrequired⟩
    obtain ⟨hslot, htexts, hvalue, hnumber, htimes, hoptimistic⟩ := accepted_iff.mp h.accepted
    exact {
      named := h.named
      once := honce.mp h.once
      present := hrequired
      texts := fun name hname node hmem => by
        obtain ⟨text, htext⟩ := htexts name hname node hmem
        exact ⟨text, Json.string_eq_ok_iff.mp htext⟩
      slot := fun node hmem => Json.exists_stringBy_iff.mp (hslot node hmem)
      value := fun node hmem => Json.exists_stringBy_iff.mp (hvalue node hmem)
      blockNumber := fun node hmem => Json.exists_stringBy_iff.mp (hnumber node hmem)
      times := fun name hname node hmem => exists_optionalWord_iff.mp (htimes name hname node hmem)
      optimistic := fun node hmem => by
        obtain ⟨b, hb⟩ := hoptimistic node hmem
        exact ⟨b, Json.boolean_eq_ok_iff.mp hb⟩ }
  · intro h
    refine ⟨⟨h.named, honce.mpr h.once, accepted_iff.mpr ⟨?_, ?_, ?_, ?_, ?_, ?_⟩, ?_⟩, h.present⟩
    · exact fun node hmem => Json.exists_stringBy_iff.mpr (h.slot node hmem)
    · intro name hname node hmem
      obtain ⟨text, htext⟩ := h.texts name hname node hmem
      exact ⟨text, Json.string_eq_ok_iff.mpr htext⟩
    · exact fun node hmem => Json.exists_stringBy_iff.mpr (h.value node hmem)
    · exact fun node hmem => Json.exists_stringBy_iff.mpr (h.blockNumber node hmem)
    · exact fun name hname node hmem => exists_optionalWord_iff.mpr (h.times name hname node hmem)
    · intro node hmem
      obtain ⟨b, hb⟩ := h.optimistic node hmem
      exact ⟨b, Json.boolean_eq_ok_iff.mpr hb⟩
    · exact fun name node hmem _ => hw _ hmem

/-! ## Lists of traces -/

/-- What is read of an object of all eleven members is what is read of the array of their values. -/
theorem decoder_object_iff_array {values : List Node}
    (hw : ∀ member ∈ members, member.2.whole = true) (hlen : values.length = names.length)
    (hp : (members.filter schema.isKnown).Perm ((names.map some).zip values)) :
    decoder (.object members false) = .ok trace ↔ decoder (.array values false) = .ok trace := by
  -- the known members are the names with the values, so that these can be read to their end too
  have hzip : ∀ member ∈ (names.map some).zip values, member.2.whole = true := by
    intro member hmem
    exact hw member (List.mem_of_mem_filter (hp.mem_iff.mpr hmem))
  have hknown : ((names.map some).zip values).filter schema.isKnown
      = (names.map some).zip values := by
    rw [List.filter_eq_self]
    intro member hmem
    exact (List.mem_filter.mp (hp.mem_iff.mpr hmem)).2
  have harray : decoder (.object ((names.map some).zip values) false)
      = decoder (.array values false) := lawful.decoder_zip hlen
  rw [← harray]
  rw [← hknown] at hp
  exact ⟨lawful.decoder_congr hw hzip hp, lawful.decoder_congr hzip hw hp.symm⟩

/-- A list in a reply is read if and only if all traces in it are. -/
theorem readTraces_eq_ok_iff {relay : Entry} {slot : Chain.Slot} {response : Http.Response}
    {nodes : List Node} {cut : Bool} (hs : response.status = .ok)
    (hr : Json.read response.body = ⟨.array nodes cut, true⟩) {traces : List Trace} :
    relay.readTraces slot (.response response) = .ok traces
      ↔ List.Forall₂ (fun node trace => decoder node = .ok trace) nodes traces := by
  obtain ⟨hwhole, hdecode⟩ : (Node.array nodes cut).whole = true
      ∧ Json.decodeBytes (Json.list decoder) response.body = Json.list decoder (.array nodes cut) :=
    Json.whole_and_decodeBytes_of_read hr
  obtain ⟨rfl, -⟩ := Json.whole_array_iff.mp hwhole
  unfold Entry.readTraces
  dsimp only
  rw [if_pos hs, Json.mapError_eq_ok_iff, Http.Response.json, hdecode, Json.list_eq_ok_iff]

/-- **Traces are read from their own members**, of texts that hold them.

A text stands for a whole value and is read as it. An object is read if and only if its members
are listable, and what is read of it depends on the members of a trace alone, in any order, and is
what is read of an array of their values. A list of traces is read if and only if each of them is,
and unless it is empty one batch is handed on, with a bid for each trace in their order. -/
theorem traces_of_members :
    (∀ bytes node, Json.read bytes = ⟨node, true⟩ →
        node.whole = true ∧ Json.decodeBytes decoder bytes = decoder node)
      ∧ (∀ members, (Node.object members false).whole = true →
        ((∃ trace, decoder (.object members false) = .ok trace) ↔ Listable members))
      ∧ (∀ members members', (Node.object members false).whole = true →
        (Node.object members' false).whole = true →
        (members.filter schema.isKnown).Perm (members'.filter schema.isKnown) →
        ∀ trace, decoder (.object members false) = .ok trace
          ↔ decoder (.object members' false) = .ok trace)
      ∧ (∀ members values, (Node.object members false).whole = true →
        values.length = names.length →
        (members.filter schema.isKnown).Perm ((names.map some).zip values) →
        ∀ trace, decoder (.object members false) = .ok trace
          ↔ decoder (.array values false) = .ok trace)
      ∧ (∀ (relay : Entry) slot offsetMs nowMs (response : Http.Response) nodes cut,
        response.status = .ok → Json.read response.body = ⟨.array nodes cut, true⟩ →
        ((∃ traces, relay.readTraces slot (.response response) = .ok traces)
            ↔ ∀ node ∈ nodes, ∃ trace, decoder node = .ok trace)
          ∧ ∀ traces, relay.readTraces slot (.response response) = .ok traces →
            List.Forall₂ (fun node trace => decoder node = .ok trace) nodes traces
              ∧ (Feed.Delivery.ofTraces relay.hostname slot offsetMs nowMs
                  (relay.readTraces slot (.response response))).batches
                = if nodes = [] then []
                  else [traces.map fun trace => Bid.ofTrace trace relay.hostname nowMs]) := by
  refine ⟨fun bytes node h => Json.whole_and_decodeBytes_of_read h, ?_, ?_, ?_, ?_⟩
  · intro members hw
    exact listable_iff (Json.whole_object_iff.mp hw).2
  · intro members members' hw hw' hp trace
    have hwhole := (Json.whole_object_iff.mp hw).2
    have hwhole' := (Json.whole_object_iff.mp hw').2
    exact ⟨lawful.decoder_congr hwhole hwhole' hp, lawful.decoder_congr hwhole' hwhole hp.symm⟩
  · intro members values hw hlen hp trace
    exact decoder_object_iff_array (Json.whole_object_iff.mp hw).2 hlen hp
  · intro relay slot offsetMs nowMs response nodes cut hs hr
    constructor
    · simp only [readTraces_eq_ok_iff hs hr]
      rw [← Json.exists_list_iff]
      simp only [Json.list_eq_ok_iff]
    · intro traces htraces
      have hall := (readTraces_eq_ok_iff hs hr).mp htraces
      refine ⟨hall, ?_⟩
      rw [htraces, Feed.Delivery.ofTraces, Feed.Delivery.batches]
      cases hall with
      | nil => rfl
      | cons hnode hrest => rfl

/-- The values of a trace that was received at no time. -/
def listedValues : List Node :=
  [.text (some "7"), .text (some "0xc"), .text (some "0xA"), .text (some "0xB"),
    .text (some "0xD"), .text (some "0xE"), .text (some "0x10"), .text (some "+1"), .null,
    .text (some ""), .bool true]

/-- These values as members from the last to the first, behind one that is unknown. -/
def shuffledMembers : List (Option String × Node) :=
  (some "gas_used", .number none) :: ((names.map some).zip listedValues).reverse

/-- The trace of these values. -/
def listedTrace : Trace where
  slot := ⟨7⟩
  parentHash := "0xc"
  blockHash := "0xA"
  builderPubkey := "0xB"
  proposerPubkey := "0xD"
  proposerFeeRecipient := "0xE"
  value := 16
  blockNumber := 1
  timestamp := none
  timestampMs := none
  optimisticSubmission := true

/-- The trace is read from the shuffled members, and these are listable. -/
theorem trace_of_shuffled : (Node.object shuffledMembers false).whole = true
    ∧ (shuffledMembers.filter schema.isKnown).Perm ((names.map some).zip listedValues)
    ∧ decoder (.array listedValues false) = .ok listedTrace
    ∧ decoder (.object shuffledMembers false) = .ok listedTrace ∧ Listable shuffledMembers := by
  have hw : (Node.object shuffledMembers false).whole = true := by decide
  have hp : (shuffledMembers.filter schema.isKnown).Perm ((names.map some).zip listedValues) := by
    have hknown : shuffledMembers.filter schema.isKnown
        = ((names.map some).zip listedValues).reverse := rfl
    rw [hknown]
    exact List.reverse_perm _
  have harray : decoder (.array listedValues false) = .ok listedTrace := by decide +kernel
  have hobject : decoder (.object shuffledMembers false) = .ok listedTrace :=
    (traces_of_members.2.2.2.1 shuffledMembers listedValues hw rfl hp listedTrace).mpr harray
  exact ⟨hw, hp, harray, hobject,
    (traces_of_members.2.1 shuffledMembers hw).mp ⟨listedTrace, hobject⟩⟩

/-- The members of a trace, as text. -/
def listedText : String :=
  "\"slot\":\"7\",\"parent_hash\":\"\",\"block_hash\":\"\",\"builder_pubkey\":\"\","
    ++ "\"proposer_pubkey\":\"\",\"proposer_fee_recipient\":\"\",\"value\":\"5\","
    ++ "\"block_number\":\"0\""

/-- **The empty list is read, and no batch is handed on.** And a further member whose name is one
half of a surrogate pair keeps a trace from being read, though the text is complete. -/
theorem empty_list_unsent :
    (Entry.plain "relay.one" none).readTraces ⟨7⟩
        (.response { status := .ok, body := "[]".toUTF8.toList }) = .ok []
      ∧ (Feed.Delivery.ofTraces "relay.one" ⟨7⟩ 0 0 ((Entry.plain "relay.one" none).readTraces ⟨7⟩
          (.response { status := .ok, body := "[]".toUTF8.toList }))).batches = []
      ∧ (∃ trace, Json.decode decoder ("\x7b" ++ listedText ++ "\x7d") = .ok trace)
      ∧ (Json.read ("\x7b\"\\ud800\":0," ++ listedText ++ "\x7d").toUTF8.toList).complete = true
      ∧ Json.decode decoder ("\x7b\"\\ud800\":0," ++ listedText ++ "\x7d") = .error .malformed := by
  refine ⟨by decide +kernel, by decide +kernel, ?_, by decide +kernel, by decide +kernel⟩
  exact ⟨⟨⟨7⟩, "", "", "", "", "", 5, 0, none, none, false⟩, by decide +kernel⟩

end BidArchive.Relay.Trace
