import Mathlib.Data.List.Induction
import BidArchive.Beacon.Duties
import BidArchive.Proofs.Chain.Starts

/-!
# Refreshing duties

Duties are refreshed over and over, for epochs in any order and from a node that may answer or fail
as it likes. What a refresh may come to is listed in `Refresh.Proper`: it keeps what was loaded for
its epoch, or fails at its first or second question and changes nothing, or gets both answers and
loads them. A run is a list of such refreshes, each of which begins where the one before it ended
(`Linked`), and the known proposers are at all times those of the last load.

Two epochs are loaded at once, so the slot after any of the first of them is covered.
-/

namespace BidArchive.Beacon

open Chain (Slot Epoch)

variable {σ ε : Type}

/-! ## Runs -/

/-- The node was asked for the duties of an epoch. -/
structure Exchange (ε : Type) where
  asked : Epoch
  answer : Except ε (List Duty)

/-- The answer, unless it is a failure, lists every slot of the epoch. -/
def Exchange.Complete (exchange : Exchange ε) : Prop :=
  ∀ duties, exchange.answer = .ok duties → ∀ slot : Slot, slot.epoch = exchange.asked →
    ∃ duty ∈ duties, duty.slot = slot

/-- The node that notes down, in order, which duties it was asked for and what it answered. -/
def Node.noting (node : Node σ ε) : Node (σ × List (Exchange ε)) ε where
  duties epoch state :=
    let (answer, inner) := node.duties epoch state.1
    (answer, inner, state.2 ++ [⟨epoch, answer⟩])
  blockHash root state :=
    let (answer, inner) := node.blockHash root state.1
    (answer, inner, state.2)

/-- A refresh of duties: what was asked for it, how it ended, and the duties before and after it. -/
structure Refresh (ε : Type) where
  epoch : Epoch
  exchanges : List (Exchange ε)
  ending : Loading ε
  before : Duties
  after : Duties

/-- Refreshes duties for an epoch, and notes down what happens. -/
def refreshNoting (node : Node σ ε) (epoch : Epoch) (duties : Duties) (state : σ) :
    Refresh ε × σ :=
  let (ending, after, inner) := duties.refresh node epoch state
  let exchanges := (duties.refresh node.noting epoch (state, [])).2.2.2
  (⟨epoch, exchanges, ending, duties, after⟩, inner)

/-- Refreshes duties for one epoch after the other. -/
def refreshes (node : Node σ ε) : List Epoch → Duties → σ → List (Refresh ε)
  | [], _, _ => []
  | epoch :: rest, duties, state =>
    let (refresh, state) := refreshNoting node epoch duties state
    refresh :: refreshes node rest refresh.after state

variable {node : Node σ ε} {epoch next : Epoch} {slot : Slot} {run past later : List (Refresh ε)}
  {r : Refresh ε}

/-! ## One refresh -/

namespace Refresh

/-- What a refresh may come to, if the epoch after its own has a number. -/
inductive Proper : Refresh ε → Prop
  | kept (epoch : Epoch) (duties : Duties) (h : duties.loaded = some epoch) :
    Proper ⟨epoch, [], .kept, duties, duties⟩
  | failedFirst (epoch next : Epoch) (duties : Duties) (cause : ε) (h : duties.loaded ≠ some epoch)
    (hnext : epoch.later? 1 = some next) :
    Proper ⟨epoch, [⟨epoch, .error cause⟩], .failed cause, duties, duties⟩
  | failedSecond (epoch next : Epoch) (duties : Duties) (first : List Duty) (cause : ε)
    (h : duties.loaded ≠ some epoch) (hnext : epoch.later? 1 = some next) :
    Proper ⟨epoch, [⟨epoch, .ok first⟩, ⟨next, .error cause⟩], .failed cause, duties, duties⟩
  | loaded (epoch next : Epoch) (duties : Duties) (first second : List Duty)
    (h : duties.loaded ≠ some epoch) (hnext : epoch.later? 1 = some next) :
    Proper ⟨epoch, [⟨epoch, .ok first⟩, ⟨next, .ok second⟩], .loaded, duties,
      Duties.ofAnswers epoch first second⟩

/-- What the refresh loads: all duties of the two answers, if there are two. -/
def loads? (r : Refresh ε) : Option (Epoch × List Duty) :=
  match r.exchanges with
  | [⟨_, .ok first⟩, ⟨_, .ok second⟩] => some (r.epoch, first ++ second)
  | _ => none

end Refresh

namespace Duties

variable {duties : Duties} {state : σ} {cause : ε} {first second : List Duty} {s₁ s₂ : σ}

theorem refresh_of_loaded (node : Node σ ε) (h : duties.loaded = some epoch) (state : σ) :
    duties.refresh node epoch state = (.kept, duties, state) :=
  if_pos h

theorem refresh_of_first_error (h : duties.loaded ≠ some epoch)
    (hnext : epoch.later? 1 = some next) (hfirst : node.duties epoch state = (.error cause, s₁)) :
    duties.refresh node epoch state = (.failed cause, duties, s₁) := by
  simp only [refresh, if_neg h, hnext, hfirst]

theorem refresh_of_second_error (h : duties.loaded ≠ some epoch)
    (hnext : epoch.later? 1 = some next) (hfirst : node.duties epoch state = (.ok first, s₁))
    (hsecond : node.duties next s₁ = (.error cause, s₂)) :
    duties.refresh node epoch state = (.failed cause, duties, s₂) := by
  simp only [refresh, if_neg h, hnext, hfirst, hsecond]

theorem refresh_of_answers (h : duties.loaded ≠ some epoch)
    (hnext : epoch.later? 1 = some next) (hfirst : node.duties epoch state = (.ok first, s₁))
    (hsecond : node.duties next s₁ = (.ok second, s₂)) :
    duties.refresh node epoch state = (.loaded, ofAnswers epoch first second, s₂) := by
  simp only [refresh, if_neg h, hnext, hfirst, hsecond]

end Duties

theorem Node.noting_duties {answer : Except ε (List Duty)} {state inner : σ}
    (h : node.duties epoch state = (answer, inner)) (notes : List (Exchange ε)) :
    node.noting.duties epoch (state, notes) = (answer, inner, notes ++ [⟨epoch, answer⟩]) := by
  show ((node.duties epoch state).1, (node.duties epoch state).2,
    notes ++ [⟨epoch, (node.duties epoch state).1⟩]) = _
  rw [h]

/-- **What a refresh comes to.** -/
theorem proper_refreshNoting (hnext : epoch.later? 1 = some next) (node : Node σ ε)
    (duties : Duties) (state : σ) : (refreshNoting node epoch duties state).1.Proper := by
  unfold refreshNoting
  by_cases hl : duties.loaded = some epoch
  · rw [Duties.refresh_of_loaded node hl, Duties.refresh_of_loaded node.noting hl]
    exact .kept epoch duties hl
  · rcases hfirst : node.duties epoch state with ⟨first | first, s₁⟩
    · rw [Duties.refresh_of_first_error hl hnext hfirst,
        Duties.refresh_of_first_error hl hnext (Node.noting_duties hfirst [])]
      exact .failedFirst epoch next duties first hl hnext
    · rcases hsecond : node.duties next s₁ with ⟨second | second, s₂⟩
      · rw [Duties.refresh_of_second_error hl hnext hfirst hsecond,
          Duties.refresh_of_second_error hl hnext (Node.noting_duties hfirst [])
            (Node.noting_duties hsecond _)]
        exact .failedSecond epoch next duties first second hl hnext
      · rw [Duties.refresh_of_answers hl hnext hfirst hsecond,
          Duties.refresh_of_answers hl hnext (Node.noting_duties hfirst [])
            (Node.noting_duties hsecond _)]
        exact .loaded epoch next duties first second hl hnext

namespace Refresh.Proper

/-- What is asked is the epoch's duties, then those of the next one. -/
theorem asked (h : r.Proper) (hnext : r.epoch.later? 1 = some next) :
    r.exchanges.map (·.asked) <+: [r.epoch, next] := by
  cases h with
  | kept => exact List.nil_prefix
  | failedFirst => exact ⟨_, rfl⟩
  | failedSecond epoch next' _ _ _ _ hnext' | loaded epoch next' _ _ _ _ hnext' =>
      obtain rfl : next = next' := Option.some.inj (hnext.symm.trans hnext')
      exact List.prefix_refl _

theorem exchanges_eq_nil_iff (h : r.Proper) :
    r.exchanges = [] ↔ r.before.loaded = some r.epoch := by
  cases h with
  | kept _ _ hl => exact iff_of_true rfl hl
  | failedFirst _ _ _ _ hl | failedSecond _ _ _ _ _ hl | loaded _ _ _ _ _ hl =>
      exact iff_of_false (List.cons_ne_nil _ _) hl

/-- An epoch that is not loaded is asked for. -/
theorem exists_exchange (h : r.Proper) (hl : r.before.loaded ≠ some r.epoch) :
    ∃ answer, ⟨r.epoch, answer⟩ ∈ r.exchanges := by
  cases h with
  | kept _ _ h => exact absurd h hl
  | failedFirst | failedSecond | loaded => exact ⟨_, List.mem_cons_self⟩

/-- **A failure changes nothing.** -/
theorem of_error (h : r.Proper) {exchange : Exchange ε} {cause : ε}
    (hmem : exchange ∈ r.exchanges) (herror : exchange.answer = .error cause) :
    r.ending = .failed cause ∧ r.after = r.before ∧ r.before.loaded ≠ some r.epoch := by
  cases h with
  | kept => exact absurd hmem List.not_mem_nil
  | failedFirst _ _ _ _ hl =>
      obtain rfl := List.mem_singleton.mp hmem
      obtain rfl := Except.error.inj herror
      exact ⟨rfl, rfl, hl⟩
  | failedSecond _ _ _ _ _ hl =>
      rcases List.mem_cons.mp hmem with rfl | hmem
      · exact absurd herror (by simp)
      · obtain rfl := List.mem_singleton.mp hmem
        obtain rfl := Except.error.inj herror
        exact ⟨rfl, rfl, hl⟩
  | loaded =>
      rcases List.mem_cons.mp hmem with rfl | hmem
      · exact absurd herror (by simp)
      · obtain rfl := List.mem_singleton.mp hmem
        exact absurd herror (by simp)

theorem isSome_loads?_iff (h : r.Proper) : r.loads?.isSome ↔ r.ending = .loaded := by
  cases h <;> simp [loads?]

/-- A refresh that loads nothing changes nothing. -/
theorem after_of_loads?_none (h : r.Proper) (hnone : r.loads? = none) : r.after = r.before := by
  cases h with
  | kept | failedFirst | failedSecond => rfl
  | loaded => exact absurd hnone (Option.some_ne_none _)

/-- What is loaded are two answers, for the epoch and for the one after it. -/
theorem exists_answers (h : r.Proper) {load : Epoch × List Duty} (hload : r.loads? = some load) :
    ∃ next first second, r.epoch.later? 1 = some next
      ∧ r.exchanges = [⟨r.epoch, .ok first⟩, ⟨next, .ok second⟩]
      ∧ load = (r.epoch, first ++ second) ∧ r.after = Duties.ofAnswers r.epoch first second := by
  cases h with
  | kept | failedFirst | failedSecond => exact absurd hload.symm (Option.some_ne_none _)
  | loaded epoch next _ first second _ hnext =>
      exact ⟨next, first, second, hnext, rfl, (Option.some.inj hload).symm, rfl⟩

theorem loaded_cases (h : r.Proper) :
    r.after.loaded = r.before.loaded ∨ r.after.loaded = some r.epoch := by
  cases h with
  | kept | failedFirst | failedSecond => exact Or.inl rfl
  | loaded => exact Or.inr rfl

end Refresh.Proper

/-! ## The table of proposers -/

/-- The proposer of a slot by a list of duties: the key of its last entry, in normal form. -/
def proposerIn (duties : List Duty) (slot : Slot) : Option String :=
  (duties.reverse.find? (·.slot = slot)).map fun duty => normalHex duty.pubkey

theorem find?_assign (proposers : List (Slot × String)) (duty : Duty) (slot : Slot) :
    (assign proposers duty).find? (·.1 = slot)
      = if duty.slot = slot then some (duty.slot, normalHex duty.pubkey)
        else proposers.find? (·.1 = slot) := by
  unfold assign
  by_cases h : duty.slot = slot
  · rw [if_pos h]
    exact List.find?_cons_of_pos (decide_eq_true h)
  · rw [if_neg h, List.find?_cons_of_neg (by simpa using h), List.find?_filter]
    refine congrFun (congrArg List.find? (funext fun entry => ?_)) proposers
    by_cases he : entry.1 = slot
    · simp [he, Ne.symm h]
    · simp [he]

/-- **The table that two answers make** has for a slot the last entry of one behind the other. -/
theorem proposer?_ofAnswers (epoch : Epoch) (first second : List Duty) (slot : Slot) :
    (Duties.ofAnswers epoch first second).proposer? slot = proposerIn (first ++ second) slot := by
  unfold Duties.proposer? Duties.ofAnswers
  dsimp only
  -- from the end, where the entry that counts is
  induction first ++ second using List.reverseRecOn with
  | nil => rfl
  | append_singleton duties duty ih =>
      rw [List.foldl_append, List.foldl_cons, List.foldl_nil, find?_assign]
      unfold proposerIn
      rw [List.reverse_append, List.reverse_singleton, List.singleton_append]
      by_cases h : duty.slot = slot
      · rw [if_pos h, List.find?_cons, decide_eq_true h]
        rfl
      · rw [if_neg h, List.find?_cons, decide_eq_false h]
        exact ih

theorem isSome_proposerIn {duties : List Duty} (h : ∃ duty ∈ duties, duty.slot = slot) :
    (proposerIn duties slot).isSome := by
  obtain ⟨duty, hmem, hslot⟩ := h
  unfold proposerIn
  rw [Option.isSome_map, List.find?_isSome]
  exact ⟨duty, List.mem_reverse.mpr hmem, decide_eq_true hslot⟩

/-! ## Many refreshes -/

/-- Every refresh begins with the duties that the one before it ended with. -/
def Linked : Duties → List (Refresh ε) → Prop
  | _, [] => True
  | duties, r :: rest => r.before = duties ∧ r.Proper ∧ Linked r.after rest

/-- The duties after some refreshes. -/
def leftBy : Duties → List (Refresh ε) → Duties
  | duties, [] => duties
  | _, r :: rest => leftBy r.after rest

/-- What was loaded last. -/
def lastLoad (run : List (Refresh ε)) : Option (Epoch × List Duty) :=
  (run.filterMap Refresh.loads?).getLast?

theorem linked_refreshes {epochs : List Epoch} (hnext : ∀ epoch ∈ epochs, (epoch.later? 1).isSome)
    (node : Node σ ε) (duties : Duties) (state : σ) :
    Linked duties (refreshes node epochs duties state) := by
  induction epochs generalizing duties state with
  | nil => exact trivial
  | cons epoch rest ih =>
      obtain ⟨hepoch, hrest⟩ := List.forall_mem_cons.mp hnext
      obtain ⟨next, hepoch⟩ := Option.isSome_iff_exists.mp hepoch
      exact ⟨rfl, proper_refreshNoting hepoch node duties state, ih hrest _ _⟩

theorem map_epoch_refreshes (node : Node σ ε) (epochs : List Epoch) (duties : Duties) (state : σ) :
    (refreshes node epochs duties state).map (·.epoch) = epochs := by
  induction epochs generalizing duties state with
  | nil => rfl
  | cons epoch rest ih => exact congrArg (epoch :: ·) (ih _ _)

theorem linked_append {duties : Duties} {a b : List (Refresh ε)} :
    Linked duties (a ++ b) ↔ Linked duties a ∧ Linked (leftBy duties a) b := by
  induction a generalizing duties with
  | nil => exact (and_iff_right trivial).symm
  | cons r a ih =>
      rw [List.cons_append, Linked, Linked, ih]
      exact ⟨fun ⟨hb, hp, ha, hrest⟩ => ⟨⟨hb, hp, ha⟩, hrest⟩,
        fun ⟨⟨hb, hp, ha⟩, hrest⟩ => ⟨hb, hp, ha, hrest⟩⟩

theorem leftBy_append_singleton (duties : Duties) (past : List (Refresh ε)) (r : Refresh ε) :
    leftBy duties (past ++ [r]) = r.after := by
  induction past generalizing duties with
  | nil => rfl
  | cons _ rest ih => exact ih _

theorem lastLoad_append_singleton (past : List (Refresh ε)) (r : Refresh ε) :
    lastLoad (past ++ [r]) = r.loads?.or (lastLoad past) := by
  unfold lastLoad
  rw [List.filterMap_append]
  cases h : r.loads? with
  | none => simp [h]
  | some load => simp [h]

/-- **The known proposers are those of the last load.** -/
theorem Linked.answers (h : Linked .empty run) :
    (leftBy .empty run).loaded = (lastLoad run).map (·.1)
      ∧ ∀ slot, (leftBy .empty run).proposer? slot
        = (lastLoad run).bind fun load => proposerIn load.2 slot := by
  induction run using List.reverseRecOn with
  | nil => exact ⟨rfl, fun _ => rfl⟩
  | append_singleton past r ih =>
      obtain ⟨hpast, hbefore, hproper, -⟩ := linked_append.mp h
      rw [leftBy_append_singleton, lastLoad_append_singleton]
      cases hload : r.loads? with
      | none =>
          rw [hproper.after_of_loads?_none hload, hbefore]
          exact ih hpast
      | some load =>
          obtain ⟨_, first, second, -, -, rfl, hafter⟩ := hproper.exists_answers hload
          rw [hafter]
          exact ⟨rfl, proposer?_ofAnswers r.epoch first second⟩

/-- Refreshes for other epochs do not load an epoch. -/
theorem Linked.loaded_ne {duties : Duties} (h : Linked duties run)
    (hne : duties.loaded ≠ some epoch) (hrun : ∀ r ∈ run, r.epoch ≠ epoch) :
    (leftBy duties run).loaded ≠ some epoch := by
  induction run generalizing duties with
  | nil => exact hne
  | cons r rest ih =>
      obtain ⟨hbefore, hproper, hrest⟩ := h
      obtain ⟨hr, hothers⟩ := List.forall_mem_cons.mp hrun
      refine ih hrest ?_ hothers
      rcases hproper.loaded_cases with hkept | hloaded
      · rw [hkept, hbefore]
        exact hne
      · rw [hloaded]
        exact fun hsame => hr (Option.some.inj hsame)

/-- What was loaded last was loaded by one of the refreshes. -/
theorem exists_of_lastLoad {load : Epoch × List Duty} (h : lastLoad run = some load) :
    ∃ r ∈ run, r.loads? = some load :=
  List.mem_filterMap.mp (List.mem_of_getLast? h)

theorem Linked.proper {duties : Duties} (h : Linked duties run) : ∀ r ∈ run, r.Proper := by
  induction run generalizing duties with
  | nil => exact fun _ hr => absurd hr List.not_mem_nil
  | cons r rest ih => exact List.forall_mem_cons.mpr ⟨h.2.1, ih h.2.2⟩

/-- **The slot after one of the loaded epoch has a known proposer** if all answers were complete. -/
theorem Linked.isSome_proposer? (h : Linked .empty run)
    (hcomplete : ∀ r ∈ run, ∀ exchange ∈ r.exchanges, exchange.Complete) {head next : Slot}
    (hloaded : (leftBy .empty run).loaded = some head.epoch) (hnext : head.later? 1 = some next) :
    ((leftBy .empty run).proposer? next).isSome := by
  obtain ⟨hepoch, hproposers⟩ := h.answers
  rw [hloaded] at hepoch
  obtain ⟨load, hload, hhead⟩ := Option.map_eq_some_iff.mp hepoch.symm
  obtain ⟨r, hr, hloads⟩ := exists_of_lastLoad hload
  obtain ⟨after, first, second, hafter, hexchanges, rfl, -⟩ :=
    (h.proper r hr).exists_answers hloads
  rw [hproposers, hload, Option.bind_some]
  dsimp only at hhead ⊢
  rw [hhead] at hafter hexchanges
  have hcomplete := hcomplete r hr
  rw [hexchanges] at hcomplete
  apply isSome_proposerIn
  rcases Slot.epoch_of_later? hnext with hsame | hlater
  · obtain ⟨duty, hmem, hslot⟩ := hcomplete _ List.mem_cons_self first rfl next hsame
    exact ⟨duty, List.mem_append_left _ hmem, hslot⟩
  · obtain rfl : after = next.epoch := Option.some.inj (hafter.symm.trans hlater)
    obtain ⟨duty, hmem, hslot⟩ :=
      hcomplete _ (List.mem_cons_of_mem _ List.mem_cons_self) second rfl next rfl
    exact ⟨duty, List.mem_append_right _ hmem, hslot⟩

/--
**Proposers are those of the last load.**

Let duties be refreshed for any epochs that have a next one, at first with nothing known, and from
a node that answers and fails as it likes. After every refresh the known proposers are those of the
last one that loaded, which is the last that got both its answers; where these list a slot more
than once, the last entry counts. A refresh for the loaded epoch asks nothing, any other asks for
its epoch and then for the next. Where an answer is a failure, what was loaded and known stays, and
the next refresh for that epoch asks for it again. While an epoch is loaded, the slot after any of
its slots lies in it or in the next one, and its proposer is known if the answers were complete.
-/
theorem proposers_of_refreshes {epochs : List Epoch}
    (hnext : ∀ epoch ∈ epochs, (epoch.later? 1).isSome) (node : Node σ ε) (s : σ)
    (hrun : refreshes node epochs .empty s = past ++ r :: later) :
    r.before = leftBy .empty past
      ∧ (r.after.loaded = (lastLoad (past ++ [r])).map (·.1)
        ∧ ∀ slot, r.after.proposer? slot
          = (lastLoad (past ++ [r])).bind fun load => proposerIn load.2 slot)
      ∧ (r.loads?.isSome ↔ r.ending = .loaded)
      ∧ (r.exchanges = [] ↔ r.before.loaded = some r.epoch)
      ∧ (∃ next, r.epoch.later? 1 = some next
        ∧ r.exchanges.map (·.asked) <+: [r.epoch, next])
      ∧ (∀ exchange ∈ r.exchanges, ∀ cause, exchange.answer = .error cause →
        r.ending = .failed cause ∧ r.after = r.before
          ∧ ∀ between again rest, later = between ++ again :: rest → again.epoch = r.epoch →
            (∀ other ∈ between, other.epoch ≠ r.epoch) →
            ∃ answer, ⟨r.epoch, answer⟩ ∈ again.exchanges)
      ∧ ∀ head next : Slot, r.after.loaded = some head.epoch → head.later? 1 = some next →
        (next.epoch = head.epoch ∨ head.epoch.later? 1 = some next.epoch)
          ∧ ((∀ done ∈ past ++ [r], ∀ exchange ∈ done.exchanges, exchange.Complete) →
            (r.after.proposer? next).isSome) := by
  have hlinked := linked_refreshes hnext node .empty s
  rw [hrun] at hlinked
  obtain ⟨hpast, hbefore, hproper, hlater⟩ := linked_append.mp hlinked
  have hmem : r.epoch ∈ epochs := by
    rw [← map_epoch_refreshes node epochs .empty s, hrun]
    simp
  obtain ⟨next, hepoch⟩ := Option.isSome_iff_exists.mp (hnext _ hmem)
  have hsofar : Linked .empty (past ++ [r]) := linked_append.mpr ⟨hpast, hbefore, hproper, trivial⟩
  have hanswers := hsofar.answers
  rw [leftBy_append_singleton] at hanswers
  refine ⟨hbefore, hanswers, hproper.isSome_loads?_iff, hproper.exchanges_eq_nil_iff,
    ⟨next, hepoch, hproper.asked hepoch⟩, ?_, ?_⟩
  · intro exchange hexchange cause herror
    obtain ⟨hending, hafter, hne⟩ := hproper.of_error hexchange herror
    refine ⟨hending, hafter, ?_⟩
    rintro between again rest rfl hsame hothers
    obtain ⟨hbetween, hagain, hproperAgain, -⟩ := linked_append.mp hlater
    -- the refreshes between are for other epochs, so this one is still not loaded
    have hstill : again.before.loaded ≠ some again.epoch := by
      rw [hagain, hsame]
      exact hbetween.loaded_ne (hafter.symm ▸ hne) hothers
    exact hsame ▸ hproperAgain.exists_exchange hstill
  · intro head slot hloaded hslot
    refine ⟨Slot.epoch_of_later? hslot, fun hcomplete => ?_⟩
    have hknown := hsofar.isSome_proposer? hcomplete
      (by rw [leftBy_append_singleton]; exact hloaded) hslot
    rw [leftBy_append_singleton] at hknown
    exact hknown

/-- One validator proposes all slots of an epoch. -/
def roster (epoch : Epoch) : List Duty :=
  (List.range 32).map fun (i : Nat) =>
    ⟨"0xAB", 7, ⟨Int64.ofInt (epoch.number.toInt * 32 + i)⟩⟩

theorem complete_roster (epoch : Epoch) :
    Exchange.Complete (⟨epoch, .ok (roster epoch)⟩ : Exchange ε) := by
  rintro duties h slot rfl
  obtain rfl := Except.ok.inj h
  have hnumber : slot.number.toInt / 32 * 32 + ((slot.number.toInt % 32).toNat : Int)
      = slot.number.toInt := by omega
  refine ⟨⟨"0xAB", 7, slot⟩, List.mem_map.mpr ⟨(slot.number.toInt % 32).toNat, ?_, ?_⟩, rfl⟩
  · exact List.mem_range.mpr (by omega)
  · rw [Slot.toInt_epoch, hnumber, Int64.ofInt_toInt]

/-- The node that gives prepared answers, one after the other. -/
def scripted : Node (List (Except String (List Duty))) String where
  duties _ answers :=
    match answers with
    | [] => (.ok [], [])
    | answer :: rest => (answer, rest)
  blockHash _ answers := (.ok none, answers)

/-- Epoch 0 is loaded. -/
def loading : Refresh String where
  epoch := ⟨0⟩
  exchanges := [⟨⟨0⟩, .ok (roster ⟨0⟩)⟩, ⟨⟨1⟩, .ok (roster ⟨1⟩)⟩]
  ending := .loaded
  before := .empty
  after := .ofAnswers ⟨0⟩ (roster ⟨0⟩) (roster ⟨1⟩)

/-- The duties of epoch 1 come, those of epoch 2 do not. -/
def failing : Refresh String where
  epoch := ⟨1⟩
  exchanges := [⟨⟨1⟩, .ok (roster ⟨1⟩)⟩, ⟨⟨2⟩, .error "gone"⟩]
  ending := .failed "gone"
  before := loading.after
  after := loading.after

/-- Epoch 0 is still loaded. -/
def keeping : Refresh String where
  epoch := ⟨0⟩
  exchanges := []
  ending := .kept
  before := loading.after
  after := loading.after

/-- Both answers for epoch 1 come, and list nothing. -/
def emptied : Refresh String where
  epoch := ⟨1⟩
  exchanges := [⟨⟨1⟩, .ok []⟩, ⟨⟨2⟩, .ok []⟩]
  ending := .loaded
  before := loading.after
  after := .ofAnswers ⟨1⟩ [] []

/-- When a refresh for epoch 1 fails behind one for epoch 0, the proposer of slot 32 stays known,
and the next refresh for epoch 1 asks for it again. -/
theorem proposers_of_failing_refresh :
    refreshes scripted [⟨0⟩, ⟨1⟩, ⟨0⟩, ⟨1⟩] .empty
        [.ok (roster ⟨0⟩), .ok (roster ⟨1⟩), .ok (roster ⟨1⟩), .error "gone"]
        = [loading] ++ failing :: [keeping, emptied]
      ∧ failing.after = failing.before ∧ (failing.after.proposer? ⟨32⟩).isSome
      ∧ ∃ answer, ⟨⟨1⟩, answer⟩ ∈ emptied.exchanges := by
  have hrun : refreshes scripted [⟨0⟩, ⟨1⟩, ⟨0⟩, ⟨1⟩] .empty
      [.ok (roster ⟨0⟩), .ok (roster ⟨1⟩), .ok (roster ⟨1⟩), .error "gone"]
        = [loading] ++ failing :: [keeping, emptied] := rfl
  have hcomplete : ∀ done ∈ [loading] ++ [failing], ∀ exchange ∈ done.exchanges,
      exchange.Complete := by
    have hfailure : Exchange.Complete (⟨⟨2⟩, .error "gone"⟩ : Exchange String) :=
      fun _ h => absurd h (by simp)
    simp [loading, failing, complete_roster, hfailure]
  obtain ⟨-, -, -, -, -, hfailing, hknown⟩ := proposers_of_refreshes (by decide) scripted _ hrun
  obtain ⟨-, hafter, hagain⟩ := hfailing ⟨⟨2⟩, .error "gone"⟩ (by simp [failing]) "gone" rfl
  refine ⟨hrun, hafter, (hknown ⟨31⟩ ⟨32⟩ (by decide) (by decide)).2 hcomplete, ?_⟩
  exact hagain [keeping] emptied [] rfl rfl (by simp [keeping, failing])

end BidArchive.Beacon
