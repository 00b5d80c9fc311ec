import BidArchive.Proofs.Number.Values
import BidArchive.Proofs.Text.Utf8
import BidArchive.Settings.Read

/-!
# What reading the environment can come to

A variable that holds a text is read as that text, unless the log is in the way. Of a secret the log
shows the last four bytes, which are cut off by their number (`lastBytes?_eq_some_iff`); where that
number falls inside a character there is nothing to be shown, and the program stops.

Of all variables only the address of the beacon node is secret. So settings are read, or a fault is
reported, unless that address has no character boundary four bytes before its end and nothing is
found wrong before it is read (`Settings.settings_of_texts`).
-/

namespace BidArchive

open Text.Utf8 (encode length_encode length_encode_cons length_utf8EncodeChar_pos
  eq_of_suffix_of_length_le)

/-- The last `count` bytes of the text, or all of them where there are fewer, are whole
characters. -/
def EndsWhole (count : Nat) (text : String) : Prop :=
  ∃ hidden shown, text = hidden ++ shown ∧ shown.utf8ByteSize = min count text.utf8ByteSize

namespace Environment

variable {vars : List (String × String)} {key value : String} {count : Nat}

/-! ## The log -/

/-- **The end of a text**: so many bytes of it, or all where it has fewer. -/
theorem lastBytes?_eq_some_iff {cs shown : List Char} :
    lastBytes? count cs = some shown
      ↔ shown <:+ cs ∧ (encode shown).length = min count (encode cs).length := by
  induction cs with
  | nil =>
      have hsize : (encode []).length ≤ count := Nat.zero_le count
      rw [lastBytes?, if_pos hsize, Option.some.injEq, List.suffix_nil, Nat.min_eq_right hsize]
      constructor
      · rintro rfl
        exact ⟨rfl, rfl⟩
      · exact fun h => h.1.symm
  | cons c rest ih =>
      have hlen := length_encode_cons c rest
      have hpos := length_utf8EncodeChar_pos c
      rw [lastBytes?]
      by_cases hall : (encode (c :: rest)).length ≤ count
      · rw [if_pos hall, Option.some.injEq, Nat.min_eq_right hall]
        constructor
        · rintro rfl
          exact ⟨List.suffix_rfl, rfl⟩
        · rintro ⟨hsuffix, hsize⟩
          exact (eq_of_suffix_of_length_le hsuffix (Nat.le_of_eq hsize.symm)).symm
      · -- an end of `count` bytes lies behind the first character
        have hbehind : shown <:+ c :: rest ∧ (encode shown).length = count
            ↔ shown <:+ rest ∧ (encode shown).length = count := by
          rw [List.suffix_cons_iff]
          constructor
          · rintro ⟨rfl | hsuffix, hsize⟩
            · exact absurd (Nat.le_of_eq hsize) hall
            · exact ⟨hsuffix, hsize⟩
          · exact fun h => ⟨Or.inr h.1, h.2⟩
        rw [if_neg hall, Nat.min_eq_left (Nat.le_of_not_le hall), hbehind]
        split
        · rename_i hcut
          refine iff_of_false (by simp) ?_
          rintro ⟨⟨hidden, rfl⟩, hsize⟩
          rw [Text.Utf8.length_encode_append] at hlen
          omega
        · rename_i hcut
          rw [ih, Nat.min_eq_left (by omega)]

/-- The log can show the value: it is no secret, or can be cut where it is to be cut. -/
def Loggable (key value : String) : Prop := key ∈ secrets → EndsWhole shownBytes value

/-- **What the log shows of a secret** is no more than its last bytes. -/
theorem shown?_of_secret {shown : String} (h : key ∈ secrets) :
    shown? key value = some shown ↔ ∃ hidden tail, value = hidden ++ tail
      ∧ tail.utf8ByteSize = min shownBytes value.utf8ByteSize ∧ shown = "****" ++ tail := by
  unfold shown?
  rw [if_pos (List.contains_iff_mem.mpr h), Option.map_eq_some_iff]
  constructor
  · rintro ⟨cs, hcs, rfl⟩
    obtain ⟨⟨hidden, hvalue⟩, hsize⟩ := lastBytes?_eq_some_iff.mp hcs
    refine ⟨String.ofList hidden, String.ofList cs, ?_, ?_, rfl⟩
    · rw [← String.ofList_append, hvalue, String.ofList_toList]
    · rw [← length_encode, ← length_encode, String.toList_ofList, hsize]
  · rintro ⟨hidden, tail, rfl, hsize, rfl⟩
    refine ⟨tail.toList, lastBytes?_eq_some_iff.mpr ⟨⟨hidden.toList, ?_⟩, ?_⟩, ?_⟩
    · rw [String.toList_append]
    · rw [length_encode, length_encode, hsize]
    · rw [String.ofList_toList]

theorem shown?_of_not_secret (h : key ∉ secrets) : shown? key value = some value :=
  if_neg (mt List.contains_iff_mem.mp h)

/-- What the log shows when a secret is read. -/
theorem logText?_of_secret {line : String} (h : key ∈ secrets) :
    logText? key (some value) = some line ↔ ∃ hidden tail, value = hidden ++ tail
      ∧ tail.utf8ByteSize = min shownBytes value.utf8ByteSize
      ∧ line = "env var " ++ key ++ ": ****" ++ tail := by
  have hstars : ": ****" = ": " ++ "****" := by decide
  unfold logText?
  rw [Option.map_eq_some_iff]
  constructor
  · rintro ⟨shown, hshown, rfl⟩
    obtain ⟨hidden, tail, hvalue, hsize, rfl⟩ := (shown?_of_secret h).mp hshown
    refine ⟨hidden, tail, hvalue, hsize, ?_⟩
    rw [hstars]
    simp only [String.append_assoc]
  · rintro ⟨hidden, tail, hvalue, hsize, rfl⟩
    refine ⟨_, (shown?_of_secret h).mpr ⟨hidden, tail, hvalue, hsize, rfl⟩, ?_⟩
    rw [hstars]
    simp only [String.append_assoc]

theorem isSome_logText?_iff : (logText? key (some value)).isSome ↔ Loggable key value := by
  unfold logText? Loggable
  rw [Option.isSome_map, Option.isSome_iff_exists]
  by_cases h : key ∈ secrets
  · rw [imp_iff_right h]
    constructor
    · rintro ⟨shown, hshown⟩
      obtain ⟨hidden, tail, hvalue, hsize, -⟩ := (shown?_of_secret h).mp hshown
      exact ⟨hidden, tail, hvalue, hsize⟩
    · rintro ⟨hidden, tail, hvalue, hsize⟩
      exact ⟨_, (shown?_of_secret h).mpr ⟨hidden, tail, hvalue, hsize, rfl⟩⟩
  · exact iff_of_true ⟨value, shown?_of_not_secret h⟩ fun hs => absurd hs h

/-! ## Variables that hold texts -/

/-- The environment in which the variables hold texts. -/
def ofTexts (vars : List (String × String)) : Environment :=
  ⟨vars.map fun (key, value) => (key, value.toUTF8.toList)⟩

theorem find?_ofTexts (vars : List (String × String)) (key : String) :
    (ofTexts vars).bindings.find? (·.1 = key)
      = (vars.lookup key).map fun value => (key, encode value.toList) := by
  unfold ofTexts
  induction vars with
  | nil => rfl
  | cons var rest ih =>
      obtain ⟨name, value⟩ := var
      rw [List.map_cons, List.find?_cons, List.lookup_cons]
      by_cases h : name = key
      · subst h
        rw [decide_eq_true rfl, beq_self_eq_true]
        dsimp only
        rw [Numeral.bytes_eq_flatMap]
        rfl
      · rw [decide_eq_false h, beq_eq_false_iff_ne.mpr (Ne.symm h)]
        exact ih

theorem get_of_lookup_none (h : vars.lookup key = none) : (ofTexts vars).get key = .ok none := by
  unfold get
  rw [find?_ofTexts, h]
  rfl

theorem get_of_loggable (h : vars.lookup key = some value) (hl : Loggable key value) :
    (ofTexts vars).get key = .ok (some value) := by
  obtain ⟨line, hline⟩ := Option.isSome_iff_exists.mp (isSome_logText?_iff.mpr hl)
  unfold get
  rw [find?_ofTexts, h]
  simp only [Option.map_some, Text.Utf8.decode?_encode, String.ofList_toList, hline]

theorem get_of_not_loggable (h : vars.lookup key = some value) (hl : ¬ Loggable key value) :
    (ofTexts vars).get key = .crashed := by
  have hline : logText? key (some value) = none :=
    Option.not_isSome_iff_eq_none.mp (mt isSome_logText?_iff.mp hl)
  unfold get
  rw [find?_ofTexts, h]
  simp only [Option.map_some, Text.Utf8.decode?_encode, String.ofList_toList, hline]

/-- **A variable is read as what it holds**, or the program stops because the log cannot show
that. -/
theorem get_cases (vars : List (String × String)) (key : String) :
    ((ofTexts vars).get key = .ok (vars.lookup key)
        ∧ ∀ value ∈ vars.lookup key, Loggable key value)
      ∨ ((ofTexts vars).get key = .crashed
        ∧ ∃ value ∈ vars.lookup key, ¬ Loggable key value) := by
  cases hv : vars.lookup key with
  | none => exact Or.inl ⟨get_of_lookup_none hv, fun value h => absurd h (by simp)⟩
  | some value =>
      by_cases hl : Loggable key value
      · exact Or.inl ⟨get_of_loggable hv hl, fun v h => Option.some.inj h ▸ hl⟩
      · exact Or.inr ⟨get_of_not_loggable hv hl, value, rfl, hl⟩

theorem get_eq_crashed_iff : (ofTexts vars).get key = .crashed
    ↔ ∃ value ∈ vars.lookup key, ¬ Loggable key value := by
  rcases get_cases vars key with ⟨hget, hall⟩ | ⟨hget, hnot⟩
  · refine iff_of_false (by rw [hget]; simp) ?_
    rintro ⟨value, hvalue, hl⟩
    exact hl (hall value hvalue)
  · exact iff_of_true hget hnot

end Environment

namespace Settings

open Environment

variable {vars : List (String × String)} {key : String} {α β : Type}

/-! ## Reading one variable after the other -/

/-- The rule takes what the variable holds, if it is set. -/
def Admits (vars : List (String × String)) (key : String)
    (rule : String → Except SettingsFault α) : Prop :=
  ∀ text ∈ vars.lookup key, ∃ a, rule text = .ok a

/-- Nothing is wrong with the variables that are read before the address of the beacon node. -/
def ReachesBeaconUrl (vars : List (String × String)) : Prop :=
  Admits vars "RELAY_URLS" relaysRule ∧ Admits vars "BIDS_SOURCES" sourcesRule
    ∧ Admits vars "GET_HEADER_KNOWN_ERRORS" tableRule

/-- A reading stops the program if its beginning does, or what it goes on with. -/
theorem bind_eq_crashed_iff {x : Read α} {f : α → Read β} :
    (x >>= f) = .error .crashed
      ↔ x = .error .crashed ∨ ∃ a, x = .ok a ∧ f a = .error .crashed := by
  cases x with
  | error halt => simp [bind, Except.bind]
  | ok a => simp [bind, Except.bind]

theorem bind_ne_crashed {x : Read α} {f : α → Read β} (hx : x ≠ .error .crashed)
    (hf : ∀ a, f a ≠ .error .crashed) : (x >>= f) ≠ .error .crashed := by
  rw [Ne, bind_eq_crashed_iff]
  rintro (h | ⟨a, -, h⟩)
  · exact hx h
  · exact hf a h

theorem lookUp_eq_crashed_iff : lookUp (ofTexts vars) key = .error .crashed
    ↔ ∃ value ∈ vars.lookup key, ¬ Loggable key value := by
  rw [← get_eq_crashed_iff]
  unfold lookUp
  cases (ofTexts vars).get key <;> simp

/-- A variable that is no secret is read as what it holds. -/
theorem lookUp_of_not_secret (h : key ∉ secrets) :
    lookUp (ofTexts vars) key = .ok (vars.lookup key) := by
  rcases get_cases vars key with ⟨hget, -⟩ | ⟨-, value, -, hl⟩
  · unfold lookUp
    rw [hget]
  · exact absurd (fun hs => absurd hs h) hl

theorem lookUp_ne_crashed (h : key ∉ secrets) : lookUp (ofTexts vars) key ≠ .error .crashed := by
  rw [lookUp_of_not_secret h]
  simp

/-- A variable that is no secret is read by its rule, or there is a fault in it. -/
theorem readBy_of_not_secret (h : key ∉ secrets) (rule : String → Except SettingsFault α) :
    readBy (ofTexts vars) key rule ≠ .error .crashed
      ∧ ((∃ a, readBy (ofTexts vars) key rule = .ok a) ↔ Admits vars key rule) := by
  unfold readBy Admits
  rw [lookUp_of_not_secret h]
  cases vars.lookup key with
  | none => simp [bind, Except.bind, pure, Except.pure]
  | some text =>
      simp only [bind, Except.bind, Option.mem_some_iff, forall_eq']
      cases rule text <;> simp [pure, Except.pure, throw, throwThe, MonadExceptOf.throw]

/-- What comes behind a variable is read if there is no fault in it. -/
theorem bind_readBy_eq_crashed_iff (h : key ∉ secrets) {rule : String → Except SettingsFault α}
    {f : Option α → Read β} {p : Prop} (hf : ∀ a, f a = .error .crashed ↔ p) :
    (readBy (ofTexts vars) key rule >>= f) = .error .crashed ↔ Admits vars key rule ∧ p := by
  rw [bind_eq_crashed_iff, or_iff_right (readBy_of_not_secret h rule).1,
    ← (readBy_of_not_secret h rule).2]
  simp only [hf, exists_and_right]

/-- **What stops the program while settings are read**: an address of a beacon node that the log
cannot show. -/
theorem ofEnvironment_eq_crashed_iff : ofEnvironment (ofTexts vars) = .error .crashed
    ↔ ReachesBeaconUrl vars ∧ ∃ url ∈ vars.lookup "BEACON_URL", ¬ EndsWhole shownBytes url := by
  have hbeacon : lookUp (ofTexts vars) "BEACON_URL" = .error .crashed
      ↔ ∃ url ∈ vars.lookup "BEACON_URL", ¬ EndsWhole shownBytes url := by
    rw [lookUp_eq_crashed_iff]
    unfold Loggable
    simp only [imp_iff_right (show "BEACON_URL" ∈ secrets by decide)]
  unfold ofEnvironment ReachesBeaconUrl
  rw [and_assoc, and_assoc]
  refine bind_readBy_eq_crashed_iff (by decide) fun relays =>
    bind_readBy_eq_crashed_iff (by decide) fun sources =>
    bind_readBy_eq_crashed_iff (by decide) fun table => ?_
  rw [bind_eq_crashed_iff, hbeacon]
  -- nothing that is read after the address is a secret
  refine or_iff_left ?_
  rintro ⟨url, -, hrest⟩
  revert hrest
  refine bind_ne_crashed (lookUp_ne_crashed (by decide)) fun streamUrl =>
    bind_ne_crashed (lookUp_ne_crashed (by decide)) fun directory =>
    bind_ne_crashed (readBy_of_not_secret (by decide) _).1 fun tabs =>
    bind_ne_crashed (readBy_of_not_secret (by decide) _).1 fun bucketSeconds =>
    bind_ne_crashed (lookUp_ne_crashed (by decide)) fun uid =>
    bind_ne_crashed (readBy_of_not_secret (by decide) _).1 fun timeout => ?_
  simp [pure, Except.pure]

/--
**Settings are read from texts, unless a secret cannot be cut.**

In an environment of texts every variable is read as what it holds, except for a secret without a
character boundary four bytes before its end, which stops the program. Of every other secret the log
shows these four bytes, or all where there are fewer, and nothing else. Settings are returned, or a
fault, if the address of the beacon node can be cut so or a fault is found before it is read, and
only then.
-/
theorem settings_of_texts (vars : List (String × String)) :
    (∀ key, ((ofTexts vars).get key = .ok (vars.lookup key)
          ∧ ∀ value ∈ vars.lookup key, key ∈ secrets → EndsWhole shownBytes value)
        ∨ ((ofTexts vars).get key = .crashed
          ∧ ∃ value ∈ vars.lookup key, key ∈ secrets ∧ ¬ EndsWhole shownBytes value))
      ∧ (∀ key value line, key ∈ secrets → (logText? key (some value) = some line
          ↔ ∃ hidden tail, value = hidden ++ tail
            ∧ tail.utf8ByteSize = min shownBytes value.utf8ByteSize
            ∧ line = "env var " ++ key ++ ": ****" ++ tail))
      ∧ ((∃ settings, ofEnvironment (ofTexts vars) = .ok settings)
          ∨ (∃ fault, ofEnvironment (ofTexts vars) = .error (.failed fault))
        ↔ (ReachesBeaconUrl vars →
          ∀ url ∈ vars.lookup "BEACON_URL", EndsWhole shownBytes url)) := by
  refine ⟨fun key => ?_, fun key value line h => logText?_of_secret h, ?_⟩
  · rcases get_cases vars key with ⟨hget, hall⟩ | ⟨hget, value, hvalue, hl⟩
    · exact Or.inl ⟨hget, hall⟩
    · exact Or.inr ⟨hget, value, hvalue, Classical.not_imp.mp hl⟩
  · have hends : ∀ r : Read Settings, r ≠ .error .crashed
        ↔ (∃ settings, r = .ok settings) ∨ ∃ fault, r = .error (.failed fault) := by
      rintro (⟨⟨⟩⟩ | _) <;> simp
    rw [← hends, Ne, ofEnvironment_eq_crashed_iff]
    constructor
    · intro h hreaches url hurl
      exact Classical.not_not.mp fun hcut => h ⟨hreaches, url, hurl, hcut⟩
    · rintro h ⟨hreaches, url, hurl, hcut⟩
      exact hcut (h hreaches url hurl)

/-- The address of a beacon node whose fourth byte from the end lies inside a character. -/
def splitUrl : List (String × String) := [("BEACON_URL", "http://node/clé123")]

/-- **A secret of whole characters can stop the program**, although it is a text like any other. -/
theorem split_secret_stops : splitUrl.lookup "BEACON_URL" = some "http://node/clé123"
    ∧ (ofTexts splitUrl).get "BEACON_URL" = .crashed
    ∧ ofEnvironment (ofTexts splitUrl) = .error .crashed := by
  refine ⟨by decide, by decide +kernel, by decide +kernel⟩

end Settings

end BidArchive
