import BidArchive.Archive.Tree

/-!
# What operations on a tree do to its files

Files are looked at through `content?` alone here. Making directories changes no file,
whether it succeeds or not (`sameFiles_makeDirectories`). Opening one for appending makes
it if it is missing and otherwise leaves all as it was (`sets_of_openFile`). Where a
file is opened can be told from its path alone: the directories that have to be there are
those that the steps lead through, so that the steps lead to the same place in every tree.

Adding a text to a file puts it at its end, in whole or as far as it comes through
(`sets_append`). Trouble comes from outside: no operation makes any, and all that becomes of
it is that appends are over (`Eases`).
-/

namespace BidArchive.Tree

variable {tree tree' : Tree} {place p q : Place} {path : List String} {entry : Entry}

/-! ## What stands at a place -/

theorem find?_replaced (l : List (Place × Entry)) :
    (l.map fun e => if e.1 = p then (p, entry) else e).find? (·.1 = q)
      = if q = p then (l.find? (·.1 = p)).map fun _ => (p, entry) else l.find? (·.1 = q) := by
  induction l with
  | nil => by_cases h : q = p <;> simp [h]
  | cons e l ih =>
      by_cases h : q = p
      · subst h
        rw [if_pos rfl] at ih ⊢
        by_cases he : e.1 = q <;> simp [he, ih]
      · rw [if_neg h] at ih ⊢
        by_cases he : e.1 = p
        · have hp : ¬ p = q := fun hp => h hp.symm
          simp [he, hp, ih]
        · by_cases hq : e.1 = q <;> simp [he, hq, h, ih]

theorem at?_put (hp : p.all isUp = false) :
    (tree.put p entry).at? q = if q = p then some entry else tree.at? q := by
  by_cases hq : q.all isUp = true
  · -- a place of nothing but steps up is a directory, whatever the entries say
    have hne : q ≠ p := by rintro rfl; simp [hp] at hq
    unfold at?
    rw [if_pos hq, if_neg hne, if_pos hq]
  · unfold at? put
    rw [if_neg hq, if_neg hq]
    cases ha : tree.entries.any (·.1 = p) with
    | true =>
        have hsome : (tree.entries.find? (·.1 = p)).isSome := by
          rw [List.find?_isSome]
          exact List.any_eq_true.mp ha
        rw [if_pos rfl, find?_replaced]
        obtain ⟨e, he⟩ := Option.isSome_iff_exists.mp hsome
        by_cases h : q = p
        · rw [if_pos h, if_pos h, he]
          rfl
        · rw [if_neg h, if_neg h]
    | false =>
        have hnone : tree.entries.find? (·.1 = p) = none := by
          rw [List.find?_eq_none]
          exact fun e he => (List.any_eq_false.mp ha) e he
        rw [if_neg (by decide)]
        dsimp only
        rw [List.find?_append]
        by_cases h : q = p
        · subst h
          rw [if_pos rfl, hnone]
          simp
        · have hp' : ¬ p = q := fun hp' => h hp'.symm
          rw [if_neg h]
          simp [hp']

/-- A place that is not only steps up has an entry of its own. -/
theorem all_isUp_append_singleton {name : String} (h : isUp name = false) :
    (p ++ [name]).all isUp = false := by
  simp [h]

theorem not_all_isUp_of_content? {content : String} (h : tree.content? p = some content) :
    p.all isUp = false := by
  cases hp : p.all isUp with
  | false => rfl
  | true =>
      unfold content? at? at h
      rw [if_pos hp] at h
      exact absurd h (by simp)

theorem content?_eq_some_iff {content : String} :
    tree.content? p = some content ↔ tree.at? p = some (.file content) := by
  unfold content?
  cases tree.at? p with
  | none => simp
  | some e =>
      cases e with
      | file c => simp
      | directory => simp

theorem content?_put_file {content : String} (hp : p.all isUp = false) :
    (tree.put p (.file content)).content? q
      = if q = p then some content else tree.content? q := by
  unfold content?
  rw [at?_put hp]
  by_cases h : q = p
  · rw [if_pos h, if_pos h]
  · rw [if_neg h, if_neg h]

theorem content?_congr (h : tree'.entries = tree.entries) :
    tree'.content? p = tree.content? p := by
  unfold content? at?
  rw [h]

/-- Text is added to one file, and all others are left. -/
theorem content?_extend (tree : Tree) (p : Place) (text : String) : (tree.extend p text).content? q
    = if q = p then (tree.content? p).map (· ++ text) else tree.content? q := by
  unfold extend
  cases hc : tree.content? p with
  | none =>
      by_cases h : q = p
      · rw [if_pos h, h]
        exact hc
      · rw [if_neg h]
  | some content =>
      exact content?_put_file (not_all_isUp_of_content? hc)

/-! ## Trouble -/

/-- The later tree is in the same trouble, but for appends that are over. -/
structure Eases (tree later : Tree) : Prop where
  unmeasured : later.trouble.unmeasured = tree.trouble.unmeasured
  appends : later.trouble.appends.Sublist tree.trouble.appends

theorem Eases.of_trouble_eq (h : tree'.trouble = tree.trouble) : tree.Eases tree' :=
  ⟨congrArg Trouble.unmeasured h, congrArg Trouble.appends h ▸ List.Sublist.refl _⟩

theorem Eases.refl (tree : Tree) : tree.Eases tree := .of_trouble_eq rfl

theorem Eases.trans {a b c : Tree} (h : a.Eases b) (h' : b.Eases c) : a.Eases c :=
  ⟨h'.unmeasured.trans h.unmeasured, h'.appends.trans h.appends⟩

/-- Nothing of the text comes through, and the whole of it was being handed over. -/
structure Cut.Refuses (cut : Cut) : Prop where
  through : cut.through = 0
  piece : cut.piece = none

theorem Cut.Refuses.handed_eq {cut : Cut} (h : cut.Refuses) (text : String) :
    cut.handed text = text := by
  unfold handed
  rw [h.piece]

/-- What was being handed over is part of the text. -/
theorem Cut.handed_sublist (cut : Cut) (text : String) :
    (cut.handed text).toList.Sublist text.toList := by
  unfold handed
  split
  · exact List.Sublist.refl _
  · rw [String.toList_ofList]
    exact (List.take_sublist _ _).trans (List.drop_sublist _ _)

/-- Every text that is added to the file comes through whole or not at all. -/
def Trouble.Spares (trouble : Trouble) (place : Place) : Prop :=
  ∀ cut, (place, some cut) ∈ trouble.appends → cut.Refuses

theorem Eases.spares (h : tree.Eases tree') (hs : tree.trouble.Spares p) :
    tree'.trouble.Spares p := fun cut hcut => hs cut (h.appends.subset hcut)

theorem Trouble.Spares.refuses {trouble : Trouble} {cut : Cut} (h : trouble.Spares p)
    (hnext : trouble.next? p = some cut) : cut.Refuses := by
  obtain ⟨⟨place, next⟩, hfind, rfl⟩ := Option.bind_eq_some_iff.mp hnext
  obtain rfl : place = p := by simpa using List.find?_some hfind
  exact h cut (List.mem_of_find?_eq_some hfind)

/-- Files that are open do what they are asked for. -/
structure Trouble.Serves (trouble : Trouble) : Prop where
  unmeasured : trouble.unmeasured = []
  appends : trouble.appends = []

theorem Eases.serves (h : tree.Eases tree') (hs : tree.trouble.Serves) : tree'.trouble.Serves :=
  ⟨h.unmeasured.trans hs.unmeasured, List.sublist_nil.mp (hs.appends ▸ h.appends)⟩

theorem trouble_put (tree : Tree) (p : Place) (entry : Entry) :
    (tree.put p entry).trouble = tree.trouble := by
  unfold put
  split <;> rfl

theorem trouble_extend (tree : Tree) (p : Place) (text : String) :
    (tree.extend p text).trouble = tree.trouble := by
  unfold extend
  split
  · exact trouble_put _ _ _
  · rfl

/-- The later tree differs in one file only, which holds the text. -/
structure Sets (tree : Tree) (place : Place) (text : Option String) (later : Tree) : Prop where
  here : later.content? place = text
  others : ∀ q, q ≠ place → later.content? q = tree.content? q
  eases : tree.Eases later

theorem Sets.refl (tree : Tree) (place : Place) : tree.Sets place (tree.content? place) tree :=
  ⟨rfl, fun _ _ => rfl, .refl tree⟩

theorem Sets.trans {a b c : Tree} {text text' : Option String} (h : a.Sets place text b)
    (h' : b.Sets place text' c) : a.Sets place text' c :=
  ⟨h'.here, fun q hq => (h'.others q hq).trans (h.others q hq), h.eases.trans h'.eases⟩

/-! ## Adding text -/

/-- Text is added to a file of a tree with the same files. -/
theorem sets_extend {later : Tree} (heases : tree.Eases later)
    (hsame : later.entries = tree.entries) (p : Place) (text : String) :
    tree.Sets p ((tree.content? p).map (· ++ text)) (later.extend p text) where
  here := by rw [content?_extend, if_pos rfl, content?_congr hsame]
  others q hq := by rw [content?_extend, if_neg hq, content?_congr hsame]
  eases := heases.trans (.of_trouble_eq (trouble_extend later p text))

/-- **What adding a text comes to**: so many of its characters stand at the end of the file, and it
is well if these are all. -/
theorem sets_append (tree : Tree) (p : Place) (text : String) : ∃ count,
    ((tree.append p text).1 = .ok () ↔ text.toList.length ≤ count)
      ∧ (tree.trouble.Spares p → count = 0 ∨ text.toList.length ≤ count)
      ∧ tree.Sets p ((tree.content? p).map (· ++ String.ofList (text.toList.take count)))
        (tree.append p text).2 := by
  have hover : tree.Eases { tree with trouble := tree.trouble.passed p } :=
    ⟨rfl, List.eraseP_sublist⟩
  -- a text that comes through is counted in full
  have hall := sets_extend hover rfl p text
  have hfull : text = String.ofList (text.toList.take text.toList.length) := by
    rw [List.take_length, String.ofList_toList]
  unfold append
  split
  · rename_i hempty
    refine ⟨0, by simp [hempty], fun _ => .inl rfl, ?_⟩
    have hsame := Sets.refl tree p
    cases hc : tree.content? p <;> simpa [hc] using hsame
  · dsimp only
    split
    · rename_i cut hcut
      split
      · exact ⟨_, by simp, fun _ => .inr (Nat.le_refl _), hfull ▸ hall⟩
      · rename_i hlong
        exact ⟨cut.through, by simpa using hlong, fun hs => .inl (hs.refuses hcut).through,
          sets_extend hover rfl p _⟩
    · exact ⟨_, by simp, fun _ => .inr (Nat.le_refl _), hfull ▸ hall⟩

/-- A text is refused in whole where none is cut. -/
theorem refuses_of_append_error {text : String} {cut : Cut} (hs : tree.trouble.Spares p)
    (h : tree.append p text = (.error cut, tree')) : cut.Refuses := by
  unfold append at h
  split at h
  · exact absurd (Prod.mk.inj h).1 (by simp)
  · dsimp only at h
    split at h
    · rename_i next hnext
      split at h
      · exact absurd (Prod.mk.inj h).1 (by simp)
      · obtain rfl := Except.error.inj (Prod.mk.inj h).1
        exact hs.refuses hnext
    · exact absurd (Prod.mk.inj h).1 (by simp)

/-- A text that comes through stands at the end of its file. -/
theorem sets_of_append_ok {text : String} (h : tree.append p text = (.ok (), tree')) :
    tree.Sets p ((tree.content? p).map (· ++ text)) tree' := by
  obtain ⟨count, hok, -, hsets⟩ := tree.sets_append p text
  rw [h] at hok hsets
  rw [List.take_of_length_le (hok.mp rfl), String.ofList_toList] at hsets
  exact hsets

theorem Trouble.Serves.append (hs : tree.trouble.Serves) (p : Place) (text : String) :
    ∃ tree', tree.append p text = (.ok (), tree') := by
  unfold Tree.append
  split
  · exact ⟨_, rfl⟩
  · unfold Trouble.next?
    rw [hs.appends]
    exact ⟨_, rfl⟩

/-! ## Directories -/

/-- The files are the same in both trees, and what the matter is. -/
structure SameFiles (tree tree' : Tree) : Prop where
  content : ∀ place, tree'.content? place = tree.content? place
  eases : tree.Eases tree'

theorem SameFiles.refl (tree : Tree) : tree.SameFiles tree := ⟨fun _ => rfl, .refl tree⟩

theorem SameFiles.trans {a b c : Tree} (h : a.SameFiles b) (h' : b.SameFiles c) : a.SameFiles c :=
  ⟨fun place => (h'.content place).trans (h.content place), h.eases.trans h'.eases⟩

theorem SameFiles.sets {text : Option String} {later : Tree} (h : tree.SameFiles tree')
    (h' : tree'.Sets place text later) : tree.Sets place text later :=
  ⟨h'.here, fun q hq => (h'.others q hq).trans (h.content q), h.eases.trans h'.eases⟩

theorem makeDirectory_eq_ok (h : tree.makeDirectory path = .ok tree') :
    ∃ p, p.all isUp = false ∧ tree.at? p = none ∧ tree' = tree.put p .directory := by
  unfold makeDirectory at h
  split at h
  · exact absurd h (by simp)
  · rename_i name _
    cases hw : tree.walk [] path.dropLast with
    | error fault => rw [hw] at h; exact absurd h (by simp [bind, Except.bind])
    | ok parent =>
        rw [hw] at h
        simp only [bind, Except.bind] at h
        split at h
        · exact absurd h (by simp)
        · rename_i hname
          split at h
          · exact absurd h (by simp)
          · split at h
            · exact absurd h (by simp)
            · split at h
              · exact absurd h (by simp)
              · rename_i hat
                refine ⟨parent ++ [name], all_isUp_append_singleton ?_, hat, (Except.ok.inj h).symm⟩
                exact (Bool.or_eq_false_iff.mp (Bool.eq_false_iff.mpr hname)).2

theorem sameFiles_makeDirectory (h : tree.makeDirectory path = .ok tree') :
    tree.SameFiles tree' := by
  obtain ⟨p, hp, hat, rfl⟩ := makeDirectory_eq_ok h
  refine ⟨fun q => ?_, .of_trouble_eq (trouble_put _ _ _)⟩
  unfold content?
  rw [at?_put hp]
  by_cases hq : q = p
  · rw [if_pos hq, hq, hat]
  · rw [if_neg hq]

/-- **Making directories changes no file**, also when not all of them can be made. -/
theorem sameFiles_makeDirectories (tree : Tree) (path : List String) (steps : Nat) :
    tree.SameFiles (tree.makeDirectories path steps).2 := by
  induction steps generalizing tree path with
  | zero => exact SameFiles.refl tree
  | succ steps ih =>
      -- whether or not the directory is there, looking for it changes nothing
      have hlast : ∀ (t : Tree) (fault : Fault), t.SameFiles
          (if t.isDirectory path then ((.ok (), t) : Except Fault Unit × Tree)
            else (.error fault, t)).2 := by
        intro t fault
        split <;> exact SameFiles.refl t
      unfold makeDirectories
      split
      · rename_i h
        exact sameFiles_makeDirectory h
      · have habove := ih tree path.dropLast
        split
        · rename_i hm
          rw [hm] at habove
          exact habove
        · rename_i t hm
          rw [hm] at habove
          split
          · rename_i h
            exact habove.trans (sameFiles_makeDirectory h)
          · exact habove.trans (hlast _ _)
      · exact hlast _ _

/-! ## Where steps lead -/

/-- Where steps lead if there are directories on the way. -/
def resolve (place : Place) : List String → Place
  | [] => place
  | step :: rest =>
    if isStay step then resolve place rest
    else if isUp step then resolve (above place) rest
    else resolve (place ++ [step]) rest

theorem walk_eq_ok {steps : List String} (h : tree.walk p steps = .ok q) :
    q = resolve p steps := by
  induction steps generalizing p with
  | nil => exact (Except.ok.inj h).symm
  | cons step rest ih =>
      rw [walk] at h
      rw [resolve]
      split at h
      · rename_i hs
        rw [if_pos hs]
        exact ih h
      · rename_i hs
        rw [if_neg hs]
        split at h
        · rename_i hu
          rw [if_pos hu]
          exact ih h
        · rename_i hu
          rw [if_neg hu]
          split at h
          · exact absurd h (by simp)
          · split at h
            · exact ih h
            · exact absurd h (by simp)
            · exact absurd h (by simp)

/-! ## Opening a file -/

theorem openFile_eq_ok {directory : List String} {name : String}
    (h : tree.openFile (directory ++ [name]) = .ok (p, tree')) :
    p = resolve [] directory ++ [name] ∧ p.all isUp = false
      ∧ ((∃ content, tree.at? p = some (.file content) ∧ tree' = tree)
        ∨ (tree.at? p = none ∧ tree' = tree.put p (.file ""))) := by
  unfold openFile at h
  rw [List.getLast?_concat, List.dropLast_concat] at h
  dsimp only at h
  cases hw : tree.walk [] directory with
  | error fault => rw [hw] at h; exact absurd h (by simp [bind, Except.bind])
  | ok parent =>
      rw [hw] at h
      simp only [bind, Except.bind] at h
      split at h
      · exact absurd h (by simp)
      · rename_i hname
        have hup : isUp name = false :=
          (Bool.or_eq_false_iff.mp (Bool.eq_false_iff.mpr hname)).2
        split at h
        · exact absurd h (by simp)
        · split at h
          · exact absurd h (by simp)
          · split at h
            · rename_i content hat
              obtain ⟨rfl, rfl⟩ := Prod.mk.inj (Except.ok.inj h)
              exact ⟨by rw [walk_eq_ok hw], all_isUp_append_singleton hup,
                Or.inl ⟨content, hat, rfl⟩⟩
            · exact absurd h (by simp)
            · rename_i hat
              obtain ⟨rfl, rfl⟩ := Prod.mk.inj (Except.ok.inj h)
              exact ⟨by rw [walk_eq_ok hw], all_isUp_append_singleton hup, Or.inr ⟨hat, rfl⟩⟩

/-- **Opening a file** makes it if it is missing, and leaves the content of all files. -/
theorem sets_of_openFile {directory : List String} {name : String}
    (h : tree.openFile (directory ++ [name]) = .ok (p, tree')) :
    tree.Sets p (some ((tree.content? p).getD "")) tree' := by
  obtain ⟨_, hp, ⟨content, hat, rfl⟩ | ⟨hat, rfl⟩⟩ := openFile_eq_ok h
  · have hsame := Sets.refl tree' p
    rw [content?_eq_some_iff.mpr hat] at hsame ⊢
    exact hsame
  · refine ⟨?_, fun q hq => ?_, .of_trouble_eq (trouble_put _ _ _)⟩
    · rw [content?_put_file hp, if_pos rfl]
      unfold content?
      rw [hat]
      rfl
    · rw [content?_put_file hp, if_neg hq]

end BidArchive.Tree
