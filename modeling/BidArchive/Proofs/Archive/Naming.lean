import BidArchive.Proofs.Archive.Buckets
import BidArchive.Proofs.Archive.Contents
import BidArchive.Proofs.Bid.Identity
import BidArchive.Proofs.Time.Calendar

/-!
# What the name of a file says

A path is made of the day, the hour and the minute in which a bucket starts, of the name
of the collector and of the kind of rows. Every one of these can be read off it again,
whatever the name of the collector looks like (`filePath?_eq_iff`): the day ends at the
first slash, hour and minute have a fixed width, and so has the end of the name.

But there are no seconds in it. Buckets of at least a minute start in different minutes
and so have files of their own; of shorter buckets those that start within one minute
share their files, and nothing keeps an archive from being laid out so
(`files_of_buckets`, `half_minutes_share_files`).

Steps up in the name of a collector can lead out of the part of a path that depends on
the minute. Without them different paths of one collector lead to different places.
-/

namespace BidArchive

open Time (Instant)

/-! ## Steps -/

namespace Text

theorem splitAt_slash (w : List Char) : splitAt '/' ('/' :: w) = [] :: splitAt '/' w := rfl

/-- What holds no slash belongs to the first part of what follows. -/
theorem splitAt_append {a w part : List Char} {parts : List (List Char)} (ha : '/' ∉ a)
    (h : splitAt '/' w = part :: parts) : splitAt '/' (a ++ w) = (a ++ part) :: parts := by
  induction a with
  | nil => exact h
  | cons c a ih =>
      obtain ⟨hc, ha⟩ := not_or.mp (mt List.mem_cons.mpr ha)
      have hrest := ih ha
      unfold splitAt at hrest ⊢
      rw [List.cons_append, splitBy, if_neg (by simpa using Ne.symm hc), hrest]
      rfl

end Text

namespace Tree

/-- Steps that go down from directory to directory lead where they say. -/
theorem resolve_of_down {steps : List String}
    (h : ∀ step ∈ steps, isStay step = false ∧ isUp step = false) (place : Place) :
    resolve place steps = place ++ steps := by
  induction steps generalizing place with
  | nil => exact (List.append_nil place).symm
  | cons step rest ih =>
      obtain ⟨hstay, hup⟩ := h step List.mem_cons_self
      rw [resolve, if_neg (by simp [hstay]), if_neg (by simp [hup]),
        ih (fun s hs => h s (List.mem_cons_of_mem _ hs)), List.append_assoc]
      rfl

/-- Only texts of dots and nothing stay or go up. -/
theorem down_of_hyphen {step : String} (h : '-' ∈ step.toList) :
    isStay step = false ∧ isUp step = false := by
  have hne : ∀ {s : String}, '-' ∉ s.toList → (step == s) = false := by
    intro s hs
    refine beq_eq_false_iff_ne.mpr fun heq => ?_
    rw [heq] at h
    exact hs h
  unfold isStay isUp
  rw [hne (by decide), hne (by decide), hne (by decide)]
  exact ⟨rfl, rfl⟩

end Tree

/-- A path that goes up nowhere leads where its steps say. -/
theorem Archive.exists_place {path first second : String} {more : List String}
    (h : Archive.steps path = first :: second :: more)
    (hfirst : Tree.isStay first = false ∧ Tree.isUp first = false)
    (hsecond : Tree.isStay second = false ∧ Tree.isUp second = false)
    (hmore : ∀ step ∈ more.dropLast, Tree.isStay step = true ∨ Tree.isUp step = false) :
    ∃ rest, Tree.resolve [] (Archive.directorySteps path)
        ++ [((Archive.steps path).getLast?).getD ""] = first :: second :: rest := by
  unfold Archive.directorySteps
  rw [h]
  rcases List.eq_nil_or_concat more with rfl | ⟨init, last, rfl⟩
  · have hkept : [first].filter (fun step => !Tree.isStay step) = [first] := by
      simp [hfirst.1]
    refine ⟨[], ?_⟩
    rw [show [first, second].dropLast = [first] from rfl, hkept, Tree.resolve_of_down]
    · rfl
    · intro step hstep
      rw [List.mem_singleton.mp hstep]
      exact hfirst
  · rw [List.concat_eq_append] at hmore ⊢
    rw [List.dropLast_concat] at hmore
    have hkept : (first :: second :: init).filter (fun step => !Tree.isStay step)
        = first :: second :: init.filter fun step => !Tree.isStay step := by
      simp [hfirst.1, hsecond.1]
    refine ⟨init.filter (fun step => !Tree.isStay step) ++ [last], ?_⟩
    rw [← List.cons_append, ← List.cons_append, List.dropLast_concat, List.getLast?_concat, hkept,
      Tree.resolve_of_down]
    · rfl
    · intro step hstep
      rcases List.mem_cons.mp hstep with rfl | hstep
      · exact hfirst
      · rcases List.mem_cons.mp hstep with rfl | hstep
        · exact hsecond
        · obtain ⟨hmem, hstay⟩ := List.mem_filter.mp hstep
          have hstay : Tree.isStay step = false := by simpa using hstay
          refine ⟨hstay, (hmore step hmem).resolve_left ?_⟩
          rw [hstay]
          exact Bool.noConfusion

namespace Layout

variable {layout layout' : Layout} {start start' : Int64} {kind kind' : RowKind} {path : String}
  {i j : Instant}

/-! ## The parts of a path -/

/-- What the name of a file says about when its bucket starts. -/
def stamp (i : Instant) : String :=
  i.date.text ++ "_" ++ Time.padded 2 i.hour ++ "-" ++ Time.padded 2 i.minute

theorem fileName_eq (layout : Layout) (i : Instant) (kind : RowKind) :
    layout.fileName i kind = stamp i ++ (layout.uidPart ++ layout.ending kind) := by
  unfold fileName stamp ending
  simp only [String.append_assoc]

/-- The time of day in a stamp. -/
def timeOfDay (i : Instant) : List Char :=
  '_' :: ((Time.padded 2 i.hour).toList ++ '-' :: (Time.padded 2 i.minute).toList)

theorem stamp_toList (i : Instant) : (stamp i).toList = i.date.text.toList ++ timeOfDay i := by
  have hbar : "_".toList = ['_'] := by decide
  have hhyphen : "-".toList = ['-'] := by decide
  unfold stamp timeOfDay
  simp only [String.toList_append, hbar, hhyphen, List.append_assoc, List.cons_append,
    List.nil_append]

theorem slash_not_mem_stamp (i : Instant) : '/' ∉ (stamp i).toList := by
  rw [stamp_toList]
  intro h
  rcases List.mem_append.mp h with h | h
  · exact Time.Date.slash_not_mem_text _ h
  · unfold timeOfDay at h
    simp only [List.mem_cons, List.mem_append, Char.reduceEq, false_or] at h
    rcases h with h | h
    · exact Time.slash_not_mem_padded 2 _ h
    · exact Time.slash_not_mem_padded 2 _ h

theorem length_timeOfDay (i : Instant) : (timeOfDay i).length = 6 := by
  have hhour := i.hour_lt
  have hminute := i.minute_lt
  unfold timeOfDay
  rw [List.length_cons, List.length_append, List.length_cons, Time.length_padded_two (by omega),
    Time.length_padded_two (by omega)]

theorem timeOfDay_inj (h : timeOfDay i = timeOfDay j) : i.hour = j.hour ∧ i.minute = j.minute := by
  have hi := i.hour_lt
  have hj := j.hour_lt
  obtain ⟨hhour, hminute⟩ := List.append_inj (List.cons.inj h).2 (by
    rw [Time.length_padded_two (by omega), Time.length_padded_two (by omega)])
  exact ⟨Time.padded_inj (String.toList_inj.mp hhour),
    Time.padded_inj (String.toList_inj.mp (List.cons.inj hminute).2)⟩

/-- **A stamp tells the minute.** -/
theorem stamp_eq_iff : stamp i = stamp j ↔ i.seconds / 60 = j.seconds / 60 := by
  rw [Instant.same_minute_iff]
  constructor
  · intro h
    have hl := congrArg String.toList h
    rw [stamp_toList, stamp_toList] at hl
    obtain ⟨hdate, htime⟩ :=
      List.append_inj' hl ((length_timeOfDay i).trans (length_timeOfDay j).symm)
    exact ⟨String.toList_inj.mp hdate, timeOfDay_inj htime⟩
  · rintro ⟨hdate, hhour, hminute⟩
    unfold stamp
    rw [hdate, hhour, hminute]

/-- No name of a collector is told apart from the empty one. -/
theorem uidPart_eq_iff : layout.uidPart = layout'.uidPart ↔ layout.uid = layout'.uid := by
  have hne : ∀ uid : String, "_" ++ uid ≠ "" := by
    intro uid h
    have hl := congrArg String.toList h
    rw [String.toList_append] at hl
    exact absurd hl (List.cons_ne_nil _ _)
  unfold uidPart
  cases layout.uid with
  | none =>
      cases layout'.uid with
      | none => exact iff_of_true rfl rfl
      | some uid' => exact iff_of_false (hne uid').symm (by simp)
  | some uid =>
      cases layout'.uid with
      | none => exact iff_of_false (hne uid) (by simp)
      | some uid' =>
          dsimp only
          rw [String.append_right_inj, Option.some.injEq]

/-- **A path is taken apart again**, whatever the names of the collectors hold. -/
theorem path_inj (h : dayName i ++ "/" ++ layout.fileName i kind
      = dayName j ++ "/" ++ layout'.fileName j kind') :
    i.seconds / 60 = j.seconds / 60 ∧ layout.uid = layout'.uid ∧ layout.tabs = layout'.tabs
      ∧ kind = kind' := by
  have hslash : "/".toList = ['/'] := by decide
  have hl := congrArg String.toList h
  simp only [String.toList_append, hslash, List.append_assoc, List.singleton_append,
    fileName_eq] at hl
  -- the day ends at the first slash, and comes again in front of the name
  obtain ⟨hday, hname⟩ := eq_of_append_separator (Time.Date.slash_not_mem_text _)
    (Time.Date.slash_not_mem_text _) hl
  have hdate : i.date.text = j.date.text := String.toList_inj.mp hday
  rw [stamp_toList, stamp_toList, hdate, List.append_assoc, List.append_assoc] at hname
  obtain ⟨htime, hrest⟩ := List.append_inj (List.append_cancel_left hname)
    ((length_timeOfDay i).trans (length_timeOfDay j).symm)
  -- all endings have one length, so the name of the collector is what is left before them
  obtain ⟨huid, hending⟩ := List.append_inj' hrest (length_ending.trans length_ending.symm)
  obtain ⟨htabs, hkind⟩ := ending_inj (String.toList_inj.mp hending)
  exact ⟨Instant.same_minute_iff.mpr ⟨hdate, timeOfDay_inj htime⟩,
    uidPart_eq_iff.mp (String.toList_inj.mp huid), htabs, hkind⟩

theorem filePath?_eq_some_iff : layout.filePath? start kind = some path
    ↔ ∃ i, Instant.ofSeconds? start.toInt = some i
      ∧ path = dayName i ++ "/" ++ layout.fileName i kind := by
  unfold filePath?
  cases Instant.ofSeconds? start.toInt with
  | none =>
      constructor
      · intro h; exact absurd h (by simp)
      · rintro ⟨i, h, _⟩; exact absurd h (by simp)
  | some i =>
      constructor
      · intro h; exact ⟨i, rfl, (Option.some.inj h).symm⟩
      · rintro ⟨j, hj, rfl⟩; rw [Option.some.inj hj]; rfl

/-- **When two files have one path**: their buckets start within one minute, and the names of the
collectors, the delimiters and the kinds are the same. -/
theorem filePath?_eq_iff (h : layout.filePath? start kind = some path) :
    layout'.filePath? start' kind' = some path ↔ start.toInt / 60 = start'.toInt / 60
      ∧ layout.uid = layout'.uid ∧ layout.tabs = layout'.tabs ∧ kind = kind' := by
  obtain ⟨i, hi, rfl⟩ := filePath?_eq_some_iff.mp h
  have hstart := Instant.seconds_of_ofSeconds? hi
  rw [filePath?_eq_some_iff]
  constructor
  · rintro ⟨j, hj, hpath⟩
    have hstart' := Instant.seconds_of_ofSeconds? hj
    rw [← hstart, ← hstart']
    exact path_inj hpath
  · rintro ⟨hminute, huid, htabs, rfl⟩
    obtain ⟨j, hj⟩ := Instant.isSome_ofSeconds?_of_same_minute hminute hi
    have hstart' := Instant.seconds_of_ofSeconds? hj
    rw [← hstart, ← hstart'] at hminute
    refine ⟨j, hj, ?_⟩
    have hdate := (Instant.same_minute_iff.mp hminute).1
    unfold dayName
    rw [fileName_eq, fileName_eq, hdate, stamp_eq_iff.mpr hminute, uidPart_eq_iff.mpr huid]
    unfold ending extension
    rw [htabs]

/-! ## Starts of buckets -/

/-- Buckets of at least a minute start in different minutes. -/
theorem bucketStart_eq_of_same_minute (hlen : 60 ≤ layout.bucketSeconds.toInt) {ms ms' : Int64}
    (h : (layout.bucketStart ms).toInt / 60 = (layout.bucketStart ms').toInt / 60) :
    layout.bucketStart ms = layout.bucketStart ms' := by
  have hpos : 0 < layout.bucketSeconds.toInt := by omega
  refine Int64.toInt.inj ?_
  rw [toInt_bucketStart hpos, toInt_bucketStart hpos] at h ⊢
  generalize layout.bucketSeconds.toInt = length at *
  -- different multiples of the length lie a minute or more apart
  have hapart : ∀ {a b : Int}, a * length / 60 = b * length / 60 → ¬ a < b := by
    intro a b hab hlt
    have hnext := Int.mul_le_mul_of_nonneg_right (show a + 1 ≤ b from hlt) (Int.le_of_lt hpos)
    rw [Int.add_mul, Int.one_mul] at hnext
    omega
  have hle := Int.not_lt.mp (hapart h)
  have hge := Int.not_lt.mp (hapart h.symm)
  rw [Int.le_antisymm hge hle]

/-- Of shorter buckets the first two behind the start of 1970 share a minute, and a path. -/
theorem exists_shared_path (hlen : 0 < layout.bucketSeconds.toInt)
    (hshort : layout.bucketSeconds.toInt < 60) (kind : RowKind) : ∃ ms path,
      layout.bucketStart 0 ≠ layout.bucketStart ms
        ∧ layout.filePath? (layout.bucketStart 0) kind = some path
        ∧ layout.filePath? (layout.bucketStart ms) kind = some path := by
  have hms : (Int64.ofInt (layout.bucketSeconds.toInt * 1000)).toInt
      = layout.bucketSeconds.toInt * 1000 := Int64.toInt_ofInt_of_le (by omega) (by omega)
  have hfirst : (layout.bucketStart 0).toInt = 0 := by
    rw [toInt_bucketStart hlen, show (0 : Int64).toInt = 0 by decide]
    simp
  have hsecond : (layout.bucketStart (Int64.ofInt (layout.bucketSeconds.toInt * 1000))).toInt
      = layout.bucketSeconds.toInt := by
    rw [toInt_bucketStart hlen, hms, Int.mul_ediv_cancel _ (by decide),
      Int.ediv_self (Int.ne_of_gt hlen), Int.one_mul]
  obtain ⟨i, hi⟩ : ∃ i, Instant.ofSeconds? (layout.bucketStart 0).toInt = some i := by
    rw [hfirst]
    exact ⟨⟨0, 0, by decide, by decide, by decide⟩, rfl⟩
  have hpath : layout.filePath? (layout.bucketStart 0) kind
      = some (dayName i ++ "/" ++ layout.fileName i kind) :=
    filePath?_eq_some_iff.mpr ⟨i, hi, rfl⟩
  refine ⟨Int64.ofInt (layout.bucketSeconds.toInt * 1000), _, fun hsame => ?_, hpath,
    (filePath?_eq_iff hpath).mpr ⟨?_, rfl, rfl, rfl⟩⟩
  · have hstarts := congrArg Int64.toInt hsame
    rw [hfirst, hsecond] at hstarts
    omega
  · rw [hfirst, hsecond]
    omega

/-! ## Places -/

/-- The name of the collector holds no step up. -/
def StaysBelow (layout : Layout) : Prop :=
  ∀ step ∈ Archive.directorySteps layout.uidPart, Tree.isUp step = false

instance (layout : Layout) : Decidable layout.StaysBelow :=
  inferInstanceAs (Decidable (∀ step ∈ Archive.directorySteps layout.uidPart, _))

/-- The steps of a path: the day, the stamp with what stands behind it up to the next slash, and
what follows. -/
theorem steps_path {part : List Char} {parts : List (List Char)}
    (h : Text.splitAt '/' (layout.uidPart ++ layout.ending kind).toList = part :: parts)
    (i : Instant) : Archive.steps (dayName i ++ "/" ++ layout.fileName i kind)
      = dayName i :: (stamp i ++ String.ofList part) :: parts.map String.ofList := by
  have hslash : "/".toList = ['/'] := by decide
  have hstamp := Text.splitAt_append (slash_not_mem_stamp i) h
  have hday := Text.splitAt_append (Time.Date.slash_not_mem_text i.date)
    (Text.splitAt_slash ((stamp i).toList ++ (layout.uidPart ++ layout.ending kind).toList))
  unfold Archive.steps dayName
  rw [fileName_eq, String.toList_append, String.toList_append, String.toList_append, hslash,
    List.append_assoc, List.singleton_append, hday, hstamp]
  simp only [List.map_cons, List.append_nil, String.ofList_toList, String.ofList_append]

/-- The end of a name adds to the last part of it, and the parts before that are the collector's
own. -/
theorem exists_parts (h : layout.StaysBelow) (kind : RowKind) : ∃ part parts,
    Text.splitAt '/' (layout.uidPart ++ layout.ending kind).toList = part :: parts
      ∧ ∀ step ∈ (parts.map String.ofList).dropLast,
          Tree.isStay step = true ∨ Tree.isUp step = false := by
  obtain ⟨front, last, hsplit⟩ := Text.exists_splitAt layout.uidPart.toList
  have hending : '/' ∉ (layout.ending kind).toList := slash_not_mem_ending
  have huid := hsplit [] List.not_mem_nil
  have hname := hsplit _ hending
  rw [List.append_nil, List.append_nil] at huid
  rw [← String.toList_append] at hname
  have hfront : ∀ step ∈ front.map String.ofList,
      Tree.isStay step = true ∨ Tree.isUp step = false := by
    intro step hstep
    cases hs : Tree.isStay step with
    | true => exact Or.inl rfl
    | false =>
        refine Or.inr (h step ?_)
        unfold Archive.directorySteps Archive.steps
        rw [huid, List.map_append, List.map_singleton, List.dropLast_concat]
        exact List.mem_filter.mpr ⟨hstep, by rw [hs]; rfl⟩
  cases front with
  | nil => exact ⟨_, [], hname, fun step hstep => absurd hstep List.not_mem_nil⟩
  | cons part front =>
      refine ⟨part, front ++ [last ++ (layout.ending kind).toList], hname, fun step hstep => ?_⟩
      rw [List.map_append, List.map_singleton, List.dropLast_concat] at hstep
      exact hfront step (List.mem_cons_of_mem _ hstep)

/-- **Where a file lies without steps up**: in the directory of its day, at a step that begins with
the stamp. -/
theorem place?_of_staysBelow (h : layout.StaysBelow) (kind : RowKind) : ∃ first : String,
    ∀ start place, layout.place? start kind = some place →
      ∃ i rest, Instant.ofSeconds? start.toInt = some i
        ∧ place = dayName i :: (stamp i ++ first) :: rest := by
  obtain ⟨part, parts, hparts, hmore⟩ := exists_parts h kind
  refine ⟨String.ofList part, fun start place hplace => ?_⟩
  obtain ⟨path, hpath, rfl⟩ := Option.map_eq_some_iff.mp hplace
  obtain ⟨i, hi, rfl⟩ := filePath?_eq_some_iff.mp hpath
  have hday : '-' ∈ (dayName i).toList := Time.Date.hyphen_mem_text _
  have hstamp : '-' ∈ (stamp i ++ String.ofList part).toList := by
    rw [String.toList_append, stamp_toList]
    exact List.mem_append_left _ (List.mem_append_left _ hday)
  obtain ⟨rest, hrest⟩ := Archive.exists_place (steps_path hparts i) (Tree.down_of_hyphen hday)
    (Tree.down_of_hyphen hstamp) hmore
  exact ⟨i, rest, hi, hrest⟩

/-- **Without steps up, buckets of at least a minute have files in different places.** -/
theorem start_eq_of_place?_eq (hbelow : layout.StaysBelow)
    (hlen : 60 ≤ layout.bucketSeconds.toInt) {ms ms' : Int64} {place : Place}
    (h : layout.place? (layout.bucketStart ms) kind = some place)
    (h' : layout.place? (layout.bucketStart ms') kind = some place) :
    layout.bucketStart ms = layout.bucketStart ms' := by
  obtain ⟨first, hplaces⟩ := place?_of_staysBelow hbelow kind
  obtain ⟨i, rest, hi, hplace⟩ := hplaces _ _ h
  obtain ⟨j, rest', hj, hplace'⟩ := hplaces _ _ h'
  -- the stamps stand in the same step, in front of the same text
  have hstep := (List.cons.inj (List.cons.inj (hplace.symm.trans hplace')).2).1
  have hstamp := stamp_eq_iff.mp (String.append_left_inj _ |>.mp hstep)
  rw [Instant.seconds_of_ofSeconds? hi, Instant.seconds_of_ofSeconds? hj] at hstamp
  exact bucketStart_eq_of_same_minute hlen hstamp

end Layout

/-- An archive takes no layout with buckets of no length. -/
theorem Archive.bucketSeconds_pos {layout : Layout} {tree : Tree} {archive : Archive}
    (h : Archive.open? layout tree = .ok archive) : 0 < layout.bucketSeconds.toInt := by
  unfold Archive.open? at h
  split at h
  · assumption
  · exact absurd h (by simp)

/--
**Every bucket has files of its own if and only if buckets are at least a minute long.**

For every layout that an archive takes: two files have one path if and only if their buckets start
within one minute and their kinds are the same. So the starts of buckets and the kinds can be told
from the paths if and only if buckets are at least a minute long. If they are, and there is no step
up in the name of the collector, then rows that are filed at one place also belong to one bucket.
-/
theorem Archive.files_of_buckets {layout : Layout} {tree : Tree} {archive : Archive}
    (hopen : Archive.open? layout tree = .ok archive) :
    (∀ start start' kind kind' path, layout.filePath? start kind = some path →
        (layout.filePath? start' kind' = some path
          ↔ start.toInt / 60 = start'.toInt / 60 ∧ kind = kind'))
      ∧ ((∀ ms ms' kind kind' path,
            layout.filePath? (layout.bucketStart ms) kind = some path →
            layout.filePath? (layout.bucketStart ms') kind' = some path →
            layout.bucketStart ms = layout.bucketStart ms' ∧ kind = kind')
          ↔ 60 ≤ layout.bucketSeconds.toInt)
      ∧ (60 ≤ layout.bucketSeconds.toInt → layout.StaysBelow →
          ∀ f f' : Archive.Filing, f.layout = layout → f'.layout = layout →
            ∀ place, f.place? = some place → f'.place? = some place → f.bucket = f'.bucket) := by
  have hlen := bucketSeconds_pos hopen
  have hnames : ∀ start start' kind kind' path, layout.filePath? start kind = some path →
      (layout.filePath? start' kind' = some path
        ↔ start.toInt / 60 = start'.toInt / 60 ∧ kind = kind') := by
    intro start start' kind kind' path hpath
    rw [Layout.filePath?_eq_iff hpath]
    simp only [true_and]
  refine ⟨hnames, ⟨fun hown => ?_, fun hminute ms ms' kind kind' path hp hp' => ?_⟩, ?_⟩
  · refine Int.not_lt.mp fun hshort => ?_
    obtain ⟨ms, path, hne, hp, hp'⟩ := Layout.exists_shared_path hlen hshort .all
    exact hne (hown _ _ _ _ _ hp hp').1
  · obtain ⟨hsame, hkind⟩ := (hnames _ _ _ _ _ hp).mp hp'
    exact ⟨Layout.bucketStart_eq_of_same_minute hminute hsame, hkind⟩
  · intro hminute hbelow f f' hf hf' place hp hp'
    obtain ⟨l, row⟩ := f
    obtain ⟨l', row'⟩ := f'
    obtain rfl : l = layout := hf
    obtain rfl : l' = l := hf'
    have hkind : row.kind = row'.kind := Layout.kind_eq_of_place?_eq hp hp'
    have hp'' : l'.place? (l'.bucketStart row'.bid.receivedAtMs) row.kind = some place := by
      rw [hkind]
      exact hp'
    exact Prod.ext (Layout.start_eq_of_place?_eq hbelow hminute hp hp'') hkind

namespace Archive

/-- Buckets of a minute, in directories of a collector. -/
def minutes : Layout := { bucketSeconds := 60, uid := some "eu/1" }

/-- Two rows that are received a minute apart go into different files. -/
theorem files_of_minutes : (∃ archive, Archive.open? minutes {} = .ok archive)
    ∧ minutes.StaysBelow
    ∧ ∀ place, (⟨minutes, ⟨.all, Bid.plain ⟨7⟩ 5⟩⟩ : Filing).place? = some place →
        (⟨minutes, ⟨.all, { Bid.plain ⟨7⟩ 5 with receivedAtMs := 60000 }⟩⟩ : Filing).place?
          ≠ some place := by
  have hopen : Archive.open? minutes {} = .ok { layout := minutes, tree := {} } := by rfl
  have hbelow : minutes.StaysBelow := by decide +kernel
  obtain ⟨_, _, hplaces⟩ := files_of_buckets hopen
  refine ⟨⟨_, hopen⟩, hbelow, fun place hp hp' => ?_⟩
  have hbucket := hplaces (by decide) hbelow _ _ rfl rfl place hp hp'
  revert hbucket
  decide +kernel

/-- Buckets of half a minute. -/
def halfMinutes : Layout := { bucketSeconds := 30 }

/-- An archive takes a layout with buckets of half a minute. Two rows that are received 31 seconds
apart belong to different buckets, and go into one file. -/
theorem half_minutes_share_files :
    Archive.open? halfMinutes {} = .ok { layout := halfMinutes, tree := {} }
      ∧ halfMinutes.bucketStart 0 ≠ halfMinutes.bucketStart 31000
      ∧ halfMinutes.filePath? (halfMinutes.bucketStart 0) .all
        = some "1970-01-01/1970-01-01_00-00_all.csv"
      ∧ halfMinutes.filePath? (halfMinutes.bucketStart 31000) .all
        = some "1970-01-01/1970-01-01_00-00_all.csv"
      ∧ (Archive.write ⟨.all, { Bid.plain ⟨7⟩ 5 with receivedAtMs := 31000 }⟩
          (Archive.write ⟨.all, Bid.plain ⟨7⟩ 5⟩
            { layout := halfMinutes, tree := {} }).2).2.tree.entries.length = 2 := by
  refine ⟨rfl, by decide +kernel, by decide +kernel, by decide +kernel, by decide +kernel⟩

end Archive

end BidArchive
