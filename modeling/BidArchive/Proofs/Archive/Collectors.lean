import BidArchive.Proofs.Archive.Naming

/-!
# Collectors that share a directory

Several collectors may write below one directory. From outside, the path of a file is that of the
directory, the day and the name of the file joined by slashes (`fullPath?`), and nothing in the
paths below it can get out of the directory at the joints: a day and a name never begin with a
slash. So what is known of paths within the directory holds of these too: files of collectors with
different names never have one path (`paths_of_collectors`). Paths can differ and still lead to one
place, but only by steps in the name of a collector (`places_of_collectors`).
-/

namespace BidArchive.Layout

open Time (Instant firstSecond lastSecond)

variable {layout layout' : Layout} {start start' : Int64} {kind kind' : RowKind} {i : Instant}

/-! ## Paths from outside -/

theorem head?_append_ne {front back : List Char} (hne : front ≠ []) (h : '/' ∉ front) :
    (front ++ back).head? ≠ some '/' := by
  cases front with
  | nil => exact absurd rfl hne
  | cons c front =>
      intro hhead
      obtain rfl : c = '/' := Option.some.inj hhead
      exact h List.mem_cons_self

theorem getLast?_append_ne {front back : List Char} (hne : back ≠ []) (h : '/' ∉ back) :
    (front ++ back).getLast? ≠ some '/' := by
  rw [List.getLast?_eq_head?_reverse, List.reverse_append]
  exact head?_append_ne (mt List.reverse_eq_nil_iff.mp hne) (mt List.mem_reverse.mp h)

theorem dayName_facts (i : Instant) : (dayName i).toList ≠ [] ∧ '/' ∉ (dayName i).toList :=
  ⟨List.ne_nil_of_mem (Time.Date.hyphen_mem_text i.date), Time.Date.slash_not_mem_text i.date⟩

/-- **From outside, paths begin with the directory** and go on as they do within it. -/
theorem fullPath?_eq (layout : Layout) (start : Int64) (kind : RowKind) :
    layout.fullPath? start kind
      = (layout.filePath? start kind).map (opened layout.directory ++ ·) := by
  unfold fullPath? filePath?
  cases Instant.ofSeconds? start.toInt with
  | none => rfl
  | some i =>
      obtain ⟨hne, hslash⟩ := dayName_facts i
      have hday : join layout.directory (dayName i) = opened layout.directory ++ dayName i :=
        if_neg fun hhead => hslash (List.mem_of_head? hhead)
      have hopened : opened (opened layout.directory ++ dayName i)
          = opened layout.directory ++ dayName i ++ "/" := by
        refine if_neg ?_
        rintro (hempty | hlast)
        · exact hne (String.toList_eq_nil_iff.mpr (String.append_eq_empty_iff.mp hempty).2)
        · rw [String.toList_append] at hlast
          exact getLast?_append_ne hne hslash hlast
      have hname : (layout.fileName i kind).toList.head? ≠ some '/' := by
        rw [fileName_eq, String.toList_append, stamp_toList, List.append_assoc]
        exact head?_append_ne hne hslash
      show some (join (join layout.directory (dayName i)) (layout.fileName i kind)) = _
      rw [hday, join, if_neg hname, hopened]
      simp only [String.append_assoc]
      rfl

theorem isSome_filePath?_iff : (layout.filePath? start kind).isSome
    ↔ firstSecond ≤ start.toInt ∧ start.toInt ≤ lastSecond := by
  unfold filePath? Instant.ofSeconds?
  split
  · next h => exact iff_of_true rfl h
  · next h => exact iff_of_false (by simp) h

/--
**Collectors that share a directory do not get into each other's files.**

Let the starts of two buckets lie within the calendar. Then there are paths of their files, and the
two are the same text if and only if the buckets start within one minute, the names of the
collectors are the same, a missing name and an empty one being different, and so are delimiter and
kind.
-/
theorem paths_of_collectors (hdirectory : layout.directory = layout'.directory)
    (hstart : firstSecond ≤ start.toInt ∧ start.toInt ≤ lastSecond)
    (hstart' : firstSecond ≤ start'.toInt ∧ start'.toInt ≤ lastSecond) (kind kind' : RowKind) :
    ∃ path path', layout.fullPath? start kind = some path
      ∧ layout'.fullPath? start' kind' = some path'
      ∧ (path = path' ↔ start.toInt / 60 = start'.toInt / 60 ∧ layout.uid = layout'.uid
        ∧ layout.tabs = layout'.tabs ∧ kind = kind') := by
  obtain ⟨path, hpath⟩ := Option.isSome_iff_exists.mp (isSome_filePath?_iff.mpr hstart)
  obtain ⟨path', hpath'⟩ := Option.isSome_iff_exists.mp (isSome_filePath?_iff.mpr hstart')
  refine ⟨opened layout.directory ++ path, opened layout.directory ++ path', ?_, ?_, ?_⟩
  · rw [fullPath?_eq, hpath]
    rfl
  · rw [fullPath?_eq, hpath', hdirectory]
    rfl
  · rw [String.append_right_inj, ← filePath?_eq_iff hpath, hpath', Option.some.injEq, eq_comm]

/-- Two collectors, one without a name and one with an empty one, in the first minute of the year
10000 and in the last one before the year 0. -/
theorem paths_of_nameless_collectors :
    (firstSecond ≤ (253402300800 : Int64).toInt ∧ (253402300800 : Int64).toInt ≤ lastSecond)
      ∧ (firstSecond ≤ (-62167219201 : Int64).toInt ∧ (-62167219201 : Int64).toInt ≤ lastSecond)
      ∧ fullPath? {} 253402300800 .all = some "csv/+10000-01-01/+10000-01-01_00-00_all.csv"
      ∧ fullPath? {} (-62167219201) .all = some "csv/-0001-12-31/-0001-12-31_23-59_all.csv"
      ∧ fullPath? {} 253402300800 .all ≠ fullPath? { uid := some "" } 253402300859 .all
      ∧ fullPath? {} 253402300800 .all = fullPath? {} 253402300859 .all := by
  have hfar : firstSecond ≤ (253402300800 : Int64).toInt
      ∧ (253402300800 : Int64).toInt ≤ lastSecond := by decide
  have hfar' : firstSecond ≤ (253402300859 : Int64).toInt
      ∧ (253402300859 : Int64).toInt ≤ lastSecond := by decide
  refine ⟨hfar, by decide, by decide +kernel, by decide +kernel, ?_, ?_⟩
  · obtain ⟨path, path', hpath, hpath', hsame⟩ := @paths_of_collectors {}
      { uid := some "" } _ _ rfl hfar hfar' .all .all
    rw [hpath, hpath']
    intro h
    exact absurd (hsame.mp (Option.some.inj h)).2.1 (by decide)
  · obtain ⟨path, path', hpath, hpath', hsame⟩ := @paths_of_collectors {} {} _ _ rfl hfar
      hfar' .all .all
    rw [hpath, hpath', hsame.mpr ⟨by decide, rfl, rfl, rfl⟩]

/-! ## Places -/

/-- Without slashes in the name of the collector, a file lies in the directory of its day. -/
theorem place?_of_slash_not_mem (huid : ∀ uid ∈ layout.uid, '/' ∉ uid.toList)
    (hi : Instant.ofSeconds? start.toInt = some i) (kind : RowKind) :
    layout.place? start kind = some [dayName i, layout.fileName i kind] := by
  have hpart : '/' ∉ (layout.uidPart ++ layout.ending kind).toList := by
    rw [String.toList_append]
    refine List.not_mem_append ?_ slash_not_mem_ending
    unfold uidPart
    cases hname : layout.uid with
    | none => exact List.not_mem_nil
    | some uid =>
        rw [String.toList_append]
        exact List.not_mem_append (by decide) (huid uid hname)
  have hsteps : Archive.steps (dayName i ++ "/" ++ layout.fileName i kind)
      = [dayName i, layout.fileName i kind] := by
    rw [steps_path (Text.splitAt_of_not_mem hpart), String.ofList_toList, fileName_eq]
    rfl
  have hday : '-' ∈ (dayName i).toList := Time.Date.hyphen_mem_text i.date
  obtain ⟨hstay, hup⟩ := Tree.down_of_hyphen hday
  have hdirectory : Archive.directorySteps (dayName i ++ "/" ++ layout.fileName i kind)
      = [dayName i] := by
    unfold Archive.directorySteps
    rw [hsteps]
    exact List.filter_eq_self.mpr (by simpa using hstay)
  unfold place?
  rw [filePath?_eq_some_iff.mpr ⟨i, hi, rfl⟩, Option.map_some, hdirectory, hsteps,
    Tree.resolve_of_down (by simpa using ⟨hstay, hup⟩)]
  rfl

/-- **Collectors whose names hold no slash have files in different places.** -/
theorem places_of_collectors (huid : ∀ uid ∈ layout.uid, '/' ∉ uid.toList)
    (huid' : ∀ uid ∈ layout'.uid, '/' ∉ uid.toList) {place : Place}
    (h : layout.place? start kind = some place) :
    layout'.place? start' kind' = some place ↔ start.toInt / 60 = start'.toInt / 60
      ∧ layout.uid = layout'.uid ∧ layout.tabs = layout'.tabs ∧ kind = kind' := by
  obtain ⟨path, hpath, rfl⟩ := Option.map_eq_some_iff.mp h
  rw [← filePath?_eq_iff hpath]
  constructor
  · intro h'
    obtain ⟨path', hpath', -⟩ := Option.map_eq_some_iff.mp h'
    obtain ⟨i, hi, rfl⟩ := filePath?_eq_some_iff.mp hpath
    obtain ⟨j, hj, rfl⟩ := filePath?_eq_some_iff.mp hpath'
    rw [← h, place?_of_slash_not_mem huid hi, place?_of_slash_not_mem huid' hj] at h'
    obtain ⟨hday, hname⟩ := List.cons.inj (Option.some.inj h')
    rw [hpath', hday, (List.cons.inj hname).1]
  · intro h'
    unfold place?
    rw [h', Option.map_some]

/-- With a step up in a name, a file of one collector is also a file of another. -/
example : (⟨"csv", 3600, some "/../1970-01-01_00-00_b", false⟩ : Layout).place? 0 .all
    = (⟨"csv", 3600, some "b", false⟩ : Layout).place? 0 .all := by decide +kernel

end BidArchive.Layout
