import LibPrint.Proofs.Files.Soundness
import LibPrint.Store
import Mathlib.Data.List.Nodup

/-!
# What a store lists

The profile files of a store are listed once each, in the order of their places, and each one is
found by the path it is listed under if that path is short enough to be followed. Other bytes in a
file change nothing in the list, and nothing about where a path leads.
-/

namespace LibPrint

namespace Place

/-- Places are in the order of their names. -/
theorem le_iff_not_lt (left right : Place) : le left right = true ↔ ¬ right < left := by
  induction left generalizing right with
  | nil => simp [le]
  | cons first left ih =>
      cases right with
      | nil => simp [le]
      | cons second right =>
          rw [le, List.cons_lt_cons_iff]
          split
          · next same =>
            have notAbove : ¬ second < first := same ▸ String.lt_irrefl first
            rw [ih, or_iff_right notAbove, and_iff_right same.symm]
          · next different =>
            rw [decide_eq_true_iff]
            constructor
            · rintro below (above | ⟨same, -⟩)
              · exact String.lt_asymm below above
              · exact different same.symm
            · intro notAbove
              by_contra notBelow
              have above : ¬ second < first := fun above => notAbove (.inl above)
              exact different (String.le_antisymm (String.not_lt.mp above) (String.not_lt.mp notBelow))

theorem le_trans {first second third : Place} (lower : le first second = true)
    (upper : le second third = true) : le first third = true := by
  rw [le_iff_not_lt] at lower upper ⊢
  exact List.not_lt.mpr (List.le_trans (List.not_lt.mp lower) (List.not_lt.mp upper))

theorem le_total (left right : Place) : (le left right || le right left) = true := by
  rw [Bool.or_eq_true, le_iff_not_lt, le_iff_not_lt, List.not_lt, List.not_lt]
  exact List.le_total left right

/-- Different places are in one order only. -/
theorem lt_of_le {left right : Place} (below : le left right = true) (different : left ≠ right) :
    left < right := by
  rw [le_iff_not_lt] at below
  by_contra notBelow
  exact different (List.le_antisymm (List.not_lt.mp below) (List.not_lt.mp notBelow))

end Place

namespace Files

variable {files : Files} {folder place : Place} {bytes old : List UInt8}

/-! ## What lies below a folder -/

/-- The places of the files below a folder, as they come. -/
def found (files : Files) (folder : Place) : List Place :=
  ((files.files.map Prod.fst).filterMap fun place =>
    if folder.isPrefixOf place then some (place.drop folder.length) else none).filter (!·.isEmpty)

theorem below_eq (files : Files) (folder : Place) :
    files.below folder = (files.found folder).mergeSort Place.le := by
  rw [below, found, List.filterMap_map]
  rfl

theorem mem_found : place ∈ files.found folder ↔
    place ≠ [] ∧ ∃ bytes, (folder ++ place, bytes) ∈ files.files := by
  simp only [found, List.mem_filter, List.mem_filterMap, List.mem_map, Option.ite_none_right_eq_some,
    Option.some.injEq, List.isPrefixOf_iff_prefix, Bool.not_eq_true', List.isEmpty_eq_false_iff]
  constructor
  · rintro ⟨⟨_, ⟨file, member, rfl⟩, ⟨rest, shape⟩, rfl⟩, some⟩
    rw [← shape, List.drop_left] at some ⊢
    exact ⟨some, file.2, by rwa [shape]⟩
  · rintro ⟨some, bytes, member⟩
    exact ⟨⟨folder ++ place, ⟨_, member, rfl⟩, List.prefix_append _ _, List.drop_left⟩, some⟩

theorem mem_below : place ∈ files.below folder ↔
    place ≠ [] ∧ ∃ bytes, (folder ++ place, bytes) ∈ files.files := by
  rw [below_eq, List.mem_mergeSort, mem_found]

/-- What lies below a folder is listed once, in order. -/
theorem Sound.pairwise_below (sound : files.Sound) (folder : Place) :
    (files.below folder).Pairwise (· < ·) := by
  have distinct : (files.found folder).Nodup := by
    refine (List.Pairwise.filterMap _ ?_ sound.distinct).filter _
    intro left right different rest isRest other isOther same
    rw [Option.ite_none_right_eq_some, List.isPrefixOf_iff_prefix, Option.some.injEq] at isRest isOther
    obtain ⟨⟨_, rfl⟩, rfl⟩ := isRest
    obtain ⟨⟨_, rfl⟩, rfl⟩ := isOther
    rw [List.drop_left, List.drop_left] at same
    exact different (congrArg _ same)
  have sorted : (files.below folder).Pairwise fun left right => Place.le left right = true := by
    rw [below_eq]
    apply List.pairwise_mergeSort
    · exact fun _ _ _ => Place.le_trans
    · exact Place.le_total
  have apart : (files.below folder).Nodup := by
    rw [below_eq]
    exact (List.mergeSort_perm _ _).nodup_iff.mpr distinct
  exact (sorted.and apart).imp fun ⟨below, different⟩ => Place.lt_of_le below different

/-! ## Replacing the bytes of a file -/

/-- Other files are as they were. -/
theorem fileAt?_put_of_ne (files : Files) {written other : Place} (different : other ≠ written)
    (bytes : List UInt8) : (files.put written bytes).fileAt? other = files.fileAt? other := by
  have skipped : (other == written) = false := beq_eq_false_iff_ne.mpr different
  have spared (entries : List (Place × List UInt8)) :
      (entries.filter (·.1 != written)).lookup other = entries.lookup other := by
    induction entries with
    | nil => rfl
    | cons entry entries ih =>
        obtain ⟨place, content⟩ := entry
        by_cases same : place = written
        · simp [same, List.lookup_cons, skipped, ih]
        · simp [same, List.lookup_cons, ih]
  rw [fileAt?, put, List.lookup_cons, skipped]
  exact spared files.files

/-- Writing by a path changes the file that the path leads to, and no other. -/
theorem locate?_of_write? {after : Files} {path : String}
    (written : files.write? path bytes = some after)
    (changed : after.fileAt? place ≠ files.fileAt? place) : after.locate? path = some place := by
  obtain ⟨target, isTarget, rfl⟩ := Option.map_eq_some_iff.mp written
  by_cases same : place = target
  · rw [same]
    exact locate?_put isTarget bytes
  · exact absurd (fileAt?_put_of_ne files same bytes) changed

theorem hasFolder_replace (member : (place, old) ∈ files.files) (folder : Place) :
    (files.put place bytes).hasFolder folder = files.hasFolder folder := by
  rw [Bool.eq_iff_iff]
  constructor
  · intro found
    rcases hasFolder_of_put found with there | ⟨below, apart⟩
    · exact there
    · exact hasFolder_of_file member below apart
  · exact hasFolder_put place bytes

/-- Paths lead to where they led. -/
theorem locate?_replace (member : (place, old) ∈ files.files) (path : String) :
    (files.put place bytes).locate? path = files.locate? path := by
  ext reached
  constructor
  · refine locate?_of_hasFolder rfl fun folder found => ?_
    rwa [hasFolder_replace member] at found
  · exact locate?_of_hasFolder rfl fun folder => hasFolder_put place bytes

theorem mem_files_replace (member : (place, old) ∈ files.files) (other : Place) :
    (∃ content, (other, content) ∈ (files.put place bytes).files) ↔
      ∃ content, (other, content) ∈ files.files := by
  simp only [put, List.mem_cons, List.mem_filter, bne_iff_ne, Prod.mk.injEq]
  by_cases same : other = place
  · subst same
    exact ⟨fun _ => ⟨old, member⟩, fun _ => ⟨bytes, .inl ⟨rfl, rfl⟩⟩⟩
  · simp [same]

end Files

namespace ProfileStore

variable {store : ProfileStore} {files : Files} {folder place : Place} {bytes old : List UInt8}

/-- The path that the file at a place below the folder of the store is listed under. -/
def pathOf (store : ProfileStore) (place : Place) : String :=
  Path.join store.root ("/".intercalate place)

/-- The places of the profile files below the folder of the store. -/
def slots (store : ProfileStore) (files : Files) : List Place :=
  match files.locate? store.root with
  | none => []
  | some folder => (files.below folder).filter fun place => place.extension? == some extension

/-- There is a profile file with these bytes at a place below the folder of the store. -/
def Keeps (store : ProfileStore) (files : Files) (place : Place) (bytes : List UInt8) : Prop :=
  ∃ folder, files.locate? store.root = some folder ∧ (folder ++ place, bytes) ∈ files.files ∧
    place.extension? = some extension

theorem list_of_not_isFile (noFile : files.isFile store.root = false) :
    store.list files = .ok ((store.slots files).map store.pathOf) := by
  rw [list, slots]
  rw [Files.isFile, Files.read?] at noFile
  cases located : files.locate? store.root with
  | none => rfl
  | some folder =>
      rw [located, Option.bind_some] at noFile
      simp only [noFile, Bool.false_eq_true, if_false]
      rfl

theorem mem_slots : place ∈ store.slots files ↔ ∃ bytes, store.Keeps files place bytes := by
  simp only [slots, Keeps]
  cases located : files.locate? store.root with
  | none => simp
  | some folder =>
      have named (listed : place.extension? = some extension) : place ≠ [] := by
        rintro rfl
        cases listed
      simp only [List.mem_filter, Files.mem_below, beq_iff_eq, Option.some.injEq]
      constructor
      · rintro ⟨⟨-, bytes, member⟩, listed⟩
        exact ⟨bytes, folder, rfl, member, listed⟩
      · rintro ⟨bytes, _, rfl, member, listed⟩
        exact ⟨⟨named listed, bytes, member⟩, listed⟩

theorem pairwise_slots (sound : files.Sound) : (store.slots files).Pairwise (· < ·) := by
  rw [slots]
  split
  · exact .nil
  · exact (sound.pairwise_below _).filter _

theorem nodup_slots (sound : files.Sound) : (store.slots files).Nodup :=
  (pairwise_slots sound).imp fun below => by
    rintro rfl
    exact List.lt_irrefl _ below

theorem exists_keeps_replace (member : (place, old) ∈ files.files) (other : Place) :
    (∃ content, store.Keeps (files.put place bytes) other content) ↔
      ∃ content, store.Keeps files other content := by
  simp only [Keeps, Files.locate?_replace member]
  constructor
  · rintro ⟨content, folder, located, inside, listed⟩
    obtain ⟨known, inside⟩ := (Files.mem_files_replace member _).mp ⟨content, inside⟩
    exact ⟨known, folder, located, inside, listed⟩
  · rintro ⟨content, folder, located, inside, listed⟩
    obtain ⟨known, inside⟩ := (Files.mem_files_replace member _).mpr ⟨content, inside⟩
    exact ⟨known, folder, located, inside, listed⟩

/-- Other bytes in a file leave the list as it is. -/
theorem slots_replace (sound : files.Sound) (member : (place, old) ∈ files.files) :
    store.slots (files.put place bytes) = store.slots files := by
  have soundToo := sound.replace member bytes
  apply List.Perm.eq_of_pairwise _ (pairwise_slots soundToo) (pairwise_slots sound)
  · rw [List.perm_ext_iff_of_nodup (nodup_slots soundToo) (nodup_slots sound)]
    intro other
    rw [mem_slots, mem_slots, exists_keeps_replace member]
  · exact fun first second _ _ below above => absurd above (List.lt_asymm below)

/-! ## Loading what is listed -/

/-- A place that a path can spell. -/
def Spelled (place : Place) : Prop :=
  place ≠ [] ∧ ∀ name ∈ place, Place.Spellable name

theorem Keeps.spelled (sound : files.Sound) (keeps : store.Keeps files place bytes) :
    Spelled place := by
  obtain ⟨folder, -, member, listed⟩ := keeps
  refine ⟨?_, fun name inside => sound.names _ member name (List.mem_append_right _ inside)⟩
  rintro rfl
  cases listed

theorem Keeps.rooted (keeps : store.Keeps files place bytes) : store.root ≠ "" := by
  obtain ⟨folder, located, -⟩ := keeps
  exact Files.ne_empty_of_locate? located

theorem Spelled.steps_eq (spelled : Spelled place) :
    Path.steps ("/".intercalate place) = place :=
  Path.steps_intercalate spelled.1 fun name inside => (spelled.2 name inside).2.1

theorem Spelled.relative (spelled : Spelled place) :
    Path.isAbsolute ("/".intercalate place) = false := by
  apply Path.not_isAbsolute
  rw [spelled.steps_eq]
  exact fun name inside => (spelled.2 name inside).1

/-- The way of a listed file goes on from that of the root, which may end in a slash. -/
theorem exists_steps_pathOf (rooted : store.root ≠ "") :
    ∃ front, (Path.steps store.root = front ∨ Path.steps store.root = front ++ [""]) ∧
      ∀ place, Spelled place → Path.steps (store.pathOf place) = front ++ place := by
  obtain ⟨front, shape, joined⟩ := Path.exists_front rooted
  refine ⟨front, shape, fun place spelled => ?_⟩
  rw [pathOf, joined _ spelled.relative, spelled.steps_eq]

/-- The path that a file is listed under leads to it. -/
theorem Keeps.locate?_pathOf (sound : files.Sound) (keeps : store.Keeps files place bytes)
    (short : Path.isFollowed (store.pathOf place) = true) :
    files.locate? (store.pathOf place) = (files.locate? store.root).map (· ++ place) := by
  have spelled := keeps.spelled sound
  have rooted := keeps.rooted
  obtain ⟨folder, located, member, -⟩ := keeps
  obtain ⟨front, leads, joined⟩ := Files.exists_front_of_locate? located
  obtain ⟨steps, start⟩ := joined _ spelled.relative
  obtain ⟨rest, begins⟩ := Path.exists_join_eq_append rooted spelled.relative
  have named : store.pathOf place ≠ "" := by
    rw [pathOf, begins]
    exact fun empty => rooted (String.append_eq_empty_iff.mp empty).1
  have down : files.follow? folder place = some (folder ++ place) := sound.follow?_file member
  have way : files.follow? (files.start (store.pathOf place)) (Path.steps (store.pathOf place)) =
      some (folder ++ place) := by
    rw [pathOf, start, steps, Files.follow?_append, leads, Option.bind_some, spelled.steps_eq, down]
  rw [located, Option.map_some]
  simp [Files.locate?, named, short, way]

theorem isFollowed_of_read? {path : String} (readable : (files.read? path).isSome = true) :
    Path.isFollowed path = true := by
  obtain ⟨bytes, read⟩ := Option.isSome_iff_exists.mp readable
  obtain ⟨place, leads, -⟩ := Option.bind_eq_some_iff.mp read
  exact Files.isFollowed_of_locate? leads

/-- A profile file is loaded from the path it is listed under. -/
theorem load_pathOf (sound : files.Sound) (keeps : store.Keeps files place bytes)
    (short : Path.isFollowed (store.pathOf place) = true) :
    load (store.pathOf place) files = profileOf (store.pathOf place) bytes := by
  have leads := keeps.locate?_pathOf sound short
  obtain ⟨folder, located, member, -⟩ := keeps
  rw [load, Files.read?, leads, located, Option.map_some, Option.bind_some,
    sound.fileAt?_of_mem member]

/-- No two files are listed under one path. -/
theorem nodup_paths (sound : files.Sound) : ((store.slots files).map store.pathOf).Nodup := by
  refine List.Nodup.map_on ?_ (nodup_slots sound)
  intro left isLeft right isRight same
  obtain ⟨_, keepsLeft⟩ := mem_slots.mp isLeft
  obtain ⟨_, keepsRight⟩ := mem_slots.mp isRight
  obtain ⟨front, -, steps⟩ := exists_steps_pathOf keepsLeft.rooted
  have ways := congrArg Path.steps same
  rw [steps left (keepsLeft.spelled sound), steps right (keepsRight.spelled sound)] at ways
  exact List.append_cancel_left ways

end ProfileStore

end LibPrint
