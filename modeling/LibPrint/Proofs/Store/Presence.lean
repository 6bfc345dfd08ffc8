import LibPrint.Proofs.Store.Placing
import LibPrint.Proofs.Store.Recovery
import Mathlib.Algebra.Order.BigOperators.Group.List

/-!
# A stored profile is in the catalog

A profile that was stored at a place below the folder of the store is listed, and the catalog has
it, if the name of its file is more than an extension. For a library whose version ends in a slash
it is no more than that.
-/

namespace LibPrint

namespace Path

/-- The last step is a name, unless a slash ends the path. -/
theorem last_ne_empty {path last : String} {front : List String} (named : path ≠ "")
    (unfinished : path.toList.getLast? ≠ some '/') (parts : steps path = front ++ [last]) :
    last ≠ "" := by
  rintro rfl
  by_cases occurs : '/' ∈ path.toList
  · obtain ⟨before, after, cut, absent⟩ := Text.exists_last occurs
    have pieces : steps path = steps (String.ofList before) ++ steps (String.ofList after) := by
      apply Text.pieces_of_toList_eq
      rw [cut, String.toList_ofList, String.toList_ofList]
    have alone : steps (String.ofList after) = [String.ofList after] :=
      Text.pieces_of_absent (by rwa [String.toList_ofList])
    rw [pieces, alone] at parts
    have empty : String.ofList after = "" := List.singleton_inj.mp (List.append_inj' parts rfl).2
    obtain rfl : after = [] := by simpa using empty
    rw [cut, List.getLast?_concat] at unfinished
    exact unfinished rfl
  · have alone : steps path = [path] := Text.pieces_of_absent occurs
    rw [alone, ← List.nil_append [path]] at parts
    exact named (List.singleton_inj.mp (List.append_inj' parts rfl).2)

/-- A joined path ends as the part does that goes on. -/
theorem exists_steps_join (base part : String) :
    ∃ front, steps (join base part) = front ++ steps part := by
  by_cases whole : isAbsolute part = true ∨ base = ""
  · have same : join base part = part := by
      rcases whole with absolute | empty
      · simp [join, absolute]
      · simp [join, empty]
    exact ⟨[], by rw [same, List.nil_append]⟩
  · rw [not_or, Bool.not_eq_true] at whole
    obtain ⟨front, -, joined⟩ := exists_front whole.2
    exact ⟨front, joined part whole.1⟩

theorem utf8ByteSize_intercalate (names : List String) :
    ("/".intercalate names).utf8ByteSize = (names.map fun name => name.utf8ByteSize + 1).sum - 1 := by
  induction names with
  | nil => rfl
  | cons name names ih =>
      cases names with
      | nil => simp
      | cons next names =>
          have slash : "/".utf8ByteSize = 1 := rfl
          rw [String.intercalate_cons_cons, String.utf8ByteSize_append, String.utf8ByteSize_append,
            ih, slash]
          simp only [List.map_cons, List.sum_cons]
          omega

/-- A path of some of the steps is not longer. -/
theorem utf8ByteSize_le_of_sublist {names : List String} {path : String}
    (passed : names.Sublist (steps path)) :
    ("/".intercalate names).utf8ByteSize ≤ path.utf8ByteSize := by
  have sums := (passed.map fun name => name.utf8ByteSize + 1).sum_le_sum fun _ _ => Nat.zero_le _
  rw [← intercalate_steps path, utf8ByteSize_intercalate, utf8ByteSize_intercalate]
  exact Nat.sub_le_sub_right sums 1

end Path

namespace Description

theorem fileStem_ne_empty (description : Description) : description.fileStem ≠ "" := by
  intro empty
  have letters := congrArg String.toList empty
  simp [fileStem] at letters

theorem relative_relativePath (description : Description) :
    Path.isAbsolute description.relativePath = false := by
  have named : description.category.name ≠ "" := by
    cases description.category <;> decide
  rw [relativePath, String.append_assoc, Path.isAbsolute_append named]
  cases description.category <;> decide

end Description

namespace ProfileStore

variable {store : ProfileStore} {files : Files} {folder place : Place} {bytes : List UInt8}
  {profile : LibProfile} {description : Description}

/-- The path that a file is listed under is not longer than one that leads to it from the folder of
the store. -/
theorem isFollowed_pathOf {part : String} (located : files.locate? store.root = some folder)
    (spelled : Spelled place) (relative : Path.isAbsolute part = false)
    (leads : files.locate? (Path.join store.root part) = some (folder ++ place)) :
    Path.isFollowed (store.pathOf place) = true := by
  have short := Files.isFollowed_of_locate? leads
  have rooted := Files.ne_empty_of_locate? located
  obtain ⟨front, reached, joined⟩ := Files.exists_front_of_locate? located
  obtain ⟨steps, start⟩ := joined part relative
  have way : files.follow? folder (Path.steps part) = some (folder ++ place) := by
    rw [Files.locate?] at leads
    split at leads
    · cases leads
    · rwa [start, steps, Files.follow?_append, reached, Option.bind_some] at leads
  have smaller := Path.utf8ByteSize_le_of_sublist (Files.sublist_of_follow? way)
  obtain ⟨text, -, whole⟩ := Path.exists_join_eq rooted
  rw [Path.isFollowed, decide_eq_true_iff] at short ⊢
  rw [whole part relative, String.utf8ByteSize_append] at short
  rw [pathOf, whole _ spelled.relative, String.utf8ByteSize_append]
  omega

/-- What is stored at a path below that of the store can be loaded from the path it is listed under.
-/
theorem isFollowed_pathOf_of_pathFor (located : files.locate? store.root = some folder)
    (spelled : Spelled place) (relative : Path.isAbsolute description.fileStem = false)
    (lies : files.locate? (store.pathFor description) = some (folder ++ place)) :
    Path.isFollowed (store.pathOf place) = true := by
  have file : Path.isAbsolute (description.fileStem ++ "." ++ extension) = false := by
    rw [String.append_assoc, Path.isAbsolute_append description.fileStem_ne_empty, relative]
  rw [pathFor_eq_join (Files.ne_empty_of_locate? located) file] at lies
  exact isFollowed_pathOf located spelled description.relative_relativePath lies

/-- There is no file in place of a folder that something lies in. -/
theorem isFile_root_of_mem (sound : files.Sound) (located : files.locate? store.root = some folder)
    (member : (folder ++ place, bytes) ∈ files.files) (inside : place ≠ []) :
    files.isFile store.root = false := by
  have above : files.hasFolder folder = true :=
    Files.hasFolder_of_file member (List.prefix_append _ _) (by simpa using inside)
  rw [Files.isFile, Files.read?, located, Option.bind_some, sound.fileAt?_of_hasFolder above]
  rfl

/-- A profile is written to a file with the extension of profile files, if there is a name before
it. -/
theorem extension?_of_target? (target : files.target? (store.pathFor description) =
      some (folder ++ place))
    (inside : place ≠ []) (unfinished : description.fileStem.toList.getLast? ≠ some '/') :
    place.extension? = some extension := by
  obtain ⟨way, parent, name, targets, lies⟩ := Files.exists_targets_of_target? target
  obtain ⟨front, last, parts, whole⟩ := description.exists_steps_fileStem
  obtain ⟨before, joined⟩ := Path.exists_steps_join
    (Path.join store.root description.category.name) (description.fileStem ++ "." ++ extension)
  have steps : way ++ [name] = (before ++ front) ++ [last ++ ".libv"] := by
    rw [← targets.steps, pathFor, joined, whole, List.append_assoc]
  obtain rfl : name = last ++ ".libv" := List.singleton_inj.mp (List.append_inj' steps rfl).2
  obtain ⟨upper, own, rfl⟩ := (List.eq_nil_or_concat' place).resolve_left inside
  rw [← List.append_assoc] at lies
  obtain rfl : own = last ++ ".libv" := List.singleton_inj.mp (List.append_inj' lies rfl).2
  exact Place.extension?_concat upper
    (Path.last_ne_empty description.fileStem_ne_empty unfinished parts)

/-- What is stored in a sound file system leaves it sound. -/
theorem sound_of_written? {before after : Files} (sound : before.Sound)
    (stored : store.written? profile before = some after) : after.Sound := by
  obtain ⟨prepared, made, written⟩ := Option.bind_eq_some_iff.mp stored
  exact (sound.makeParents? made).write? written

/-- A stored profile is loaded from its path. -/
theorem load_of_written? {before after : Files} (fits : profile.Fits) (solid : ¬ Hollow profile)
    (stored : store.written? profile before = some after) :
    load (store.pathFor profile.description) after = .ok profile := by
  rw [load, read?_of_written? stored]
  exact profileOf_own fits solid _

/-- Storing a profile changes the file that its path leads to, and no other. -/
theorem locate?_of_written? {before after : Files} (stored : store.written? profile before = some after)
    (changed : after.fileAt? place ≠ before.fileAt? place) :
    after.locate? (store.pathFor profile.description) = some place := by
  obtain ⟨prepared, made, written⟩ := Option.bind_eq_some_iff.mp stored
  have same : prepared.fileAt? place = before.fileAt? place := by
    rw [Files.fileAt?, Files.fileAt?, (Files.extends_makeParents? made).files]
  rw [← same] at changed
  exact Files.locate?_of_write? written changed

/-- The catalog of the store has the profile: it is one of those that are listed, and these are what
is loaded, whatever the sort. -/
def Catalogues (store : ProfileStore) (files : Files) (profile : LibProfile) : Prop :=
  ∃ paths, store.list files = .ok paths ∧ profile ∈ loadable paths files ∧
    ∀ sorting, LoadedCatalog.IsLoadOf (loadable paths files) (paths.filterMap (skipped? · files))
      (store.loadCatalog sorting files)

/-- A profile that was stored below the folder of the store is in its catalog. -/
theorem catalogues_of_written? {before after : Files} (sound : before.Sound)
    (fits : profile.Fits) (solid : ¬ Hollow profile)
    (stored : store.written? profile before = some after)
    (root : after.locate? store.root = some folder)
    (lies : after.locate? (store.pathFor profile.description) = some (folder ++ place))
    (inside : place ≠ [])
    (unfinished : profile.description.fileStem.toList.getLast? ≠ some '/')
    (short : Path.isAbsolute profile.description.fileStem = true →
      Path.isFollowed (store.pathOf place) = true) :
    store.Catalogues after profile := by
  have soundToo := sound_of_written? sound stored
  have read := read?_of_written? stored
  rw [Files.read?, lies, Option.bind_some] at read
  have member := Files.mem_of_fileAt? read
  have keeps : store.Keeps after place profile.toBytes := by
    refine ⟨folder, root, member, ?_⟩
    obtain ⟨prepared, -, written⟩ := Option.bind_eq_some_iff.mp stored
    obtain ⟨target, isTarget, rfl⟩ := Option.map_eq_some_iff.mp written
    have leads := Files.locate?_put isTarget profile.toBytes
    obtain rfl : folder ++ place = target := Option.some.inj (lies.symm.trans leads)
    exact extension?_of_target? isTarget inside unfinished
  have followed : Path.isFollowed (store.pathOf place) = true := by
    cases absolute : Path.isAbsolute profile.description.fileStem with
    | true => exact short absolute
    | false => exact isFollowed_pathOf_of_pathFor root (keeps.spelled soundToo) absolute lies
  have noFile := isFile_root_of_mem soundToo root member inside
  have listed := list_of_not_isFile noFile
  refine ⟨_, listed, ?_, fun sorting => ?_⟩
  · refine List.mem_filterMap.mpr ⟨_, List.mem_map_of_mem (mem_slots.mpr ⟨_, keeps⟩), ?_⟩
    rw [load_pathOf soundToo keeps followed, profileOf_own fits solid]
    rfl
  · rw [loadCatalog_eq sorting listed]
    exact LoadedCatalog.isLoadOf_ofProfiles ..

end ProfileStore

end LibPrint
