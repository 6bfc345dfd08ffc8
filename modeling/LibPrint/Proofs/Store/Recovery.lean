import LibPrint.Proofs.Library.Catalog
import LibPrint.Proofs.Store.Listing
import LibPrint.Proofs.Store.RoundTrip
import LibPrint.Store
import Mathlib.Data.List.Perm.Subperm

/-!
# Loading what can be loaded

Whatever the profile files of a store hold, each of them gives one profile or one reason why it
gives none, and which of the two, and what, is a matter of its own bytes alone: other bytes in one
file change nothing of what the others give. The catalog has all these profiles. Only sorting them
can break down, and it does not as long as they are few or their order is transitive.
-/

namespace LibPrint

/-! ## Sorting what was loaded -/

namespace LoadedCatalog

/-- The result is that of loading these profiles and skipping these files. What is loaded is all of
them, whatever their order. The load comes to an end if the profiles can be sorted, and it breaks
down in no other way than by sorting them. -/
structure IsLoadOf (profiles : List LibProfile) (skipped : List Skipped)
    (result : Except Error LoadedCatalog) : Prop where
  gathers : ∀ loaded, result = .ok loaded →
    loaded.catalog.profiles.Perm profiles ∧ loaded.skipped = skipped
  ends : Catalog.Sortable profiles → ∃ loaded, result = .ok loaded
  breaks : ∀ cause, result = .error cause → cause = .brokenDown .sorting

theorem isLoadOf_ofProfiles (sorting : Catalog.Sorting) (profiles : List LibProfile)
    (skipped : List Skipped) :
    IsLoadOf profiles skipped (ofProfiles sorting profiles skipped) := by
  cases sorted : Catalog.ofProfiles sorting profiles with
  | none =>
      have breaks : ofProfiles sorting profiles skipped = .error (.brokenDown .sorting) := by
        rw [ofProfiles, sorted]
      rw [breaks]
      refine ⟨nofun, fun sortable => ?_, fun cause fails => (Except.error.inj fails).symm⟩
      rw [Catalog.ofProfiles_of_sortable sorting sortable] at sorted
      cases sorted
  | some catalog =>
      have loads : ofProfiles sorting profiles skipped = .ok ⟨catalog, skipped⟩ := by
        rw [ofProfiles, sorted]
      rw [loads]
      refine ⟨fun loaded same => ?_, fun _ => ⟨_, rfl⟩, nofun⟩
      rw [← Except.ok.inj same]
      exact ⟨Catalog.ofProfiles_perm sorted, rfl⟩

theorem IsLoadOf.of_perm {profiles others : List LibProfile} {skipped : List Skipped}
    {result : Except Error LoadedCatalog} (load : IsLoadOf profiles skipped result)
    (perm : profiles.Perm others) : IsLoadOf others skipped result := by
  refine ⟨fun loaded same => ?_, fun sortable => load.ends (sortable.of_perm perm.symm),
    load.breaks⟩
  exact ⟨(load.gathers loaded same).1.trans perm, (load.gathers loaded same).2⟩

end LoadedCatalog

namespace ProfileStore

variable {store : ProfileStore} {sorting : Catalog.Sorting} {files : Files}
  {place changed : Place} {bytes old : List UInt8} {paths : List String}

variable (sorting) in
theorem loadCatalog_eq (listed : store.list files = .ok paths) :
    store.loadCatalog sorting files = LoadedCatalog.ofProfiles sorting (loadable paths files)
      (paths.filterMap (skipped? · files)) := by
  rw [loadCatalog, listed]
  rfl

/-- Where every path that is listed has its profile, the catalog is made of these and nothing is
skipped. -/
theorem loadCatalog_of_list {profiles : List LibProfile} {pathOf : LibProfile → String}
    (listed : store.list files = .ok (profiles.map pathOf))
    (loads : ∀ profile ∈ profiles, load (pathOf profile) files = .ok profile) :
    store.loadCatalog sorting files = LoadedCatalog.ofProfiles sorting profiles [] := by
  have all : loadable (profiles.map pathOf) files = profiles := by
    rw [loadable, List.filterMap_map]
    calc
      profiles.filterMap _ = profiles.filterMap some :=
        List.filterMap_congr fun profile member => by
          rw [Function.comp_apply, loads profile member]
          rfl
      _ = profiles := List.filterMap_some
  have none : (profiles.map pathOf).filterMap (skipped? · files) = [] := by
    rw [List.filterMap_map, List.filterMap_eq_nil_iff]
    intro profile member
    rw [Function.comp_apply, skipped?, loads profile member]
  rw [loadCatalog_eq sorting listed, all, none]

/-! ## What every file gives -/

/-- The profiles in the files at the given places, one for each file that can be loaded. -/
def profilesAt (store : ProfileStore) (files : Files) (places : List Place) : List LibProfile :=
  places.filterMap fun place => (load (store.pathOf place) files).toOption

/-- What becomes of a file that is loaded from a path, if it is skipped. -/
def reason? (path : String) (result : Except StorageError LibProfile) : Option Skipped :=
  match result with
  | .ok _ => none
  | .error cause => some ⟨path, cause⟩

/-- The files at the given places that cannot be loaded, each with the reason why not, in the order
of the places. -/
def reasonsAt (store : ProfileStore) (files : Files) (places : List Place) : List Skipped :=
  places.filterMap fun place => reason? (store.pathOf place) (load (store.pathOf place) files)

/-- A catalog is loaded from what is listed unless there is a file in place of the store's folder.
-/
theorem isLoadOf_loadCatalog (noFile : files.isFile store.root = false) :
    LoadedCatalog.IsLoadOf (store.profilesAt files (store.slots files))
      (store.reasonsAt files (store.slots files)) (store.loadCatalog sorting files) := by
  rw [loadCatalog_eq sorting (list_of_not_isFile noFile), loadable, List.filterMap_map,
    List.filterMap_map]
  exact LoadedCatalog.isLoadOf_ofProfiles ..

/-- Other bytes in a file leave those alone whose paths lead elsewhere. -/
theorem load_put_elsewhere (member : (changed, old) ∈ files.files) {path : String}
    (elsewhere : files.locate? path ≠ some changed) (replacement : List UInt8) :
    load path (files.put changed replacement) = load path files := by
  have read : (files.put changed replacement).read? path = files.read? path := by
    rw [Files.read?, Files.read?, Files.locate?_replace member]
    cases located : files.locate? path with
    | none => rfl
    | some reached =>
        rw [Option.bind_some, Option.bind_some]
        apply Files.fileAt?_put_of_ne
        exact fun same => elsewhere (located.trans (congrArg some same))
  rw [load, load, read]

/-- Other bytes in a file make no file where there was none. -/
theorem isFile_replace (member : (changed, old) ∈ files.files) (path : String)
    (replacement : List UInt8) :
    (files.put changed replacement).isFile path = files.isFile path := by
  rw [Files.isFile, Files.isFile, Files.read?, Files.read?, Files.locate?_replace member]
  cases located : files.locate? path with
  | none => rfl
  | some reached =>
      rw [Option.bind_some, Option.bind_some]
      by_cases same : reached = changed
      · have known : (files.fileAt? changed).isSome = true := by
          rw [Files.fileAt?, List.lookup_isSome_iff]
          exact ⟨_, member, beq_self_eq_true _⟩
        rw [same, Files.fileAt?_put, known]
        rfl
      · rw [Files.fileAt?_put_of_ne files same]

/-- A file that holds other bytes is loaded from these. -/
theorem load_put (member : (changed, old) ∈ files.files) {path : String}
    (leads : files.locate? path = some changed) (replacement : List UInt8) :
    load path (files.put changed replacement) = profileOf path replacement := by
  have read : (files.put changed replacement).read? path = some replacement := by
    rw [Files.read?, Files.locate?_replace member, leads, Option.bind_some, Files.fileAt?_put]
  rw [load, read]

/-- The catalog of a store is loaded whatever its files hold, if they can be read and their profiles
can be sorted. There is a list of the places of its profile files, each once, in order and under a
path of its own; a file of it gives what its bytes say, the catalog has the profiles that the files
of the list give, and the others are skipped, in this order, each with its path and the reason. When
the bytes of any one file are replaced, the same holds for the same list, and what a file at another
place gives is what it gave before. -/
theorem loadCatalog_recovers (sound : files.Sound) (noFile : files.isFile store.root = false)
    (readable : ∀ place bytes, store.Keeps files place bytes →
      (files.read? (store.pathOf place)).isSome = true) :
    ∃ places : List Place,
      places.Pairwise (· < ·) ∧
      (∀ place, place ∈ places ↔ ∃ bytes, store.Keeps files place bytes) ∧
      (places.map store.pathOf).Nodup ∧
      (∀ place bytes, store.Keeps files place bytes →
        load (store.pathOf place) files = profileOf (store.pathOf place) bytes) ∧
      (∀ sorting, LoadedCatalog.IsLoadOf (store.profilesAt files places)
        (store.reasonsAt files places) (store.loadCatalog sorting files)) ∧
      ∀ changed old replacement, (changed, old) ∈ files.files →
        (∀ sorting, LoadedCatalog.IsLoadOf
          (store.profilesAt (files.put changed replacement) places)
          (store.reasonsAt (files.put changed replacement) places)
          (store.loadCatalog sorting (files.put changed replacement))) ∧
        ∀ place bytes, store.Keeps files place bytes →
          load (store.pathOf place) (files.put changed replacement) =
            if (files.locate? store.root).map (· ++ place) = some changed then
              profileOf (store.pathOf place) replacement
            else load (store.pathOf place) files := by
  refine ⟨store.slots files, pairwise_slots sound, fun _ => mem_slots, nodup_paths sound, ?_,
    fun _ => isLoadOf_loadCatalog noFile, ?_⟩
  · intro place bytes keeps
    exact load_pathOf sound keeps (isFollowed_of_read? (readable place bytes keeps))
  · intro changed old replacement member
    have noFileToo : (files.put changed replacement).isFile store.root = false := by
      rw [isFile_replace member, noFile]
    refine ⟨fun sorting => ?_, fun place bytes keeps => ?_⟩
    · rw [← slots_replace sound member]
      exact isLoadOf_loadCatalog noFileToo
    · rw [← keeps.locate?_pathOf sound (isFollowed_of_read? (readable place bytes keeps))]
      split
      · next leads => exact load_put member leads replacement
      · next elsewhere => exact load_put_elsewhere member elsewhere replacement

/-- A profile is loaded although a file beside it breaks off. -/
theorem loadCatalog_recovers_mixed :
    let tree : HashTree := ⟨.standard, .mk ⟨[7]⟩ .root [.mk ⟨[1]⟩ (.package (some "a")) []],
      ⟨1, 0, 0⟩⟩
    let profile : LibProfile :=
      ⟨⟨"okhttp", .utilities, some "3", none, none⟩, ⟨.mk "Root" 0 []⟩, [tree]⟩
    let store : ProfileStore := ⟨"profiles"⟩
    let files : Files := ⟨["home"],
      [(["home", "profiles", "Utilities", "okhttp_3.libv"], profile.toBytes),
        (["home", "profiles", "old", "broken.libv"], [1, 0]),
        (["home", "profiles", "notes.txt"], [104])], []⟩
    files.Sound ∧ files.isFile store.root = false ∧
      (∀ place bytes, store.Keeps files place bytes →
        (files.read? (store.pathOf place)).isSome = true) ∧
      ∃ loaded, store.loadCatalog .checked files = .ok loaded ∧ profile ∈ loaded.catalog.profiles ∧
        ⟨"profiles/old/broken.libv", .undecodable "profiles/old/broken.libv"⟩ ∈ loaded.skipped := by
  intro tree profile store files
  have sound : files.Sound := by decide +kernel
  have noFile : files.isFile store.root = false := by decide +kernel
  have root : files.locate? store.root = some ["home", "profiles"] := by decide +kernel
  have whole : store.Keeps files ["Utilities", "okhttp_3.libv"] profile.toBytes :=
    ⟨_, root, List.mem_cons_self, by decide +kernel⟩
  have broken : store.Keeps files ["old", "broken.libv"] [1, 0] :=
    ⟨_, root, List.mem_cons_of_mem _ List.mem_cons_self, by decide +kernel⟩
  have kept : ∀ place, (∃ bytes, store.Keeps files place bytes) →
      place ∈ [["Utilities", "okhttp_3.libv"], ["old", "broken.libv"]] := by
    rintro place ⟨bytes, folder, located, member, named⟩
    obtain rfl : ["home", "profiles"] = folder := Option.some.inj (root.symm.trans located)
    simp only [files, List.cons_append, List.nil_append, List.mem_cons, List.not_mem_nil, or_false,
      Prod.mk.injEq, List.cons.injEq, true_and] at member
    rcases member with ⟨rfl, -⟩ | ⟨rfl, -⟩ | ⟨rfl, -⟩
    · exact List.mem_cons_self
    · exact List.mem_cons_of_mem _ List.mem_cons_self
    · exact absurd named (by decide +kernel)
  have readable : ∀ place bytes, store.Keeps files place bytes →
      (files.read? (store.pathOf place)).isSome = true := by
    intro place bytes keeps
    rcases List.mem_pair.mp (kept place ⟨bytes, keeps⟩) with rfl | rfl <;> decide +kernel
  have fits : profile.Fits := ⟨by decide +kernel, by decide +kernel, by decide +kernel⟩
  have solid : ¬ Hollow profile := by
    rw [← accepts_eq_false_iff]
    decide +kernel
  obtain ⟨places, -, complete, distinct, loads, isLoad, -⟩ :=
    loadCatalog_recovers sound noFile readable
  have few : (store.profilesAt files places).length ≤ 20 := by
    have inside : places ⊆ [["Utilities", "okhttp_3.libv"], ["old", "broken.libv"]] :=
      fun place member => kept place ((complete place).mp member)
    have two := (List.subperm_of_subset (List.Nodup.of_map _ distinct) inside).length_le
    exact (List.length_filterMap_le _ _).trans (two.trans (by decide))
  obtain ⟨loaded, catalog⟩ := (isLoad .checked).ends (.inl few)
  obtain ⟨gathered, skipped⟩ := (isLoad .checked).gathers loaded catalog
  refine ⟨sound, noFile, readable, loaded, catalog, ?_, ?_⟩
  · refine gathered.symm.subset (List.mem_filterMap.mpr ⟨_, (complete _).mpr ⟨_, whole⟩, ?_⟩)
    rw [loads _ _ whole, profileOf_own fits solid]
    rfl
  · rw [skipped]
    refine List.mem_filterMap.mpr ⟨_, (complete _).mpr ⟨_, broken⟩, ?_⟩
    rw [loads _ _ broken]
    decide +kernel

/-- All versions of a library that has 26 of them can be read, and its catalog cannot be loaded. The
versions that are letters tie with those that are numbers, so these are not put in order. -/
theorem loadCatalog_of_letters :
    let tree : HashTree := ⟨.standard, .mk ⟨[7]⟩ .root [.mk ⟨[1]⟩ (.package (some "a")) []],
      ⟨1, 0, 0⟩⟩
    let profile (category : Category) (version : String) : LibProfile :=
      ⟨⟨"okhttp", category, some version, none, none⟩, ⟨.mk "Root" 0 []⟩, [tree]⟩
    let profiles : List LibProfile := [profile .advertising "3"] ++
      ["2", "a", "b", "c", "d", "e", "f", "g", "h", "i", "j"].map (profile .analytics) ++
      ["9", "k", "l", "m", "n", "o", "p", "q", "r", "s", "t", "u", "v"].map (profile .android) ++
      [profile .cloud "1"]
    let store : ProfileStore := ⟨"profiles"⟩
    let files : Files := ⟨["home"], profiles.map fun profile =>
      (["home", "profiles", profile.description.category.name,
        profile.description.fileStem ++ ".libv"], profile.toBytes), []⟩
    files.Sound ∧ files.isFile store.root = false ∧
      store.list files = .ok (profiles.map fun profile => store.pathFor profile.description) ∧
      (∀ profile ∈ profiles, load (store.pathFor profile.description) files = .ok profile) ∧
      store.loadCatalog .checked files = .error (.brokenDown .sorting) := by
  intro tree profile profiles store files
  have sound : files.Sound := by decide +kernel
  have noFile : files.isFile store.root = false := by decide +kernel
  have root : files.locate? store.root = some ["home", "profiles"] := by decide +kernel
  let placeOf (profile : LibProfile) : Place :=
    [profile.description.category.name, profile.description.fileStem ++ ".libv"]
  have found : (files.files.filterMap fun file =>
      if ["home", "profiles"].isPrefixOf file.1 then
        some (file.1.drop ["home", "profiles"].length) else none).filter (!·.isEmpty) =
      profiles.map placeOf := by
    decide +kernel
  have ordered : (profiles.map placeOf).Pairwise fun left right => Place.le left right = true := by
    decide +kernel
  have named : ∀ profile ∈ profiles, (placeOf profile).extension? = some extension ∧
      store.pathOf (placeOf profile) = store.pathFor profile.description ∧
      Path.isFollowed (store.pathFor profile.description) = true := by
    decide +kernel
  have whole : ∀ profile ∈ profiles, profile.Fits ∧ accepts profile = true := by decide +kernel
  have unsorted : Catalog.ofProfiles .checked profiles = none := by decide +kernel
  have listed : store.list files =
      .ok (profiles.map fun profile => store.pathFor profile.description) := by
    have slots : store.slots files = profiles.map placeOf := by
      simp only [ProfileStore.slots, root, Files.below, found, List.mergeSort_of_pairwise ordered]
      rw [List.filter_eq_self]
      intro place member
      obtain ⟨profile, isProfile, rfl⟩ := List.mem_map.mp member
      rw [beq_iff_eq, (named profile isProfile).1]
    rw [list_of_not_isFile noFile, slots, List.map_map]
    apply congrArg Except.ok
    exact List.map_congr_left fun profile member => (named profile member).2.1
  have loads : ∀ profile ∈ profiles, load (store.pathFor profile.description) files = .ok profile := by
    intro profile member
    obtain ⟨isNamed, path, followed⟩ := named profile member
    obtain ⟨fits, accepted⟩ := whole profile member
    have keeps : store.Keeps files (placeOf profile) profile.toBytes :=
      ⟨_, root, List.mem_map_of_mem member, isNamed⟩
    rw [← path, load_pathOf sound keeps (path ▸ followed)]
    refine profileOf_own fits ?_ _
    rw [← accepts_eq_false_iff, accepted]
    decide
  refine ⟨sound, noFile, listed, loads, ?_⟩
  rw [loadCatalog_of_list listed loads, LoadedCatalog.ofProfiles, unsorted]

end LibPrint.ProfileStore
