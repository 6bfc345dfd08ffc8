import LibPrint.Proofs.Library.Catalog
import LibPrint.Proofs.Sorting
import LibPrint.Proofs.Store.Placing
import LibPrint.Proofs.Store.Recovery
import LibPrint.Store

/-!
# What a store holds after saving

Profiles that are saved one after the other are all there afterwards, except those whose file was
taken by a later one. The files below the folder of the store are known after every step, and a
catalog that is loaded in the end has what they hold and skips nothing.

A file is named by joining the name and the version of a library with an underscore, which either
may have in it, so two libraries can have the same file. No more is lost than that.
-/

namespace LibPrint

namespace ProfileStore

/-! ## Saving one after the other -/

/-- All the profiles are saved, in their order. -/
inductive Saves (store : ProfileStore) : List LibProfile → Files → Files → Prop where
  | none {files : Files} : Saves store [] files files
  | more {profile : LibProfile} {profiles : List LibProfile} {path : String}
      {before between after : Files}
      (saved : store.save profile before = .ok (path, between))
      (rest : Saves store profiles between after) :
      Saves store (profile :: profiles) before after

/-- Both profiles are stored in one file. -/
def SameFile (left right : LibProfile) : Prop :=
  left.description.category = right.description.category ∧
    left.description.fileStem = right.description.fileStem

instance (left right : LibProfile) : Decidable (SameFile left right) :=
  inferInstanceAs (Decidable (_ ∧ _))

theorem SameFile.symm {left right : LibProfile} (same : SameFile left right) :
    SameFile right left :=
  ⟨same.1.symm, same.2.symm⟩

/-- The profiles with one more, which takes the place of one in the same file. -/
def taken (held : List LibProfile) (profile : LibProfile) : List LibProfile :=
  profile :: held.filter fun other => ¬ SameFile other profile

/-- The profiles that are left of those saved one after the other. -/
def left (profiles : List LibProfile) : List LibProfile :=
  profiles.foldl taken []

/-- Whatever takes a place has its file alone. -/
theorem pairwise_taken {held : List LibProfile} {profile : LibProfile}
    (apart : held.Pairwise fun left right => ¬ SameFile left right) :
    (taken held profile).Pairwise fun left right => ¬ SameFile left right := by
  refine List.pairwise_cons.mpr ⟨?_, apart.filter _⟩
  intro other kept same
  exact of_decide_eq_true (List.mem_filter.mp kept).2 same.symm

/-- Nothing lies at or below the folder of the store, wherever its path leads once there is a way.
-/
def Vacant (store : ProfileStore) (files : Files) : Prop :=
  ∀ (later : Files) (folder : Place), later.current = files.current →
    later.locate? store.root = some folder →
      ∀ file ∈ files.files, folder.isPrefixOf file.1 = false

/-- The file of a stored profile. -/
def entry (folder : Place) (profile : LibProfile) : Place × List UInt8 :=
  (folder ++ profile.description.slot, profile.toBytes)

/-- The store holds the profiles and nothing else: their files, each found by its path, are the only
ones below its folder. -/
structure Holds (store : ProfileStore) (start : Files) (folder : Place)
    (held : List LibProfile) (files : Files) : Prop where
  current : files.current = start.current
  root : held ≠ [] → files.locate? store.root = some folder
  paths : ∀ profile ∈ held, files.locate? (store.pathFor profile.description) =
    some (folder ++ profile.description.slot)
  entries : files.files = held.map (entry folder) ++ start.files
  apart : held.Pairwise fun left right => ¬ SameFile left right

section Run

variable {store : ProfileStore} {start : Files} {folder : Place} {held : List LibProfile}
  {profile : LibProfile} {before after : Files}

theorem sameFile_iff (folder : Place) {left right : LibProfile} :
    SameFile left right ↔
      folder ++ left.description.slot = folder ++ right.description.slot := by
  rw [List.append_cancel_left_eq, Description.slot_inj]
  rfl

theorem holds_nil (store : ProfileStore) (start : Files) (folder : Place) :
    Holds store start folder [] start :=
  ⟨rfl, fun none => absurd rfl none, List.forall_mem_nil _, rfl, .nil⟩

/-- One more profile is saved. -/
theorem Holds.more (holds : Holds store start folder held before)
    (vacant : ∀ file ∈ start.files, folder.isPrefixOf file.1 = false)
    (placed : Placed store profile folder before after) :
    Holds store start folder (taken held profile) after := by
  have spared : start.files.filter (·.1 != folder ++ profile.description.slot) = start.files := by
    rw [List.filter_eq_self]
    intro file member
    rw [bne_iff_ne]
    intro same
    have inside : folder.isPrefixOf file.1 = true := by
      rw [same, List.isPrefixOf_iff_prefix]
      exact List.prefix_append _ _
    rw [vacant file member] at inside
    cases inside
  have kept : (held.map (entry folder)).filter (·.1 != folder ++ profile.description.slot) =
      (held.filter fun other => ¬ SameFile other profile).map (entry folder) := by
    rw [List.filter_map]
    congr 1
    apply List.filter_congr
    intro other _
    rw [Function.comp_apply, entry, Bool.eq_iff_iff, bne_iff_ne, decide_eq_true_iff]
    exact (sameFile_iff folder).not.symm
  have first : entry folder profile = (folder ++ profile.description.slot, profile.toBytes) := rfl
  refine ⟨placed.current.trans holds.current, fun _ => placed.root, ?_, ?_, ?_⟩
  · intro other member
    rcases List.mem_cons.mp member with rfl | earlier
    · exact placed.path
    · have path := holds.paths other (List.mem_of_mem_filter earlier)
      exact Files.locate?_of_hasFolder placed.current placed.folders path
  · rw [placed.files, holds.entries, List.filter_append, spared, kept, taken, List.map_cons, first,
      List.cons_append]
  · exact pairwise_taken holds.apart

/-- All of them are saved, below the folder that the first was saved in. -/
theorem Holds.all {profiles : List LibProfile} (holds : Holds store start folder held before)
    (rooted : store.root ≠ "")
    (shelved : ∀ profile ∈ profiles, profile.description.Shelved)
    (vacant : ∀ file ∈ start.files, folder.isPrefixOf file.1 = false)
    (saves : Saves store profiles before after) (occupied : held ≠ []) :
    Holds store start folder (profiles.foldl taken held) after ∧
      after.locate? store.root = some folder := by
  induction saves generalizing held with
  | none => exact ⟨holds, holds.root occupied⟩
  | more saved rest ih =>
      obtain ⟨isShelved, shelved⟩ := List.forall_mem_cons.mp shelved
      obtain ⟨-, -, stored⟩ := save_eq_ok_iff.mp saved
      obtain ⟨other, placed⟩ := exists_placed rooted isShelved stored
      obtain rfl : folder = other :=
        Files.locate?_unique placed.current.symm (holds.root occupied) placed.root
      exact ih (holds.more vacant placed) shelved (List.cons_ne_nil _ _)

/-- A store that was vacant holds what is left of the profiles that were saved in it. -/
theorem exists_holds_of_saves {profiles : List LibProfile} (rooted : store.root ≠ "")
    (vacant : store.Vacant start) (shelved : ∀ profile ∈ profiles, profile.description.Shelved)
    (saves : Saves store profiles start after) (occupied : profiles ≠ []) :
    ∃ folder, (∀ file ∈ start.files, folder.isPrefixOf file.1 = false) ∧
      Holds store start folder (left profiles) after ∧ after.locate? store.root = some folder := by
  cases saves with
  | none => exact absurd rfl occupied
  | more saved rest =>
      obtain ⟨isShelved, shelved⟩ := List.forall_mem_cons.mp shelved
      obtain ⟨-, -, stored⟩ := save_eq_ok_iff.mp saved
      obtain ⟨folder, placed⟩ := exists_placed rooted isShelved stored
      have away := vacant _ folder placed.current placed.root
      have holds := (holds_nil store start folder).more away placed
      exact ⟨folder, away, holds.all rooted shelved away rest (List.cons_ne_nil _ _)⟩

/-! ## Loading what is held -/

theorem isPrefixOf_slot (folder : Place) (profile : LibProfile) :
    folder.isPrefixOf (entry folder profile).1 = true :=
  List.isPrefixOf_iff_prefix.mpr (List.prefix_append _ _)

/-- The files below the folder are those of the profiles. -/
theorem Holds.exists_below_eq (holds : Holds store start folder held after)
    (vacant : ∀ file ∈ start.files, folder.isPrefixOf file.1 = false) :
    ∃ arranged : List LibProfile, arranged.Perm held ∧
      after.below folder = arranged.map fun profile => profile.description.slot := by
  have inside : (held.map (entry folder)).filterMap (fun file =>
      if folder.isPrefixOf file.1 then some (file.1.drop folder.length) else none) =
        held.map fun profile => profile.description.slot := by
    rw [List.filterMap_map, ← List.filterMap_eq_map]
    apply List.filterMap_congr
    intro profile _
    rw [Function.comp_apply, if_pos (isPrefixOf_slot folder profile)]
    exact congrArg some List.drop_left
  have outside : start.files.filterMap (fun file =>
      if folder.isPrefixOf file.1 then some (file.1.drop folder.length) else none) = [] := by
    rw [List.filterMap_eq_nil_iff]
    intro file member
    rw [vacant file member]
    rfl
  have named : (held.map fun profile => profile.description.slot).filter (!·.isEmpty) =
      held.map fun profile => profile.description.slot := by
    rw [List.filter_eq_self]
    intro slot member
    obtain ⟨profile, -, rfl⟩ := List.mem_map.mp member
    rw [Description.slot_eq]
    rfl
  refine ⟨held.mergeSort fun left right =>
    Place.le left.description.slot right.description.slot, List.mergeSort_perm _ _, ?_⟩
  rw [Files.below, holds.entries, List.filterMap_append, inside, outside, List.append_nil]
  simp only [named]
  exact (List.map_mergeSort (f := fun profile : LibProfile => profile.description.slot)
    fun _ _ _ _ => rfl).symm

/-- There is no file in place of the folder. -/
theorem Holds.fileAt?_folder (holds : Holds store start folder held after)
    (vacant : ∀ file ∈ start.files, folder.isPrefixOf file.1 = false) :
    after.fileAt? folder = none := by
  rw [Files.fileAt?, holds.entries, List.lookup_eq_none_iff]
  intro file member
  rw [bne_iff_ne]
  intro same
  rcases List.mem_append.mp member with ours | earlier
  · obtain ⟨profile, -, rfl⟩ := List.mem_map.mp ours
    have none : profile.description.slot = [] := List.self_eq_append_right.mp same
    rw [Description.slot_eq] at none
    cases none
  · have inside : folder.isPrefixOf file.1 = true :=
      List.isPrefixOf_iff_prefix.mpr (same ▸ List.prefix_rfl)
    rw [vacant file earlier] at inside
    cases inside

/-- What is stored in the file of a held profile. -/
theorem Holds.fileAt?_slot (holds : Holds store start folder held after)
    {profile : LibProfile} (member : profile ∈ held) :
    after.fileAt? (folder ++ profile.description.slot) = some profile.toBytes := by
  rw [Files.fileAt?, holds.entries]
  have apart := holds.apart
  clear holds
  induction held with
  | nil => cases member
  | cons first held ih =>
      obtain ⟨different, apart⟩ := List.pairwise_cons.mp apart
      rw [List.map_cons, List.cons_append, entry, List.lookup_cons]
      rcases List.mem_cons.mp member with rfl | later
      · rw [beq_self_eq_true]
      · have other : (folder ++ profile.description.slot ==
            folder ++ first.description.slot) = false := by
          rw [beq_eq_false_iff_ne]
          intro same
          exact different profile later ((sameFile_iff folder).mpr same.symm)
        rw [other]
        exact ih later apart

/-- The paths that are listed are those the profiles were stored at. -/
theorem Holds.exists_list_eq (holds : Holds store start folder held after)
    (rooted : store.root ≠ "")
    (shelved : ∀ profile ∈ held, profile.description.Shelved)
    (vacant : ∀ file ∈ start.files, folder.isPrefixOf file.1 = false)
    (located : after.locate? store.root = some folder) :
    ∃ arranged : List LibProfile, arranged.Perm held ∧
      store.list after = .ok (arranged.map fun profile => store.pathFor profile.description) := by
  obtain ⟨arranged, perm, below⟩ := holds.exists_below_eq vacant
  have known : ∀ profile ∈ arranged, profile.description.Shelved :=
    fun profile member => shelved profile (perm.subset member)
  have profiles : (arranged.map fun profile => profile.description.slot).filter
      (fun place => place.extension? == some extension) =
        arranged.map fun profile => profile.description.slot := by
    rw [List.filter_eq_self]
    intro slot member
    obtain ⟨profile, isHeld, rfl⟩ := List.mem_map.mp member
    rw [Description.extension?_slot (known profile isHeld), beq_self_eq_true]
  have paths : (arranged.map fun profile => profile.description.slot).map
      (fun place => Path.join store.root ("/".intercalate place)) =
        arranged.map fun profile => store.pathFor profile.description := by
    rw [List.map_map]
    apply List.map_congr_left
    intro profile isHeld
    rw [Function.comp_apply, pathFor_eq rooted (known profile isHeld), Description.slot,
      Path.intercalate_steps]
  refine ⟨arranged, perm, ?_⟩
  rw [list, located]
  simp only [holds.fileAt?_folder vacant, Option.isSome_none, Bool.false_eq_true, if_false, below,
    profiles, paths]

theorem Holds.load_eq (holds : Holds store start folder held after)
    {profile : LibProfile} (member : profile ∈ held) (fits : profile.Fits)
    (solid : ¬ Hollow profile) :
    load (store.pathFor profile.description) after = .ok profile := by
  simp only [load, Files.read?, holds.paths profile member, Option.bind_some,
    holds.fileAt?_slot member, profileOf_own fits solid]

/-- What was saved has hash trees, and none is empty. -/
theorem Saves.solid {profiles : List LibProfile} (saves : Saves store profiles before after) :
    ∀ profile ∈ profiles, ¬ Hollow profile := by
  induction saves with
  | none => exact List.forall_mem_nil _
  | more saved _ ih => exact List.forall_mem_cons.mpr ⟨(save_eq_ok_iff.mp saved).1, ih⟩

/-- Profiles that are not refused are saved when they can be written one after the other. -/
theorem exists_saves_of_written? {profiles : List LibProfile}
    (accepted : ∀ profile ∈ profiles, accepts profile = true)
    (written : (profiles.foldlM (fun files profile => store.written? profile files)
      before).isSome = true) : ∃ after, Saves store profiles before after := by
  induction profiles generalizing before with
  | nil => exact ⟨before, .none⟩
  | cons profile profiles ih =>
      obtain ⟨isAccepted, accepted⟩ := List.forall_mem_cons.mp accepted
      have solid : ¬ Hollow profile := by
        rw [← accepts_eq_false_iff, isAccepted]
        exact Bool.noConfusion
      rw [List.foldlM_cons] at written
      cases stored : store.written? profile before with
      | none =>
          rw [stored] at written
          cases written
      | some between =>
          rw [stored] at written
          obtain ⟨after, rest⟩ := ih accepted written
          exact ⟨after, .more (save_eq_ok_iff.mpr ⟨solid, rfl, stored⟩) rest⟩

end Run

/-! ## What is left -/

section Left

variable {profiles held : List LibProfile}

theorem mem_of_mem_foldl_taken {profile : LibProfile}
    (member : profile ∈ profiles.foldl taken held) : profile ∈ profiles ∨ profile ∈ held := by
  induction profiles generalizing held with
  | nil => exact .inr member
  | cons first profiles ih =>
      rcases ih member with later | earlier
      · exact .inl (List.mem_cons_of_mem _ later)
      · rcases List.mem_cons.mp earlier with rfl | kept
        · exact .inl List.mem_cons_self
        · exact .inr (List.mem_of_mem_filter kept)

theorem mem_of_mem_left {profile : LibProfile} (member : profile ∈ left profiles) :
    profile ∈ profiles := by
  rcases mem_of_mem_foldl_taken member with saved | none
  · exact saved
  · cases none

/-- All profiles are left when no two have one file. -/
theorem left_perm (apart : profiles.Pairwise fun left right => ¬ SameFile left right) :
    (left profiles).Perm profiles := by
  have stacked (held : List LibProfile)
      (new : ∀ profile ∈ profiles, ∀ other ∈ held, ¬ SameFile other profile) :
      profiles.foldl taken held = profiles.reverse ++ held := by
    induction profiles generalizing held with
    | nil => rfl
    | cons first profiles ih =>
        obtain ⟨different, apart⟩ := List.pairwise_cons.mp apart
        obtain ⟨free, new⟩ := List.forall_mem_cons.mp new
        have kept : held.filter (fun other => ¬ SameFile other first) = held :=
          List.filter_eq_self.mpr fun other member => decide_eq_true (free other member)
        rw [List.foldl_cons, taken, kept, ih apart, List.reverse_cons, List.append_assoc]
        · rfl
        · intro profile later other member
          rcases List.mem_cons.mp member with rfl | earlier
          · exact different profile later
          · exact new profile later other earlier
  rw [left, stacked [] (fun _ _ => List.forall_mem_nil _), List.append_nil]
  exact List.reverse_perm profiles

/-- What is left has a file each. -/
theorem pairwise_left (profiles : List LibProfile) :
    (left profiles).Pairwise fun left right => ¬ SameFile left right := by
  have stacked (held : List LibProfile)
      (apart : held.Pairwise fun left right => ¬ SameFile left right) :
      (profiles.foldl taken held).Pairwise fun left right => ¬ SameFile left right := by
    induction profiles generalizing held with
    | nil => exact apart
    | cons first profiles ih =>
        exact ih _ (pairwise_taken apart)
  exact stacked [] .nil

/-- Different profiles are all left only if no two have one file. -/
theorem pairwise_of_subset_left (distinct : profiles.Nodup) (all : profiles ⊆ left profiles) :
    profiles.Pairwise fun left right => ¬ SameFile left right := by
  have symmetric : Std.Symm fun left right : LibProfile => ¬ SameFile left right :=
    ⟨fun _ _ apart same => apart same.symm⟩
  refine List.Pairwise.imp_of_mem ?_ distinct
  intro first second firstMem secondMem different
  exact (pairwise_left profiles).forall (all firstMem) (all secondMem) different

end Left

/-! ## Loading the catalog -/

section Catalog

variable {store : ProfileStore} {sorting : Catalog.Sorting} {start after : Files}
  {profiles : List LibProfile}

/-- What is sorted and loaded after saving is what is left of the profiles, and nothing is skipped.
-/
theorem exists_loadCatalog_of_saves (rooted : store.root ≠ "") (vacant : store.Vacant start)
    (shelved : ∀ profile ∈ profiles, profile.description.Shelved)
    (fits : ∀ profile ∈ profiles, profile.Fits) (saves : Saves store profiles start after) :
    ∃ arranged : List LibProfile, arranged.Perm (left profiles) ∧
      ∀ sorting, store.loadCatalog sorting after =
        LoadedCatalog.ofProfiles sorting arranged [] := by
  cases profiles with
  | nil =>
      cases saves
      refine ⟨[], .refl _, fun sorting => ?_⟩
      let pathOf (profile : LibProfile) := store.pathFor profile.description
      suffices listed : store.list start = .ok (([] : List LibProfile).map pathOf) from
        loadCatalog_of_list listed (List.forall_mem_nil _)
      cases located : start.locate? store.root with
      | none =>
          rw [list, located]
          rfl
      | some folder =>
          have away := vacant start folder rfl located
          obtain ⟨arranged, perm, listed⟩ := (holds_nil store start folder).exists_list_eq rooted
            (List.forall_mem_nil _) away located
          rw [perm.eq_nil] at listed
          exact listed
  | cons first profiles =>
      obtain ⟨folder, away, holds, located⟩ :=
        exists_holds_of_saves rooted vacant shelved saves (List.cons_ne_nil _ _)
      have known : ∀ profile ∈ left (first :: profiles), profile.description.Shelved :=
        fun profile member => shelved profile (mem_of_mem_left member)
      obtain ⟨arranged, perm, listed⟩ := holds.exists_list_eq rooted known away located
      refine ⟨arranged, perm, fun sorting => loadCatalog_of_list listed ?_⟩
      intro profile member
      have isLeft := perm.subset member
      have isSaved := mem_of_mem_left isLeft
      exact holds.load_eq isLeft (fits profile isSaved) (saves.solid profile isSaved)

/-- What is loaded from a store that was vacant is what is left of the profiles that were saved
there, and nothing is skipped. The catalog has all of them, and nothing else, as long as no two have
the same file. When two have, though they differ in category, name or version, one of the profiles
is lost. -/
theorem loadCatalog_of_saves (sorting : Catalog.Sorting) (rooted : store.root ≠ "")
    (vacant : store.Vacant start) (shelved : ∀ profile ∈ profiles, profile.description.Shelved)
    (fits : ∀ profile ∈ profiles, profile.Fits) (saves : Saves store profiles start after) :
    LoadedCatalog.IsLoadOf (left profiles) [] (store.loadCatalog sorting after) ∧
    ∀ loaded, store.loadCatalog sorting after = .ok loaded →
      ((profiles.Pairwise fun left right => ¬ SameFile left right) →
        loaded.catalog.profiles.Perm profiles) ∧
      ((profiles.map fun profile => (profile.description.category, profile.description.name,
          profile.description.version)).Nodup →
        (¬ profiles.Pairwise fun left right => ¬ SameFile left right) →
          ∃ profile ∈ profiles, profile ∉ loaded.catalog.profiles) := by
  obtain ⟨arranged, perm, load_eq⟩ :=
    exists_loadCatalog_of_saves rooted vacant shelved fits saves
  have isLoad : LoadedCatalog.IsLoadOf (left profiles) [] (store.loadCatalog sorting after) := by
    rw [load_eq]
    exact (LoadedCatalog.isLoadOf_ofProfiles ..).of_perm perm
  refine ⟨isLoad, fun loaded loads => ?_⟩
  obtain ⟨catalog, -⟩ := isLoad.gathers loaded loads
  refine ⟨fun apart => catalog.trans (left_perm apart), fun distinct shared => ?_⟩
  by_contra nothing
  apply shared
  apply pairwise_of_subset_left (List.Nodup.of_map _ distinct)
  intro profile member
  by_contra lost
  exact nothing ⟨profile, member, fun kept => lost (catalog.subset kept)⟩

end Catalog

/-- Two versions of a library have files of their own. -/
theorem loadCatalog_of_saves_versions :
    let tree : HashTree := ⟨.standard, .mk ⟨[7]⟩ .root [.mk ⟨[1]⟩ (.package (some "a")) []],
      ⟨1, 0, 0⟩⟩
    let profile (version : String) : LibProfile :=
      ⟨⟨"Some Lib", .cloud, some version, none, none⟩, ⟨.mk "Root" 0 []⟩, [tree]⟩
    let profiles := [profile "1.0", profile "2.0"]
    let store : ProfileStore := ⟨"profiles"⟩
    let files : Files := ⟨["home"], [], []⟩
    store.root ≠ "" ∧ store.Vacant files ∧
      (∀ profile ∈ profiles, profile.description.Shelved) ∧ (∀ profile ∈ profiles, profile.Fits) ∧
      (profiles.map fun profile => (profile.description.category, profile.description.name,
        profile.description.version)).Nodup ∧
      profiles.Pairwise (fun left right => ¬ SameFile left right) ∧
      Catalog.Sortable (left profiles) ∧
      ∃ after, Saves store profiles files after ∧
        ∃ loaded, store.loadCatalog .checked after = .ok loaded ∧ loaded.skipped = [] ∧
          loaded.catalog.profiles.Perm profiles := by
  intro tree profile profiles store files
  have rooted : store.root ≠ "" := by decide
  have vacant : store.Vacant files := fun _ _ _ _ => List.forall_mem_nil _
  have shelved : ∀ profile ∈ profiles, profile.description.Shelved := by decide +kernel
  have fits : ∀ profile ∈ profiles, profile.Fits := by decide +kernel
  have apart : profiles.Pairwise fun left right => ¬ SameFile left right := by
    decide +kernel
  obtain ⟨after, saves⟩ : ∃ after, Saves store profiles files after :=
    exists_saves_of_written? (by decide +kernel) (by decide +kernel)
  have sortable : Catalog.Sortable (left profiles) := by
    refine .inl ?_
    rw [(left_perm apart).length_eq]
    decide
  obtain ⟨isLoad, gives⟩ := loadCatalog_of_saves .checked rooted vacant shelved fits saves
  obtain ⟨loaded, loads⟩ := isLoad.ends sortable
  exact ⟨rooted, vacant, shelved, fits, by decide +kernel, apart, sortable, after, saves, loaded,
    loads, (isLoad.gathers loaded loads).2, (gives loaded loads).1 apart⟩

/-- The second profile is saved in the file of the first: an underscore is taken for the one that
keeps name and version apart. -/
theorem loadCatalog_of_underscores :
    let tree : HashTree := ⟨.standard, .mk ⟨[7]⟩ .root [.mk ⟨[1]⟩ (.package (some "a")) []],
      ⟨1, 0, 0⟩⟩
    let profile (name version : String) : LibProfile :=
      ⟨⟨name, .utilities, some version, none, none⟩, ⟨.mk "Root" 0 []⟩, [tree]⟩
    let profiles := [profile "okhttp_3" "1", profile "okhttp" "3_1"]
    let store : ProfileStore := ⟨"profiles"⟩
    let files : Files := ⟨["home"], [], []⟩
    (profiles.map fun profile => (profile.description.category, profile.description.name,
        profile.description.version)).Nodup ∧
      (∀ profile ∈ profiles, profile.description.invalid? = none) ∧ store.Vacant files ∧
      ∃ after, Saves store profiles files after ∧
        ∃ loaded, store.loadCatalog .checked after = .ok loaded ∧
          loaded.catalog.profiles = [profile "okhttp" "3_1"] := by
  intro tree profile profiles store files
  have vacant : store.Vacant files := fun _ _ _ _ => List.forall_mem_nil _
  have shelved : ∀ profile ∈ profiles, profile.description.Shelved := by decide +kernel
  have fits : ∀ profile ∈ profiles, profile.Fits := by decide +kernel
  obtain ⟨after, saves⟩ : ∃ after, Saves store profiles files after :=
    exists_saves_of_written? (by decide +kernel) (by decide +kernel)
  obtain ⟨arranged, perm, load_eq⟩ :=
    exists_loadCatalog_of_saves (by decide) vacant shelved fits saves
  have same : SameFile (profile "okhttp_3" "1") (profile "okhttp" "3_1") := by
    decide +kernel
  have replaced : left profiles = [profile "okhttp" "3_1"] := by
    simp [left, profiles, taken, same]
  rw [replaced] at perm
  obtain rfl := perm.eq_singleton
  have sortable : Catalog.Sortable [profile "okhttp" "3_1"] := .inl (by decide)
  refine ⟨by decide +kernel, by decide +kernel, vacant, after, saves, ⟨_, []⟩, ?_, rfl⟩
  rw [load_eq, LoadedCatalog.ofProfiles, Catalog.ofProfiles_of_sortable _ sortable]
  rfl

/-- A version that ends in a slash gives the file no name but its extension, and what has no name
has no extension: the profile is saved, and not listed. -/
theorem list_of_final_slash :
    let tree : HashTree := ⟨.standard, .mk ⟨[7]⟩ .root [.mk ⟨[1]⟩ (.package (some "a")) []],
      ⟨1, 0, 0⟩⟩
    let profile : LibProfile :=
      ⟨⟨"okhttp", .utilities, some "3/", none, none⟩, ⟨.mk "Root" 0 []⟩, [tree]⟩
    let store : ProfileStore := ⟨"profiles"⟩
    let files : Files := ⟨["home"], [], []⟩
    profile.description.invalid? = none ∧ store.Vacant files ∧
      ∃ after, store.save profile files = .ok ("profiles/Utilities/okhttp_3/.libv", after) ∧
        store.list after = .ok [] := by
  intro tree profile store files
  have written : (store.written? profile files).isSome = true := by
    decide +kernel
  let after := (store.written? profile files).getD files
  have stored : store.written? profile files = some after := by
    obtain ⟨found, stored⟩ := Option.isSome_iff_exists.mp written
    rw [stored, Option.some_inj]
    simp only [after, stored, Option.getD_some]
  have solid : ¬ Hollow profile := by
    rw [← accepts_eq_false_iff]
    decide +kernel
  have saved : store.save profile files = .ok ("profiles/Utilities/okhttp_3/.libv", after) :=
    save_eq_ok_iff.mpr ⟨solid, by decide +kernel, stored⟩
  have located : after.locate? store.root = some ["home", "profiles"] := by
    decide +kernel
  have noFile : after.fileAt? ["home", "profiles"] = none := by
    decide +kernel
  have found : (after.files.filterMap fun file =>
      if ["home", "profiles"].isPrefixOf file.1 then
        some (file.1.drop ["home", "profiles"].length) else none).filter (!·.isEmpty) =
      [["Utilities", "okhttp_3", ".libv"]] := by
    decide +kernel
  have below : after.below ["home", "profiles"] = [["Utilities", "okhttp_3", ".libv"]] := by
    simp only [Files.below, found, List.mergeSort_singleton]
  have nameless : Place.extension? ["Utilities", "okhttp_3", ".libv"] = none := by
    decide +kernel
  refine ⟨by decide +kernel, fun _ _ _ _ => List.forall_mem_nil _, after, saved, ?_⟩
  rw [list, located]
  simp [noFile, below, nameless]

end ProfileStore

end LibPrint
