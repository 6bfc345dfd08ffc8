import LibPrint.Proofs.Files.Ways

/-!
# Sound file systems

What a list of files has to satisfy to be a file system: one file at a place, names that paths can
spell, and no folder where a file is. Making folders and writing files keep this up. In a sound file
system the way to a file is found by the names of its place.
-/

namespace LibPrint

namespace Place

/-- A name that a path can spell and that stands for what has it. -/
def Spellable (name : String) : Prop :=
  Path.IsName name ∧ '/' ∉ name.toList ∧ isName name = true

instance (name : String) : Decidable (Spellable name) :=
  inferInstanceAs (Decidable (_ ∧ _))

theorem descend?_of_spellable {name : String} (spellable : Spellable name) (place : Place) :
    place.descend? name = some (place ++ [name]) := by
  obtain ⟨⟨some, notHere, notUp⟩, -, allowed⟩ := spellable
  simp [descend?, some, notHere, notUp, allowed]

/-- A step leads to a place of spellable names from one of such names. -/
theorem spellable_of_descend? {place reached : Place} {step : String}
    (spellable : ∀ name ∈ place, Spellable name) (plain : '/' ∉ step.toList)
    (descended : place.descend? step = some reached) : ∀ name ∈ reached, Spellable name := by
  rw [descend?] at descended
  split at descended
  · obtain rfl := Option.some.inj descended
    exact spellable
  · next moves =>
    split at descended
    · obtain rfl := Option.some.inj descended
      exact fun name member => spellable name (List.dropLast_subset place member)
    · next notUp =>
      split at descended
      · next allowed =>
        obtain rfl := Option.some.inj descended
        have isName : Path.IsName step := by simpa [Path.IsName, and_assoc] using And.intro moves notUp
        intro name member
        rcases List.mem_append.mp member with before | last
        · exact spellable name before
        · rw [List.mem_singleton.mp last]
          exact ⟨isName, plain, allowed⟩
      · cases descended

end Place

namespace Path

theorem absent_of_mem_steps {path step : String} (member : step ∈ steps path) :
    '/' ∉ step.toList :=
  Text.absent_of_mem_pieces member

/-- The steps of a path that spells names are these names. -/
theorem steps_intercalate {names : List String} (some : names ≠ [])
    (plain : ∀ name ∈ names, '/' ∉ name.toList) : steps ("/".intercalate names) = names := by
  have letters : ("/".intercalate names).toList = ['/'].intercalate (names.map String.toList) := by
    rw [String.toList_intercalate]
    rfl
  have absent : ∀ letters ∈ names.map String.toList, '/' ∉ letters := by
    intro letters member
    obtain ⟨name, isName, rfl⟩ := List.mem_map.mp member
    exact plain name isName
  have occupied : names.map String.toList ≠ [] := by simpa using some
  rw [steps, Text.pieces, letters, List.splitOn_intercalate _ absent occupied, List.map_map]
  have same : String.ofList ∘ String.toList = id := funext fun _ => String.ofList_toList
  rw [same, List.map_id]

end Path

namespace Files

variable {files after : Files} {place folder : Place} {bytes : List UInt8}

/-- Folders lie in folders. -/
theorem hasFolder_of_below {upper lower : Place} (below : upper <+: lower)
    (found : files.hasFolder lower = true) : files.hasFolder upper = true := by
  simp only [hasFolder, Bool.or_eq_true, List.any_eq_true, List.isEmpty_iff, Bool.and_eq_true,
    bne_iff_ne, List.isPrefixOf_iff_prefix] at found ⊢
  rcases found with (rfl | ⟨made, member, inside⟩) | ⟨file, member, inside, apart⟩
  · exact .inl (.inl (List.prefix_nil.mp below))
  · exact .inl (.inr ⟨made, member, below.trans inside⟩)
  · refine .inr ⟨file, member, below.trans inside, ?_⟩
    rintro rfl
    exact apart (inside.eq_of_length_le below.length_le)

/-- What a file lies in is a folder. -/
theorem hasFolder_of_file (member : (place, bytes) ∈ files.files) (below : folder <+: place)
    (apart : folder ≠ place) : files.hasFolder folder = true := by
  simp only [hasFolder, Bool.or_eq_true, List.any_eq_true, Bool.and_eq_true, bne_iff_ne,
    List.isPrefixOf_iff_prefix]
  exact .inr ⟨(place, bytes), member, below, apart⟩

/-- Writing a file makes no other folders than those the file lies in. -/
theorem hasFolder_of_put (found : (files.put place bytes).hasFolder folder = true) :
    files.hasFolder folder = true ∨ folder <+: place ∧ folder ≠ place := by
  simp only [put, hasFolder, List.any_cons, Bool.or_eq_true, List.any_eq_true, Bool.and_eq_true,
    bne_iff_ne, List.isPrefixOf_iff_prefix] at found ⊢
  rcases found with known | written | ⟨file, member, inside⟩
  · exact .inl (.inl known)
  · exact .inr written
  · exact .inl (.inr ⟨file, (List.mem_filter.mp member).1, inside⟩)

/-- A file system as there can be one. -/
structure Sound (files : Files) : Prop where
  /-- Relative paths start from a folder. -/
  here : files.hasFolder files.current = true
  start : ∀ name ∈ files.current, Place.Spellable name
  names : ∀ file ∈ files.files, ∀ name ∈ file.1, Place.Spellable name
  distinct : (files.files.map Prod.fst).Nodup
  leaves : ∀ file ∈ files.files, files.hasFolder file.1 = false

instance (files : Files) : Decidable files.Sound :=
  decidable_of_iff (files.hasFolder files.current = true ∧
      (∀ name ∈ files.current, Place.Spellable name) ∧
      (∀ file ∈ files.files, ∀ name ∈ file.1, Place.Spellable name) ∧
      (files.files.map Prod.fst).Nodup ∧
      ∀ file ∈ files.files, files.hasFolder file.1 = false)
    ⟨fun ⟨here, start, names, distinct, leaves⟩ => ⟨here, start, names, distinct, leaves⟩,
      fun sound => ⟨sound.here, sound.start, sound.names, sound.distinct, sound.leaves⟩⟩

theorem mem_of_fileAt? (found : files.fileAt? place = some bytes) :
    (place, bytes) ∈ files.files := by
  obtain ⟨front, back, shape, -⟩ := List.lookup_eq_some_iff.mp found
  rw [shape]
  exact List.mem_append_right _ List.mem_cons_self

namespace Sound

theorem fileAt?_of_mem (sound : files.Sound) (member : (place, bytes) ∈ files.files) :
    files.fileAt? place = some bytes := by
  obtain ⟨front, back, shape⟩ := List.append_of_mem member
  have distinct := sound.distinct
  rw [shape, List.map_append, List.map_cons, List.nodup_append] at distinct
  refine List.lookup_eq_some_iff.mpr ⟨front, back, shape, ?_⟩
  intro other before
  rw [bne_iff_ne]
  intro same
  exact distinct.2.2 other.1 (List.mem_map_of_mem before) place List.mem_cons_self same.symm

theorem fileAt?_of_hasFolder (sound : files.Sound) (found : files.hasFolder place = true) :
    files.fileAt? place = none := by
  by_contra occupied
  obtain ⟨bytes, isFile⟩ := Option.ne_none_iff_exists'.mp occupied
  have leaf := sound.leaves _ (mem_of_fileAt? isFile)
  rw [found] at leaf
  cases leaf

/-- A way through a sound file system ends at a place of spellable names. -/
theorem spellable_of_follow? {files : Files} {start reached : Place} {steps : List String}
    (spellable : ∀ name ∈ start, Place.Spellable name) (plain : ∀ step ∈ steps, '/' ∉ step.toList)
    (leads : files.follow? start steps = some reached) : ∀ name ∈ reached, Place.Spellable name := by
  induction steps generalizing start with
  | nil => rwa [← Option.some.inj leads]
  | cons step steps ih =>
      obtain ⟨first, plain⟩ := List.forall_mem_cons.mp plain
      rw [follow?_cons] at leads
      split at leads
      · obtain ⟨place, descended, leads⟩ := Option.bind_eq_some_iff.mp leads
        exact ih (Place.spellable_of_descend? spellable first descended) plain leads
      · cases leads

theorem spellable_start (sound : files.Sound) (path : String) :
    ∀ name ∈ files.start path, Place.Spellable name := by
  rw [Files.start]
  split
  · exact List.forall_mem_nil _
  · exact sound.start

theorem hasFolder_start (sound : files.Sound) (path : String) :
    files.hasFolder (files.start path) = true := by
  rw [Files.start]
  split
  · rfl
  · exact sound.here

/-! ## What keeps a file system sound -/

/-- A folder is made in a folder, where there is no file. -/
theorem newFolder (sound : files.Sound) {name : String} (found : files.hasFolder place = true)
    (free : files.fileAt? (place ++ [name]) = none) :
    Sound { files with folders := (place ++ [name]) :: files.folders } := by
  refine ⟨?_, sound.start, sound.names, sound.distinct, ?_⟩
  · exact (extends_folder files _).folders _ sound.here
  · intro file member
    have leaf := sound.leaves file member
    have apart : file.1.isPrefixOf (place ++ [name]) = false := by
      rw [Bool.eq_false_iff, ne_eq, List.isPrefixOf_iff_prefix, List.prefix_concat_iff]
      rintro (same | above)
      · rw [← same, sound.fileAt?_of_mem member] at free
        cases free
      · rw [hasFolder_of_below above found] at leaf
        cases leaf
    simp only [hasFolder, List.any_cons, apart, Bool.false_or] at leaf ⊢
    exact leaf

theorem makeAlong? {steps : List String} (sound : files.Sound)
    (found : files.hasFolder place = true) (made : files.makeAlong? place steps = some after) :
    after.Sound := by
  induction steps generalizing files place with
  | nil =>
      obtain rfl := Option.some.inj made
      exact sound
  | cons step steps ih =>
      simp only [Files.makeAlong?] at made
      split at made
      · exact ih sound found made
      · split at made
        · exact ih sound (hasFolder_of_below (List.dropLast_prefix place) found) made
        · split at made
          · next there => exact ih sound there made
          · split at made
            · next free =>
              rw [Bool.and_eq_true, Option.isNone_iff_eq_none] at free
              refine ih (sound.newFolder found free.2) ?_ made
              simp [hasFolder]
            · cases made

theorem makeParents? {path : String} (sound : files.Sound)
    (made : files.makeParents? path = some after) : after.Sound := by
  rw [Files.makeParents?, makeFolders?] at made
  split at made
  · exact sound.makeAlong? (sound.hasFolder_start _) made
  · cases made

/-- A file is written in a folder, where there is none. -/
theorem put (sound : files.Sound) {name : String} (found : files.hasFolder folder = true)
    (free : files.hasFolder (folder ++ [name]) = false)
    (spellable : ∀ step ∈ folder ++ [name], Place.Spellable step) (bytes : List UInt8) :
    (files.put (folder ++ [name]) bytes).Sound := by
  have others {file : Place × List UInt8}
      (member : file ∈ files.files.filter (·.1 != folder ++ [name])) :
      file ∈ files.files ∧ file.1 ≠ folder ++ [name] := by
    rwa [List.mem_filter, bne_iff_ne] at member
  refine ⟨hasFolder_put _ _ sound.here, sound.start, ?_, ?_, ?_⟩
  · refine List.forall_mem_cons.mpr ⟨spellable, ?_⟩
    exact fun file member => sound.names file (others member).1
  · rw [Files.put, List.map_cons, List.nodup_cons]
    refine ⟨?_, sound.distinct.sublist (List.filter_sublist.map _)⟩
    intro member
    obtain ⟨file, kept, same⟩ := List.mem_map.mp member
    exact (others kept).2 same
  · intro file member
    rw [Bool.eq_false_iff]
    intro inside
    rcases List.mem_cons.mp member with rfl | earlier
    · rcases hasFolder_of_put inside with there | ⟨-, apart⟩
      · exact Bool.false_ne_true (free.symm.trans there)
      · exact apart rfl
    · obtain ⟨isFile, apart⟩ := others earlier
      have leaf := sound.leaves file isFile
      rcases hasFolder_of_put inside with there | ⟨above, -⟩
      · exact Bool.false_ne_true (leaf.symm.trans there)
      · rcases List.prefix_concat_iff.mp above with same | above
        · exact apart same
        · exact Bool.false_ne_true (leaf.symm.trans (hasFolder_of_below above found))

theorem write? {path : String} (sound : files.Sound)
    (written : files.write? path bytes = some after) : after.Sound := by
  obtain ⟨place, target, rfl⟩ := Option.map_eq_some_iff.mp written
  obtain ⟨way, folder, name, suited, rfl⟩ := exists_targets_of_target? target
  have plain : ∀ step ∈ way ++ [name], '/' ∉ step.toList := by
    rw [← suited.steps]
    exact fun step => Path.absent_of_mem_steps
  refine sound.put suited.found suited.free ?_ bytes
  intro step member
  rcases List.mem_append.mp member with before | last
  · refine spellable_of_follow? (sound.spellable_start path) ?_ suited.followed step before
    exact fun step inside => plain step (List.mem_append_left _ inside)
  · rw [List.mem_singleton.mp last]
    exact ⟨suited.proper, plain name (List.mem_append_right _ List.mem_cons_self), suited.allowed⟩

/-- A file is replaced in its place. -/
theorem replace {old : List UInt8} (sound : files.Sound) (member : (place, old) ∈ files.files)
    (bytes : List UInt8) : (files.put place bytes).Sound := by
  have leaf := sound.leaves _ member
  obtain rfl | ⟨folder, name, rfl⟩ := List.eq_nil_or_concat' place
  · cases leaf
  refine sound.put ?_ leaf (sound.names _ member) bytes
  exact hasFolder_of_file member (List.prefix_append _ _) (by simp)

/-! ## Files and their paths -/

/-- The names of a file's place lead to it from every folder it lies in. -/
theorem follow?_file (sound : files.Sound) {names : List String}
    (member : (folder ++ names, bytes) ∈ files.files) :
    files.follow? folder names = some (folder ++ names) := by
  induction names generalizing folder with
  | nil => rw [follow?, List.append_nil]
  | cons name names ih =>
      have found : files.hasFolder folder = true :=
        hasFolder_of_file member (List.prefix_append _ _) (by simp)
      have spellable : Place.Spellable name :=
        sound.names _ member name (List.mem_append_right _ List.mem_cons_self)
      rw [List.append_cons] at member ⊢
      rw [follow?_cons, if_pos found, Place.descend?_of_spellable spellable, Option.bind_some]
      exact ih member

end Sound

end Files

end LibPrint
