import LibPrint.Proofs.Files.Ways
import LibPrint.Proofs.Store.RoundTrip

/-!
# Where profiles are stored

The path of a profile leads below the folder of the store, to the folder of the category and on to
the file of the profile, as long as the name of that file is made of proper names: it is usually
one, but a library or version name may have slashes in it. Which file that is depends on the
category and the file's name alone, and storing a profile changes that one file and no other.
-/

namespace LibPrint

/-- A name that goes on before its extension has this extension. -/
theorem Place.extension?_concat (front : Place) {stem : String} (occupied : stem ≠ "") :
    Place.extension? (front ++ [stem ++ ".libv"]) = some ProfileStore.extension := by
  have text : (stem ++ ".libv").toList = stem.toList ++ '.' :: ['l', 'i', 'b', 'v'] := by
    rw [String.toList_append]
    rfl
  have absent : '.' ∉ ['l', 'i', 'b', 'v'] := by decide
  have some : stem.toList.isEmpty = false := by
    rw [List.isEmpty_eq_false_iff]
    exact fun none => occupied (String.toList_inj.mp none)
  rw [Place.extension?, List.getLast?_concat]
  simp only [Option.bind_eq_bind, Option.bind_some, text, Text.beforeLast?_append absent,
    Text.afterLast_append absent, some]
  rfl

namespace Description

/-- The name of the file leads down only: between its slashes are names. -/
def Shelved (description : Description) : Prop :=
  ∀ step ∈ Path.steps description.fileStem, Path.IsName step

instance (description : Description) : Decidable description.Shelved :=
  inferInstanceAs (Decidable (∀ step ∈ Path.steps description.fileStem, Path.IsName step))

/-- The path of a profile's file, from the folder of the store on. -/
def relativePath (description : Description) : String :=
  description.category.name ++ "/" ++ (description.fileStem ++ "." ++ ProfileStore.extension)

/-- The file of a profile, as a place below the folder of the store. -/
def slot (description : Description) : Place :=
  Path.steps description.relativePath

theorem slot_eq (description : Description) :
    description.slot = description.category.name ::
      Path.steps (description.fileStem ++ "." ++ ProfileStore.extension) := by
  have plain : '/' ∉ description.category.name.toList := by
    cases description.category <;> decide
  have alone : Path.steps description.category.name = [description.category.name] :=
    Text.pieces_of_absent plain
  have parts := Path.steps_append description.category.name
    (description.fileStem ++ "." ++ ProfileStore.extension)
  rwa [alone, List.singleton_append] at parts

/-- The extension goes to the last of the steps. -/
theorem exists_steps_fileStem (description : Description) :
    ∃ front last, Path.steps description.fileStem = front ++ [last] ∧
      Path.steps (description.fileStem ++ "." ++ ProfileStore.extension) =
        front ++ [last ++ ".libv"] := by
  have dot : description.fileStem ++ "." ++ ProfileStore.extension =
      description.fileStem ++ ".libv" := String.append_assoc
  have absent : '/' ∉ ".libv".toList := by decide
  rw [dot]
  exact Text.exists_pieces_append absent

theorem exists_slot_eq (description : Description) :
    ∃ front last, Path.steps description.fileStem = front ++ [last] ∧
      description.slot = (description.category.name :: front) ++ [last ++ ".libv"] := by
  obtain ⟨front, last, parts, whole⟩ := exists_steps_fileStem description
  exact ⟨front, last, parts, by rw [slot_eq, whole, List.cons_append]⟩

theorem slot_inj {left right : Description} :
    left.slot = right.slot ↔
      left.category = right.category ∧ left.fileStem = right.fileStem := by
  have categories : left.category.name = right.category.name ↔
      left.category = right.category := by
    cases left.category <;> cases right.category <;> decide
  rw [slot_eq, slot_eq, List.cons.injEq, Path.steps_inj, categories]
  apply and_congr_right
  intro _
  rw [String.append_left_inj, String.append_left_inj]

variable {description : Description}

theorem isName_of_mem_slot (shelved : description.Shelved) :
    ∀ step ∈ description.slot, Path.IsName step := by
  obtain ⟨front, last, parts, whole⟩ := exists_slot_eq description
  rw [Shelved, parts] at shelved
  have long : 5 ≤ (last ++ ".libv").length := by
    rw [String.length_append]
    exact Nat.le_add_left _ _
  have named : Path.IsName (last ++ ".libv") := by
    refine ⟨?_, ?_, ?_⟩ <;>
      · intro same
        rw [same] at long
        exact absurd long (by decide)
  have category : Path.IsName description.category.name := by
    cases description.category <;> decide
  rw [whole]
  intro step member
  rcases List.mem_append.mp member with before | final
  · rcases List.mem_cons.mp before with rfl | inside
    · exact category
    · exact shelved step (List.mem_append_left _ inside)
  · rw [List.mem_singleton.mp final]
    exact named

theorem extension?_slot (shelved : description.Shelved) :
    Place.extension? description.slot = some ProfileStore.extension := by
  obtain ⟨front, last, parts, whole⟩ := exists_slot_eq description
  rw [whole]
  apply Place.extension?_concat
  refine (shelved last ?_).1
  rw [parts]
  exact List.mem_concat_self

end Description

namespace ProfileStore

variable {store : ProfileStore} {description : Description}

/-- The path leads through the folder of the store, unless the file's name leads elsewhere. -/
theorem pathFor_eq_join (rooted : store.root ≠ "")
    (relative : Path.isAbsolute (description.fileStem ++ "." ++ extension) = false) :
    store.pathFor description = Path.join store.root description.relativePath := by
  apply Path.join_join rooted
  · cases description.category <;> decide
  · cases description.category <;> decide
  · cases description.category <;> decide
  · exact relative

theorem pathFor_eq (rooted : store.root ≠ "") (shelved : description.Shelved) :
    store.pathFor description = Path.join store.root description.relativePath := by
  apply pathFor_eq_join rooted
  apply Path.not_isAbsolute
  intro step member
  apply Description.isName_of_mem_slot shelved
  rw [Description.slot_eq]
  exact List.mem_cons_of_mem _ member

/-- What storing a profile does. Its file is found by its path at its slot below the folder of the
store, it is new or replaces the one that was there, and all else is as it was. -/
structure Placed (store : ProfileStore) (profile : LibProfile) (folder : Place)
    (before after : Files) : Prop where
  root : after.locate? store.root = some folder
  path : after.locate? (store.pathFor profile.description) =
    some (folder ++ profile.description.slot)
  files : after.files = (folder ++ profile.description.slot, profile.toBytes) ::
    before.files.filter (·.1 != folder ++ profile.description.slot)
  current : after.current = before.current
  folders : ∀ place, before.hasFolder place = true → after.hasFolder place = true

/-- Storing leads through the folder of the store, and from there down to the slot. -/
theorem exists_folder_of_target? {files : Files} {place : Place} (rooted : store.root ≠ "")
    (shelved : description.Shelved)
    (target : files.target? (store.pathFor description) = some place) :
    ∃ folder, files.locate? store.root = some folder ∧ place = folder ++ description.slot := by
  obtain ⟨way, parent, name, targets, rfl⟩ := Files.exists_targets_of_target? target
  obtain ⟨front, last, -, shape⟩ := Description.exists_slot_eq description
  obtain ⟨lead, rootSteps, joined⟩ := Path.exists_front rooted
  have relative : Path.isAbsolute description.relativePath = false :=
    Path.not_isAbsolute (Description.isName_of_mem_slot shelved)
  have path := pathFor_eq rooted shelved
  have steps : way ++ [name] =
      (lead ++ (description.category.name :: front)) ++ [last ++ ".libv"] := by
    rw [← targets.steps, path, joined _ relative, List.append_assoc, ← shape]
    rfl
  obtain ⟨rfl, names⟩ := List.append_inj' steps rfl
  obtain rfl := List.singleton_inj.mp names
  have followed := targets.followed
  rw [Files.follow?_append] at followed
  obtain ⟨folder, leads, down⟩ := Option.bind_eq_some_iff.mp followed
  have below : parent = folder ++ (description.category.name :: front) := by
    apply Files.eq_append_of_follow? _ down
    intro step member
    apply Description.isName_of_mem_slot shelved
    rw [shape]
    exact List.mem_append_left _ member
  obtain ⟨rest, begins⟩ := Path.exists_join_eq_append rooted relative
  have start : files.start (store.pathFor description) = files.start store.root := by
    rw [Files.start, Files.start, path, begins, Path.isAbsolute_append rooted]
  have short : Path.isFollowed store.root = true := by
    have whole := targets.short
    rw [path, begins] at whole
    exact Path.isFollowed_of_append whole
  -- A slash at the end of the root's path is one more step, from the folder to itself.
  have reached : files.follow? (files.start store.root) (Path.steps store.root) = some folder := by
    rw [start] at leads
    rcases rootSteps with same | slash
    · rw [same]
      exact leads
    · rw [slash, Files.follow?_append, leads, Option.bind_some,
        Files.follow?_empty (Files.hasFolder_of_follow? down)]
  refine ⟨folder, ?_, ?_⟩
  · simp [Files.locate?, rooted, short, reached]
  · rw [below, shape, List.append_assoc]

theorem exists_placed {profile : LibProfile} {before after : Files} (rooted : store.root ≠ "")
    (shelved : profile.description.Shelved)
    (stored : store.written? profile before = some after) :
    ∃ folder, Placed store profile folder before after := by
  obtain ⟨prepared, made, written⟩ := Option.bind_eq_some_iff.mp stored
  obtain ⟨place, target, rfl⟩ := Option.map_eq_some_iff.mp written
  have extended := Files.extends_makeParents? made
  have located := Files.locate?_put target profile.toBytes
  obtain ⟨folder, leads, rfl⟩ := exists_folder_of_target? rooted shelved target
  have kept : ∀ other, prepared.hasFolder other = true →
      (prepared.put (folder ++ profile.description.slot) profile.toBytes).hasFolder other = true :=
    fun _ => Files.hasFolder_put _ _
  refine ⟨folder, Files.locate?_of_hasFolder (by rfl) kept leads, located, ?_, extended.current, ?_⟩
  · rw [Files.put, extended.files]
  · intro other found
    exact kept other (extended.folders other found)

end ProfileStore

end LibPrint
