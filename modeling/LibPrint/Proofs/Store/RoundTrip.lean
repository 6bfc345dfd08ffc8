import LibPrint.Proofs.Files.Writing
import LibPrint.Proofs.Library.Format
import LibPrint.Store

/-!
# Loading a stored profile

A store refuses a profile only if it has no hash tree or an empty one. What it did not refuse and
could write is loaded as it was, with every count, label and name in it, although two nodes of equal
digest or two package trees of equal names count as the same elsewhere.
-/

namespace LibPrint.ProfileStore

/-- A profile without hash trees, or with an empty one. -/
def Hollow (profile : LibProfile) : Prop :=
  profile.hashTrees = [] ∨ ∃ tree ∈ profile.hashTrees, tree.packages = []

/-- The files with the profile at its path, if it can be written there. -/
def written? (store : ProfileStore) (profile : LibProfile) (files : Files) : Option Files :=
  (files.makeParents? (store.pathFor profile.description)).bind
    (·.write? (store.pathFor profile.description) profile.toBytes)

theorem accepts_eq_false_iff (profile : LibProfile) :
    accepts profile = false ↔ Hollow profile := by
  simp only [accepts, Hollow, HashTree.isEmpty, Bool.and_eq_false_iff, Bool.not_eq_false',
    List.isEmpty_iff, List.all_eq_false, Bool.not_eq_true', Bool.not_eq_false]

section Saving

variable {store : ProfileStore} {profile : LibProfile} {files : Files}

theorem save_of_hollow (hollow : Hollow profile) :
    store.save profile files = .error (.refused profile.description.display) := by
  simp [save, (accepts_eq_false_iff profile).mpr hollow]

/-- What is not refused is written at its path, if that is possible. -/
theorem save_of_not_hollow (solid : ¬ Hollow profile) :
    store.save profile files =
      (store.written? profile files).elim
        (.error (.access (store.pathFor profile.description)))
        fun after => .ok (store.pathFor profile.description, after) := by
  rw [← accepts_eq_false_iff, Bool.not_eq_false] at solid
  simp only [save, solid, Bool.not_true, Bool.false_eq_true, if_false, written?]
  split
  · next failed => rw [failed, Option.elim_none]
  · next stored => rw [stored, Option.elim_some]

/-- A profile is refused for what it is, whatever files there are. -/
theorem save_eq_refused_iff :
    store.save profile files = .error (.refused profile.description.display) ↔
      Hollow profile := by
  refine ⟨fun refused => ?_, save_of_hollow⟩
  by_contra solid
  rw [save_of_not_hollow solid] at refused
  cases stored : store.written? profile files with
  | none =>
      rw [stored, Option.elim_none] at refused
      cases refused
  | some after =>
      rw [stored, Option.elim_some] at refused
      cases refused

theorem save_eq_ok_iff {path : String} {after : Files} :
    store.save profile files = .ok (path, after) ↔
      ¬ Hollow profile ∧ store.pathFor profile.description = path ∧
        store.written? profile files = some after := by
  by_cases hollow : Hollow profile
  · simp [save_of_hollow hollow, hollow]
  · rw [save_of_not_hollow hollow]
    cases store.written? profile files <;> simp [hollow]

/-- A profile that was stored lies in the file of its path as the bytes of its format. -/
theorem read?_of_written? {after : Files} (stored : store.written? profile files = some after) :
    after.read? (store.pathFor profile.description) = some profile.toBytes := by
  obtain ⟨prepared, -, written⟩ := Option.bind_eq_some_iff.mp stored
  exact Files.read?_of_write? written

end Saving

/-- The profile in a file that begins with the bytes of its format. -/
theorem profileOf_toBytes {profile : LibProfile} (fits : profile.Fits)
    (solid : ¬ Hollow profile) (path : String) (rest : List UInt8) :
    profileOf path (profile.toBytes ++ rest) = .ok profile := by
  have occupied : profile.hashTrees.isEmpty = false :=
    List.isEmpty_eq_false_iff.mpr fun none => solid (.inl none)
  simp [profileOf, LibProfile.read_toBytes fits, occupied]

theorem profileOf_own {profile : LibProfile} (fits : profile.Fits) (solid : ¬ Hollow profile)
    (path : String) : profileOf path profile.toBytes = .ok profile := by
  have read := profileOf_toBytes fits solid path []
  rwa [List.append_nil] at read

/-- A profile is refused exactly when it has no hash tree or an empty one. That is decided before
the files are looked at, and a refusal gives no changed files back. Every other profile is stored if
a file can be written at its path, and what was stored is loaded from there in all its parts, for
every date it may carry. That it fits says no more than that a count in memory, and the length of a
file, are numbers of 64 bits. -/
theorem load_of_save (store : ProfileStore) (profile : LibProfile) (files : Files) :
    (store.save profile files = .error (.refused profile.description.display) ↔
      profile.hashTrees = [] ∨ ∃ tree ∈ profile.hashTrees, tree.packages = []) ∧
    ((∃ path after, store.save profile files = .ok (path, after)) ↔
      profile.hashTrees ≠ [] ∧ (∀ tree ∈ profile.hashTrees, tree.packages ≠ []) ∧
        files.Writable (store.pathFor profile.description)) ∧
    (profile.Fits → ∀ path after, store.save profile files = .ok (path, after) →
      store.pathFor profile.description = path ∧ load path after = .ok profile) := by
  refine ⟨save_eq_refused_iff, ?_, ?_⟩
  · have solid : ¬ Hollow profile ↔
        profile.hashTrees ≠ [] ∧ ∀ tree ∈ profile.hashTrees, tree.packages ≠ [] := by
      simp [Hollow]
    rw [← and_assoc, ← solid, Files.writable_iff profile.toBytes]
    simp [save_eq_ok_iff, written?]
  · intro fits path after saved
    obtain ⟨solid, rfl, stored⟩ := save_eq_ok_iff.mp saved
    have read := profileOf_toBytes fits solid (store.pathFor profile.description) []
    rw [List.append_nil] at read
    exact ⟨rfl, by simp only [load, read?_of_written? stored, read]⟩

/-- A profile with a date and a comment, nested packages, and two nodes that differ in their labels
only. -/
theorem load_of_save_labelled :
    let packages (name : String) : Node :=
      .mk ⟨[1, 2]⟩ (.package (some name)) [.mk ⟨[3]⟩ (.class none) []]
    let profile : LibProfile :=
      ⟨⟨"Some Lib", .utilities, some "2.1", some ⟨2015, 8, 24, by decide⟩, some "[SECURITY]"⟩,
        ⟨.mk "Root" 0 [.mk "org" 0 [.mk "lib" 2 []], .mk "util" 1 []]⟩,
        [⟨.standard, .mk ⟨[7]⟩ .root [packages "org.lib", packages "util"], ⟨2, 3, 5⟩⟩]⟩
    let store : ProfileStore := ⟨"profiles"⟩
    let files : Files := ⟨["home"], [], []⟩
    profile.Fits ∧ ∃ path after, store.save profile files = .ok (path, after) ∧
      store.pathFor profile.description = path ∧ load path after = .ok profile := by
  intro packages profile store files
  have fits : profile.Fits := ⟨by decide +kernel, by decide +kernel, by decide +kernel⟩
  have occupied : ∀ tree ∈ profile.hashTrees, tree.packages ≠ [] := by
    intro tree member
    rw [List.mem_singleton.mp member]
    exact List.cons_ne_nil _ _
  have writable : files.Writable (store.pathFor profile.description) := by
    unfold Files.Writable
    decide +kernel
  obtain ⟨-, stored, loaded⟩ := load_of_save store profile files
  obtain ⟨path, after, saved⟩ := stored.mpr ⟨List.cons_ne_nil _ _, occupied, writable⟩
  exact ⟨fits, path, after, saved, loaded fits path after saved⟩

end LibPrint.ProfileStore
