import LibPrint.Proofs.Digest.Length
import LibPrint.Proofs.HashTree.Deduplication
import LibPrint.Proofs.Matching.Outcome

/-!
# Full containment with each digest kept once

A library that is fully contained by the digests of trees that keep repetitions is fully contained
by those of trees that do not, unless digests collide. The converse fails, since repetitions that
are left out may have been the difference.
-/

namespace LibPrint.Matching

open HashTree

/-- Full containment by digests is inherited by the trees in which each digest is kept once, for any
digest function with outputs of one length that does not collide on what is hashed for the trees
with repetitions. -/
theorem matchTrees_deduplicating (hash : List UInt8 → Digest) (width : Nat)
    (fixed : ∀ message, (hash message).bytes.length = width) (recipe : Recipe)
    (app lib : Hierarchy)
    (apart : Set.InjOn hash (messages hash recipe.repeating app app.appClasses ∪
      messages hash recipe.repeating lib lib.appClasses))
    (options : Options) (libRoot : Option String) (appLevel libLevel : Verboseness)
    (found : Inclusive (matchTrees options
      (buildFrom hash ⟨recipe.repeating, appLevel⟩ app app.appClasses)
      (buildFrom hash ⟨recipe.repeating, libLevel⟩ lib lib.appClasses) libRoot)) :
    Inclusive (matchTrees options
      (buildFrom hash ⟨recipe.deduplicating, appLevel⟩ app app.appClasses)
      (buildFrom hash ⟨recipe.deduplicating, libLevel⟩ lib lib.appClasses) libRoot) := by
  obtain ⟨-, occupied, contains⟩ := inclusive_iff.mp found
  refine inclusive_iff.mpr ⟨rfl, ?_, contains_iff.mpr ?_⟩
  · intro empty
    apply occupied
    rw [packages_buildFrom_eq_nil_iff] at empty ⊢
    exact empty
  · exact digests_deduplicating fixed apart (contains_iff.mp contains)

/-- What is hashed for a single class of two methods that have the descriptor of a getter, by the
light string hash. -/
private def getterMessages : List (List UInt8) :=
  [[40, 41, 73], [0, 0, 155, 104, 0, 0, 155, 104], [217, 89, 2, 150], [116, 95, 241, 55]]

private theorem messages_overloads {recipe : Recipe} {unit : Hierarchy} {info : ClassInfo}
    (single : survivors recipe.repeating unit.appClasses = [info])
    (descriptors : (admitted recipe.repeating info).map
      (fun method => Text.encode (unit.fuzzyDescriptor info method)) =
        [[40, 41, 73], [40, 41, 73]]) :
    messages Digest.Algorithm.legacy32.digest recipe.repeating unit unit.appClasses ⊆
        {message | message ∈ getterMessages} ∧
      ∀ level, (buildFrom Digest.Algorithm.legacy32.digest ⟨recipe.repeating, level⟩ unit
        unit.appClasses).packages.map Node.digest = [⟨[116, 95, 241, 55]⟩] := by
  have low : Digest.Algorithm.legacy32.digest [40, 41, 73] = ⟨[0, 0, 155, 104]⟩ := by
    decide +kernel
  have top : Digest.Algorithm.legacy32.digest [217, 89, 2, 150] = ⟨[116, 95, 241, 55]⟩ := by
    decide +kernel
  have hashed := congrArg (List.map Digest.Algorithm.legacy32.digest) descriptors
  rw [List.map_map, List.map_cons, List.map_singleton, low] at hashed
  have digests : methodDigests Digest.Algorithm.legacy32.digest recipe.repeating unit info =
      [⟨[0, 0, 155, 104]⟩, ⟨[0, 0, 155, 104]⟩] :=
    (congrArg (Digest.canonical false) hashed).trans (Digest.canonical_pair _)
  have message : classMessage Digest.Algorithm.legacy32.digest recipe.repeating unit info =
      [0, 0, 155, 104, 0, 0, 155, 104] := by
    rw [classMessage, digests]
    rfl
  have digest : classDigest Digest.Algorithm.legacy32.digest recipe.repeating unit info =
      ⟨[217, 89, 2, 150]⟩ := by
    rw [classDigest, digests]
    decide +kernel
  constructor
  · intro bytes needed
    rcases hashed_of_single single needed with ⟨method, admits, rfl⟩ | above
    · have descriptor := List.mem_map_of_mem (f := fun method =>
        Text.encode (unit.fuzzyDescriptor info method)) admits
      rw [descriptors] at descriptor
      have getter : Text.encode (unit.fuzzyDescriptor info method) = [40, 41, 73] := by
        simpa using descriptor
      rw [getter]
      exact List.mem_cons_self
    · rw [message, digest, top] at above
      exact List.mem_cons_of_mem _ above
  · intro level
    rw [digests_buildFrom_of_single single level, digest, top]

/-- The two methods of a class differ in their names alone, so their digest occurs twice. -/
theorem matchTrees_deduplicating_overloads :
    let get : Method := ⟨"get", .single .isPublic, false, false, [], ⟨"I"⟩⟩
    let put : Method := ⟨"put", .single .isPublic, false, false, [], ⟨"I"⟩⟩
    let recipe : Recipe := ⟨.legacy32, AccessFlags.none, false, false⟩
    let hash := recipe.algorithm.digest
    let app := Hierarchy.ofClasses none [⟨"x.Y", none, true, [get, put]⟩] Hierarchy.defaultFramework
    let lib := Hierarchy.ofClasses none [⟨"a.B", none, true, [put, get]⟩] Hierarchy.defaultFramework
    (∀ message, (hash message).bytes.length = 4) ∧
      Set.InjOn hash (messages hash recipe.repeating app app.appClasses ∪
        messages hash recipe.repeating lib lib.appClasses) ∧
      Inclusive (matchTrees ⟨none, true⟩ (build ⟨recipe.repeating, .normal⟩ app)
        (build ⟨recipe.repeating, .trace⟩ lib) none) ∧
      Inclusive (matchTrees ⟨none, true⟩ (build ⟨recipe.deduplicating, .normal⟩ app)
        (build ⟨recipe.deduplicating, .trace⟩ lib) none) := by
  intro get put recipe hash app lib
  have fixed (message : List UInt8) : (hash message).bytes.length = 4 :=
    Digest.Algorithm.length_digest .legacy32 message
  have appSingle : survivors recipe.repeating app.appClasses = [⟨"x.Y", none, true, [get, put]⟩] := by
    decide +kernel
  have libSingle : survivors recipe.repeating lib.appClasses = [⟨"a.B", none, true, [put, get]⟩] := by
    decide +kernel
  obtain ⟨appKnown, appDigests⟩ := messages_overloads appSingle (by decide +kernel)
  obtain ⟨libKnown, libDigests⟩ := messages_overloads libSingle (by decide +kernel)
  have apart : Set.InjOn hash (messages hash recipe.repeating app app.appClasses ∪
      messages hash recipe.repeating lib lib.appClasses) := by
    have different : ∀ first ∈ getterMessages, ∀ second ∈ getterMessages,
        hash first = hash second → first = second := by decide +kernel
    have known := Set.union_subset appKnown libKnown
    intro first firstMem second secondMem equal
    exact different first (known firstMem) second (known secondMem) equal
  have found : Inclusive (matchTrees ⟨none, true⟩ (build ⟨recipe.repeating, .normal⟩ app)
      (build ⟨recipe.repeating, .trace⟩ lib) none) := by
    have appPackages : (build ⟨recipe.repeating, .normal⟩ app).packages.map Node.digest =
        [⟨[116, 95, 241, 55]⟩] := appDigests .normal
    have libPackages : (build ⟨recipe.repeating, .trace⟩ lib).packages.map Node.digest =
        [⟨[116, 95, 241, 55]⟩] := libDigests .trace
    refine inclusive_iff.mpr ⟨rfl, ?_, ?_⟩
    · intro empty
      rw [empty] at libPackages
      cases libPackages
    · rw [contains_iff, appPackages, libPackages]
      exact fun _ member => member
  exact ⟨fixed, apart, found,
    matchTrees_deduplicating hash 4 fixed recipe app lib apart ⟨none, true⟩ none .normal .trace found⟩

end LibPrint.Matching
