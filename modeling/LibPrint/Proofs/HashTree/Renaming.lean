import LibPrint.Proofs.Code.Renaming
import LibPrint.Proofs.HashTree.Content

/-!
# Trees do not see names

Renaming the classes of a unit leaves all hashes of its tree as they are: descriptors are the same,
the classes that are left are the same, and packages enter a hash only through which classes share
one. The order of siblings may change, but only among siblings of equal hash.
-/

namespace LibPrint.HashTree

variable {hierarchy copy : Hierarchy} {names : String → String}
variable (hash : List UInt8 → Digest) (recipe : Recipe)

/-! ## Classes -/

theorem admitted_renamed {info twin : ClassInfo}
    (same : hierarchy.RenamedClass names info twin) :
    List.Forall₂ (hierarchy.RenamedMethod names) (admitted recipe info)
      (admitted recipe twin) := by
  apply List.rel_filter _ same.methods
  intro method other sameMethod
  simp only [sameMethod.isSynthetic, sameMethod.access]

/-- Whether a class is left does not depend on names. -/
theorem survives_renamed (respects : hierarchy.Respects names) {info twin : ClassInfo}
    (member : info ∈ hierarchy.classes) (same : hierarchy.RenamedClass names info twin) :
    survives recipe info = survives recipe twin := by
  cases isApp : info.isApp with
  | false =>
      have twinIsApp := same.isApp.symm.trans isApp
      simp [survives, ClassInfo.isFingerprintable, isApp, twinIsApp]
  | true =>
      have owned := Hierarchy.mem_own.mpr ⟨member, isApp⟩
      have name := same.name.trans (Hierarchy.newName_of_own owned)
      have resource : info.isResource = twin.isResource := by
        rw [respects.isResource info owned]
        simp only [ClassInfo.isResource, ClassInfo.simpleName, name]
        rfl
      have inner : info.isInner = twin.isInner := by
        rw [respects.isInner info owned]
        simp only [ClassInfo.isInner, name]
        rfl
      have methods : (admitted recipe info).isEmpty = (admitted recipe twin).isEmpty := by
        have lengths := (admitted_renamed recipe same).length_eq
        rw [Bool.eq_iff_iff, List.isEmpty_iff_length_eq_zero, List.isEmpty_iff_length_eq_zero,
          lengths]
      simp only [survives, ClassInfo.isFingerprintable, same.isApp, resource, inner, methods]

/-- The digests of a class's methods are the same afterwards. -/
theorem methodDigests_renamed (renamed : hierarchy.Renamed names copy)
    (respects : hierarchy.Respects names) (distinct : hierarchy.Distinct)
    {info twin : ClassInfo} (member : info ∈ hierarchy.own)
    (same : hierarchy.RenamedClass names info twin) :
    methodDigests hash recipe hierarchy info = methodDigests hash recipe copy twin := by
  have digests : (admitted recipe info).map (methodDigest hash hierarchy info) =
      (admitted recipe twin).map (methodDigest hash copy twin) := by
    apply map_eq_map_of_forall₂ (forall₂_and_mem (admitted_renamed recipe same))
    rintro method other ⟨methodMem, sameMethod⟩
    have declared := (List.mem_filter.mp methodMem).1
    rw [methodDigest, methodDigest,
      renamed.fuzzyDescriptor respects distinct member same declared sameMethod]
  rw [methodDigests, methodDigests, digests]

/-- The classes that are left are the new forms of those that were left, in the same order. -/
theorem survivors_renamed (renamed : hierarchy.Renamed names copy)
    (respects : hierarchy.Respects names) :
    List.Forall₂ (fun info twin => info ∈ hierarchy.own ∧ hierarchy.RenamedClass names info twin)
      (survivors recipe hierarchy.classes) (survivors recipe copy.classes) := by
  have kept : List.Forall₂
      (fun info twin => info ∈ hierarchy.classes ∧ hierarchy.RenamedClass names info twin)
      (survivors recipe hierarchy.classes) (survivors recipe copy.classes) := by
    apply List.rel_filter _ (forall₂_and_mem renamed.classes)
    rintro info twin ⟨member, same⟩
    exact Bool.eq_iff_iff.mp (survives_renamed recipe respects member same)
  refine (forall₂_and_mem kept).imp ?_
  rintro info twin ⟨left, member, same⟩
  have fingerprintable := isFingerprintable_of_survives (mem_survivors.mp left).2
  simp only [ClassInfo.isFingerprintable, Bool.and_eq_true] at fingerprintable
  exact ⟨Hierarchy.mem_own.mpr ⟨member, fingerprintable.1⟩, same⟩

/-! ## Trees -/

/-- Renaming leaves the package digests as they are, up to their order. -/
theorem packageDigests_renamed (renamed : hierarchy.Renamed names copy)
    (respects : hierarchy.Respects names) (distinct : hierarchy.Distinct) :
    (packageDigests hash recipe (contents hash recipe hierarchy hierarchy.classes)).Perm
      (packageDigests hash recipe (contents hash recipe copy copy.classes)) := by
  obtain ⟨pairs, left, right, related⟩ :=
    exists_pairs_of_forall₂ (survivors_renamed recipe renamed respects)
  let classes := pairs.map fun pair =>
    (pair.1.package, pair.2.package, classDigest hash recipe hierarchy pair.1)
  have before : contents hash recipe hierarchy hierarchy.classes =
      classes.map fun info => (info.1, info.2.2) := by
    simp only [contents, ← left, classes, List.map_map]
    rfl
  have after : contents hash recipe copy copy.classes = classes.map fun info => info.2 := by
    simp only [contents, ← right, classes, List.map_map]
    apply List.map_congr_left
    intro pair member
    obtain ⟨owned, same⟩ := related pair member
    have digests := methodDigests_renamed hash recipe renamed respects distinct owned same
    simp only [Function.comp_apply, classDigest, digests]
  rw [before, after]
  apply packageDigests_regroup
  intro first firstMem second secondMem
  obtain ⟨pair, pairMem, rfl⟩ := List.mem_map.mp firstMem
  obtain ⟨other, otherMem, rfl⟩ := List.mem_map.mp secondMem
  obtain ⟨pairOwned, pairSame⟩ := related pair pairMem
  obtain ⟨otherOwned, otherSame⟩ := related other otherMem
  simp only [ClassInfo.package, pairSame.name, otherSame.name,
    Hierarchy.newName_of_own pairOwned, Hierarchy.newName_of_own otherOwned]
  exact respects.package pair.1 pairOwned other.1 otherOwned

/-- A tree keeps its root hash, its counts and the sequence of its package hashes when the classes
of the unit are renamed. -/
theorem sameHashes_build_of_renamed (config : TreeConfig)
    (renamed : hierarchy.Renamed names copy) (respects : hierarchy.Respects names)
    (distinct : hierarchy.Distinct) :
    SameHashes (build config hierarchy) (build config copy) := by
  apply sameHashes_buildFrom
  · rw [contents, contents, survivors_appClasses, survivors_appClasses]
    exact packageDigests_renamed _ config.recipe renamed respects distinct
  · rw [survivors_appClasses, survivors_appClasses]
    apply map_eq_map_of_forall₂ (survivors_renamed config.recipe renamed respects)
    rintro info twin ⟨owned, same⟩
    rw [methodDigests_renamed _ config.recipe renamed respects distinct owned same]

/-- A class, its anonymous class that passes the superclass, and an anonymous class of an unknown
one, under two namings. -/
def nestedDump (outer base anonymous orphan method : String) : Hierarchy :=
  let reference (name : String) : TypeRef := TypeRef.ofClassName name
  Hierarchy.ofClasses none
    [⟨outer, some base, true,
        [⟨method, .single .isPublic, false, false, [reference base, ⟨"I"⟩], reference outer⟩]⟩,
      ⟨base, some "java.lang.Object", true, []⟩,
      ⟨anonymous, none, true,
        [⟨"<init>", .single .isPackage, false, false,
          [reference outer, reference base, ⟨"[Ljava/lang/String"⟩], ⟨"V"⟩⟩]⟩,
      ⟨orphan, none, true,
        [⟨method, .single .isPublic, true, false, [⟨"Lorg/dep/Base"⟩], ⟨"Z"⟩⟩]⟩]
    Hierarchy.defaultFramework

/-- The two namings of `nestedDump` give the same hashes. -/
theorem sameHashes_build_of_renamed_nested :
    let before := nestedDump "com.fb.Outer" "com.fb.Base" "com.fb.Outer$1" "com.util.Lost$2" "run"
    let after := nestedDump "x.b" "x.a" "x.b$3" "y.a$1" "a"
    let names (name : String) : String :=
      if name = "com.fb.Outer" then "x.b" else if name = "com.fb.Base" then "x.a"
      else if name = "com.fb.Outer$1" then "x.b$3" else "y.a$1"
    before.Renamed names after ∧ before.Respects names ∧ before.Distinct ∧
      SameHashes (build .standard before) (build .standard after) := by
  intro before after names
  have renamed : before.Renamed names after := by
    refine ⟨rfl, .cons ⟨?_, ?_, ?_, .cons ⟨?_, ?_, ?_, ?_, ?_, ?_⟩ .nil⟩ (.cons ⟨?_, ?_, ?_, .nil⟩
      (.cons ⟨?_, ?_, ?_, .cons ⟨?_, ?_, ?_, ?_, ?_, ?_⟩ .nil⟩
        (.cons ⟨?_, ?_, ?_, .cons ⟨?_, ?_, ?_, ?_, ?_, ?_⟩ .nil⟩ .nil)))⟩
    all_goals decide +kernel
  have respects : before.Respects names := by
    have referable : (before.own.all fun info =>
        names info.name != "" && (names info.name).toList.all (· != '/')) = true := by
      decide +kernel
    constructor
    case referable => simpa using referable
    all_goals decide +kernel
  have distinct : before.Distinct := by
    unfold Hierarchy.Distinct
    decide +kernel
  exact ⟨renamed, respects, distinct,
    sameHashes_build_of_renamed .standard renamed respects distinct⟩

end LibPrint.HashTree
