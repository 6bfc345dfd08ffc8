import LibPrint.Proofs.HashTree.Meaning
import Mathlib.Data.Finset.Basic
import Mathlib.Data.Finset.Dedup
import Mathlib.Logic.Relation

/-!
# Trees as nested sets

Where siblings of equal digest are kept once, all a tree says through its hashes is a set of
packages, each a set of classes, each a set of descriptors. Whatever is listed over again, a method,
a class or a package as a whole, leaves that set as it is, and so every hash.
-/

namespace LibPrint

namespace HashTree

/-! ## The nested set -/

section Gist

variable (recipe : Recipe) (hierarchy : Hierarchy)

/-- The descriptors of the methods of a class that take part. -/
def classGist (info : ClassInfo) : Finset String :=
  ((recipe.methodsOf info).map (hierarchy.fuzzyDescriptor info)).toFinset

/-- What the classes of a package that take part say. -/
def packageGist (classes : List ClassInfo) (package : String) : Finset (Finset String) :=
  ((classes.filter fun info => recipe.AdmitsClass info ∧ info.package = package).map
    (classGist recipe hierarchy)).toFinset

/-- What the packages with a class that takes part say. -/
def gist (classes : List ClassInfo) : Finset (Finset (Finset String)) :=
  ((classes.filter (recipe.AdmitsClass ·)).map fun info =>
    packageGist recipe hierarchy classes info.package).toFinset

variable {recipe hierarchy} {classes others : List ClassInfo} {package : String}

theorem mem_classGist {info : ClassInfo} {text : String} :
    text ∈ classGist recipe hierarchy info ↔
      ∃ method ∈ recipe.methodsOf info, hierarchy.fuzzyDescriptor info method = text := by
  rw [classGist, List.mem_toFinset, List.mem_map]

theorem mem_packageGist {texts : Finset String} :
    texts ∈ packageGist recipe hierarchy classes package ↔
      ∃ info ∈ classes, recipe.AdmitsClass info ∧ info.package = package ∧
        classGist recipe hierarchy info = texts := by
  simp only [packageGist, List.mem_toFinset, List.mem_map, List.mem_filter, decide_eq_true_eq,
    and_assoc]

theorem mem_gist {sets : Finset (Finset String)} :
    sets ∈ gist recipe hierarchy classes ↔
      ∃ info ∈ classes, recipe.AdmitsClass info ∧
        packageGist recipe hierarchy classes info.package = sets := by
  simp only [gist, List.mem_toFinset, List.mem_map, List.mem_filter, decide_eq_true_eq, and_assoc]

/-- A package has a class that takes part when it says something. -/
theorem packageGist_nonempty_iff :
    (packageGist recipe hierarchy classes package).Nonempty ↔
      ∃ info ∈ classes, recipe.AdmitsClass info ∧ info.package = package := by
  simp only [Finset.Nonempty, mem_packageGist]
  constructor
  · rintro ⟨-, info, member, admits, within, -⟩
    exact ⟨info, member, admits, within⟩
  · rintro ⟨info, member, admits, within⟩
    exact ⟨_, info, member, admits, within, rfl⟩

/-- Names of packages do not matter, only what each of them says. -/
theorem mem_gist_iff {sets : Finset (Finset String)} :
    sets ∈ gist recipe hierarchy classes ↔
      sets.Nonempty ∧ ∃ package, packageGist recipe hierarchy classes package = sets := by
  rw [mem_gist]
  constructor
  · rintro ⟨info, member, admits, rfl⟩
    exact ⟨packageGist_nonempty_iff.mpr ⟨info, member, admits, rfl⟩, _, rfl⟩
  · rintro ⟨occupied, package, rfl⟩
    obtain ⟨info, member, admits, rfl⟩ := packageGist_nonempty_iff.mp occupied
    exact ⟨info, member, admits, rfl⟩

theorem gist_congr
    (same : ∀ package, packageGist recipe hierarchy classes package =
      packageGist recipe hierarchy others package) :
    gist recipe hierarchy classes = gist recipe hierarchy others := by
  ext sets
  simp only [mem_gist_iff, same]

end Gist

/-! ## Digests of nested sets -/

section Digests

variable {hash : List UInt8 → Digest} {recipe : Recipe} (once : recipe.filterDups = true)
  {left right : Hierarchy} {classes others : List ClassInfo}
include once

theorem classDigest_of_classGist {info other : ClassInfo}
    (same : classGist recipe left info = classGist recipe right other) :
    classDigest hash recipe left info = classDigest hash recipe right other := by
  have mem_digests (hierarchy : Hierarchy) (info : ClassInfo) (digest : Digest) :
      digest ∈ (admitted recipe info).map (methodDigest hash hierarchy info) ↔
        ∃ text ∈ classGist recipe hierarchy info, hash (Text.encode text) = digest := by
    simp only [List.mem_map, admitted_eq_methodsOf, mem_classGist, exists_exists_and_eq_and,
      methodDigest]
  rw [classDigest, classDigest, methodDigests, methodDigests, once]
  congr 1
  apply Digest.canonical_eq_of_mem_iff
  intro digest
  rw [mem_digests, mem_digests, same]

/-- The digest of a package is told by what its classes say. -/
theorem packageDigest_of_packageGist {package counterpart : String}
    (same : packageGist recipe left classes package =
      packageGist recipe right others counterpart) :
    packageDigest hash recipe (contents hash recipe left classes) package =
      packageDigest hash recipe (contents hash recipe right others) counterpart := by
  have among {left right : Hierarchy} {classes others : List ClassInfo}
      {package counterpart : String}
      (same : packageGist recipe left classes package =
        packageGist recipe right others counterpart) {digest : Digest}
      (member : digest ∈
        ((contents hash recipe left classes).filter (·.1 == package)).map (·.2)) :
      digest ∈ ((contents hash recipe right others).filter (·.1 == counterpart)).map (·.2) := by
    obtain ⟨info, survivor, within, rfl⟩ := mem_digests_contents.mp member
    obtain ⟨listed, admits⟩ := mem_survivors.mp survivor
    have stated : classGist recipe left info ∈ packageGist recipe right others counterpart := by
      rw [← same]
      exact mem_packageGist.mpr ⟨info, listed, survives_iff_admitsClass.mp admits, within, rfl⟩
    obtain ⟨other, otherListed, otherAdmits, otherWithin, alike⟩ := mem_packageGist.mp stated
    exact mem_digests_contents.mpr
      ⟨other, mem_survivors.mpr ⟨otherListed, survives_iff_admitsClass.mpr otherAdmits⟩,
        otherWithin, classDigest_of_classGist once alike⟩
  rw [packageDigest, packageDigest, once]
  congr 1
  apply Digest.canonical_eq_of_mem_iff
  intro digest
  exact ⟨among same, among same.symm⟩

omit once in
theorem mem_packageDigests {hierarchy : Hierarchy} {digest : Digest} :
    digest ∈ packageDigests hash recipe (contents hash recipe hierarchy classes) ↔
      ∃ info ∈ survivors recipe classes,
        packageDigest hash recipe (contents hash recipe hierarchy classes) info.package =
          digest := by
  simp only [packageDigests, map_fst_contents, List.mem_map, Text.mem_sortDistinct,
    exists_exists_and_eq_and]

/-- The digests of all packages, in order, are told by what the packages say. -/
theorem digests_of_gist (same : gist recipe left classes = gist recipe right others) :
    Digest.canonical true (packageDigests hash recipe (contents hash recipe left classes)) =
      Digest.canonical true (packageDigests hash recipe (contents hash recipe right others)) := by
  have among {left right : Hierarchy} {classes others : List ClassInfo}
      (same : gist recipe left classes = gist recipe right others) {digest : Digest}
      (member : digest ∈ packageDigests hash recipe (contents hash recipe left classes)) :
      digest ∈ packageDigests hash recipe (contents hash recipe right others) := by
    obtain ⟨info, survivor, rfl⟩ := mem_packageDigests.mp member
    obtain ⟨listed, admits⟩ := mem_survivors.mp survivor
    have stated : packageGist recipe left classes info.package ∈ gist recipe right others := by
      rw [← same]
      exact mem_gist.mpr ⟨info, listed, survives_iff_admitsClass.mp admits, rfl⟩
    obtain ⟨other, otherListed, otherAdmits, alike⟩ := mem_gist.mp stated
    exact mem_packageDigests.mpr
      ⟨other, mem_survivors.mpr ⟨otherListed, survives_iff_admitsClass.mpr otherAdmits⟩,
        packageDigest_of_packageGist once alike⟩
  apply Digest.canonical_eq_of_mem_iff
  intro digest
  exact ⟨among same, among same.symm⟩

end Digests

/-! ## Saying something over again -/

end HashTree

/-- Two records of a class whose methods are the same up to their order and number. -/
structure ClassInfo.Repeated (info other : ClassInfo) : Prop where
  name : info.name = other.name
  superclass : info.superclass = other.superclass
  isApp : info.isApp = other.isApp
  methods : ∀ method, method ∈ info.methods ↔ method ∈ other.methods

namespace HashTree

/-- The second list of classes is the first in another order or with something listed over again. -/
inductive Repeats (recipe : Recipe) (hierarchy : Hierarchy) :
    List ClassInfo → List ClassInfo → Prop where
  | methods {classes others : List ClassInfo}
      (paired : List.Forall₂ ClassInfo.Repeated classes others) :
      Repeats recipe hierarchy classes others
  | classes {classes others : List ClassInfo}
      (members : ∀ info, info ∈ classes ↔ info ∈ others) :
      Repeats recipe hierarchy classes others
  /-- All that a package says is said by classes of another name. -/
  | package {classes copies : List ClassInfo} {package copy : String}
      (fresh : ∀ info ∈ classes, info.package ≠ copy)
      (moved : ∀ info ∈ copies, info.package = copy)
      (same : packageGist recipe hierarchy copies copy =
        packageGist recipe hierarchy classes package) :
      Repeats recipe hierarchy classes (copies ++ classes)

section Repeats

variable {recipe : Recipe} {hierarchy : Hierarchy} {classes others : List ClassInfo}

theorem mem_methodsOf_of_repeated {info other : ClassInfo} (repeated : info.Repeated other)
    (method : Method) : method ∈ recipe.methodsOf info ↔ method ∈ recipe.methodsOf other := by
  rw [Recipe.methodsOf, Recipe.methodsOf, List.mem_filter, List.mem_filter, repeated.methods]

theorem admitsClass_of_repeated {info other : ClassInfo} (repeated : info.Repeated other) :
    recipe.AdmitsClass info ↔ recipe.AdmitsClass other := by
  have fingerprintable : info.isFingerprintable = other.isFingerprintable := by
    simp only [ClassInfo.isFingerprintable, ClassInfo.isResource, ClassInfo.simpleName,
      repeated.name, repeated.isApp]
  have inner : info.isInner = other.isInner := by
    simp only [ClassInfo.isInner, repeated.name]
  have methods : (∃ method ∈ info.methods, recipe.AdmitsMethod method) ↔
      ∃ method ∈ other.methods, recipe.AdmitsMethod method := by
    simp only [repeated.methods]
  constructor
  · rintro ⟨first, second, third⟩
    exact ⟨fingerprintable ▸ first, inner ▸ second, methods.mp third⟩
  · rintro ⟨first, second, third⟩
    exact ⟨fingerprintable ▸ first, inner ▸ second, methods.mpr third⟩

/-- A descriptor depends on the name of a class and not on what else is recorded of it. -/
theorem fuzzyDescriptor_of_name {info other : ClassInfo} (name : info.name = other.name)
    (method : Method) :
    hierarchy.fuzzyDescriptor info method = hierarchy.fuzzyDescriptor other method := by
  obtain ⟨_, _, _, _⟩ := info
  obtain ⟨_, _, _, _⟩ := other
  subst name
  rfl

theorem classGist_of_repeated {info other : ClassInfo} (repeated : info.Repeated other) :
    classGist recipe hierarchy info = classGist recipe hierarchy other := by
  ext text
  simp only [mem_classGist, mem_methodsOf_of_repeated repeated,
    fuzzyDescriptor_of_name repeated.name]

theorem packageGist_of_repeated (paired : List.Forall₂ ClassInfo.Repeated classes others)
    (package : String) :
    packageGist recipe hierarchy classes package = packageGist recipe hierarchy others package := by
  have package_of_repeated {info other : ClassInfo} (repeated : info.Repeated other) :
      info.package = other.package := congrArg Package.parent repeated.name
  ext texts
  rw [mem_packageGist, mem_packageGist]
  constructor
  · rintro ⟨info, member, admits, within, rfl⟩
    obtain ⟨other, otherMem, repeated⟩ := exists_mem_right_of_forall₂ paired member
    exact ⟨other, otherMem, (admitsClass_of_repeated repeated).mp admits,
      (package_of_repeated repeated).symm.trans within, (classGist_of_repeated repeated).symm⟩
  · rintro ⟨other, member, admits, within, rfl⟩
    obtain ⟨info, infoMem, repeated⟩ := exists_mem_left_of_forall₂ paired member
    exact ⟨info, infoMem, (admitsClass_of_repeated repeated).mpr admits,
      (package_of_repeated repeated).trans within, classGist_of_repeated repeated⟩

theorem packageGist_of_mem_iff (members : ∀ info, info ∈ classes ↔ info ∈ others)
    (package : String) :
    packageGist recipe hierarchy classes package = packageGist recipe hierarchy others package := by
  ext texts
  simp only [mem_packageGist, members]

/-- Classes of other packages do not matter for what a package says. -/
theorem packageGist_append_of_elsewhere {package : String}
    (elsewhere : ∀ info ∈ others, info.package ≠ package) :
    packageGist recipe hierarchy (classes ++ others) package =
      packageGist recipe hierarchy classes package := by
  ext texts
  simp only [mem_packageGist, List.mem_append]
  constructor
  · rintro ⟨info, listed | other, admits, within, stated⟩
    · exact ⟨info, listed, admits, within, stated⟩
    · exact absurd within (elsewhere info other)
  · rintro ⟨info, listed, rest⟩
    exact ⟨info, .inl listed, rest⟩

/-- A package that says what another one says adds nothing. -/
theorem gist_append_of_copies {copies : List ClassInfo} {package copy : String}
    (fresh : ∀ info ∈ classes, info.package ≠ copy)
    (moved : ∀ info ∈ copies, info.package = copy)
    (same : packageGist recipe hierarchy copies copy =
      packageGist recipe hierarchy classes package) :
    gist recipe hierarchy (copies ++ classes) = gist recipe hierarchy classes := by
  have atCopy : packageGist recipe hierarchy (copies ++ classes) copy =
      packageGist recipe hierarchy classes package :=
    (packageGist_append_of_elsewhere fresh).trans same
  have elsewhere {other : String} (different : other ≠ copy) :
      packageGist recipe hierarchy (copies ++ classes) other =
        packageGist recipe hierarchy classes other := by
    rw [packageGist_of_mem_iff fun _ => List.perm_append_comm.mem_iff]
    apply packageGist_append_of_elsewhere
    intro info member
    rw [moved info member]
    exact different.symm
  have unused : packageGist recipe hierarchy classes copy = ∅ := by
    rw [← Finset.not_nonempty_iff_eq_empty, packageGist_nonempty_iff]
    rintro ⟨info, member, -, within⟩
    exact fresh info member within
  ext sets
  rw [mem_gist_iff, mem_gist_iff]
  apply and_congr_right
  intro occupied
  constructor
  · rintro ⟨other, stated⟩
    by_cases isCopy : other = copy
    · exact ⟨package, by rw [← stated, isCopy, atCopy]⟩
    · exact ⟨other, by rw [← stated, elsewhere isCopy]⟩
  · rintro ⟨other, stated⟩
    have different : other ≠ copy := by
      rintro rfl
      rw [← stated, unused] at occupied
      exact Finset.not_nonempty_empty occupied
    exact ⟨other, by rw [elsewhere different, stated]⟩

/-- A single repetition changes nothing in what is said. -/
theorem gist_of_repeats (repeats : Repeats recipe hierarchy classes others) :
    gist recipe hierarchy classes = gist recipe hierarchy others := by
  cases repeats with
  | methods paired => exact gist_congr (packageGist_of_repeated paired)
  | classes members => exact gist_congr (packageGist_of_mem_iff members)
  | package fresh moved same => exact (gist_append_of_copies fresh moved same).symm

/-- Nor do any number of repetitions, one after another. -/
theorem gist_of_reflTransGen
    (repeats : Relation.ReflTransGen (Repeats recipe hierarchy) classes others) :
    gist recipe hierarchy classes = gist recipe hierarchy others := by
  induction repeats with
  | refl => rfl
  | tail _ last ih => exact ih.trans (gist_of_repeats last)

end Repeats

/-! ## Trees -/

/-- Two trees that agree in the root hash and the package hashes in their order. -/
structure SameDigests (left right : HashTree) : Prop where
  root : left.root.digest = right.root.digest
  packages : left.packages.map Node.digest = right.packages.map Node.digest

/-- Where siblings of equal digest are kept once, the hashes of a tree are told by the nested set of
descriptors, so that repeating methods, classes and packages, as often as one likes and in any
order, changes none of them. -/
theorem buildFrom_of_gist {config : TreeConfig} (once : config.recipe.filterDups = true)
    (hash : List UInt8 → Digest) (hierarchy : Hierarchy) (classes others : List ClassInfo) :
    (gist config.recipe hierarchy classes = gist config.recipe hierarchy others →
      SameDigests (buildFrom hash config hierarchy classes)
        (buildFrom hash config hierarchy others)) ∧
    (Relation.ReflTransGen (Repeats config.recipe hierarchy) classes others →
      SameDigests (buildFrom hash config hierarchy classes)
        (buildFrom hash config hierarchy others)) := by
  have of_gist (same : gist config.recipe hierarchy classes =
      gist config.recipe hierarchy others) :
      SameDigests (buildFrom hash config hierarchy classes)
        (buildFrom hash config hierarchy others) := by
    have digests : (buildFrom hash config hierarchy classes).packages.map Node.digest =
        (buildFrom hash config hierarchy others).packages.map Node.digest := by
      rw [map_digest_packages_buildFrom, map_digest_packages_buildFrom, once,
        digests_of_gist once same]
    refine ⟨?_, digests⟩
    rw [digest_root_buildFrom, digest_root_buildFrom, digests]
  exact ⟨of_gist, fun repeats => of_gist (gist_of_reflTransGen repeats)⟩

/-- A method is listed twice, then the package over again under another name, then one of its
classes twice and all of them in another order. -/
theorem buildFrom_of_gist_relisted :
    let get : Method := ⟨"get", .single .isPublic, false, false, [], ⟨"I"⟩⟩
    let put : Method := ⟨"put", .single .isPublic, false, false, [⟨"La/B"⟩], ⟨"V"⟩⟩
    let hierarchy := Hierarchy.ofClasses none [] Hierarchy.defaultFramework
    let recipe : Recipe := { Recipe.standard with filterDups := true }
    let classes : List ClassInfo := [⟨"a.B", none, true, [get, put]⟩, ⟨"a.C", none, true, [put]⟩]
    let others : List ClassInfo := [⟨"z.Y", none, true, [put, get]⟩, ⟨"a.C", none, true, [put]⟩,
      ⟨"z.X", none, true, [put]⟩, ⟨"a.C", none, true, [put]⟩, ⟨"a.B", none, true, [put, get, put]⟩]
    recipe.filterDups = true ∧ gist recipe hierarchy classes = gist recipe hierarchy others ∧
      Relation.ReflTransGen (Repeats recipe hierarchy) classes others ∧
      SameDigests (buildFrom recipe.algorithm.digest ⟨recipe, .normal⟩ hierarchy classes)
        (buildFrom recipe.algorithm.digest ⟨recipe, .normal⟩ hierarchy others) := by
  intro get put hierarchy recipe classes others
  let doubled : List ClassInfo :=
    [⟨"a.B", none, true, [put, get, put]⟩, ⟨"a.C", none, true, [put]⟩]
  let copies : List ClassInfo := [⟨"z.X", none, true, [put]⟩, ⟨"z.Y", none, true, [put, get]⟩]
  have first : Repeats recipe hierarchy classes doubled := by
    refine .methods (.cons ⟨rfl, rfl, rfl, ?_⟩ (.cons ⟨rfl, rfl, rfl, fun _ => .rfl⟩ .nil))
    intro method
    simp only [List.mem_cons, List.not_mem_nil, or_false]
    tauto
  have fresh : ∀ info ∈ doubled, info.package ≠ "z" := by decide +kernel
  have moved : ∀ info ∈ copies, info.package = "z" := by decide +kernel
  have same : packageGist recipe hierarchy copies "z" =
      packageGist recipe hierarchy doubled "a" := by decide +kernel
  have second : Repeats recipe hierarchy doubled (copies ++ doubled) := .package fresh moved same
  have third : Repeats recipe hierarchy (copies ++ doubled) others := by
    refine .classes ?_
    intro info
    simp only [copies, doubled, others, List.cons_append, List.nil_append, List.mem_cons,
      List.not_mem_nil, or_false]
    tauto
  have chain := ((Relation.ReflTransGen.single first).tail second).tail third
  have once : recipe.filterDups = true := rfl
  obtain ⟨-, of_repeats⟩ := @buildFrom_of_gist ⟨recipe, .normal⟩ once recipe.algorithm.digest
    hierarchy classes others
  exact ⟨once, by decide +kernel, chain, of_repeats chain⟩

end HashTree

end LibPrint
