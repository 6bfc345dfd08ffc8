import LibPrint.Proofs.Matching.Mirror
import LibPrint.Proofs.Package.Shared

/-!
# Renaming the packages of an app

An obfuscator may call the packages of an app whatever it likes. As long as they stay as deep as
they were and share as many segments with each other as before, the candidates mirror each other,
and the score of a library is the same. Two things are taken for granted in this: that a name is
what its segments spell, since nesting is read off the characters, and that the candidate lists come
in the order they came in before, since only neighbours among them are checked. Lists whose best
candidates score the same are ordered by the names of these.
-/

namespace LibPrint.Matching

open Package (Spelled ancestorAt? depth isWithin sharedSegments)

/-- A node afterwards. All that is compared is as it was; the name of a package is new. -/
structure RenamedNode (rename : String → String) (node copy : Node) : Prop where
  digest : node.digest = copy.digest
  level : node.level = copy.level
  children : node.children.map Node.digest = copy.children.map Node.digest
  name : copy.packageName? = node.packageName?.map rename

/-- A tree afterwards. Its packages may come in another order. -/
structure RenamedTree (rename : String → String) (app copy : HashTree) : Prop where
  config : app.config = copy.config
  packages : ∃ arranged, List.Forall₂ (RenamedNode rename) app.packages arranged ∧
    arranged.Perm copy.packages

/-- What a renaming has to keep of the names: depths, and how many leading segments two of them
share. Names are what their segments spell, so different ones stay different. -/
structure KeepsShape (rename : String → String) (names : List String) : Prop where
  spelled : ∀ name ∈ names, Spelled name ∧ Spelled (rename name)
  depth : ∀ name ∈ names, depth (rename name) = depth name
  shared : ∀ name ∈ names, ∀ other ∈ names,
    sharedSegments (rename name) (rename other) = sharedSegments name other

/-- Neither the names nor what they become are at or below the package. -/
def Away (rename : String → String) (names : List String) (root : String) : Prop :=
  ∀ name ∈ names, isWithin name root = false ∧ isWithin (rename name) root = false

instance (rename : String → String) (names : List String) (root : String) :
    Decidable (Away rename names root) :=
  inferInstanceAs (Decidable (∀ name ∈ names, _ ∧ _))

/-- A candidate with one of the names, and the same candidate under its new name. -/
structure RenamedCandidate (rename : String → String) (names : List String)
    (candidate copy : Candidate) : Prop where
  known : candidate.package ∈ names
  name : copy.package = rename candidate.package
  score : candidate.score = copy.score

variable {rename : String → String}

/-- Candidates under new names lie to each other as they did. -/
theorem KeepsShape.mirrors {names : List String} (keeps : KeepsShape rename names) :
    Mirrors (RenamedCandidate rename names) := by
  refine ⟨fun pair => pair.score, ?_⟩
  intro left image right other first second
  obtain ⟨leftSpelled, imageSpelled⟩ := keeps.spelled _ first.known
  obtain ⟨rightSpelled, otherSpelled⟩ := keeps.spelled _ second.known
  rw [first.name, second.name, Package.relationship_of_spelled leftSpelled rightSpelled,
    Package.relationship_of_spelled imageSpelled otherSpelled, keeps.depth _ first.known,
    keeps.depth _ second.known, keeps.shared _ first.known _ second.known]

/-- The similarity to a library node is that of before. -/
theorem similarity_renamed (lib : Node) {node copy : Node} (same : RenamedNode rename node copy) :
    similarity lib node = similarity lib copy := by
  have shared : sharedChildren lib node = sharedChildren lib copy := by
    apply List.countP_congr
    intro child _
    rw [Node.hasDigest_iff, Node.hasDigest_iff, same.children]
  rw [similarity, similarity, same.level, same.digest, shared]

section Trees

variable {app copy lib : HashTree} {excluded : Option String} {libRoot : String}

/-- Every package of the app has its new form, and every package afterwards is one. -/
theorem RenamedTree.digests_perm (renamed : RenamedTree rename app copy) :
    (app.packages.map Node.digest).Perm (copy.packages.map Node.digest) := by
  obtain ⟨arranged, copies, perm⟩ := renamed.packages
  rw [map_eq_map_of_forall₂ copies fun _ _ same => same.digest]
  exact perm.map _

theorem RenamedTree.contains_iff (renamed : RenamedTree rename app copy) :
    Contains app lib ↔ Contains copy lib := by
  simp only [Contains, renamed.digests_perm.mem_iff]

/-- Names afterwards are the new names. -/
theorem RenamedTree.mem_names_iff (renamed : RenamedTree rename app copy) {name : String} :
    name ∈ copy.packageNames ↔ ∃ other ∈ app.packageNames, rename other = name := by
  obtain ⟨arranged, copies, perm⟩ := renamed.packages
  have names : arranged.filterMap Node.packageName? = app.packageNames.map rename := by
    rw [HashTree.packageNames, List.map_filterMap, ← List.forall₂_eq_eq_eq]
    apply List.rel_filterMap _ copies.flip
    intro image node same
    have named : image.packageName? = node.packageName?.map rename := same.name
    simp only [named]
    cases node.packageName? with
    | none => exact .none
    | some name => exact .some rfl
  rw [HashTree.packageNames, ← (perm.filterMap _).mem_iff, names, List.mem_map]

/-- Packages that are eligible stay so under their new names. -/
theorem RenamedTree.eligible (renamed : RenamedTree rename app copy)
    (away : ∀ root ∈ excluded, Away rename app.packageNames root) :
    ∃ arranged, arranged.Perm (eligible excluded copy.packages) ∧
      List.Forall₂ (fun entry image => RenamedNode rename entry.1 image.1 ∧
          entry.2 ∈ app.packageNames ∧ image.2 = rename entry.2)
        (eligible excluded app.packages) arranged := by
  obtain ⟨arranged, copies, perm⟩ := renamed.packages
  refine ⟨Matching.eligible excluded arranged, perm.filterMap _, ?_⟩
  apply List.rel_filterMap _ (forall₂_and_mem copies)
  rintro node image ⟨member, same⟩
  simp only [same.name]
  cases named : node.packageName? with
  | none => exact .none
  | some name =>
      have known : name ∈ app.packageNames := mem_packageNames.mpr ⟨node, member, named⟩
      have outside : (excluded.any fun root => isWithin name root) = false := by
        cases excluded with
        | none => rfl
        | some root => exact (away root rfl name known).1
      have outsideToo : (excluded.any fun root => isWithin (rename name) root) = false := by
        cases excluded with
        | none => rfl
        | some root => exact (away root rfl name known).2
      simp only [Option.map_some, outside, outsideToo]
      exact .some ⟨same, known, rfl⟩

/-- The candidates for a library node correspond to those of before. -/
theorem RenamedTree.corresponds (renamed : RenamedTree rename app copy)
    (away : ∀ root ∈ excluded, Away rename app.packageNames root) (lib : Node) :
    Corresponds (RenamedCandidate rename app.packageNames)
      (candidatesFor (Matching.eligible excluded app.packages) lib)
      (candidatesFor (Matching.eligible excluded copy.packages) lib) := by
  obtain ⟨arranged, perm, entries⟩ := renamed.eligible away
  rw [candidatesFor_eq, candidatesFor_eq]
  apply Corresponds.of_perm (List.mergeSort_perm _ _)
  have found := perm.filterMap fun entry => Candidate.of? lib entry.1 entry.2
  refine ⟨_, ?_, found.trans (List.mergeSort_perm _ _).symm⟩
  apply List.rel_filterMap _ entries
  rintro ⟨node, name⟩ ⟨image, newName⟩ ⟨same, known, rfl⟩
  simp only [Candidate.of?, ← similarity_renamed lib same]
  split
  · exact .some ⟨known, rfl, rfl⟩
  · exact .none

/-! ## Partitions -/

/-- Ancestors of a name and of the new name hold the same candidates. -/
theorem RenamedTree.mirroredAt (renamed : RenamedTree rename app copy)
    (keeps : KeepsShape rename app.packageNames)
    (away : ∀ root ∈ excluded, Away rename app.packageNames root)
    (order : (candidateLists lib.packages copy.packages excluded).map (·.node) =
      (candidateLists lib.packages app.packages excluded).map (·.node))
    {name partition image : String} {count : Nat} (known : name ∈ app.packageNames)
    (cut : ancestorAt? name count = some partition)
    (imageCut : ancestorAt? (rename name) count = some image) :
    MirroredAt (RenamedCandidate rename app.packageNames) partition image
      (candidateLists lib.packages app.packages excluded)
      (candidateLists lib.packages copy.packages excluded) := by
  have fitted {candidate other : Candidate} (list : String)
      (pair : RenamedCandidate rename app.packageNames candidate other) :
      fits partition list candidate = fits image list other := by
    obtain ⟨spelled, spelledToo⟩ := keeps.spelled _ pair.known
    have within : isWithin candidate.package partition = isWithin other.package image := by
      rw [Bool.eq_iff_iff, pair.name, Package.isWithin_ancestor_iff cut spelled,
        Package.isWithin_ancestor_iff imageCut spelledToo, keeps.shared _ known _ pair.known]
    rw [fits, fits, within, pair.name, keeps.depth _ pair.known]
  have paired : List.Forall₂ (fun left right : CandidateList => left.node = right.node)
      (candidateLists lib.packages app.packages excluded)
      (candidateLists lib.packages copy.packages excluded) := by
    have same := List.forall₂_eq_eq_eq ▸ order.symm
    rwa [List.forall₂_map_left_iff, List.forall₂_map_right_iff] at same
  have members := forall₂_and_mem (forall₂_and_mem paired).flip
  refine members.flip.imp ?_
  rintro left right ⟨rightMem, leftMem, same⟩
  obtain ⟨-, leftNamed, leftCandidates⟩ := mem_candidateLists.mp leftMem
  obtain ⟨-, rightNamed, rightCandidates⟩ := mem_candidateLists.mp rightMem
  have package : left.package = right.package := by
    rw [same, rightNamed] at leftNamed
    exact (Option.some.inj leftNamed).symm
  refine ⟨package, ?_⟩
  rw [CandidateList.within, CandidateList.within, leftCandidates, rightCandidates, same, package]
  exact (renamed.corresponds away _).filter (fitted _)

/-- When the app has nothing at or below the library's root, all ancestors are partitions. -/
theorem mem_partitions_of_away
    (away : ∀ name ∈ app.packageNames, Spelled name ∧ isWithin name libRoot = false)
    {partition : String} :
    partition ∈ partitions app.packages libRoot ↔
      ∃ name ∈ app.packageNames, ancestorAt? name (depth libRoot) = some partition := by
  have named : partition ∈ ancestors app.packages libRoot ↔
      ∃ name ∈ app.packageNames, ancestorAt? name (depth libRoot) = some partition := by
    rw [mem_ancestors]
    constructor
    · rintro ⟨node, member, name, named, cut⟩
      exact ⟨name, mem_packageNames.mpr ⟨node, member, named⟩, cut⟩
    · rintro ⟨name, known, cut⟩
      obtain ⟨node, member, named⟩ := mem_packageNames.mp known
      exact ⟨node, member, name, named, cut⟩
  have outside : ∀ other ∈ ancestors app.packages libRoot, isWithin other libRoot = false := by
    intro other member
    obtain ⟨node, present, name, named, cut⟩ := mem_ancestors.mp member
    obtain ⟨spelled, outside⟩ := away name (mem_packageNames.mpr ⟨node, present, named⟩)
    exact Package.not_isWithin_of_ancestor cut spelled outside
  rw [mem_partitions_iff, ← named]
  exact and_iff_left (.inr outside)

end Trees

/-! ## The match -/

section Match

variable {options : Options} {app copy lib : HashTree}

theorem verdict_renamed {libRoot : String} (renamed : RenamedTree rename app copy)
    (keeps : KeepsShape rename app.packageNames)
    (awayFromRoot : Away rename app.packageNames libRoot)
    (away : ∀ root ∈ options.appPackage, Away rename app.packageNames root)
    (order : (candidateLists lib.packages copy.packages options.appPackage).map (·.node) =
      (candidateLists lib.packages app.packages options.appPackage).map (·.node)) :
    (partialMatch options copy lib libRoot).verdict =
      (partialMatch options app lib libRoot).verdict := by
  have before : ∀ name ∈ app.packageNames, Spelled name ∧ isWithin name libRoot = false :=
    fun name known => ⟨(keeps.spelled name known).1, (awayFromRoot name known).1⟩
  have after : ∀ name ∈ copy.packageNames, Spelled name ∧ isWithin name libRoot = false := by
    intro name isNew
    obtain ⟨other, known, rfl⟩ := renamed.mem_names_iff.mp isNew
    exact ⟨(keeps.spelled other known).2, (awayFromRoot other known).2⟩
  apply verdict_eq_of_matched
  · intro found member
    obtain ⟨isPartition, best⟩ := mem_alignments.mp member
    obtain ⟨name, known, cut⟩ := (mem_partitions_of_away before).mp isPartition
    obtain ⟨image, imageCut⟩ :=
      Package.exists_ancestor_of_depth_eq (keeps.depth name known).symm cut
    have mirrored := renamed.mirroredAt keeps away order known cut imageCut
    obtain ⟨reached, selection, matched, atLeast⟩ := mirrored.exists_bestAt keeps.mirrors best
    have tried := (mem_partitions_of_away after).mpr
      ⟨_, renamed.mem_names_iff.mpr ⟨name, known, rfl⟩, imageCut⟩
    exact ⟨⟨image, reached, selection⟩, mem_alignments.mpr ⟨tried, matched⟩, atLeast⟩
  · intro found member
    obtain ⟨isPartition, best⟩ := mem_alignments.mp member
    obtain ⟨_, isNew, imageCut⟩ := (mem_partitions_of_away after).mp isPartition
    obtain ⟨name, known, rfl⟩ := renamed.mem_names_iff.mp isNew
    obtain ⟨partition, cut⟩ :=
      Package.exists_ancestor_of_depth_eq (keeps.depth name known) imageCut
    have mirrored := (renamed.mirroredAt keeps away order known cut imageCut).flip
    obtain ⟨reached, selection, matched, atLeast⟩ :=
      mirrored.exists_bestAt keeps.mirrors.flip best
    have tried := (mem_partitions_of_away before).mpr ⟨name, known, cut⟩
    exact ⟨⟨partition, reached, selection⟩, mem_alignments.mpr ⟨tried, matched⟩, atLeast⟩

/-- The verdict on a library does not depend on what the packages of the app are called, as long as
they keep their shape, stay away from the library's root and from the app's own package, and leave
the candidate lists in their order. -/
theorem matchTrees_renamed {libRoot : Option String} (renamed : RenamedTree rename app copy)
    (keeps : KeepsShape rename app.packageNames)
    (awayFromRoot : ∀ root ∈ libRoot, Away rename app.packageNames root)
    (away : ∀ root ∈ options.appPackage, Away rename app.packageNames root)
    (order : (candidateLists lib.packages copy.packages options.appPackage).map (·.node) =
      (candidateLists lib.packages app.packages options.appPackage).map (·.node)) :
    (matchTrees options copy lib libRoot).map (·.verdict) =
      (matchTrees options app lib libRoot).map (·.verdict) := by
  by_cases same : lib.config.recipe = app.config.recipe
  · have sameCopy : lib.config.recipe = copy.config.recipe := by rw [same, renamed.config]
    by_cases empty : lib.packages = []
    · rw [matchTrees_of_empty same empty, matchTrees_of_empty sameCopy empty]
    · rw [matchTrees_of_comparable same empty, matchTrees_of_comparable sameCopy empty]
      by_cases contains : Contains app lib
      · rw [contained?_of_contains contains,
          contained?_of_contains (renamed.contains_iff.mp contains)]
        rfl
      · rw [contained?_of_not_contains contains,
          contained?_of_not_contains (renamed.contains_iff.not.mp contains)]
        cases options.fullOnly with
        | true => rfl
        | false =>
            cases libRoot with
            | none => rfl
            | some root =>
                have verdicts := verdict_renamed renamed keeps (awayFromRoot root rfl) away order
                exact congrArg Except.ok verdicts
  · have sameCopy : lib.config.recipe ≠ copy.config.recipe := by rwa [← renamed.config]
    rw [matchTrees_of_mismatch same, matchTrees_of_mismatch sameCopy, renamed.config]

end Match

/-- The new names come in another order, but the packages are not equally similar. -/
theorem matchTrees_renamed_swapped :
    let package (digest : UInt8) (name : String) (classes : List UInt8) : Node :=
      .mk ⟨[digest]⟩ (.package (some name))
        (classes.map fun digest => .mk ⟨[digest]⟩ (.class none) [])
    let lib := HashTree.ofPackages .standard
      [package 1 "r.a" [11, 12], package 2 "r.b" [21, 22]] ⟨2, 4, 0⟩
    let app := HashTree.ofPackages .standard
      [package 3 "p.q" [11, 12, 13], package 4 "p.r" [21, 23]] ⟨2, 5, 0⟩
    let copy := HashTree.ofPackages .standard
      [package 3 "x.z" [11, 12, 13], package 4 "x.y" [21, 23]] ⟨2, 5, 0⟩
    let rename (name : String) : String := if name = "p.q" then "x.z" else "x.y"
    RenamedTree rename app copy ∧ KeepsShape rename app.packageNames ∧
      Away rename app.packageNames "r" ∧
      (candidateLists lib.packages copy.packages none).map (·.node) =
        (candidateLists lib.packages app.packages none).map (·.node) ∧
      (matchTrees ⟨none, false⟩ copy lib (some "r")).map (·.verdict) =
        (matchTrees ⟨none, false⟩ app lib (some "r")).map (·.verdict) := by
  intro package lib app copy rename
  have renamed : RenamedTree rename app copy := by
    refine ⟨show app.config = .standard from rfl, _, .cons ?_ (.cons ?_ .nil), .refl _⟩
    · exact ⟨rfl, rfl, rfl, by decide +kernel⟩
    · exact ⟨rfl, rfl, rfl, by decide +kernel⟩
  have keeps : KeepsShape rename app.packageNames :=
    ⟨by decide +kernel, by decide +kernel, by decide +kernel⟩
  have away : Away rename app.packageNames "r" := by decide +kernel
  have lists : candidateLists lib.packages app.packages none =
      foundLists lib.packages app.packages none :=
    candidateLists_eq_foundLists (.refl _) (by decide +kernel) (by decide +kernel)
  have copyLists : candidateLists lib.packages copy.packages none =
      foundLists lib.packages copy.packages none :=
    candidateLists_eq_foundLists (.refl _) (by decide +kernel) (by decide +kernel)
  have order : (candidateLists lib.packages copy.packages none).map (·.node) =
      (candidateLists lib.packages app.packages none).map (·.node) := by
    rw [lists, copyLists, foundLists, foundLists, List.map_map, List.map_map]
    rfl
  have awayFromRoot : ∀ root ∈ some "r", Away rename app.packageNames root := by
    intro root isRoot
    obtain rfl := Option.some.inj isRoot
    exact away
  have noPackage : ∀ root ∈ (⟨none, false⟩ : Options).appPackage,
      Away rename app.packageNames root := nofun
  exact ⟨renamed, keeps, away, order, matchTrees_renamed renamed keeps awayFromRoot noPackage order⟩

/-- All packages are equally similar, so that their names decide which of the library's packages are
neighbours. Under one name the third is compared with its sibling, under the other one with what
would have to be above it. -/
theorem matchTrees_of_tied_names :
    let package (digest : UInt8) (name : String) (classes : List UInt8) : Node :=
      .mk ⟨[digest]⟩ (.package (some name))
        (classes.map fun digest => .mk ⟨[digest]⟩ (.class none) [])
    let lib := HashTree.ofPackages .standard
      [package 1 "r.a" [11, 12], package 2 "r.a.x" [21, 22], package 3 "r.b" [31, 32]] ⟨3, 6, 0⟩
    let app := HashTree.ofPackages .standard
      [package 4 "p.a" [11, 12, 13], package 5 "p.ab.x" [21, 22, 23],
        package 6 "p.b" [31, 32, 33]] ⟨3, 9, 0⟩
    let copy := HashTree.ofPackages .standard
      [package 4 "p.a" [11, 12, 13], package 5 "p.c.x" [21, 22, 23],
        package 6 "p.b" [31, 32, 33]] ⟨3, 9, 0⟩
    let rename (name : String) : String := if name = "p.ab.x" then "p.c.x" else name
    lib.config = app.config ∧ lib.packageNames.Nodup ∧ app.packageNames.Nodup ∧
      RenamedTree rename app copy ∧ KeepsShape rename app.packageNames ∧
      (∀ first ∈ app.packageNames, ∀ second ∈ app.packageNames,
        rename first = rename second → first = second) ∧
      Away rename app.packageNames "r" ∧
      (matchTrees ⟨none, false⟩ app lib (some "r")).map (·.verdict) = .ok .noMatch ∧
      (matchTrees ⟨none, false⟩ copy lib (some "r")).map (·.verdict) = .ok .full := by
  intro package lib app copy rename
  have renamed : RenamedTree rename app copy := by
    refine ⟨show app.config = .standard from rfl, _, .cons ?_ (.cons ?_ (.cons ?_ .nil)), .refl _⟩
    · exact ⟨rfl, rfl, rfl, by decide +kernel⟩
    · exact ⟨rfl, rfl, rfl, by decide +kernel⟩
    · exact ⟨rfl, rfl, rfl, by decide +kernel⟩
  have lists : candidateLists lib.packages app.packages none =
      foundLists lib.packages app.packages none :=
    candidateLists_eq_foundLists (.refl _) (by decide +kernel) (by decide +kernel)
  have copyLists : candidateLists lib.packages copy.packages none =
      foundLists [package 1 "r.a" [11, 12], package 3 "r.b" [31, 32],
        package 2 "r.a.x" [21, 22]] copy.packages none :=
    candidateLists_eq_foundLists (.cons _ (.swap _ _ _)) (by decide +kernel) (by decide +kernel)
  have tried : partitions app.packages "r" = ["p"] := by
    rw [partitions_eq, ancestors_eq_of_pairwise (by decide +kernel)]
    decide +kernel
  have copyTried : partitions copy.packages "r" = ["p"] := by
    rw [partitions_eq, ancestors_eq_of_pairwise (by decide +kernel)]
    decide +kernel
  have found : (partialMatch ⟨none, false⟩ app lib "r").verdict = .noMatch := by
    rw [partialMatch_of_eq lists tried]
    decide +kernel
  have copyFound : (partialMatch ⟨none, false⟩ copy lib "r").verdict = .full := by
    rw [partialMatch_of_eq copyLists copyTried]
    decide +kernel
  refine ⟨show lib.config = .standard from rfl, by decide +kernel, by decide +kernel, renamed,
    ⟨by decide +kernel, by decide +kernel, by decide +kernel⟩, by decide +kernel,
    by decide +kernel, congrArg Except.ok found, congrArg Except.ok copyFound⟩

/-- Both names have the same two segments, but only one of them is a sibling's. -/
theorem matchTrees_of_empty_segment :
    let package (digest : UInt8) (name : String) (classes : List UInt8) : Node :=
      .mk ⟨[digest]⟩ (.package (some name))
        (classes.map fun digest => .mk ⟨[digest]⟩ (.class none) [])
    let lib := HashTree.ofPackages .standard
      [package 1 "r.a" [11, 12], package 2 "r.b" [21, 22]] ⟨2, 4, 0⟩
    let app := HashTree.ofPackages .standard
      [package 3 "p..a" [11, 12, 13], package 4 "p.b" [21, 22, 23]] ⟨2, 6, 0⟩
    let copy := HashTree.ofPackages .standard
      [package 3 "p.a" [11, 12, 13], package 4 "p.b" [21, 22, 23]] ⟨2, 6, 0⟩
    let rename (name : String) : String := if name = "p..a" then "p.a" else name
    RenamedTree rename app copy ∧
      (∀ name ∈ app.packageNames, Package.segments (rename name) = Package.segments name) ∧
      (candidateLists lib.packages copy.packages none).map (·.node) =
        (candidateLists lib.packages app.packages none).map (·.node) ∧
      (matchTrees ⟨none, false⟩ app lib (some "r")).map (·.verdict) = .ok .noMatch ∧
      (matchTrees ⟨none, false⟩ copy lib (some "r")).map (·.verdict) = .ok .full := by
  intro package lib app copy rename
  have renamed : RenamedTree rename app copy := by
    refine ⟨show app.config = .standard from rfl, _, .cons ?_ (.cons ?_ .nil), .refl _⟩
    · exact ⟨rfl, rfl, rfl, by decide +kernel⟩
    · exact ⟨rfl, rfl, rfl, by decide +kernel⟩
  have lists : candidateLists lib.packages app.packages none =
      foundLists lib.packages app.packages none :=
    candidateLists_eq_foundLists (.refl _) (by decide +kernel) (by decide +kernel)
  have copyLists : candidateLists lib.packages copy.packages none =
      foundLists lib.packages copy.packages none :=
    candidateLists_eq_foundLists (.refl _) (by decide +kernel) (by decide +kernel)
  have tried : partitions app.packages "r" = ["p"] := by
    rw [partitions_eq, ancestors_eq_of_pairwise (by decide +kernel)]
    decide +kernel
  have copyTried : partitions copy.packages "r" = ["p"] := by
    rw [partitions_eq, ancestors_eq_of_pairwise (by decide +kernel)]
    decide +kernel
  have found : (partialMatch ⟨none, false⟩ app lib "r").verdict = .noMatch := by
    rw [partialMatch_of_eq lists tried]
    decide +kernel
  have copyFound : (partialMatch ⟨none, false⟩ copy lib "r").verdict = .full := by
    rw [partialMatch_of_eq copyLists copyTried]
    decide +kernel
  refine ⟨renamed, by decide +kernel, ?_, congrArg Except.ok found, congrArg Except.ok copyFound⟩
  rw [lists, copyLists, foundLists, foundLists, List.map_map, List.map_map]
  rfl

end LibPrint.Matching
