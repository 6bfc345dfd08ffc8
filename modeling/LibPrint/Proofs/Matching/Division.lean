import LibPrint.Proofs.Matching.Relocation
import Mathlib.Data.List.Sort

/-!
# How partitions divide an app

For names without empty segments, a partition is a start of package names, as many segments long as
the library's root package. Partitions of one length do not overlap: a package lies under the one
that its own first segments spell, and a candidate is restricted to that one alone. An app with
something at or below the root package itself has no other partition.
-/

namespace LibPrint.Matching

open Package (IsName isWithin segments depth)

/-- One package is another one or below it: its segments begin with those of that one. -/
def AtOrBelow (name root : String) : Prop :=
  segments root <+: segments name

instance (name root : String) : Decidable (AtOrBelow name root) :=
  inferInstanceAs (Decidable (_ <+: _))

variable {app : List Node} {node : Node} {libRoot name partition other : String}

/-! ## Ancestors -/

theorem atOrBelow_of_ancestorAt? {count : Nat}
    (cut : Package.ancestorAt? name count = some partition) : AtOrBelow name partition := by
  rw [AtOrBelow, (Package.segments_of_ancestorAt? cut).1]
  exact List.take_prefix _ _

/-- An ancestor of one package is the ancestor of all that is below it. -/
theorem ancestorAt?_of_atOrBelow {count : Nat}
    (cut : Package.ancestorAt? other count = some partition) (below : AtOrBelow name partition) :
    Package.ancestorAt? name count = some partition := by
  obtain ⟨taken, length⟩ := Package.segments_of_ancestorAt? cut
  obtain ⟨occupied, -, spelled⟩ := Package.ancestorAt?_eq_some_iff.mp cut
  rw [← taken] at spelled
  refine Package.ancestorAt?_eq_some_iff.mpr ⟨occupied, ?_, ?_⟩
  · rw [depth, ← length]
    exact below.length_le
  · rwa [← length, ← List.prefix_iff_eq_take.mp below]

theorem ancestorAt?_self (valid : IsName libRoot) :
    Package.ancestorAt? libRoot (depth libRoot) = some libRoot := by
  refine Package.ancestorAt?_eq_some_iff.mpr ⟨Package.depth_pos valid, Nat.le_refl _, ?_⟩
  rw [depth, List.take_length, Package.join_segments valid]

/-- An ancestor as deep as the root package is within it only when it is the root package. -/
theorem isWithin_iff_eq (rootValid : IsName libRoot)
    (cut : Package.ancestorAt? name (depth libRoot) = some partition) :
    isWithin partition libRoot = true ↔ partition = libRoot := by
  obtain ⟨taken, length⟩ := Package.segments_of_ancestorAt? cut
  obtain ⟨-, -, spelled⟩ := Package.ancestorAt?_eq_some_iff.mp cut
  rw [← taken] at spelled
  constructor
  · intro within
    rw [spelled, ← Package.join_segments rootValid, Package.isWithin_join
      (Package.areSegments_segments _) (Package.areSegments_segments _)] at within
    rw [spelled, ← within.eq_of_length length.symm, Package.join_segments rootValid]
  · rintro rfl
    exact Package.isWithin_self partition

/-! ## Partitions -/

/-- An app with something at or below the root package has no other partition. -/
theorem partitions_eq_singleton (rootValid : IsName libRoot) (member : node ∈ app)
    (named : node.packageName? = some name) (below : AtOrBelow name libRoot) :
    partitions app libRoot = [libRoot] := by
  have cut := ancestorAt?_of_atOrBelow (ancestorAt?_self rootValid) below
  have present : libRoot ∈ ancestors app libRoot :=
    mem_ancestors.mpr ⟨node, member, name, named, cut⟩
  apply List.Pairwise.eq_of_mem_iff (pairwise_partitions app libRoot) (List.pairwise_singleton _ _)
  intro partition
  rw [mem_partitions_iff, List.mem_singleton]
  constructor
  · rintro ⟨found, inside | outside⟩
    · obtain ⟨_, -, _, -, otherCut⟩ := mem_ancestors.mp found
      exact (isWithin_iff_eq rootValid otherCut).mp inside
    · have absent := outside libRoot present
      rw [Package.isWithin_self] at absent
      cases absent
  · rintro rfl
    exact ⟨present, .inl (Package.isWithin_self partition)⟩

/-- An app with nothing there has all ancestors as partitions. -/
theorem mem_partitions_of_none_below (rootValid : IsName libRoot)
    (none : ∀ node ∈ app, ∀ name, node.packageName? = some name → ¬ AtOrBelow name libRoot) :
    partition ∈ partitions app libRoot ↔ partition ∈ ancestors app libRoot := by
  rw [mem_partitions_iff]
  refine and_iff_left_of_imp fun _ => .inr fun other member => ?_
  obtain ⟨node, present, name, named, cut⟩ := mem_ancestors.mp member
  rw [← Bool.not_eq_true, isWithin_iff_eq rootValid cut]
  rintro rfl
  exact none node present name named (atOrBelow_of_ancestorAt? cut)

/-- A package that is deep enough lies under one ancestor as deep as the root package. -/
theorem existsUnique_ancestor (rootValid : IsName libRoot) (member : node ∈ app)
    (named : node.packageName? = some name) (deep : depth libRoot ≤ depth name) :
    ∃! partition, partition ∈ ancestors app libRoot ∧ AtOrBelow name partition := by
  have cut : Package.ancestorAt? name (depth libRoot) =
      some (Package.join ((segments name).take (depth libRoot))) :=
    Package.ancestorAt?_eq_some_iff.mpr ⟨Package.depth_pos rootValid, deep, rfl⟩
  refine ⟨_, ⟨mem_ancestors.mpr ⟨node, member, name, named, cut⟩, atOrBelow_of_ancestorAt? cut⟩, ?_⟩
  rintro partition ⟨found, below⟩
  obtain ⟨_, -, _, -, otherCut⟩ := mem_ancestors.mp found
  have same := ancestorAt?_of_atOrBelow otherCut below
  rw [cut] at same
  exact (Option.some.inj same).symm

/-! ## Candidates -/

/-- A candidate that is within two partitions shows that they are one. -/
theorem eq_of_mem_within {list : CandidateList} {first second : String} {candidate : Candidate}
    (isFirst : first ∈ partitions app libRoot) (isSecond : second ∈ partitions app libRoot)
    (inFirst : candidate ∈ list.within first) (inSecond : candidate ∈ list.within second) :
    first = second := by
  have cut {root : String} (isPartition : root ∈ partitions app libRoot)
      (member : candidate ∈ list.within root) :
      Package.ancestorAt? candidate.package (depth libRoot) = some root := by
    obtain ⟨_, -, _, -, cut⟩ := mem_ancestors.mp (mem_partitions_iff.mp isPartition).1
    obtain ⟨-, fit⟩ := List.mem_filter.mp member
    exact Package.ancestorAt?_of_isWithin cut (Bool.and_eq_true_iff.mp fit).1
  have same := cut isFirst inFirst
  rw [cut isSecond inSecond] at same
  exact (Option.some.inj same).symm

/-- What two partitions keep of the lists has no candidate of a library package in common. -/
theorem forall₂_disjoint_of_restrict? {lists : List CandidateList} {first second : String}
    {left right : List (List Candidate)} (isFirst : first ∈ partitions app libRoot)
    (isSecond : second ∈ partitions app libRoot) (apart : first ≠ second)
    (leftKept : restrict? lists first = some left)
    (rightKept : restrict? lists second = some right) : List.Forall₂ List.Disjoint left right := by
  obtain ⟨-, rfl, -⟩ := restrict?_eq_some_iff.mp leftKept
  obtain ⟨-, rfl, -⟩ := restrict?_eq_some_iff.mp rightKept
  rw [List.forall₂_map_left_iff, List.forall₂_map_right_iff, List.forall₂_same]
  intro list _ candidate inFirst inSecond
  exact apart (eq_of_mem_within isFirst isSecond inFirst inSecond)

/-- The root package is the only partition when some app package is at or below it. Otherwise the
partitions are the starts, as long as the root package, of all app packages that long, and each of
these packages lies under one of them. No candidate of a library package is in two partitions. -/
theorem partitions_divide (app : List Node) (rootValid : IsName libRoot) :
    ((∃ node ∈ app, ∃ name, node.packageName? = some name ∧ AtOrBelow name libRoot) →
      partitions app libRoot = [libRoot]) ∧
    ((∀ node ∈ app, ∀ name, node.packageName? = some name → ¬ AtOrBelow name libRoot) →
      (∀ partition, partition ∈ partitions app libRoot ↔
        ∃ node ∈ app, ∃ name, node.packageName? = some name ∧ depth libRoot ≤ depth name ∧
          partition = Package.join ((segments name).take (depth libRoot))) ∧
      ∀ node ∈ app, ∀ name, node.packageName? = some name → depth libRoot ≤ depth name →
        ∃! partition, partition ∈ partitions app libRoot ∧ AtOrBelow name partition) ∧
    (partitions app libRoot).Nodup ∧
    ∀ lists, ∀ first ∈ partitions app libRoot, ∀ second ∈ partitions app libRoot, first ≠ second →
      ∀ left right, restrict? lists first = some left → restrict? lists second = some right →
        List.Forall₂ List.Disjoint left right := by
  refine ⟨?_, fun none => ⟨fun partition => ?_, ?_⟩, ?_, ?_⟩
  · rintro ⟨node, member, name, named, below⟩
    exact partitions_eq_singleton rootValid member named below
  · rw [mem_partitions_of_none_below rootValid none, mem_ancestors]
    simp only [Package.ancestorAt?_eq_some_iff, Package.depth_pos rootValid, true_and]
  · intro node member name named deep
    simp only [mem_partitions_of_none_below rootValid none]
    exact existsUnique_ancestor rootValid member named deep
  · exact (partitions_sublist app libRoot).nodup (Text.nodup_sortDistinct _)
  · intro lists first isFirst second isSecond apart left right
    exact forall₂_disjoint_of_restrict? isFirst isSecond apart

/-- A dot ends the root package, so that `com.foobar` is neither at `com.foo` nor below it. -/
theorem partitions_divide_dotted :
    let package (name : String) : Node := .mk ⟨[]⟩ (.package (some name)) []
    let app := [package "com.foobar.a", package "com.bar", package "x"]
    Package.IsName "com.foo" ∧
      (∀ node ∈ app, ∀ name, node.packageName? = some name → ¬ AtOrBelow name "com.foo") ∧
      depth "com.foo" ≤ depth "com.foobar.a" ∧
      (∃! partition, partition ∈ partitions app "com.foo" ∧ AtOrBelow "com.foobar.a" partition) ∧
      partitions (package "com.foo.b" :: app) "com.foo" = ["com.foo"] := by
  intro package app
  have rootValid : Package.IsName "com.foo" := by decide
  have none : ∀ node ∈ app, ∀ name, node.packageName? = some name →
      ¬ AtOrBelow name "com.foo" := by
    have names : ∀ node ∈ app, ∀ name ∈ node.packageName?, ¬ AtOrBelow name "com.foo" := by
      decide +kernel
    exact names
  have deep : depth "com.foo" ≤ depth "com.foobar.a" := by decide
  obtain ⟨-, each⟩ := (partitions_divide app rootValid).2.1 none
  obtain ⟨alone, -⟩ := partitions_divide (package "com.foo.b" :: app) rootValid
  refine ⟨rootValid, none, deep, each _ List.mem_cons_self _ rfl deep, alone ?_⟩
  exact ⟨package "com.foo.b", List.mem_cons_self, "com.foo.b", rfl, by decide⟩

end LibPrint.Matching
