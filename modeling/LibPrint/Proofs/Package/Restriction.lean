import LibPrint.Proofs.Package.Counting
import LibPrint.Proofs.Package.Growth

/-!
# The part of a package tree along a package

The copy of a part of a tree leads to a package and goes on below it, and nothing lies beside. It is
the tree that would have grown if only the packages on that line had been recorded, so it tells
about them what the whole tree does, and nothing about any other.
-/

namespace LibPrint

namespace Package

/-- Two paths lie on one line: one of them goes on from the other. -/
def OnLine (way path : List String) : Prop :=
  way <+: path ∨ path <+: way

instance (way path : List String) : Decidable (OnLine way path) :=
  inferInstanceAs (Decidable (_ ∨ _))

/-- The one package is the other, below it or above it. -/
def Aligned (name other : String) : Prop :=
  OnLine (segments name) (segments other)

instance (name other : String) : Decidable (Aligned name other) :=
  inferInstanceAs (Decidable (OnLine _ _))

theorem onLine_nil (path : List String) : OnLine [] path :=
  .inl List.nil_prefix

theorem onLine_nil_right (way : List String) : OnLine way [] :=
  .inr List.nil_prefix

theorem onLine_cons_iff {segment other : String} {way path : List String} :
    OnLine (segment :: way) (other :: path) ↔ segment = other ∧ OnLine way path := by
  rw [OnLine, OnLine, List.cons_prefix_cons, List.cons_prefix_cons, eq_comm (a := other),
    and_or_left]

/-- Two paths that a third one goes on from lie on one line. -/
theorem onLine_of_prefix {way other path : List String} (first : way <+: path)
    (second : other <+: path) : OnLine way other :=
  List.prefix_or_prefix_of_prefix first second

/-- Empty segments do not matter for how packages lie to each other. -/
@[simp] theorem segments_normal (name : String) : segments (normal name) = segments name :=
  segments_join (areSegments_segments name)

theorem aligned_normal_iff {name other : String} :
    Aligned name (normal other) ↔ Aligned name other := by
  rw [Aligned, segments_normal, Aligned]

end Package

namespace PackageNode

variable {name segment : String} {way : List String} {paths : List (List String)}

/-! ## Growing along one line -/

/-- The paths that lie on one line with the given one. -/
def along (way : List String) (paths : List (List String)) : List (List String) :=
  paths.filter fun path => Package.OnLine way path

theorem mem_along {path : List String} :
    path ∈ along way paths ↔ path ∈ paths ∧ Package.OnLine way path := by
  rw [along, List.mem_filter, decide_eq_true_iff]

theorem along_nil (paths : List (List String)) : along [] paths = paths :=
  List.filter_eq_self.mpr fun path _ => decide_eq_true (Package.onLine_nil path)

theorem count_nil_along (way : List String) (paths : List (List String)) :
    (along way paths).count [] = paths.count [] :=
  List.count_filter (decide_eq_true (Package.onLine_nil_right way))

theorem rests_along (segment : String) (way : List String) (paths : List (List String)) :
    rests segment (along (segment :: way) paths) = along way (rests segment paths) := by
  induction paths with
  | nil => rfl
  | cons path paths ih =>
      rw [along] at ih ⊢
      rw [List.filter_cons]
      rcases path with _ | ⟨first, path⟩
      · rw [if_pos (decide_eq_true (Package.onLine_nil_right _)), rests_nil_cons, rests_nil_cons,
          ih]
      · by_cases same : first = segment
        · subst same
          simp only [Package.onLine_cons_iff, true_and, decide_eq_true_eq, rests_cons_self]
          rw [along, List.filter_cons]
          simp only [decide_eq_true_eq]
          split
          · rw [rests_cons_self, ih, along]
          · rw [ih, along]
        · simp only [Package.onLine_cons_iff, Ne.symm same, false_and, decide_false,
            Bool.false_eq_true, if_false, rests_cons_of_ne same, ih]

/-- A line that leads to a node has a single first segment. -/
theorem firsts_along (leads : segment :: way ∈ starts paths) :
    firsts (along (segment :: way) paths) = [segment] := by
  obtain ⟨path, member, start⟩ : ∃ path ∈ paths, segment :: way <+: path := by
    simpa [mem_starts] using leads
  have only (other : String) :
      other ∈ firsts (along (segment :: way) paths) ↔ other = segment := by
    rw [mem_firsts]
    constructor
    · rintro ⟨rest, listed⟩
      exact (Package.onLine_cons_iff.mp (mem_along.mp listed).2).1.symm
    · rintro rfl
      obtain ⟨rest, rfl⟩ := start
      exact ⟨way ++ rest, mem_along.mpr ⟨member, .inl (List.prefix_append _ _)⟩⟩
  have distinct : (firsts (along (segment :: way) paths)).Nodup := nodup_eraseDups _
  apply List.perm_singleton.mp
  apply (List.perm_ext_iff_of_nodup distinct (List.nodup_singleton segment)).mpr
  intro other
  rw [only, List.mem_singleton]

/-- The children of a grown node are those grown behind its first segments. -/
theorem child?_grow (name segment : String) (paths : List (List String)) :
    (grow name paths).child? segment =
      if segment ∈ firsts paths then some (grow segment (rests segment paths)) else none := by
  have records := records_grow name paths
  split
  · next begun =>
    rw [records.child?_eq_some_iff, grow_eq]
    exact ⟨List.mem_map_of_mem begun, name_grow _ _⟩
  · next absent =>
    rw [records.child?_eq_none_iff]
    intro rest member
    exact absent (mem_firsts.mpr ⟨rest, member⟩)

/-- Copying a line out of a grown tree is growing the line alone. -/
theorem copyAlong?_grow (way : List String) (name : String) (paths : List (List String)) :
    (grow name paths).copyAlong? way =
      if way ∈ starts paths then some (grow name (along way paths)) else none := by
  induction way generalizing name paths with
  | nil =>
      rw [if_pos (mem_starts.mpr (.inl rfl)), along_nil]
      rfl
  | cons segment way ih =>
      have unfolded : (grow name paths).copyAlong? (segment :: way) =
          ((grow name paths).child? segment).bind fun child =>
            (child.copyAlong? way).bind fun copy =>
              some (.mk (grow name paths).name (grow name paths).classCount [copy]) := rfl
      rw [unfolded, child?_grow]
      by_cases begun : segment ∈ firsts paths
      · rw [if_pos begun, Option.bind_some, ih]
        have below : segment :: way ∈ starts paths ↔ way ∈ starts (rests segment paths) := by
          rw [cons_mem_starts, ← mem_firsts, and_iff_right begun]
        by_cases leads : way ∈ starts (rests segment paths)
        · have counted : (grow name paths).classCount = paths.count [] :=
            (records_grow name paths).classCount_eq
          rw [if_pos leads, if_pos (below.mpr leads), Option.bind_some, name_grow, counted,
            grow_eq name (along (segment :: way) paths), subtrees, firsts_along (below.mpr leads),
            count_nil_along, List.map_singleton, rests_along]
        · rw [if_neg leads, if_neg (below.not.mpr leads), Option.bind_none]
      · have nowhere : segment :: way ∉ starts paths := fun leads =>
          begun (mem_firsts.mpr (cons_mem_starts.mp leads).1)
        rw [if_neg begun, if_neg nowhere, Option.bind_none]

end PackageNode

namespace PackageTree

open PackageNode

/-! ## The copy as a tree of its own -/

/-- The packages that lie on one line with the given one. -/
def aligned (name : String) (packages : List String) : List String :=
  packages.filter fun package => Package.Aligned name package

theorem paths_aligned (name : String) (packages : List String) :
    paths (aligned name packages) = along (Package.segments name) (paths packages) := by
  rw [paths, aligned, List.filter_filter, along, paths, List.filter_map, List.filter_filter]
  congr 2
  funext package
  exact Bool.and_comm _ _

theorem contains_ofPackages_iff (packages : List String) (name : String) :
    (ofPackages packages).contains name = true ↔
      Package.segments name ∈ starts (paths packages) := by
  rw [contains, Option.isSome_iff_exists, PackageTree.locate?,
    exists_node_iff (records_ofPackages packages), mem_starts]

/-- The part along a package is the tree of the packages on that line. -/
theorem restrict?_ofPackages_eq (packages : List String) (name : String) :
    (ofPackages packages).restrict? name =
      if (ofPackages packages).contains name then some (ofPackages (aligned name packages))
      else none := by
  have whole : (ofPackages packages).root = grow "Root" (paths packages) :=
    root_ofPackages packages
  have part : (ofPackages (aligned name packages)).root =
      grow "Root" (along (Package.segments name) (paths packages)) := by
    rw [← paths_aligned]
    exact root_ofPackages _
  rw [restrict?, whole, copyAlong?_grow]
  simp only [contains_ofPackages_iff]
  split
  · rw [← part]
    rfl
  · rfl

theorem aligned_aligned (name : String) (packages : List String) :
    aligned name (aligned name packages) = aligned name packages := by
  rw [aligned, aligned, List.filter_filter]
  simp only [Bool.and_self]

theorem recorded_aligned (name : String) (packages : List String) :
    recorded (aligned name packages) =
      (recorded packages).filter fun package => Package.Aligned name package := by
  rw [recorded, aligned, List.filter_filter, recorded, List.filter_map, List.filter_filter]
  congr 2
  funext package
  simp only [Function.comp, Package.aligned_normal_iff]
  exact Bool.and_comm _ _

/-! ## What the copy tells -/

/-- The copy is the part of the tree along a package: it has the packages on that line and no
others, with the classes they had. -/
structure IsPart (tree : PackageTree) (name : String) (copy : PackageTree) : Prop where
  contains : ∀ other, copy.contains other = true ↔
    tree.contains other = true ∧ Package.Aligned name other
  allPackages : copy.allPackages =
    tree.allPackages.filter fun other => Package.Aligned name other
  packages : copy.packages =
    tree.packages.filter fun entry => Package.Aligned name entry.1
  /-- Packages without classes count as well. -/
  classCount : ∀ other, copy.contains other = true →
    (copy.locate? other).map PackageNode.classCount =
      (tree.locate? other).map PackageNode.classCount
  /-- The default package is above every other one. -/
  top : copy.root.classCount = tree.root.classCount
  again : copy.restrict? name = some copy

/-- All packages are those that are found under their own name, the default one left out. -/
theorem mem_allPackages_iff_contains {tree : PackageTree} {packages : List String}
    (counts : Counts packages tree) {name : String} :
    name ∈ tree.allPackages ↔
      name ≠ "" ∧ Package.normal name = name ∧ tree.contains name = true := by
  constructor
  · intro member
    obtain ⟨package, -, -, front, occupied, start, rfl⟩ := (counts.mem_allPackages name).mp member
    have valid := (Package.areSegments_segments package).of_subset start.subset
    have spelled : Package.normal (Package.join front) = Package.join front := by
      rw [Package.normal, Package.segments_join valid]
    refine ⟨(Package.join_eq_empty_iff valid).not.mpr occupied, spelled, ?_⟩
    rw [counts.contains, spelled]
    exact .inr member
  · rintro ⟨occupied, spelled, contained⟩
    rw [counts.contains, spelled] at contained
    exact contained.resolve_left occupied

section Part

variable {packages : List String} {name : String}
  (present : (ofPackages packages).contains name = true)
include present

/-- The copy has the packages of the tree on the line. -/
theorem contains_aligned_iff (other : String) :
    (ofPackages (aligned name packages)).contains other = true ↔
      (ofPackages packages).contains other = true ∧ Package.Aligned name other := by
  rw [contains_ofPackages_iff, mem_starts] at present
  simp only [contains_ofPackages_iff, mem_starts, paths_aligned, mem_along]
  constructor
  · rintro (top | ⟨path, ⟨member, line⟩, start⟩)
    · refine ⟨.inl top, ?_⟩
      rw [Package.Aligned, top]
      exact Package.onLine_nil_right _
    · refine ⟨.inr ⟨path, member, start⟩, ?_⟩
      rcases line with below | above
      · exact Package.onLine_of_prefix below start
      · exact .inr (start.trans above)
  · rintro ⟨top | ⟨path, member, start⟩, below | above⟩
    · exact .inl top
    · exact .inl top
    · exact .inr ⟨path, ⟨member, .inl (below.trans start)⟩, start⟩
    · -- A package above the given one is begun by whatever is recorded at or below that one.
      rcases present with top | ⟨through, throughMem, leads⟩
      · rw [top] at above
        exact .inl (List.prefix_nil.mp above)
      · exact .inr ⟨through, ⟨throughMem, .inl leads⟩, above.trans leads⟩

theorem allPackages_aligned :
    (ofPackages (aligned name packages)).allPackages =
      (ofPackages packages).allPackages.filter fun other => Package.Aligned name other := by
  have whole := counts_of_records (records_ofPackages packages)
  have part := counts_of_records (records_ofPackages (aligned name packages))
  apply Text.eq_of_ascending id part.allPackagesAscend (whole.allPackagesAscend.filter _)
  intro other
  rw [List.mem_filter, mem_allPackages_iff_contains whole, mem_allPackages_iff_contains part,
    contains_aligned_iff present, decide_eq_true_iff]
  tauto

theorem classCount_aligned {other : String}
    (contained : (ofPackages (aligned name packages)).contains other = true) :
    ((ofPackages (aligned name packages)).locate? other).map PackageNode.classCount =
      ((ofPackages packages).locate? other).map PackageNode.classCount := by
  have whole := counts_of_records (records_ofPackages packages)
  have part := counts_of_records (records_ofPackages (aligned name packages))
  obtain ⟨inWhole, line⟩ := (contains_aligned_iff present other).mp contained
  have counted : (recorded (aligned name packages)).count (Package.normal other) =
      (recorded packages).count (Package.normal other) := by
    rw [recorded_aligned]
    exact List.count_filter (decide_eq_true (Package.aligned_normal_iff.mpr line))
  rw [part.located, whole.located, if_pos contained, if_pos inWhole, counted]

end Part

theorem packages_aligned (packages : List String) (name : String) :
    (ofPackages (aligned name packages)).packages =
      (ofPackages packages).packages.filter fun entry => Package.Aligned name entry.1 := by
  have whole := counts_of_records (records_ofPackages packages)
  have part := counts_of_records (records_ofPackages (aligned name packages))
  apply Text.eq_of_ascending Prod.fst (List.pairwise_map.mp part.packagesAscend)
    ((List.pairwise_map.mp whole.packagesAscend).filter _)
  rintro ⟨other, count⟩
  rw [List.mem_filter, whole.mem_packages, part.mem_packages, recorded_aligned, decide_eq_true_iff]
  by_cases line : Package.Aligned name other
  · have all : ((recorded packages).filter fun package =>
        Package.Aligned name package).count other = (recorded packages).count other :=
      List.count_filter (decide_eq_true line)
    rw [all, and_iff_left line]
  · have none : ((recorded packages).filter fun package =>
        Package.Aligned name package).count other = 0 := by
      rw [List.count_eq_zero, List.mem_filter, decide_eq_true_iff]
      exact fun listed => line listed.2
    rw [none]
    constructor
    · rintro ⟨positive, rfl⟩
      exact absurd positive (Nat.lt_irrefl 0)
    · exact fun listed => absurd listed.2 line

theorem classCount_root_aligned (packages : List String) (name : String) :
    (ofPackages (aligned name packages)).root.classCount =
      (ofPackages packages).root.classCount := by
  rw [(records_ofPackages _).classCount_eq, (records_ofPackages packages).classCount_eq,
    paths_aligned, count_nil_along]

/-- A package of the tree can be copied out with what lies above and below it, and no other can.
The copy tells of these packages what the tree does, and copying again changes nothing. -/
theorem restrict?_ofPackages (packages : List String) (name : String) :
    ((∃ copy, (ofPackages packages).restrict? name = some copy) ↔
      (ofPackages packages).contains name = true) ∧
    ∀ copy, (ofPackages packages).restrict? name = some copy →
      (ofPackages packages).IsPart name copy := by
  rw [restrict?_ofPackages_eq]
  cases present : (ofPackages packages).contains name with
  | false => simp
  | true =>
      rw [if_pos rfl]
      refine ⟨⟨fun _ => rfl, fun _ => ⟨_, rfl⟩⟩, ?_⟩
      rintro _ ⟨⟩
      have again : (ofPackages (aligned name packages)).contains name = true :=
        (contains_aligned_iff present name).mpr ⟨present, .inl List.prefix_rfl⟩
      refine ⟨contains_aligned_iff present, allPackages_aligned present,
        packages_aligned packages name, fun _ => classCount_aligned present,
        classCount_root_aligned packages name, ?_⟩
      rw [restrict?_ofPackages_eq, again, if_pos rfl, aligned_aligned]

/-- The part along a package without classes of its own, spelled with an empty segment. Its sibling
is left out, classes above it and in the default package are not. -/
theorem restrict?_ofPackages_inner :
    let tree := ofPackages ["x.a.b", "", "x", "x.ab", ".x..a.c", ""]
    ∃ copy, tree.restrict? "x..a" = some copy ∧ ("", 2) ∈ copy.packages ∧
      ("x", 1) ∈ copy.packages ∧ ("x.a.c", 1) ∈ copy.packages ∧ copy.contains "x.ab" = false := by
  intro tree
  obtain ⟨copied, part⟩ := restrict?_ofPackages ["x.a.b", "", "x", "x.ab", ".x..a.c", ""] "x..a"
  have counts := counts_of_records (records_ofPackages ["x.a.b", "", "x", "x.ab", ".x..a.c", ""])
  obtain ⟨copy, taken⟩ := copied.mpr (by decide +kernel)
  refine ⟨copy, taken, ?_⟩
  rw [(part copy taken).packages, ← Bool.not_eq_true, (part copy taken).contains]
  simp only [List.mem_filter, counts.mem_packages]
  decide +kernel

end PackageTree

end LibPrint
