import LibPrint.Proofs.Package.Recording

/-!
# Root packages and the order of packages

The package a library is taken to lie in is found by going down from a fork, into the child with the
largest subtree. Where several are largest the first one is taken, so the root package depends on
the order in which packages were recorded, and on nothing else: it is always one of a few choices,
and each of them comes out for some order.
-/

namespace LibPrint

namespace PackageNode

/-! ## Size and way down -/

theorem size_eq (node : PackageNode) : node.size = (node.children.map size).sum + 1 := by
  have sizes (nodes : List PackageNode) : sizes nodes = (nodes.map size).sum := by
    induction nodes with
    | nil => rfl
    | cons node nodes ih => rw [PackageNode.sizes, ih, List.map_cons, List.sum_cons]
  obtain ⟨name, classCount, children⟩ := node
  rw [size, sizes, PackageNode.children]

/-- The names from a node down, itself included, up to the first package with classes or the first
choice. -/
def way (node : PackageNode) : List String :=
  node.name :: if node.hasClasses then [] else node.onlyWay

/-- The only item of a list, or the empty list of names. -/
def onlyOf : List (List String) → List String
  | [only] => only
  | _ => []

theorem onlyOf_eq_of_perm {ways others : List (List String)} (perm : ways.Perm others) :
    onlyOf ways = onlyOf others := by
  rcases ways with _ | ⟨only, _ | ⟨second, rest⟩⟩
  · rw [perm.nil_eq]
  · rw [List.singleton_perm.mp perm]
  · have length := perm.length_eq
    rcases others with _ | ⟨other, _ | ⟨another, more⟩⟩
    · cases length
    · cases length
    · rfl

theorem onlyWay_eq (node : PackageNode) : node.onlyWay = onlyOf (node.children.map way) := by
  obtain ⟨name, classCount, children⟩ := node
  rcases children with _ | ⟨only, _ | ⟨second, rest⟩⟩
  · rfl
  · rw [onlyWay, onlyWayBelow]
    rfl
  · rfl

section Alike

variable {left right : PackageNode} {paths : List (List String)}

theorem Records.size_eq (first : left.Records paths) (second : right.Records paths) :
    left.size = right.size := by
  refine Records.alike_induction (motive := fun left right => left.size = right.size) ?_ first
    second
  intro left right paths first second below
  have sizes := ((first.perm_children second size below).map Prod.snd).sum_eq
  rw [List.map_map, List.map_map] at sizes
  rw [PackageNode.size_eq left, PackageNode.size_eq right]
  exact congrArg (· + 1) sizes

theorem Records.onlyWay_eq (first : left.Records paths) (second : right.Records paths) :
    left.onlyWay = right.onlyWay := by
  refine Records.alike_induction (motive := fun left right => left.onlyWay = right.onlyWay) ?_
    first second
  intro left right paths first second below
  have ways := first.perm_children second way (by
    intro child member other otherMem named
    have twin : other.Records (rests child.name paths) := by
      rw [named]
      exact second.child otherMem
    rw [way, way, named, (first.child member).hasClasses_eq twin,
      below child member other otherMem named])
  have bare := ways.map Prod.snd
  rw [List.map_map, List.map_map] at bare
  rw [PackageNode.onlyWay_eq left, PackageNode.onlyWay_eq right]
  exact onlyOf_eq_of_perm bare

theorem Records.way_eq (first : left.Records paths) (second : right.Records paths)
    (named : left.name = right.name) : left.way = right.way := by
  rw [way, way, named, first.hasClasses_eq second, first.onlyWay_eq second]

end Alike

/-! ## The largest of several nodes -/

/-- The nodes with the largest subtree. -/
def contenders (nodes : List PackageNode) : List PackageNode :=
  nodes.filter fun node => nodes.all fun other => other.size ≤ node.size

theorem mem_contenders {nodes : List PackageNode} {node : PackageNode} :
    node ∈ contenders nodes ↔ node ∈ nodes ∧ ∀ other ∈ nodes, other.size ≤ node.size := by
  simp [contenders]

theorem largest?_eq_none_iff {nodes : List PackageNode} : largest? nodes = none ↔ nodes = [] := by
  cases nodes with
  | nil => simp [largest?]
  | cons node nodes =>
      rw [largest?]
      cases largest? nodes with
      | none => simp
      | some other => by_cases smaller : node.size < other.size <;> simp [smaller]

theorem mem_contenders_of_largest? {nodes : List PackageNode} {node : PackageNode}
    (found : largest? nodes = some node) : node ∈ contenders nodes := by
  rw [mem_contenders]
  induction nodes generalizing node with
  | nil => cases found
  | cons first nodes ih =>
      rw [largest?] at found
      cases rest : largest? nodes with
      | none =>
          simp only [rest, Option.some.injEq] at found
          rw [largest?_eq_none_iff] at rest
          simp [rest, found]
      | some other =>
          obtain ⟨member, largest⟩ := ih rest
          simp only [rest] at found
          by_cases smaller : first.size < other.size
          · rw [if_pos smaller, Option.some.injEq] at found
            subst found
            exact ⟨List.mem_cons_of_mem _ member,
              List.forall_mem_cons.mpr ⟨Nat.le_of_lt smaller, largest⟩⟩
          · rw [if_neg smaller, Option.some.injEq] at found
            subst found
            refine ⟨List.mem_cons_self, List.forall_mem_cons.mpr ⟨Nat.le_refl _, ?_⟩⟩
            intro another anotherMem
            exact Nat.le_trans (largest another anotherMem) (Nat.not_lt.mp smaller)

/-- A node before which there is none wins over all that are not larger. -/
theorem largest?_cons_of_le {node : PackageNode} {nodes : List PackageNode}
    (largest : ∀ other ∈ nodes, other.size ≤ node.size) : largest? (node :: nodes) = some node := by
  rw [largest?]
  cases found : largest? nodes with
  | none => rfl
  | some other =>
      have member := (mem_contenders.mp (mem_contenders_of_largest? found)).1
      simp only [if_neg (Nat.not_lt.mpr (largest other member))]

end PackageNode

namespace PackageTree

open PackageNode

/-! ## Forks -/

/-- The node below which the root package is looked for, and the path to it: the single common
namespace at the top, or the top itself. -/
def fork (tree : PackageTree) : List String × PackageNode :=
  match tree.root.children with
  | [only] => if isCommon only.name then ([only.name], only) else ([], tree.root)
  | _ => ([], tree.root)

theorem wayFromLargest_of_nil (start : List String) : wayFromLargest start [] = start := rfl

theorem wayFromLargest_of_largest {start : List String} {nodes : List PackageNode}
    {node : PackageNode} (found : largest? nodes = some node) :
    wayFromLargest start nodes = start ++ node.way := by
  rw [wayFromLargest, found]
  rfl

/-- A path that ends before anything was chosen is no root package. -/
theorem rootOfPath_of_isCommon {name : String} (common : isCommon name = true) :
    rootOfPath [name] = none := by
  have joined : Package.join [name] = name := String.intercalate_singleton
  simp [rootOfPath, joined, common]

/-- The root package is found by going down from the fork. -/
theorem rootPackage?_eq (tree : PackageTree) :
    tree.rootPackage? = rootOfPath (wayFromLargest tree.fork.1 tree.fork.2.children) := by
  rw [rootPackage?, fork]
  rcases below : tree.root.children with _ | ⟨only, _ | ⟨second, rest⟩⟩
  · simp only [below, wayFromLargest_of_nil]
    rfl
  · simp only
    cases common : isCommon only.name with
    | true =>
        simp only [if_true]
        rcases only.children with _ | ⟨child, children⟩
        · rw [wayFromLargest_of_nil, rootOfPath_of_isCommon common]
        · rfl
    | false =>
        have single : largest? [only] = some only := rfl
        simp only [Bool.false_eq_true, if_false, below, onlyWay_eq]
        rw [wayFromLargest_of_largest single]
        rfl
  · simp only [below]

/-- What the root package can be, one possibility for each of the largest subtrees at the fork. -/
def rootChoices (tree : PackageTree) : List (Option String) :=
  if tree.fork.2.children.isEmpty then [rootOfPath tree.fork.1]
  else (contenders tree.fork.2.children).map fun node => rootOfPath (tree.fork.1 ++ node.way)

theorem rootPackage?_mem_rootChoices (tree : PackageTree) :
    tree.rootPackage? ∈ tree.rootChoices := by
  rw [rootChoices]
  cases empty : tree.fork.2.children.isEmpty with
  | true =>
      rw [rootPackage?_eq, List.isEmpty_iff.mp empty, wayFromLargest_of_nil, if_pos rfl]
      exact List.mem_singleton_self _
  | false =>
      obtain ⟨node, found⟩ : ∃ node, largest? tree.fork.2.children = some node := by
        rw [← Option.ne_none_iff_exists', ne_eq, largest?_eq_none_iff]
        exact List.isEmpty_eq_false_iff.mp empty
      simp only [Bool.false_eq_true, if_false, List.mem_map]
      refine ⟨node, mem_contenders_of_largest? found, ?_⟩
      rw [rootPackage?_eq, wayFromLargest_of_largest found]

/-! ## Trees that record the same paths -/

/-- What is left of the paths at the end of a way that some of them begin with. -/
def restsAlong (way : List String) (paths : List (List String)) : List (List String) :=
  way.foldl (fun paths segment => rests segment paths) paths

theorem mem_restsAlong {way : List String} {paths : List (List String)} {rest : List String} :
    rest ∈ restsAlong way paths ↔ way ++ rest ∈ paths := by
  induction way generalizing paths with
  | nil => rfl
  | cons segment way ih => exact ih.trans mem_rests

theorem records_fork {tree : PackageTree} {paths : List (List String)}
    (records : tree.root.Records paths) :
    tree.fork.2.Records (restsAlong tree.fork.1 paths) := by
  rw [fork]
  rcases below : tree.root.children with _ | ⟨only, _ | ⟨another, rest⟩⟩
  · exact records
  · have onlyRecords := records.child (below ▸ List.mem_singleton_self only)
    simp only
    cases isCommon only.name with
    | true => exact onlyRecords
    | false => exact records
  · exact records

/-- The way to the fork depends on the names at the top alone. -/
theorem fork_eq_of_records {left right : PackageTree} {paths : List (List String)}
    (first : left.root.Records paths) (second : right.root.Records paths) :
    left.fork.1 = right.fork.1 := by
  have names := first.perm_names second
  have length := names.length_eq
  rw [List.length_map, List.length_map] at length
  rw [fork, fork]
  rcases leftBelow : left.root.children with _ | ⟨only, _ | ⟨another, rest⟩⟩
  · rw [leftBelow] at length
    rw [List.eq_nil_of_length_eq_zero length.symm]
  · rw [leftBelow] at length names
    obtain ⟨twin, rightBelow⟩ := List.length_eq_one_iff.mp length.symm
    rw [rightBelow] at names ⊢
    have named : only.name = twin.name := by simpa using names
    simp only [named]
    split <;> rfl
  · rw [leftBelow] at length
    rcases rightBelow : right.root.children with _ | ⟨twin, _ | ⟨next, more⟩⟩
    · simp [rightBelow] at length
    · simp [rightBelow] at length
    · rfl

/-- To a child of the largest subtree there is one of the same way down below any node that stands
for the same paths. -/
theorem exists_contender_of_records {left right : PackageNode} {paths : List (List String)}
    (first : left.Records paths) (second : right.Records paths) {node : PackageNode}
    (contender : node ∈ contenders left.children) :
    ∃ other ∈ contenders right.children, other.way = node.way := by
  obtain ⟨member, largest⟩ := mem_contenders.mp contender
  obtain ⟨other, otherMem, named, below, leftRecords, rightRecords⟩ :=
    first.exists_twin second member
  refine ⟨other, mem_contenders.mpr ⟨otherMem, ?_⟩, rightRecords.way_eq leftRecords named⟩
  intro another anotherMem
  obtain ⟨twin, twinMem, _, _, anotherRecords, twinRecords⟩ := second.exists_twin first anotherMem
  rw [anotherRecords.size_eq twinRecords, rightRecords.size_eq leftRecords]
  exact largest twin twinMem

/-- Trees that record the same paths have the same choices. -/
theorem rootChoices_subset_of_records {left right : PackageTree} {paths : List (List String)}
    (first : left.root.Records paths) (second : right.root.Records paths) :
    left.rootChoices ⊆ right.rootChoices := by
  have start := fork_eq_of_records first second
  have leftRecords := records_fork first
  have rightRecords := records_fork second
  rw [← start] at rightRecords
  have empty : left.fork.2.children.isEmpty = right.fork.2.children.isEmpty := by
    have names := (leftRecords.perm_names rightRecords).isEmpty_eq
    rwa [List.isEmpty_map, List.isEmpty_map] at names
  intro choice
  rw [rootChoices, rootChoices, start, empty]
  split
  · exact id
  · intro member
    obtain ⟨node, contender, rfl⟩ := List.mem_map.mp member
    obtain ⟨other, otherMem, way⟩ :=
      exists_contender_of_records leftRecords rightRecords contender
    rw [← way]
    exact List.mem_map_of_mem otherMem

end PackageTree

/-! ## The path that came first -/

namespace PackageNode

/-- The path goes down along the children that were seen first. -/
def Leads : List String → PackageNode → Prop
  | [], _ => True
  | segment :: path, node =>
      ∃ child, node.children.head? = some child ∧ child.name = segment ∧ Leads path child

theorem Leads.of_append {front back : List String} {node : PackageNode}
    (leads : Leads (front ++ back) node) : Leads front node := by
  induction front generalizing node with
  | nil => trivial
  | cons segment front ih =>
      obtain ⟨child, first, named, below⟩ := leads
      exact ⟨child, first, named, ih below⟩

/-- What is recorded later comes behind. -/
theorem Leads.count {front : List String} {node : PackageNode} (leads : Leads front node)
    (path : List String) : Leads front (node.count path) := by
  induction front generalizing node path with
  | nil => trivial
  | cons segment front ih =>
      obtain ⟨name, classCount, children⟩ := node
      obtain ⟨child, first, named, below⟩ := leads
      obtain ⟨rest, rfl⟩ := List.head?_eq_some_iff.mp first
      cases path with
      | nil => exact ⟨child, rfl, named, below⟩
      | cons next path =>
          simp only [PackageNode.count, List.findIdx?_cons]
          by_cases own : child.name = next
          · simp only [own, beq_self_eq_true, if_true]
            refine ⟨child.count path, rfl, ?_, ih below path⟩
            rw [name_count, named]
          · simp only [beq_eq_false_iff_ne.mpr own, Bool.false_eq_true, if_false]
            cases rest.findIdx? (·.name == next) with
            | none => exact ⟨child, rfl, named, below⟩
            | some place => exact ⟨child, rfl, named, below⟩

theorem leads_count_fresh (path : List String) (name : String) :
    Leads path ((fresh name).count path) := by
  induction path generalizing name with
  | nil => trivial
  | cons segment path ih =>
      refine ⟨(fresh segment).count path, rfl, ?_, ih segment⟩
      rw [name_count]
      rfl

end PackageNode

namespace PackageTree

open PackageNode

/-- The first path leads down to where it ends, whatever is recorded after it. -/
theorem leads_ofPackages {packages : List String} {first : List String}
    {more : List (List String)} (recorded : paths packages = first :: more) :
    Leads first (ofPackages packages).root := by
  have grown (node : PackageNode) (leads : Leads first node) (more : List (List String)) :
      Leads first (more.foldl (fun node path => node.count path) node) := by
    induction more generalizing node with
    | nil => exact leads
    | cons path more ih => exact ih _ (leads.count path)
  rw [root_ofPackages, recorded]
  exact grown _ (leads_count_fresh first "Root") more

/-- A path that leads to the fork and on leads on from there. -/
theorem leads_fork {tree : PackageTree} {path : List String}
    (leads : Leads (tree.fork.1 ++ path) tree.root) : Leads path tree.fork.2 := by
  revert leads
  rw [fork]
  rcases below : tree.root.children with _ | ⟨only, _ | ⟨another, rest⟩⟩
  · exact id
  · simp only
    cases isCommon only.name with
    | true =>
        rintro ⟨child, first, -, leads⟩
        rw [below, List.head?_cons, Option.some.injEq] at first
        rw [if_pos rfl, first]
        exact leads
    | false => exact id
  · exact id

/-- A subtree that is among the largest and leads gives the root package. -/
theorem rootPackage?_of_leads {tree : PackageTree} {node : PackageNode} {recorded : List (List String)}
    (records : tree.fork.2.Records recorded) (contender : node ∈ contenders tree.fork.2.children)
    (leads : Leads [node.name] tree.fork.2) :
    tree.rootPackage? = rootOfPath (tree.fork.1 ++ node.way) := by
  obtain ⟨child, first, named, -⟩ := leads
  obtain ⟨rest, children⟩ := List.head?_eq_some_iff.mp first
  obtain ⟨member, largest⟩ := mem_contenders.mp contender
  have same : child = node := by
    apply List.inj_on_of_nodup_map records.nodup _ member named
    rw [children]
    exact List.mem_cons_self
  rw [children] at largest
  have found : largest? tree.fork.2.children = some node := by
    rw [children, same]
    apply largest?_cons_of_le
    intro other otherMem
    exact largest other (List.mem_cons_of_mem _ otherMem)
  rw [rootPackage?_eq, wayFromLargest_of_largest found]

/-- When the packages that lie behind a path come first, and there is one, the first path that is
recorded begins with it. -/
theorem exists_first_path {packages : List String} {front rest : List String}
    (occurs : front ++ rest ∈ paths packages) (others : List String) :
    ∃ path more, paths ((packages.filter fun package =>
      front.isPrefixOf (Package.segments package)) ++ others) = (front ++ path) :: more := by
  obtain ⟨package, member, segments⟩ := List.mem_map.mp occurs
  obtain ⟨inPackages, accepted⟩ := List.mem_filter.mp member
  let chosen := (packages.filter fun package =>
    front.isPrefixOf (Package.segments package)).filter accepts
  have kept : package ∈ chosen := by
    refine List.mem_filter.mpr ⟨List.mem_filter.mpr ⟨inPackages, ?_⟩, accepted⟩
    rw [List.isPrefixOf_iff_prefix, segments]
    exact List.prefix_append front rest
  obtain ⟨top, more, split⟩ := List.exists_cons_of_ne_nil (List.ne_nil_of_mem kept)
  have topKept : top ∈ chosen := split ▸ List.mem_cons_self
  have before := (List.mem_filter.mp (List.mem_filter.mp topKept).1).2
  obtain ⟨path, behind⟩ := List.isPrefixOf_iff_prefix.mp before
  refine ⟨path, more.map Package.segments ++ paths others, ?_⟩
  rw [paths_append, behind]
  exact congrArg (fun chosen => List.map Package.segments chosen ++ paths others) split

/-- The packages that satisfy a predicate, and then the others. -/
def startingWith (first : String → Bool) (packages : List String) : List String :=
  packages.filter first ++ packages.filter (!first ·)

theorem records_startingWith (first : String → Bool) (packages : List String) :
    (ofPackages (startingWith first packages)).root.Records (paths packages) :=
  (records_ofPackages _).of_perm (paths_perm (List.filter_append_perm first packages))

/-- When the packages below one of the largest subtrees come first, the root package is found there.
-/
theorem rootPackage?_startingWith {packages : List String} {node : PackageNode}
    (contender : node ∈ contenders (ofPackages packages).fork.2.children) :
    let front := (ofPackages packages).fork.1 ++ [node.name]
    (ofPackages (startingWith (fun package => front.isPrefixOf (Package.segments package))
        packages)).rootPackage? =
      rootOfPath ((ofPackages packages).fork.1 ++ node.way) := by
  intro front
  let first (package : String) : Bool := front.isPrefixOf (Package.segments package)
  let tree := ofPackages (startingWith first packages)
  have records := records_ofPackages packages
  have reordered : tree.root.Records (paths packages) := records_startingWith first packages
  have start : (ofPackages packages).fork.1 = tree.fork.1 := fork_eq_of_records records reordered
  have below := records_fork reordered
  rw [← start] at below
  obtain ⟨rest, inBelow⟩ := (records_fork records).mem_names.mp
    (List.mem_map_of_mem (mem_contenders.mp contender).1)
  have occurs : front ++ rest ∈ paths packages := by
    rw [List.append_assoc]
    exact mem_restsAlong.mp inBelow
  obtain ⟨path, more, recorded⟩ := exists_first_path occurs (packages.filter (!first ·))
  have leads : Leads front tree.root := (leads_ofPackages recorded).of_append
  obtain ⟨other, otherMem, way⟩ := exists_contender_of_records (records_fork records) below contender
  have named : other.name = node.name := (List.cons.inj way).1
  rw [start, ← way]
  apply rootPackage?_of_leads below otherMem
  apply leads_fork
  rw [← start, named]
  exact leads

/-- Every choice is what the root package is for some order: the packages on the way to it have to
come first. -/
theorem exists_order_of_mem_rootChoices {packages : List String} {choice : Option String}
    (member : choice ∈ (ofPackages packages).rootChoices) :
    ∃ first : String → Bool, (ofPackages (startingWith first packages)).rootPackage? = choice := by
  rw [rootChoices] at member
  split at member
  · next empty =>
      have every := rootChoices_subset_of_records (records_startingWith (fun _ => true) packages)
        (records_ofPackages packages) (rootPackage?_mem_rootChoices _)
      rw [rootChoices, if_pos empty] at every
      exact ⟨fun _ => true, (List.mem_singleton.mp every).trans (List.mem_singleton.mp member).symm⟩
  · obtain ⟨node, contender, rfl⟩ := List.mem_map.mp member
    exact ⟨_, rootPackage?_startingWith contender⟩

end PackageTree

end LibPrint
