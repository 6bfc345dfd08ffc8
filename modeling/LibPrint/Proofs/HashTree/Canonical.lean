import LibPrint.HashTree
import LibPrint.Proofs.Sorting

/-!
# Canonical order of siblings

Siblings are ordered by digest and then by label, which is a lawful order on what they are compared
by. Two consequences carry most of what is known about trees: nodes that are found in another order
end up the same as long as ties are between equal nodes, and the digests of ordered nodes depend on
the digests alone, so labels never reach a hash.
-/

namespace LibPrint

theorem Text.compareOptional_eq_compare (left right : Option String) :
    Text.compareOptional left right = compare left right := by
  cases left <;> cases right <;> rfl

/-! ## Digests in order -/

namespace Digest

/-- The digests in order; with `filterDups` each of them once. -/
def canonical (filterDups : Bool) (digests : List Digest) : List Digest :=
  let sorted := digests.mergeSort fun left right => (compare left right).isLE
  if filterDups then sorted.eraseReps else sorted

/-- The digest of the digests, one after the other. -/
def combined (hash : List UInt8 → Digest) (digests : List Digest) : Digest :=
  hash (digests.flatMap Digest.bytes)

theorem canonical_eq_of_perm (filterDups : Bool) {left right : List Digest}
    (perm : left.Perm right) : canonical filterDups left = canonical filterDups right := by
  have sorted := mergeSort_eq_of_perm compare perm fun _ _ _ _ equal =>
    Std.LawfulEqCmp.eq_of_compare equal
  simp only [canonical, sorted]

/-- In order, equal digests stand side by side. -/
theorem canonical_eq_dedup (digests : List Digest) :
    canonical true digests =
      (digests.mergeSort fun left right => (compare left right).isLE).dedup :=
  eraseReps_eq_dedup (pairwise_mergeSort_isLE compare digests)

theorem nodup_canonical (digests : List Digest) : (canonical true digests).Nodup := by
  rw [canonical_eq_dedup]
  exact List.nodup_dedup _

theorem pairwise_canonical (filterDups : Bool) (digests : List Digest) :
    (canonical filterDups digests).Pairwise fun left right => (compare left right).isLE = true := by
  have sorted := pairwise_mergeSort_isLE compare digests
  cases filterDups with
  | false => exact sorted
  | true =>
      rw [canonical_eq_dedup]
      exact sorted.sublist (List.dedup_sublist _)

/-- Digests of which each is kept once ascend strictly. -/
theorem ascends_canonical (digests : List Digest) :
    (canonical true digests).Pairwise fun left right => compare left right = .lt := by
  apply ((pairwise_canonical true digests).and (nodup_canonical digests)).imp
  rintro left right ⟨below, different⟩
  cases order : compare left right with
  | lt => rfl
  | eq => exact absurd (Std.LawfulEqCmp.eq_of_compare order) different
  | gt => simp [order] at below

@[simp] theorem mem_canonical {filterDups : Bool} {digest : Digest} {digests : List Digest} :
    digest ∈ canonical filterDups digests ↔ digest ∈ digests := by
  cases filterDups with
  | false => exact List.mem_mergeSort
  | true => rw [canonical_eq_dedup, List.mem_dedup, List.mem_mergeSort]

/-- When each digest is kept once it only matters which digests there are. -/
theorem canonical_eq_of_mem_iff {left right : List Digest}
    (same : ∀ digest, digest ∈ left ↔ digest ∈ right) :
    canonical true left = canonical true right := by
  refine List.Perm.eq_of_pairwise ?_ (pairwise_canonical true left)
    (pairwise_canonical true right) ?_
  · intro first second _ _ below above
    exact Std.LawfulEqCmp.eq_of_compare (Std.OrientedCmp.isLE_antisymm below above)
  · apply (List.perm_ext_iff_of_nodup (nodup_canonical left) (nodup_canonical right)).mpr
    intro digest
    rw [mem_canonical, mem_canonical, same]

@[simp] theorem canonical_singleton (filterDups : Bool) (digest : Digest) :
    canonical filterDups [digest] = [digest] := by
  rw [canonical, List.mergeSort_singleton]
  cases filterDups <;> rfl

theorem canonical_pair (digest : Digest) : canonical false [digest, digest] = [digest, digest] := by
  apply List.mergeSort_of_pairwise
  simp [Std.ReflCmp.compare_self]

theorem canonical_eq_nil_iff {filterDups : Bool} {digests : List Digest} :
    canonical filterDups digests = [] ↔ digests = [] := by
  simp only [List.eq_nil_iff_forall_not_mem, mem_canonical]

end Digest

/-! ## Nodes in order -/

namespace Node

/-- Siblings are compared by digest and label in lexicographic order. -/
theorem compareSiblings_eq_compareLex :
    compareSiblings = compareLex (compareOn digest) (compareOn label) := by
  funext left right
  rw [compareSiblings, Text.compareOptional_eq_compare]
  rfl

instance : Std.TransCmp compareSiblings := by
  rw [compareSiblings_eq_compareLex]
  infer_instance

/-- Siblings are tied when they agree in digest and label. -/
theorem compareSiblings_eq_iff {left right : Node} :
    compareSiblings left right = .eq ↔ left.digest = right.digest ∧ left.label = right.label := by
  rw [compareSiblings, Text.compareOptional_eq_compare, Ordering.then_eq_eq,
    Std.LawfulEqCmp.compare_eq_iff_eq, Std.LawfulEqCmp.compare_eq_iff_eq]

/-- The canonical order does not depend on the order in which nodes are found when tied nodes are
equal. -/
theorem canonical_eq_of_perm (filterDups : Bool) {left right : List Node}
    (perm : left.Perm right)
    (ties : ∀ first ∈ left, ∀ second ∈ left,
      first.digest = second.digest → first.label = second.label → first = second) :
    canonical filterDups left = canonical filterDups right := by
  have sorted := mergeSort_eq_of_perm compareSiblings perm
    fun first firstMem second secondMem equal =>
      ties first firstMem second secondMem (compareSiblings_eq_iff.mp equal).1
        (compareSiblings_eq_iff.mp equal).2
  simp only [canonical, sorted]

/-- Where repetitions are kept, no sibling decides about another. -/
theorem canonical_filter (keep : Node → Bool) {nodes : List Node}
    (ties : ∀ first ∈ nodes, ∀ second ∈ nodes,
      first.digest = second.digest → first.label = second.label → first = second) :
    canonical false (nodes.filter keep) = (canonical false nodes).filter keep := by
  apply mergeSort_filter compareSiblings keep
  intro first firstMem second secondMem equal
  exact ties first firstMem second secondMem (compareSiblings_eq_iff.mp equal).1
    (compareSiblings_eq_iff.mp equal).2

/-- Sorting nodes sorts their digests, whatever the labels are. -/
theorem map_digest_mergeSort (nodes : List Node) :
    (nodes.mergeSort fun left right => (compareSiblings left right).isLE).map digest =
      (nodes.map digest).mergeSort fun left right => (compare left right).isLE := by
  have nodesAscend :
      ((nodes.mergeSort fun left right => (compareSiblings left right).isLE).map digest).Pairwise
        fun left right => (compare left right).isLE = true := by
    rw [List.pairwise_map]
    apply (pairwise_mergeSort_isLE compareSiblings nodes).imp
    intro first second ascending
    rw [compareSiblings] at ascending
    cases order : compare first.digest second.digest with
    | lt | eq => rfl
    | gt => simp [order] at ascending
  have digestsAscend := pairwise_mergeSort_isLE compare (nodes.map digest)
  refine List.Perm.eq_of_pairwise ?_ nodesAscend digestsAscend ?_
  · intro first second _ _ below above
    exact Std.LawfulEqCmp.eq_of_compare (Std.OrientedCmp.isLE_antisymm below above)
  · exact ((List.mergeSort_perm nodes _).map digest).trans (List.mergeSort_perm _ _).symm

/-- The digests of nodes in canonical order are their digests in order. -/
theorem map_digest_canonical (filterDups : Bool) (nodes : List Node) :
    (canonical filterDups nodes).map digest = Digest.canonical filterDups (nodes.map digest) := by
  cases filterDups with
  | false => exact map_digest_mergeSort nodes
  | true =>
      simp only [canonical, Digest.canonical, if_true]
      rw [← map_digest_mergeSort, eraseRepsBy_eq_destutter, eraseReps_eq_destutter]
      apply List.map_destutter
      intro left _ right _
      simp

/-- Of nodes of which one is kept for each digest no two have the same one. -/
theorem nodup_map_digest_canonical (nodes : List Node) :
    ((canonical true nodes).map digest).Nodup := by
  rw [map_digest_canonical]
  exact Digest.nodup_canonical _

/-- What is kept of the sorted nodes stays in their order. -/
theorem canonical_sublist (filterDups : Bool) (nodes : List Node) :
    (canonical filterDups nodes).Sublist
      (nodes.mergeSort fun left right => (compareSiblings left right).isLE) := by
  cases filterDups with
  | false => exact List.Sublist.refl _
  | true =>
      simp only [canonical, if_true, eraseRepsBy_eq_destutter]
      exact List.destutter_sublist _ _

/-- Nothing is added when nodes are put in order. -/
theorem mem_of_mem_canonical {filterDups : Bool} {nodes : List Node} {node : Node}
    (member : node ∈ canonical filterDups nodes) : node ∈ nodes :=
  List.mem_mergeSort.mp ((canonical_sublist filterDups nodes).subset member)

/-- A map that keeps digests and labels keeps the canonical order. -/
theorem map_canonical_of_label (filterDups : Bool) (image : Node → Node) (nodes : List Node)
    (digests : ∀ node ∈ nodes, (image node).digest = node.digest)
    (labels : ∀ node ∈ nodes, (image node).label = node.label) :
    (canonical filterDups nodes).map image = canonical filterDups (nodes.map image) := by
  have sorted : (nodes.mergeSort fun left right => (compareSiblings left right).isLE).map image =
      (nodes.map image).mergeSort fun left right => (compareSiblings left right).isLE := by
    apply List.map_mergeSort
    intro left leftMem right rightMem
    rw [compareSiblings, compareSiblings, digests left leftMem, digests right rightMem,
      labels left leftMem, labels right rightMem]
  cases filterDups with
  | false => exact sorted
  | true =>
      simp only [canonical, if_true]
      rw [← sorted, eraseRepsBy_eq_destutter, eraseRepsBy_eq_destutter]
      apply List.map_destutter
      intro left leftMem right rightMem
      rw [digests left (List.mem_mergeSort.mp leftMem),
        digests right (List.mem_mergeSort.mp rightMem)]

/-- Where a map leaves nothing but the digest, labels may decide which of equal digests comes first,
but that is not seen any more. -/
theorem map_canonical_of_digest (filterDups : Bool) (image : Node → Node) (nodes : List Node)
    (bare : Digest → Node) (keeps : ∀ digest, (bare digest).digest = digest)
    (made : ∀ node ∈ nodes, image node = bare node.digest) :
    (canonical filterDups nodes).map image = canonical filterDups (nodes.map image) := by
  have digests : (nodes.map image).map digest = nodes.map digest := by
    rw [List.map_map]
    apply List.map_congr_left
    intro node member
    rw [Function.comp, made node member, keeps]
  have bared : ∀ node ∈ canonical filterDups (nodes.map image), bare node.digest = node := by
    intro node member
    obtain ⟨origin, originMem, rfl⟩ := List.mem_map.mp (mem_of_mem_canonical member)
    rw [made origin originMem, keeps]
  calc (canonical filterDups nodes).map image
      = ((canonical filterDups nodes).map digest).map bare := by
        rw [List.map_map]
        apply List.map_congr_left
        intro node member
        exact made node (mem_of_mem_canonical member)
    _ = ((canonical filterDups (nodes.map image)).map digest).map bare := by
        rw [map_digest_canonical, map_digest_canonical, digests]
    _ = canonical filterDups (nodes.map image) := by
        rw [List.map_map]
        exact (List.map_congr_left bared).trans (List.map_id _)

theorem length_canonical (filterDups : Bool) (nodes : List Node) :
    (canonical filterDups nodes).length =
      (Digest.canonical filterDups (nodes.map digest)).length := by
  rw [← map_digest_canonical, List.length_map]

theorem combined_eq (hash : List UInt8 → Digest) (nodes : List Node) :
    combined hash nodes = Digest.combined hash (nodes.map digest) := by
  rw [combined, Digest.combined, List.flatMap_map]

theorem hasDigest_iff {nodes : List Node} {wanted : Digest} :
    hasDigest nodes wanted = true ↔ wanted ∈ nodes.map digest := by
  simp [hasDigest]

end Node

end LibPrint
