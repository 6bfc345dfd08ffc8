import LibPrint.Proofs.HashTree.Canonical
import LibPrint.Proofs.Text

/-!
# Siblings in canonical order

Every hash above a method is made of digests in canonical order, so what this order makes of a list
of siblings is said in full. All siblings are there, and tied ones stay as they were found. Where
repetitions go, equal digests have become neighbours by then, so one node is left of each digest,
and it is one whose label none of the others comes before. Either way nothing depends on the order
in which siblings were found but which of several tied ones is kept, and that is not hashed.
-/

namespace LibPrint

/-! ## The order of digests -/

/-- A comparison is a linear order. -/
structure IsLinear {α : Type} (cmp : α → α → Ordering) : Prop where
  swapped : ∀ left right, cmp right left = (cmp left right).swap
  total : ∀ left right, (cmp left right).isLE = true ∨ (cmp right left).isLE = true
  antisymm : ∀ left right, (cmp left right).isLE = true → (cmp right left).isLE = true →
    left = right
  trans : ∀ first second third, (cmp first second).isLE = true →
    (cmp second third).isLE = true → (cmp first third).isLE = true
  eq_iff : ∀ left right, cmp left right = .eq ↔ left = right

theorem isLinear {α : Type} (cmp : α → α → Ordering) [Std.TransCmp cmp] [Std.LawfulEqCmp cmp] :
    IsLinear cmp where
  swapped _ _ := Std.OrientedCmp.eq_swap
  total left right := Bool.or_eq_true_iff.mp (isLE_total cmp left right)
  antisymm _ _ below above :=
    Std.LawfulEqCmp.eq_of_compare (Std.OrientedCmp.isLE_antisymm below above)
  trans := isLE_trans cmp
  eq_iff _ _ := Std.LawfulEqCmp.compare_eq_iff_eq

namespace Digest

/-- Bytes that come before others: they end where the others go on, or have the smaller byte where
the two first differ. -/
inductive ComesBefore : List UInt8 → List UInt8 → Prop where
  | start {front rest : List UInt8} (longer : rest ≠ []) : ComesBefore front (front ++ rest)
  | byte {low high : UInt8} (front lows highs : List UInt8) (less : low < high) :
      ComesBefore (front ++ low :: lows) (front ++ high :: highs)

theorem ComesBefore.cons {left right : List UInt8} (before : ComesBefore left right)
    (byte : UInt8) : ComesBefore (byte :: left) (byte :: right) := by
  cases before with
  | start longer => exact .start longer
  | byte front lows highs less => exact .byte (byte :: front) lows highs less

theorem compare_cons_eq_lt_iff {low high : UInt8} {lows highs : List UInt8} :
    compare (low :: lows) (high :: highs) = .lt ↔
      low < high ∨ low = high ∧ compare lows highs = .lt := by
  change List.compareLex compare _ _ = .lt ↔ _
  rw [List.compareLex_cons_cons, Ordering.then_eq_lt, Std.LawfulEqCmp.compare_eq_iff_eq,
    Std.compare_eq_lt]
  rfl

theorem comesBefore_of_compare {left right : List UInt8} (below : compare left right = .lt) :
    ComesBefore left right := by
  induction left generalizing right with
  | nil =>
      cases right with
      | nil => cases below
      | cons high highs => exact .start (List.cons_ne_nil high highs)
  | cons low lows ih =>
      cases right with
      | nil => cases below
      | cons high highs =>
          rcases compare_cons_eq_lt_iff.mp below with less | ⟨rfl, others⟩
          · exact .byte [] lows highs less
          · exact (ih others).cons low

theorem compare_append_eq_lt_iff (front : List UInt8) {left right : List UInt8} :
    compare (front ++ left) (front ++ right) = .lt ↔ compare left right = .lt := by
  induction front with
  | nil => rfl
  | cons byte front ih =>
      rw [List.cons_append, List.cons_append, compare_cons_eq_lt_iff, ih]
      simp only [UInt8.lt_irrefl, true_and, false_or]

theorem ComesBefore.compare {left right : List UInt8} (before : ComesBefore left right) :
    Ord.compare left right = .lt := by
  cases before with
  | @start _ rest longer =>
      have ended : Ord.compare ([] : List UInt8) rest = .lt := by
        obtain ⟨byte, others, rfl⟩ := List.exists_cons_of_ne_nil longer
        rfl
      have parts := (compare_append_eq_lt_iff left).mpr ended
      rwa [List.append_nil] at parts
  | byte front lows highs less =>
      exact (compare_append_eq_lt_iff front).mpr (compare_cons_eq_lt_iff.mpr (.inl less))

/-- The order of digests is that of their bytes. -/
theorem compare_eq_lt_iff {left right : Digest} :
    compare left right = .lt ↔ ComesBefore left.bytes right.bytes :=
  ⟨comesBefore_of_compare, ComesBefore.compare⟩

theorem compare_eq_lt_of_prefix {left right : Digest} (starts : left.bytes <+: right.bytes)
    (different : left ≠ right) : compare left right = .lt := by
  obtain ⟨rest, parts⟩ := starts
  rw [compare_eq_lt_iff, ← parts]
  apply ComesBefore.start
  rintro rfl
  exact different (congrArg Digest.mk ((List.append_nil _).symm.trans parts))

end Digest

/-! ## The order of labels -/

/-- The first label comes no later than the second: an absent one is the first of all, and the
others are in the order of texts. -/
def Text.AtMost (left right : Option String) : Prop :=
  ∀ first ∈ left, ∃ second ∈ right, first ≤ second

theorem Text.isLE_compareOptional_iff {left right : Option String} :
    (compareOptional left right).isLE = true ↔ AtMost left right := by
  cases left with
  | none => cases right <;> simp [compareOptional, AtMost]
  | some first =>
      cases right with
      | none => simp [compareOptional, AtMost]
      | some second => simp [compareOptional, AtMost, isLE_compare_iff]

/-! ## Nodes -/

namespace Node

/-- A node comes no later than another one: its digest is smaller, or it is the same and the label
comes no later. -/
def AtMost (left right : Node) : Prop :=
  compare left.digest right.digest = .lt ∨
    left.digest = right.digest ∧ Text.AtMost left.label right.label

theorem isLE_compareSiblings_iff {left right : Node} :
    (compareSiblings left right).isLE = true ↔ AtMost left right := by
  rw [compareSiblings, AtMost, ← Text.isLE_compareOptional_iff]
  cases order : compare left.digest right.digest with
  | lt => simp
  | eq =>
      have same : left.digest = right.digest := Std.LawfulEqCmp.eq_of_compare order
      simp [same]
  | gt =>
      have different : left.digest ≠ right.digest := by
        intro same
        rw [same, Std.compare_self] at order
        cases order
      simp [different]

/-- Nodes in order: all of them are there, ascending by digest and then by label, and those that are
tied stay in the order they were found in. -/
structure Arranges (nodes arranged : List Node) : Prop where
  perm : arranged.Perm nodes
  ascends : arranged.Pairwise AtMost
  stable : ∀ digest label,
    arranged.filter (fun node => node.digest = digest ∧ node.label = label) =
      nodes.filter fun node => node.digest = digest ∧ node.label = label

/-- One node for each digest: the digests ascend strictly, each is there exactly once, and no node
that has the digest comes before the one that stands for it. -/
structure ArrangesOnce (nodes arranged : List Node) : Prop where
  ascends : arranged.Pairwise fun left right => compare left.digest right.digest = .lt
  once : ∀ digest ∈ nodes.map Node.digest, (arranged.map Node.digest).count digest = 1
  least : ∀ node ∈ arranged, node ∈ nodes ∧
    ∀ other ∈ nodes, other.digest = node.digest → Text.AtMost node.label other.label

theorem pairwise_sorted (nodes : List Node) :
    (nodes.mergeSort fun left right => (compareSiblings left right).isLE).Pairwise AtMost :=
  (pairwise_mergeSort_isLE compareSiblings nodes).imp isLE_compareSiblings_iff.mp

theorem arranges_canonical (nodes : List Node) : Arranges nodes (canonical false nodes) where
  perm := List.mergeSort_perm nodes _
  ascends := pairwise_sorted nodes
  stable digest label := by
    apply filter_mergeSort compareSiblings
    intro first _ second _ firstKept secondKept
    obtain ⟨firstDigest, firstLabel⟩ := of_decide_eq_true firstKept
    obtain ⟨secondDigest, secondLabel⟩ := of_decide_eq_true secondKept
    rw [compareSiblings_eq_iff.mpr ⟨firstDigest.trans secondDigest.symm,
      firstLabel.trans secondLabel.symm⟩]
    rfl

theorem ascends_canonical (nodes : List Node) :
    (canonical true nodes).Pairwise fun left right =>
      compare left.digest right.digest = .lt := by
  have digests := Digest.ascends_canonical (nodes.map digest)
  rwa [← map_digest_canonical, List.pairwise_map] at digests

/-- Of the nodes that are kept no two have the same digest. -/
theorem eq_of_digest_eq {nodes : List Node} {left right : Node}
    (leftMem : left ∈ canonical true nodes) (rightMem : right ∈ canonical true nodes)
    (same : left.digest = right.digest) : left = right :=
  List.inj_on_of_nodup_map (nodup_map_digest_canonical nodes) leftMem rightMem same

/-- What is kept for a node comes no later than the node itself. -/
theorem exists_mem_canonical {nodes : List Node} {node : Node} (member : node ∈ nodes) :
    ∃ kept ∈ canonical true nodes, kept.digest = node.digest ∧
      Text.AtMost kept.label node.label := by
  have alike (node : Node) : AtMost node node :=
    isLE_compareSiblings_iff.mp (compareSiblings_eq_iff.mpr ⟨rfl, rfl⟩ ▸ rfl)
  obtain ⟨kept, keptMem, same, before⟩ :=
    exists_mem_eraseRepsBy (fun left right => left.digest == right.digest) alike
      (fun _ => beq_self_eq_true _) (pairwise_sorted nodes) (List.mem_mergeSort.mpr member)
  refine ⟨kept, keptMem, eq_of_beq same, ?_⟩
  rcases before with below | ⟨-, labels⟩
  · rw [eq_of_beq same, Std.compare_self] at below
    cases below
  · exact labels

theorem arrangesOnce_canonical (nodes : List Node) :
    ArrangesOnce nodes (canonical true nodes) where
  ascends := ascends_canonical nodes
  once digest member := by
    have present : digest ∈ (canonical true nodes).map Node.digest := by
      rw [map_digest_canonical]
      exact Digest.mem_canonical.mpr member
    exact List.count_eq_one_of_mem (nodup_map_digest_canonical nodes) present
  least node nodeMem := by
    refine ⟨mem_of_mem_canonical nodeMem, ?_⟩
    intro other otherMem same
    obtain ⟨kept, keptMem, digest, labels⟩ := exists_mem_canonical otherMem
    rwa [eq_of_digest_eq keptMem nodeMem (digest.trans same)] at labels

/-- What is in order already stays as it is. -/
theorem canonical_canonical (filterDups : Bool) (nodes : List Node) :
    canonical filterDups (canonical filterDups nodes) = canonical filterDups nodes := by
  have ascends : (canonical filterDups nodes).Pairwise fun left right =>
      (compareSiblings left right).isLE = true :=
    (pairwise_mergeSort_isLE compareSiblings nodes).sublist (canonical_sublist filterDups nodes)
  cases filterDups with
  | false => exact List.mergeSort_of_pairwise ascends
  | true =>
      have sorted := List.mergeSort_of_pairwise ascends
      simp only [canonical, if_true] at sorted ⊢
      rw [sorted, eraseRepsBy_eraseRepsBy]

/-- The combined digest does not depend on the order in which the nodes are found. -/
theorem combined_canonical_eq_of_perm (hash : List UInt8 → Digest) (filterDups : Bool)
    {nodes others : List Node} (perm : nodes.Perm others) :
    combined hash (canonical filterDups nodes) = combined hash (canonical filterDups others) := by
  rw [combined_eq, combined_eq, map_digest_canonical, map_digest_canonical,
    Digest.canonical_eq_of_perm filterDups (perm.map digest)]

/-- Digests are in a linear order, byte by byte, with a proper start before what goes on. In
canonical order siblings ascend by digest and then by label, and none is lost, or one is left of
each digest, with the least label there is. Putting them in order again changes nothing, and their
combined digest is the same for whatever order they were found in. -/
theorem canonical_arranges :
    IsLinear (compare : Digest → Digest → Ordering) ∧
    (∀ left right : Digest,
      (compare left right = .lt ↔ Digest.ComesBefore left.bytes right.bytes) ∧
      (left.bytes <+: right.bytes → left ≠ right → compare left right = .lt)) ∧
    ∀ nodes : List Node,
      Arranges nodes (canonical false nodes) ∧
      ArrangesOnce nodes (canonical true nodes) ∧
      ∀ filterDups : Bool,
        canonical filterDups (canonical filterDups nodes) = canonical filterDups nodes ∧
        ∀ others, nodes.Perm others → ∀ hash : List UInt8 → Digest,
          combined hash (canonical filterDups nodes) =
            combined hash (canonical filterDups others) := by
  refine ⟨isLinear compare, ?_, ?_⟩
  · intro left right
    exact ⟨Digest.compare_eq_lt_iff, Digest.compare_eq_lt_of_prefix⟩
  · intro nodes
    refine ⟨arranges_canonical nodes, arrangesOnce_canonical nodes, ?_⟩
    intro filterDups
    refine ⟨canonical_canonical filterDups nodes, ?_⟩
    intro others perm hash
    exact combined_canonical_eq_of_perm hash filterDups perm

/-- Two nodes of one digest, the labelled one found first, and a third one whose digest is a start
of theirs. -/
theorem canonical_arranges_twins :
    let plain : Node := .mk ⟨[1, 2]⟩ (.method none) []
    let labelled : Node := .mk ⟨[1, 2]⟩ (.method (some "b")) []
    let shorter : Node := .mk ⟨[1]⟩ (.method (some "c")) []
    let nodes := [labelled, plain, shorter]
    nodes.Perm nodes.reverse ∧ compare shorter.digest plain.digest = .lt ∧
      ((canonical true nodes).map digest).count plain.digest = 1 ∧
      (∀ node ∈ canonical true nodes, node.digest = plain.digest → node.label = none) ∧
      combined .mk (canonical true nodes) = combined .mk (canonical true nodes.reverse) := by
  intro plain labelled shorter nodes
  have perm : nodes.Perm nodes.reverse := (List.reverse_perm nodes).symm
  obtain ⟨-, order, arranged⟩ := canonical_arranges
  obtain ⟨-, once, same⟩ := arranged nodes
  refine ⟨perm, (order _ _).2 (by decide) (by decide), once.once _ (by decide), ?_,
    (same true).2 _ perm _⟩
  intro node member digest
  have plainMem : plain ∈ nodes := List.mem_cons_of_mem _ List.mem_cons_self
  have least : Text.AtMost node.label none := (once.least node member).2 plain plainMem digest.symm
  cases label : node.label with
  | none => rfl
  | some text =>
      obtain ⟨_, absent, -⟩ := least text label
      cases absent

end Node

end LibPrint
