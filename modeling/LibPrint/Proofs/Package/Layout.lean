import LibPrint.Package.Search
import Mathlib.Data.Fin.Rev
import Mathlib.Data.Fintype.Card
import Mathlib.Data.Fintype.EquivFin
import Mathlib.Data.List.FinRange

/-!
# Layouts of packages

A layout is laid out in another one when the children of every package are assigned to children of
its image. What is permitted of the assignments says how alike the two are: with bijections they are
the same up to names and order, with injections the one is a part of the other. The comparison of
shapes counts children and leaves and looks for a partner of each child by itself. That comes to
something between the two: leaves keep apart, while siblings with children may fall together.
-/

namespace LibPrint

namespace PackageNode

/-- What is passed on from the children to their parent holds of every node. -/
@[elab_as_elim]
theorem children_induction {motive : PackageNode → Prop}
    (step : ∀ node : PackageNode, (∀ child ∈ node.children, motive child) → motive node) :
    (node : PackageNode) → motive node
  | mk name classCount children => by
      apply step
      intro child member
      have smaller : sizeOf child < sizeOf children := List.sizeOf_lt_of_mem member
      exact children_induction step child
decreasing_by
  rw [PackageNode.mk.sizeOf_spec]
  omega

/-! ## The comparison alone -/

mutual

/-- Whether a node has the shape of the wanted one, found out anew for every two nodes. -/
def holdsShape (node : PackageNode) : (wanted : PackageNode) → Bool
  | wanted@(mk _ _ children) =>
      if node.children.length < children.length || node.leafCount < wanted.leafCount then false
      else if node.sameFan wanted then true
      else holdsShapesBelow node.children children && node.isLeaf == wanted.isLeaf

def holdsShapesBelow (nodes : List PackageNode) : (wanted : List PackageNode) → Bool
  | [] => true
  | child :: wanted =>
      nodes.any (fun node => node.holdsShape child) && holdsShapesBelow nodes wanted

end

theorem holdsShapesBelow_iff {nodes wanted : List PackageNode} :
    holdsShapesBelow nodes wanted = true ↔
      ∀ child ∈ wanted, ∃ node ∈ nodes, node.holdsShape child = true := by
  induction wanted with
  | nil => simp [holdsShapesBelow]
  | cons child wanted ih =>
      rw [holdsShapesBelow, Bool.and_eq_true, List.any_eq_true, ih, List.forall_mem_cons]

theorem holdsShape_iff {node wanted : PackageNode} :
    node.holdsShape wanted = true ↔
      wanted.children.length ≤ node.children.length ∧ wanted.leafCount ≤ node.leafCount ∧
        (node.sameFan wanted = true ∨
          (∀ child ∈ wanted.children, ∃ other ∈ node.children, other.holdsShape child = true) ∧
            node.isLeaf = wanted.isLeaf) := by
  obtain ⟨name, classCount, children⟩ := wanted
  have own : (mk name classCount children).children = children := rfl
  rw [holdsShape, own, ← holdsShapesBelow_iff]
  by_cases few : node.children.length < children.length ∨
      node.leafCount < leafCount (mk name classCount children)
  · rw [if_pos (by simpa using few)]
    simp only [Bool.false_eq_true, false_iff, not_and]
    omega
  · rw [if_neg (by simpa using few)]
    rw [not_or, Nat.not_lt, Nat.not_lt] at few
    simp only [few, true_and]
    cases node.sameFan (mk name classCount children) with
    | true => simp
    | false => simp

theorem sameFan_iff {node wanted : PackageNode} :
    node.sameFan wanted = true ↔ node.children.length = wanted.children.length ∧
      (∀ child ∈ node.children, child.isLeaf = true) ∧
        ∀ child ∈ wanted.children, child.isLeaf = true := by
  simp only [sameFan, leafCount, Bool.and_eq_true, beq_iff_eq]
  rw [← List.countP_eq_length, ← List.countP_eq_length]
  omega

theorem isLeaf_eq_of_length_eq {node wanted : PackageNode}
    (lengths : node.children.length = wanted.children.length) : node.isLeaf = wanted.isLeaf := by
  rw [isLeaf, isLeaf, Bool.eq_iff_iff, List.isEmpty_iff_length_eq_zero,
    List.isEmpty_iff_length_eq_zero, lengths]

/-! ## Assignments -/

/-- To each child of a wanted node, by its place, a child of another node. -/
abbrev Assignment (wanted node : PackageNode) : Type :=
  Fin wanted.children.length → Fin node.children.length

/-- The subtree of the wanted node is laid out in that of another one: its children are assigned to
children of the other, in a way that is permitted, and they are laid out there in turn. -/
inductive LaidOut (permits : (wanted node : PackageNode) → Assignment wanted node → Prop) :
    PackageNode → PackageNode → Prop where
  | mk {wanted node : PackageNode} (assign : Assignment wanted node)
      (permitted : permits wanted node assign)
      (below : ∀ place, LaidOut permits wanted.children[place] node.children[assign place]) :
      LaidOut permits wanted node

theorem LaidOut.imp
    {permits allows : (wanted node : PackageNode) → Assignment wanted node → Prop}
    (weaker : ∀ wanted node assign, permits wanted node assign → allows wanted node assign)
    {wanted node : PackageNode} (laid : LaidOut permits wanted node) :
    LaidOut allows wanted node := by
  induction laid with
  | mk assign permitted _ ih => exact .mk assign (weaker _ _ assign permitted) ih

/-- The two subtrees are one, but for names, class counts and the order of children. -/
def Isomorphic : (wanted node : PackageNode) → Prop :=
  LaidOut fun _ _ assign => Function.Bijective assign

/-- The wanted subtree is a part of the other one, at its top: the children of a package go to
different children of its image. -/
def EmbedsIn : (wanted node : PackageNode) → Prop :=
  LaidOut fun _ _ assign => Function.Injective assign

/-- What is asked of an assignment when shapes are compared. -/
structure Folds {wanted node : PackageNode} (assign : Assignment wanted node) : Prop where
  isLeaf_eq : node.isLeaf = wanted.isLeaf
  length_le : wanted.children.length ≤ node.children.length
  /-- Only children with children of their own fall together. -/
  apart : ∀ first second, first ≠ second → assign first = assign second →
    wanted.children[first].isLeaf = false

/-- The wanted subtree fits onto the other one when siblings with children may fall together. -/
def FoldsInto : (wanted node : PackageNode) → Prop :=
  LaidOut fun _ _ assign => Folds assign

theorem isomorphic_of_isLeaf {wanted node : PackageNode} (first : wanted.isLeaf = true)
    (second : node.isLeaf = true) : Isomorphic wanted node := by
  have none : wanted.children.length = 0 := List.isEmpty_iff_length_eq_zero.mp first
  have neither : node.children.length = 0 := List.isEmpty_iff_length_eq_zero.mp second
  refine LaidOut.mk (finCongr (none.trans neither.symm)) (Equiv.bijective _) ?_
  intro place
  have bound := place.isLt
  omega

/-- The order of two children does not matter. -/
theorem isomorphic_of_swapped {name otherName : String} {classCount otherCount : Nat}
    {first second third fourth : PackageNode} (outer : Isomorphic first fourth)
    (inner : Isomorphic second third) :
    Isomorphic (mk name classCount [first, second]) (mk otherName otherCount [third, fourth]) := by
  have bijective : Function.Bijective (Fin.rev : Fin 2 → Fin 2) := Fin.rev_bijective
  refine LaidOut.mk (Fin.rev : Fin 2 → Fin 2) bijective ?_
  rintro ⟨_ | _ | place, bound⟩
  · exact outer
  · exact inner
  · exact absurd bound (Nat.not_lt.mpr (Nat.le_add_left 2 place))

theorem Isomorphic.foldsInto {wanted node : PackageNode} (same : Isomorphic wanted node) :
    FoldsInto wanted node := by
  refine LaidOut.imp ?_ same
  intro wanted node assign bijective
  have lengths : wanted.children.length = node.children.length := by
    simpa using Fintype.card_of_bijective bijective
  refine ⟨isLeaf_eq_of_length_eq lengths.symm, Nat.le_of_eq lengths, ?_⟩
  intro first second different together
  exact absurd (bijective.injective together) different

theorem FoldsInto.isLeaf_eq {wanted node : PackageNode} (folds : FoldsInto wanted node) :
    node.isLeaf = wanted.isLeaf := by
  obtain ⟨_, permitted, _⟩ := folds
  exact permitted.isLeaf_eq

theorem foldsInto_of_isLeaf {wanted node : PackageNode} (first : wanted.isLeaf = true)
    (second : node.isLeaf = true) : FoldsInto wanted node := by
  have none : wanted.children = [] := List.isEmpty_iff.mp first
  have nowhere (place : Fin wanted.children.length) : False := by
    rw [none] at place
    exact place.elim0
  refine LaidOut.mk (fun place => (nowhere place).elim) ⟨second.trans first.symm, ?_, ?_⟩ ?_
  · rw [none]
    exact Nat.zero_le _
  · exact fun place => (nowhere place).elim
  · exact fun place => (nowhere place).elim

/-! ## Counting children -/

/-- The places of the children that pass a test. -/
abbrev Places (test : PackageNode → Bool) (node : PackageNode) : Type :=
  { place : Fin node.children.length // test node.children[place] = true }

theorem card_places (test : PackageNode → Bool) (node : PackageNode) :
    Fintype.card (Places test node) = node.children.countP test := by
  have counted : (List.finRange node.children.length).countP (fun place =>
      test node.children[place]) = node.children.countP test := by
    conv_rhs => rw [← List.map_getElem_finRange node.children, List.countP_map]
    rfl
  rw [Fintype.card_subtype, ← List.toFinset_finRange,
    (List.nodup_finRange _).card_eq_countP, ← counted]
  simp

theorem card_leafPlaces (node : PackageNode) :
    Fintype.card (Places isLeaf node) = node.leafCount :=
  card_places isLeaf node

/-- Children that pass a test are no more than their images, if these pass it and are different. -/
theorem countP_le_of_assignment {test : PackageNode → Bool} {wanted node : PackageNode}
    (assign : Assignment wanted node)
    (keeps : ∀ place, test wanted.children[place] = true →
      test node.children[assign place] = true)
    (apart : ∀ first second, test wanted.children[first] = true → assign first = assign second →
      first = second) :
    wanted.children.countP test ≤ node.children.countP test := by
  have injective : Function.Injective fun place : Places test wanted =>
      (⟨assign place.1, keeps place.1 place.2⟩ : Places test node) := by
    intro first second together
    exact Subtype.ext (apart first.1 second.1 first.2 (congrArg Subtype.val together))
  rw [← card_places, ← card_places]
  exact Fintype.card_le_of_injective _ injective

/-- An embedding needs as many children with children as there are. -/
theorem EmbedsIn.countP_le {wanted node : PackageNode} (embeds : EmbedsIn wanted node) :
    wanted.children.countP (fun child => !child.isLeaf) ≤
      node.children.countP fun child => !child.isLeaf := by
  obtain ⟨assign, injective, below⟩ := embeds
  refine countP_le_of_assignment assign ?_ fun _ _ _ together => injective together
  intro place occupied
  obtain ⟨inner, -, -⟩ := below place
  rw [isLeaf, Bool.not_eq_true', List.isEmpty_eq_false_iff] at occupied ⊢
  exact List.ne_nil_of_length_pos (inner ⟨0, List.length_pos_iff.mpr occupied⟩).pos

/-- When no two leaves fall together, there are no fewer leaves among the images. -/
theorem leafCount_le_of_folds {wanted node : PackageNode} {assign : Assignment wanted node}
    (folds : Folds assign)
    (below : ∀ place, FoldsInto wanted.children[place] node.children[assign place]) :
    wanted.leafCount ≤ node.leafCount := by
  refine countP_le_of_assignment assign ?_ ?_
  · exact fun place leaf => (below place).isLeaf_eq.trans leaf
  · intro first second leaf together
    by_contra different
    rw [folds.apart first second different together] at leaf
    cases leaf

/-- When there are enough leaves, leaves get partners of their own. -/
theorem exists_assignment {wanted node : PackageNode} (leaves : wanted.leafCount ≤ node.leafCount)
    (partners : ∀ place : Fin wanted.children.length, ∃ partner : Fin node.children.length,
      FoldsInto wanted.children[place] node.children[partner]) :
    ∃ assign : Assignment wanted node,
      (∀ first second, first ≠ second → assign first = assign second →
        wanted.children[first].isLeaf = false) ∧
      ∀ place, FoldsInto wanted.children[place] node.children[assign place] := by
  choose partner fits using partners
  rw [← card_leafPlaces, ← card_leafPlaces] at leaves
  obtain ⟨own⟩ := Function.Embedding.nonempty_of_card_le leaves
  let assign : Assignment wanted node := fun place =>
    if leaf : wanted.children[place].isLeaf = true then (own ⟨place, leaf⟩).1 else partner place
  have below (place : Fin wanted.children.length) :
      FoldsInto wanted.children[place] node.children[assign place] := by
    by_cases leaf : wanted.children[place].isLeaf = true
    · simp only [assign, dif_pos leaf]
      exact foldsInto_of_isLeaf leaf (own ⟨place, leaf⟩).2
    · simp only [assign, dif_neg leaf]
      exact fits place
  refine ⟨assign, ?_, below⟩
  intro first second different together
  by_contra leaf
  rw [Bool.not_eq_false] at leaf
  have image : node.children[assign first].isLeaf = node.children[assign second].isLeaf :=
    congrArg (fun place : Fin node.children.length => node.children[place].isLeaf) together
  have other : wanted.children[second].isLeaf = true :=
    (below second).isLeaf_eq.symm.trans (image.symm.trans ((below first).isLeaf_eq.trans leaf))
  simp only [assign, dif_pos leaf, dif_pos other] at together
  have same := congrArg Subtype.val (own.injective (Subtype.ext together))
  exact different same

/-! ## What the comparison finds -/

theorem FoldsInto.holdsShape {wanted node : PackageNode} (folds : FoldsInto wanted node) :
    node.holdsShape wanted = true := by
  induction folds with
  | mk assign permitted below ih =>
      refine holdsShape_iff.mpr ⟨permitted.length_le, leafCount_le_of_folds permitted below, ?_⟩
      refine .inr ⟨?_, permitted.isLeaf_eq⟩
      intro child member
      obtain ⟨place, bound, rfl⟩ := List.getElem_of_mem member
      exact ⟨_, List.getElem_mem _, ih ⟨place, bound⟩⟩

theorem foldsInto_of_holdsShape {wanted node : PackageNode}
    (holds : node.holdsShape wanted = true) : FoldsInto wanted node := by
  induction wanted using children_induction generalizing node with
  | step wanted ih =>
      obtain ⟨lengths, leaves, shape⟩ := holdsShape_iff.mp holds
      have partners (place : Fin wanted.children.length) :
          ∃ partner : Fin node.children.length,
            FoldsInto wanted.children[place] node.children[partner] := by
        have member : wanted.children[place] ∈ wanted.children := List.getElem_mem _
        rcases shape with fan | ⟨found, -⟩
        · obtain ⟨-, nodeLeaves, wantedLeaves⟩ := sameFan_iff.mp fan
          exact ⟨place.castLE lengths, foldsInto_of_isLeaf (wantedLeaves _ member)
            (nodeLeaves _ (List.getElem_mem _))⟩
        · obtain ⟨other, otherMem, holds⟩ := found _ member
          obtain ⟨partner, bound, rfl⟩ := List.getElem_of_mem otherMem
          exact ⟨⟨partner, bound⟩, ih _ member holds⟩
      have leaf : node.isLeaf = wanted.isLeaf := by
        rcases shape with fan | ⟨-, leaf⟩
        · exact isLeaf_eq_of_length_eq (sameFan_iff.mp fan).1
        · exact leaf
      obtain ⟨assign, apart, below⟩ := exists_assignment leaves partners
      exact LaidOut.mk assign ⟨leaf, lengths, apart⟩ below

/-- A node has the shape of another when that one folds into it. -/
theorem holdsShape_iff_foldsInto {wanted node : PackageNode} :
    node.holdsShape wanted = true ↔ FoldsInto wanted node :=
  ⟨foldsInto_of_holdsShape, FoldsInto.holdsShape⟩

end PackageNode

end LibPrint
