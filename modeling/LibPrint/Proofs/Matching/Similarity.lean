import LibPrint.Matching.Candidate
import LibPrint.Proofs.HashTree.Canonical
import LibPrint.Proofs.Score.Share

/-!
# How similar nodes are

Similarity is a share of the library node's children, counted as often as they are listed, and it is
rounded. What counts is where it begins and where it ends: rounding neither makes a partial match a
full one nor a match none at all, as long as a library node has fewer than 2 ^ 24 children. What the
app node has beyond the library node's children plays no part, so more of it never makes the match
worse.
-/

namespace LibPrint.Matching

variable {lib app other : Node}

/-! ## Shared children -/

theorem sharedChildren_le (lib app : Node) : sharedChildren lib app ≤ lib.children.length :=
  List.countP_le_length

theorem sharedChildren_eq_length_iff :
    sharedChildren lib app = lib.children.length ↔
      ∀ child ∈ lib.children, child.digest ∈ app.children.map Node.digest := by
  simp only [sharedChildren, List.countP_eq_length, Node.hasDigest_iff]

theorem sharedChildren_eq_zero_iff :
    sharedChildren lib app = 0 ↔
      ∀ child ∈ lib.children, child.digest ∉ app.children.map Node.digest := by
  simp only [sharedChildren, List.countP_eq_zero, Node.hasDigest_iff]

theorem sharedChildren_mono
    (more : app.children.map Node.digest ⊆ other.children.map Node.digest) :
    sharedChildren lib app ≤ sharedChildren lib other := by
  apply List.countP_mono_left
  intro child _ shared
  exact Node.hasDigest_iff.mpr (more (Node.hasDigest_iff.mp shared))

/-! ## The cases of similarity -/

theorem similarity_of_level_ne (apart : lib.level ≠ app.level) : similarity lib app = .zero :=
  if_pos apart

section SameLevel

variable (level : lib.level = app.level)
include level

theorem similarity_of_digest_eq (same : lib.digest = app.digest) : similarity lib app = .one := by
  rw [similarity, if_neg (not_not.mpr level), if_pos same]

theorem similarity_of_leaf (differ : lib.digest ≠ app.digest) (leaf : lib.children = []) :
    similarity lib app = .zero := by
  rw [similarity, if_neg (not_not.mpr level), if_neg differ, leaf]
  rfl

theorem similarity_of_children (differ : lib.digest ≠ app.digest) (inner : lib.children ≠ []) :
    similarity lib app = .ratio (sharedChildren lib app) lib.children.length := by
  rw [similarity, if_neg (not_not.mpr level), if_neg differ,
    if_neg (mt List.isEmpty_iff.mp inner)]

end SameLevel

/-- What similarity is: nothing, everything or a share of the children. -/
inductive Compared (lib app : Node) : Score → Prop where
  | apart (levels : lib.level ≠ app.level) : Compared lib app .zero
  | same (levels : lib.level = app.level) (digests : lib.digest = app.digest) :
      Compared lib app .one
  | leaf (levels : lib.level = app.level) (digests : lib.digest ≠ app.digest)
      (children : lib.children = []) : Compared lib app .zero
  | share (levels : lib.level = app.level) (digests : lib.digest ≠ app.digest)
      (children : lib.children ≠ []) :
      Compared lib app (.ratio (sharedChildren lib app) lib.children.length)

theorem compared_similarity (lib app : Node) : Compared lib app (similarity lib app) := by
  by_cases levels : lib.level = app.level
  · by_cases digests : lib.digest = app.digest
    · rw [similarity_of_digest_eq levels digests]
      exact .same levels digests
    · by_cases children : lib.children = []
      · rw [similarity_of_leaf levels digests children]
        exact .leaf levels digests children
      · rw [similarity_of_children levels digests children]
        exact .share levels digests children
  · rw [similarity_of_level_ne levels]
    exact .apart levels

/-! ## Where similarity begins and ends -/

section Small

variable (small : lib.children.length < 2 ^ 24)
include small

theorem similarity_bounds :
    (similarity lib app).isNegative = false ∧ .zero ≤ similarity lib app ∧
      similarity lib app ≤ .one := by
  have compared := compared_similarity lib app
  generalize similarity lib app = score at compared ⊢
  cases compared with
  | apart | same | leaf => decide
  | share _ _ inner =>
      have occupied := mt List.length_eq_zero_iff.mp inner
      have within := sharedChildren_le lib app
      exact ⟨Score.isNegative_ratio small occupied within,
        Score.ratio_bounds small occupied within⟩

theorem similarity_eq_one_iff :
    similarity lib app = .one ↔
      lib.level = app.level ∧ (lib.digest = app.digest ∨ lib.children ≠ [] ∧
        ∀ child ∈ lib.children, child.digest ∈ app.children.map Node.digest) := by
  have compared := compared_similarity lib app
  generalize similarity lib app = score at compared ⊢
  cases compared with
  | apart levels => simp [levels, Score.zero, Score.one]
  | same levels digests => simp [levels, digests]
  | leaf levels digests leaf => simp [levels, digests, leaf, Score.zero, Score.one]
  | share levels digests inner =>
      have occupied := mt List.length_eq_zero_iff.mp inner
      rw [Score.ratio_eq_one_iff small occupied (sharedChildren_le lib app),
        sharedChildren_eq_length_iff]
      simp only [levels, digests, inner, ne_eq, not_false_eq_true, true_and, false_or]

theorem similarity_eq_zero_iff :
    similarity lib app = .zero ↔
      lib.level ≠ app.level ∨ lib.digest ≠ app.digest ∧
        ∀ child ∈ lib.children, child.digest ∉ app.children.map Node.digest := by
  have compared := compared_similarity lib app
  generalize similarity lib app = score at compared ⊢
  cases compared with
  | apart levels => simp [levels]
  | same levels digests => simp [levels, digests, Score.zero, Score.one]
  | leaf levels digests leaf => simp [digests, leaf]
  | share levels digests inner =>
      have occupied := mt List.length_eq_zero_iff.mp inner
      rw [Score.ratio_eq_zero_iff small occupied (sharedChildren_le lib app),
        sharedChildren_eq_zero_iff]
      simp only [levels, digests, ne_eq, not_true_eq_false, not_false_eq_true, true_and, false_or]

/-- What an app node has in addition never makes it less similar. -/
theorem similarity_mono (level : other.level = app.level) (digest : other.digest = app.digest)
    (more : app.children.map Node.digest ⊆ other.children.map Node.digest) :
    similarity lib app ≤ similarity lib other := by
  have compared := compared_similarity lib app
  generalize similarity lib app = score at compared ⊢
  cases compared with
  | apart levels =>
      rw [similarity_of_level_ne (level ▸ levels)]
      decide
  | same levels digests =>
      rw [similarity_of_digest_eq (level ▸ levels) (digest ▸ digests)]
      decide
  | leaf levels digests leaf =>
      rw [similarity_of_leaf (level ▸ levels) (digest ▸ digests) leaf]
      decide
  | share levels digests inner =>
      have occupied := mt List.length_eq_zero_iff.mp inner
      rw [similarity_of_children (level ▸ levels) (digest ▸ digests) inner]
      exact Score.ratio_le_ratio small occupied (sharedChildren_mono more)
        (sharedChildren_le lib other)

/-- Similarity goes from zero to one. It is one exactly for nodes of one level of which the digests
are equal or all children of the library node, and there are some, are found; it is zero exactly for
nodes of different levels and for those of different digests without a common child; and an app node
of the same level and digest that has all children of the first one is at least as similar. -/
theorem similarity_is_graded (app : Node) :
    ((similarity lib app).isNegative = false ∧ .zero ≤ similarity lib app ∧
      similarity lib app ≤ .one) ∧
    (similarity lib app = .one ↔
      lib.level = app.level ∧ (lib.digest = app.digest ∨ lib.children ≠ [] ∧
        ∀ child ∈ lib.children, child.digest ∈ app.children.map Node.digest)) ∧
    (similarity lib app = .zero ↔
      lib.level ≠ app.level ∨ lib.digest ≠ app.digest ∧
        ∀ child ∈ lib.children, child.digest ∉ app.children.map Node.digest) ∧
    ∀ other : Node, other.level = app.level → other.digest = app.digest →
      app.children.map Node.digest ⊆ other.children.map Node.digest →
        similarity lib app ≤ similarity lib other :=
  ⟨similarity_bounds small, similarity_eq_one_iff small, similarity_eq_zero_iff small,
    fun _ => similarity_mono small⟩

end Small

/-- A library node that lists a child twice is partly found in one app node. It is found completely
in another one, which has the children of the first and more. -/
theorem similarity_is_graded_overlap :
    let child (byte : UInt8) : Node := .mk ⟨[byte]⟩ (.class none) []
    let package (byte : UInt8) (children : List UInt8) : Node :=
      .mk ⟨[byte]⟩ (.package none) (children.map child)
    let lib := package 1 [10, 11, 12, 10]
    let app := package 2 [11, 20]
    let other := package 2 [12, 20, 11, 10]
    lib.children.length < 2 ^ 24 ∧ similarity lib app ≠ .zero ∧ similarity lib app ≠ .one ∧
      similarity lib app ≤ similarity lib other ∧ similarity lib other = .one := by
  intro child package lib app other
  have small : lib.children.length < 2 ^ 24 := by decide
  obtain ⟨-, one, zero, more⟩ := similarity_is_graded small app
  obtain ⟨-, otherOne, -, -⟩ := similarity_is_graded small other
  refine ⟨small, mt zero.mp ?_, mt one.mp ?_, more other rfl rfl ?_, otherOne.mpr ?_⟩
  all_goals decide

end LibPrint.Matching
