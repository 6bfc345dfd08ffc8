import LibPrint.Proofs.HashTree.Content
import Mathlib.Data.Set.Function

/-!
# Trees and the digest function

What the digest function is applied to while a tree is built. Where digests do not collide there, a
tree says what the tree would be that keeps each digest once.
-/

/-!
## What is hashed while a tree is built

The byte strings a digest function is applied to when a tree is built: the fuzzy descriptors of the
methods, and the joined digests of every class, of every package and of the root.
-/

namespace LibPrint.HashTree

section Messages

variable (hash : List UInt8 → Digest) (recipe : Recipe) (hierarchy : Hierarchy)

/-- What the digest of a class is the digest of. -/
def classMessage (info : ClassInfo) : List UInt8 :=
  (methodDigests hash recipe hierarchy info).flatMap Digest.bytes

/-- What the digest of a package is the digest of. -/
def packageMessage (contents : List (String × Digest)) (package : String) : List UInt8 :=
  (Digest.canonical recipe.filterDups
    ((contents.filter (·.1 == package)).map (·.2))).flatMap Digest.bytes

/-- What the digest of the root is the digest of. -/
def rootMessage (contents : List (String × Digest)) : List UInt8 :=
  (Digest.canonical recipe.filterDups (packageDigests hash recipe contents)).flatMap Digest.bytes

variable (classes : List ClassInfo)

/-- A byte string is hashed while the tree over the classes is built. -/
inductive Hashed : List UInt8 → Prop where
  | method {info : ClassInfo} {method : Method} (left : info ∈ survivors recipe classes)
      (admits : method ∈ admitted recipe info) :
      Hashed (Text.encode (hierarchy.fuzzyDescriptor info method))
  | «class» {info : ClassInfo} (left : info ∈ survivors recipe classes) :
      Hashed (classMessage hash recipe hierarchy info)
  | package {name : String} (used : name ∈ (survivors recipe classes).map ClassInfo.package) :
      Hashed (packageMessage recipe (contents hash recipe hierarchy classes) name)
  | root : Hashed (rootMessage hash recipe (contents hash recipe hierarchy classes))

/-- All byte strings that are hashed while the tree over the classes is built. -/
def messages : Set (List UInt8) :=
  {message | Hashed hash recipe hierarchy classes message}

/-! ### A single class -/

variable {hash recipe hierarchy classes} {info : ClassInfo}
  (single : survivors recipe classes = [info])
include single

theorem contents_of_single :
    contents hash recipe hierarchy classes =
      [(info.package, classDigest hash recipe hierarchy info)] := by
  rw [contents, single, List.map_singleton]

theorem digests_buildFrom_of_single (level : Verboseness) :
    (buildFrom hash ⟨recipe, level⟩ hierarchy classes).packages.map Node.digest =
      [hash (classDigest hash recipe hierarchy info).bytes] := by
  rw [map_digest_packages_buildFrom]
  simp [packageDigests, contents_of_single single, packageDigest, Digest.combined]

/-- What is hashed for one class: its methods, then a chain of three more. -/
theorem hashed_of_single {message : List UInt8}
    (hashed : Hashed hash recipe hierarchy classes message) :
    (∃ method ∈ admitted recipe info,
      message = Text.encode (hierarchy.fuzzyDescriptor info method)) ∨
    message ∈ [classMessage hash recipe hierarchy info,
      (classDigest hash recipe hierarchy info).bytes,
      (hash (classDigest hash recipe hierarchy info).bytes).bytes] := by
  have only {other : ClassInfo} (left : other ∈ survivors recipe classes) : other = info := by
    rwa [single, List.mem_singleton] at left
  have contents : contents hash recipe hierarchy classes =
      [(info.package, classDigest hash recipe hierarchy info)] := contents_of_single single
  cases hashed with
  | method left admits =>
      obtain rfl := only left
      exact .inl ⟨_, admits, rfl⟩
  | «class» left =>
      obtain rfl := only left
      simp
  | package used =>
      rw [single, List.map_singleton, List.mem_singleton] at used
      simp [packageMessage, contents, used]
  | root =>
      simp [rootMessage, packageDigests, packageDigest, contents, Digest.combined]

end Messages

end LibPrint.HashTree

/-!
## Keeping each digest once

A tree in which repeated siblings are kept says more than one in which each digest is kept once, but
it says it through digests. Where these have one length and do not collide, a digest stands for the
digests below it, with how often each occurs, and so decides what the digest would be if each of
them was kept once.
-/

namespace LibPrint

namespace Recipe

/-- The recipe with repeated siblings kept. -/
def repeating (recipe : Recipe) : Recipe :=
  { recipe with filterDups := false }

/-- The recipe with siblings of equal digest kept once. -/
def deduplicating (recipe : Recipe) : Recipe :=
  { recipe with filterDups := true }

end Recipe

namespace Digest

/-- Joined bytes can be taken apart again where digests have one length. -/
theorem eq_of_flatMap_bytes {width : Nat} (positive : 0 < width) {left right : List Digest}
    (leftWidth : ∀ digest ∈ left, digest.bytes.length = width)
    (rightWidth : ∀ digest ∈ right, digest.bytes.length = width)
    (joined : left.flatMap bytes = right.flatMap bytes) : left = right := by
  induction left generalizing right with
  | nil =>
      cases right with
      | nil => rfl
      | cons digest right =>
          have length := congrArg List.length joined
          rw [List.flatMap_nil, List.flatMap_cons, List.length_append,
            rightWidth digest List.mem_cons_self, List.length_nil] at length
          omega
  | cons first left ih =>
      have firstWidth := leftWidth first List.mem_cons_self
      cases right with
      | nil =>
          have length := congrArg List.length joined
          rw [List.flatMap_nil, List.flatMap_cons, List.length_append, firstWidth,
            List.length_nil] at length
          omega
      | cons second right =>
          have secondWidth := rightWidth second List.mem_cons_self
          rw [List.flatMap_cons, List.flatMap_cons] at joined
          obtain ⟨heads, tails⟩ := List.append_inj joined (firstWidth.trans secondWidth.symm)
          have same : first = second := congrArg Digest.mk heads
          have rest := ih (fun digest member => leftWidth digest (List.mem_cons_of_mem _ member))
            (fun digest member => rightWidth digest (List.mem_cons_of_mem _ member)) tails
          rw [same, rest]

end Digest

namespace HashTree

/-! ### Digests of one width -/

section Width

variable {hash : List UInt8 → Digest} {width : Nat}
  (fixed : ∀ message, (hash message).bytes.length = width)
include fixed

theorem length_of_mem_methodDigests {recipe : Recipe} {hierarchy : Hierarchy} {info : ClassInfo}
    {digest : Digest} (member : digest ∈ methodDigests hash recipe hierarchy info) :
    digest.bytes.length = width := by
  obtain ⟨method, _, rfl⟩ := List.mem_map.mp (Digest.mem_canonical.mp member)
  exact fixed _

theorem length_of_mem_digests {recipe : Recipe} {hierarchy : Hierarchy}
    {classes : List ClassInfo} {package : String} {digest : Digest}
    (member : digest ∈
      ((contents hash recipe hierarchy classes).filter (·.1 == package)).map (·.2)) :
    digest.bytes.length = width := by
  obtain ⟨info, _, _, rfl⟩ := mem_digests_contents.mp member
  exact fixed _

theorem eq_of_width_zero (empty : width = 0) (first second : List UInt8) :
    hash first = hash second := by
  have nothing (message : List UInt8) : hash message = ⟨[]⟩ :=
    congrArg Digest.mk (List.eq_nil_of_length_eq_zero ((fixed message).trans empty))
  rw [nothing first, nothing second]

end Width

/-! ### From repeated to single digests -/

section Transfer

variable {hash : List UInt8 → Digest} {width : Nat}
  (fixed : ∀ message, (hash message).bytes.length = width) {recipe : Recipe}
  {left right : Hierarchy} {classes others : List ClassInfo}
  (apart : Set.InjOn hash (messages hash recipe.repeating left classes ∪
    messages hash recipe.repeating right others))
include fixed apart

theorem classDigest_deduplicating (positive : 0 < width) {info other : ClassInfo}
    (leftMem : info ∈ survivors recipe classes) (rightMem : other ∈ survivors recipe others)
    (equal : classDigest hash recipe.repeating left info =
      classDigest hash recipe.repeating right other) :
    classDigest hash recipe.deduplicating left info =
      classDigest hash recipe.deduplicating right other := by
  have joined : classMessage hash recipe.repeating left info =
      classMessage hash recipe.repeating right other :=
    apart (.inl (Hashed.class leftMem)) (.inr (Hashed.class rightMem)) equal
  have repeated : methodDigests hash recipe.repeating left info =
      methodDigests hash recipe.repeating right other :=
    Digest.eq_of_flatMap_bytes positive (fun _ => length_of_mem_methodDigests fixed)
      (fun _ => length_of_mem_methodDigests fixed) joined
  have single : methodDigests hash recipe.deduplicating left info =
      methodDigests hash recipe.deduplicating right other := by
    apply Digest.canonical_eq_of_mem_iff
    intro digest
    have members : digest ∈ methodDigests hash recipe.repeating left info ↔
        digest ∈ methodDigests hash recipe.repeating right other := by rw [repeated]
    rwa [methodDigests, methodDigests, Digest.mem_canonical, Digest.mem_canonical] at members
  rw [classDigest, classDigest, single]

/-- Packages of one digest have the same digest still when repetitions are left out. -/
theorem packageDigest_deduplicating {package counterpart : String}
    (leftUsed : package ∈ (survivors recipe classes).map ClassInfo.package)
    (rightUsed : counterpart ∈ (survivors recipe others).map ClassInfo.package)
    (equal : packageDigest hash recipe.repeating
        (contents hash recipe.repeating left classes) package =
      packageDigest hash recipe.repeating
        (contents hash recipe.repeating right others) counterpart) :
    packageDigest hash recipe.deduplicating
        (contents hash recipe.deduplicating left classes) package =
      packageDigest hash recipe.deduplicating
        (contents hash recipe.deduplicating right others) counterpart := by
  rcases Nat.eq_zero_or_pos width with empty | positive
  · exact eq_of_width_zero fixed empty _ _
  have joined : packageMessage recipe.repeating
        (contents hash recipe.repeating left classes) package =
      packageMessage recipe.repeating
        (contents hash recipe.repeating right others) counterpart :=
    apart (.inl (Hashed.package leftUsed)) (.inr (Hashed.package rightUsed)) equal
  have repeated := Digest.eq_of_flatMap_bytes positive
    (fun _ member => length_of_mem_digests fixed (Digest.mem_canonical.mp member))
    (fun _ member => length_of_mem_digests fixed (Digest.mem_canonical.mp member)) joined
  have members (digest : Digest) :
      digest ∈ ((contents hash recipe.repeating left classes).filter (·.1 == package)).map (·.2) ↔
        digest ∈ ((contents hash recipe.repeating right others).filter
          (·.1 == counterpart)).map (·.2) := by
    rw [← @Digest.mem_canonical recipe.repeating.filterDups, repeated, Digest.mem_canonical]
  rw [packageDigest, packageDigest]
  congr 1
  apply Digest.canonical_eq_of_mem_iff
  intro digest
  rw [mem_digests_contents, mem_digests_contents]
  constructor
  · rintro ⟨info, leftMem, within, rfl⟩
    obtain ⟨other, rightMem, also, same⟩ := mem_digests_contents.mp
      ((members _).mp (mem_digests_contents.mpr ⟨info, leftMem, within, rfl⟩))
    exact ⟨other, rightMem, also,
      (classDigest_deduplicating fixed apart positive leftMem rightMem same.symm).symm⟩
  · rintro ⟨other, rightMem, also, rfl⟩
    obtain ⟨info, leftMem, within, same⟩ := mem_digests_contents.mp
      ((members _).mpr (mem_digests_contents.mpr ⟨other, rightMem, also, rfl⟩))
    exact ⟨info, leftMem, within,
      classDigest_deduplicating fixed apart positive leftMem rightMem same⟩

/-- When all package digests of one tree are among those of another, so they are when each is kept
once. -/
theorem digests_deduplicating {leftLevel rightLevel leftOther rightOther : Verboseness}
    (among : ∀ digest ∈ (buildFrom hash ⟨recipe.repeating, rightLevel⟩ right others).packages.map
        Node.digest,
      digest ∈ (buildFrom hash ⟨recipe.repeating, leftLevel⟩ left classes).packages.map
        Node.digest) :
    ∀ digest ∈ (buildFrom hash ⟨recipe.deduplicating, rightOther⟩ right others).packages.map
        Node.digest,
      digest ∈ (buildFrom hash ⟨recipe.deduplicating, leftOther⟩ left classes).packages.map
        Node.digest := by
  intro digest member
  obtain ⟨counterpart, rightUsed, rfl⟩ := mem_digests_buildFrom.mp member
  obtain ⟨package, leftUsed, equal⟩ :=
    mem_digests_buildFrom.mp (among _ (mem_digests_buildFrom.mpr ⟨counterpart, rightUsed, rfl⟩))
  exact mem_digests_buildFrom.mpr
    ⟨package, leftUsed, packageDigest_deduplicating fixed apart leftUsed rightUsed equal⟩

end Transfer

end HashTree

end LibPrint
