import LibPrint.Proofs.Matching.Assignment

/-!
# Which library packages may share an app package

Picks are made list by list, and no pick is withheld from the lists after it: one package of the app
may be selected for several packages of the library. What keeps picks apart are the two checks that
are made. A pick is as deep as its library package, and neighbours lie to each other as their
library packages do, where a package lies to itself as to a sibling.
-/

namespace LibPrint.Matching

open Package (depth relationship relationship_converse relationship_self)

/-- The picks of the first optimal counter, with a place for each candidate list. -/
def Selected (lists : List CandidateList) (partition : String)
    (picked : List (Option Candidate)) : Prop :=
  ∃ restricted counter, restrict? lists partition = some restricted ∧
    Optimal restricted (relationships lists) counter ∧
    (∀ other, Optimal restricted (relationships lists) other → other ≠ counter →
      List.Lex (· < ·) counter other) ∧
    picked = picks restricted counter

/-- Two places among the lists whose picks are kept apart. -/
inductive ToldApart (lists : List CandidateList) (picked : List (Option Candidate)) :
    Nat → Nat → Prop where
  /-- The library packages are not of one depth. -/
  | depths {place other : Nat} {first second : CandidateList}
      (firstAt : lists[place]? = some first) (secondAt : lists[other]? = some second)
      (differ : depth first.package ≠ depth second.package) : ToldApart lists picked place other
  /-- The lists are neighbours, and the library packages no siblings. -/
  | neighbours {place : Nat} {first second : CandidateList}
      (firstAt : lists[place]? = some first) (secondAt : lists[place + 1]? = some second)
      (apart : relationship first.package second.package ≠ .sibling) :
      ToldApart lists picked place (place + 1)
  /-- Something is picked for the list between them, whose library package lies differently to the
  two. -/
  | around {place : Nat} {first middle second : CandidateList} {between : Candidate}
      (firstAt : lists[place]? = some first) (middleAt : lists[place + 1]? = some middle)
      (secondAt : lists[place + 2]? = some second)
      (betweenAt : picked[place + 1]? = some (some between))
      (differ : relationship first.package middle.package ≠
        relationship second.package middle.package) :
      ToldApart lists picked place (place + 2)

section Picks

variable {lists : List CandidateList} {partition : String} {picked : List (Option Candidate)}

theorem Selected.consistent (selected : Selected lists partition picked) :
    Consistent (relationships lists) picked := by
  obtain ⟨_, _, -, optimal, -, rfl⟩ := selected
  exact optimal.admissible.consistent

/-- A pick is as deep as the library package it was selected for. -/
theorem Selected.depth_eq (selected : Selected lists partition picked) {place : Nat}
    {list : CandidateList} {candidate : Candidate} (listAt : lists[place]? = some list)
    (pickAt : picked[place]? = some (some candidate)) :
    depth candidate.package = depth list.package := by
  obtain ⟨restricted, counter, kept, optimal, -, rfl⟩ := selected
  obtain ⟨-, rfl, -⟩ := restrict?_eq_some_iff.mp kept
  have arePicks := forall₂_isPick_picks optimal.admissible.counts
  rw [List.forall₂_map_left_iff, List.forall₂_iff_get] at arePicks
  obtain ⟨listBelow, rfl⟩ := List.getElem?_eq_some_iff.mp listAt
  obtain ⟨pickBelow, isPick⟩ := List.getElem?_eq_some_iff.mp pickAt
  have proposed := arePicks.2 place listBelow pickBelow
  rw [List.get_eq_getElem, List.get_eq_getElem, isPick] at proposed
  obtain ⟨-, fit⟩ := List.mem_filter.mp proposed
  exact eq_of_beq (Bool.and_eq_true_iff.mp fit).2

/-- Picks that are told apart are different packages. -/
theorem Selected.package_ne (selected : Selected lists partition picked) {place other : Nat}
    {left right : Candidate} (told : ToldApart lists picked place other)
    (leftAt : picked[place]? = some (some left)) (rightAt : picked[other]? = some (some right)) :
    left.package ≠ right.package := by
  intro same
  cases told with
  | depths firstAt secondAt differ =>
      apply differ
      rw [← selected.depth_eq firstAt leftAt, ← selected.depth_eq secondAt rightAt, same]
  | neighbours firstAt secondAt apart =>
      apply apart
      rw [← relationship_of_consistent selected.consistent firstAt secondAt leftAt rightAt, same,
        relationship_self]
  | around firstAt middleAt secondAt betweenAt differ =>
      have before :=
        relationship_of_consistent selected.consistent firstAt middleAt leftAt betweenAt
      have after :=
        relationship_of_consistent selected.consistent middleAt secondAt betweenAt rightAt
      apply differ
      calc relationship _ _
        _ = relationship left.package _ := before.symm
        _ = (relationship _ right.package).converse := by rw [same, relationship_converse]
        _ = relationship _ _ := by rw [after, ← relationship_converse]

end Picks

/-! ## The match -/

variable {options : Options} {app lib : HashTree} {libRoot : Option String}

/-- What is reported with a root package are the picks of the first optimal counter, and no package
is there twice for library packages that are told apart. -/
theorem matchTrees_tells_apart {result : TreeMatch} {partition : String}
    (matched : matchTrees options app lib libRoot = .ok result)
    (reported : result.rootPackage = some partition) :
    let lists := candidateLists lib.packages app.packages options.appPackage
    ∃ picked, Selected lists partition picked ∧
      result.nodes = (picked.filterMap id).map (·.node) ∧
      ∀ place other left right, ToldApart lists picked place other →
        picked[place]? = some (some left) → picked[other]? = some (some right) →
          left.package ≠ right.package := by
  intro lists
  obtain ⟨root, rfl, rfl⟩ := exists_partialMatch_of_rootPackage matched reported
  rcases partialMatch_cases options app lib root with ⟨-, nothing⟩ | ⟨best, wins, result⟩
  · rw [nothing] at reported
    cases reported
  · rw [result] at reported ⊢
    obtain rfl := Option.some.inj reported
    obtain ⟨-, restricted, kept, -, aligned⟩ := mem_alignments.mp wins.member
    obtain ⟨counter, optimal, first, -, selection⟩ := exists_optimal_of_align aligned
    have selected : Selected lists best.partition (picks restricted counter) :=
      ⟨restricted, counter, kept, optimal, first, rfl⟩
    refine ⟨_, selected, by rw [selection], ?_⟩
    intro place other left right told leftAt rightAt
    exact selected.package_ne told leftAt rightAt

/-- The second package of the library is below the first, so it has a package of its own. -/
theorem matchTrees_tells_apart_nested :
    let package (digest : UInt8) (name : String) (classes : List UInt8) : Node :=
      .mk ⟨[digest]⟩ (.package (some name))
        (classes.map fun digest => .mk ⟨[digest]⟩ (.class none) [])
    let lib := HashTree.ofPackages .standard
      [package 1 "r.a" [11, 12], package 2 "r.a.b" [21, 22]] ⟨2, 4, 0⟩
    let app := HashTree.ofPackages .standard
      [package 3 "p.x" [11, 12, 13], package 4 "p.x.y" [21, 22, 23]] ⟨2, 6, 0⟩
    let lists := candidateLists lib.packages app.packages none
    ∃ result, matchTrees ⟨none, false⟩ app lib (some "r") = .ok result ∧
      result.rootPackage = some "p" ∧
      ∃ picked, Selected lists "p" picked ∧
        result.nodes = (picked.filterMap id).map (·.node) ∧
        ∀ left right, picked[0]? = some (some left) → picked[1]? = some (some right) →
          left.package ≠ right.package := by
  intro package lib app lists
  have isLists : lists = foundLists lib.packages app.packages none :=
    candidateLists_eq_foundLists (.refl _) (by decide +kernel) (by decide +kernel)
  have isTried : partitions app.packages "r" = ["p"] := by
    rw [partitions_eq, ancestors_eq_of_pairwise (by decide +kernel)]
    decide +kernel
  have matched : matchTrees ⟨none, false⟩ app lib (some "r") =
      .ok (partialMatch ⟨none, false⟩ app lib "r") := rfl
  have reported : (partialMatch ⟨none, false⟩ app lib "r").rootPackage = some "p" := by
    rw [partialMatch_of_eq isLists isTried]
    decide +kernel
  obtain ⟨picked, selected, nodes, apart⟩ := matchTrees_tells_apart matched reported
  refine ⟨_, matched, reported, picked, selected, nodes, ?_⟩
  intro left right leftAt rightAt
  have told : ToldApart lists picked 0 1 := by
    rw [isLists]
    exact .depths rfl rfl (by decide +kernel)
  exact apart 0 1 left right told leftAt rightAt

/-- Two siblings of the library are found in one and the same package of the app. -/
theorem matchTrees_of_shared_sibling :
    let package (digest : UInt8) (name : String) (classes : List UInt8) : Node :=
      .mk ⟨[digest]⟩ (.package (some name))
        (classes.map fun digest => .mk ⟨[digest]⟩ (.class none) [])
    let lib := HashTree.ofPackages .standard
      [package 1 "r.a" [11, 12], package 2 "r.b" [21, 22]] ⟨2, 4, 0⟩
    let app := HashTree.ofPackages .standard [package 3 "p.x" [11, 12, 21, 22]] ⟨1, 4, 0⟩
    lib.packageNames.Nodup ∧ app.packageNames.Nodup ∧
      ∃ result, matchTrees ⟨none, false⟩ app lib (some "r") = .ok result ∧
        result.rootPackage = some "p" ∧ result.packageNames = ["p.x", "p.x"] := by
  intro package lib app
  have isLists : candidateLists lib.packages app.packages none =
      foundLists lib.packages app.packages none :=
    candidateLists_eq_foundLists (.refl _) (by decide +kernel) (by decide +kernel)
  have isTried : partitions app.packages "r" = ["p"] := by
    rw [partitions_eq, ancestors_eq_of_pairwise (by decide +kernel)]
    decide +kernel
  refine ⟨by decide +kernel, by decide +kernel, partialMatch ⟨none, false⟩ app lib "r", rfl, ?_⟩
  rw [partialMatch_of_eq isLists isTried]
  decide +kernel

/-- Two packages of the library that are not related share one of the app, since another list comes
between theirs. -/
theorem matchTrees_of_shared_unrelated :
    let package (digest : UInt8) (name : String) (classes : List UInt8) : Node :=
      .mk ⟨[digest]⟩ (.package (some name))
        (classes.map fun digest => .mk ⟨[digest]⟩ (.class none) [])
    let lib := HashTree.ofPackages .standard
      [package 1 "r.a.x" [11, 12], package 2 "r.b.y" [21, 22, 23, 24],
        package 3 "r.m" [31, 32]] ⟨3, 8, 0⟩
    let app := HashTree.ofPackages .standard
      [package 4 "p.q.z" [11, 12, 21, 22, 23], package 5 "p.r" [31, 32, 33]] ⟨2, 8, 0⟩
    lib.packageNames.Nodup ∧ app.packageNames.Nodup ∧
      relationship "r.a.x" "r.b.y" = .unrelated ∧
      ∃ result, matchTrees ⟨none, false⟩ app lib (some "r") = .ok result ∧
        result.rootPackage = some "p" ∧ result.packageNames = ["p.q.z", "p.r", "p.q.z"] := by
  intro package lib app
  have isLists : candidateLists lib.packages app.packages none =
      foundLists [package 1 "r.a.x" [11, 12], package 3 "r.m" [31, 32],
        package 2 "r.b.y" [21, 22, 23, 24]] app.packages none :=
    candidateLists_eq_foundLists (.cons _ (.swap _ _ _)) (by decide +kernel) (by decide +kernel)
  have isTried : partitions app.packages "r" = ["p"] := by
    rw [partitions_eq, ancestors_eq_of_pairwise (by decide +kernel)]
    decide +kernel
  refine ⟨by decide +kernel, by decide +kernel, by decide +kernel,
    partialMatch ⟨none, false⟩ app lib "r", rfl, ?_⟩
  rw [partialMatch_of_eq isLists isTried]
  decide +kernel

end LibPrint.Matching
