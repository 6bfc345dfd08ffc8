import LibPrint.Proofs.HashTree.Canonical
import LibPrint.Proofs.Matching.PartialMatch

/-!
# What comes of a comparison

A comparison of two trees is refused, decided by the digests of their packages alone, or handed on
to partial matching. What is reported has one of few forms: a score comes with a root package and
lies between the threshold and one, and where there is no root package there are no nodes either,
full containment apart.
-/

namespace LibPrint.Matching

variable {options : Options} {app lib : HashTree} {libRoot : Option String}

/-- Every package digest of the library is that of an app package. -/
def Contains (app lib : HashTree) : Prop :=
  ∀ node ∈ lib.packages, node.digest ∈ app.packages.map Node.digest

instance (app lib : HashTree) : Decidable (Contains app lib) :=
  inferInstanceAs (Decidable (∀ node ∈ lib.packages, node.digest ∈ app.packages.map Node.digest))

/-- The library was found to be fully contained, and its digests alone decided that: no root package
stands for the library's. -/
def Inclusive (outcome : Except Error TreeMatch) : Prop :=
  ∃ result, outcome = .ok result ∧ result.verdict = .full ∧ result.rootPackage = none

/-- The package nodes of the app that carry a digest of the library, in their order. -/
def carriers (app lib : HashTree) : List Node :=
  app.packages.filter fun node => node.digest ∈ lib.packages.map Node.digest

/-- The verdict on a library that was found at a place: full containment, or a score between the
threshold and one. -/
def Located (verdict : Verdict) : Prop :=
  verdict = .full ∨
    ∃ score, verdict = .similar score ∧ minPartial.lt score = true ∧ score.lt .one = true

/-- What is reported about a library that is not contained by its digests. -/
inductive Reported : TreeMatch → Prop where
  | unrooted (config : TreeConfig) : Reported ⟨config, .noRootPackage, [], none⟩
  | missed (config : TreeConfig) : Reported ⟨config, .noMatch, [], none⟩
  | located (config : TreeConfig) {verdict : Verdict} (nodes : List Node) (root : String)
      (located : Located verdict) : Reported ⟨config, verdict, nodes, some root⟩

/-! ## Containment -/

/-- Only the digests of the packages matter, and how often they occur does not. -/
theorem contains_iff :
    Contains app lib ↔ ∀ digest ∈ lib.packages.map Node.digest, digest ∈ app.packages.map Node.digest :=
  List.forall_mem_map.symm

theorem packages_ne_nil_of_not_contains (missing : ¬ Contains app lib) : lib.packages ≠ [] := by
  intro empty
  apply missing
  intro node member
  rw [empty] at member
  cases member

theorem contained?_of_contains (contains : Contains app lib) :
    contained? app lib = some (carriers app lib) := by
  have same : carriers app lib =
      app.packages.filter fun node => Node.hasDigest lib.packages node.digest := by
    apply List.filter_congr
    intro node _
    rw [Bool.eq_iff_iff, decide_eq_true_iff, Node.hasDigest_iff]
  rw [contained?, if_pos, same]
  rw [List.all_eq_true]
  intro node member
  exact Node.hasDigest_iff.mpr (contains node member)

theorem contained?_of_not_contains (missing : ¬ Contains app lib) :
    contained? app lib = none := by
  rw [contained?, if_neg]
  intro every
  apply missing
  intro node member
  exact Node.hasDigest_iff.mp (List.all_eq_true.mp every node member)

/-! ## Refusals and the order of the tests -/

theorem matchTrees_of_mismatch (differ : lib.config.recipe ≠ app.config.recipe) :
    matchTrees options app lib libRoot =
      .error (.recipeMismatch app.config.recipe lib.config.recipe) := by
  have incomparable : lib.config.comparable app.config = false := beq_eq_false_iff_ne.mpr differ
  simp [matchTrees, incomparable]

theorem matchTrees_of_empty (same : lib.config.recipe = app.config.recipe)
    (empty : lib.packages = []) :
    matchTrees options app lib libRoot =
      .error (.emptyTree ("library tree (" ++ lib.config.display ++ ")")) := by
  have comparable : lib.config.comparable app.config = true := beq_iff_eq.mpr same
  have isEmpty : lib.isEmpty = true := by rw [HashTree.isEmpty, empty, List.isEmpty_nil]
  simp [matchTrees, comparable, isEmpty]

/-- Two trees that are compared: containment is tested first, then whether partial matching is
wanted, and then whether there is a root package for it. -/
theorem matchTrees_of_comparable (same : lib.config.recipe = app.config.recipe)
    (occupied : lib.packages ≠ []) :
    matchTrees options app lib libRoot = .ok
      (match contained? app lib, options.fullOnly, libRoot with
        | some nodes, _, _ => ⟨app.config, .full, nodes, none⟩
        | none, true, _ => ⟨app.config, .noMatch, [], none⟩
        | none, false, none => ⟨app.config, .noRootPackage, [], none⟩
        | none, false, some root => partialMatch options app lib root) := by
  have comparable : lib.config.comparable app.config = true := beq_iff_eq.mpr same
  have isEmpty : lib.isEmpty = false := List.isEmpty_eq_false_iff.mpr occupied
  simp only [matchTrees, comparable, isEmpty, Bool.not_true, Bool.false_eq_true, if_false]
  cases contained? app lib with
  | some nodes => rfl
  | none => cases options.fullOnly <;> cases libRoot <;> rfl

/-- What the digests decide depends on the two trees alone. -/
theorem matchTrees_of_contains (same : lib.config.recipe = app.config.recipe)
    (occupied : lib.packages ≠ []) (contains : Contains app lib) :
    matchTrees options app lib libRoot = .ok ⟨app.config, .full, carriers app lib, none⟩ := by
  rw [matchTrees_of_comparable same occupied, contained?_of_contains contains]

/-! ## Partial matching -/

theorem located_ofScore {score : Score} (above : minPartial.lt score = true) :
    Located (.ofScore score) := by
  rw [Verdict.ofScore]
  cases part : score.lt .one with
  | true => exact .inr ⟨score, rfl, above, part⟩
  | false => exact .inl rfl

/-- A partial match names a root package or finds nothing. -/
theorem partialMatch_reports (options : Options) (app lib : HashTree) (root : String) :
    Reported (partialMatch options app lib root) ∧
      (partialMatch options app lib root).config = app.config ∧
      (partialMatch options app lib root).verdict ≠ .noRootPackage := by
  rcases partialMatch_cases options app lib root with ⟨-, result⟩ | ⟨best, wins, result⟩
  · rw [result]
    exact ⟨.missed _, rfl, nofun⟩
  · obtain ⟨-, restricted, -, -, aligned⟩ := mem_alignments.mp wins.member
    have located := located_ofScore (few_and_above_of_align aligned).2
    rw [result]
    refine ⟨.located _ _ _ located, rfl, ?_⟩
    intro unrooted
    rcases located with full | ⟨score, part, -⟩
    · rw [full] at unrooted
      cases unrooted
    · rw [part] at unrooted
      cases unrooted

/-! ## The outcome -/

/-- A library that is not contained by its digests: why there may be no root package in the verdict,
and what else is reported. -/
theorem matchTrees_of_not_contains (same : lib.config.recipe = app.config.recipe)
    (missing : ¬ Contains app lib) :
    ∃ result, matchTrees options app lib libRoot = .ok result ∧ result.config = app.config ∧
      Reported result ∧
      (result.verdict = .noRootPackage ↔ options.fullOnly = false ∧ libRoot = none) ∧
      (options.fullOnly = true → result.verdict = .noMatch) := by
  have occupied := packages_ne_nil_of_not_contains missing
  rw [matchTrees_of_comparable same occupied, contained?_of_not_contains missing]
  cases wanted : options.fullOnly with
  | true => exact ⟨_, rfl, rfl, .missed _, by simp, fun _ => rfl⟩
  | false =>
      cases libRoot with
      | none => exact ⟨_, rfl, rfl, .unrooted _, by simp, nofun⟩
      | some root =>
          obtain ⟨reported, config, rooted⟩ := partialMatch_reports options app lib root
          exact ⟨_, rfl, config, reported, by simp [rooted], nofun⟩

/-- Why there can be no root package in a verdict. -/
theorem verdict_eq_noRootPackage_iff {result : TreeMatch}
    (matched : matchTrees options app lib libRoot = .ok result) :
    result.verdict = .noRootPackage ↔
      options.fullOnly = false ∧ libRoot = none ∧ ¬ Contains app lib := by
  by_cases same : lib.config.recipe = app.config.recipe
  · by_cases empty : lib.packages = []
    · rw [matchTrees_of_empty same empty] at matched
      cases matched
    · by_cases contains : Contains app lib
      · rw [matchTrees_of_contains same empty contains, Except.ok.injEq] at matched
        simp [← matched, contains]
      · obtain ⟨other, found, -, -, unrooted, -⟩ :=
          @matchTrees_of_not_contains options app lib libRoot same contains
        rw [matched, Except.ok.injEq] at found
        rw [found, unrooted]
        simp [contains]
  · rw [matchTrees_of_mismatch same] at matched
    cases matched

theorem inclusive_iff :
    Inclusive (matchTrees options app lib libRoot) ↔
      lib.config.recipe = app.config.recipe ∧ lib.packages ≠ [] ∧ Contains app lib := by
  constructor
  · rintro ⟨result, matched, full, rootless⟩
    by_cases same : lib.config.recipe = app.config.recipe
    · by_cases empty : lib.packages = []
      · rw [matchTrees_of_empty same empty] at matched
        cases matched
      · refine ⟨same, empty, ?_⟩
        by_contra missing
        obtain ⟨other, found, -, reported, -⟩ :=
          @matchTrees_of_not_contains options app lib libRoot same missing
        rw [matched, Except.ok.injEq] at found
        subst found
        -- Full containment without the digests comes with the root package it was found at.
        cases reported with
        | unrooted | missed => cases full
        | located => cases rootless
    · rw [matchTrees_of_mismatch same] at matched
      cases matched
  · rintro ⟨same, occupied, contains⟩
    exact ⟨_, matchTrees_of_contains same occupied contains, rfl, rfl⟩

/-- All that can come of a comparison. Trees of different recipes are refused whatever else holds,
and then empty library trees. Full containment by digests depends on the two trees alone. Otherwise
a missing root package is told exactly when partial matching needs one, and a library that is
reported at a root package scores above the threshold. -/
theorem matchTrees_outcome (options : Options) (app lib : HashTree) (libRoot : Option String) :
    (matchTrees options app lib libRoot =
        .error (.recipeMismatch app.config.recipe lib.config.recipe) ↔
      lib.config.recipe ≠ app.config.recipe) ∧
    (matchTrees options app lib libRoot =
        .error (.emptyTree ("library tree (" ++ lib.config.display ++ ")")) ↔
      lib.config.recipe = app.config.recipe ∧ lib.packages = []) ∧
    ((∃ result, matchTrees options app lib libRoot = .ok result) ↔
      lib.config.recipe = app.config.recipe ∧ lib.packages ≠ []) ∧
    (lib.config.recipe = app.config.recipe → lib.packages ≠ [] → Contains app lib →
      matchTrees options app lib libRoot = .ok ⟨app.config, .full, carriers app lib, none⟩) ∧
    (lib.config.recipe = app.config.recipe → ¬ Contains app lib →
      ∃ result, matchTrees options app lib libRoot = .ok result ∧ result.config = app.config ∧
        Reported result ∧
        (result.verdict = .noRootPackage ↔ options.fullOnly = false ∧ libRoot = none) ∧
        (options.fullOnly = true → result.verdict = .noMatch)) := by
  refine ⟨?_, ?_, ?_, matchTrees_of_contains, matchTrees_of_not_contains⟩
  all_goals
    by_cases same : lib.config.recipe = app.config.recipe
    · by_cases empty : lib.packages = []
      · simp [matchTrees_of_empty same empty, same, empty]
      · simp [matchTrees_of_comparable same empty, same, empty]
    · simp [matchTrees_of_mismatch same, same]

/-- A library package that the app has twice is reported twice. The other way round one package is
missing, and nothing is reported without partial matching. -/
theorem matchTrees_outcome_copies :
    let package (digest : UInt8) (name : String) : Node :=
      .mk ⟨[digest]⟩ (.package (some name)) []
    let lib := HashTree.ofPackages .standard [package 1 "com.lib"] ⟨1, 1, 1⟩
    let app := HashTree.ofPackages .standard [package 1 "a", package 2 "b", package 1 "c"] ⟨3, 3, 3⟩
    Contains app lib ∧ ¬ Contains lib app ∧
      matchTrees ⟨none, false⟩ app lib none =
        .ok ⟨.standard, .full, [package 1 "a", package 1 "c"], none⟩ ∧
      ∃ result, matchTrees ⟨none, true⟩ lib app (some "com.lib") = .ok result ∧
        result.verdict = .noMatch := by
  intro package lib app
  have contains : Contains app lib := by
    unfold Contains
    decide
  have missing : ¬ Contains lib app := by
    unfold Contains
    decide
  have libConfig : lib.config = .standard := rfl
  have appConfig : app.config = .standard := rfl
  have same : lib.config.recipe = app.config.recipe := by rw [libConfig, appConfig]
  have copies : carriers app lib = [package 1 "a", package 1 "c"] := rfl
  obtain ⟨-, -, -, whole, -⟩ := matchTrees_outcome ⟨none, false⟩ app lib none
  obtain ⟨-, -, -, -, part⟩ := matchTrees_outcome ⟨none, true⟩ lib app (some "com.lib")
  obtain ⟨result, matched, -, -, -, silent⟩ := part same.symm missing
  refine ⟨contains, missing, ?_, result, matched, silent rfl⟩
  rw [whole same (List.cons_ne_nil _ _) contains, copies, appConfig]

end LibPrint.Matching
