import LibPrint.Identify
import LibPrint.Proofs.Identify.Run
import LibPrint.Proofs.Library.Collecting

/-!
# Gathering the matches

Whatever the order in which tasks end, every match lands in the slot of its own library: the outcome
is that of comparing one library after the other. A deadline can only replace matches by those of
libraries that were not compared in time, unless it lies beyond the end of time: then nothing is
compared at all.
-/

namespace LibPrint.Identify

section Slots

variable (options : Options) (app : AppProfile) (catalog : Catalog)

/-- The app's own package: the one that is given, and without one that which the app declares. -/
def ownPackage : Option String :=
  match options.matching.appPackage with
  | some given => some given
  | none => app.packageName

/-- The root package of the library is one of the app's packages, and not one that several libraries
share. -/
def RootPresent (lib : LibProfile) : Prop :=
  ∃ root, lib.rootPackage? = some root ∧ root ∉ options.ambiguousRoots ∧
    app.packageTree.contains root = true

theorem hasRoot_iff (lib : LibProfile) :
    hasRoot options app lib = true ↔ RootPresent options app lib := by
  rw [hasRoot, RootPresent]
  cases lib.rootPackage? with
  | none => simp
  | some root => simp

instance (lib : LibProfile) : Decidable (RootPresent options app lib) :=
  decidable_of_iff _ (hasRoot_iff options app lib)

/-- The match of a library that is compared on its own, the app's own package being no candidate. -/
def sequential (lib : LibProfile) : LibraryMatch :=
  { Matching.matchProfile ⟨ownPackage options app, options.matching.fullOnly⟩ app lib with
    rootPresent := decide (RootPresent options app lib)
    isDeprecated := catalog.isDeprecated lib }

/-- The match of a library that was not compared in time: under no configuration of the app is
anything found. -/
def unanswered (lib : LibProfile) : LibraryMatch :=
  { profile := lib
    results := app.hashTrees.map fun tree => ⟨tree.config, .noMatch, [], none⟩
    rootPresent := decide (RootPresent options app lib)
    isDeprecated := catalog.isDeprecated lib
    timedOut := true }

/-- The match that a task leaves behind. -/
def answer (lib : LibProfile) : TaskResult → LibraryMatch
  | .compared => sequential options app catalog lib
  | .late | .failed _ => unanswered options app catalog lib

variable {options app catalog} {lib : LibProfile} {ends : List TaskEnd}
  {slots : List (Option LibraryMatch)}

/-! ## What a task delivers -/

theorem runOptions_eq :
    runOptions options app = ⟨ownPackage options app, options.matching.fullOnly⟩ := by
  rw [runOptions, ownPackage]
  cases options.matching.appPackage <;> rfl

theorem hasRoot_eq : hasRoot options app lib = decide (RootPresent options app lib) := by
  rw [Bool.eq_iff_iff, decide_eq_true_iff]
  exact hasRoot_iff options app lib

theorem annotate_matchProfile :
    annotate options app catalog (Matching.matchProfile (runOptions options app) app lib) =
      sequential options app catalog lib := by
  have profile (matching : Matching.Options) :
      (Matching.matchProfile matching app lib).profile = lib :=
    LibraryMatch.profile_foldl_add _ _
  rw [runOptions_eq, annotate, sequential, hasRoot_eq, profile]

theorem annotate_timedOut :
    annotate options app catalog (timedOut app lib) = unanswered options app catalog lib := by
  have fresh : ∀ result ∈ (LibraryMatch.ofProfile lib).results, result.verdict = .noMatch :=
    List.forall_mem_nil _
  have silent : ∀ result ∈ app.hashTrees.map
      fun tree => (⟨tree.config, .noMatch, [], none⟩ : TreeMatch), result.verdict = .noMatch := by
    intro result member
    obtain ⟨tree, -, rfl⟩ := List.mem_map.mp member
    rfl
  rw [annotate, timedOut, LibraryMatch.foldl_add_of_verdict fresh silent, hasRoot_eq]
  rfl

theorem outcome_eq {result : TaskResult} (sound : ∀ text, result ≠ .failed text) :
    outcome options app catalog lib result = .ok (answer options app catalog lib result) := by
  cases result with
  | compared => rw [outcome, annotate_matchProfile, answer]
  | late => rw [outcome, annotate_timedOut, answer]
  | failed text => exact absurd rfl (sound text)

variable (options app slots) in
/-- A task that ended fills the slot of its library and no other one. -/
theorem fill_eq {taskEnd : TaskEnd} (found : catalog.profiles[taskEnd.place]? = some lib)
    (sound : ∀ text, taskEnd.result ≠ .failed text) :
    fill options app catalog slots taskEnd =
      .ok (slots.set taskEnd.place (some (answer options app catalog lib taskEnd.result))) := by
  simp only [fill, found, outcome_eq sound]
  rfl

/-! ## What the slots hold -/

variable (options app slots) in
/-- After a number of ends the slots hold what those tasks delivered, and are untouched where no
task has ended. -/
theorem exists_slots (distinct : (ends.map (·.place)).Nodup)
    (isTask : ∀ taskEnd ∈ ends, taskEnd.place < catalog.profiles.length)
    (sound : ∀ taskEnd ∈ ends, ∀ text, taskEnd.result ≠ .failed text)
    (length : slots.length = catalog.profiles.length) :
    ∃ filled, ends.foldlM (fill options app catalog) slots = .ok filled ∧
      filled.length = slots.length ∧
      ∀ place lib, catalog.profiles[place]? = some lib →
        (∀ result, ⟨place, result⟩ ∈ ends →
          filled[place]? = some (some (answer options app catalog lib result))) ∧
        (place ∉ ends.map (·.place) → filled[place]? = slots[place]?) := by
  induction ends generalizing slots with
  | nil => exact ⟨slots, rfl, rfl, fun _ _ _ => ⟨nofun, fun _ => rfl⟩⟩
  | cons first ends ih =>
      rw [List.map_cons, List.nodup_cons] at distinct
      obtain ⟨fresh, distinct⟩ := distinct
      have isFirst := isTask first List.mem_cons_self
      obtain ⟨owner, owned⟩ : ∃ owner, catalog.profiles[first.place]? = some owner :=
        ⟨_, List.getElem?_eq_getElem isFirst⟩
      have step := fill_eq options app slots owned (sound first List.mem_cons_self)
      obtain ⟨filled, run, same, holds⟩ := ih
        (slots.set first.place (some (answer options app catalog owner first.result))) distinct
        (fun taskEnd member => isTask taskEnd (List.mem_cons_of_mem _ member))
        (fun taskEnd member => sound taskEnd (List.mem_cons_of_mem _ member))
        (by rw [List.length_set, length])
      refine ⟨filled, ?_, by rw [same, List.length_set], ?_⟩
      · rw [List.foldlM_cons, step]
        exact run
      · intro place lib present
        obtain ⟨answered, untouched⟩ := holds place lib present
        constructor
        · intro result member
          rcases List.mem_cons.mp member with rfl | later
          · -- No later end is of this task, so the slot stays as it is now.
            obtain rfl : owner = lib := Option.some.inj (owned.symm.trans present)
            rw [untouched fresh, List.getElem?_set_self (length ▸ isFirst)]
          · exact answered result later
        · intro absent
          rw [List.map_cons, List.mem_cons, not_or] at absent
          rw [untouched absent.2, List.getElem?_set_ne (Ne.symm absent.1)]

/-- The matches of a schedule in which no task fails: those of the libraries that were compared, and
for all others that they were not compared in time. -/
theorem gather_of_schedule {timed : Bool}
    (schedule : Schedule timed catalog.profiles.length ends)
    (sound : ∀ taskEnd ∈ ends, ∀ text, taskEnd.result ≠ .failed text) :
    gather options app catalog ends = .ok (catalog.profiles.zipIdx.map fun (lib, place) =>
      if ⟨place, .compared⟩ ∈ ends then sequential options app catalog lib
      else unanswered options app catalog lib) := by
  obtain ⟨filled, run, length, holds⟩ := exists_slots options app
    (catalog.profiles.map fun _ => none) schedule.distinct schedule.isTask sound (List.length_map _)
  rw [gather, run]
  apply congrArg Except.ok
  simp only [settle, annotate_timedOut]
  apply List.ext_getElem?
  intro place
  rw [List.getElem?_zipWith, List.getElem?_map, List.getElem?_zipIdx]
  cases present : catalog.profiles[place]? with
  | none => cases filled[place]? <;> rfl
  | some lib =>
      obtain ⟨answered, untouched⟩ := holds place lib present
      have slot : ∃ slot, filled[place]? = some slot ∧
          slot.getD (unanswered options app catalog lib) =
            if (⟨place, .compared⟩ : TaskEnd) ∈ ends then sequential options app catalog lib
            else unanswered options app catalog lib := by
        by_cases compared : ⟨place, .compared⟩ ∈ ends
        · exact ⟨_, answered _ compared, (if_pos compared).symm⟩
        · rw [if_neg compared]
          by_cases ended : place ∈ ends.map (·.place)
          · obtain ⟨taskEnd, member, rfl⟩ := List.mem_map.mp ended
            refine ⟨_, answered taskEnd.result member, ?_⟩
            cases result : taskEnd.result with
            | compared =>
                rw [← result] at compared
                exact absurd member compared
            | late | failed => rfl
          · refine ⟨none, ?_, rfl⟩
            rw [untouched ended, List.getElem?_map, present]
            rfl
      obtain ⟨slot, holdsSlot, value⟩ := slot
      simp only [holdsSlot, Option.map_some, Nat.zero_add, value]

end Slots

/-! ## Level counts -/

/-- Every match is of exactly one level. -/
theorem level_counts (report : Report) :
    report.counts.allConfigs + report.counts.someConfigs + report.counts.inPart +
      report.counts.notFound = report.found.length := by
  have split (found : List LibraryMatch) :
      (found.filter (·.level == .allConfigs)).length +
        (found.filter (·.level == .someConfigs)).length +
        (found.filter (·.level == .inPart)).length +
        (found.filter (·.level == .notFound)).length = found.length := by
    induction found with
    | nil => rfl
    | cons first found ih =>
        cases level : first.level <;> simp [level] <;> omega
  exact split report.found

/-! ## The outcome -/

/-- A deadline that the clock cannot show stops an identification before it begins. -/
theorem identify_of_overruns {options : Options} {app : AppProfile} {catalog : Catalog}
    {started limit : Nat} {ends : List TaskEnd} (occupied : app.isEmpty = false)
    (limited : options.deadline = some limit) (beyond : endOfTime ≤ started + limit) :
    identify options app catalog started ends = .error (.brokenDown .clock) := by
  simp [identify, occupied, overruns, limited, beyond]

theorem identify_of_shown {options : Options} {app : AppProfile} {catalog : Catalog}
    {started : Nat} {ends : List TaskEnd} (occupied : app.isEmpty = false)
    (shown : ∀ limit, options.deadline = some limit → started + limit < endOfTime) :
    identify options app catalog started ends = gather options app catalog ends := by
  have within : overruns options started = false := by
    rw [overruns, Option.any_eq_false]
    intro limit limited
    rw [decide_eq_false_iff_not, not_le]
    exact shown limit limited
  simp [identify, occupied, within]

/-- However the tasks of an identification are scheduled, as long as none fails: there is one match
for each library, in catalog order, and it is that of comparing this library alone or, if its task
did not end in time, that of a library that was not compared. Without a deadline all are compared.
With one the clock has to be able to show it, or there are no matches at all. -/
theorem identify_of_gathers {options : Options} {app : AppProfile} {catalog : Catalog}
    {started : Nat} {ends : List TaskEnd} (occupied : app.isEmpty = false)
    (gathers : Gathers options.deadline.isSome catalog.profiles.length ends)
    (sound : ∀ taskEnd ∈ ends, ∀ text, taskEnd.result ≠ .failed text) :
    (∀ limit, options.deadline = some limit → 2 ^ 63 * 10 ^ 9 ≤ started + limit →
      identify options app catalog started ends = .error (.brokenDown .clock)) ∧
    ((∀ limit, options.deadline = some limit → started + limit < 2 ^ 63 * 10 ^ 9) →
      ∃ found, identify options app catalog started ends = .ok found ∧
        found = catalog.profiles.zipIdx.map (fun (lib, place) =>
          if ⟨place, .compared⟩ ∈ ends then sequential options app catalog lib
          else unanswered options app catalog lib) ∧
        (options.deadline = none → found = catalog.profiles.map (sequential options app catalog)) ∧
        ∀ elapsed, let counts := (Report.mk app.packageName found elapsed).counts
          counts.allConfigs + counts.someConfigs + counts.inPart + counts.notFound =
            catalog.profiles.length) := by
  have schedule := gathers_iff_schedule.mp gathers
  refine ⟨fun limit => identify_of_overruns occupied, fun shown => ⟨_, ?_, rfl, ?_, ?_⟩⟩
  · rw [identify_of_shown occupied shown, gather_of_schedule schedule sound]
  · intro unlimited
    have untimed : options.deadline.isSome = false := by rw [unlimited, Option.isSome_none]
    have compared : ∀ place < catalog.profiles.length, ⟨place, .compared⟩ ∈ ends := by
      intro place isTask
      obtain ⟨taskEnd, member, rfl⟩ := schedule.whole untimed place isTask
      cases result : taskEnd.result with
      | compared => exact result ▸ member
      | late => exact absurd result (schedule.punctual untimed taskEnd member)
      | failed text => exact absurd result (sound taskEnd member text)
    calc
      catalog.profiles.zipIdx.map (fun (lib, place) =>
          if ⟨place, .compared⟩ ∈ ends then sequential options app catalog lib
          else unanswered options app catalog lib) =
          catalog.profiles.zipIdx.map fun entry => sequential options app catalog entry.1 := by
        apply List.map_congr_left
        rintro ⟨lib, place⟩ member
        exact if_pos (compared place (List.snd_lt_of_mem_zipIdx member))
      _ = (catalog.profiles.zipIdx.map Prod.fst).map (sequential options app catalog) := by
        rw [List.map_map]
        rfl
      _ = catalog.profiles.map (sequential options app catalog) := by
        rw [List.zipIdx_map_fst]
  · intro elapsed counts
    rw [level_counts, List.length_map, List.length_zipIdx]

/-- The deadline, a minute away, cuts the gathering when only the second of two libraries was
compared. The package they are in is the one that the app declares. -/
theorem identify_of_gathers_cut :
    let tree := HashTree.ofPackages .standard [.mk ⟨[1]⟩ (.package (some "org.lib")) []] ⟨1, 1, 1⟩
    let app : AppProfile := ⟨.empty, [tree], some "org.lib"⟩
    let lib (name : String) : LibProfile :=
      ⟨⟨name, .utilities, none, none, none⟩, .empty, [tree]⟩
    let catalog : Catalog := ⟨[lib "first", lib "second"]⟩
    let options : Options := { Options.standard with deadline := some (60 * 10 ^ 9) }
    let ends : List TaskEnd := [⟨1, .compared⟩]
    app.isEmpty = false ∧ Gathers options.deadline.isSome catalog.profiles.length ends ∧
      (∀ taskEnd ∈ ends, ∀ text, taskEnd.result ≠ .failed text) ∧
      identify options app catalog 0 ends = .ok
        [unanswered options app catalog (lib "first"),
          sequential options app catalog (lib "second")] := by
  intro tree app lib catalog options ends
  have occupied : app.isEmpty = false := by decide
  have gathers : Gathers options.deadline.isSome catalog.profiles.length ends :=
    gathers_iff_schedule.mpr ⟨by decide, by decide, nofun, nofun⟩
  have sound : ∀ taskEnd ∈ ends, ∀ text, taskEnd.result ≠ .failed text := by
    intro taskEnd member text
    rw [List.mem_singleton.mp member]
    nofun
  obtain ⟨-, matched⟩ := @identify_of_gathers options app catalog 0 ends occupied gathers sound
  obtain ⟨found, identified, order, -, -⟩ := matched (by decide)
  refine ⟨occupied, gathers, sound, ?_⟩
  rw [identified, order]
  rfl

/-- Under the longest time limit in whole seconds, a number of 64 bits, nothing is compared. -/
theorem identify_of_longest_limit :
    let tree := HashTree.ofPackages .standard [.mk ⟨[1]⟩ (.package (some "org.lib")) []] ⟨1, 1, 1⟩
    let app : AppProfile := ⟨.empty, [tree], none⟩
    let catalog : Catalog := ⟨[⟨⟨"lib", .utilities, none, none, none⟩, .empty, [tree]⟩]⟩
    let options : Options :=
      { Options.standard with deadline := some ((2 ^ 64 - 1) * 10 ^ 9) }
    let ends : List TaskEnd := [⟨0, .compared⟩]
    app.isEmpty = false ∧ Gathers options.deadline.isSome catalog.profiles.length ends ∧
      (∀ taskEnd ∈ ends, ∀ text, taskEnd.result ≠ .failed text) ∧
      ∀ started, identify options app catalog started ends = .error (.brokenDown .clock) := by
  intro tree app catalog options ends
  have gathers : Gathers options.deadline.isSome catalog.profiles.length ends :=
    gathers_iff_schedule.mpr ⟨by decide, by decide, nofun, nofun⟩
  have sound : ∀ taskEnd ∈ ends, ∀ text, taskEnd.result ≠ .failed text := by
    intro taskEnd member text
    rw [List.mem_singleton.mp member]
    nofun
  refine ⟨by decide, gathers, sound, fun started => ?_⟩
  have beyond : endOfTime ≤ (2 ^ 64 - 1) * 10 ^ 9 := by decide
  exact identify_of_overruns (by decide) rfl (Nat.le_add_left_of_le beyond)

end LibPrint.Identify
