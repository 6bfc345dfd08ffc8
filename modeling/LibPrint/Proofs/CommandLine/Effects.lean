import LibPrint.CommandLine.Execution
import LibPrint.Proofs.Library.Profile
import LibPrint.Proofs.Store.Presence

/-!
# What commands change

A command writes one file at most, and only when it succeeds: the file of the profile it has made,
or that of the report it was asked for, after an app was matched with libraries that are known. A
profile that was made can be inspected at once, and the catalog has it if it lies below the folder
of the store, unless the name of its file is nothing but an extension. Whatever commands are carried
out one after the other, a file that is not as it was at the start has been written by one of them.
All this holds as well where a command breaks down, because profiles cannot be sorted or because its
deadline lies beyond the end of time.
-/

namespace LibPrint.CommandLine

/-! ## What a command does when it succeeds -/

section Steps

variable {configuration : Configuration} {circumstances : Circumstances}
  {withPackages verbose noPartial : Bool} {elapsed : Nat} {before after files : Files}
  {classes description text path : String} {appPackage json : Option String} {timeout : Option Nat}
  {profile : LibProfile}

theorem bind_eq_ok_iff {ε α β : Type} {first : Except ε α} {next : α → Except ε β} {result : β} :
    first >>= next = .ok result ↔ ∃ value, first = .ok value ∧ next value = .ok result := by
  cases first with
  | error cause => exact ⟨nofun, fun ⟨_, absurd, _⟩ => nomatch absurd⟩
  | ok value => exact ⟨fun holds => ⟨value, rfl, holds⟩, fun ⟨_, rfl, holds⟩ => holds⟩

theorem mapError_eq_ok_iff {ε δ α : Type} {result : Except ε α} {rename : ε → δ} {value : α} :
    result.mapError rename = .ok value ↔ result = .ok value := by
  cases result <;> simp [Except.mapError]

theorem map_eq_ok_iff {ε α β : Type} {result : Except ε α} {change : α → β} {value : β} :
    result.map change = .ok value ↔ ∃ found, result = .ok found ∧ change found = value := by
  cases result <;> simp [Except.map]

/-- The profile has the description that was read. -/
theorem loadDescription_of_makeProfile
    (made : makeProfile configuration classes description verbose files = .ok profile) :
    loadDescription description files = .ok profile.description := by
  obtain ⟨hierarchy, -, made⟩ := bind_eq_ok_iff.mp made
  obtain ⟨known, read, created⟩ := bind_eq_ok_iff.mp made
  rw [read, (LibProfile.create_eq_ok_iff.mp created).2]

theorem execute_profileLibrary
    (executed : execute configuration circumstances elapsed
      (.profileLibrary classes description verbose) before = .ok (text, after)) :
    ∃ profile path, makeProfile configuration classes description verbose before = .ok profile ∧
      (store configuration).save profile before = .ok (path, after) := by
  obtain ⟨finding, found, delivered⟩ := bind_eq_ok_iff.mp executed
  obtain ⟨profile, made, rfl⟩ := map_eq_ok_iff.mp found
  obtain ⟨⟨path, later⟩, saved, ends⟩ := bind_eq_ok_iff.mp delivered
  obtain ⟨-, rfl⟩ := Prod.mk.inj (Except.ok.inj ends)
  exact ⟨profile, path, made, mapError_eq_ok_iff.mp saved⟩

theorem execute_inspectProfile
    (executed : execute configuration circumstances elapsed (.inspectProfile path withPackages)
      before = .ok (text, after)) : after = before := by
  obtain ⟨finding, found, delivered⟩ := bind_eq_ok_iff.mp executed
  obtain ⟨profile, -, rfl⟩ := map_eq_ok_iff.mp found
  exact (Prod.mk.inj (Except.ok.inj delivered)).2.symm

/-- An app is matched with the libraries of the store, or it turns out that there are none. -/
theorem findLibraries_eq_ok {finding : Finding}
    (found : findLibraries configuration circumstances classes appPackage json noPartial timeout
      files = .ok finding) :
    finding = .noProfiles ∨ ∃ loaded ownPackage results,
      (store configuration).loadCatalog circumstances.sorting files = .ok loaded ∧
        loaded.catalog.profiles ≠ [] ∧
        finding = .matched ownPackage results loaded.skipped json := by
  obtain ⟨hierarchy, -, found⟩ := bind_eq_ok_iff.mp found
  extract_lets app ownApp base matching options at found
  obtain ⟨loaded, loads, found⟩ := bind_eq_ok_iff.mp found
  split at found
  · exact .inl (Except.ok.inj found).symm
  · next occupied =>
    rw [List.isEmpty_iff] at occupied
    extract_lets identify at found
    split at found
    · cases found
    · obtain ⟨results, -, found⟩ := bind_eq_ok_iff.mp found
      exact .inr ⟨loaded, _, results, loads, occupied, (Except.ok.inj found).symm⟩

theorem execute_matchApp
    (executed : execute configuration circumstances elapsed
      (.matchApp classes appPackage json noPartial timeout) before = .ok (text, after)) :
    after = before ∨ ∃ path loaded ownPackage results, json = some path ∧
      (store configuration).loadCatalog circumstances.sorting before = .ok loaded ∧
      loaded.catalog.profiles ≠ [] ∧
      find configuration circumstances (.matchApp classes appPackage json noPartial timeout)
          before =
        .ok (.matched ownPackage results loaded.skipped json) ∧
      before.write? path (Text.encode
        (Identify.Report.toJson ⟨ownPackage, results, elapsed⟩).pretty) = some after := by
  obtain ⟨finding, found, delivered⟩ := bind_eq_ok_iff.mp executed
  obtain rfl | ⟨loaded, ownPackage, results, loads, occupied, rfl⟩ := findLibraries_eq_ok found
  · exact .inl (Prod.mk.inj (Except.ok.inj delivered)).2.symm
  · obtain ⟨later, reported, ends⟩ := bind_eq_ok_iff.mp delivered
    obtain ⟨-, rfl⟩ := Prod.mk.inj (Except.ok.inj ends)
    cases json with
    | none => exact .inl (Except.ok.inj reported).symm
    | some path =>
        simp only [writeReport] at reported
        split at reported
        · cases reported
        · next written =>
          rw [← Except.ok.inj reported]
          exact .inr ⟨path, loaded, ownPackage, results, rfl, loads, occupied, found, written⟩

end Steps

/-! ## Calls -/

/-- A command as it is carried out. -/
structure Call where
  configuration : Configuration
  circumstances : Circumstances
  /-- The milliseconds that matching takes. -/
  elapsed : Nat
  command : Command

/-- What is promised of a profile that was made. It is shown when it is inspected. It is one of
those that the catalog is made of, whenever these can be sorted, if its file lies below the folder
of the store and has a name before its extension, which only a version that ends in a slash takes
away. The path that the file is listed under can be followed, since it is no longer than the one it was
written by; a library name that begins with a slash is a path of its own and says nothing about
that. -/
structure Kept (configuration : Configuration) (profile : LibProfile) (files : Files) : Prop where
  inspected : ∀ circumstances elapsed withPackages,
    run configuration circumstances elapsed
        (.inspectProfile ((store configuration).pathFor profile.description) withPackages) files =
      (.ok (profile.text withPackages), files)
  catalogued : ∀ folder place, files.locate? configuration.profilesDir = some folder →
    files.locate? ((store configuration).pathFor profile.description) = some (folder ++ place) →
    place ≠ [] →
    profile.description.fileStem.toList.getLast? ≠ some '/' →
    (Path.isAbsolute profile.description.fileStem = true →
      Path.isFollowed ((store configuration).pathOf place) = true) →
    (store configuration).Catalogues files profile

namespace Call

variable {call : Call} {files : Files} {place : Place}

def outcome (call : Call) (files : Files) : Except Error String :=
  (run call.configuration call.circumstances call.elapsed call.command files).1

def after (call : Call) (files : Files) : Files :=
  (run call.configuration call.circumstances call.elapsed call.command files).2

/-- The file at the place is the one that the command may change: that of the profile for the
description it has read, or that of its report, when an app was matched with a catalog that is not
empty. -/
def MayChange (call : Call) (files : Files) (place : Place) : Prop :=
  match call.command with
  | .profileLibrary _ description _ =>
      ∃ known, loadDescription description files = .ok known ∧
        (call.after files).locate? ((store call.configuration).pathFor known) = some place
  | .matchApp _ _ json _ _ =>
      ∃ path loaded ownPackage results, json = some path ∧
        (store call.configuration).loadCatalog call.circumstances.sorting files = .ok loaded ∧
        loaded.catalog.profiles ≠ [] ∧
        find call.configuration call.circumstances call.command files =
          .ok (.matched ownPackage results loaded.skipped json) ∧
        (call.after files).locate? path = some place
  | .inspectProfile _ _ => False

/-- What a command does to files, and what it does not. -/
structure Contained (call : Call) (files : Files) : Prop where
  /-- A command that fails leaves every file as it was. -/
  failed : ∀ cause, call.outcome files = .error cause →
    ∀ place, (call.after files).fileAt? place = files.fileAt? place
  /-- A file that is not as it was is the one the command may change. -/
  changed : ∀ place, (call.after files).fileAt? place ≠ files.fileAt? place →
    (∃ text, call.outcome files = .ok text) ∧ call.MayChange files place
  /-- A profile that fits, which is to say that its counts and lengths are numbers of 64 bits, is
  kept when the command that makes it succeeds. -/
  kept : ∀ classes description verbose text,
    call.command = .profileLibrary classes description verbose → call.outcome files = .ok text →
      ∃ profile,
        makeProfile call.configuration classes description verbose files = .ok profile ∧
        loadDescription description files = .ok profile.description ∧
        (profile.Fits → Kept call.configuration profile (call.after files))

/-- A command succeeds with its files, or it fails with those it was given. -/
theorem outcome_cases (call : Call) (files : Files) :
    (∃ text, execute call.configuration call.circumstances call.elapsed call.command files =
        .ok (text, call.after files) ∧ call.outcome files = .ok text) ∨
      ∃ cause, call.outcome files = .error cause ∧ call.after files = files := by
  rw [outcome, after, run]
  split
  · next text later executed => exact .inl ⟨text, executed, rfl⟩
  · next cause _ => exact .inr ⟨cause, rfl, rfl⟩

/-- A command that changes a file has succeeded, and the file is the one it may change. -/
theorem changed_of_fileAt?_ne (changed : (call.after files).fileAt? place ≠ files.fileAt? place) :
    (∃ text, call.outcome files = .ok text) ∧ call.MayChange files place := by
  obtain ⟨text, executed, succeeded⟩ | ⟨cause, -, same⟩ := call.outcome_cases files
  · refine ⟨⟨text, succeeded⟩, ?_⟩
    obtain ⟨configuration, circumstances, elapsed, command⟩ := call
    cases command with
    | profileLibrary classes description verbose =>
        obtain ⟨profile, path, made, saved⟩ := execute_profileLibrary executed
        obtain ⟨-, -, stored⟩ := ProfileStore.save_eq_ok_iff.mp saved
        exact ⟨profile.description, loadDescription_of_makeProfile made,
          ProfileStore.locate?_of_written? stored changed⟩
    | matchApp classes appPackage json noPartial timeout =>
        obtain same | ⟨path, loaded, ownPackage, results, named, loads, occupied, found, written⟩ :=
          execute_matchApp executed
        · rw [same] at changed
          exact absurd rfl changed
        · exact ⟨path, loaded, ownPackage, results, named, loads, occupied, found,
            Files.locate?_of_write? written changed⟩
    | inspectProfile path withPackages =>
        rw [execute_inspectProfile executed] at changed
        exact absurd rfl changed
  · rw [same] at changed
    exact absurd rfl changed

/-- A profile that was made is kept. -/
theorem kept_of_profileLibrary (sound : files.Sound) {classes description text : String}
    {verbose : Bool} (asked : call.command = .profileLibrary classes description verbose)
    (succeeded : call.outcome files = .ok text) :
    ∃ profile, makeProfile call.configuration classes description verbose files = .ok profile ∧
      loadDescription description files = .ok profile.description ∧
      (profile.Fits → Kept call.configuration profile (call.after files)) := by
  obtain ⟨printed, executed, -⟩ | ⟨cause, failed, -⟩ := call.outcome_cases files
  · rw [asked] at executed
    obtain ⟨profile, path, made, saved⟩ := execute_profileLibrary executed
    obtain ⟨solid, rfl, stored⟩ := ProfileStore.save_eq_ok_iff.mp saved
    refine ⟨profile, made, loadDescription_of_makeProfile made, fun fits => ⟨?_, ?_⟩⟩
    · intro circumstances elapsed withPackages
      have loaded := ProfileStore.load_of_written? fits solid stored
      simp only [run, execute, find, loaded]
      rfl
    · intro folder place root lies inside unfinished short
      exact ProfileStore.catalogues_of_written? sound fits solid stored root lies inside unfinished
        short
  · rw [failed] at succeeded
    cases succeeded

/-- Commands leave a sound file system sound. -/
theorem sound_after (sound : files.Sound) (call : Call) : (call.after files).Sound := by
  obtain ⟨text, executed, -⟩ | ⟨cause, -, same⟩ := call.outcome_cases files
  · obtain ⟨configuration, circumstances, elapsed, command⟩ := call
    cases command with
    | profileLibrary classes description verbose =>
        obtain ⟨profile, path, -, saved⟩ := execute_profileLibrary executed
        exact ProfileStore.sound_of_written? sound (ProfileStore.save_eq_ok_iff.mp saved).2.2
    | matchApp classes appPackage json noPartial timeout =>
        obtain same | ⟨path, loaded, ownPackage, results, -, -, -, -, written⟩ :=
          execute_matchApp executed
        · rwa [same]
        · exact sound.write? written
    | inspectProfile path withPackages => rwa [execute_inspectProfile executed]
  · rwa [same]

theorem contained (sound : files.Sound) (call : Call) : call.Contained files where
  failed cause failed place := by
    by_contra changed
    obtain ⟨⟨text, succeeded⟩, -⟩ := changed_of_fileAt?_ne changed
    rw [failed] at succeeded
    cases succeeded
  changed _ := changed_of_fileAt?_ne
  kept _ _ _ _ := kept_of_profileLibrary sound

end Call

/-! ## Call after call -/

/-- The files after calls, one after the other. -/
def filesAfter : List Call → Files → Files
  | [], files => files
  | call :: calls, files => filesAfter calls (call.after files)

theorem sound_filesAfter {files : Files} (sound : files.Sound) (calls : List Call) :
    (filesAfter calls files).Sound := by
  induction calls generalizing files with
  | nil => exact sound
  | cons call calls ih => exact ih (Call.sound_after sound call)

/-- A file that is not as it was at the start was changed by one of the calls. -/
theorem exists_call_of_fileAt?_ne {files : Files} {place : Place} {calls : List Call}
    (changed : (filesAfter calls files).fileAt? place ≠ files.fileAt? place) :
    ∃ earlier call later, calls = earlier ++ call :: later ∧
      (call.after (filesAfter earlier files)).fileAt? place ≠
        (filesAfter earlier files).fileAt? place := by
  induction calls generalizing files with
  | nil => exact absurd rfl changed
  | cons call calls ih =>
      by_cases first : (call.after files).fileAt? place = files.fileAt? place
      · rw [← first] at changed
        obtain ⟨earlier, other, later, rfl, written⟩ := ih changed
        exact ⟨call :: earlier, other, later, rfl, written⟩
      · exact ⟨[], call, calls, rfl, first⟩

/-- After any calls, the next one changes the file of its profile or report at most, and nothing if
it fails; a profile that it makes can be inspected and is in the catalog. So what is not as it was
at the start is one of these files, and the call that it is the file of has succeeded. -/
theorem calls_contained {files : Files} (sound : files.Sound) (calls : List Call) :
    (∀ call : Call, call.Contained (filesAfter calls files)) ∧
      ∀ place, (filesAfter calls files).fileAt? place ≠ files.fileAt? place →
        ∃ earlier call later, calls = earlier ++ call :: later ∧
          (∃ text, call.outcome (filesAfter earlier files) = .ok text) ∧
          call.MayChange (filesAfter earlier files) place := by
  refine ⟨Call.contained (sound_filesAfter sound calls), ?_⟩
  intro place changed
  obtain ⟨earlier, call, later, shape, written⟩ := exists_call_of_fileAt?_ne changed
  exact ⟨earlier, call, later, shape, Call.changed_of_fileAt?_ne written⟩

/-- A folder with the classes of a library, and a description of its version. -/
def libraryFiles (version : String) : Files :=
  let method := "\x7b\"name\": \"get\", \"access\": \"public\", \"returns\": \"I\"\x7d"
  let classes := "\x7b\"classes\": [\x7b\"name\": \"a.B\", \"methods\": [" ++ method ++ "]\x7d]\x7d"
  let description := "name = \"okhttp\"\ncategory = \"Utilities\"\nversion = \"" ++ version ++ "\""
  ⟨["home"], [(["home", "lib.json"], Text.encode classes),
    (["home", "lib.toml"], Text.encode description)], []⟩

/-- A library is profiled, and looked for in its own classes. -/
theorem calls_contained_matched :
    let configuration : Configuration := ⟨.standard, "profiles", .standard, false, []⟩
    let circumstances : Circumstances := ⟨.checked, false, 0, Identify.orderly⟩
    let files := libraryFiles "3"
    let profiling : Call :=
      ⟨configuration, circumstances, 0, .profileLibrary "lib.json" "lib.toml" false⟩
    let matching : Call :=
      ⟨configuration, circumstances, 7, .matchApp "lib.json" none (some "report.json") false none⟩
    files.Sound ∧
      profiling.outcome files =
        .ok "Profile of okhttp (3) saved to profiles/Utilities/okhttp_3.libv" ∧
      (∃ profile loaded, profile.description = ⟨"okhttp", .utilities, some "3", none, none⟩ ∧
        (store configuration).loadCatalog .checked (profiling.after files) = .ok loaded ∧
        profile ∈ loaded.catalog.profiles) ∧
      (∃ text, matching.outcome (filesAfter [profiling] files) = .ok text) ∧
      matching.MayChange (filesAfter [profiling] files) ["home", "report.json"] := by
  intro configuration circumstances files profiling matching
  let known : Description := ⟨"okhttp", .utilities, some "3", none, none⟩
  let fitting : Bool := match makeProfile configuration "lib.json" "lib.toml" false files with
    | .ok profile => decide profile.Fits
    | .error _ => false
  -- The commands are carried out once for all that is to be seen of them.
  obtain ⟨sound, succeeded, read, fits, root, lies, reported⟩ : files.Sound ∧
      profiling.outcome files =
        .ok "Profile of okhttp (3) saved to profiles/Utilities/okhttp_3.libv" ∧
      loadDescription "lib.toml" files = .ok known ∧ fitting = true ∧
      (profiling.after files).locate? "profiles" = some ["home", "profiles"] ∧
      (profiling.after files).locate? ((store configuration).pathFor known) =
        some (["home", "profiles"] ++ ["Utilities", "okhttp_3.libv"]) ∧
      (matching.after (filesAfter [profiling] files)).fileAt? ["home", "report.json"] ≠
        (filesAfter [profiling] files).fileAt? ["home", "report.json"] := by
    decide +kernel
  obtain ⟨first, -⟩ := calls_contained sound []
  obtain ⟨second, -⟩ := calls_contained sound [profiling]
  obtain ⟨profile, made, described, keeps⟩ := (first profiling).kept _ _ _ _ rfl succeeded
  have description : known = profile.description := Except.ok.inj (read.symm.trans described)
  have kept : Kept configuration profile (profiling.after files) := by
    apply keeps
    have created : makeProfile configuration "lib.json" "lib.toml" false files = .ok profile := made
    simp only [fitting, created] at fits
    exact of_decide_eq_true fits
  rw [description] at lies
  obtain ⟨paths, listed, member, isLoad⟩ := kept.catalogued _ _ root lies (List.cons_ne_nil _ _)
    (by rw [← description]; decide +kernel) (by rw [← description]; decide +kernel)
  have one : (store configuration).list (profiling.after files) =
      .ok ["profiles/Utilities/okhttp_3.libv"] := by
    decide +kernel
  obtain rfl := Except.ok.inj (one.symm.trans listed)
  have few : (ProfileStore.loadable ["profiles/Utilities/okhttp_3.libv"]
      (profiling.after files)).length ≤ 20 :=
    (List.length_filterMap_le _ _).trans (by decide)
  obtain ⟨loaded, loads⟩ := (isLoad .checked).ends (.inl few)
  exact ⟨sound, succeeded, ⟨profile, loaded, description.symm, loads,
    ((isLoad .checked).gathers loaded loads).1.symm.subset member⟩,
    (second matching).changed _ reported⟩

/-- The file of a version that ends in a slash has no name before its extension. The profile is made
and stored below the folder of the store, and the catalog is empty. -/
theorem catalog_empty_of_final_slash :
    let configuration : Configuration := ⟨.standard, "profiles", .standard, false, []⟩
    let circumstances : Circumstances := ⟨.checked, false, 0, Identify.orderly⟩
    let files := libraryFiles "3/"
    let known : Description := ⟨"okhttp", .utilities, some "3/", none, none⟩
    let profiling : Call :=
      ⟨configuration, circumstances, 0, .profileLibrary "lib.json" "lib.toml" false⟩
    files.Sound ∧ loadDescription "lib.toml" files = .ok known ∧
      profiling.outcome files =
        .ok "Profile of okhttp (3/) saved to profiles/Utilities/okhttp_3/.libv" ∧
      (profiling.after files).locate? "profiles" = some ["home", "profiles"] ∧
      (profiling.after files).locate? ((store configuration).pathFor known) =
        some (["home", "profiles"] ++ ["Utilities", "okhttp_3", ".libv"]) ∧
      ∃ loaded, (store configuration).loadCatalog .checked (profiling.after files) = .ok loaded ∧
        loaded.catalog.profiles = [] := by
  intro configuration circumstances files known profiling
  obtain ⟨sound, read, succeeded, root, lies, listed⟩ : files.Sound ∧
      loadDescription "lib.toml" files = .ok known ∧
      profiling.outcome files =
        .ok "Profile of okhttp (3/) saved to profiles/Utilities/okhttp_3/.libv" ∧
      (profiling.after files).locate? "profiles" = some ["home", "profiles"] ∧
      (profiling.after files).locate? ((store configuration).pathFor known) =
        some (["home", "profiles"] ++ ["Utilities", "okhttp_3", ".libv"]) ∧
      (store configuration).list (profiling.after files) = .ok [] := by
    decide +kernel
  refine ⟨sound, read, succeeded, root, lies, ⟨⟨[]⟩, []⟩, ?_, rfl⟩
  rw [ProfileStore.loadCatalog_eq .checked listed]
  rfl

end LibPrint.CommandLine
