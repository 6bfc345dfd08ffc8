import LibPrint.Files

/-!
# Reading back a written file

A file that was written is found by the path it was written by: writing takes no folder away, so the
way to it still exists, and the last step leads from its folder to the file.
-/

namespace LibPrint

/-- The place a step leads to from a folder, whatever there is. -/
def Place.descend? (place : Place) (step : String) : Option Place :=
  if step == "" || step == "." then some place
  else if step == ".." then some place.dropLast
  else if isName step then some (place ++ [step])
  else none

namespace Files

theorem follow?_cons (files : Files) (place : Place) (step : String) (steps : List String) :
    files.follow? place (step :: steps) =
      if files.hasFolder place then (place.descend? step).bind (files.follow? · steps)
      else none := by
  simp only [follow?, Place.descend?]
  grind

theorem follow?_append (files : Files) (start : Place) (front back : List String) :
    files.follow? start (front ++ back) =
      (files.follow? start front).bind (files.follow? · back) := by
  induction front generalizing start with
  | nil => rfl
  | cons step front ih =>
      rw [List.cons_append, follow?_cons, follow?_cons]
      split
      · simp [ih, Option.bind_assoc]
      · rfl

/-- A way leads to the same place where no folder is missing. -/
theorem follow?_of_hasFolder {before after : Files}
    (kept : ∀ folder, before.hasFolder folder = true → after.hasFolder folder = true)
    {start reached : Place} {steps : List String}
    (followed : before.follow? start steps = some reached) :
    after.follow? start steps = some reached := by
  induction steps generalizing start with
  | nil => exact followed
  | cons step steps ih =>
      rw [follow?_cons] at followed ⊢
      split at followed
      · next found =>
        obtain ⟨place, descended, followed⟩ := Option.bind_eq_some_iff.mp followed
        rw [if_pos (kept start found), descended, Option.bind_some]
        exact ih followed
      · cases followed

/-- The last step of a way leads from a folder to what has that name in it. -/
theorem follow?_name {files : Files} {folder : Place} {name : String}
    (found : files.hasFolder folder = true) (proper : name ≠ "" ∧ name ≠ "." ∧ name ≠ "..")
    (allowed : Place.isName name = true) :
    files.follow? folder [name] = some (folder ++ [name]) := by
  simp [follow?, found, proper, allowed]

theorem fileAt?_put (files : Files) (place : Place) (bytes : List UInt8) :
    (files.put place bytes).fileAt? place = some bytes := by
  simp [fileAt?, put]

/-- A folder that held a file holds it after a write too, or the written one in its stead. -/
theorem hasFolder_put {files : Files} {folder : Place} (place : Place) (bytes : List UInt8)
    (found : files.hasFolder folder = true) : (files.put place bytes).hasFolder folder = true := by
  simp only [hasFolder, Bool.or_eq_true, List.any_eq_true] at found ⊢
  obtain known | ⟨file, member, inside⟩ := found
  · exact .inl known
  · by_cases replaced : file.1 = place
    · exact .inr ⟨(place, bytes), by simp [put], replaced ▸ inside⟩
    · exact .inr ⟨file, by simp [put, member, replaced], inside⟩

/-- How a path leads to where a file can be written: by a folder, and a name that is free for it. -/
structure Targets (files : Files) (path : String) (way : List String) (folder : Place)
    (name : String) : Prop where
  steps : Path.steps path = way ++ [name]
  followed : files.follow? (files.start path) way = some folder
  found : files.hasFolder folder = true
  proper : name ≠ "" ∧ name ≠ "." ∧ name ≠ ".."
  allowed : Place.isName name = true
  short : Path.isFollowed path = true
  free : files.hasFolder (folder ++ [name]) = false

theorem exists_targets_of_target? {files : Files} {path : String} {place : Place}
    (target : files.target? path = some place) :
    ∃ way folder name, files.Targets path way folder name ∧ place = folder ++ [name] := by
  simp only [target?, Option.bind_eq_bind, Option.bind_eq_some_iff] at target
  obtain ⟨name, last, folder, followed, ends⟩ := target
  obtain ⟨way, steps⟩ := List.getLast?_eq_some_iff.mp last
  rw [steps, List.dropLast_concat] at followed
  split at ends
  · cases ends
  · next suited =>
    simp only [List.contains_cons, List.contains_nil, Bool.or_false, Bool.or_eq_true, beq_iff_eq,
      Bool.not_eq_true', not_or, Bool.not_eq_true, Bool.not_eq_false] at suited
    obtain ⟨⟨⟨⟨proper, allowed⟩, short⟩, found⟩, free⟩ := suited
    exact ⟨way, folder, name, ⟨steps, followed, found, proper, allowed, short, free⟩,
      (Option.some.inj ends).symm⟩

/-- What was written by a path lies where the path leads to. -/
theorem locate?_put {files : Files} {path : String} {place : Place}
    (target : files.target? path = some place) (bytes : List UInt8) :
    (files.put place bytes).locate? path = some place := by
  obtain ⟨way, folder, name, suited, rfl⟩ := exists_targets_of_target? target
  have named : path ≠ "" := by
    rintro rfl
    have last : some "" = (way ++ [name]).getLast? := congrArg List.getLast? suited.steps
    rw [List.getLast?_concat] at last
    exact suited.proper.1 (Option.some.inj last).symm
  have kept : ∀ place, files.hasFolder place = true →
      (files.put (folder ++ [name]) bytes).hasFolder place = true :=
    fun _ => hasFolder_put _ bytes
  have followed : (files.put (folder ++ [name]) bytes).follow? (files.start path)
      (Path.steps path) = some (folder ++ [name]) := by
    rw [suited.steps, follow?_append, follow?_of_hasFolder kept suited.followed, Option.bind_some,
      follow?_name (kept folder suited.found) suited.proper suited.allowed]
  have start : (files.put (folder ++ [name]) bytes).start path = files.start path := rfl
  simp [locate?, named, suited.short, start, followed]

theorem read?_of_write? {files after : Files} {path : String} {bytes : List UInt8}
    (written : files.write? path bytes = some after) : after.read? path = some bytes := by
  obtain ⟨place, target, rfl⟩ := Option.map_eq_some_iff.mp written
  rw [read?, locate?_put target, Option.bind_some, fileAt?_put]

/-- The folder of a path can be made, and then a file can be written by it. -/
def Writable (files : Files) (path : String) : Prop :=
  ((files.makeParents? path).bind (·.target? path)).isSome = true

theorem writable_iff {files : Files} {path : String} (bytes : List UInt8) :
    files.Writable path ↔
      ∃ after, (files.makeParents? path).bind (·.write? path bytes) = some after := by
  simp only [Writable, write?, Option.isSome_iff_exists, Option.bind_eq_some_iff,
    Option.map_eq_some_iff]
  constructor
  · rintro ⟨place, prepared, made, target⟩
    exact ⟨prepared.put place bytes, prepared, made, place, target, rfl⟩
  · rintro ⟨after, prepared, made, place, target, -⟩
    exact ⟨place, prepared, made, target⟩

end Files

end LibPrint
