import LibPrint.Proofs.Files.Writing
import LibPrint.Proofs.Text

/-!
# Ways through a file system

Where a way leads is a matter of its steps alone: folders only decide whether it can be followed. So
making folders on the way to a file changes none of the places that could be reached before, and a
way whose steps are all names ends at the place these names spell.
-/

namespace LibPrint

/-- A step that goes down to what has its name. -/
def Path.IsName (step : String) : Prop :=
  step ≠ "" ∧ step ≠ "." ∧ step ≠ ".."

instance (step : String) : Decidable (Path.IsName step) :=
  inferInstanceAs (Decidable (_ ∧ _))

namespace Path

theorem steps_append (front back : String) :
    steps (front ++ "/" ++ back) = steps front ++ steps back := by
  apply Text.pieces_of_toList_eq
  simp

theorem intercalate_steps (path : String) : "/".intercalate (steps path) = path :=
  Text.intercalate_pieces '/' path

theorem steps_inj {left right : String} : steps left = steps right ↔ left = right := by
  constructor
  · intro same
    rw [← intercalate_steps left, same, intercalate_steps]
  · exact congrArg steps

theorem join_of_open {base part : String} (named : base ≠ "")
    (unfinished : base.toList.getLast? ≠ some '/') (relative : isAbsolute part = false) :
    join base part = base ++ "/" ++ part := by
  simp [join, relative, named, unfinished]

/-- A path that is not absolute is put behind the other one and a slash, which is not made twice. -/
theorem exists_join_eq {base : String} (named : base ≠ "") :
    ∃ front, (base = front ∨ base = front ++ "/") ∧
      ∀ part, isAbsolute part = false → join base part = front ++ "/" ++ part := by
  by_cases ends : base.toList.getLast? = some '/'
  · obtain ⟨front, shape⟩ := List.getLast?_eq_some_iff.mp ends
    have cut : base = String.ofList front ++ "/" := String.toList_inj.mp (by simp [shape])
    refine ⟨String.ofList front, .inr cut, ?_⟩
    intro part relative
    rw [← cut]
    simp [join, relative, named, ends]
  · exact ⟨base, .inl rfl, fun part relative => join_of_open named ends relative⟩

/-- A path whose steps are names starts where it is followed from. -/
theorem not_isAbsolute {path : String} (names : ∀ step ∈ steps path, IsName step) :
    isAbsolute path = false := by
  by_contra absolute
  rw [Bool.not_eq_false, isAbsolute, Text.startsWith, Option.isSome_iff_exists] at absolute
  obtain ⟨rest, begins⟩ := absolute
  have cut := Text.afterStart?_eq_some_iff.mp begins
  have parts : steps path = steps "" ++ steps (String.ofList rest) :=
    Text.pieces_of_toList_eq (by simpa using cut)
  have empty : "" ∈ steps path := by
    rw [parts]
    exact List.mem_append_left _ (by decide +kernel)
  exact (names "" empty).1 rfl

/-- Where a path starts is seen at its beginning. -/
theorem isAbsolute_append {front : String} (named : front ≠ "") (back : String) :
    isAbsolute (front ++ back) = isAbsolute front := by
  have occupied : front.toList ≠ [] := fun none => named (String.toList_inj.mp none)
  obtain ⟨first, others, shape⟩ := List.exists_cons_of_ne_nil occupied
  rw [isAbsolute, isAbsolute, Text.startsWith, Text.startsWith, String.toList_append, shape]
  have slash : "/".toList = ['/'] := rfl
  simp only [slash, List.cons_append, Text.afterStart?]
  split <;> rfl

/-- A joined path begins with the one that is continued. -/
theorem exists_join_eq_append {base part : String} (named : base ≠ "")
    (relative : isAbsolute part = false) : ∃ rest, join base part = base ++ rest := by
  obtain ⟨front, shape, joined⟩ := exists_join_eq named
  rw [joined part relative]
  rcases shape with rfl | rfl
  · exact ⟨"/" ++ part, String.append_assoc⟩
  · exact ⟨part, rfl⟩

theorem isFollowed_of_append {front back : String} (short : isFollowed (front ++ back) = true) :
    isFollowed front = true := by
  have below : (front ++ back).utf8ByteSize < 4096 := of_decide_eq_true short
  rw [String.utf8ByteSize_append] at below
  exact decide_eq_true (by omega)

/-- Joining one part after the other is joining them at once. -/
theorem join_join {base part last : String} (named : base ≠ "") (partNamed : part ≠ "")
    (unfinished : part.toList.getLast? ≠ some '/') (relative : isAbsolute part = false)
    (lastRelative : isAbsolute last = false) :
    join (join base part) last = join base (part ++ "/" ++ last) := by
  obtain ⟨front, -, joined⟩ := exists_join_eq named
  have whole : isAbsolute (part ++ "/" ++ last) = false := by
    rw [String.append_assoc, isAbsolute_append partNamed, relative]
  have occupied : part.toList ≠ [] := fun none => partNamed (String.toList_inj.mp none)
  have unfinishedToo : (front ++ "/" ++ part).toList.getLast? ≠ some '/' := by
    rwa [String.toList_append, List.getLast?_append_of_ne_nil _ occupied]
  have some : front ++ "/" ++ part ≠ "" := by
    intro none
    have empty := congrArg String.toList none
    rw [String.toList_append] at empty
    exact occupied (List.append_eq_nil_iff.mp empty).2
  rw [joined part relative, joined _ whole, join_of_open some unfinishedToo lastRelative]
  simp only [String.append_assoc]

/-- The way of a joined path goes on from where that of the first one leads. -/
theorem exists_front {base : String} (named : base ≠ "") :
    ∃ front, (steps base = front ∨ steps base = front ++ [""]) ∧
      ∀ part, isAbsolute part = false → steps (join base part) = front ++ steps part := by
  obtain ⟨front, shape, joined⟩ := exists_join_eq named
  refine ⟨steps front, ?_, fun part relative => by rw [joined part relative, steps_append]⟩
  rcases shape with rfl | rfl
  · exact .inl rfl
  · have parts := steps_append front ""
    rw [String.append_empty] at parts
    exact .inr parts

end Path

namespace Files

/-! ## Where ways lead -/

/-- Two file systems lead to the same place, if both let the way be followed. -/
theorem follow?_unique {first second : Files} {start left right : Place} {steps : List String}
    (leads : first.follow? start steps = some left)
    (leadsToo : second.follow? start steps = some right) : left = right := by
  induction steps generalizing start with
  | nil => exact (Option.some.inj leads).symm.trans (Option.some.inj leadsToo)
  | cons step steps ih =>
      rw [follow?_cons] at leads leadsToo
      split at leads
      · split at leadsToo
        · obtain ⟨place, descended, leads⟩ := Option.bind_eq_some_iff.mp leads
          rw [descended, Option.bind_some] at leadsToo
          exact ih leads leadsToo
        · cases leadsToo
      · cases leads

/-- Two file systems with one place to start from lead to the same place by a path. -/
theorem locate?_unique {first second : Files} {path : String} {left right : Place}
    (start : first.current = second.current) (leads : first.locate? path = some left)
    (leadsToo : second.locate? path = some right) : left = right := by
  simp only [locate?, Files.start, start] at leads leadsToo
  split at leads
  · cases leads
  · next followed =>
    rw [if_neg followed] at leadsToo
    exact follow?_unique leads leadsToo

/-- A path leads to the same place where no folder is missing. -/
theorem locate?_of_hasFolder {before after : Files} {path : String} {place : Place}
    (start : after.current = before.current)
    (kept : ∀ folder, before.hasFolder folder = true → after.hasFolder folder = true)
    (leads : before.locate? path = some place) : after.locate? path = some place := by
  simp only [locate?, Files.start, start] at leads ⊢
  split at leads
  · cases leads
  · next followed =>
    rw [if_neg followed]
    exact follow?_of_hasFolder kept leads

/-- Names are gone down one after the other. -/
theorem eq_append_of_follow? {files : Files} {start reached : Place} {names : List String}
    (proper : ∀ name ∈ names, Path.IsName name)
    (leads : files.follow? start names = some reached) : reached = start ++ names := by
  induction names generalizing start with
  | nil => rw [List.append_nil, ← Option.some.inj leads]
  | cons name names ih =>
      obtain ⟨isName, proper⟩ := List.forall_mem_cons.mp proper
      rw [follow?_cons] at leads
      split at leads
      · obtain ⟨place, descended, leads⟩ := Option.bind_eq_some_iff.mp leads
        have down : place = start ++ [name] := by
          simp only [Place.descend?, isName.1, isName.2.1, isName.2.2, beq_iff_eq, if_false,
            Bool.or_eq_true, or_self] at descended
          split at descended
          · exact (Option.some.inj descended).symm
          · cases descended
        rw [ih proper leads, down, List.append_assoc]
        rfl
      · cases leads

/-- A way that goes on has led to a folder. -/
theorem hasFolder_of_follow? {files : Files} {start reached : Place} {step : String}
    {steps : List String} (leads : files.follow? start (step :: steps) = some reached) :
    files.hasFolder start = true := by
  rw [follow?_cons] at leads
  split at leads
  · next found => exact found
  · cases leads

/-- A slash at the end of a path leads nowhere else. -/
theorem follow?_empty {files : Files} {folder : Place} (found : files.hasFolder folder = true) :
    files.follow? folder [""] = some folder := by
  simp [follow?, found]

theorem isFollowed_of_locate? {files : Files} {path : String} {place : Place}
    (leads : files.locate? path = some place) : Path.isFollowed path = true := by
  by_contra long
  rw [Bool.not_eq_true] at long
  simp [locate?, long] at leads

/-- No path is empty that leads anywhere. -/
theorem ne_empty_of_locate? {files : Files} {path : String} {place : Place}
    (leads : files.locate? path = some place) : path ≠ "" := by
  rintro rfl
  cases leads

/-- The way from a folder that a path leads to goes on as the way of the joined path does. -/
theorem exists_front_of_locate? {files : Files} {base : String} {folder : Place}
    (located : files.locate? base = some folder) :
    ∃ front, files.follow? (files.start base) front = some folder ∧
      ∀ part, Path.isAbsolute part = false →
        Path.steps (Path.join base part) = front ++ Path.steps part ∧
          files.start (Path.join base part) = files.start base := by
  rw [locate?] at located
  split at located
  · cases located
  · next followed =>
    rw [Bool.or_eq_true, beq_iff_eq, not_or] at followed
    obtain ⟨named, -⟩ := followed
    obtain ⟨front, shape, joined⟩ := Path.exists_front named
    refine ⟨front, ?_, fun part relative => ⟨joined part relative, ?_⟩⟩
    -- A slash at the end of the path is one more step, from the folder to itself.
    · rcases shape with same | slash
      · rwa [same] at located
      · rw [slash, follow?_append] at located
        obtain ⟨last, leads, itself⟩ := Option.bind_eq_some_iff.mp located
        rw [follow?_empty (hasFolder_of_follow? itself)] at itself
        rwa [← Option.some.inj itself]
    · obtain ⟨rest, begins⟩ := Path.exists_join_eq_append named relative
      rw [start, start, begins, Path.isAbsolute_append named]

/-- What a way leads to lies below a place on the way up from its start, by names of the way. -/
theorem exists_take_of_follow? {files : Files} {start reached : Place} {steps : List String}
    (leads : files.follow? start steps = some reached) :
    ∃ kept names, names.Sublist steps ∧ reached = start.take kept ++ names := by
  induction steps generalizing start with
  | nil =>
      obtain rfl := Option.some.inj leads
      exact ⟨start.length, [], .slnil, by simp⟩
  | cons step steps ih =>
      rw [follow?_cons] at leads
      split at leads
      · obtain ⟨place, descended, leads⟩ := Option.bind_eq_some_iff.mp leads
        obtain ⟨kept, names, passed, rfl⟩ := ih leads
        rw [Place.descend?] at descended
        split at descended
        · obtain rfl := Option.some.inj descended
          exact ⟨kept, names, passed.cons step, rfl⟩
        · split at descended
          · obtain rfl := Option.some.inj descended
            refine ⟨min kept (start.length - 1), names, passed.cons step, ?_⟩
            rw [List.dropLast_eq_take, List.take_take]
          · split at descended
            · obtain rfl := Option.some.inj descended
              by_cases inside : kept ≤ start.length
              · refine ⟨kept, names, passed.cons step, ?_⟩
                rw [List.take_append_of_le_length inside]
              · refine ⟨start.length, step :: names, passed.cons_cons step, ?_⟩
                have longer : (start ++ [step]).length ≤ kept := by
                  rw [List.length_append, List.length_singleton]
                  omega
                rw [List.take_of_length_le longer, List.take_length]
                exact List.append_assoc ..
            · cases descended
      · cases leads

/-- The names of what lies below the start of the way that leads to it are steps of this way. -/
theorem sublist_of_follow? {files : Files} {start names : Place} {steps : List String}
    (leads : files.follow? start steps = some (start ++ names)) : names.Sublist steps := by
  obtain ⟨kept, pushed, passed, shape⟩ := exists_take_of_follow? leads
  have rest : names = (start.take kept ++ pushed).drop start.length := by
    rw [← shape, List.drop_left]
  have before : (start.take kept).drop start.length = [] := by
    rw [List.drop_eq_nil_iff, List.length_take]
    exact Nat.min_le_right _ _
  rw [rest, List.drop_append, before, List.nil_append]
  exact (List.drop_sublist _ _).trans passed

/-! ## Making folders -/

/-- More folders are there than before, and everything else is as it was. -/
structure Extends (before after : Files) : Prop where
  current : after.current = before.current
  files : after.files = before.files
  folders : ∀ place, before.hasFolder place = true → after.hasFolder place = true

theorem Extends.trans {first second third : Files} (lower : Extends first second)
    (upper : Extends second third) : Extends first third :=
  ⟨upper.current.trans lower.current, upper.files.trans lower.files,
    fun place found => upper.folders place (lower.folders place found)⟩

theorem extends_folder (files : Files) (place : Place) :
    Extends files { files with folders := place :: files.folders } := by
  refine ⟨rfl, rfl, ?_⟩
  intro other found
  simp only [hasFolder, List.any_cons, Bool.or_eq_true] at found ⊢
  obtain (top | known) | holds := found
  · exact .inl (.inl top)
  · exact .inl (.inr (.inr known))
  · exact .inr holds

theorem extends_makeAlong? {files after : Files} {start : Place} {steps : List String}
    (made : files.makeAlong? start steps = some after) : Extends files after := by
  induction steps generalizing files start with
  | nil =>
      obtain rfl := Option.some.inj made
      exact ⟨rfl, rfl, fun _ => id⟩
  | cons step steps ih =>
      simp only [makeAlong?] at made
      split at made
      · exact ih made
      · split at made
        · exact ih made
        · split at made
          · exact ih made
          · split at made
            · exact (extends_folder files _).trans (ih made)
            · cases made

theorem extends_makeParents? {files after : Files} {path : String}
    (made : files.makeParents? path = some after) : Extends files after := by
  rw [makeParents?, makeFolders?] at made
  split at made
  · exact extends_makeAlong? made
  · cases made

end Files

end LibPrint
