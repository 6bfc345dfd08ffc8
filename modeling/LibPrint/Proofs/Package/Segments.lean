import LibPrint.Package.Tree
import LibPrint.Proofs.Text

/-!
# Names as lists of segments

A package name is read character by character, while what it says is the list of its segments. For
names without empty segments the two are the same thing: nesting is one list starting with the
other, the parent is all segments but the last, and the relationship of two packages is that of
their lists. What two packages have in common at their front therefore plays no part in how they lie
to each other.
-/

namespace LibPrint.Package

/-- A name that is made of segments alone: no piece between its dots is empty. -/
def IsName (name : String) : Prop :=
  "" ∉ Text.pieces '.' name

instance (name : String) : Decidable (IsName name) :=
  inferInstanceAs (Decidable (¬ _))

/-- Texts that can be the segments of a name. -/
def AreSegments (segments : List String) : Prop :=
  ∀ segment ∈ segments, segment ≠ "" ∧ '.' ∉ segment.toList

instance (segments : List String) : Decidable (AreSegments segments) :=
  inferInstanceAs (Decidable (∀ segment ∈ segments, segment ≠ "" ∧ '.' ∉ segment.toList))

theorem AreSegments.append {front back : List String} (first : AreSegments front)
    (second : AreSegments back) : AreSegments (front ++ back) := by
  intro segment member
  rcases List.mem_append.mp member with before | after
  · exact first segment before
  · exact second segment after

theorem AreSegments.of_subset {all some : List String} (segments : AreSegments all)
    (subset : some ⊆ all) : AreSegments some :=
  fun segment member => segments segment (subset member)

/-! ## Segments and names -/

/-- A dot keeps the segments before it from those after it. -/
theorem segments_append (front back : String) :
    segments (front ++ "." ++ back) = segments front ++ segments back := by
  have cut : (front ++ "." ++ back).toList = front.toList ++ '.' :: back.toList := by
    rw [String.toList_append, String.toList_append, List.append_assoc]
    rfl
  rw [segments, Text.pieces_of_toList_eq cut, List.filter_append]
  rfl

theorem areSegments_segments (name : String) : AreSegments (segments name) := by
  intro segment member
  obtain ⟨piece, occupied⟩ := List.mem_filter.mp member
  exact ⟨bne_iff_ne.mp occupied, Text.absent_of_mem_pieces piece⟩

theorem join_concat {front : List String} (nonempty : front ≠ []) (last : String) :
    join (front ++ [last]) = join front ++ "." ++ last := by
  rw [join, String.intercalate_append_of_ne_nil nonempty (List.cons_ne_nil _ _),
    String.intercalate_singleton]
  rfl

theorem join_append {front back : List String} (frontOccupied : front ≠ [])
    (backOccupied : back ≠ []) : join (front ++ back) = join front ++ "." ++ join back :=
  String.intercalate_append_of_ne_nil frontOccupied backOccupied

/-- A name is read back as the segments it was made of. -/
@[simp] theorem segments_join {list : List String} (valid : AreSegments list) :
    segments (join list) = list := by
  induction list with
  | nil => rfl
  | cons segment list ih =>
      have rest := ih (valid.of_subset (List.subset_cons_self _ _))
      obtain ⟨occupied, absent⟩ := valid segment List.mem_cons_self
      have alone : segments segment = [segment] := by
        rw [segments, Text.pieces_of_absent absent]
        simp [occupied]
      cases list with
      | nil => rwa [join, String.intercalate_singleton]
      | cons next list =>
          have parts : join (segment :: next :: list) = segment ++ "." ++ join (next :: list) :=
            String.intercalate_cons_cons
          rw [parts, segments_append, alone, rest]
          rfl

/-- A name without empty segments is made of its segments. -/
theorem join_segments {name : String} (valid : IsName name) : join (segments name) = name := by
  have all : segments name = Text.pieces '.' name := by
    apply List.filter_eq_self.mpr
    intro piece member
    rw [bne_iff_ne]
    rintro rfl
    exact valid member
  rw [join, all]
  exact Text.intercalate_pieces '.' name

theorem segments_ne_nil {name : String} (valid : IsName name) : segments name ≠ [] := by
  intro nothing
  have empty : join [] = name := nothing ▸ join_segments valid
  subst empty
  revert valid
  decide

theorem depth_pos {name : String} (valid : IsName name) : 0 < depth name :=
  List.length_pos_iff.mpr (segments_ne_nil valid)

/-! ## Nesting -/

theorem isWithin_iff {name root : String} :
    isWithin name root = true ↔
      root = "" ∨ name = root ∨ ∃ rest, name = root ++ "." ++ rest := by
  rw [isWithin, Bool.or_eq_true, beq_iff_eq]
  apply or_congr_right
  cases found : Text.afterStart? root.toList name.toList with
  | none =>
      have apart (rest : List Char) : name.toList ≠ root.toList ++ rest := by
        intro starts
        rw [Text.afterStart?_eq_some_iff.mpr starts] at found
        cases found
      constructor
      · nofun
      · rintro (rfl | ⟨rest, rfl⟩)
        · exact absurd (List.append_nil _).symm (apart [])
        · exact absurd (by simp) (apart ('.' :: rest.toList))
  | some rest =>
      have starts := Text.afterStart?_eq_some_iff.mp found
      cases rest with
      | nil =>
          rw [List.append_nil] at starts
          exact ⟨fun _ => .inl (String.toList_inj.mp starts), fun _ => rfl⟩
      | cons next rest =>
          constructor
          · intro dot
            rw [eq_of_beq dot] at starts
            refine .inr ⟨String.ofList rest, String.toList_inj.mp ?_⟩
            simp [starts]
          · rintro (rfl | ⟨other, rfl⟩)
            · exact absurd starts (by simp)
            · have dot : next = '.' := by
                simp only [String.toList_append, List.append_assoc,
                  List.append_cancel_left_eq] at starts
                exact (List.cons.inj starts).1.symm
              rw [dot]
              rfl

theorem isWithin_self (name : String) : isWithin name name = true :=
  isWithin_iff.mpr (.inr (.inl rfl))

/-- One package is within another when its segments start with those of the other. -/
theorem isWithin_join {inner outer : List String} (innerValid : AreSegments inner)
    (outerValid : AreSegments outer) :
    isWithin (join inner) (join outer) = true ↔ outer <+: inner := by
  rw [isWithin_iff]
  constructor
  · rintro (empty | same | ⟨rest, below⟩)
    · have none : segments (join outer) = [] := by rw [empty]; rfl
      rw [segments_join outerValid] at none
      rw [none]
      exact List.nil_prefix
    · have equal := congrArg segments same
      rw [segments_join innerValid, segments_join outerValid] at equal
      subst equal
      exact List.prefix_rfl
    · have parts := congrArg segments below
      rw [segments_join innerValid, segments_append, segments_join outerValid] at parts
      exact ⟨segments rest, parts.symm⟩
  · rintro ⟨rest, rfl⟩
    rcases List.eq_nil_or_concat outer with rfl | ⟨_, _, rfl⟩
    · exact .inl rfl
    · rcases List.eq_nil_or_concat rest with rfl | ⟨_, _, rfl⟩
      · right; left
        rw [List.append_nil]
      · exact .inr (.inr ⟨_, join_append (by simp) (by simp)⟩)

/-- The same for names. -/
theorem isWithin_iff_prefix {inner outer : String} (innerValid : IsName inner)
    (outerValid : IsName outer) :
    isWithin inner outer = true ↔ segments outer <+: segments inner := by
  have nested := isWithin_join (areSegments_segments inner) (areSegments_segments outer)
  rwa [join_segments innerValid, join_segments outerValid] at nested

/-! ## Relationships -/

theorem parent_join {list : List String} (valid : AreSegments list) :
    parent (join list) = join list.dropLast := by
  rcases List.eq_nil_or_concat list with rfl | ⟨front, last, rfl⟩
  · rfl
  · obtain ⟨-, absent⟩ := valid last (by simp)
    rw [List.concat_eq_append, List.dropLast_concat]
    by_cases occupied : front = []
    · subst occupied
      rw [List.nil_append, join, String.intercalate_singleton, parent,
        Text.beforeLast?_of_absent absent]
      rfl
    · have cut : (join front ++ "." ++ last).toList =
          (join front).toList ++ '.' :: last.toList := by simp
      rw [join_concat occupied, parent, cut, Text.beforeLast?_append absent]
      exact String.ofList_toList

theorem join_inj {left right : List String} (leftValid : AreSegments left)
    (rightValid : AreSegments right) : join left = join right ↔ left = right := by
  constructor
  · intro same
    rw [← segments_join leftValid, same, segments_join rightValid]
  · exact congrArg join

/-- The relationship of two packages is that of the lists of their segments. -/
theorem relationship_join {left right : List String} (leftValid : AreSegments left)
    (rightValid : AreSegments right) :
    relationship (join left) (join right) =
      if right.length < left.length ∧ right <+: left then .parent
      else if left.length < right.length ∧ left <+: right then .child
      else if left.length = right.length ∧ left.dropLast = right.dropLast then .sibling
      else .unrelated := by
  have leftParent := leftValid.of_subset (List.dropLast_subset left)
  have rightParent := rightValid.of_subset (List.dropLast_subset right)
  simp only [relationship, depth, segments_join leftValid, segments_join rightValid,
    isWithin_join leftValid rightValid, isWithin_join rightValid leftValid, parent_join leftValid,
    parent_join rightValid, join_inj leftParent rightParent]

/-- Two packages within a third one keep their relationship when that one is exchanged for
another. -/
theorem relationship_exchange {front other left right : List String}
    (frontValid : AreSegments front) (otherValid : AreSegments other)
    (leftValid : AreSegments left) (rightValid : AreSegments right) :
    relationship (join (front ++ left)) (join (front ++ right)) =
      relationship (join (other ++ left)) (join (other ++ right)) := by
  have parents : (front ++ left).length = (front ++ right).length →
      ((front ++ left).dropLast = (front ++ right).dropLast ↔
        (other ++ left).dropLast = (other ++ right).dropLast) := by
    intro lengths
    rw [List.length_append, List.length_append, Nat.add_left_cancel_iff] at lengths
    -- Without segments of their own both have the parent of what they share.
    rcases List.eq_nil_or_concat left with rfl | ⟨_, _, rfl⟩
    · obtain rfl : right = [] := List.length_eq_zero_iff.mp lengths.symm
      simp
    · have occupied : right ≠ [] := by
        rintro rfl
        simp at lengths
      rw [List.dropLast_append_of_ne_nil (by simp), List.dropLast_append_of_ne_nil occupied,
        List.dropLast_append_of_ne_nil (by simp), List.dropLast_append_of_ne_nil occupied,
        List.append_cancel_left_eq, List.append_cancel_left_eq]
  rw [relationship_join (frontValid.append leftValid) (frontValid.append rightValid),
    relationship_join (otherValid.append leftValid) (otherValid.append rightValid)]
  simp only [List.length_append, List.prefix_append_right_inj, Nat.add_lt_add_iff_left,
    Nat.add_left_cancel_iff] at parents ⊢
  by_cases lengths : left.length = right.length
  · simp only [parents lengths]
  · simp only [lengths, false_and]

/-- How the second package lies to the first, given how the first lies to the second. -/
def Relationship.converse : Relationship → Relationship
  | .parent => .child
  | .child => .parent
  | .sibling => .sibling
  | .unrelated => .unrelated

/-- The relationship is told from either side. -/
theorem relationship_converse (first second : String) :
    relationship second first = (relationship first second).converse := by
  rw [relationship, relationship]
  rcases Nat.lt_trichotomy (depth first) (depth second) with less | same | greater
  · have notAbove : ¬ depth second < depth first := by omega
    have notSame : depth first ≠ depth second := by omega
    simp only [less, notAbove, notSame, notSame.symm, true_and, false_and, if_false]
    split <;> rfl
  · simp only [same, Nat.lt_irrefl, true_and, false_and, if_false, eq_comm (b := parent first)]
    split <;> rfl
  · have notAbove : ¬ depth first < depth second := by omega
    have notSame : depth second ≠ depth first := by omega
    simp only [greater, notAbove, notSame, notSame.symm, true_and, false_and, if_false]
    split <;> rfl

/-- A package is its own sibling. -/
@[simp] theorem relationship_self (name : String) : relationship name name = .sibling := by
  simp [relationship]

/-! ## Ancestors -/

theorem ancestorAt?_join {list : List String} (valid : AreSegments list) (count : Nat) :
    ancestorAt? (join list) count =
      if count = 0 ∨ list.length < count then none else some (join (list.take count)) := by
  rw [ancestorAt?, depth, segments_join valid]

theorem ancestorAt?_eq_some_iff {name ancestor : String} {count : Nat} :
    ancestorAt? name count = some ancestor ↔
      0 < count ∧ count ≤ depth name ∧ ancestor = join ((segments name).take count) := by
  rw [ancestorAt?]
  split
  · next shallow =>
    constructor
    · nofun
    · omega
  · next deep =>
    rw [Option.some.injEq, eq_comm]
    constructor
    · exact fun same => ⟨by omega, by omega, same⟩
    · exact fun same => same.2.2

/-- An ancestor is as deep as it is asked for. -/
theorem segments_of_ancestorAt? {name ancestor : String} {count : Nat}
    (cut : ancestorAt? name count = some ancestor) :
    segments ancestor = (segments name).take count ∧ (segments ancestor).length = count := by
  obtain ⟨-, deep, rfl⟩ := ancestorAt?_eq_some_iff.mp cut
  rw [segments_join ((areSegments_segments name).of_subset (List.take_subset _ _))]
  exact ⟨rfl, List.length_take_of_le deep⟩

/-- What is within an ancestor has it as an ancestor too, however the two names are written. -/
theorem ancestorAt?_of_isWithin {name other ancestor : String} {count : Nat}
    (cut : ancestorAt? other count = some ancestor) (within : isWithin name ancestor = true) :
    ancestorAt? name count = some ancestor := by
  obtain ⟨taken, length⟩ := segments_of_ancestorAt? cut
  obtain ⟨occupied, -, spelled⟩ := ancestorAt?_eq_some_iff.mp cut
  rw [← taken] at spelled
  obtain ⟨rest, parts⟩ : ∃ rest, segments name = segments ancestor ++ rest := by
    rcases isWithin_iff.mp within with empty | same | ⟨rest, below⟩
    · rw [empty]
      exact ⟨segments name, rfl⟩
    · exact ⟨[], by rw [same, List.append_nil]⟩
    · exact ⟨segments rest, by rw [below, segments_append]⟩
  refine ancestorAt?_eq_some_iff.mpr ⟨occupied, ?_, ?_⟩
  · rw [depth, parts, List.length_append, length]
    exact Nat.le_add_right _ _
  · rw [parts, List.take_left' length]
    exact spelled

end LibPrint.Package
