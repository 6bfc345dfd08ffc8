import LibPrint.Library.Profile
import LibPrint.Proofs.HashTree.Content

/-!
# What a profile holds

Profiles are made with a fixed set of recipes, all different, at one level of verboseness. A library
profile holds a tree for each recipe that leaves something to hash, so looking for the tree of a
recipe finds it or finds that there is nothing.
-/

namespace LibPrint

/-! ## Empty trees -/

namespace HashTree

/-- A tree is empty exactly when no class is left after filtering. -/
theorem isEmpty_build_iff (config : TreeConfig) (hierarchy : Hierarchy) :
    (build config hierarchy).isEmpty = true ↔ survivors config.recipe hierarchy.classes = [] := by
  rw [isEmpty, List.isEmpty_iff, build, packages_buildFrom_eq_nil_iff, survivors_appClasses]

end HashTree

/-! ## Recipes -/

namespace TreeConfig

/-- The recipes of every profile. -/
def recipes : List Recipe :=
  (profileSet .normal).map (·.recipe)

theorem profileSet_eq (level : Verboseness) :
    profileSet level = recipes.map fun recipe => ⟨recipe, level⟩ :=
  rfl

theorem nodup_recipes : recipes.Nodup := by
  decide

/-- The verboseness does not matter for what can be compared. -/
@[simp] theorem comparable_of_recipe (recipe : Recipe) (left right : Verboseness) :
    comparable ⟨recipe, left⟩ ⟨recipe, right⟩ = true :=
  beq_self_eq_true recipe

end TreeConfig

/-- Among items of different keys the one of a given key is found, if it was kept. -/
theorem find?_filter_of_nodup {α κ : Type} [DecidableEq κ] {items : List α} {key : α → κ}
    (different : (items.map key).Nodup) (keep : α → Bool) {item : α} (member : item ∈ items) :
    (items.filter keep).find? (fun other => key other == key item) =
      if keep item then some item else none := by
  induction items with
  | nil => cases member
  | cons first items ih =>
      rw [List.map_cons, List.nodup_cons] at different
      obtain ⟨absent, different⟩ := different
      rcases List.mem_cons.mp member with rfl | inItems
      · cases kept : keep item with
        | true => simp [kept]
        | false =>
            simp only [List.filter_cons, kept, Bool.false_eq_true, if_false, List.find?_eq_none]
            intro other otherMem equal
            apply absent
            rw [← beq_iff_eq.mp equal]
            exact List.mem_map_of_mem (List.mem_filter.mp otherMem).1
      · have apart : (key first == key item) = false := by
          rw [beq_eq_false_iff_ne]
          intro equal
          rw [equal] at absent
          exact absent (List.mem_map_of_mem inItems)
        rw [List.filter_cons]
        cases keep first with
        | true => simpa [apart] using ih different inItems
        | false => simpa using ih different inItems

/-! ## Library profiles -/

namespace LibProfile

open HashTree

variable {hierarchy : Hierarchy} {description : Description} {level : Verboseness}

/-- The trees that a profile of a hierarchy holds. -/
def treesOf (hierarchy : Hierarchy) (level : Verboseness) : List HashTree :=
  (TreeConfig.recipes.map fun recipe => build ⟨recipe, level⟩ hierarchy).filter (!·.isEmpty)

/-- Whether a profile is made depends on the tree of the standard recipe alone. -/
theorem create_eq (hierarchy : Hierarchy) (description : Description) (level : Verboseness) :
    create hierarchy description level =
      if (build ⟨.standard, level⟩ hierarchy).isEmpty then .error (.emptyTree description.display)
      else .ok ⟨description, hierarchy.packageTree, treesOf hierarchy level⟩ := by
  have trees : (TreeConfig.profileSet level).map (build · hierarchy) =
      TreeConfig.recipes.map fun recipe => build ⟨recipe, level⟩ hierarchy := by
    rw [TreeConfig.profileSet_eq, List.map_map]
    rfl
  have refused : ((TreeConfig.recipes.map fun recipe => build ⟨recipe, level⟩ hierarchy).any
      fun tree => tree.isEmpty && tree.config.comparable .standard) =
        (build ⟨.standard, level⟩ hierarchy).isEmpty := by
    have others : (⟨{ Recipe.standard with accessFilter := .hidden }, level⟩ : TreeConfig).comparable
        .standard = false ∧
      (⟨{ Recipe.standard with filterDups := true }, level⟩ : TreeConfig).comparable
        .standard = false := by
      constructor <;> rfl
    have own : (⟨.standard, level⟩ : TreeConfig).comparable .standard = true := rfl
    simp [TreeConfig.recipes, TreeConfig.profileSet, others, own]
  rw [create, trees, refused]
  rfl

/-- A profile is made when something is left under the standard recipe, and then from the trees that
are not empty. -/
theorem create_eq_ok_iff {profile : LibProfile} :
    create hierarchy description level = .ok profile ↔
      (build ⟨.standard, level⟩ hierarchy).isEmpty = false ∧
        profile = ⟨description, hierarchy.packageTree, treesOf hierarchy level⟩ := by
  rw [create_eq]
  cases (build ⟨.standard, level⟩ hierarchy).isEmpty with
  | true => simp
  | false => simp [eq_comm]

theorem hashTrees_of_create {profile : LibProfile}
    (created : create hierarchy description level = .ok profile) :
    profile.hashTrees = treesOf hierarchy level := by
  rw [(create_eq_ok_iff.mp created).2]

/-- A profile has the tree of the standard recipe at least. -/
theorem hashTrees_ne_nil_of_create {profile : LibProfile}
    (created : create hierarchy description level = .ok profile) : profile.hashTrees ≠ [] := by
  have standard : Recipe.standard ∈ TreeConfig.recipes := List.mem_cons_self
  have holds : (build ⟨.standard, level⟩ hierarchy).isEmpty = false :=
    (create_eq_ok_iff.mp created).1
  rw [hashTrees_of_create created, treesOf]
  apply List.ne_nil_of_mem
  apply List.mem_filter.mpr
  constructor
  · exact List.mem_map_of_mem standard
  · rw [holds]
    rfl

/-- A hierarchy has a profile when some class of it is left under the standard recipe. -/
theorem exists_create_of_survives {info : ClassInfo} (member : info ∈ hierarchy.classes)
    (left : survives .standard info = true) (description : Description) (level : Verboseness) :
    ∃ profile, create hierarchy description level = .ok profile := by
  refine ⟨_, create_eq_ok_iff.mpr ⟨?_, rfl⟩⟩
  rw [Bool.eq_false_iff]
  intro empty
  have none := (isEmpty_build_iff ⟨.standard, level⟩ hierarchy).mp empty
  have survivor := mem_survivors.mpr ⟨member, left⟩
  rw [none] at survivor
  exact absurd survivor List.not_mem_nil

/-- Whatever the verboseness asked for, the tree of a recipe is found unless it is empty. -/
theorem find?_treesOf (hierarchy : Hierarchy) (level : Verboseness) {recipe : Recipe}
    (member : recipe ∈ TreeConfig.recipes) (other : Verboseness) :
    HashTree.find? (treesOf hierarchy level) ⟨recipe, other⟩ =
      if (build ⟨recipe, level⟩ hierarchy).isEmpty then none
      else some (build ⟨recipe, level⟩ hierarchy) := by
  let trees := TreeConfig.recipes.map fun recipe => build ⟨recipe, level⟩ hierarchy
  have different : (trees.map (·.config.recipe)).Nodup := TreeConfig.nodup_recipes
  have inTrees : build ⟨recipe, level⟩ hierarchy ∈ trees := List.mem_map_of_mem member
  have found := find?_filter_of_nodup different (!·.isEmpty) inTrees
  rw [HashTree.find?, treesOf]
  refine Eq.trans found ?_
  cases (build ⟨recipe, level⟩ hierarchy).isEmpty <;> rfl

/-- The tree of the standard recipe is found in every profile. -/
theorem find?_standard_of_create {profile : LibProfile}
    (created : create hierarchy description level = .ok profile) (other : Verboseness) :
    HashTree.find? profile.hashTrees ⟨.standard, other⟩ =
      some (build ⟨.standard, level⟩ hierarchy) := by
  have standard : Recipe.standard ∈ TreeConfig.recipes := List.mem_cons_self
  have holds : (build ⟨.standard, level⟩ hierarchy).isEmpty = false :=
    (create_eq_ok_iff.mp created).1
  rw [hashTrees_of_create created, find?_treesOf hierarchy level standard, holds]
  rfl

end LibProfile

end LibPrint
