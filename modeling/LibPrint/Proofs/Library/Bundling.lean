import LibPrint.Proofs.Code.Descriptor
import LibPrint.Proofs.HashTree.Content
import LibPrint.Proofs.Library.Collecting
import LibPrint.Proofs.Library.Profile
import LibPrint.Proofs.Matching.Outcome
import LibPrint.Proofs.Text

/-!
# Bundled libraries

An app that holds the classes of a library beside its own is found to contain it: by its classes, by
its package digests, and by the results of all its trees.
-/

/-!
## Classes bundled into an app

An app holds the classes of a library beside others. What the library's own hierarchy left unknown
may be one of the others now, so look-ups differ. Descriptors of the library's methods do not: an
unknown class outside the platform counts as internal, which is what the others are, and the class
around an anonymous one lies in its package, where the others are not.
-/

namespace LibPrint

/-- A nested class is declared in the package of the class around it. -/
theorem ClassInfo.parent_enclosing {info : ClassInfo} {outer : String}
    (enclosing : info.enclosing? = some outer) : Package.parent outer = info.package := by
  rw [enclosing?, isInner, simpleChars] at enclosing
  by_cases dotted : '.' ∈ info.name.toList
  · obtain ⟨front, back, name, absent⟩ := Text.exists_last dotted
    rw [name, Text.afterLast_append absent] at enclosing
    by_cases nested : '$' ∈ back
    · obtain ⟨inside, last, parts, lastAbsent⟩ := Text.exists_last nested
      have cut : front ++ '.' :: back = (front ++ '.' :: inside) ++ '$' :: last := by
        simp [parts]
      have insideAbsent : '.' ∉ inside := by
        intro member
        exact absent (by simp [parts, member])
      rw [cut, Text.beforeLast?_append lastAbsent] at enclosing
      simp only [List.contains_eq_mem, nested, decide_true, if_true, Option.map_some,
        Option.some.injEq] at enclosing
      rw [← enclosing, package, Package.parent, Package.parent, name, String.toList_ofList,
        Text.beforeLast?_append insideAbsent, Text.beforeLast?_append absent]
    · simp [nested] at enclosing
  · rw [Text.afterLast_of_absent dotted] at enclosing
    by_cases nested : '$' ∈ info.name.toList
    · obtain ⟨front, last, name, lastAbsent⟩ := Text.exists_last nested
      have frontAbsent : '.' ∉ front := by
        intro member
        exact dotted (by simp [name, member])
      rw [if_pos (by simpa using nested), name, Text.beforeLast?_append lastAbsent] at enclosing
      simp only [Option.map_some, Option.some.injEq] at enclosing
      rw [← enclosing, package, Package.parent, Package.parent, String.toList_ofList,
        Text.beforeLast?_of_absent frontAbsent, Text.beforeLast?_of_absent dotted]
    · simp [nested] at enclosing

namespace Hierarchy

/-- An app that holds the classes of a unit, in any order, and others of its own: outside the
platform, and in packages where the unit has nothing to fingerprint. -/
structure Bundles (app unit : Hierarchy) (others : List ClassInfo) : Prop where
  framework : app.framework = unit.framework
  classes : app.classes.Perm (unit.classes ++ others)
  distinct : app.Distinct
  own : ∀ other ∈ others, other.isApp = true
  packages : ∀ other ∈ others, ∀ info ∈ unit.appClasses, other.package ≠ info.package
  outside : ∀ other ∈ others, unit.isFramework other.name = false

namespace Bundles

variable {app unit : Hierarchy} {others : List ClassInfo} (bundles : Bundles app unit others)
include bundles

theorem mem_classes {info : ClassInfo} :
    info ∈ app.classes ↔ info ∈ unit.classes ∨ info ∈ others := by
  rw [bundles.classes.mem_iff, List.mem_append]

/-! ### Look-ups -/

/-- What the unit knows the app knows too. -/
theorem lookup?_of_some {name : String} {info : ClassInfo}
    (found : unit.lookup? name = some info) : app.lookup? name = some info := by
  obtain ⟨member, rfl⟩ := mem_of_lookup? found
  exact bundles.distinct.lookup?_name (bundles.mem_classes.mpr (.inl member))

/-- What the unit does not know is one of the others or unknown. -/
theorem lookup?_of_none {name : String} (unknown : unit.lookup? name = none) :
    app.lookup? name = none ∨
      ∃ other ∈ others, other.name = name ∧ app.lookup? name = some other := by
  cases found : app.lookup? name with
  | none => exact .inl rfl
  | some other =>
      obtain ⟨member, named⟩ := mem_of_lookup? found
      rcases bundles.mem_classes.mp member with inUnit | inOthers
      · exact absurd named (lookup?_eq_none_iff.mp unknown other inUnit)
      · exact .inr ⟨other, inOthers, named, rfl⟩

/-- The same types are internal. -/
theorem isInternal_eq (type : TypeRef) : app.isInternal type = unit.isInternal type := by
  cases named : type.className? with
  | none => simp only [isInternal, named]
  | some name =>
      have framework : app.isFramework name = unit.isFramework name := by
        rw [isFramework, isFramework, bundles.framework]
      rw [isInternal_of_className named, isInternal_of_className named, framework]
      cases found : unit.lookup? name with
      | some info => rw [bundles.lookup?_of_some found]
      | none =>
          rcases bundles.lookup?_of_none found with unknown | ⟨other, member, rfl, known⟩
          · rw [unknown]
          · rw [known, bundles.outside other member, Option.map_some, bundles.own other member]
            rfl

/-- The class around one of the unit's own classes is looked up with the same result. -/
theorem lookup?_enclosing {info : ClassInfo} (member : info ∈ unit.appClasses) {outer : String}
    (enclosing : info.enclosing? = some outer) : app.lookup? outer = unit.lookup? outer := by
  cases found : unit.lookup? outer with
  | some around => exact bundles.lookup?_of_some found
  | none =>
      rcases bundles.lookup?_of_none found with unknown | ⟨other, inOthers, named, -⟩
      · exact unknown
      · -- Such a class would share the package.
        have shared : other.package = info.package := by
          rw [← ClassInfo.parent_enclosing enclosing, ← named, ClassInfo.package]
        exact absurd shared (bundles.packages other inOthers info member)

/-! ### Descriptors -/

theorem passesSuperclass_eq {info : ClassInfo} (member : info ∈ unit.appClasses)
    (first second : TypeRef) :
    app.passesSuperclass info first second = unit.passesSuperclass info first second := by
  rw [passesSuperclass, passesSuperclass, bundles.isInternal_eq, bundles.isInternal_eq]
  cases enclosing : info.enclosing? with
  | none => rfl
  | some outer => simp only [bundles.lookup?_enclosing member enclosing]

/-- Bundling does not change the descriptors of the unit's own methods. -/
theorem fuzzyDescriptor_eq {info : ClassInfo} (member : info ∈ unit.appClasses)
    (method : Method) : app.fuzzyDescriptor info method = unit.fuzzyDescriptor info method := by
  have rendered : app.render = unit.render := by
    funext type
    rw [render, render, bundles.isInternal_eq]
  have elided : app.elides info method = unit.elides info method := by
    rw [elides, elides]
    cases method.parameters with
    | nil => rfl
    | cons first others =>
        cases others with
        | nil => rfl
        | cons second rest => exact bundles.passesSuperclass_eq member first second
  rw [fuzzyDescriptor_eq_descriptorOf, fuzzyDescriptor_eq_descriptorOf, rendered, elided]

end Bundles

end Hierarchy

end LibPrint

/-!
## Trees of an app and of what it bundles

A package digest comes from the classes of one package. Bundling leaves a library's packages as they
are and adds others, so that every package digest of the library's tree is one of the app's, whether
or not the trees keep equal digests more than once.
-/

namespace LibPrint.HashTree

variable (hash : List UInt8 → Digest) (recipe : Recipe)

/-! ### Adding packages -/

/-- Classes of other packages do not matter for the digest of a package. -/
theorem packageDigest_append {contents more : List (String × Digest)} {package : String}
    (elsewhere : ∀ item ∈ more, item.1 ≠ package) :
    packageDigest hash recipe (contents ++ more) package =
      packageDigest hash recipe contents package := by
  have nothing : (more.filter fun item => item.1 == package) = [] := by
    rw [List.filter_eq_nil_iff]
    intro item member
    simpa using elsewhere item member
  rw [packageDigest, packageDigest, List.filter_append, nothing, List.append_nil]

theorem mem_packageDigests_append {contents more : List (String × Digest)} {digest : Digest}
    (disjoint : ∀ item ∈ contents, ∀ other ∈ more, other.1 ≠ item.1)
    (member : digest ∈ packageDigests hash recipe contents) :
    digest ∈ packageDigests hash recipe (contents ++ more) := by
  obtain ⟨package, packageMem, rfl⟩ := List.mem_map.mp member
  obtain ⟨item, itemMem, rfl⟩ := List.mem_map.mp (Text.mem_sortDistinct.mp packageMem)
  apply List.mem_map.mpr
  refine ⟨item.1, ?_, packageDigest_append hash recipe (disjoint item itemMem)⟩
  rw [Text.mem_sortDistinct]
  exact List.mem_map_of_mem (List.mem_append_left more itemMem)

theorem packageDigests_eq_of_perm {left right : List (String × Digest)} (perm : left.Perm right) :
    packageDigests hash recipe left = packageDigests hash recipe right := by
  rw [packageDigests, packageDigests, Text.sortDistinct_eq_of_perm (perm.map (·.1))]
  exact List.map_congr_left fun package _ => packageDigest_eq_of_perm hash recipe perm package

/-! ### Bundled classes -/

variable {app unit : Hierarchy} {others : List ClassInfo} (bundles : app.Bundles unit others)
include bundles

/-- The digests of the unit's own classes stay. -/
theorem classDigest_of_bundles {info : ClassInfo} (member : info ∈ unit.appClasses) :
    classDigest hash recipe app info = classDigest hash recipe unit info := by
  have methods : methodDigest hash app info = methodDigest hash unit info := by
    funext method
    rw [methodDigest, methodDigest, bundles.fuzzyDescriptor_eq member]
  rw [classDigest, classDigest, methodDigests, methodDigests, methods]

/-- What an app is made of: the unit, as it is by itself, and the others. -/
theorem contents_of_bundles :
    (contents hash recipe app app.classes).Perm
      (contents hash recipe unit unit.classes ++ contents hash recipe app others) := by
  have parts := (bundles.classes.filter (survives recipe)).map fun info =>
    (info.package, classDigest hash recipe app info)
  rw [List.filter_append, List.map_append] at parts
  have same : ((unit.classes.filter (survives recipe)).map fun info =>
      (info.package, classDigest hash recipe app info)) =
        contents hash recipe unit unit.classes := by
    apply List.map_congr_left
    intro info member
    obtain ⟨infoMem, left⟩ := List.mem_filter.mp member
    have inUnit : info ∈ unit.appClasses :=
      List.mem_filter.mpr ⟨infoMem, isFingerprintable_of_survives left⟩
    rw [classDigest_of_bundles hash recipe bundles inUnit]
  rwa [same] at parts

/-- No package holds classes of the unit and others. -/
theorem contents_disjoint_of_bundles :
    ∀ item ∈ contents hash recipe unit unit.classes,
      ∀ other ∈ contents hash recipe app others, other.1 ≠ item.1 := by
  intro item itemMem other otherMem
  obtain ⟨info, infoMem, rfl⟩ := List.mem_map.mp itemMem
  obtain ⟨more, moreMem, rfl⟩ := List.mem_map.mp otherMem
  obtain ⟨inUnit, left⟩ := mem_survivors.mp infoMem
  exact bundles.packages more (mem_survivors.mp moreMem).1 info
    (List.mem_filter.mpr ⟨inUnit, isFingerprintable_of_survives left⟩)

/-- Every package digest of the unit is one of the app's. -/
theorem hasDigest_build_of_bundles (unitLevel appLevel : Verboseness) {node : Node}
    (member : node ∈ (build ⟨recipe, unitLevel⟩ unit).packages) :
    Node.hasDigest (build ⟨recipe, appLevel⟩ app).packages node.digest = true := by
  have digests (level : Verboseness) (hierarchy : Hierarchy) :
      (build ⟨recipe, level⟩ hierarchy).packages.map Node.digest =
        Digest.canonical recipe.filterDups (packageDigests recipe.algorithm.digest recipe
          (contents recipe.algorithm.digest recipe hierarchy hierarchy.classes)) := by
    rw [build, map_digest_packages_buildFrom, contents, contents, survivors_appClasses]
  have inUnit := List.mem_map_of_mem (f := Node.digest) member
  rw [digests, Digest.mem_canonical] at inUnit
  rw [Node.hasDigest_iff, digests, Digest.mem_canonical,
    packageDigests_eq_of_perm _ _ (contents_of_bundles _ _ bundles)]
  exact mem_packageDigests_append _ _ (contents_disjoint_of_bundles _ _ bundles) inUnit

end LibPrint.HashTree

/-!
## Libraries that are contained recipe by recipe

An app profile has a tree for every recipe, a library profile one for each that leaves something to
hash. Where the library's trees are all contained in the app's, the match has one result for each of
them, in their order, and nothing is surer.
-/

namespace LibPrint

namespace LibraryMatch

theorem level_of_full {found : LibraryMatch} (some : found.results ≠ [])
    (full : ∀ result ∈ found.results, result.verdict = .full) : found.level = .allConfigs := by
  have all : found.allFull = true := by
    rw [allFull, Bool.and_eq_true, List.all_eq_true]
    constructor
    · simpa using some
    · intro result member
      rw [full result member]
      rfl
  rw [level, if_pos all]

end LibraryMatch

namespace Matching

open HashTree

variable {unit : Hierarchy} {description : Description} {unitLevel : Verboseness}
  {lib : LibProfile}

/-- A tree of a recipe is compared with the library's tree of that recipe, unless that is empty. -/
theorem matchTree?_of_create
    (created : LibProfile.create unit description unitLevel = .ok lib) (options : Options)
    (tree : HashTree) (member : tree.config.recipe ∈ TreeConfig.recipes) :
    matchTree? options lib tree =
      if (build ⟨tree.config.recipe, unitLevel⟩ unit).isEmpty then none
      else (matchTrees options tree (build ⟨tree.config.recipe, unitLevel⟩ unit)
        lib.rootPackage?).toOption := by
  have found := LibProfile.find?_treesOf unit unitLevel member tree.config.verboseness
  rw [matchTree?, LibProfile.hashTrees_of_create created, found]
  cases (build ⟨tree.config.recipe, unitLevel⟩ unit).isEmpty <;> rfl

/-- The results for a library whose trees are all contained in those of the app. -/
theorem matchProfile_of_full (app : Hierarchy) (appLevel : Verboseness)
    (created : LibProfile.create unit description unitLevel = .ok lib) (options : Options)
    (nodes : Recipe → List Node)
    (full : ∀ recipe ∈ TreeConfig.recipes, (build ⟨recipe, unitLevel⟩ unit).isEmpty = false →
      matchTrees options (build ⟨recipe, appLevel⟩ app) (build ⟨recipe, unitLevel⟩ unit)
        lib.rootPackage? = .ok ⟨⟨recipe, appLevel⟩, .full, nodes recipe, none⟩) :
    let found := matchProfile options (AppProfile.create app appLevel) lib
    found.results = lib.hashTrees.map (fun tree =>
        ⟨⟨tree.config.recipe, appLevel⟩, .full, nodes tree.config.recipe, none⟩) ∧
      found.level = .allConfigs := by
  intro found
  let result (tree : HashTree) : TreeMatch :=
    ⟨⟨tree.config.recipe, appLevel⟩, .full, nodes tree.config.recipe, none⟩
  have matched : (AppProfile.create app appLevel).hashTrees.filterMap (matchTree? options lib) =
      lib.hashTrees.map result := by
    rw [LibProfile.hashTrees_of_create created, LibProfile.treesOf, List.filter_map, List.map_map,
      ← List.filterMap_eq_map, List.filterMap_filter, AppProfile.create, TreeConfig.profileSet_eq,
      List.map_map, List.filterMap_map]
    apply List.filterMap_congr
    intro recipe member
    have compared := matchTree?_of_create created options (build ⟨recipe, appLevel⟩ app) member
    rw [Function.comp, Function.comp, compared]
    cases empty : (build ⟨recipe, unitLevel⟩ unit).isEmpty with
    | true => simp [empty]
    | false =>
        simp only [Function.comp, empty, config_build, full recipe member empty]
        rfl
  have collected : found.results = lib.hashTrees.map result := by
    have all : ∀ other ∈ lib.hashTrees.map result, other.verdict = .full := by
      intro other member
      obtain ⟨tree, -, rfl⟩ := List.mem_map.mp member
      rfl
    have none : ∀ other ∈ (LibraryMatch.ofProfile lib).results, other.verdict = .full := by
      simp [LibraryMatch.ofProfile]
    rw [← matched] at all ⊢
    exact congrArg LibraryMatch.results (LibraryMatch.foldl_add_of_verdict none all)
  refine ⟨collected, LibraryMatch.level_of_full ?_ ?_⟩
  · rw [collected, ne_eq, List.map_eq_nil_iff]
    exact LibProfile.hashTrees_ne_nil_of_create created
  · intro other member
    rw [collected] at member
    obtain ⟨tree, -, rfl⟩ := List.mem_map.mp member
    rfl

end Matching

end LibPrint

/-!
## Bundled libraries are found

An app that holds a library's classes beside its own is compared with the library recipe by recipe.
Each tree of the library has its counterpart in the app, all its package digests occur there, and so
every result says full containment. What else the app holds, how verbose either side is and how the
comparison is to be made do not matter.
-/

namespace LibPrint.Matching

open HashTree

variable {app unit : Hierarchy} {others : List ClassInfo} {description : Description}
  {unitLevel : Verboseness}

/-- The tree of a bundled unit is contained in the app's. -/
theorem contains_of_bundles (bundles : app.Bundles unit others) (recipe : Recipe)
    (unitLevel appLevel : Verboseness) :
    Contains (build ⟨recipe, appLevel⟩ app) (build ⟨recipe, unitLevel⟩ unit) := by
  intro node member
  exact Node.hasDigest_iff.mp (hasDigest_build_of_bundles recipe bundles unitLevel appLevel member)

/-- An app that bundles a library matches it fully under every configuration the library was
profiled with: one result for each of its trees, in their order. -/
theorem matchProfile_of_bundles (bundles : app.Bundles unit others) {lib : LibProfile}
    (created : LibProfile.create unit description unitLevel = .ok lib) (options : Options)
    (appLevel : Verboseness) :
    let found := matchProfile options (AppProfile.create app appLevel) lib
    List.Forall₂ (fun (result : TreeMatch) (tree : HashTree) =>
        result.config.comparable tree.config = true ∧ result.verdict = .full)
      found.results lib.hashTrees ∧
    found.level = .allConfigs := by
  intro found
  have full (recipe : Recipe) (_ : recipe ∈ TreeConfig.recipes)
      (holds : (build ⟨recipe, unitLevel⟩ unit).isEmpty = false) :
      matchTrees options (build ⟨recipe, appLevel⟩ app) (build ⟨recipe, unitLevel⟩ unit)
        lib.rootPackage? = .ok ⟨⟨recipe, appLevel⟩, .full,
          carriers (build ⟨recipe, appLevel⟩ app) (build ⟨recipe, unitLevel⟩ unit), none⟩ :=
    matchTrees_of_contains rfl (List.isEmpty_eq_false_iff.mp holds)
      (contains_of_bundles bundles recipe unitLevel appLevel)
  obtain ⟨results, level⟩ := matchProfile_of_full app appLevel created options _ full
  refine ⟨?_, level⟩
  rw [results, List.forall₂_map_left_iff, List.forall₂_same]
  intro tree _
  exact ⟨TreeConfig.comparable_of_recipe tree.config.recipe appLevel tree.config.verboseness, rfl⟩

/-- A class that draws on a screen of whichever app it is bundled into. -/
def widgetClass : ClassInfo :=
  ⟨"com.ui.Widget", none, true,
    [⟨"draw", .single .isPublic, false, false, [⟨"Lorg/app/Screen"⟩], ⟨"V"⟩⟩]⟩

/-- The anonymous class inside it. -/
def listenerClass : ClassInfo :=
  ⟨"com.ui.Widget$1", none, true,
    [⟨"<init>", .single .isPackage, false, false,
      [⟨"Lcom/ui/Widget"⟩, ⟨"Lorg/app/Screen"⟩], ⟨"V"⟩⟩]⟩

/-- The screen that one app has. -/
def screenClass : ClassInfo :=
  ⟨"org.app.Screen", some "android.view.View", true, []⟩

/-- The screen stands between the library's classes, which did not know it. -/
theorem matchProfile_of_bundles_screen :
    let unit := Hierarchy.ofClasses none [widgetClass, listenerClass] Hierarchy.defaultFramework
    let app := Hierarchy.ofClasses (some "org.app") [widgetClass, screenClass, listenerClass]
      Hierarchy.defaultFramework
    let description : Description := ⟨"ui", .utilities, some "1.0", none, none⟩
    app.Bundles unit [screenClass] ∧
      ∃ lib, LibProfile.create unit description .terse = .ok lib ∧
        (matchProfile ⟨none, true⟩ (AppProfile.create app .trace) lib).level = .allConfigs := by
  intro unit app description
  have bundles : app.Bundles unit [screenClass] := by
    refine ⟨rfl, ?_, ?_, ?_, ?_, ?_⟩
    · exact List.Perm.cons widgetClass (List.Perm.swap listenerClass screenClass [])
    · unfold Hierarchy.Distinct
      decide +kernel
    all_goals decide +kernel
  have left : HashTree.survives .standard widgetClass = true := by
    decide +kernel
  have member : widgetClass ∈ unit.classes := List.mem_cons_self
  obtain ⟨lib, created⟩ := LibProfile.exists_create_of_survives member left description .terse
  exact ⟨bundles, lib, created, (matchProfile_of_bundles bundles created _ _).2⟩

end LibPrint.Matching
