import LibPrint.Error
import LibPrint.HashTree
import LibPrint.Number
import LibPrint.Package.Tree
import LibPrint.Text.Basic
import LibPrint.Text.Table
import LibPrint.Toml.Reader

/-!
# Profiles

The profile of a library version, from its description file to the text it is shown as.
-/

/-!
## Description files

The small TOML document that describes a library version beside its code. A name and a category are
required, all other keys are optional, and unknown ones are passed over.
-/

namespace LibPrint.Description

/-- A text that may be left out. -/
def optionalText (entries : List (String × Toml)) (key : String) : Option (Option String) :=
  match entries.lookup key with
  | none => some none
  | some value => (value.text?).map some

/-- A category, which is written as its name, or as a table of that one key with nothing in it. -/
def category? : Toml → Option Category
  | .string name => Category.ofFileName? name
  | .table [(name, value)] => if value.isEmptyCollection then Category.ofFileName? name else none
  | _ => none

/-- The description in a table, whatever its texts are. -/
def ofTable? (entries : List (String × Toml)) : Option Description := do
  let name ← (← entries.lookup "name").text?
  let category ← category? (← entries.lookup "category")
  let version ← optionalText entries "version"
  let date ← match ← optionalText entries "date" with
    | none => some none
    | some text => Date.readOptional? text
  let comment ← optionalText entries "comment"
  some ⟨name, category, version, date, comment⟩

/-- The description in the text of a description file. -/
def read (text : String) : Except Error Description :=
  match (Toml.read? text).bind ofTable? with
  | none => .error .malformedDescription
  | some description =>
      match description.invalid? with
      | none => .ok description
      | some cause => .error (.invalidDescription cause)

end LibPrint.Description

/-!
## Versions

Dotted version texts, compared at the first part in which they differ. Two numbers there decide, so
that `1.10` is above `1.6`; anything else there leaves the versions equal. When one is a start of
the other, the longer one is above.
-/

namespace LibPrint.Version

/-- The parts of a version. -/
def parts (version : String) : List String :=
  Text.pieces '.' version

/-- The order of two lists of parts. -/
def compareParts : List String → List String → Ordering
  | [], [] => .eq
  | [], _ :: _ => .lt
  | _ :: _, [] => .gt
  | left :: lefts, right :: rights =>
      if left = right then compareParts lefts rights
      else
        match Number.natural? left, Number.natural? right with
        | some left, some right => compare left right
        | _, _ => .eq

/-- The order of two versions. -/
def compare (left right : String) : Ordering :=
  compareParts (parts left) (parts right)

/-- Two parts that differ, compared. -/
def compareDifferent (left right : String) : Ordering :=
  match Number.natural? left, Number.natural? right with
  | some left, some right => Ord.compare left right
  | _, _ => .eq

theorem compareParts_cons (left right : String) (lefts rights : List String) :
    compareParts (left :: lefts) (right :: rights) =
      if left = right then compareParts lefts rights else compareDifferent left right :=
  rfl

theorem compareDifferent_swap (left right : String) :
    compareDifferent right left = (compareDifferent left right).swap := by
  unfold compareDifferent
  cases Number.natural? left with
  | none => cases Number.natural? right <;> rfl
  | some left =>
      cases Number.natural? right with
      | none => rfl
      | some right => exact Nat.compare_swap left right |>.symm

theorem compareParts_swap (lefts rights : List String) :
    compareParts rights lefts = (compareParts lefts rights).swap := by
  induction lefts generalizing rights with
  | nil => cases rights <;> rfl
  | cons left lefts ih =>
      cases rights with
      | nil => rfl
      | cons right rights =>
          rw [compareParts_cons, compareParts_cons]
          by_cases same : left = right
          · rw [if_pos same, if_pos same.symm, ih]
          · rw [if_neg same, if_neg (Ne.symm same), compareDifferent_swap]

theorem compare_swap (left right : String) : compare right left = (compare left right).swap :=
  compareParts_swap _ _

end LibPrint.Version

/-!
## Profiles

What is compared: the package tree and the hash trees of a library version, and of an app. Both are
made with the same set of configurations. A library profile holds no empty tree, so one whose public
methods are all missing has two trees instead of three.
-/

namespace LibPrint

/-- The package tree of the fingerprintable classes. -/
def Hierarchy.packageTree (hierarchy : Hierarchy) : PackageTree :=
  PackageTree.ofClassNames (hierarchy.appClasses.map (·.name))

/-- The profile of a library version. -/
structure LibProfile where
  description : Description
  packageTree : PackageTree
  hashTrees : List HashTree

namespace LibProfile

/-- The profile of the library in a hierarchy. It fails when nothing is left to hash under the
standard recipe. -/
def create (hierarchy : Hierarchy) (description : Description) (verboseness : Verboseness) :
    Except Error LibProfile :=
  let trees := (TreeConfig.profileSet verboseness).map (HashTree.build · hierarchy)
  if trees.any fun tree => tree.isEmpty && tree.config.comparable .standard then
    .error (.emptyTree description.display)
  else .ok ⟨description, hierarchy.packageTree, trees.filter (!·.isEmpty)⟩

/-- The package the library is taken to lie in. -/
def rootPackage? (profile : LibProfile) : Option String :=
  profile.packageTree.rootPackage?

/-- The order of profiles: by name, then by version. -/
def compare (left right : LibProfile) : Ordering :=
  (Ord.compare left.description.name right.description.name).then
    (Version.compare left.description.versionText right.description.versionText)

theorem compare_swap (left right : LibProfile) : right.compare left = (left.compare right).swap := by
  rw [compare, compare, Ordering.swap_then, Version.compare_swap left.description.versionText]
  congr 1
  exact Std.OrientedCmp.eq_swap

end LibProfile

/-- The profile of an app. -/
structure AppProfile where
  packageTree : PackageTree
  hashTrees : List HashTree
  /-- The package of the app's own code. -/
  packageName : Option String

namespace AppProfile

/-- The profile of the app in a hierarchy. -/
def create (hierarchy : Hierarchy) (verboseness : Verboseness) : AppProfile :=
  ⟨hierarchy.packageTree,
    (TreeConfig.profileSet verboseness).map (HashTree.build · hierarchy),
    hierarchy.packageName⟩

/-- The profile with another package of its own; an empty name counts as none. -/
def withPackageName (profile : AppProfile) (packageName : Option String) : AppProfile :=
  { profile with packageName := packageName.filter (· != "") }

/-- Whether no tree holds anything. -/
def isEmpty (profile : AppProfile) : Bool :=
  profile.hashTrees.all (·.isEmpty)

end AppProfile

end LibPrint

/-!
## Showing a profile

A library profile for people: the description, the root package, and a table of its hash trees.
-/

namespace LibPrint.LibProfile

/-- The row of a hash tree. -/
def treeRow (tree : HashTree) : List String :=
  [tree.config.display, tree.root.digest.short, toString tree.stats.packages,
    toString tree.stats.classes, toString tree.stats.methods]

/-- The profile as text, with the drawing of its packages if wanted. The number of classes is shown
as a number of 64 bits, as the counts of a stored profile are. -/
def text (profile : LibProfile) (withPackages : Bool) : String :=
  let packages := profile.packageTree
  let drawing :=
    if withPackages then "\n" ++ Text.heading "Package tree" ++ "\n\n" ++ packages.render true
    else ""
  Text.heading "Library profile" ++ "\n\n" ++
    String.join (profile.description.lines.map fun line => "  " ++ line ++ "\n") ++
    "  Root package: " ++ (profile.rootPackage?).getD "-" ++ "\n" ++
    "  Packages: " ++ toString packages.packages.length ++
    " (" ++ toString (packages.classCount % twoTo 64) ++ " classes)\n\n" ++
    Text.Table.render ["Config", "Root hash", "Packages", "Classes", "Methods"]
      (profile.hashTrees.map treeRow) ++ "\n" ++ drawing

end LibPrint.LibProfile
