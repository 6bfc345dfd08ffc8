import LibPrint.Files
import LibPrint.Library.Catalog
import LibPrint.Library.Format

/-!
# Stores

Profiles in files, one by one and all at once.
-/

/-!
## Profile stores

A folder of library profiles, each in a file of its own below a folder for its category. What is
stored can be read back; a profile without code is not stored at all.
-/

namespace LibPrint

/-- A store of profiles. -/
structure ProfileStore where
  /-- The path of its folder. -/
  root : String

namespace ProfileStore

/-- The extension of profile files. -/
def extension : String := "libv"

/-- The path a profile of the description is stored at. -/
def pathFor (store : ProfileStore) (description : Description) : String :=
  Path.join (Path.join store.root description.category.name)
    (description.fileStem ++ "." ++ extension)

/-- The paths of all profiles, in order. A store whose folder does not exist yet has none. -/
def list (store : ProfileStore) (files : Files) : Except StorageError (List String) :=
  match files.locate? store.root with
  | none => .ok []
  | some folder =>
      if (files.fileAt? folder).isSome then .error (.notDirectory store.root)
      else
        let profiles := (files.below folder).filter fun place =>
          place.extension? == some extension
        .ok (profiles.map fun place => Path.join store.root ("/".intercalate place))

/-- Whether a profile may be stored: it has hash trees, and none of them is empty. -/
def accepts (profile : LibProfile) : Bool :=
  !profile.hashTrees.isEmpty && profile.hashTrees.all (!·.isEmpty)

/-- Stores a profile in place of an older one at the same path, which is given back with the files
as they are then. -/
def save (store : ProfileStore) (profile : LibProfile) (files : Files) :
    Except StorageError (String × Files) :=
  if !accepts profile then .error (.refused profile.description.display)
  else
    let path := store.pathFor profile.description
    match (files.makeParents? path).bind (·.write? path profile.toBytes) with
    | none => .error (.access path)
    | some files => .ok (path, files)

/-- The profile in the bytes of a file. -/
def profileOf (path : String) (bytes : List UInt8) : Except StorageError LibProfile :=
  match LibProfile.format.read bytes with
  | none => .error (.undecodable path)
  | some ((version, profile), _) =>
      if version ≠ LibProfile.formatVersion then
        .error (.version path version LibProfile.formatVersion)
      else if profile.hashTrees.isEmpty then .error (.noTrees path)
      else .ok profile

/-- The profile in the file of the given path. -/
def load (path : String) (files : Files) : Except StorageError LibProfile :=
  match files.read? path with
  | none => .error (.access path)
  | some bytes => profileOf path bytes

end ProfileStore

/-!
## Loading a catalog

All profiles of a store at once. A file that is no profile does not stop the others from being
loaded; it is skipped, with the reason.
-/

/-- A profile file that could not be used. -/
structure Skipped where
  path : String
  cause : StorageError
deriving DecidableEq

/-- What a store holds. -/
structure LoadedCatalog where
  catalog : Catalog
  /-- The files that could not be used, in the order of their paths. -/
  skipped : List Skipped

/-- The catalog of the given profiles, beside the files that could not be used. The profiles may not
be such that they can be sorted. -/
def LoadedCatalog.ofProfiles (sorting : Catalog.Sorting) (profiles : List LibProfile)
    (skipped : List Skipped) : Except Error LoadedCatalog :=
  match Catalog.ofProfiles sorting profiles with
  | none => .error (.brokenDown .sorting)
  | some catalog => .ok ⟨catalog, skipped⟩

namespace ProfileStore

/-- The profiles in the files of the given paths that can be used, in the order of the paths. -/
def loadable (paths : List String) (files : Files) : List LibProfile :=
  paths.filterMap fun path => (load path files).toOption

/-- The file of a path, if it cannot be used. -/
def skipped? (path : String) (files : Files) : Option Skipped :=
  match load path files with
  | .ok _ => none
  | .error cause => some ⟨path, cause⟩

/-- The catalog of all profiles in the store. It fails only when the store cannot be listed, or when
the profiles cannot be sorted. -/
def loadCatalog (store : ProfileStore) (sorting : Catalog.Sorting) (files : Files) :
    Except Error LoadedCatalog := do
  let paths ← (store.list files).mapError Error.storage
  LoadedCatalog.ofProfiles sorting (loadable paths files) (paths.filterMap (skipped? · files))

end ProfileStore

end LibPrint
