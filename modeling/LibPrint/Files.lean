import LibPrint.Text.Basic

/-!
# Files

A file system as far as profiles need it: files with their bytes, and folders. A folder exists when
it was made, or when something lies in it. A path is a text whose steps are separated by slashes; it
leads to a place by way of folders that must exist.
-/

namespace LibPrint

/-- Where something lies: the names of the folders from the top down, and its own name. -/
abbrev Place := List String

namespace Path

def isAbsolute (path : String) : Bool :=
  Text.startsWith "/" path

/-- A path continued by another; an absolute one replaces what is before it. -/
def join (base part : String) : String :=
  if isAbsolute part || base == "" then part
  else if base.toList.getLast? == some '/' then base ++ part
  else base ++ "/" ++ part

/-- Whether a path is short enough to be followed. -/
def isFollowed (path : String) : Bool :=
  path.utf8ByteSize < 4096

/-- The steps of a path. Empty ones and single dots lead nowhere, double dots upwards. -/
def steps (path : String) : List String :=
  Text.pieces '/' path

end Path

namespace Place

/-- Whether a file of this name can exist. -/
def isName (name : String) : Bool :=
  name.utf8ByteSize ≤ 255 && !name.toList.contains '\x00'

/-- The order of places, folder by folder. -/
def le : Place → Place → Bool
  | [], _ => true
  | _ :: _, [] => false
  | left :: lefts, right :: rights =>
      if left = right then le lefts rights else decide (left < right)

/-- The extension of the last name: what follows its last point, unless the name begins there. -/
def extension? (place : Place) : Option String := do
  let name := (← place.getLast?).toList
  let stem ← Text.beforeLast? '.' name
  if stem.isEmpty then none else some (String.ofList (Text.afterLast '.' name))

end Place

/-- A file system. -/
structure Files where
  /-- The folder that relative paths start from. -/
  current : Place
  /-- The files with their bytes. -/
  files : List (Place × List UInt8)
  /-- The folders that were made. -/
  folders : List Place

namespace Files

/-- The bytes of the file at a place. -/
def fileAt? (files : Files) (place : Place) : Option (List UInt8) :=
  files.files.lookup place

/-- Whether there is a folder at a place. -/
def hasFolder (files : Files) (place : Place) : Bool :=
  place.isEmpty || files.folders.any place.isPrefixOf ||
    files.files.any fun file => place.isPrefixOf file.1 && place != file.1

/-- Goes on from a place; every step starts from a folder. -/
def follow? (files : Files) : Place → (steps : List String) → Option Place
  | place, [] => some place
  | place, step :: steps =>
      if !files.hasFolder place then none
      else if step == "" || step == "." then files.follow? place steps
      else if step == ".." then files.follow? place.dropLast steps
      else if Place.isName step then files.follow? (place ++ [step]) steps
      else none

/-- The place a path starts from. -/
def start (files : Files) (path : String) : Place :=
  if Path.isAbsolute path then [] else files.current

/-- The place a path leads to, whether or not there is anything. -/
def locate? (files : Files) (path : String) : Option Place :=
  if path == "" || !Path.isFollowed path then none
  else files.follow? (files.start path) (Path.steps path)

/-- The bytes of the file a path leads to. -/
def read? (files : Files) (path : String) : Option (List UInt8) :=
  (files.locate? path).bind files.fileAt?

def isFile (files : Files) (path : String) : Bool :=
  (files.read? path).isSome

/-- Makes the folders along the steps that are missing; a file in the way is an obstacle. -/
def makeAlong? (files : Files) : Place → (steps : List String) → Option Files
  | _, [] => some files
  | place, step :: steps =>
      if step == "" || step == "." then files.makeAlong? place steps
      else if step == ".." then files.makeAlong? place.dropLast steps
      else
        let place := place ++ [step]
        if files.hasFolder place then files.makeAlong? place steps
        else if Place.isName step && (files.fileAt? place).isNone then
          { files with folders := place :: files.folders }.makeAlong? place steps
        else none

/-- Makes the folder of a path and those on the way to it. -/
def makeFolders? (files : Files) (path : String) : Option Files :=
  if Path.isFollowed path then files.makeAlong? (files.start path) (Path.steps path) else none

/-- Makes the folder that a path's last step is in. -/
def makeParents? (files : Files) (path : String) : Option Files :=
  files.makeFolders? ("/".intercalate (Path.steps path).dropLast)

/-- The files with the file at a place replaced or added. -/
def put (files : Files) (place : Place) (bytes : List UInt8) : Files :=
  { files with files := (place, bytes) :: files.files.filter (·.1 != place) }

/-- The place of the file that would be written by a path: its folder must exist, and there must be
no folder in its stead. -/
def target? (files : Files) (path : String) : Option Place := do
  let steps := Path.steps path
  let name ← steps.getLast?
  let folder ← files.follow? (files.start path) steps.dropLast
  let place := folder ++ [name]
  if ["", ".", ".."].contains name || !Place.isName name || !Path.isFollowed path ||
      !files.hasFolder folder || files.hasFolder place then none
  else some place

/-- Writes a file in a folder that exists. -/
def write? (files : Files) (path : String) (bytes : List UInt8) : Option Files :=
  (files.target? path).map fun place => files.put place bytes

/-- The places of all files below a folder, relative to it and in order. -/
def below (files : Files) (folder : Place) : List Place :=
  let found := files.files.filterMap fun file =>
    if folder.isPrefixOf file.1 then some (file.1.drop folder.length) else none
  (found.filter (!·.isEmpty)).mergeSort Place.le

end Files

end LibPrint
