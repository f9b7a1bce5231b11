import CommandUrl.File.Path
import CommandUrl.Text.Utf8

/-!
# File trees

A file system as far as commands and settings can tell: a file or a directory at
every location that has one, and a working directory at which relative paths
start. Paths are walked name by name; every name on the way has to lead to a
directory, two dots lead outwards, and a slash at the end asks for a directory.
The operations fail with the cause that the walk or the last name gives.

Permissions to read and write are left out, and so are symbolic links: whatever is
in the tree is accessible, and every name leads to one place only.

A location is the list of names that lead to it from the root, the innermost
first, so that going in is a `cons` and going out a `tail`.
-/

namespace CommandUrl

/-- Why a file operation failed. -/
inductive FileError where
  | notFound
  | notDirectory
  | isDirectory
  | alreadyExists
  | nameTooLong
  | invalidName
  | invalidText
  deriving Repr, DecidableEq

/-- The wording of a file error. -/
def FileError.message : FileError → String
  | notFound => "No such file or directory (os error 2)"
  | notDirectory => "Not a directory (os error 20)"
  | isDirectory => "Is a directory (os error 21)"
  | alreadyExists => "File exists (os error 17)"
  | nameTooLong => "File name too long (os error 36)"
  | invalidName => "file name contained an unexpected NUL byte"
  | invalidText => "stream did not contain valid UTF-8"

/-- The names that lead to a place from the root, the innermost first. -/
abbrev Location := List (List Char)

/-- What there is at a location. -/
inductive FileNode where
  | file (bytes : List UInt8)
  | directory
  deriving Repr, DecidableEq

/-- A file system. -/
structure FileTree where
  /-- What there is below the root. -/
  below : Location → Option FileNode
  /-- Where relative paths start. -/
  working : Location

namespace FileTree

/-- A tree of directories that lead to an empty working directory. -/
def ofWorking (working : Location) : FileTree where
  below location := if location.isSuffixOf working then some .directory else none
  working

/-- What there is at a location; the root is always a directory. -/
def nodeAt (tree : FileTree) : Location → Option FileNode
  | [] => some .directory
  | location => tree.below location

/-- The tree with a node at a location. -/
def put (tree : FileTree) (location : Location) (node : FileNode) : FileTree :=
  { tree with below := fun other => if other = location then some node else tree.below other }

/-- The tree without a location and everything inside it. -/
def removeAll (tree : FileTree) (location : Location) : FileTree :=
  { tree with below := fun other => if location.isSuffixOf other then none else tree.below other }

/-- The length of a name or path in bytes. -/
def byteLength (text : List Char) : Nat :=
  (Utf8.encode text).length

/-- The location is a directory, so that names can be looked up in it. -/
def checkDirectory (tree : FileTree) (location : Location) : Except FileError Unit :=
  match tree.nodeAt location with
  | some .directory => .ok ()
  | some (.file _) => .error .notDirectory
  | none => .error .notFound

/-- Follows one name. -/
def enter (tree : FileTree) (location : Location) (name : List Char) :
    Except FileError Location := do
  tree.checkDirectory location
  if name = ['.'] then
    pure location
  else if name = ['.', '.'] then
    pure location.tail
  else if 255 < byteLength name then
    throw .nameTooLong
  else if (tree.nodeAt (name :: location)).isSome then
    pure (name :: location)
  else
    throw .notFound

/-- Follows names one after the other. -/
def walk (tree : FileTree) (location : Location) (names : List (List Char)) :
    Except FileError Location :=
  names.foldlM tree.enter location

/-- A path made ready to be walked. -/
structure Route where
  start : Location
  names : List (List Char)
  /-- The path ends with a slash. -/
  slashed : Bool

/-- Makes a path ready to be walked, if it can be one. -/
def route (tree : FileTree) (path : String) : Except FileError Route :=
  let text := path.toList
  if text.contains '\x00' then .error .invalidName
  else if text.isEmpty then .error .notFound
  else if 4096 ≤ byteLength text then .error .nameTooLong
  else .ok {
    start := if text.head? = some '/' then [] else tree.working
    names := (Text.split '/' text).filter (· ≠ [])
    slashed := text.getLast? = some '/' }

/-- The location of a path. -/
def find (tree : FileTree) (path : String) : Except FileError Location := do
  let route ← tree.route path
  let location ← tree.walk route.start route.names
  if route.slashed then
    tree.checkDirectory location
  pure location

/-- What there is at a path, if anything can be reached by it. -/
def look (tree : FileTree) (path : String) : Option FileNode :=
  match tree.find path with
  | .ok location => tree.nodeAt location
  | .error _ => none

/-- The path leads to something. -/
def pathExists (tree : FileTree) (path : String) : Bool :=
  (tree.look path).isSome

/-- The path leads to a directory. -/
def isDirectory (tree : FileTree) (path : String) : Bool :=
  tree.look path = some .directory

/-- The path leads to a regular file. -/
def isFile (tree : FileTree) (path : String) : Bool :=
  match tree.look path with
  | some (.file _) => true
  | _ => false

/-- The bytes of a file. -/
def readBytes (tree : FileTree) (path : String) : Except FileError (List UInt8) := do
  let location ← tree.find path
  match tree.nodeAt location with
  | some (.file bytes) => pure bytes
  | some .directory => throw .isDirectory
  | none => throw .notFound

/-- The text of a file. -/
def readText (tree : FileTree) (path : String) : Except FileError (List Char) := do
  let bytes ← tree.readBytes path
  match Utf8.decode? bytes with
  | some text => pure text
  | none => throw .invalidText

/-- The directory in which the last name of a route is looked up, and that name; no name if the
route ends at the root or with dots. -/
def lastStep (tree : FileTree) (route : Route) :
    Except FileError (Location × Option (List Char)) := do
  let location ← tree.walk route.start route.names.dropLast
  tree.checkDirectory location
  match route.names.getLast? with
  | none => pure (location, none)
  | some name => pure (location, if name = ['.'] ∨ name = ['.', '.'] then none else some name)

/-- Makes one directory. -/
def makeDirectory (tree : FileTree) (path : String) : Except FileError FileTree := do
  let route ← tree.route path
  match ← tree.lastStep route with
  | (_, none) => throw .alreadyExists
  | (location, some name) =>
    if 255 < byteLength name then
      throw .nameTooLong
    if (tree.nodeAt (name :: location)).isSome then
      throw .alreadyExists
    pure (tree.put (name :: location) .directory)

/-- Writes a file, in place of one that is there. -/
def writeBytes (tree : FileTree) (path : String) (bytes : List UInt8) :
    Except FileError FileTree := do
  let route ← tree.route path
  match ← tree.lastStep route with
  | (_, none) => throw .isDirectory
  | (location, some name) =>
    if route.slashed then
      throw .isDirectory
    if 255 < byteLength name then
      throw .nameTooLong
    if tree.nodeAt (name :: location) = some .directory then
      throw .isDirectory
    pure (tree.put (name :: location) (.file bytes))

/-- Makes a directory where `paths` are its path and those of the directories around it, from the
inside out. Those that are missing are made first; what has been made stays even if the rest
fails. -/
def makeDirectories (tree : FileTree) : List Path → Except FileError Unit × FileTree
  | [] => (.error .notFound, tree)
  | path :: outer =>
    let settle (tree : FileTree) (error : FileError) : Except FileError Unit × FileTree :=
      if tree.isDirectory path.text then (.ok (), tree) else (.error error, tree)
    if path.text = "" then
      (.ok (), tree)
    else
      match tree.makeDirectory path.text with
      | .ok tree => (.ok (), tree)
      | .error .notFound =>
        match tree.makeDirectories outer with
        | (.error error, tree) => (.error error, tree)
        | (.ok (), tree) =>
          match tree.makeDirectory path.text with
          | .ok tree => (.ok (), tree)
          | .error error => settle tree error
      | .error error => settle tree error

/-- Writes a file, making the directories around it first. -/
def store (tree : FileTree) (path : String) (bytes : List UInt8) :
    Except FileError Unit × FileTree :=
  let prepared : Except FileError Unit × FileTree :=
    match (Path.ofText path).parent? with
    | none => (.ok (), tree)
    | some parent => tree.makeDirectories (parent :: Path.enclosing parent.lead parent.pieces)
  match prepared with
  | (.error error, tree) => (.error error, tree)
  | (.ok (), tree) =>
    match tree.writeBytes path bytes with
    | .ok tree => (.ok (), tree)
    | .error error => (.error error, tree)

end FileTree

end CommandUrl
