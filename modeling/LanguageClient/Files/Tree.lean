import LanguageClient.Files.Path
import LanguageClient.Text.Utf8

/-!
A tree of files: which directories there are and what the files in them hold. Paths are followed
name by name, so what a path leads to depends on every directory on its way.
-/

namespace LanguageClient

/-- The names that lead from the root to an entry. -/
abbrev Place :=
  List (List Char)

/-- What a place of a tree holds. -/
inductive Entry where
  | directory
  | file (content : List UInt8)
deriving DecidableEq, Repr

/-- Why a file cannot be read or written. -/
inductive FileError where
  | notFound
  | notADirectory
  | isADirectory
  /-- The bytes of the file are no text. -/
  | invalidData
deriving DecidableEq, Repr

def FileError.message : FileError → String
  | .notFound => "No such file or directory (os error 2)"
  | .notADirectory => "Not a directory (os error 20)"
  | .isADirectory => "Is a directory (os error 21)"
  | .invalidData => "stream did not contain valid UTF-8"

/-- The entries below the root, and the directory in which relative paths start. -/
structure FileTree where
  entries : List (Place × Entry) := []
  current : Place := []
deriving Repr

namespace FileTree

/-- What a place holds. The root is always a directory. -/
def entry? (tree : FileTree) (place : Place) : Option Entry :=
  if place.isEmpty then some .directory else tree.entries.lookup place

def isDirectoryAt (tree : FileTree) (place : Place) : Bool :=
  tree.entry? place == some .directory

/-- Let a place hold an entry, in place of any other. -/
def put (tree : FileTree) (place : Place) (entry : Entry) : FileTree :=
  { tree with entries := (place, entry) :: tree.entries.filter (·.1 != place) }

/--
Follow segments of a path from a place. Each one, the empty ones included, can be followed only
from a directory, and the one above the root is the root.
-/
def follow (tree : FileTree) : Place → List (List Char) → Except FileError Place
  | place, [] => if (tree.entry? place).isSome then .ok place else .error .notFound
  | place, segment :: rest =>
    match tree.entry? place with
    | none => .error .notFound
    | some (.file _) => .error .notADirectory
    | some .directory =>
      if Path.isIdle segment then
        tree.follow place rest
      else if segment == Path.upward then
        tree.follow place.dropLast rest
      else
        tree.follow (place ++ [segment]) rest

/-- The place that a path starts from, and the segments that lead on from there. -/
def route (tree : FileTree) (path : String) : Place × List (List Char) :=
  if Path.isAbsolute path then
    ([], (Path.segments path).drop 1)
  else
    (tree.current, Path.segments path)

/-- The place that a path leads to, or why it leads nowhere. -/
def locate (tree : FileTree) (path : String) : Except FileError Place :=
  if path.isEmpty then
    .error .notFound
  else
    let (start, segments) := tree.route path
    tree.follow start segments

/-- The place that a path leads to, when there is something. -/
def resolve? (tree : FileTree) (path : String) : Option Place :=
  (tree.locate path).toOption

/-- The path from the root to a place. -/
def pathOf (place : Place) : String :=
  Path.ofSegments ([] :: place)

def contains (tree : FileTree) (path : String) : Bool :=
  (tree.resolve? path).isSome

def isDirectory (tree : FileTree) (path : String) : Bool :=
  (tree.resolve? path).any tree.isDirectoryAt

/-- The path from the root to where a path leads, whether or not something is there. -/
def absolute (tree : FileTree) (path : String) : String :=
  match tree.resolve? path with
  | some place => pathOf place
  | none => (Path.absolute? (pathOf tree.current) path).getD path

/-- The text of the file that a path leads to. -/
def read (tree : FileTree) (path : String) : Except FileError String :=
  match tree.locate path with
  | .error error => .error error
  | .ok place =>
    match tree.entry? place with
    | none => .error .notFound
    | some .directory => .error .isADirectory
    | some (.file content) =>
      match Text.Utf8.decode content with
      | .ok text => .ok text
      | .error _ => .error .invalidData

/-- Segments without the empty ones at their end, which are what slashes there leave. -/
def withoutEndSlashes (segments : List (List Char)) : List (List Char) :=
  (segments.reverse.dropWhile List.isEmpty).reverse

/--
Let the file that a path leads to hold a text. The file is made when there is none, but not the
directories on its way. A path that ends with a slash or with dots can only lead to a directory.
-/
def write (tree : FileTree) (path text : String) : Except FileError FileTree :=
  if path.isEmpty then
    .error .notFound
  else
    let (start, segments) := tree.route path
    let named := withoutEndSlashes segments
    match tree.follow start named.dropLast with
    | .error error => .error error
    | .ok parent =>
      if !tree.isDirectoryAt parent then
        .error .notADirectory
      else
        let name := named.getLastD []
        let place := parent ++ [name]
        if Path.endsWithSlash path || Path.isIdle name || name == Path.upward
            || tree.isDirectoryAt place then
          .error .isADirectory
        else
          .ok (tree.put place (.file (Text.Utf8.encode text)))

end FileTree

end LanguageClient
