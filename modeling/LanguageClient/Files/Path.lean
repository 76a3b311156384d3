import LanguageClient.Text.Lines

/-!
Paths as text. A path is a list of names between slashes; empty names and single dots say
nothing, except for a dot that starts a relative path.
-/

namespace LanguageClient.Path

/-- What stands between the slashes of a path. -/
def segments (path : String) : List (List Char) :=
  Text.splitOn '/' path.toList

def isAbsolute (path : String) : Bool :=
  path.toList.head? == some '/'

/-- Whether a path ends with a slash. -/
def endsWithSlash (path : String) : Bool :=
  path.toList.getLast? == some '/'

/-- Whether a name says nothing about where a path leads. -/
def isIdle (name : List Char) : Bool :=
  name == [] || name == ['.']

/-- The name that leads to the directory above. -/
def upward : List Char :=
  ['.', '.']

/-- The names that say where a path leads, without a dot at its start. -/
def names (path : String) : List (List Char) :=
  (segments path).filter (!isIdle ·)

/-- Segments without the idle ones at their end. The first one is kept. -/
def trimSegments : List (List Char) → List (List Char)
  | [] => []
  | first :: rest => first :: (rest.reverse.dropWhile isIdle).reverse

/-- The path of segments, where an absolute path starts with an empty one. -/
def ofSegments : List (List Char) → String
  | [[]] => "/"
  | segments => String.ofList (Text.joinOn '/' segments)

/-- The path without its last name, when it has one. -/
def parent? (path : String) : Option String :=
  match trimSegments (segments path) with
  | [] => none
  | [[]] => none
  | [_] => some ""
  | several => some (ofSegments (trimSegments several.dropLast))

/-- The last name of a path, unless that leads upward or nowhere. -/
def fileName? (path : String) : Option (List Char) :=
  match (trimSegments (segments path)).getLast? with
  | none => none
  | some name => if isIdle name || name == upward then none else some name

/-- What follows the last dot of the last name. A dot that starts the name is part of it. -/
def extension? (path : String) : Option (List Char) :=
  (fileName? path).bind fun name =>
    let extension := (name.reverse.takeWhile (· != '.')).reverse
    let stem := name.take (name.length - extension.length - 1)
    if stem.isEmpty then none else some extension

/-- The path that leads on from another one. -/
def join (path name : String) : String :=
  if isAbsolute name || path.isEmpty then
    name
  else if endsWithSlash path then
    path ++ name
  else
    path ++ "/" ++ name

/--
A path from the root, given the directory in which relative paths start. Idle names are left
out, a slash at the end stays, and exactly two slashes at the start stay two. The empty path
leads nowhere.
-/
def absolute? (directory path : String) : Option String :=
  if path.isEmpty then
    none
  else
    let body := String.ofList (Text.joinOn '/' (names path))
    let slashes := (path.toList.takeWhile (· == '/')).length
    let full :=
      if slashes = 2 then
        "//" ++ body
      else if isAbsolute path then
        "/" ++ body
      else if body.isEmpty then
        directory
      else
        join directory body
    some (if endsWithSlash path && !endsWithSlash full then full ++ "/" else full)

end LanguageClient.Path
