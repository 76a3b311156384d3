import LanguageClient.Files.Tree
import LanguageClient.Text.Blank

/-!
How the server for a document is started: from variables of the environment where they are set,
else from the kind of the document.
-/

namespace LanguageClient

namespace Document

/-- The extension of a document's path in lowercase letters. -/
def kind (path : String) : String :=
  String.ofList (((Path.extension? path).getD []).map Char.toLower)

/-- The language of a document, as servers name it. -/
def language (path : String) : String :=
  match kind path with
  | "rs" => "rust"
  | "toml" => "toml"
  | "json" => "json"
  | "yaml" | "yml" => "yaml"
  | "md" | "markdown" => "markdown"
  | "py" => "python"
  | "js" => "javascript"
  | "jsx" => "javascriptreact"
  | "ts" => "typescript"
  | "tsx" => "typescriptreact"
  | "go" => "go"
  | "c" | "h" => "c"
  | "cc" | "cpp" | "cxx" | "hpp" | "hh" => "cpp"
  | "java" => "java"
  | "sh" | "bash" => "shellscript"
  | "html" | "htm" => "html"
  | "css" => "css"
  | _ => "plaintext"

/-- The well-known server for a document, with its arguments. -/
def defaultServer? (path : String) : Option (String × List String) :=
  match kind path with
  | "rs" => some ("rust-analyzer", [])
  | "go" => some ("gopls", [])
  | "py" => some ("pylsp", [])
  | "c" | "h" | "cc" | "cpp" | "cxx" | "hpp" | "hh" => some ("clangd", [])
  | "js" | "jsx" | "ts" | "tsx" => some ("typescript-language-server", ["--stdio"])
  | _ => none

end Document

namespace Project

/-- The entries that mark the root of a project. -/
def markers : List String :=
  ["Cargo.toml", "package.json", "pyproject.toml", "go.mod", "Gemfile", ".git"]

def hasMarker (tree : FileTree) (directory : String) : Bool :=
  markers.any fun marker => tree.contains (Path.join directory marker)

/-- The first directory with a marker, from a directory upward through at most `bound` others. -/
def rootFrom? (tree : FileTree) : Nat → String → Option String
  | 0, _ => none
  | bound + 1, directory =>
    if hasMarker tree directory then
      some directory
    else
      (Path.parent? directory).bind (rootFrom? tree bound)

/--
The nearest directory with a marker that a path leads through. Every step upward removes a
segment, so the number of segments bounds the number of steps.
-/
def root? (tree : FileTree) (path : String) : Option String :=
  let start := if tree.isDirectory path then some path else Path.parent? path
  start.bind (rootFrom? tree ((Path.segments path).length + 1))

end Project

/-- How to start a server. -/
structure Launch where
  command : String
  arguments : List String
  /-- The language in which documents are opened. -/
  language : String
  /-- The directory that the server works on. -/
  root : String
deriving DecidableEq, Repr

namespace Launch

/-- The variable that names the command. -/
def commandVariable : String :=
  "LSPOP_SERVER_CMD"

/-- The variable that lists the arguments of the command between blanks. -/
def argumentsVariable : String :=
  "LSPOP_SERVER_ARGS"

/-- The variable that names the language of the document. -/
def languageVariable : String :=
  "LSPOP_LANGUAGE_ID"

/-- The variable that gives the directory to work on. -/
def rootVariable : String :=
  "LSPOP_ROOT"

/-- The value of a variable without blanks around it, when that leaves something. -/
def setting? (lookup : String → Option String) (name : String) : Option String :=
  (lookup name).bind fun value =>
    let trimmed := Text.trimBlanks value.toList
    if trimmed.isEmpty then none else some (String.ofList trimmed)

/-- The command and its arguments. The arguments of a default server cannot be set. -/
def command? (lookup : String → Option String) (document : String)
    : Option (String × List String) :=
  match setting? lookup commandVariable with
  | some command =>
    let arguments := (setting? lookup argumentsVariable).getD ""
    some (command, (Text.words arguments.toList).map String.ofList)
  | none => Document.defaultServer? document

/-- The directory of a document, which is the current one when its path names none. -/
def directoryOf (document : String) : String :=
  match Path.parent? document with
  | none => "."
  | some "" => "."
  | some directory => directory

/-- How to start the server for a document, unless there is none. -/
def forDocument? (tree : FileTree) (lookup : String → Option String) (document : String)
    : Option Launch :=
  (command? lookup document).map fun (command, arguments) =>
    {
      command
      arguments
      language := (setting? lookup languageVariable).getD (Document.language document)
      root :=
        (setting? lookup rootVariable <|> Project.root? tree document).getD
          (directoryOf document)
    }

end Launch

end LanguageClient
