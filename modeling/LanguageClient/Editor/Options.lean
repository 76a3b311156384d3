import LanguageClient.Launch

/-!
The options of an editor's command line. What they say goes before what the environment says.
-/

namespace LanguageClient

structure EditorOptions where
  path : String
  server : Option String := none
  serverArguments : List String := []
  root : Option String := none
  language : Option String := none
  /-- No server is started. -/
  alone : Bool := false
  /-- The names of keys to press. -/
  keys : List String := []
deriving DecidableEq, Repr

namespace EditorOptions

def usage : String :=
  "usage: edit [--server COMMAND] [--server-arg ARG]... [--root DIR] [--language-id ID]\n"
    ++ "            [--no-server] FILE [KEY]..."

/-- The options of arguments, given those so far. The first argument that is no option is a path. -/
def readFrom (options : EditorOptions) : List String → Except String EditorOptions
  | [] => .error usage
  | "--no-server" :: rest => readFrom { options with alone := true } rest
  | "--server" :: command :: rest => readFrom { options with server := some command } rest
  | "--server-arg" :: argument :: rest =>
    readFrom { options with serverArguments := options.serverArguments ++ [argument] } rest
  | "--root" :: root :: rest => readFrom { options with root := some root } rest
  | "--language-id" :: language :: rest =>
    readFrom { options with language := some language } rest
  | path :: keys =>
    if path.startsWith "-" then .error usage else .ok { options with path, keys }

/-- The options that arguments give. -/
def ofArguments (arguments : List String) : Except String EditorOptions :=
  readFrom { path := "" } arguments

/-- How the server is started: as the options say, and else as the environment says. -/
def launch? (options : EditorOptions) (tree : FileTree) (lookup : String → Option String)
    : Option Launch :=
  if options.alone then
    none
  else
    let fromEnvironment := Launch.forDocument? tree lookup options.path
    let chosen :=
      match options.server, fromEnvironment with
      | none, launch => launch
      | some command, some launch => some { launch with command, arguments := [] }
      | some command, none =>
        some
          {
            command
            arguments := []
            language := Document.language options.path
            root := (Project.root? tree options.path).getD (Launch.directoryOf options.path)
          }
    chosen.map fun launch =>
      {
        command := launch.command
        arguments :=
          if options.serverArguments.isEmpty then
            launch.arguments
          else
            options.serverArguments
        language := options.language.getD launch.language
        root := options.root.getD launch.root
      }

/-- The language of the document. -/
def documentLanguage (options : EditorOptions) (launch : Option Launch) : String :=
  (options.language <|> launch.map (·.language)).getD (Document.language options.path)

end EditorOptions

end LanguageClient
