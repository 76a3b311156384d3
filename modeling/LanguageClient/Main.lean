import LanguageClient.Editor.Options
import LanguageClient.Editor.View

/-!
The command line: shows how a file, whose text comes from the standard input, looks in the editor
after keys. Servers are not started from here.
-/

namespace LanguageClient

/-- The screen that the command line shows. -/
def shownSize : UInt16 × UInt16 :=
  (80, 24)

/-- The files of the command line: the one to edit, with the text that it is given. -/
def givenFiles (path text : String) : FileTree :=
  let place := Path.names path
  let directories := (List.range (place.length - 1)).map fun count =>
    (place.take (count + 1), Entry.directory)
  { entries := directories ++ [(place, .file (Text.Utf8.encode text))] }

/-- The workbench of options, after their keys. -/
def EditorOptions.bench (options : EditorOptions) (lookup : String → Option String)
    (text : String) : Except FileError Workbench :=
  let files := givenFiles options.path text
  let launch := options.launch? files lookup
  (LineEditor.ofPath files options.path (options.documentLanguage launch)).map fun editor =>
    let obstacle := some FileError.notFound.message
    let opened := Workbench.fitTo { editor, launch, obstacle } shownSize.1 shownSize.2
    (options.keys.filterMap KeyPress.ofName?).foldl
      (fun bench key => (bench.press key).fitTo shownSize.1 shownSize.2)
      opened.startServer

/-- What is left of a stream, behind the text that has been read from it. -/
partial def readToEnd (stream : IO.FS.Stream) (text : String) : IO String := do
  let line ← stream.getLine
  if line.isEmpty then return text else readToEnd stream (text ++ line)

end LanguageClient

open LanguageClient in
/-- Show the file of the command line after its keys. -/
def main (arguments : List String) : IO UInt32 := do
  match EditorOptions.ofArguments arguments with
  | .error message =>
    IO.eprintln message
    return 2
  | .ok options =>
    let names :=
      [Launch.commandVariable, Launch.argumentsVariable, Launch.languageVariable,
        Launch.rootVariable]
    let settings ← names.mapM fun name => do return (name, ← IO.getEnv name)
    let text ← readToEnd (← IO.getStdin) ""
    let lookup := fun name => (settings.lookup name).join
    match options.bench lookup text with
    | .error reason =>
      IO.eprintln reason.message
      return 1
    | .ok bench =>
      for row in (bench.draw shownSize.1 shownSize.2).rows do
        IO.println (Canvas.rowText row)
      return 0
