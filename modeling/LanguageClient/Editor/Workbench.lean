import LanguageClient.Client.Events
import LanguageClient.Editor.Key
import LanguageClient.Launch

/-!
An editor at work with its client and its server: what keys do, and how the server is started,
heard and stopped. What the server says waits in an inbox until it is looked at.
-/

namespace LanguageClient

/-- What has been done to a server. -/
inductive ServerCall where
  | start (command : String) (arguments : List String)
  | stop
deriving DecidableEq, Repr

structure Workbench where
  editor : LineEditor
  client : Client := .new {} {}
  /-- How the server is started, when there is one. -/
  launch : Option Launch
  /-- Why servers cannot be started, when that is so. -/
  obstacle : Option String := none
  hasServer : Bool := false
  /-- What the server has let know, oldest first. -/
  inbox : List ServerEvent := []
  quitting : Bool := false
  /-- What has been done to servers so far, oldest first. -/
  serverCalls : List ServerCall := []

namespace Workbench

/-- Let the client act on the editor. -/
def act (bench : Workbench) (action : Client → LineEditor → Client × LineEditor) : Workbench :=
  let (client, editor) := action bench.client bench.editor
  { bench with client, editor }

def showStatus (bench : Workbench) (status : String) : Workbench :=
  { bench with editor := Host.showStatus status bench.editor }

def record (bench : Workbench) (call : ServerCall) : Workbench :=
  { bench with serverCalls := bench.serverCalls ++ [call] }

/-- Take the record of what has been done to servers. -/
def collectCalls (bench : Workbench) : List ServerCall × Workbench :=
  (bench.serverCalls, { bench with serverCalls := [] })

/-- Start the server and greet it. -/
def startServer (bench : Workbench) : Workbench :=
  match bench.launch, bench.obstacle with
  | none, _ => bench.showStatus "no language server configured"
  | some launch, some obstacle =>
    bench.showStatus ("failed to start " ++ launch.command ++ ": " ++ obstacle)
  | some launch, none =>
    let started := { bench with inbox := [] }.record (.start launch.command launch.arguments)
    let (greeting, client, editor) := started.client.start started.editor {} launch.root
    let greeted := { started with client, editor }
    match greeting with
    | .error error => greeted.showStatus error.message
    | .ok () => { greeted.showStatus ("starting " ++ launch.command) with hasServer := true }

/-- Stop the server, if there is one. -/
def stopServer (bench : Workbench) : Workbench :=
  if bench.hasServer then { bench.record .stop with hasServer := false } else bench

/-- Start the server in place of the one there is. -/
def restartServer (bench : Workbench) : Workbench :=
  (bench.stopServer.act Client.stop).startServer

/-- React to something that the server has let know. -/
def hear (bench : Workbench) (event : ServerEvent) : Workbench :=
  bench.act (·.handleServerEvent · event)

/-- React to all that the server has let know. -/
def pollServer (bench : Workbench) : Workbench :=
  if !bench.hasServer then
    bench
  else
    let heard := bench.inbox.foldl hear { bench with inbox := [] }
    if bench.inbox.any (·.isExit) then { heard with hasServer := false } else heard

/--
React to what the server has let know until nothing is awaited any more or the server has ended.
The rest stays in the inbox.
-/
def hearReply : List ServerEvent → Workbench → Workbench
  | [], bench => { bench with inbox := [] }
  | event :: rest, bench =>
    if bench.client.session.pending.isNone then
      { bench with inbox := event :: rest }
    else if event.isExit then
      { bench.hear event with inbox := rest }
    else
      hearReply rest (bench.hear event)

/-- Ask the server to shut down, and await its reply. -/
def askToShutDown (bench : Workbench) : Workbench :=
  if !bench.client.session.initialized then
    bench
  else
    let (result, session) := bench.client.session.requestShutdown
    let asked := { bench with client := { bench.client with session } }
    match result with
    | .ok _ => hearReply asked.inbox asked
    | .error _ => asked

/-- Shut the server down, and stop it in any case. -/
def shutDown (bench : Workbench) : Workbench :=
  let stopped := if bench.hasServer then bench.askToShutDown.stopServer else bench
  stopped.act Client.stop

/-- Tell the client about a change, when there was one to make. -/
def edit (bench : Workbench) (change : LineEditor → Option LineEditor) : Workbench :=
  match change bench.editor with
  | none => bench
  | some editor => { bench with editor := editor.scrollToCursor }.act Client.documentChanged

def insert (bench : Workbench) (text : String) : Workbench :=
  bench.edit fun editor => some (editor.insert text)

/-- Write the document to its file and tell the server. -/
def save (bench : Workbench) : Workbench :=
  match bench.editor.write with
  | .ok editor =>
    ({ bench with editor }.showStatus ("wrote " ++ editor.path)).act Client.save
  | .error error =>
    bench.showStatus ("cannot write " ++ bench.editor.path ++ ": " ++ error.message)

/-- Let a key work on an open completion menu, and say whether it did. -/
def pressInMenu (bench : Workbench) (key : Key) : Bool × Workbench :=
  let taken := fun (action : Client → LineEditor → Bool × Client × LineEditor) =>
    let (done, client, editor) := action bench.client bench.editor
    (done, { bench with client, editor })
  match key with
  | .down => taken Client.selectNext
  | .up => taken Client.selectPrevious
  | .pageDown => taken Client.pageDown
  | .pageUp => taken Client.pageUp
  | .enter | .tab => taken Client.acceptCompletion
  | .escape => (true, bench.act Client.closeCompletion)
  | _ => (false, bench)

/-- Close the completion menu and move the cursor. -/
def move (bench : Workbench) (key : Key) : Workbench :=
  let closed := bench.act Client.closeCompletion
  { closed with editor := (closed.editor.moveCursor key).scrollToCursor }

/-- React to a key while no completion menu takes it. -/
def pressInText (bench : Workbench) (press : KeyPress) : Workbench :=
  match press.control, press.key, press.shift with
  | true, .char 'x', _ => { bench with quitting := true }
  | true, .char 's', _ => bench.save
  | true, .char ' ', _ => bench.act Client.triggerCompletion
  | true, .char 'f', _ => bench.act Client.format
  | true, .char 'e', _ => bench.act Client.showLineDiagnostics
  | true, .char 'l', _ => bench.restartServer
  | _, .function 12, true => bench.act Client.findReferences
  | _, .function 12, false => bench.act Client.goToDefinition
  | false, .char char, _ => bench.insert (String.singleton char)
  | _, .tab, _ => bench.insert "\t"
  | _, .enter, _ => bench.insert "\n"
  | _, .backspace, _ => bench.edit LineEditor.backspace?
  | _, .delete, _ => bench.edit LineEditor.delete?
  | _, .escape, _ => { bench with editor := Host.hideOverlay bench.editor }
  | _, key, _ => bench.move key

/-- Take away an overlay that is only there to be read. -/
def dismissMessage (bench : Workbench) : Workbench :=
  if bench.editor.overlay.any (·.kind = .message) then
    { bench with editor := Host.hideOverlay bench.editor }
  else
    bench

/-- React to a key. -/
def press (bench : Workbench) (press : KeyPress) : Workbench :=
  let dismissed := bench.dismissMessage
  if dismissed.client.isCompleting then
    match dismissed.pressInMenu press.key with
    | (true, pressed) => pressed
    | (false, pressed) => pressed.pressInText press
  else
    dismissed.pressInText press

end Workbench

end LanguageClient
