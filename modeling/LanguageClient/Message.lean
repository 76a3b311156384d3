import LanguageClient.Diagnostic

/-!
Messages from a server: answers to requests, notifications, and requests of its own.
-/

namespace LanguageClient

open Json (Value ShapeError)

/-- How important a text for the user is. -/
inductive NoticeLevel where
  | error
  | warning
  | info
  | log
deriving DecidableEq, Repr

namespace NoticeLevel

def ofNumber : Option Nat → NoticeLevel
  | some 1 => .error
  | some 2 => .warning
  | some 3 => .info
  | _ => .log

end NoticeLevel

/-- A text for the user or the log. -/
structure Notice where
  level : NoticeLevel
  text : String
deriving DecidableEq, Repr

namespace Notice

def ofValue (params : Value) : Except ShapeError Notice := do
  let text ← (← params.field "message").expectText
  return { level := .ofNumber ((params.get? "type").bind Value.asNat?), text }

end Notice

/-- The notifications that are understood. -/
inductive Notification where
  | diagnostics (publication : Publication)
  | shown (notice : Notice)
  | logged (notice : Notice)
deriving DecidableEq, Repr

namespace Notification

/-- Read a notification by the name of its method. Other methods are none of these. -/
def ofMethod (method : String) (params : Value) : Except ShapeError (Option Notification) :=
  match method with
  | "textDocument/publishDiagnostics" =>
    (Publication.ofValue params).map fun publication => some (.diagnostics publication)
  | "window/showMessage" => (Notice.ofValue params).map fun notice => some (.shown notice)
  | "window/logMessage" => (Notice.ofValue params).map fun notice => some (.logged notice)
  | _ => .ok none

end Notification

/-- A request of the server. Its id is any value and is given back as it is. -/
structure ServerRequest where
  id : Value
  method : String
  params : Value

namespace ServerRequest

/--
The result that answers a request, so that the server does not wait: no setting has a value, and
any other request gets null.
-/
def result (request : ServerRequest) : Value :=
  if request.method = "workspace/configuration" then
    let items := ((request.params.get? "items").bind Value.asArray?).getD []
    .array (items.map fun _ => .null)
  else
    .null

/-- The message that answers a request. -/
def answer (request : ServerRequest) : Value :=
  .ofFields [("jsonrpc", .text "2.0"), ("id", request.id), ("result", request.result)]

end ServerRequest

/-- Why a server refuses a request. -/
structure ResponseError where
  code : Int
  message : String
deriving DecidableEq, Repr

namespace ResponseError

def ofValue (value : Value) : Except ShapeError ResponseError := do
  let code ←
    match (← value.field "code").asInt? with
    | some code => .ok code
    | none => .error { expected := "integer", found := "number" }
  return { code, message := (value.getText? "message").getD "" }

end ResponseError

/-- The answer to a request: its result, or why there is none. -/
structure Response where
  id : Nat
  outcome : Except ResponseError Value

/-- A message from the server. -/
inductive Incoming where
  | response (response : Response)
  | notification (method : String) (params : Value)
  | request (request : ServerRequest)

namespace Incoming

/-- The parameters of a message, null when it has none. -/
def paramsOf (message : Value) : Value :=
  (message.get? "params").getD .null

/-- Read a message with a method: a request when it has an id, and else a notification. -/
def ofCall (message method : Value) : Except ShapeError Incoming := do
  let name ← method.expectText
  return match message.get? "id" with
    | some id => .request { id, method := name, params := paramsOf message }
    | none => .notification name (paramsOf message)

/-- The outcome of a response. An error goes before a result. -/
def outcomeOf (message : Value)
    : Except ShapeError (Except ResponseError Value) :=
  match message.get? "error", message.get? "result" with
  | some error, _ => (ResponseError.ofValue error).map .error
  | none, some result => .ok (.ok result)
  | none, none => .error { expected := "result or error", found := "missing" }

/-- Read a message without a method, which is a response. -/
def ofAnswer (message : Value) : Except ShapeError Incoming := do
  let _ ← (← message.field "jsonrpc").expectText
  let id ← (← message.field "id").expectNat
  let outcome ← outcomeOf message
  return .response { id, outcome }

/-- Read a message, which is an object. -/
def ofValue (message : Value) : Except ShapeError Incoming := do
  let _ ← message.expectObject
  match message.get? "method" with
  | some method => ofCall message method
  | none => ofAnswer message

end Incoming

end LanguageClient
