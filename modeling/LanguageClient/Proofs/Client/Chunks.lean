import LanguageClient.Proofs.Client.Deeds
import LanguageClient.Proofs.Session.Digest

/-! Chunks that a client receives. The session handles all messages of a chunk before the client
reacts to the first event, so a cut decides whether the client or the session goes first. It
makes no difference as long as no message behind a cut depends on what the client does to its
session about an event before the cut.
-/

namespace LanguageClient

open Json (Value)
open Session (notificationMessage requestMessage resultMessage)

theorem Session.performAll_withFramer (session : Session) (framer : Framer)
    (deeds : List Deed)
    : (session.withFramer framer).performAll deeds
      = (session.performAll deeds).withFramer framer :=
  List.foldl_hom (withFramer · framer) fun session deed => session.perform_withFramer framer deed

/-- What every deed keeps is kept by deeds in a row. -/
theorem Session.performAll_keeps {P : Session → Prop} {session : Session} (deeds : List Deed)
    (holds : P session) (kept : ∀ session deed, P session → P (session.perform deed))
    : P (session.performAll deeds) :=
  List.foldlRecOn deeds Session.perform holds fun session holds deed _ => kept session deed holds

namespace Client

variable {σ : Type}

/-- A client and its editor, with other bytes left over. -/
def framed (state : Client × σ) (framer : Framer) : Client × σ :=
  (state.1.withSession (state.1.session.withFramer framer), state.2)

theorem framed_framed (state : Client × σ) (first second : Framer)
    : framed (framed state first) second = framed state second :=
  rfl

variable [Host σ]

-----------------------------------------------------------------------------------------
-- Events
-----------------------------------------------------------------------------------------

/-- An event does its deeds to the session. -/
theorem turn_session (state : Client × σ) (event : SessionEvent)
    : (turn state event).1.session
      = state.1.session.performAll (state.1.deeds state.2 event) :=
  congrArg (fun outcome : Client × σ => outcome.1.session)
    (state.1.handleEvent_withSession state.2 event state.1.session)

/-- An event with another session. -/
theorem turn_withSession (client : Client) (host : σ) (event : SessionEvent) (session : Session)
    : turn (client.withSession session, host) event
      = (
          (turn (client, host) event).1.withSession
            (session.performAll (client.deeds host event)),
          (turn (client, host) event).2
        ) :=
  client.handleEvent_withSession host event session

/-- Without a menu candidates may be left out, by induction on the events. -/
theorem foldl_turn_of_idle {state : Client × σ} (idle : state.1.anchor = none)
    (events : List SessionEvent)
    : events.foldl turn state
      = (events.filter fun event => !event.isCandidates).foldl turn state := by
  induction events generalizing state with
  | nil => rfl
  | cons event rest ih =>
      cases candidates : event.isCandidates with
      | true =>
          have same : turn state event = state := handleEvent_candidates idle state.2 candidates
          rw [List.filter_cons_of_neg (by simp [candidates]), List.foldl_cons, same]
          exact ih idle
      | false =>
          rw [List.filter_cons_of_pos (by simp [candidates]), List.foldl_cons, List.foldl_cons]
          exact ih (handleEvent_closed (Or.inl idle))

/-- What is missing from the events makes no difference once the menu is closed. -/
theorem foldl_turn_of_sheds {state : Client × σ} {released : Bool}
    {more fewer : List SessionEvent} (sheds : Sheds released more fewer)
    (closed : released = true → state.1.anchor = none)
    : more.foldl turn state = fewer.foldl turn state := by
  cases released with
  | false => rw [sheds.same rfl]
  | true =>
      rw [foldl_turn_of_idle (closed rfl) more, foldl_turn_of_idle (closed rfl) fewer,
        sheds.others]

/-- Messages do not depend on what events in a row make a client do to its session. -/
def EventsUndisturbed (messages : List Value) (state : Client × σ)
    : List SessionEvent → Prop
  | [] => True
  | event :: rest =>
    state.1.session.Undisturbed messages (state.1.deeds state.2 event)
    ∧ EventsUndisturbed messages (turn state event) rest

/-- Messages may come before the events or after them, by induction on the events. The events
of the messages come last.
-/
theorem foldl_turn_digestAll (client : Client) {host : σ} {messages : List Value}
    {events more : List SessionEvent} {released : Bool}
    (retains : client.session.RetainsCompletions)
    (undisturbed : EventsUndisturbed messages (client, host) events)
    (sheds : Sheds released more (client.session.queuedByAll messages))
    (closed : released = true → client.anchor = none)
    : let state := events.foldl turn (client, host)
      more.foldl turn
          (events.foldl turn (client.withSession (client.session.digestAll messages), host))
        = (state.1.session.queuedByAll messages).foldl turn
            (state.1.withSession (state.1.session.digestAll messages), state.2)
      ∧ (state.1.session.queuedByAll messages).length ≤ more.length := by
  induction events generalizing client host released with
  | nil => exact ⟨foldl_turn_of_sheds sheds closed, sheds.length⟩
  | cons event rest ih =>
      obtain ⟨same, sheds'⟩ := Session.digestAll_performAll retains undisturbed.1
      have next := turn_session (client, host) event
      dsimp only at next same sheds'
      rw [← next] at same sheds'
      rw [List.foldl_cons, List.foldl_cons, turn_withSession, ← same]
      refine ih _ ?_ undisturbed.2 (sheds.trans sheds') fun either => ?_
      · rw [next]
        exact Session.performAll_keeps _ retains fun _ deed kept => kept.perform deed
      · refine handleEvent_closed ?_
        rw [Bool.or_eq_true] at either
        exact either.imp_left closed

-----------------------------------------------------------------------------------------
-- Messages
-----------------------------------------------------------------------------------------

/-- A client and its editor after messages that arrive together. -/
def take (client : Client) (host : σ) (messages : List Value) : Client × σ :=
  (client.withSession (client.session.handleMessages messages)).processEvents host

theorem processEvents_eq (client : Client) (host : σ)
    : client.processEvents host
      = client.session.events.foldl turn
          (client.withSession (client.session.withEvents []), host) :=
  rfl

/-- The session is only changed by deeds, whatever events are handled. -/
theorem foldl_turn_keeps {P : Session → Prop} {state : Client × σ} (events : List SessionEvent)
    (holds : P state.1.session) (kept : ∀ session deed, P session → P (session.perform deed))
    : P (events.foldl turn state).1.session := by
  refine List.foldlRecOn events turn (motive := fun state : Client × σ => P state.1.session)
    holds fun state holds event _ => ?_
  rw [turn_session]
  exact Session.performAll_keeps _ holds kept

theorem processEvents_retains {client : Client} (retains : client.session.RetainsCompletions)
    (host : σ)
    : (client.processEvents host).1.session.RetainsCompletions := by
  rw [processEvents_eq]
  exact foldl_turn_keeps client.session.events retains fun _ deed kept => kept.perform deed

theorem processEvents_events (client : Client) (host : σ)
    : (client.processEvents host).1.session.events = [] := by
  rw [processEvents_eq]
  refine foldl_turn_keeps (P := fun session => session.events = []) client.session.events rfl
    fun session deed none => ?_
  have kept := congrArg (·.events) (session.perform_eq_aside deed)
  exact kept.trans none

theorem processEvents_framer (client : Client) (host : σ)
    : (client.processEvents host).1.session.framer = client.session.framer := by
  rw [processEvents_eq]
  refine foldl_turn_keeps (P := fun session => session.framer = client.session.framer)
    client.session.events rfl fun session deed same => ?_
  have kept := congrArg (·.framer) (session.perform_eq_aside deed)
  exact kept.trans same

theorem processEvents_options (client : Client) (host : σ)
    : (client.processEvents host).1.session.options = client.session.options := by
  rw [processEvents_eq]
  exact foldl_turn_keeps (P := fun session => session.options = client.session.options)
    client.session.events rfl fun session deed same => (session.perform_options deed).trans same

/-- While there is room, the events of messages are handled after those that wait already. -/
theorem take_of_room {client : Client} {messages : List Value}
    (room : client.session.HasRoom messages) (host : σ)
    : client.take host messages
      = (client.session.queuedByAll messages).foldl turn
          (client.session.events.foldl turn
            (
              client.withSession ((client.session.withEvents []).digestAll messages),
              host
            )) := by
  have drained := Session.withEvents_of_none
    (client.session.digestAll_events messages)
  have arrived := Session.handleMessages_of_room room
  rw [take, arrived, processEvents_eq, ← List.foldl_append]
  exact congrArg (fun session => List.foldl turn (client.withSession session, host) _) drained

/-- The waiting events may be handled before messages that do not depend on it. -/
theorem take_processEvents {client : Client} {host : σ} {messages : List Value}
    (retains : client.session.RetainsCompletions)
    (undisturbed
      : EventsUndisturbed messages (client.withSession (client.session.withEvents []), host)
          client.session.events)
    (room : client.session.HasRoom messages)
    : let state := client.processEvents host
      client.take host messages = state.1.take state.2 messages
      ∧ state.1.session.HasRoom messages := by
  intro state
  have apart := client.session.queuedByAll_withEvents [] messages
  obtain ⟨same, length⟩ :=
    foldl_turn_digestAll (client.withSession (client.session.withEvents [])) retains undisturbed
      (.refl false _) nofun
  have settled : state.1.session.events = [] := client.processEvents_events host
  have room' : state.1.session.HasRoom messages := by
    unfold Session.HasRoom at *
    rw [settled, client.processEvents_options host]
    refine length.trans (Nat.le_trans (Nat.le_of_eq (congrArg List.length apart)) ?_)
    rw [List.length_append] at room
    omega
  have later := take_of_room room' state.2
  rw [settled, Session.withEvents_of_none settled] at later
  refine ⟨?_, room'⟩
  rw [later, take_of_room room, ← apart]
  exact same

-----------------------------------------------------------------------------------------
-- Chunks
-----------------------------------------------------------------------------------------

theorem turn_framed (state : Client × σ) (framer : Framer) (event : SessionEvent)
    : turn (framed state framer) event = framed (turn state event) framer := by
  rw [framed, turn_withSession, Session.performAll_withFramer, framed, turn_session]

/-- What a client does does not depend on the bytes left over. -/
theorem foldl_turn_framed (state : Client × σ) (framer : Framer) (events : List SessionEvent)
    : events.foldl turn (framed state framer) = framed (events.foldl turn state) framer :=
  List.foldl_hom (framed · framer) fun state event => turn_framed state framer event

theorem take_framed (state : Client × σ) (framer : Framer) (messages : List Value)
    : (framed state framer).1.take (framed state framer).2 messages
      = framed (state.1.take state.2 messages) framer := by
  have handled := state.1.session.handleMessages_withFramer framer messages
  have later := foldl_turn_framed
    (
      state.1.withSession ((state.1.session.handleMessages messages).withEvents []),
      state.2
    ) framer (state.1.session.handleMessages messages).events
  refine Eq.trans ?_ later
  exact congrArg (fun session => (state.1.withSession session).processEvents state.2) handled

/-- Receive chunks in their order. -/
def receiveAll (client : Client) (host : σ) (chunks : List (List UInt8)) : Client × σ :=
  chunks.foldl (fun state chunk => state.1.receive state.2 chunk) (client, host)

/-- A client with what a chunk completes, before it reacts. -/
def arrived (client : Client) (chunk : List UInt8) : Client :=
  client.withSession (client.session.receive chunk)

theorem receiveAll_cons (client : Client) (host : σ) (chunk : List UInt8)
    (rest : List (List UInt8))
    : client.receiveAll host (chunk :: rest)
      = ((client.arrived chunk).processEvents host).1.receiveAll
          ((client.arrived chunk).processEvents host).2 rest :=
  rfl

/-- At every cut, the messages behind it do not depend on what the client does to its session
about the events before it.
-/
def Undisturbed (client : Client) (host : σ) : List (List UInt8) → Prop
  | [] => True
  | chunk :: rest =>
    let arrived := client.arrived chunk
    EventsUndisturbed (arrived.session.framer.feedAll rest).1
        (arrived.withSession (arrived.session.withEvents []), host) arrived.session.events
      ∧ (client.receive host chunk).1.Undisturbed (client.receive host chunk).2 rest

theorem arrived_framer (client : Client) (chunk : List UInt8)
    : (client.arrived chunk).session.framer = (client.session.framer.feed chunk).2 := by
  rw [arrived, Session.receive_eq]
  rfl

theorem receive_framer (client : Client) (host : σ) (chunk : List UInt8)
    : (client.receive host chunk).1.session.framer = (client.session.framer.feed chunk).2 :=
  ((client.arrived chunk).processEvents_framer host).trans (client.arrived_framer chunk)

theorem receive_take (client : Client) (host : σ) (chunk : List UInt8) (messages : List Value)
    : (client.arrived chunk).take host messages
      = framed (client.take host ((client.session.framer.feed chunk).1 ++ messages))
          (client.session.framer.feed chunk).2 := by
  have handled
      : client.session.handleMessages ((client.session.framer.feed chunk).1 ++ messages)
        = (client.session.handleMessages (client.session.framer.feed chunk).1).handleMessages
            messages :=
    List.foldl_append
  have later := take_framed
    (
      client.withSession (client.session.handleMessages (client.session.framer.feed chunk).1),
      host
    )
    (client.session.framer.feed chunk).2 messages
  rw [arrived, Session.receive_eq]
  refine later.trans ?_
  rw [take, take, handled]
  rfl

/-- Room for all events is room for those that wait already and the later ones. -/
theorem arrived_room {client : Client} {chunk : List UInt8} {messages : List Value}
    (room : client.session.HasRoom ((client.session.framer.feed chunk).1 ++ messages))
    : (client.arrived chunk).session.HasRoom messages := by
  have events := congrArg (·.events) (Session.handleMessages_of_room room.front)
  have options := client.session.handleMessages_options (client.session.framer.feed chunk).1
  unfold Session.HasRoom at *
  rw [Session.queuedByAll_append, ← List.append_assoc] at room
  unfold arrived
  rw [Session.receive_eq]
  change (Session.events (Session.handleMessages _ _)
    ++ Session.queuedByAll (Session.withFramer _ _) _).length ≤ _
  rw [Session.queuedByAll_withFramer]
  dsimp only [withSession, Session.withFramer]
  rw [options, events]
  exact room

/-- Chunks lead to what all their messages lead to, by induction on the chunks. -/
theorem receiveAll_take {client : Client} {host : σ} {chunk : List UInt8}
    {rest : List (List UInt8)} (retains : client.session.RetainsCompletions)
    (undisturbed : client.Undisturbed host (chunk :: rest))
    (room : client.session.HasRoom (client.session.framer.feedAll (chunk :: rest)).1)
    : client.receiveAll host (chunk :: rest)
      = framed (client.take host (client.session.framer.feedAll (chunk :: rest)).1)
          (client.session.framer.feedAll (chunk :: rest)).2 := by
  induction rest generalizing client host chunk with
  | nil => exact client.receive_take host chunk []
  | cons next rest ih =>
      generalize more
        : ((client.session.framer.feed chunk).2.feedAll (next :: rest)).1 = messages
      have split
          : (client.session.framer.feedAll (chunk :: next :: rest)).1
            = (client.session.framer.feed chunk).1 ++ messages := by
        rw [← more]
        rfl
      have last
          : (client.session.framer.feedAll (chunk :: next :: rest)).2
            = ((client.session.framer.feed chunk).2.feedAll (next :: rest)).2 :=
        rfl
      have apart := undisturbed.1
      have later
          : ((client.arrived chunk).processEvents host).1.Undisturbed
              ((client.arrived chunk).processEvents host).2 (next :: rest) :=
        undisturbed.2
      rw [client.arrived_framer, more] at apart
      rw [split] at room
      have retains' : (client.arrived chunk).session.RetainsCompletions := retains.receive chunk
      obtain ⟨same, room'⟩ := take_processEvents retains' apart (arrived_room room)
      have kept := processEvents_retains retains' host
      have framer
          : ((client.arrived chunk).processEvents host).1.session.framer
            = (client.session.framer.feed chunk).2 :=
        client.receive_framer host chunk
      have onward := ih kept later (by rw [framer, more]; exact room')
      rw [framer, more, ← same, client.receive_take, framed_framed] at onward
      rw [receiveAll_cons, split, last]
      exact onward

/-- If there is room for all events, and if at no cut a later message depends on what the client
does to its session, then the cuts make no difference: the chunks lead to the same client, with
its session and everything that has been written, and to the same editor as the stream in one
chunk does. The session may have any past, and events may wait in it.
-/
theorem receiveAll_eq_receive (options : SessionOptions) (occurrences : List Occurrence)
    (client : Client) (host : σ)
    (course : client.session = (Course.after { options } occurrences).session)
    (chunks : List (List UInt8)) (cut : chunks ≠ [])
    (undisturbed : client.Undisturbed host chunks)
    (room : client.session.HasRoom (client.session.framer.feedAll chunks).1)
    : client.receiveAll host chunks = client.receive host chunks.flatten := by
  have retains : client.session.RetainsCompletions := by
    rw [course]
    exact Session.retainsCompletions_of_course options occurrences
  have whole : client.receive host chunks.flatten
      = framed (client.take host (client.session.framer.feed chunks.flatten).1)
          (client.session.framer.feed chunks.flatten).2 := by
    have one := client.receive_take host chunks.flatten []
    rw [List.append_nil] at one
    exact one
  rw [whole, ← Framer.feedAll_eq_feed (Or.inr cut)]
  cases chunks with
  | nil => exact absurd rfl cut
  | cons chunk rest => exact receiveAll_take retains undisturbed room

-----------------------------------------------------------------------------------------
-- One cut
-----------------------------------------------------------------------------------------

/-- Notices may arrive at any time, by induction on the events. -/
theorem eventsUndisturbed_of_notices {messages : List Value}
    (notices : messages.all Session.isNotice = true) (state : Client × σ)
    (events : List SessionEvent)
    : EventsUndisturbed messages state events := by
  induction events generalizing state with
  | nil => exact trivial
  | cons event rest ih => exact ⟨state.1.session.undisturbed_of_notices notices _, ih _⟩

/-- Where only notices follow a first chunk the cuts are of no account, by induction on the
chunks.
-/
theorem undisturbed_of_notices {client : Client} {host : σ} {chunk : List UInt8}
    {rest : List (List UInt8)}
    (notices
      : ((client.session.framer.feed chunk).2.feedAll rest).1.all Session.isNotice = true)
    : client.Undisturbed host (chunk :: rest) := by
  induction rest generalizing client host chunk with
  | nil => exact ⟨eventsUndisturbed_of_notices rfl _ _, trivial⟩
  | cons next rest ih =>
      refine ⟨?_, ih ?_⟩
      · refine eventsUndisturbed_of_notices ?_ _ _
        rw [client.arrived_framer]
        exact notices
      · rw [client.receive_framer]
        rw [Framer.feedAll, List.all_append, Bool.and_eq_true] at notices
        exact notices.2

/-- An editor with another document that can be opened. -/
def pairEditor : RecordedEditor :=
  { wordEditor with documents := [("/b", "x")] }

/-- A server is ready, and then it is asked for something. -/
def askedOf (actions : List SessionAction) : List Occurrence :=
  [
    .start {},
    .call (.act (.requestHandshake (.ofPath {} "/"))),
    .call (.act (.openDocument "file:///a" "rust" "fo\nbar\nbaz")),
    .message (resultMessage (.ofNat 0) (.ofFields [])),
    .call (.act .drainEvents)
  ]
    ++ actions.map fun action => .call (.act action)

/-- A client with a menu for the first word. -/
def completing (actions : List SessionAction) : Client where
  session := (Course.after {} (askedOf actions)).session
  menu := ({} : CompletionMenu).setTyped "fo"
  anchor := some { line := 0, column := 0 }

/-- There is nothing to suggest. -/
def noCandidates : Value :=
  resultMessage (.ofNat 1) (.array [])

/-- The server has something to show. -/
def noticeMessage (text : String) : Value :=
  notificationMessage "window/showMessage" (.ofFields [("message", .text text)])

/-- No candidates and a notice that is cut inside its header: when the client gives up what is
awaited, half of the notice is there.
-/
theorem receiveAll_eq_receive_of_no_candidates
    : let client := completing [.requestCompletion default]
      let stream := Frame.ofMessage noCandidates ++ Frame.ofMessage (noticeMessage "hello")
      let cut := (Frame.ofMessage noCandidates).length + 9
      let chunks := [stream.take cut, stream.drop cut]
      chunks.flatten = stream
      ∧ client.receiveAll pairEditor chunks = client.receive pairEditor stream
      ∧ client.session.pending.isSome = true
      ∧ (client.receive pairEditor (stream.take cut)).1.session.pending = none
      ∧ (client.receive pairEditor stream).2.calls
        = [.hideOverlay, .showStatus "no completions", .showStatus "hello"] := by
  intro client stream cut chunks
  have joined : chunks.flatten = stream := by
    dsimp only [chunks]
    rw [List.flatten_cons, List.flatten_cons, List.flatten_nil, List.append_nil,
      List.take_append_drop]
  have undisturbed : client.Undisturbed pairEditor chunks :=
    undisturbed_of_notices (by decide +kernel)
  have course
      : client.session = (Course.after {} (askedOf [.requestCompletion default])).session := by
    dsimp only [client, completing]
  have same := receiveAll_eq_receive {} _ client pairEditor course chunks nofun undisturbed
    (by decide +kernel)
  rw [joined] at same
  exact ⟨joined, same, by decide +kernel⟩

/-- A client that asks where a symbol is defined. -/
def seeking : Client where
  session := (Course.after {} (askedOf [.requestDefinition default])).session

/-- The symbol is defined in the other document. -/
def elsewhere : Value :=
  resultMessage (.ofNat 1)
    (.ofFields [("uri", .text "file:///b"), ("range", Range.toValue default)])

/-- The methods of what has been sent. An answer has none. -/
def sentMethods (client : Client) : List (Option String) :=
  client.session.written.map (·.getText? "method")

/-- Two messages that arrive together. -/
def takeBoth (client : Client) (first second : Value) : Client × RecordedEditor :=
  client.take pairEditor [first, second]

/-- Two messages that arrive one after the other. -/
def takeEach (client : Client) (first second : Value) : Client × RecordedEditor :=
  let state := client.take pairEditor [first]
  state.1.take state.2 [second]

/-- A cut makes a difference where completions are given up before they are refused. So it does
where a document is opened before diagnostics for it arrive or before a request of the server is
answered, where completions are asked for again before they are answered, and where there is no
room for two events at once.
-/
theorem receive_depends_on_cuts
    : let typing := completing [.requestCompletion default, .requestCompletion default]
      let refusal
        := Value.ofFields
          [
            ("jsonrpc", .text "2.0"),
            ("id", .ofNat 2),
            ("error", .ofFields [("code", .ofNat 1), ("message", .text "no")])
          ]
      let chunks := [Frame.ofMessage noCandidates, Frame.ofMessage refusal]
      let published
        := notificationMessage "textDocument/publishDiagnostics"
          (.ofFields
            [
              ("uri", .text "file:///b"),
              (
                "diagnostics",
                .array [.ofFields [("range", Range.toValue default), ("message", .text "x")]]
              )
            ])
      let request := requestMessage 7 (.other "workspace/configuration") .null
      let formatting := completing [.requestFormatting 4 true]
      let edits
        := resultMessage (.ofNat 1)
          (.array [.ofFields [("range", Range.toValue default), ("newText", .text "")]])
      let candidates := resultMessage (.ofNat 2) (.array [.ofFields [("label", .text "foo")]])
      let narrow := Client.new { eventCapacity := 1 } {}
      ((typing.receive pairEditor chunks.flatten).2.calls
          = [.hideOverlay, .showStatus "no completions", .showStatus "server error 1: no"]
        ∧ (typing.receiveAll pairEditor chunks).2.calls
          = [.hideOverlay, .showStatus "no completions"])
      ∧ ((seeking.takeBoth elsewhere published).1.session.diagnostics.length = 0
        ∧ (seeking.takeEach elsewhere published).1.session.diagnostics.length = 1)
      ∧ ((seeking.takeBoth elsewhere request).1.sentMethods.drop 4
          = [none, some "textDocument/didOpen"]
        ∧ (seeking.takeEach elsewhere request).1.sentMethods.drop 4
          = [some "textDocument/didOpen", none])
      ∧ ((formatting.takeBoth edits candidates).1.menu.isOpen = false
        ∧ (formatting.takeEach edits candidates).1.menu.isOpen = true)
      ∧ (narrow.takeBoth (noticeMessage "one") (noticeMessage "two")).2.calls
          = [.showStatus "two"]
      ∧ (narrow.takeEach (noticeMessage "one") (noticeMessage "two")).2.calls
          = [.showStatus "one", .showStatus "two"] := by
  intro typing refusal chunks published request formatting edits candidates narrow
  decide +kernel

end Client

end LanguageClient
