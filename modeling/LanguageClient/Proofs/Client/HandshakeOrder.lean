import LanguageClient.Proofs.Client.Conduct
import LanguageClient.Proofs.Client.FormattedText
import LanguageClient.Proofs.Session.Greeting

/-! A client keeps to the order of the handshake whatever its user does meanwhile: the greeting
goes out first, then nothing until the server has answered it, and then, before anything else,
the documents.
-/

namespace LanguageClient

open Json (Value)
open Session (requestMessage)

variable {σ : Type} [Host σ]

/-- The message that greets a server for a client. -/
def Client.helloMessage (client : Client) (host : σ) (root : String) : Value :=
  let workspace := Workspace.ofPath (Host.files (client.closeCompletion host).2) root
  requestMessage 0 .handshake
    (Session.handshakeParams client.session.options.processId workspace)

/-- Whether an action starts no other server, and leaves the session to the client. -/
def ClientAction.isSubsequent : ClientAction σ → Bool
  | start _ _ | restart _ _ | useSession _ => false
  | _ => true

-----------------------------------------------------------------------------------------
-- Runs since a start
-----------------------------------------------------------------------------------------

/-- A client and its editor after the start of a server and some actions. -/
structure Introduction (σ : Type) where
  state : Client × σ
  /-- The texts that documents have been given since. -/
  given : GivenTexts
  /-- The messages that have arrived since. -/
  heard : List Value := []

namespace Introduction

/-- A server is started, and the editor's document is opened. -/
def started (client : Client) (host : σ) (transport : Transport) (root : String)
    : Introduction σ :=
  let state := (client.start host transport root).2
  { state, given := ((Client.openDeeds state.2).map Deed.action).foldl GivenTexts.note {} }

/-- The session with the texts that it has been given. -/
def documents (run : Introduction σ) : DocumentRun where
  session := run.state.1.session
  given := run.given

/-- The messages that an action brings from the server. -/
def arrivals (run : Introduction σ) (action : ClientAction σ) : List Value :=
  match action.chunk? with
  | none => []
  | some chunk =>
    if run.state.1.session.isRunning then (run.state.1.session.framer.feed chunk).1 else []

/-- One action more. -/
def step (run : Introduction σ) (action : ClientAction σ) : Introduction σ where
  state := action.run run.state
  given := ((action.conduct run.state).foldl DocumentRun.step run.documents).given
  heard := run.heard ++ run.arrivals action

/-- The first response to the greeting that has arrived. -/
def response? (run : Introduction σ) : Option Response :=
  run.heard.findSome? (responseTo? 0)

variable {run : Introduction σ} {action : ClientAction σ}

theorem step_documents (routine : action.isRoutine = true)
    : (run.step action).documents
      = (action.conduct run.state).foldl DocumentRun.step run.documents := by
  have session := ClientAction.run_session routine run.state
  have folded := DocumentRun.foldl_step_session run.documents (action.conduct run.state)
  unfold documents step at *
  dsimp only at *
  rw [session, ← folded]
  rfl

/-- Nothing arrives without bytes, or without a server. -/
theorem step_response? (nothing : run.arrivals action = [])
    : (run.step action).response? = run.response? := by
  rw [response?, step, nothing, List.append_nil]
  rfl

omit [Host σ] in
theorem arrivals_of_silent (silent : action.chunk? = none) : run.arrivals action = [] := by
  rw [arrivals, silent]

omit [Host σ] in
theorem arrivals_of_stopped (stopped : run.state.1.session.isRunning = false)
    (action : ClientAction σ)
    : run.arrivals action = [] := by
  unfold arrivals
  split
  · rfl
  · rw [stopped, if_neg Bool.false_ne_true]

end Introduction

-----------------------------------------------------------------------------------------
-- Actions
-----------------------------------------------------------------------------------------

theorem Client.stop_session (client : Client) (host : σ)
    : (client.stop host).1.session = client.session.reset := by
  have released : client.session.releasePending.reset = client.session.reset := by
    unfold Session.releasePending
    split <;> rfl
  exact (congrArg Session.reset (client.closeCompletion_session host)).trans released

/-- An action that is not routine ends the connection. -/
theorem ClientAction.isRoutine_or_reset {action : ClientAction σ}
    (subsequent : action.isSubsequent = true) (state : Client × σ)
    : action.isRoutine = true
      ∨ (action.chunk? = none ∧ (action.run state).1.session = state.1.session.reset) := by
  cases action with
  | start _ _ | restart _ _ | useSession _ => cases subsequent
  | stop => exact Or.inr ⟨rfl, state.1.stop_session state.2⟩
  | handleServerEvent event =>
      cases event with
      | output _ | errorLine _ => exact Or.inl rfl
      | exited status => exact Or.inr ⟨rfl, state.1.stop_session state.2⟩
  | _ => exact Or.inl rfl

omit [Host σ] in
theorem ClientAction.isSubsequent_of_routine {action : ClientAction σ}
    (routine : action.isRoutine = true)
    : action.isSubsequent = true := by
  cases action with
  | start _ _ | restart _ _ | useSession _ => cases routine
  | _ => rfl

omit [Host σ] in
theorem ClientAction.isRoutine_of_chunk {action : ClientAction σ} {chunk : List UInt8}
    (arrives : action.chunk? = some chunk)
    : action.isRoutine = true := by
  unfold chunk? at arrives
  split at arrives
  · rfl
  · rfl
  · cases arrives

theorem Session.actAll_written (session : Session) (actions : List SessionAction)
    : session.written <+: (session.actAll actions).written :=
  List.foldlRecOn actions _ (motive := fun state : Session => session.written <+: state.written)
    List.prefix_rfl fun state earlier action _ => earlier.trans (state.run_written action)

/-- No action takes back what has gone out. -/
theorem ClientAction.run_written {action : ClientAction σ}
    (subsequent : action.isSubsequent = true) (state : Client × σ)
    : state.1.session.written <+: (action.run state).1.session.written := by
  rcases action.isRoutine_or_reset subsequent state with routine | ⟨_, reset⟩
  · rw [ClientAction.run_session routine]
    exact state.1.session.actAll_written _
  · rw [reset]
    exact List.prefix_rfl

/-- Nothing goes out, and nothing is awaited, once the connection has ended. -/
theorem Hushed.run {earlier : List Value} {hello : Value} {state : Client × σ}
    (hushed : Hushed earlier hello state.1.session) {action : ClientAction σ}
    (subsequent : action.isSubsequent = true)
    : Hushed earlier hello (action.run state).1.session := by
  rcases action.isRoutine_or_reset subsequent state with routine | ⟨_, reset⟩
  · rw [ClientAction.run_session routine]
    cases arrives : action.chunk? with
    | none => exact hushed.acts (ClientAction.conduct_isInternal arrives state)
    | some chunk =>
        rw [ClientAction.conduct_of_chunk arrives]
        exact (hushed.receive chunk).acts (Client.processConduct_isInternal _ _)
  · rw [reset]
    exact ⟨rfl, rfl, hushed.2.2⟩

-----------------------------------------------------------------------------------------
-- Phases of a run
-----------------------------------------------------------------------------------------

namespace Introduction

section Phases

variable (earlier : List Value) (hello : Value)

/-- The greeting is all that has gone out. While the server is attached, the slot is known. -/
def Alone (slot : Option PendingRequest) (run : Introduction σ) : Prop :=
  Greeted earlier hello slot run.documents ∨ Hushed earlier hello run.state.1.session

/-- A response that can be read has arrived along a run, and in the same call the server has been
told about all documents.
-/
def AnsweredAmong (start : Introduction σ) (response : Response)
    (actions : List (ClientAction σ))
    : Prop :=
  ∃ before action later,
    actions = before ++ action :: later
    ∧ (before.foldl step start).response? = none
    ∧ ((before ++ [action]).foldl step start).response? = some response
    ∧ Introduced earlier hello (before.foldl step start).given
        ((before ++ [action]).foldl step start).state.1.session
    ∧ ((before ++ [action]).foldl step start).state.1.session.written
      <+: (actions.foldl step start).state.1.session.written

/-- How far the handshake has come along a run. -/
inductive Phase (start : Introduction σ) (actions : List (ClientAction σ)) : Prop where
  | waiting (unanswered : (actions.foldl step start).response? = none)
    (alone : Alone earlier hello (some Session.greetingSlot) (actions.foldl step start))
  | refused {response : Response}
    (answered : (actions.foldl step start).response? = some response)
    (unreadable : response.serverInfo? = none)
    (alone : Alone earlier hello none (actions.foldl step start))
  | ready {response : Response}
    (answered : (actions.foldl step start).response? = some response)
    (readable : response.serverInfo?.isSome = true)
    (among : AnsweredAmong earlier hello start response actions)

end Phases

variable {earlier : List Value} {hello : Value} {slot : Option PendingRequest}
  {run : Introduction σ} {action : ClientAction σ}

/-- An action that brings nothing from the server leaves the greeting alone. -/
theorem Alone.silent (alone : Alone earlier hello slot run)
    (unretained : slot.any (·.retain) = false) (subsequent : action.isSubsequent = true)
    (silent : action.chunk? = none)
    : Alone earlier hello slot (run.step action) := by
  rcases alone with greeted | hushed
  · rcases action.isRoutine_or_reset subsequent run.state with routine | ⟨_, reset⟩
    · left
      rw [step_documents routine]
      exact greeted.steps unretained (ClientAction.conduct_isInternal silent run.state)
    · right
      unfold step
      dsimp only
      rw [reset]
      exact ⟨rfl, rfl, greeted.alone⟩
  · exact Or.inr (hushed.run subsequent)

omit [Host σ] in
/-- The session after a chunk, before anything is done about its events. -/
theorem documents_receive (run : Introduction σ) (chunk : List UInt8)
    : run.documents.step (.receive chunk)
      = { run.documents with session := run.state.1.session.receive chunk } := by
  simp only [DocumentRun.step, GivenTexts.note, ite_self]
  rfl

/-- A response that has arrived stays the first one. -/
theorem step_response?_of_some {response : Response} (answered : run.response? = some response)
    (action : ClientAction σ)
    : (run.step action).response? = some response := by
  unfold response? at answered ⊢
  rw [step, List.findSome?_append, answered]
  rfl

/-- The response that bytes bring is the first one, when there was none before. -/
theorem step_response?_of_none (unanswered : run.response? = none)
    (running : run.state.1.session.isRunning = true) {chunk : List UInt8}
    (arrives : action.chunk? = some chunk)
    : (run.step action).response?
      = (run.state.1.session.framer.feed chunk).1.findSome? (responseTo? 0) := by
  unfold response? at unanswered ⊢
  rw [step, List.findSome?_append, unanswered, arrivals, arrives]
  simp only [running, if_true, Option.none_or]

/-- Bytes that arrive before the answer bring it, or leave the greeting alone. -/
theorem Alone.receive (alone : Alone earlier hello (some Session.greetingSlot) run)
    (unanswered : run.response? = none) (routine : action.isRoutine = true)
    {chunk : List UInt8} (arrives : action.chunk? = some chunk)
    : let after := run.step action
      (after.response? = none ∧ Alone earlier hello (some Session.greetingSlot) after)
      ∨ ∃ response,
          after.response? = some response
          ∧ ((response.serverInfo? = none ∧ Alone earlier hello none after)
            ∨ (response.serverInfo?.isSome = true
              ∧ Introduced earlier hello run.given after.state.1.session)) := by
  have reacts := Client.processConduct_isInternal
    (run.state.1.withSession (run.state.1.session.receive chunk)) run.state.2
  have documents
      : (run.step action).documents
        = (action.conduct run.state).foldl DocumentRun.step run.documents :=
    step_documents routine
  rw [ClientAction.conduct_of_chunk arrives, List.foldl_cons, documents_receive] at documents
  rcases alone with greeted | hushed
  · have framed := greeted.withFramer (run.state.1.session.framer.feed chunk).2
    have response := step_response?_of_none unanswered greeted.running arrives
    dsimp only
    rw [response]
    rcases framed.hear (run.state.1.session.framer.feed chunk).1 with
      ⟨nothing, waiting⟩ | ⟨response, answered, ⟨unreadable, refused⟩ | ⟨readable, introduced⟩⟩
    · refine Or.inl ⟨nothing, Or.inl ?_⟩
      rw [documents]
      exact waiting.steps rfl reacts
    · refine Or.inr ⟨response, answered, Or.inl ⟨unreadable, Or.inl ?_⟩⟩
      rw [documents]
      exact refused.steps rfl reacts
    · refine Or.inr ⟨response, answered, Or.inr ⟨readable, introduced.later ?_⟩⟩
      change _ <+: (run.step action).documents.session.written
      rw [documents, DocumentRun.foldl_step_session]
      exact Session.actAll_written _ _
  · left
    refine ⟨?_, Or.inr ?_⟩
    · exact (step_response? (arrivals_of_stopped hushed.1 action)).trans unanswered
    · exact hushed.run (action.isSubsequent_of_routine routine)

/-- After an answer that cannot be read, bytes bring nothing that counts. -/
theorem Alone.deaf (alone : Alone earlier hello none run) (routine : action.isRoutine = true)
    {chunk : List UInt8} (arrives : action.chunk? = some chunk)
    : Alone earlier hello none (run.step action) := by
  rcases alone with greeted | hushed
  · left
    rw [step_documents routine, ClientAction.conduct_of_chunk arrives, List.foldl_cons,
      documents_receive]
    have framed := greeted.withFramer (run.state.1.session.framer.feed chunk).2
    exact (framed.deaf (run.state.1.session.framer.feed chunk).1).steps rfl
      (Client.processConduct_isInternal _ _)
  · exact Or.inr (hushed.run (action.isSubsequent_of_routine routine))

/-- One action more. -/
theorem Phase.step {start : Introduction σ} {actions : List (ClientAction σ)}
    (phase : Phase earlier hello start actions) (subsequent : action.isSubsequent = true)
    : Phase earlier hello start (actions ++ [action]) := by
  have next
      : (actions ++ [action]).foldl Introduction.step start
        = (actions.foldl Introduction.step start).step action :=
    List.foldl_concat ..
  cases phase with
  | waiting unanswered alone =>
      cases arrives : action.chunk? with
      | none =>
          refine .waiting ?_ ?_
          · rw [next, step_response? (arrivals_of_silent arrives), unanswered]
          · rw [next]
            exact alone.silent rfl subsequent arrives
      | some chunk =>
          have routine := action.isRoutine_of_chunk arrives
          rcases alone.receive unanswered routine arrives with
            ⟨nothing, waiting⟩ |
              ⟨response, answered, ⟨unreadable, refused⟩ | ⟨readable, introduced⟩⟩
          · exact .waiting (next ▸ nothing) (next ▸ waiting)
          · exact .refused (next ▸ answered) unreadable (next ▸ refused)
          · refine .ready (next ▸ answered) readable
              ⟨actions, action, [], rfl, unanswered, next ▸ answered, next ▸ introduced, ?_⟩
            exact List.prefix_rfl
  | refused answered unreadable alone =>
      refine .refused (next ▸ step_response?_of_some answered action) unreadable ?_
      rw [next]
      cases arrives : action.chunk? with
      | none => exact alone.silent rfl subsequent arrives
      | some chunk => exact alone.deaf (action.isRoutine_of_chunk arrives) arrives
  | ready answered readable among =>
      refine .ready (next ▸ step_response?_of_some answered action) readable ?_
      obtain ⟨before, answering, later, rfl, unanswered, first, introduced, written⟩ := among
      refine ⟨before, answering, later ++ [action], ?_, unanswered, first, introduced, ?_⟩
      · rw [List.append_assoc, List.cons_append]
      · rw [next]
        exact written.trans (ClientAction.run_written subsequent _)

/-- Every run, by induction on its actions. -/
theorem phase_of_start {start : Introduction σ}
    (greeted : Greeted earlier hello (some Session.greetingSlot) start.documents)
    (unanswered : start.response? = none) {actions : List (ClientAction σ)}
    (subsequent : ∀ action ∈ actions, action.isSubsequent = true)
    : Phase earlier hello start actions := by
  suffices from_run
      : ∀ past,
          Phase earlier hello start past → Phase earlier hello start (past ++ actions) from
    from_run [] (.waiting unanswered (Or.inl greeted))
  induction actions with
  | nil => exact fun past phase => (List.append_nil past).symm ▸ phase
  | cons action rest ih =>
      obtain ⟨first, others⟩ := List.forall_mem_cons.mp subsequent
      intro past phase
      rw [List.append_cons]
      exact ih others (past ++ [action]) (phase.step first)

end Introduction

-----------------------------------------------------------------------------------------
-- The order of the handshake
-----------------------------------------------------------------------------------------

/-- A session that has greeted its server. -/
theorem Session.greeted_requestHandshake (session : Session) (failure : String)
    (workspace : Workspace)
    : let asked := (session.start { failure }).requestHandshake workspace
      asked.1 = .ok { id := 0, method := .handshake }
      ∧ Greeted session.written
          (requestMessage 0 .handshake (handshakeParams session.options.processId workspace))
          (some greetingSlot) { session := asked.2 } := by
  have tracked : Tracked session.written {} (session.start { failure }) :=
    ⟨[], {}, (List.append_nil _).symm, rfl, Synced.start session { failure }⟩
  have tracked' := tracked.requestHandshake workspace
  refine ⟨rfl, ⟨failure, rfl⟩, rfl, rfl, ⟨_, tracked'⟩, _, rfl, ?_⟩
  exact List.filter_cons_of_pos (isOriginated_requestMessage _ _ _)

namespace Introduction

/-- A start greets the server, and the editor's document is held back. -/
theorem greeted_started (client : Client) (host : σ) (failure root : String)
    : Greeted client.session.written (client.helloMessage host root)
        (some Session.greetingSlot) (started client host { failure } root).documents := by
  have closing := client.closeCompletion_session host
  unfold started Client.start Client.helloMessage
  generalize client.closeCompletion host = closed at closing ⊢
  obtain ⟨closed, hidden⟩ := closed
  dsimp only at closing ⊢
  have written : closed.session.written = client.session.written := by
    rw [closing]
    unfold Session.releasePending
    split <;> rfl
  have options : closed.session.options = client.session.options := by
    rw [closing]
    exact client.session.releasePending_quiet.options
  obtain ⟨went, greeted⟩ := closed.session.greeted_requestHandshake failure
    (Workspace.ofPath (Host.files hidden) root)
  rw [written, options] at greeted
  rw [went]
  dsimp only
  unfold Client.openActiveDocument Client.openDeeds
  cases Host.documentPath hidden with
  | none => exact greeted
  | some path =>
      have internal
          : (SessionAction.openDocument (Uri.ofPath (Host.files hidden) path)
              (Host.language hidden) (Host.documentText hidden)).isInternal = true :=
        rfl
      have opened := greeted.step rfl internal
      unfold DocumentRun.step at opened
      rw [greeted.running, if_pos rfl] at opened
      exact opened

end Introduction

/-- The handshake comes first, whatever the user does and whatever arrives after the start of a
server that messages reach. Until it answers the greeting nothing but the greeting goes out, and
the slot waits for the answer. If the answer cannot be read, that is all for good. Else the
server is told in the same call that the client is ready, and then of each document with its
first version and its latest text; anything else comes later.
-/
theorem Client.greeting_goes_first (client : Client) (host : σ) {transport : Transport}
    (endless : transport.remaining = none) (root : String) {actions : List (ClientAction σ)}
    (subsequent : ∀ action ∈ actions, action.isSubsequent = true)
    : let earlier := client.session.written
      let hello := client.helloMessage host root
      let start := Introduction.started client host transport root
      let run := actions.foldl Introduction.step start
      (run.response? = none
        → SaidOnly earlier hello run.state.1.session
          ∧ (run.state.1.session.isRunning = true
            → run.state.1.session.pending = some Session.greetingSlot))
      ∧ ∀ response,
          run.response? = some response
          → (response.serverInfo? = none
              → SaidOnly earlier hello run.state.1.session
                ∧ run.state.1.session.pending = none)
            ∧ (response.serverInfo?.isSome = true
              → ∃ before action later,
                  actions = before ++ action :: later
                  ∧ (before.foldl Introduction.step start).response? = none
                  ∧ let answered := (before ++ [action]).foldl Introduction.step start
                    let given := (before.foldl Introduction.step start).given
                    answered.response? = some response
                    ∧ Introduced earlier hello given answered.state.1.session
                    ∧ Introduced earlier hello given run.state.1.session) := by
  intro earlier hello start run
  obtain ⟨remaining, failure⟩ := transport
  obtain rfl : remaining = none := endless
  have greeted := Introduction.greeted_started client host failure root
  have phase := Introduction.phase_of_start greeted rfl subsequent
  cases phase with
  | waiting unanswered alone =>
      have none : run.response? = none := unanswered
      refine ⟨fun _ => ?_, fun response answered => absurd (none.symm.trans answered) nofun⟩
      rcases alone with greeted | hushed
      · exact ⟨greeted.alone, fun _ => greeted.slot⟩
      · refine ⟨hushed.2.2, fun running => ?_⟩
        exact absurd (running.symm.trans hushed.1) (by decide)
  | refused answered unreadable alone =>
      have found : run.response? = some _ := answered
      refine ⟨fun none => absurd (found.symm.trans none) nofun, fun response same => ?_⟩
      obtain rfl := Option.some.inj (found.symm.trans same)
      refine ⟨fun _ => ?_, fun readable => ?_⟩
      · rcases alone with greeted | hushed
        · exact ⟨greeted.alone, greeted.slot⟩
        · exact ⟨hushed.2.2, hushed.2.1⟩
      · rw [unreadable] at readable
        cases readable
  | ready answered readable among =>
      have found : run.response? = some _ := answered
      refine ⟨fun none => absurd (found.symm.trans none) nofun, fun response same => ?_⟩
      obtain rfl := Option.some.inj (found.symm.trans same)
      refine ⟨fun unreadable => ?_, fun _ => ?_⟩
      · rw [unreadable] at readable
        cases readable
      · obtain ⟨before, action, later, split, unanswered, first, introduced, written⟩ := among
        exact ⟨before, action, later, split, unanswered, first, introduced,
          introduced.later written⟩

/-- A line is inserted before the server answers. -/
def hastyActions : List (ClientAction RecordedEditor) :=
  [insertion, arrival 0 (.ofFields [])]

/-- The document goes out with the line that has been inserted. -/
theorem Client.greeting_goes_before_document
    : ({} : Transport).remaining = none
      ∧ (∀ action ∈ hastyActions, action.isSubsequent = true)
      ∧ let run :=
          hastyActions.foldl Introduction.step
            (Introduction.started idleState.1 wordEditor {} "/")
        run.response?.any (fun response => response.serverInfo?.isSome) = true
        ∧ lastTold? "file:///a" run.state.1.session.written = some "x\nfo\nbar\nbaz"
        ∧ ∃ given,
            Introduced idleState.1.session.written (idleState.1.helloMessage wordEditor "/") given
              run.state.1.session := by
  have subsequent : ∀ action ∈ hastyActions, action.isSubsequent = true := by
    simp [hastyActions, insertion, arrival, ClientAction.isSubsequent]
  have readable
      : (hastyActions.foldl Introduction.step
            (Introduction.started idleState.1 wordEditor {} "/")).response?.any
          (fun response => response.serverInfo?.isSome)
        = true := by
    decide +kernel
  have endless : ({} : Transport).remaining = none := rfl
  refine ⟨endless, subsequent, readable, by decide +kernel, ?_⟩
  obtain ⟨_, order⟩ := Client.greeting_goes_first idleState.1 wordEditor endless "/" subsequent
  obtain ⟨response, answered, readable⟩ := (Option.any_eq_true _ _).mp readable
  obtain ⟨before, action, later, _, _, _, _, introduced⟩ := (order response answered).2 readable
  exact ⟨_, introduced⟩

end LanguageClient
