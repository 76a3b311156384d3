import LanguageClient.Proofs.Client.Chunks

/-! What a client does to its session, action by action. Between the start of a server and its
end, a run of a client is a run of its session, so that what is known about sessions is known
about clients.
-/

namespace LanguageClient

variable {σ : Type} [Host σ]

theorem Deed.action_isInternal (deed : Deed) : deed.action.isInternal = true := by
  cases deed <;> rfl

theorem deeds_isInternal (deeds : List Deed)
    : ∀ action ∈ deeds.map Deed.action, action.isInternal = true := by
  intro action listed
  obtain ⟨deed, _, rfl⟩ := List.mem_map.mp listed
  exact deed.action_isInternal

/-- The session after actions in their order. -/
def Session.actAll (session : Session) (actions : List SessionAction) : Session :=
  actions.foldl (fun state action => (action.run state).2) session

theorem Session.performAll_eq_actAll (session : Session) (deeds : List Deed)
    : session.performAll deeds = session.actAll (deeds.map Deed.action) := by
  rw [actAll, List.foldl_map]
  rfl

theorem Session.actAll_append (session : Session) (actions more : List SessionAction)
    : session.actAll (actions ++ more) = (session.actAll actions).actAll more :=
  List.foldl_append

/-- The texts that are given make no difference to the session. -/
theorem DocumentRun.foldl_step_session (run : DocumentRun) (actions : List SessionAction)
    : (actions.foldl DocumentRun.step run).session = run.session.actAll actions :=
  (List.foldl_hom DocumentRun.session fun _ _ => rfl).symm

-----------------------------------------------------------------------------------------
-- Conduct
-----------------------------------------------------------------------------------------

namespace Client

/-- Completions are asked for, and given up when that fails. -/
def triggerConduct (client : Client) (host : σ) : List SessionAction :=
  let position := positionOf host (Host.cursor host)
  .requestCompletion position
    :: match (client.session.requestCompletion position).1 with
      | .ok _ => []
      | .error _ => [.releasePending]

/-- A candidate is accepted with the menu closed already, so that its word is not followed. -/
def acceptConduct (client : Client) (host : σ) : List SessionAction :=
  match client.anchor with
  | none => []
  | some anchor =>
    match client.menu.selected? with
    | none => [.releasePending]
    | some candidate =>
      let start := insertionStart host anchor candidate
      let text := candidate.textToInsert
      let replaced := Host.replaceRange start (Host.cursor host) text host
      let (_, hidden) :=
        client.closeCompletion (Host.setCursor (endOfInsert start text) replaced)
      [.releasePending, .changeDocument (Host.documentText hidden)]

/-- Diagnostics are shown in place of the menu, if there are any. -/
def diagnosticsConduct (client : Client) (host : σ) : List SessionAction :=
  match client.session.diagnosticsOnLine (.ofNat (Host.cursor host).line) with
  | [] => []
  | _ :: _ => [.releasePending]

/-- What is done about events in their order. -/
def eventsConduct (state : Client × σ) : List SessionEvent → List SessionAction
  | [] => []
  | event :: rest =>
    (state.1.deeds state.2 event).map Deed.action ++ eventsConduct (turn state event) rest

/-- The events that wait are taken before anything is done about them. -/
def processConduct (client : Client) (host : σ) : List SessionAction :=
  .drainEvents
    :: eventsConduct (client.withSession client.session.drainEvents.2, host)
        client.session.events

end Client

namespace ClientAction

/-- What an action does to the session of a client. -/
def conduct (state : Client × σ) : ClientAction σ → List SessionAction
  | openActiveDocument => (Client.openDeeds state.2).map Deed.action
  | save => [.saveDocument none]
  | triggerCompletion => state.1.triggerConduct state.2
  | acceptCompletion => state.1.acceptConduct state.2
  | closeCompletion => [.releasePending]
  | format => [.requestFormatting state.1.tabSize state.1.insertSpaces]
  | goToDefinition =>
    [.requestDefinition (Client.positionOf state.2 (Host.cursor state.2))]
  | findReferences =>
    [.requestReferences (Client.positionOf state.2 (Host.cursor state.2)) true]
  | showLineDiagnostics => state.1.diagnosticsConduct state.2
  | processEvents => state.1.processConduct state.2
  | receive chunk | handleServerEvent (.output chunk) =>
    .receive chunk
      :: (state.1.withSession (state.1.session.receive chunk)).processConduct state.2
  | edit change =>
    (.changeDocument (Host.documentText (change state.2))
      :: state.1.followDeeds (change state.2)).map Deed.action
  | start _ _ | restart _ _ | stop | useSession _ | handleServerEvent (.exited _)
  | handleServerEvent (.errorLine _) | setIndent _ _ | navigate _ | alter _ => []

/-- The bytes that an action brings from the server. -/
def chunk? : ClientAction σ → Option (List UInt8)
  | receive chunk => some chunk
  | handleServerEvent (.output chunk) => some chunk
  | _ => none

/-- Whether an action leaves the server attached, and the session to the client. -/
def isRoutine : ClientAction σ → Bool
  | start _ _ | restart _ _ | stop | useSession _ | handleServerEvent (.exited _) => false
  | _ => true

end ClientAction

-----------------------------------------------------------------------------------------
-- Sessions of clients
-----------------------------------------------------------------------------------------

namespace Client

theorem closeCompletion_session (client : Client) (host : σ)
    : (client.closeCompletion host).1.session = client.session.releasePending := by
  unfold closeCompletion
  dsimp only
  split <;> rfl

theorem renderCompletion_session (client : Client) (host : σ)
    : (client.renderCompletion host).1.session = client.session := by
  unfold renderCompletion
  split
  · rfl
  · split
    · rfl
    · split <;> rfl

theorem showLines_session (client : Client) (host : σ) (point : TextPoint) (lines : List String)
    : (client.showLines host point lines).1.session = client.session.releasePending := by
  have closed := client.closeCompletion_session host
  unfold showLines
  dsimp only
  split <;> exact closed

theorem asked_session (client : Client) (host : σ) (outcome : Session.Outcome RequestHandle)
    : (client.asked host outcome).1.session = outcome.2 := by
  unfold asked
  dsimp only
  split <;> rfl

theorem save_session (client : Client) (host : σ)
    : (client.save host).1.session = (client.session.saveDocument none).2 := by
  unfold save
  dsimp only
  split <;> rfl

theorem documentChanged_session (client : Client) (host : σ)
    : (client.documentChanged host).1.session
      = client.session.performAll
          (.changeDocument (Host.documentText host) :: client.followDeeds host) :=
  congrArg (fun outcome : Client × σ => outcome.1.session)
    (client.documentChanged_withSession host client.session)

theorem openActiveDocument_session (client : Client) (host : σ)
    : (client.openActiveDocument host).2.session
      = client.session.performAll (openDeeds host) :=
  congrArg (·.session) (client.openActiveDocument_withSession host client.session)

theorem triggerCompletion_session (client : Client) (host : σ)
    : (client.triggerCompletion host).1.session
      = client.session.actAll (client.triggerConduct host) := by
  unfold triggerCompletion triggerConduct
  dsimp only
  split
  · rename_i outcome
    rw [outcome]
    exact (congrArg Prod.snd outcome).symm
  · rename_i session outcome
    rw [outcome]
    refine (closeCompletion_session { client with session } host).trans ?_
    exact congrArg Session.releasePending (congrArg Prod.snd outcome).symm

theorem acceptCompletion_session (client : Client) (host : σ)
    : (client.acceptCompletion host).2.1.session
      = client.session.actAll (client.acceptConduct host) := by
  unfold acceptCompletion acceptConduct
  cases client.anchor with
  | none => rfl
  | some anchor =>
      cases client.menu.selected? with
      | none => exact client.closeCompletion_session host
      | some candidate =>
          dsimp only
          generalize (Host.setCursor _ _ : σ) = moved
          have idle := client.closeCompletion_anchor moved
          rw [documentChanged_session, followDeeds, idle, closeCompletion_session]
          rfl

theorem showLineDiagnostics_session (client : Client) (host : σ)
    : (client.showLineDiagnostics host).1.session
      = client.session.actAll (client.diagnosticsConduct host) := by
  unfold showLineDiagnostics diagnosticsConduct
  dsimp only
  cases client.session.diagnosticsOnLine (.ofNat (Host.cursor host).line) with
  | nil => rfl
  | cons diagnostic rest => exact client.showLines_session host _ _

theorem foldl_turn_session (state : Client × σ) (events : List SessionEvent)
    : (events.foldl turn state).1.session
      = state.1.session.actAll (eventsConduct state events) := by
  induction events generalizing state with
  | nil => rfl
  | cons event rest ih =>
      rw [List.foldl_cons, ih, turn_session, Session.performAll_eq_actAll, eventsConduct,
        Session.actAll_append]

theorem processEvents_session (client : Client) (host : σ)
    : (client.processEvents host).1.session
      = client.session.actAll (client.processConduct host) :=
  foldl_turn_session (client.withSession client.session.drainEvents.2, host)
    client.session.events

theorem triggerConduct_isInternal (client : Client) (host : σ)
    : ∀ action ∈ client.triggerConduct host, action.isInternal = true := by
  unfold triggerConduct
  dsimp only
  split <;> simp [SessionAction.isInternal]

theorem acceptConduct_isInternal (client : Client) (host : σ)
    : ∀ action ∈ client.acceptConduct host, action.isInternal = true := by
  unfold acceptConduct
  cases client.anchor with
  | none => exact fun _ => nofun
  | some anchor => cases client.menu.selected? <;> simp [SessionAction.isInternal]

theorem diagnosticsConduct_isInternal (client : Client) (host : σ)
    : ∀ action ∈ client.diagnosticsConduct host, action.isInternal = true := by
  unfold diagnosticsConduct
  split <;> simp [SessionAction.isInternal]

theorem eventsConduct_isInternal (state : Client × σ) (events : List SessionEvent)
    : ∀ action ∈ eventsConduct state events, action.isInternal = true := by
  induction events generalizing state with
  | nil => exact fun _ => nofun
  | cons event rest ih =>
      intro action listed
      rcases List.mem_append.mp listed with first | later
      · exact deeds_isInternal _ action first
      · exact ih _ action later

theorem processConduct_isInternal (client : Client) (host : σ)
    : ∀ action ∈ client.processConduct host, action.isInternal = true :=
  List.forall_mem_cons.mpr ⟨rfl, eventsConduct_isInternal _ _⟩

end Client

namespace ClientAction

/-- A routine action changes the session by its conduct. -/
theorem run_session {action : ClientAction σ} (routine : action.isRoutine = true)
    (state : Client × σ)
    : (action.run state).1.session = state.1.session.actAll (action.conduct state) := by
  obtain ⟨client, host⟩ := state
  cases action with
  | start _ _ | restart _ _ | stop | useSession _ => cases routine
  | setIndent _ _ | alter _ => rfl
  | openActiveDocument =>
      exact (client.openActiveDocument_session host).trans (Session.performAll_eq_actAll _ _)
  | save => exact client.save_session host
  | triggerCompletion => exact client.triggerCompletion_session host
  | navigate move =>
      unfold run Client.navigate
      dsimp only
      split
      · exact Client.renderCompletion_session { client with menu := move client.menu } host
      · rfl
  | acceptCompletion => exact client.acceptCompletion_session host
  | closeCompletion => exact client.closeCompletion_session host
  | format | goToDefinition | findReferences => exact client.asked_session host _
  | showLineDiagnostics => exact client.showLineDiagnostics_session host
  | processEvents => exact client.processEvents_session host
  | receive chunk =>
      exact (client.withSession (client.session.receive chunk)).processEvents_session host
  | handleServerEvent event =>
      cases event with
      | output chunk =>
          exact (client.withSession (client.session.receive chunk)).processEvents_session host
      | errorLine text => rfl
      | exited status => cases routine
  | edit change =>
      exact (client.documentChanged_session (change host)).trans
        (Session.performAll_eq_actAll _ _)

/-- What arrives from the server is received first, and then the waiting events are handled. -/
theorem conduct_of_chunk {clientAction : ClientAction σ} {chunk : List UInt8}
    (arrives : clientAction.chunk? = some chunk) (state : Client × σ)
    : clientAction.conduct state
      = .receive chunk
        :: (state.1.withSession (state.1.session.receive chunk)).processConduct state.2 := by
  unfold chunk? at arrives
  split at arrives
  · obtain rfl := Option.some.inj arrives
    rfl
  · obtain rfl := Option.some.inj arrives
    rfl
  · cases arrives

/-- A client neither greets nor dismisses a server that it has started. -/
theorem conduct_isInternal {clientAction : ClientAction σ} (silent : clientAction.chunk? = none)
    (state : Client × σ)
    : ∀ action ∈ clientAction.conduct state, action.isInternal = true := by
  cases clientAction with
  | openActiveDocument | edit change => exact deeds_isInternal _
  | save | closeCompletion | format | goToDefinition | findReferences =>
      exact List.forall_mem_singleton.mpr rfl
  | triggerCompletion => exact Client.triggerConduct_isInternal _ _
  | acceptCompletion => exact Client.acceptConduct_isInternal _ _
  | showLineDiagnostics => exact Client.diagnosticsConduct_isInternal _ _
  | processEvents => exact Client.processConduct_isInternal _ _
  | receive chunk => cases silent
  | handleServerEvent event =>
      cases event with
      | output chunk => cases silent
      | errorLine _ | exited _ => exact fun _ => nofun
  | start _ _ | restart _ _ | stop | useSession _ | setIndent _ _ | navigate _ | alter _ =>
      exact fun _ => nofun

end ClientAction

end LanguageClient
