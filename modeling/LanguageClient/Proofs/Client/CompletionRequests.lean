import LanguageClient.Proofs.Client.Conduct
import LanguageClient.Proofs.Session.AwaitedCompletions

/-! The requests of a client and the word that it completes. Whatever a client does at once, it
sends one request at most, it asks for completions only while it completes a word, and what it
awaits for a word is given up with that word.
-/

namespace LanguageClient

open Json (Value)
open Session (Quiet)

variable {σ : Type} [Host σ]

namespace Client

-----------------------------------------------------------------------------------------
-- At most one request
-----------------------------------------------------------------------------------------

/-- What a client comes to when it does something at once. Unless it is triggered it turns to no
other word.
-/
inductive Onward (triggered : Bool) (before after : Client) : Prop where
  /-- Nothing is asked, and what is awaited for a word is given up with it. -/
  | quiet (quiet : Quiet before.session after.session)
    (anchor
      : after.anchor = before.anchor
        ∨ after.anchor = none ∧ after.session.pending.any (·.retain) = false)
  /-- One request goes out. -/
  | asks (middle : Session) (method : Method) (transport : Transport) (message : Value)
    (quiet : Quiet before.session middle) (running : middle.isRunning = true)
    (sent : after.session = (middle.asking method).delivered transport message)
    (completing : method = .completion → after.anchor.isSome = true)
    (anchor : after.anchor = before.anchor ∨ triggered = true ∧ method = .completion)

namespace Onward

variable {triggered : Bool} {before after : Client}

theorem of_session (session : after.session = before.session)
    (anchor : after.anchor = before.anchor)
    : Onward triggered before after :=
  .quiet (session ▸ Quiet.refl _) (Or.inl anchor)

/-- A client that stops completing has given up what it awaited for that. -/
theorem closed {released : Session} (quiet : Quiet before.session released)
    (session : after.session = released.releasePending) (anchor : after.anchor = none)
    : Onward triggered before after := by
  refine .quiet ?_ (Or.inr ⟨anchor, ?_⟩)
  · rw [session]
    exact quiet.trans released.releasePending_quiet
  · rw [session]
    exact released.releasePending_unretained

/-- Changes of documents come first. -/
theorem after_quiet {told : Client} (onward : Onward triggered told after)
    (quiet : Quiet before.session told.session) (anchor : told.anchor = before.anchor)
    : Onward triggered before after := by
  cases onward with
  | quiet later same =>
      refine .quiet (quiet.trans later) ?_
      rwa [← anchor]
  | asks middle method transport message later running sent completing same =>
      refine .asks middle method transport message (quiet.trans later) running sent completing ?_
      rwa [← anchor]

/-- A request about the document is refused, fails or goes out. -/
theorem of_request {told : Session} (quiet : Quiet before.session told) {method : Method}
    {extra : List (String × Value)}
    (session : after.session = (told.requestAboutDocument method extra).2)
    (completing : method = .completion → after.anchor.isSome = true)
    (anchor : after.anchor = before.anchor)
    : Onward triggered before after := by
  rcases told.requestAboutDocument_cases method extra with ⟨error, refused⟩ | ⟨params, sent⟩
  · rw [refused] at session
    exact .quiet (session ▸ quiet) (Or.inl anchor)
  · rw [sent] at session
    rcases told.request_quiet_or method params with
      ⟨error, failed, outcome, later⟩ | ⟨running, transport, outcome⟩
    · rw [outcome] at session
      exact .quiet (session ▸ quiet.trans later) (Or.inl anchor)
    · rw [outcome] at session
      exact .asks told method transport _ quiet running session completing (Or.inl anchor)

end Onward

variable (client : Client) (host : σ) {triggered : Bool}

theorem closeCompletion_onward : Onward triggered client (client.closeCompletion host).1 :=
  .closed (.refl _) (client.closeCompletion_session host) (client.closeCompletion_anchor host)

theorem renderCompletion_anchor : (client.renderCompletion host).1.anchor = client.anchor := by
  unfold renderCompletion
  split
  · rfl
  · split
    · rfl
    · split <;> rfl

theorem renderCompletion_onward (menu : CompletionMenu)
    : Onward triggered client (Client.renderCompletion { client with menu } host).1 :=
  .of_session (renderCompletion_session _ host) (renderCompletion_anchor _ host)

/-- A trigger asks for the word before the cursor, or gives up. -/
theorem triggerCompletion_onward : Onward true client (client.triggerCompletion host).1 := by
  have cases := client.session.requestAboutDocument_cases .completion
    [("position", (positionOf host (Host.cursor host)).toValue)]
  unfold triggerCompletion Session.requestCompletion
  dsimp only
  rcases cases with ⟨error, refused⟩ | ⟨params, sent⟩
  · rw [refused]
    exact closeCompletion_onward client host
  · rw [sent]
    rcases client.session.request_quiet_or .completion params with
      ⟨error, failed, outcome, quiet⟩ | ⟨running, transport, outcome⟩
    · rw [outcome]
      exact (closeCompletion_onward { client with session := failed } host).after_quiet quiet rfl
    · rw [outcome]
      exact .asks client.session .completion transport _ (.refl _) running rfl (fun _ => rfl)
        (Or.inr ⟨rfl, rfl⟩)

/-- The typed word is asked for again, or given up. -/
theorem updateCompletion_onward : Onward triggered client (client.updateCompletion host).1 := by
  unfold updateCompletion
  split
  · exact .of_session rfl rfl
  · rename_i anchor completing
    dsimp only
    split
    · refine .of_request (.refl _) (renderCompletion_session _ host) (fun _ => ?_)
        (renderCompletion_anchor _ host)
      rw [renderCompletion_anchor]
      exact Option.isSome_of_eq_some completing
    · exact client.closeCompletion_onward host

theorem documentChanged_onward : Onward triggered client (client.documentChanged host).1 := by
  unfold documentChanged
  dsimp only
  split
  · exact (updateCompletion_onward _ host).after_quiet
      (client.session.changeDocument_quiet _) rfl
  · exact client.updateCompletion_onward host

/-- Without a word there is none to follow. -/
theorem documentChanged_idle {client : Client} (idle : client.anchor = none) (host : σ)
    : (client.documentChanged host).1.anchor = none := by
  unfold documentChanged
  dsimp only
  split <;> exact updateCompletion_closed (Or.inl idle)

theorem asked_onward {method : Method} (other : method ≠ .completion)
    (extra : List (String × Value))
    : Onward triggered client
        (client.asked host (client.session.requestAboutDocument method extra)).1 := by
  refine .of_request (.refl _) (client.asked_session host _)
    (fun completion => absurd completion other) ?_
  unfold asked
  dsimp only
  split <;> rfl

theorem save_onward : Onward triggered client (client.save host).1 := by
  refine .quiet ?_ (Or.inl ?_)
  · rw [save_session]
    exact client.session.saveDocument_quiet none
  · unfold save
    dsimp only
    split <;> rfl

theorem openActiveDocument_onward
    : Onward triggered client (client.openActiveDocument host).2 := by
  refine .quiet ?_ (Or.inl (client.openActiveDocument_anchor host))
  unfold openActiveDocument
  split
  · exact .refl _
  · exact client.session.openDocument_quiet _ _ _

theorem showLines_onward (point : TextPoint) (lines : List String)
    : Onward triggered client (client.showLines host point lines).1 :=
  .closed (.refl _) (client.showLines_session host point lines)
    (client.showLines_anchor host point lines)

theorem showLineDiagnostics_onward
    : Onward triggered client (client.showLineDiagnostics host).1 := by
  unfold showLineDiagnostics
  dsimp only
  split
  · exact .of_session rfl rfl
  · exact client.showLines_onward host _ _

theorem navigate_onward (move : CompletionMenu → CompletionMenu)
    : Onward triggered client (client.navigate host move).2.1 := by
  unfold navigate
  split
  · exact client.renderCompletion_onward host _
  · exact .of_session rfl rfl

/-- A candidate is accepted with the menu closed, and the change of the text asks for nothing. -/
theorem acceptCompletion_onward
    : Onward triggered client (client.acceptCompletion host).2.1 := by
  unfold acceptCompletion
  split
  · exact .of_session rfl rfl
  · split
    · exact client.closeCompletion_onward host
    · dsimp only
      generalize (Host.setCursor _ _ : σ) = moved
      have idle := client.closeCompletion_anchor moved
      have session := (client.closeCompletion moved).1.documentChanged_session
        (client.closeCompletion moved).2
      rw [followDeeds, idle, closeCompletion_session] at session
      have changed := client.session.releasePending.changeDocument_quiet
        (Host.documentText (client.closeCompletion moved).2)
      refine .quiet ?_ (Or.inr ⟨documentChanged_idle idle _, ?_⟩)
      · rw [session]
        exact client.session.releasePending_quiet.trans changed
      · rw [session]
        exact changed.unretained client.session.releasePending_unretained

theorem stop_onward : Onward triggered client (client.stop host).1 := by
  refine .quiet ?_ (Or.inr ⟨client.closeCompletion_anchor host, rfl⟩)
  have released : Quiet client.session (client.closeCompletion host).1.session := by
    rw [closeCompletion_session]
    exact client.session.releasePending_quiet
  exact released.trans (.of_lost rfl rfl rfl rfl List.nil_suffix)

-----------------------------------------------------------------------------------------
-- Events
-----------------------------------------------------------------------------------------

theorem jumpTo_onward (location : Location)
    : Onward triggered client (client.jumpTo host location).1 := by
  unfold jumpTo
  split
  · exact .of_session rfl rfl
  · dsimp only
    split
    · exact .of_session rfl rfl
    · split
      · exact .of_session rfl rfl
      · exact client.openActiveDocument_onward _

theorem showCandidates_onward (candidates : List Candidate)
    : Onward triggered client (client.showCandidates host candidates).1 := by
  unfold showCandidates
  split
  · exact .of_session rfl rfl
  · dsimp only
    split
    · exact client.renderCompletion_onward host _
    · exact (closeCompletion_onward
        { client with menu := client.menu.setCandidates candidates } host).after_quiet
        (.refl _) rfl

theorem handleReply_onward (reply : Reply)
    : Onward triggered client (client.handleReply host reply).1 := by
  cases reply with
  | completion candidates => exact client.showCandidates_onward host candidates
  | formatting edits =>
      cases edits with
      | nil => exact .of_session rfl rfl
      | cons edit rest => exact client.documentChanged_onward _
  | definition locations =>
      cases locations with
      | nil => exact .of_session rfl rfl
      | cons location rest => exact client.jumpTo_onward host location
  | references locations =>
      cases locations with
      | nil => exact .of_session rfl rfl
      | cons location rest => exact client.showLines_onward _ _ _
  | handshake _ | shutdown | other _ | error _ => exact .of_session rfl rfl

theorem turn_onward (state : Client × σ) (event : SessionEvent)
    : Onward triggered state.1 (turn state event).1 := by
  cases event with
  | reply handle reply => exact state.1.handleReply_onward state.2 reply
  | initialized _ | diagnostics _ | shown _ | logged _ => exact .of_session rfl rfl

end Client

-----------------------------------------------------------------------------------------
-- Actions
-----------------------------------------------------------------------------------------

namespace ClientAction

/-- Whether completions are asked for, wherever the cursor is. -/
def isTrigger : ClientAction σ → Bool
  | triggerCompletion => true
  | _ => false

/-- Whether a client does something at once: no server is started, and nothing that a server
says is reacted to.
-/
def isSingle : ClientAction σ → Bool
  | start _ _ | restart _ _ | useSession _ | processEvents | receive _
  | handleServerEvent (.output _) => false
  | _ => true

theorem run_onward {action : ClientAction σ} (single : action.isSingle = true)
    (state : Client × σ)
    : Client.Onward action.isTrigger state.1 (action.run state).1 := by
  obtain ⟨client, host⟩ := state
  cases action with
  | start _ _ | restart _ _ | useSession _ | processEvents | receive _ => cases single
  | stop => exact client.stop_onward host
  | setIndent _ _ | alter _ => exact .of_session rfl rfl
  | openActiveDocument => exact client.openActiveDocument_onward host
  | save => exact client.save_onward host
  | triggerCompletion => exact client.triggerCompletion_onward host
  | navigate move => exact client.navigate_onward host move
  | acceptCompletion => exact client.acceptCompletion_onward host
  | closeCompletion => exact client.closeCompletion_onward host
  | format =>
      exact client.asked_onward host (show Method.formatting ≠ .completion by decide) _
  | goToDefinition =>
      exact client.asked_onward host (show Method.definition ≠ .completion by decide) _
  | findReferences =>
      exact client.asked_onward host (show Method.references ≠ .completion by decide) _
  | showLineDiagnostics => exact client.showLineDiagnostics_onward host
  | handleServerEvent event =>
      cases event with
      | output chunk => cases single
      | errorLine text => exact .of_session rfl rfl
      | exited status => exact client.stop_onward host
  | edit change => exact client.documentChanged_onward _

end ClientAction

-----------------------------------------------------------------------------------------
-- Every action
-----------------------------------------------------------------------------------------

namespace Client

/-- A client greets its server and tells it about a document. -/
theorem start_wordless (client : Client) (host : σ) (transport : Transport) (root : String)
    : (client.start host transport root).2.1.session.Wordless := by
  unfold start
  generalize client.closeCompletion host = closed
  obtain ⟨closed, hidden⟩ := closed
  dsimp only
  have greeted := (Session.Wordless.started closed.session transport).requestHandshake
    (Workspace.ofPath (Host.files hidden) root)
  split
  · exact greeted
  · unfold openActiveDocument
    split
    · exact greeted
    · exact greeted.quiet (Session.openDocument_quiet _ _ _ _)

/-- A client awaits its latest request. After a reply it goes on waiting for completions only,
and only while it completes a word.
-/
structure Orderly (client : Client) : Prop where
  latest : client.session.AwaitsLatest
  retains : client.session.RetainsCompletions
  idle : client.anchor = none → client.session.pending.any (·.retain) = false

namespace Orderly

theorem of_wordless {client : Client} (wordless : client.session.Wordless) : client.Orderly where
  latest := wordless.latest
  retains := by
    intro pending slot retain
    have unretained := wordless.unretained
    rw [slot, Option.any_some, retain] at unretained
    cases unretained
  idle := fun _ => wordless.unretained

theorem new (options : SessionOptions) (limits : OverlayLimits)
    : (Client.new options limits).Orderly :=
  of_wordless ⟨Session.awaitsLatest_of_none rfl, rfl, ⟨fun _ _ => nofun, fun _ _ => nofun⟩⟩

theorem onward {before after : Client} {triggered : Bool} (orderly : before.Orderly)
    (onward : Onward triggered before after)
    : after.Orderly := by
  cases onward with
  | quiet quiet anchor =>
      refine ⟨orderly.latest.quiet quiet, orderly.retains.of_quiet quiet, fun none => ?_⟩
      rcases anchor with same | ⟨_, unretained⟩
      · exact quiet.unretained (orderly.idle (same.symm.trans none))
      · exact unretained
  | asks middle method transport message quiet running sent completing anchor =>
      refine ⟨?_, ?_, fun none => ?_⟩
      · rw [sent]
        exact middle.awaitsLatest_of_asking _ _ _
      · rw [sent]
        exact middle.retainsCompletions_of_asking _ _ _
      · have other : method ≠ .completion := fun completion => by
          have completes := completing completion
          rw [none] at completes
          cases completes
        rw [sent]
        exact middle.nextPending_unretained other

theorem receive {client : Client} (orderly : client.Orderly) (chunk : List UInt8)
    : (client.withSession (client.session.receive chunk)).Orderly :=
  ⟨orderly.latest.receive chunk, orderly.retains.receive chunk,
    fun none => Session.receive_unretained (orderly.idle none) chunk⟩

theorem drainEvents {client : Client} (orderly : client.Orderly)
    : (client.withSession client.session.drainEvents.2).Orderly :=
  ⟨orderly.latest.quiet client.session.drainEvents_quiet,
    orderly.retains.of_quiet client.session.drainEvents_quiet, orderly.idle⟩

theorem processEvents {client : Client} (orderly : client.Orderly) (host : σ)
    : (client.processEvents host).1.Orderly :=
  processEvents_keeps (P := fun state => state.1.Orderly) orderly.drainEvents
    fun state event orderly =>
      orderly.onward (show Onward false state.1 _ from turn_onward state event)

/-- Whatever a client is called for, it stays so. -/
theorem run {state : Client × σ} (orderly : state.1.Orderly) {action : ClientAction σ}
    (own : ∀ use, action ≠ .useSession use)
    : (action.run state).1.Orderly := by
  obtain ⟨client, host⟩ := state
  have single (single : action.isSingle = true) : (action.run (client, host)).1.Orderly :=
    orderly.onward (ClientAction.run_onward single _)
  cases action with
  | useSession use => exact absurd rfl (own use)
  | start transport root => exact of_wordless (client.start_wordless host transport root)
  | restart transport root => exact of_wordless (start_wordless _ _ transport root)
  | processEvents => exact orderly.processEvents host
  | receive chunk => exact (orderly.receive chunk).processEvents host
  | handleServerEvent event =>
      cases event with
      | output chunk => exact (orderly.receive chunk).processEvents host
      | errorLine _ | exited _ => exact single rfl
  | stop | setIndent _ _ | openActiveDocument | save | triggerCompletion | navigate _
  | acceptCompletion | closeCompletion | format | goToDefinition | findReferences
  | showLineDiagnostics | edit _ | alter _ => exact single rfl

end Orderly

end Client

end LanguageClient
