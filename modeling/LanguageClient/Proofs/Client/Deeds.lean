import LanguageClient.Proofs.Client.AcceptedWord
import LanguageClient.Proofs.Session.Independence

/-! What a client does to its session when it reacts to an event. The session itself has no
influence on it, nor on what becomes of the menu and the editor.
-/

namespace LanguageClient

namespace Client

variable {σ : Type} [Host σ]

/-- A client with another session. -/
def withSession (client : Client) (session : Session) : Client :=
  { client with session }

-----------------------------------------------------------------------------------------
-- Deeds
-----------------------------------------------------------------------------------------

/-- After a change of the text, completions are asked for again, or the menu closes. -/
def followDeeds (client : Client) (host : σ) : List Deed :=
  match client.anchor with
  | none => []
  | some anchor =>
    if (typedWord host).1 = anchor then
      [.requestCompletion (positionOf host (Host.cursor host))]
    else
      [.releasePending]

/-- The editor's document is opened, if it has a path. -/
def openDeeds (host : σ) : List Deed :=
  match Host.documentPath host with
  | none => []
  | some path =>
    [.openDocument (Uri.ofPath (Host.files host) path) (Host.language host)
      (Host.documentText host)]

/-- Another document is opened for a location, unless that fails. -/
def jumpDeeds (host : σ) (location : Location) : List Deed :=
  match location.path? with
  | none => []
  | some path =>
    if (Host.documentPath host).map (Uri.ofPath (Host.files host)) = some location.uri then
      []
    else
      match Host.openFile path host with
      | (.error _, _) => []
      | (.ok (), opened) => openDeeds opened

/-- What a client does to its session when it reacts to a reply. -/
def replyDeeds (client : Client) (host : σ) : Reply → List Deed
  | .completion candidates =>
    if client.anchor.isNone || (client.menu.setCandidates candidates).isOpen then
      []
    else
      [.releasePending]
  | .formatting edits =>
    if edits.isEmpty then
      []
    else
      .changeDocument (Host.documentText (applyEdits host edits))
        :: client.followDeeds (applyEdits host edits)
  | .definition (location :: _) => jumpDeeds host location
  | .references (_ :: _) => [.releasePending]
  | .definition [] | .references [] | .handshake _ | .shutdown | .other _ | .error _ => []

/-- What a client does to its session when it reacts to an event. -/
def deeds (client : Client) (host : σ) : SessionEvent → List Deed
  | .reply _ reply => client.replyDeeds host reply
  | .initialized _ | .diagnostics _ | .shown _ | .logged _ => []

-----------------------------------------------------------------------------------------
-- Other sessions
-----------------------------------------------------------------------------------------

theorem closeCompletion_withSession (client : Client) (host : σ) (session : Session)
    : (client.withSession session).closeCompletion host
      = (
          (client.closeCompletion host).1.withSession session.releasePending,
          (client.closeCompletion host).2
        ) := by
  unfold closeCompletion withSession
  dsimp only
  split <;> rfl

theorem renderCompletion_withSession (client : Client) (host : σ) (session : Session)
    : (client.withSession session).renderCompletion host
      = (
          (client.renderCompletion host).1.withSession session,
          (client.renderCompletion host).2
        ) := by
  unfold renderCompletion withSession
  dsimp only
  split
  · rfl
  · split
    · rfl
    · split <;> rfl

theorem updateCompletion_withSession (client : Client) (host : σ) (session : Session)
    : (client.withSession session).updateCompletion host
      = (
          (client.updateCompletion host).1.withSession
            (session.performAll (client.followDeeds host)),
          (client.updateCompletion host).2
        ) := by
  unfold updateCompletion followDeeds
  have anchor : (client.withSession session).anchor = client.anchor := rfl
  rw [anchor]
  cases client.anchor with
  | none => rfl
  | some anchor =>
      dsimp only
      split
      · exact renderCompletion_withSession
          { client with
            session :=
              (client.session.requestCompletion (positionOf host (Host.cursor host))).2
            menu := client.menu.setTyped (typedWord host).2
            anchor := some anchor }
          host _
      · exact client.closeCompletion_withSession host session

theorem documentChanged_withSession (client : Client) (host : σ) (session : Session)
    : (client.withSession session).documentChanged host
      = (
          (client.documentChanged host).1.withSession
            (session.performAll
              (.changeDocument (Host.documentText host) :: client.followDeeds host)),
          (client.documentChanged host).2
        ) := by
  -- Without an active document there is nothing to tell.
  have told (client : Client)
      : (if client.session.active.isSome then
            client.withSession (client.session.changeDocument (Host.documentText host)).2
          else
            client)
        = client.withSession (client.session.changeDocument (Host.documentText host)).2 := by
    cases active : client.session.active with
    | some uri => rfl
    | none =>
        have same
            : (client.session.changeDocument (Host.documentText host)).2 = client.session := by
          unfold Session.changeDocument Session.activeUri
          cases client.session.isRunning <;> simp [active]
        rw [same]
        rfl
  have changed (client : Client)
      : client.documentChanged host
        = (client.withSession
              (client.session.changeDocument (Host.documentText host)).2).updateCompletion
            host := by
    rw [← told client]
    rfl
  have other := client.updateCompletion_withSession host
  rw [changed, changed, other]
  exact client.updateCompletion_withSession host _

theorem openActiveDocument_withSession (client : Client) (host : σ) (session : Session)
    : ((client.withSession session).openActiveDocument host).2
      = (client.openActiveDocument host).2.withSession
          (session.performAll (openDeeds host)) := by
  unfold openActiveDocument openDeeds
  cases Host.documentPath host with
  | none => rfl
  | some path => rfl

theorem jumpTo_withSession (client : Client) (host : σ) (location : Location) (session : Session)
    : (client.withSession session).jumpTo host location
      = (
          (client.jumpTo host location).1.withSession
            (session.performAll (jumpDeeds host location)),
          (client.jumpTo host location).2
        ) := by
  unfold jumpTo jumpDeeds
  cases location.path? with
  | none => rfl
  | some path =>
      dsimp only
      split
      · rfl
      · cases Host.openFile path host with
        | mk result opened =>
            cases result with
            | error reason => rfl
            | ok _ =>
                exact Prod.ext (client.openActiveDocument_withSession opened session) rfl

theorem showLines_withSession (client : Client) (host : σ) (point : TextPoint)
    (lines : List String) (session : Session)
    : (client.withSession session).showLines host point lines
      = (
          (client.showLines host point lines).1.withSession session.releasePending,
          (client.showLines host point lines).2
        ) := by
  have limits : (client.withSession session).limits = client.limits := rfl
  unfold showLines
  rw [closeCompletion_withSession, limits]
  dsimp only
  split <;> rfl

theorem showCandidates_withSession (client : Client) (host : σ) (candidates : List Candidate)
    (session : Session)
    : (client.withSession session).showCandidates host candidates
      = (
          (client.showCandidates host candidates).1.withSession
            (session.performAll (client.replyDeeds host (.completion candidates))),
          (client.showCandidates host candidates).2
        ) := by
  have rendered :=
    renderCompletion_withSession { client with menu := client.menu.setCandidates candidates }
      host session
  have closed :=
    closeCompletion_withSession { client with menu := client.menu.setCandidates candidates }
      host session
  unfold withSession at rendered closed ⊢
  unfold showCandidates replyDeeds
  dsimp only at rendered closed ⊢
  cases client.anchor.isNone with
  | true => rfl
  | false =>
      cases (client.menu.setCandidates candidates).isOpen with
      | true => exact rendered
      | false =>
          simp only [closed, Bool.false_or, Bool.false_eq_true, if_false]
          rfl

theorem applyFormatting_withSession (client : Client) (host : σ) (edits : List TextEdit)
    (session : Session)
    : (client.withSession session).applyFormatting host edits
      = (
          (client.applyFormatting host edits).1.withSession
            (session.performAll (client.replyDeeds host (.formatting edits))),
          (client.applyFormatting host edits).2
        ) := by
  cases edits with
  | nil => rfl
  | cons edit rest =>
      have changed := client.documentChanged_withSession (applyEdits host (edit :: rest)) session
      unfold applyFormatting
      dsimp only [List.isEmpty_cons]
      rw [if_neg Bool.false_ne_true, if_neg Bool.false_ne_true, changed]
      rfl

/-- A reply does the same to any session. -/
theorem handleReply_withSession (client : Client) (host : σ) (reply : Reply) (session : Session)
    : (client.withSession session).handleReply host reply
      = (
          (client.handleReply host reply).1.withSession
            (session.performAll (client.replyDeeds host reply)),
          (client.handleReply host reply).2
        ) := by
  cases reply with
  | completion candidates => exact client.showCandidates_withSession host candidates session
  | formatting edits => exact client.applyFormatting_withSession host edits session
  | definition locations =>
      cases locations with
      | nil => rfl
      | cons location rest => exact client.jumpTo_withSession host location session
  | references locations =>
      cases locations with
      | nil => rfl
      | cons location rest => exact client.showLines_withSession _ _ _ session
  | handshake _ | shutdown | other _ | error _ => rfl

/-- An event does the same to any session, and with any session it has the same effect on the
menu and the editor.
-/
theorem handleEvent_withSession (client : Client) (host : σ) (event : SessionEvent)
    (session : Session)
    : (client.withSession session).handleEvent host event
      = (
          (client.handleEvent host event).1.withSession
            (session.performAll (client.deeds host event)),
          (client.handleEvent host event).2
        ) := by
  cases event with
  | reply handle reply => exact client.handleReply_withSession host reply session
  | initialized _ | diagnostics _ | shown _ | logged _ => rfl

-----------------------------------------------------------------------------------------
-- Closed menus
-----------------------------------------------------------------------------------------

/-- Following the typed word opens no menu, and it closes the menu that it gives up. -/
theorem updateCompletion_closed {client : Client} {host : σ}
    (closed : client.anchor = none ∨ (client.followDeeds host).any Deed.isRelease = true)
    : (client.updateCompletion host).1.anchor = none := by
  unfold followDeeds at closed
  unfold updateCompletion
  cases completing : client.anchor with
  | none => exact completing
  | some anchor =>
      rw [completing] at closed
      dsimp only at closed ⊢
      split
      · rename_i same
        rw [if_pos same] at closed
        rcases closed with none | releases
        · cases none
        · cases releases
      · exact client.closeCompletion_anchor host

theorem applyFormatting_closed {client : Client} {host : σ} {edits : List TextEdit}
    (closed
      : client.anchor = none
        ∨ (client.replyDeeds host (.formatting edits)).any Deed.isRelease = true)
    : (client.applyFormatting host edits).1.anchor = none := by
  cases edits with
  | nil => exact closed.resolve_right nofun
  | cons edit rest =>
      unfold applyFormatting documentChanged
      dsimp only [List.isEmpty_cons]
      rw [if_neg Bool.false_ne_true]
      refine updateCompletion_closed ?_
      split <;> exact closed

theorem showCandidates_closed {client : Client} {host : σ} {candidates : List Candidate}
    (closed
      : client.anchor = none
        ∨ (client.replyDeeds host (.completion candidates)).any Deed.isRelease = true)
    : (client.showCandidates host candidates).1.anchor = none := by
  unfold replyDeeds at closed
  unfold showCandidates
  cases completing : client.anchor with
  | none => exact completing
  | some anchor =>
      rw [completing] at closed
      dsimp only [Option.isNone_some] at closed ⊢
      rw [if_neg Bool.false_ne_true]
      split
      · rename_i filled
        rcases closed with none | releases
        · cases none
        · rw [filled] at releases
          cases releases
      · exact closeCompletion_anchor _ host

/-- Nothing is given up for a document that is opened. -/
theorem jumpDeeds_unreleased (host : σ) (location : Location)
    : (jumpDeeds host location).any Deed.isRelease = false := by
  have opened (host : σ) : (openDeeds host).any Deed.isRelease = false := by
    unfold openDeeds
    split <;> rfl
  unfold jumpDeeds
  split
  · rfl
  · split
    · rfl
    · split
      · rfl
      · exact opened _

theorem jumpTo_anchor (client : Client) (host : σ) (location : Location)
    : (client.jumpTo host location).1.anchor = client.anchor := by
  unfold jumpTo
  split
  · rfl
  · dsimp only
    split
    · rfl
    · split
      · rfl
      · exact client.openActiveDocument_anchor _

theorem showLines_anchor (client : Client) (host : σ) (point : TextPoint) (lines : List String)
    : (client.showLines host point lines).1.anchor = none := by
  have closed := client.closeCompletion_anchor host
  unfold showLines
  dsimp only
  split <;> exact closed

/-- Whoever gives up what is awaited has no menu any more, and no event opens one. -/
theorem handleEvent_closed {client : Client} {host : σ} {event : SessionEvent}
    (closed : client.anchor = none ∨ (client.deeds host event).any Deed.isRelease = true)
    : (client.handleEvent host event).1.anchor = none := by
  cases event with
  | initialized _ | diagnostics _ | shown _ | logged _ => exact closed.resolve_right nofun
  | reply handle reply =>
      cases reply with
      | handshake _ | shutdown | other _ | error _ => exact closed.resolve_right nofun
      | completion candidates => exact showCandidates_closed closed
      | formatting edits => exact applyFormatting_closed closed
      | definition locations =>
          cases locations with
          | nil => exact closed.resolve_right nofun
          | cons location rest =>
              have unreleased := jumpDeeds_unreleased host location
              refine (client.jumpTo_anchor host location).trans (closed.resolve_right ?_)
              exact fun releases => absurd (releases.symm.trans unreleased) nofun
      | references locations =>
          cases locations with
          | nil => exact closed.resolve_right nofun
          | cons location rest => exact client.showLines_anchor _ _ _

/-- Without a menu there is no use for candidates. -/
theorem handleEvent_candidates {client : Client} (idle : client.anchor = none) (host : σ)
    {event : SessionEvent} (candidates : event.isCandidates = true)
    : client.handleEvent host event = (client, host) := by
  unfold SessionEvent.isCandidates at candidates
  split at candidates
  · exact if_pos (by rw [idle]; rfl)
  · cases candidates

end Client

end LanguageClient
