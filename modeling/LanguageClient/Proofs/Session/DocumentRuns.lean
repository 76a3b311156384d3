import LanguageClient.Proofs.Session.DocumentHandshake

/-! Every run of a session keeps a strict server's view of its documents, whatever arrives
in between and whenever the connection breaks.
-/

namespace LanguageClient

open Json (Value)

namespace Tracked

variable {earlier : List Value} {given : GivenTexts} {session : Session}

/-- Only the reply to the handshake is about documents. -/
theorem handleReply (tracked : Tracked earlier given session) (handle : RequestHandle)
    (reply : Reply)
    : Tracked earlier given (session.handleReply handle reply).2 := by
  cases reply with
  | handshake info => exact tracked.finishHandshake info
  | shutdown => exact (tracked.pushEvent _).send fun mirror => mirror.receive_exit
  | completion _ => exact tracked.pushEvent _
  | formatting _ => exact tracked.pushEvent _
  | definition _ => exact tracked.pushEvent _
  | references _ => exact tracked.pushEvent _
  | other _ => exact tracked.pushEvent _
  | error _ => exact tracked.pushEvent _

/-- A response is handled like its reply, or not at all. -/
theorem handleResponse (tracked : Tracked earlier given session) (response : Response)
    : Tracked earlier given (session.handleResponse response).2 := by
  unfold Session.handleResponse
  split
  · exact tracked
  · rename_i pending _
    split
    · have answered
          : Tracked earlier given
              { session with pending := pending.afterResponse response.id } :=
        tracked.congr rfl rfl
      dsimp only
      split
      · exact answered
      · exact answered.handleReply _ _
    · exact tracked

/-- Notifications of the server are not about the texts of documents. -/
theorem handleNotification (tracked : Tracked earlier given session)
    (notification : Notification)
    : Tracked earlier given (session.handleNotification notification) := by
  cases notification with
  | diagnostics publication =>
      rw [Session.handleNotification]
      split
      · have noted
            : Tracked earlier given { session with diagnostics := publication.diagnostics } :=
          tracked.congr rfl rfl
        exact noted.pushEvent _
      · exact tracked
  | shown notice => exact tracked.pushEvent _
  | logged notice => exact tracked.pushEvent _

theorem handleMessage (tracked : Tracked earlier given session) (message : Value)
    : Tracked earlier given (session.handleMessage message).2 := by
  unfold Session.handleMessage
  split
  · exact tracked
  · rename_i incoming _
    cases incoming with
    | request request => exact tracked.send fun mirror => mirror.receive_answer request
    | notification method params =>
        rw [Session.handleIncoming]
        split
        · exact tracked
        · exact tracked
        · exact tracked.handleNotification _
    | response response => exact tracked.handleResponse response

theorem receive (tracked : Tracked earlier given session) (chunk : List UInt8)
    : Tracked earlier given (session.receive chunk) := by
  have framed : Tracked earlier given { session with framer := (session.framer.feed chunk).2 } :=
    tracked.congr rfl rfl
  exact Session.receive_keeps framed fun _ message tracked => tracked.handleMessage message

-----------------------------------------------------------------------------------------
-- Runs
-----------------------------------------------------------------------------------------

/-- Without a server nothing can be said about a document. -/
theorem refused (tracked : Tracked earlier given session) (stopped : session.isRunning = false)
    (uri language text : String)
    : Tracked earlier given (session.openDocument uri language text).2
      ∧ Tracked earlier given (session.changeDocument text).2
      ∧ Tracked earlier given session.closeDocument.2 := by
  simp only [Session.openDocument, Session.changeDocument, Session.closeDocument,
    Session.activeUri, stopped]
  exact ⟨tracked, tracked, tracked⟩

/-- An action that gives no text and closes nothing keeps the agreement on its own. -/
theorem silent {run : DocumentRun} {action : SessionAction}
    (same : run.given.note action = run.given)
    (tracked : Tracked earlier run.given (action.run run.session).2)
    : Tracked earlier (run.step action).given (run.step action).session := by
  simp only [DocumentRun.step, same, ite_self]
  exact tracked

/-- One action, case by case. Texts count while the session runs. -/
theorem step {run : DocumentRun} (tracked : Tracked earlier run.given run.session)
    (action : SessionAction)
    : Tracked earlier (run.step action).given (run.step action).session := by
  cases action with
  | openDocument uri language text =>
      unfold DocumentRun.step
      cases running : run.session.isRunning with
      | false => exact (tracked.refused running uri language text).1
      | true => exact tracked.openDocument running uri language text
  | changeDocument text =>
      unfold DocumentRun.step
      cases running : run.session.isRunning with
      | false => exact (tracked.refused running "" "" text).2.1
      | true => exact tracked.changeDocument running text
  | closeDocument =>
      unfold DocumentRun.step
      cases running : run.session.isRunning with
      | false => exact (tracked.refused running "" "" "").2.2
      | true => exact tracked.closeDocument running
  | requestHandshake workspace => exact silent rfl (tracked.requestHandshake workspace)
  | requestShutdown => exact silent rfl (tracked.request _ (by intro name; simp))
  | requestCompletion position =>
      exact silent rfl (tracked.requestAboutDocument _ (by intro name; simp))
  | requestFormatting tabSize insertSpaces =>
      exact silent rfl (tracked.requestAboutDocument _ (by intro name; simp))
  | requestDefinition position =>
      exact silent rfl (tracked.requestAboutDocument _ (by intro name; simp))
  | requestReferences position includeDeclaration =>
      exact silent rfl (tracked.requestAboutDocument _ (by intro name; simp))
  | saveDocument text => exact silent rfl (tracked.saveDocument text)
  | releasePending => exact silent rfl tracked.releasePending
  | drainEvents => exact silent rfl (tracked.congr rfl rfl)
  | receive chunk => exact silent rfl (tracked.receive chunk)

/-- Every run that follows a start, by induction on its actions. -/
theorem after (earlier : Session) (transport : Transport) (actions : List SessionAction)
    : Tracked earlier.written (DocumentRun.after (earlier.start transport) actions).given
        (DocumentRun.after (earlier.start transport) actions).session := by
  suffices from_run
      : ∀ run : DocumentRun,
          Tracked earlier.written run.given run.session
          → Tracked earlier.written (actions.foldl DocumentRun.step run).given
              (actions.foldl DocumentRun.step run).session by
    refine from_run { session := earlier.start transport } ?_
    exact ⟨[], {}, (List.append_nil _).symm, rfl, Synced.start earlier transport⟩
  induction actions with
  | nil => exact fun run tracked => tracked
  | cons action rest ih => exact fun run tracked => ih (run.step action) (tracked.step action)

end Tracked

/-- A strict server takes every message of a run. While the connection holds and the
handshake has ended, it knows exactly the session's documents, by their versions and by the
texts given last; before that it knows none, and the texts given last are held back.
-/
theorem Session.mirror_agrees (earlier : Session) (transport : Transport)
    (actions : List SessionAction)
    : let run := DocumentRun.after (earlier.start transport) actions
      ∃ sent mirror,
        run.session.written = earlier.written ++ sent
        ∧ Mirror.replay {} sent = some mirror
        ∧ (run.session.isRunning = true
          → run.session.initialized = true
          → ∀ uri,
              (mirror.documents uri).map MirroredDocument.version
                = run.session.documentVersion? uri
              ∧ (mirror.documents uri).map MirroredDocument.text = run.given.texts uri)
        ∧ (run.session.initialized = false
          → ∀ uri,
              mirror.documents uri = none
              ∧ (Keyed.get? uri run.session.documents).map OpenDocument.unopenedText
                = (run.given.texts uri).map some) := by
  intro run
  obtain ⟨sent, mirror, frames, replayed, synced⟩ :=
    Tracked.after earlier transport actions
  refine ⟨sent, mirror, frames, replayed, ?_, ?_⟩
  · intro running initialized uri
    obtain ⟨documents, texts⟩ := synced.told running initialized uri
    have versions := congrArg (Option.map Prod.fst) documents
    simp only [Option.map_map] at versions
    exact ⟨versions.symm, texts.symm⟩
  · intro uninitialized uri
    obtain ⟨nothing, held⟩ := synced.held uninitialized
    have texts := congrArg (Option.map Prod.snd) (held uri)
    simp only [Option.map_map] at texts
    exact ⟨congrFun nothing uri, texts⟩

end LanguageClient
