import LanguageClient.Proofs.Client.AcceptedWord
import LanguageClient.Proofs.Client.Display
import LanguageClient.Proofs.Editor.LineEditor

/-! The text that formatting edits are applied to. It is the last one that the server has been
told, so it is the text of the request unless another one has been told since: a change of the
text does not make the reply unwanted.
-/

namespace LanguageClient

open Json (Value)

variable {σ : Type} [Host σ]

/-- An editor whose text only changes when some of it is replaced or another document is shown,
which then has a path.
-/
class SteadyText (σ : Type) [Host σ] : Prop where
  text_showStatus
    : ∀ (message : String) (host : σ),
        Host.documentText (Host.showStatus message host) = Host.documentText host
  text_showOverlay
    : ∀ (overlay : Overlay) (host : σ),
        Host.documentText (Host.showOverlay overlay host) = Host.documentText host
  text_hideOverlay : ∀ host : σ, Host.documentText (Host.hideOverlay host) = Host.documentText host
  text_setCursor
    : ∀ (point : TextPoint) (host : σ),
        Host.documentText (Host.setCursor point host) = Host.documentText host
  text_openFile
    : ∀ {path reason : String} {host unopened : σ},
        Host.openFile path host = (.error reason, unopened)
        → Host.documentText unopened = Host.documentText host
  path_openFile
    : ∀ {path : String} {host opened : σ},
        Host.openFile path host = (.ok (), opened) → (Host.documentPath opened).isSome = true

-----------------------------------------------------------------------------------------
-- Operations that give no text
-----------------------------------------------------------------------------------------

namespace Client

/-- The text is the same, and the session has been given none. -/
structure Still (before after : Client × σ) : Prop where
  session : Session.Neutral before.1.session after.1.session
  text : Host.documentText after.2 = Host.documentText before.2

namespace Still

theorem of_session {client changed : Client} {host changedHost : σ}
    (session : changed.session = client.session)
    (text : Host.documentText changedHost = Host.documentText host)
    : Still (client, host) (changed, changedHost) :=
  ⟨session ▸ .refl _, text⟩

end Still

variable [SteadyText σ]

/-- What is shown leaves the text as it is. -/
theorem text_displayed {host shown : σ} (displayed : Displayed host shown)
    : Host.documentText shown = Host.documentText host :=
  displayed.keeps SteadyText.text_showStatus SteadyText.text_showOverlay
    SteadyText.text_hideOverlay

theorem Displays.still {before after : Client × σ} (displays : Displays before after)
    : Still before after :=
  ⟨displays.session, text_displayed displays.host⟩

theorem text_moveTo (host : σ) (path : String) (location : Location)
    : Host.documentText (moveTo host path location) = Host.documentText host :=
  (SteadyText.text_showStatus _ _).trans (SteadyText.text_setCursor _ host)

end Client

-----------------------------------------------------------------------------------------
-- Runs with a record of formatting
-----------------------------------------------------------------------------------------

/-- A formatting request when it goes out. -/
structure FormattingRequest where
  handle : RequestHandle
  /-- The document that it is about. -/
  active : Option String
  /-- The text in the editor. -/
  text : String
  /-- What has gone out before. -/
  written : List Value

/-- A formatting reply whose edits are about to be applied. -/
structure AppliedReply where
  handle : RequestHandle
  /-- The latest formatting request that has gone out. -/
  request : Option FormattingRequest
  /-- The document that the session is about by now. -/
  active : Option String
  /-- The text that the edits are applied to. -/
  text : String
  /-- What has gone out by now. -/
  written : List Value

/-- A client and its editor after some actions, with a record of formatting. -/
structure FormattingRun (σ : Type) where
  state : Client × σ
  /-- The latest formatting request that has gone out. -/
  request : Option FormattingRequest := none
  applied : List AppliedReply := []

namespace FormattingRun

/-- The record of an event, made before it is handled. -/
def record (run : FormattingRun σ) : SessionEvent → List AppliedReply
  | .reply handle (.formatting (_ :: _)) =>
    [
      {
        handle
        request := run.request
        active := run.state.1.session.active
        text := Host.documentText run.state.2
        written := run.state.1.session.written
      }
    ]
  | _ => []

/-- One event more. -/
def take (run : FormattingRun σ) (event : SessionEvent) : FormattingRun σ :=
  { run with
    state := Client.turn run.state event
    applied := run.applied ++ run.record event }

/-- The session does something by itself. -/
def withSession (run : FormattingRun σ) (session : Session) : FormattingRun σ :=
  { run with state := ({ run.state.1 with session }, run.state.2) }

/-- The events that wait. -/
def takeAll (run : FormattingRun σ) : FormattingRun σ :=
  run.state.1.session.drainEvents.1.foldl take
    (run.withSession run.state.1.session.drainEvents.2)

/-- The record of a formatting request, if it goes out. -/
def ask (run : FormattingRun σ) : Option FormattingRequest :=
  let (client, host) := run.state
  match (client.session.requestFormatting client.tabSize client.insertSpaces).1 with
  | .ok handle =>
    some
      {
        handle
        active := client.session.active
        text := Host.documentText host
        written := client.session.written
      }
  | .error _ => run.request

/-- One action more. -/
def step (run : FormattingRun σ) : ClientAction σ → FormattingRun σ
  | .receive chunk | .handleServerEvent (.output chunk) =>
    (run.withSession (run.state.1.session.receive chunk)).takeAll
  | .processEvents => run.takeAll
  | .format => { run with state := ClientAction.format.run run.state, request := run.ask }
  | action => { run with state := action.run run.state }

theorem takeAll_state (run : FormattingRun σ)
    : run.takeAll.state = ClientAction.processEvents.run run.state :=
  (List.foldl_hom state fun _ _ => rfl).symm

/-- The record changes nothing. -/
theorem step_state (run : FormattingRun σ) (action : ClientAction σ)
    : (run.step action).state = action.run run.state := by
  unfold step
  split
  · exact takeAll_state _
  · exact takeAll_state _
  · exact takeAll_state _
  · rfl
  · rfl

end FormattingRun

/-- Nobody but the client uses the session, and the editor changes its text with a word. -/
def ClientAction.TellsText (state : Client × σ) : ClientAction σ → Prop
  | useSession _ => False
  | alter change => Host.documentText (change state.2) = Host.documentText state.2
  | _ => True

/-- The runs of a new client in any editor. -/
inductive FormattingRun.Reached : FormattingRun σ → Prop where
  | start (options : SessionOptions) (limits : OverlayLimits) (host : σ)
    : Reached { state := (.new options limits, host) }
  | next {run : FormattingRun σ} (reached : Reached run) (action : ClientAction σ)
    (told : action.TellsText run.state)
    : Reached (run.step action)

-----------------------------------------------------------------------------------------
-- The invariant
-----------------------------------------------------------------------------------------

/-- A formatting that a session awaits is the one on record, and the session is still about a
document that the server knows.
-/
def Session.AwaitsOnRecord (session : Session) (request : Option FormattingRequest) : Prop :=
  ∀ pending,
    session.AwaitsFormatting pending
    → pending.retain = false
      ∧ session.isRunning = true
      ∧ session.initialized = true
      ∧ session.active.isSome = true
      ∧ ∃ asked uri,
          request = some asked
          ∧ asked.handle = { id := pending.id, method := .formatting }
          ∧ asked.active = some uri
          ∧ lastTold? uri asked.written = some asked.text
          ∧ asked.written <+: session.written

/-- The edits are those of the latest request, which was about the text told last, and they are
applied to the text told last.
-/
def AppliedReply.Faithful (reply : AppliedReply) : Prop :=
  ∃ request uri active since,
    reply.request = some request
    ∧ request.handle = reply.handle
    ∧ request.active = some uri
    ∧ lastTold? uri request.written = some request.text
    ∧ reply.active = some active
    ∧ reply.written = request.written ++ since
    ∧ lastTold? active reply.written = some reply.text

/-- What every run keeps: the editor's text is the one told last, and the record is right. -/
structure FormattingRun.Sound (run : FormattingRun σ) : Prop where
  told : run.state.1.session.Told (Host.documentText run.state.2)
  awaited : run.state.1.session.AwaitsOnRecord run.request
  settled : run.state.1.session.events = []
  applied : ∀ reply ∈ run.applied, reply.Faithful

theorem Session.AwaitsOnRecord.follows {before after : Session}
    {request : Option FormattingRequest} (awaited : before.AwaitsOnRecord request)
    (follows : Session.Follows before after)
    : after.AwaitsOnRecord request := by
  intro pending awaits
  obtain ⟨awaitedBefore, running⟩ := follows.awaited pending awaits
  obtain ⟨alone, runs, initialized, active, asked, uri, same, handle, about, told, earlier⟩ :=
    awaited pending awaitedBefore
  exact ⟨alone, running.trans runs, follows.initialized initialized, follows.active active, asked,
    uri, same, handle, about, told, earlier.trans follows.written⟩

theorem Session.AwaitsOnRecord.formatsOnce {session : Session}
    {request : Option FormattingRequest} (awaited : session.AwaitsOnRecord request)
    : session.FormatsOnce :=
  fun pending awaits => (awaited pending awaits).1

/-- Without a request there is nothing to await. -/
theorem Session.awaitsOnRecord_of_none {session : Session} (none : session.pending = none)
    (request : Option FormattingRequest)
    : session.AwaitsOnRecord request :=
  fun _ awaits => absurd (awaits.1.symm.trans none) nofun

namespace FormattingRun.Sound

variable {run : FormattingRun σ}

/-- Operations that give no text. -/
theorem still (sound : run.Sound) {state : Client × σ} (still : Client.Still run.state state)
    : Sound { run with state } where
  told := still.text ▸ still.session.told sound.told
  awaited := sound.awaited.follows still.session.toFollows
  settled := List.suffix_nil.mp (sound.settled ▸ still.session.events)
  applied := sound.applied

/-- Operations that only show something. -/
theorem displays [SteadyText σ] (sound : run.Sound) {state : Client × σ}
    (displays : Client.Displays run.state state)
    : Sound { run with state } :=
  sound.still displays.still

/-- Without a server nothing is awaited and nothing can be told. -/
theorem fresh (sound : run.Sound) {client : Client} {host : σ}
    (told : client.session.Told (Host.documentText host)) (awaited : client.session.pending = none)
    (settled : client.session.events = [])
    : Sound { run with state := (client, host) } :=
  ⟨told, Session.awaitsOnRecord_of_none awaited _, settled, sound.applied⟩

/-- The active document is given the editor's text, whatever that is. -/
theorem changed (sound : run.Sound) {client : Client}
    (neutral : Session.Neutral run.state.1.session client.session) (host : σ) [SteadyText σ]
    : Sound { run with state := client.documentChanged host } := by
  have told := neutral.told sound.told
  have awaited := sound.awaited.follows neutral.toFollows
  have settled : client.session.events = [] :=
    List.suffix_nil.mp (sound.settled ▸ neutral.events)
  unfold Client.documentChanged
  dsimp only
  split
  · have given
        : Sound
            { run with
              state :=
                ({ client with
                    session := (client.session.changeDocument (Host.documentText host)).2 },
                  host) } := by
      refine ⟨told.changeDocument _, awaited.follows (Session.changeDocument_follows _ _), ?_,
        sound.applied⟩
      exact List.suffix_nil.mp (settled ▸ (Session.changeDocument_quiet _ _).events)
    exact given.displays (Client.updateCompletion_displays _ host)
  · rename_i inactive
    have given : Sound { run with state := (client, host) } :=
      ⟨told.of_inactive (by simpa using inactive) _, awaited, settled, sound.applied⟩
    exact given.displays (Client.updateCompletion_displays _ host)

/-- The editor's document is opened with the editor's text. A document without a path keeps its
text.
-/
theorem opened (sound : run.Sound) (host : σ)
    (known
      : Host.documentPath host = none
        → Host.documentText host = Host.documentText run.state.2)
    : Sound { run with state := ((run.state.1.openActiveDocument host).2, host) } := by
  unfold Client.openActiveDocument
  split
  · rename_i unnamed
    have told := sound.told
    rw [← known unnamed] at told
    exact ⟨told, sound.awaited, sound.settled, sound.applied⟩
  · refine ⟨sound.told.openDocument _ _ _,
      sound.awaited.follows (Session.openDocument_follows _ _ _ _), ?_, sound.applied⟩
    exact List.suffix_nil.mp (sound.settled ▸ (Session.openDocument_quiet _ _ _ _).events)

variable [SteadyText σ]

/-- A jump shows a text that is told, or keeps the one that is shown. -/
theorem jumpTo (sound : run.Sound) (location : Location)
    : Sound { run with state := run.state.1.jumpTo run.state.2 location } := by
  have shown {host : σ} (same : Host.documentText host = Host.documentText run.state.2)
      (message : String)
      : Sound { run with state := (run.state.1, Host.showStatus message host) } :=
    sound.still (.of_session rfl ((SteadyText.text_showStatus _ _).trans same))
  unfold Client.jumpTo
  split
  · exact shown rfl _
  · dsimp only
    split
    · exact sound.still (.of_session rfl (Client.text_moveTo _ _ _))
    · split
      · rename_i failed
        exact shown (SteadyText.text_openFile failed) _
      · rename_i opened outcome
        have named := SteadyText.path_openFile outcome
        have told := sound.opened opened fun unnamed => by
          rw [unnamed] at named
          cases named
        exact told.still (.of_session rfl (Client.text_moveTo _ _ _))

-----------------------------------------------------------------------------------------
-- Events
-----------------------------------------------------------------------------------------

/-- A message for the user. -/
theorem shows (sound : run.Sound) (message : String)
    : Sound { run with state := (run.state.1, Host.showStatus message run.state.2) } :=
  sound.still (.of_session rfl (SteadyText.text_showStatus _ _))

/-- A reply that brings no edits. -/
theorem handleReply (sound : run.Sound) (handle : RequestHandle) (reply : Reply)
    (plain : (SessionEvent.reply handle reply).formats = false)
    : Sound { run with state := run.state.1.handleReply run.state.2 reply } := by
  cases reply with
  | completion candidates => exact sound.displays (Client.showCandidates_displays _ _ candidates)
  | formatting edits =>
      cases edits with
      | nil => exact sound.shows _
      | cons edit rest => cases plain
  | definition locations =>
      cases locations with
      | nil => exact sound.shows _
      | cons location rest => exact sound.jumpTo location
  | references locations =>
      cases locations with
      | nil => exact sound.shows _
      | cons location rest => exact sound.displays (Client.showReferences_displays _ _ _)
  | error reason => exact sound.shows _
  | handshake _ | shutdown | other _ => exact sound

/-- An event that brings no edits. -/
theorem take (sound : run.Sound) {event : SessionEvent} (plain : event.formats = false)
    : (run.take event).Sound := by
  have nothing : run.record event = [] := by
    unfold record
    split
    · cases plain
    · rfl
  unfold FormattingRun.take
  rw [nothing, List.append_nil]
  cases event with
  | initialized info => exact sound.shows _
  | reply handle reply => exact sound.handleReply handle reply plain
  | diagnostics publication =>
      exact sound.still (.of_session rfl (Client.text_displayed (Client.showCounts_displayed _ _)))
  | shown notice => exact sound.shows _
  | logged notice => exact sound

/-- Events that bring no edits, by induction on them. -/
theorem foldl_take (sound : run.Sound) {events : List SessionEvent}
    (plain : ∀ event ∈ events, event.formats = false)
    : (events.foldl FormattingRun.take run).Sound := by
  induction events generalizing run with
  | nil => exact sound
  | cons event rest ih =>
      obtain ⟨first, others⟩ := List.forall_mem_cons.mp plain
      exact ih (sound.take first) others

/-- Edits are applied to the text as it is, and the outcome is told. -/
theorem apply (sound : run.Sound) (handle : RequestHandle) (edit : TextEdit)
    (rest : List TextEdit)
    (faithful
      : ∀ reply ∈ run.record (.reply handle (.formatting (edit :: rest))), reply.Faithful)
    : (run.take (.reply handle (.formatting (edit :: rest)))).Sound := by
  have changed := sound.changed (.refl _) (Client.applyEdits run.state.2 (edit :: rest))
  have told := changed.shows
    ("applied " ++ toString (edit :: rest).length ++ " formatting edits")
  refine ⟨told.told, told.awaited, told.settled, ?_⟩
  intro reply listed
  rcases List.mem_append.mp listed with earlier | new
  · exact sound.applied reply earlier
  · exact faithful reply new

/-- Notices leave the client and the text as they are, by induction on them. -/
theorem foldl_take_notices (run : FormattingRun σ) {events : List SessionEvent}
    (notices : ∀ event ∈ events, event.replyHandle? = none)
    : let last := events.foldl FormattingRun.take run
      last.state.1 = run.state.1
      ∧ Host.documentText last.state.2 = Host.documentText run.state.2
      ∧ last.request = run.request := by
  induction events generalizing run with
  | nil => exact ⟨rfl, rfl, rfl⟩
  | cons event rest ih =>
      obtain ⟨first, others⟩ := List.forall_mem_cons.mp notices
      obtain ⟨client, text, request⟩ := ih (run.take event) others
      refine ⟨client.trans ?_, text.trans ?_, request⟩
      · cases event with
        | reply handle reply => cases first
        | initialized _ | diagnostics _ | shown _ | logged _ => rfl
      · cases event with
        | reply handle reply => cases first
        | initialized info => exact SteadyText.text_showStatus _ _
        | diagnostics publication => exact Client.text_displayed (Client.showCounts_displayed _ _)
        | shown notice => exact SteadyText.text_showStatus _ _
        | logged notice => rfl

-----------------------------------------------------------------------------------------
-- Actions
-----------------------------------------------------------------------------------------

omit [SteadyText σ] in
/-- The edits of a request on record are applied to the text told last, since nothing that
arrives tells one.
-/
theorem faithful_of_answering (sound : run.Sound) {pending : PendingRequest}
    (awaits : run.state.1.session.AwaitsFormatting pending) {session : Session}
    (answering : Session.Answering run.state.1.session pending session)
    (later : run.state.1.session.written <+: session.written)
    : AppliedReply.Faithful
        {
          handle := { id := pending.id, method := .formatting }
          request := run.request
          active := session.active
          text := Host.documentText run.state.2
          written := session.written
        } := by
  obtain ⟨_, running, initialized, active, asked, uri, same, handle, about, told, earlier⟩ :=
    sound.awaited pending awaits
  obtain ⟨active, isActive⟩ := Option.isSome_iff_exists.mp active
  obtain ⟨since, frames⟩ := earlier.trans later
  refine ⟨asked, uri, active, since, same, handle, about, told,
    answering.active.trans isActive, frames.symm, ?_⟩
  rw [answering.told]
  exact sound.told.lastTold?_eq running initialized isActive

/-- Among notices the edits are applied to the same text as without them. -/
theorem foldl_take_reply (sound : run.Sound) {front back : List SessionEvent}
    {handle : RequestHandle} {edit : TextEdit} {rest : List TextEdit}
    (before : ∀ event ∈ front, event.replyHandle? = none)
    (after : ∀ event ∈ back, event.replyHandle? = none)
    (faithful
      : ∀ reply ∈ run.record (.reply handle (.formatting (edit :: rest))), reply.Faithful)
    : Sound
        ((front ++ .reply handle (.formatting (edit :: rest)) :: back).foldl FormattingRun.take
          run) := by
  rw [List.foldl_append, List.foldl_cons]
  have noticed := sound.foldl_take fun event member =>
    SessionEvent.formats_of_notice (before event member)
  obtain ⟨client, text, request⟩ := foldl_take_notices run before
  have same
      : (front.foldl FormattingRun.take run).record (.reply handle (.formatting (edit :: rest)))
        = run.record (.reply handle (.formatting (edit :: rest))) := by
    unfold record
    dsimp only
    rw [client, text, request]
  have applied := noticed.apply handle edit rest (same ▸ faithful)
  exact applied.foldl_take fun event member =>
    SessionEvent.formats_of_notice (after event member)

/-- Bytes arrive. Either none of their events brings edits, or one does, and the others are
notices.
-/
theorem receive (sound : run.Sound) (chunk : List UInt8)
    : (run.withSession (run.state.1.session.receive chunk)).takeAll.Sound := by
  have follows := Session.receive_follows sound.awaited.formatsOnce chunk
  have drained : (run.withSession (run.state.1.session.receive chunk).drainEvents.2).Sound := by
    obtain ⟨earlier, given, tracked, current⟩ := sound.told
    refine ⟨⟨earlier, given, (tracked.receive chunk).congr rfl rfl, ?_⟩, ?_, rfl, sound.applied⟩
    · exact fun runs => current (follows.running runs)
    · exact fun pending awaits => sound.awaited.follows follows pending awaits
  unfold takeAll
  by_cases edits : ∃ event ∈ (run.state.1.session.receive chunk).events, event.formats = true
  · obtain ⟨event, waits, formats⟩ := edits
    have awaited : ∃ pending, run.state.1.session.AwaitsFormatting pending := by
      refine Classical.byContradiction fun none => ?_
      have unformatted : run.state.1.session.Unformatted := by
        refine ⟨fun pending awaits => none ⟨pending, awaits⟩, ?_⟩
        rw [sound.settled]
        exact fun _ => nofun
      have plain := (unformatted.receive chunk).events event waits
      exact absurd (formats.symm.trans plain) (by decide)
    obtain ⟨pending, awaits⟩ := awaited
    have answering := Session.Answering.receive awaits (sound.awaited pending awaits).1
      sound.settled chunk
    obtain ⟨front, back, split⟩ := List.append_of_mem waits
    obtain ⟨handle, edit, rest, rfl⟩ := SessionEvent.exists_of_formats formats
    obtain ⟨rfl, before, after⟩ := answering.only_reply split
    have faithful := sound.faithful_of_answering awaits answering follows.written
    have applied := @foldl_take_reply _ _ _ _ drained front back _ edit rest before after (by
      intro reply listed
      obtain rfl := List.mem_singleton.mp listed
      exact faithful)
    rw [← split] at applied
    exact applied
  · exact drained.foldl_take fun event waits =>
      Bool.eq_false_iff.mpr fun formats => edits ⟨event, waits, formats⟩

/-- Between actions no event waits. -/
theorem processEvents (sound : run.Sound) : run.takeAll.Sound := by
  obtain ⟨earlier, given, tracked, current⟩ := sound.told
  have drained : (run.withSession run.state.1.session.drainEvents.2).Sound :=
    ⟨⟨earlier, given, tracked.congr rfl rfl, current⟩, sound.awaited, rfl, sound.applied⟩
  unfold takeAll
  refine drained.foldl_take fun event waits => ?_
  rw [Session.drainEvents, sound.settled] at waits
  cases waits

/-- A formatting request that goes out is on record with the text that has been told. -/
theorem format (sound : run.Sound)
    : Sound { run with state := ClientAction.format.run run.state, request := run.ask } := by
  obtain ⟨⟨client, host⟩, request, applied⟩ := run
  unfold ClientAction.run Client.format ask
  dsimp only
  rcases client.session.requestFormatting_cases client.tabSize client.insertSpaces with
    ⟨error, after, refused, neutral⟩ |
      ⟨uri, transport, params, running, initialized, active, sent⟩
  · rw [refused]
    exact sound.displays (Client.asked_displays client host neutral)
  · obtain ⟨earlier, given, tracked, current⟩ := sound.told
    have tracked
        : Tracked earlier given
            (client.session.requestFormatting client.tabSize client.insertSpaces).2 :=
      tracked.requestAboutDocument _ fun _ => nofun
    rw [sent] at tracked ⊢
    refine ⟨⟨earlier, given, tracked, fun _ => current running⟩, ?_, sound.settled, sound.applied⟩
    rintro pending ⟨slot, _⟩
    have next : some (client.session.nextPending .formatting) = some pending := slot
    rw [Session.nextPending_formatting] at next
    obtain rfl := Option.some.inj next
    refine ⟨rfl, rfl, initialized, congrArg Option.isSome active, _, uri, rfl, rfl, active, ?_,
      List.prefix_append _ _⟩
    exact sound.told.lastTold?_eq running initialized active

omit [SteadyText σ] in
/-- A server that is detached is forgotten. -/
theorem stop (sound : run.Sound) (client : Client) (host : σ)
    : Sound { run with state := client.stop host } :=
  sound.fresh (Session.told_of_reset _ _) rfl rfl

omit [SteadyText σ] in
/-- A server that is attached is greeted and told about the editor's document. -/
theorem start (sound : run.Sound) (client : Client) (host : σ) (transport : Transport)
    (root : String)
    : Sound { run with state := (client.start host transport root).2 } := by
  unfold Client.start
  generalize client.closeCompletion host = closed
  obtain ⟨closed, hidden⟩ := closed
  dsimp only
  have started
      : Sound
          { run with
            state := ({ closed with session := closed.session.start transport }, hidden) } :=
    sound.fresh (Session.told_of_start _ _ _) rfl rfl
  have neutral := (closed.session.start transport).requestHandshake_neutral
    (Workspace.ofPath (Host.files hidden) root)
  cases greeting
    : (closed.session.start transport).requestHandshake
        (Workspace.ofPath (Host.files hidden) root) with
  | mk result session =>
      rw [greeting] at neutral
      have greeted : Sound { run with state := ({ closed with session }, hidden) } :=
        started.still ⟨neutral, rfl⟩
      cases result with
      | error error => exact greeted
      | ok handle => exact greeted.opened hidden fun _ => rfl

/-- An accepted candidate is a change that is told. -/
theorem acceptCompletion (sound : run.Sound)
    : Sound { run with state := (run.state.1.acceptCompletion run.state.2).2 } := by
  unfold Client.acceptCompletion
  split
  · exact sound
  · split
    · exact sound.displays (Client.closeCompletion_displays _ _)
    · dsimp only
      generalize (Host.setCursor _ _ : σ) = moved
      exact sound.changed (Client.closeCompletion_displays _ moved).session _

/-- Every action keeps the record right. -/
theorem step (sound : run.Sound) (action : ClientAction σ) (told : action.TellsText run.state)
    : (run.step action).Sound := by
  cases action with
  | start transport root => exact sound.start _ _ transport root
  | restart transport root => exact sound.start _ _ transport root
  | stop => exact sound.stop _ _
  | setIndent tabSize insertSpaces => exact sound.still (.of_session rfl rfl)
  | useSession use => exact told.elim
  | openActiveDocument => exact sound.opened run.state.2 fun _ => rfl
  | save => exact sound.displays (Client.save_displays _ _)
  | triggerCompletion => exact sound.displays (Client.triggerCompletion_displays _ _)
  | navigate move => exact sound.displays (Client.navigate_displays _ _ move)
  | acceptCompletion => exact sound.acceptCompletion
  | closeCompletion => exact sound.displays (Client.closeCompletion_displays _ _)
  | format => exact sound.format
  | goToDefinition =>
      exact sound.displays (Client.asked_displays _ _
        (Session.requestAboutDocument_neutral _ _ (fun _ => nofun) nofun))
  | findReferences =>
      exact sound.displays (Client.asked_displays _ _
        (Session.requestAboutDocument_neutral _ _ (fun _ => nofun) nofun))
  | showLineDiagnostics => exact sound.displays (Client.showLineDiagnostics_displays _ _)
  | processEvents => exact sound.processEvents
  | receive chunk => exact sound.receive chunk
  | handleServerEvent event =>
      cases event with
      | output chunk => exact sound.receive chunk
      | errorLine text => exact sound
      | exited status =>
          have stopped := sound.stop run.state.1 run.state.2
          exact stopped.shows _
  | edit change => exact sound.changed (.refl _) (change run.state.2)
  | alter change => exact sound.still (.of_session rfl told)

end FormattingRun.Sound

/-- Every run keeps the record right, by induction on its actions. -/
theorem FormattingRun.Reached.sound [SteadyText σ] {run : FormattingRun σ}
    (reached : run.Reached)
    : run.Sound := by
  induction reached with
  | start options limits host =>
      exact ⟨Session.told_of_reset { options } _, Session.awaitsOnRecord_of_none rfl _, rfl,
        fun _ => nofun⟩
  | next _ action told sound => exact sound.step action told

namespace Client

/-- Whatever happens between a formatting request and its reply, the edits are applied to the
text that the server has been told last, and the request was about the text that had been told
last by then. So the edits are applied to the text of their request exactly if no text of the
document has been told since, or the last one is the same again.
-/
theorem formatting_applies_to_last_told [SteadyText σ] {run : FormattingRun σ}
    (reached : run.Reached) {reply : AppliedReply} (applied : reply ∈ run.applied)
    : ∃ request uri active since,
        reply.request = some request
        ∧ request.handle = reply.handle
        ∧ request.active = some uri
        ∧ lastTold? uri request.written = some request.text
        ∧ reply.active = some active
        ∧ reply.written = request.written ++ since
        ∧ lastTold? active reply.written = some reply.text
        ∧ (active = uri
          → (reply.text = request.text
            ↔ ∀ text, lastTold? uri since = some text → text = request.text)) := by
  obtain ⟨request, uri, active, since, same, handle, about, requested, now, frames, told⟩ :=
    reached.sound.applied reply applied
  refine ⟨request, uri, active, since, same, handle, about, requested, now, frames, told, ?_⟩
  rintro rfl
  rw [frames, lastTold?_append, requested] at told
  cases later : lastTold? active since with
  | none =>
      rw [later, Option.none_or] at told
      simp [Option.some.inj told]
  | some text =>
      rw [later, Option.some_or] at told
      obtain rfl := Option.some.inj told
      simp

end Client

-----------------------------------------------------------------------------------------
-- Editors with a steady text
-----------------------------------------------------------------------------------------

namespace LineEditor

theorem scrollToCursor_buffer (editor : LineEditor)
    : editor.scrollToCursor.buffer = editor.buffer := by
  obtain ⟨scrollTop, scrolled⟩ := editor.scrollToCursor_eq
  rw [scrolled]

/-- A file that is shown has been read. -/
theorem openFile_ok {path : String} {editor opened : LineEditor}
    (outcome : editor.openFile path = (.ok (), opened))
    : opened.path = path ∧ ∃ text, editor.files.read path = .ok text := by
  unfold openFile at outcome
  split at outcome
  · cases (Prod.mk.inj outcome).1
  · split at outcome
    · cases (Prod.mk.inj outcome).1
    · rename_i text content
      rw [← (Prod.mk.inj outcome).2]
      exact ⟨rfl, text, content⟩

theorem openFile_error {path reason : String} {editor unopened : LineEditor}
    (failed : editor.openFile path = (.error reason, unopened))
    : unopened = editor := by
  unfold openFile at failed
  split at failed
  · exact (Prod.mk.inj failed).2.symm
  · split at failed
    · exact (Prod.mk.inj failed).2.symm
    · cases (Prod.mk.inj failed).1

end LineEditor

/-- Only a path that has something in it leads to a file. -/
theorem FileTree.isEmpty_of_read {tree : FileTree} {path text : String}
    (content : tree.read path = .ok text)
    : path.isEmpty = false := by
  unfold read locate at content
  split at content
  · cases content
  · rename_i place located
    split at located
    · cases located
    · rename_i filled
      exact Bool.eq_false_iff.mpr filled

instance : SteadyText LineEditor where
  text_showStatus _ _ := rfl
  text_showOverlay _ _ := rfl
  text_hideOverlay _ := rfl
  text_setCursor point editor :=
    congrArg (fun buffer : TextBuffer => String.ofList buffer.text)
      (LineEditor.scrollToCursor_buffer { editor with cursor := editor.buffer.clamp point })
  text_openFile failed := congrArg LineEditor.text (LineEditor.openFile_error failed)
  path_openFile := by
    intro path host opened outcome
    obtain ⟨shown, text, content⟩ := LineEditor.openFile_ok outcome
    change (Path.absolute? (FileTree.pathOf opened.files.current) opened.path).isSome = true
    rw [shown, Path.absolute?, FileTree.isEmpty_of_read content]
    rfl

instance : SteadyText RecordedEditor where
  text_showStatus _ _ := rfl
  text_showOverlay _ _ := rfl
  text_hideOverlay _ := rfl
  text_setCursor _ _ := rfl
  text_openFile failed := by
    rw [RecordedEditor.openFile_error failed]
    rfl
  path_openFile := by
    intro path host opened outcome
    change RecordedEditor.openFile path host = _ at outcome
    unfold RecordedEditor.openFile at outcome
    dsimp only at outcome
    split at outcome
    · cases (Prod.mk.inj outcome).1
    · rw [← (Prod.mk.inj outcome).2]
      rfl

-----------------------------------------------------------------------------------------
-- A server that answers
-----------------------------------------------------------------------------------------

/-- The answer of a server to a request arrives. -/
def arrival (id : Nat) (result : Value) : ClientAction RecordedEditor :=
  .receive
    (Frame.ofMessage
      (.ofFields [("jsonrpc", .text "2.0"), ("id", .ofNat id), ("result", result)]))

/-- A server that is ready has been asked for completions. -/
def triggeredState : Client × RecordedEditor :=
  ClientAction.triggerCompletion.run
    ((arrival 0 (.ofFields [])).run ((ClientAction.start {} "/").run idleState))

/-- It suggests a candidate. -/
def suggestion : ClientAction RecordedEditor :=
  arrival 1 (.array [.ofFields [("label", .text "foo")]])

-----------------------------------------------------------------------------------------
-- Runs with one formatting
-----------------------------------------------------------------------------------------

/-- The first line is to be removed. -/
def lineEdits : Value :=
  .array
    [
      .ofFields
        [
          (
            "range",
            Range.toValue
              { start := { line := 0, character := 0 }, stop := { line := 1, character := 0 } }
          )
        ]
    ]

/-- A server that is ready is asked to format three lines. -/
def askedRun : FormattingRun RecordedEditor :=
  let started : FormattingRun RecordedEditor := { state := idleState }
  ((started.step (.start {} "/")).step (arrival 0 (.ofFields []))).step .format

/-- It answers. -/
def formattedRun : FormattingRun RecordedEditor :=
  askedRun.step (arrival 1 lineEdits)

/-- The user puts a line in front of the others. -/
def insertion : ClientAction RecordedEditor :=
  .edit fun editor => editor.edit { line := 0, column := 0 } { line := 0, column := 0 } "x\n"

/-- It answers after a change. -/
def misformattedRun : FormattingRun RecordedEditor :=
  (askedRun.step insertion).step (arrival 1 lineEdits)

theorem reached_askedRun : askedRun.Reached :=
  (((FormattingRun.Reached.start {} {} wordEditor).next (.start {} "/") trivial).next
    (arrival 0 (.ofFields [])) trivial).next .format trivial

namespace Client

/-- Without a change in between the edits are applied to the text of their request. -/
theorem formatting_applies_to_first_text
    : formattedRun.Reached
      ∧ (formattedRun.applied.length = 1
        ∧ formattedRun.state.2.buffer.text = "bar\nbaz".toList)
      ∧ ∀ reply ∈ formattedRun.applied,
          ∃ request uri active since,
            reply.request = some request
            ∧ request.handle = reply.handle
            ∧ request.active = some uri
            ∧ lastTold? uri request.written = some request.text
            ∧ reply.active = some active
            ∧ reply.written = request.written ++ since
            ∧ lastTold? active reply.written = some reply.text
            ∧ (active = uri
              → (reply.text = request.text
                ↔ ∀ text, lastTold? uri since = some text → text = request.text)) := by
  have reached : formattedRun.Reached := reached_askedRun.next (arrival 1 lineEdits) trivial
  refine ⟨reached, by decide +kernel, fun reply applied => ?_⟩
  exact formatting_applies_to_last_told reached applied

/-- After a change the edits are applied to the changed text: instead of the first line of the
request, the line that has been put in front of it is removed.
-/
theorem formatting_applies_to_changed_text
    : misformattedRun.Reached
      ∧ (misformattedRun.applied.map fun reply => (reply.handle, reply.text))
        = [({ id := 1, method := .formatting }, "x\nfo\nbar\nbaz")]
      ∧ ((misformattedRun.applied.filterMap AppliedReply.request).map fun request =>
          (request.handle, request.active, lastTold? "file:///a" request.written))
        = [
            ({ id := 1, method := .formatting }, some "file:///a", some "fo\nbar\nbaz")
          ]
      ∧ misformattedRun.state.2.buffer.text = "fo\nbar\nbaz".toList := by
  refine ⟨?_, by decide +kernel⟩
  exact (reached_askedRun.next insertion trivial).next (arrival 1 lineEdits) trivial

end Client

end LanguageClient
