import LanguageClient.Editor.Recorded
import LanguageClient.Proofs.Client.TypedWord

/-! An accepted candidate takes the place of the word before the cursor. The one thing that
can come between the two is a definition: going there leaves the menu open, so the text from
the word to the new cursor is lost unless the cursor stays on the word.
-/

namespace LanguageClient

variable {σ : Type} [Host σ]

-----------------------------------------------------------------------------------------
-- Editors that are watched
-----------------------------------------------------------------------------------------

/-- A replacement that an editor has been asked for. -/
structure Replacement where
  start : TextPoint
  stop : TextPoint
  text : String
deriving DecidableEq, Repr

/-- Any editor, with the replacements that it has been asked for. -/
structure Watched (σ : Type) where
  host : σ
  replaced : List Replacement := []

namespace Watched

instance : Host (Watched σ) where
  documentPath watched := Host.documentPath watched.host
  language watched := Host.language watched.host
  documentText watched := Host.documentText watched.host
  lineText watched := Host.lineText watched.host
  cursor watched := Host.cursor watched.host
  setCursor point watched := { watched with host := Host.setCursor point watched.host }
  replaceRange start stop text watched :=
    {
      host := Host.replaceRange start stop text watched.host
      replaced := watched.replaced ++ [{ start, stop, text }]
    }
  openFile path watched :=
    let (result, host) := Host.openFile path watched.host
    (result, { watched with host })
  showStatus message watched := { watched with host := Host.showStatus message watched.host }
  showOverlay overlay watched := { watched with host := Host.showOverlay overlay watched.host }
  hideOverlay watched := { watched with host := Host.hideOverlay watched.host }
  screenBounds watched := Host.screenBounds watched.host
  reservedRow watched := Host.reservedRow watched.host
  screenPosition watched := Host.screenPosition watched.host
  files watched := Host.files watched.host

end Watched

/-- The event that makes a client go to a definition. -/
def SessionEvent.isJump : SessionEvent → Bool
  | .reply _ (.definition (_ :: _)) => true
  | _ => false

namespace Client

/-- What accepting the selected candidate asks an editor to replace. -/
def replacements (client : Client) (host : σ) : List Replacement :=
  (client.acceptCompletion ({ host } : Watched σ)).2.2.replaced

/-- Closing the menu replaces nothing. -/
theorem closeCompletion_replaced (client : Client) (watched : Watched σ)
    : (client.closeCompletion watched).2.replaced = watched.replaced := by
  unfold closeCompletion
  dsimp only
  split <;> rfl

/-- Without a menu a change of the text is told and that is all. -/
theorem documentChanged_of_idle {client : Client} (idle : client.anchor = none) (host : σ)
    : (client.documentChanged host).2 = host := by
  unfold documentChanged updateCompletion
  dsimp only
  split
  · rfl
  · rename_i anchor completing
    split at completing <;> exact absurd (idle.symm.trans completing) nofun

/-- Accepting replaces one range, which ends at the cursor, or nothing at all. -/
theorem replacements_cases (client : Client) (host : σ)
    : ((client.acceptCompletion host).1 = false ∧ client.replacements host = [])
      ∨ ∃ anchor candidate,
          client.anchor = some anchor
          ∧ client.menu.selected? = some candidate
          ∧ (client.acceptCompletion host).1 = true
          ∧ client.replacements host
            = [
                {
                  start := insertionStart host anchor candidate
                  stop := Host.cursor host
                  text := candidate.textToInsert
                }
              ] := by
  unfold replacements acceptCompletion
  cases client.anchor with
  | none => exact Or.inl ⟨rfl, rfl⟩
  | some anchor =>
      cases client.menu.selected? with
      | none => exact Or.inl ⟨rfl, client.closeCompletion_replaced _⟩
      | some candidate =>
          refine Or.inr ⟨anchor, candidate, rfl, rfl, rfl, ?_⟩
          dsimp only
          rw [documentChanged_of_idle (closeCompletion_anchor _ _), closeCompletion_replaced]
          rfl

/-- The selected candidate names a place of its own, which is before the cursor on its line. -/
def OffersStart (client : Client) (host : σ) : Prop :=
  ∃ candidate range,
    client.menu.selected? = some candidate
    ∧ candidate.editRange = some range
    ∧ (pointOf host range.start).Precedes (Host.cursor host)

/-- A candidate goes where it says, if that is on the word's side of the cursor, and else
where the word starts.
-/
theorem insertionStart_precedes_iff {client : Client} {host : σ} {anchor : TextPoint}
    {candidate : Candidate} (completing : client.anchor = some anchor)
    (selected : client.menu.selected? = some candidate)
    : (insertionStart host anchor candidate).Precedes (Host.cursor host)
      ↔ client.OnWord host ∨ client.OffersStart host := by
  have onWord : client.OnWord host ↔ anchor.Precedes (Host.cursor host) := by
    constructor
    · exact fun onWord => onWord anchor completing
    · intro precedes other same
      obtain rfl := Option.some.inj (completing.symm.trans same)
      exact precedes
  have offers
      : client.OffersStart host
        ↔ ∃ range,
            candidate.editRange = some range
            ∧ (pointOf host range.start).Precedes (Host.cursor host) := by
    constructor
    · rintro ⟨other, range, same, found, precedes⟩
      obtain rfl := Option.some.inj (selected.symm.trans same)
      exact ⟨range, found, precedes⟩
    · rintro ⟨range, found, precedes⟩
      exact ⟨candidate, range, selected, found, precedes⟩
  rw [onWord, offers]
  unfold insertionStart
  cases candidate.editRange with
  | none => simp
  | some range =>
      dsimp only
      by_cases own : (pointOf host range.start).Precedes (Host.cursor host)
      · have fits := own
        simp only [TextPoint.Precedes] at fits
        simp [fits, own]
      · have misfits := own
        simp only [TextPoint.Precedes] at misfits
        simp [misfits, own]

-----------------------------------------------------------------------------------------
-- Replies and events
-----------------------------------------------------------------------------------------

/-- Where a jump ends is up to the text that is jumped to. -/
theorem handleReply_onWord [SteadyHost σ] {client : Client} {host : σ}
    (onWord : client.OnWord host) (reply : Reply)
    (landed
      : ∀ location rest,
          reply = .definition (location :: rest)
          → (client.jumpTo host location).1.OnWord (client.jumpTo host location).2)
    : (client.handleReply host reply).1.OnWord (client.handleReply host reply).2 := by
  have told
      : ∀ error : ClientError, KeepsWord client host (client, report host error) :=
    fun error => ⟨Or.inr rfl, report_cursor host error⟩
  cases reply with
  | completion candidates => exact (client.showCandidates_keepsWord host candidates).onWord onWord
  | formatting edits => exact applyFormatting_onWord onWord edits
  | definition locations =>
      cases locations with
      | nil => exact (told _).onWord onWord
      | cons location rest => exact landed location rest rfl
  | references locations =>
      cases locations with
      | nil => exact (told _).onWord onWord
      | cons location rest => exact (client.showReferences_keepsWord host _).onWord onWord
  | error reason => exact (told _).onWord onWord
  | handshake info => exact onWord
  | shutdown => exact onWord
  | other result => exact onWord

theorem handleEvent_onWord [SteadyHost σ] {client : Client} {host : σ}
    (onWord : client.OnWord host) (event : SessionEvent)
    (landed
      : event.isJump = true
        → (client.handleEvent host event).1.OnWord (client.handleEvent host event).2)
    : (client.handleEvent host event).1.OnWord (client.handleEvent host event).2 := by
  have shown : ∀ message : String, KeepsWord client host (client, Host.showStatus message host) :=
    fun message => ⟨Or.inr rfl, SteadyHost.cursor_showStatus message host⟩
  cases event with
  | initialized info => exact (shown _).onWord onWord
  | reply handle reply =>
      refine handleReply_onWord onWord reply ?_
      rintro location rest rfl
      exact landed rfl
  | diagnostics publication =>
      have counted
          : KeepsWord client host (client, showCounts host publication.diagnostics) :=
        ⟨Or.inr rfl, showCounts_cursor host _⟩
      exact counted.onWord onWord
  | shown notice => exact (shown _).onWord onWord
  | logged notice => exact onWord

/-- One event more. -/
def turn (state : Client × σ) (event : SessionEvent) : Client × σ :=
  state.1.handleEvent state.2 event

/-- What every event keeps is kept by the events that wait. -/
theorem processEvents_keeps {P : Client × σ → Prop} {client : Client} {host : σ}
    (drained : P ({ client with session := client.session.drainEvents.2 }, host))
    (kept : ∀ state event, P state → P (turn state event))
    : P (client.processEvents host) :=
  List.foldlRecOn client.session.drainEvents.1 turn drained
    fun state holds event _ => kept state event holds

/-- Each of some events that is a jump ends in a state that is allowed. -/
def EventsLand (landing : Client → σ → Prop) (state : Client × σ)
    : List SessionEvent → Prop
  | [] => True
  | event :: rest =>
    (event.isJump = true → landing (turn state event).1 (turn state event).2)
    ∧ EventsLand landing (turn state event) rest

/-- Each event that waits and is a jump ends in a state that is allowed. -/
def Lands (landing : Client → σ → Prop) (client : Client) (host : σ) : Prop :=
  EventsLand landing ({ client with session := client.session.drainEvents.2 }, host)
    client.session.drainEvents.1

/-- The word is kept by events in a row, by induction on them. -/
theorem processEvents_onWord [SteadyHost σ] {client : Client} {host : σ}
    (onWord : client.OnWord host) (landed : Lands OnWord client host)
    : (client.processEvents host).1.OnWord (client.processEvents host).2 := by
  suffices from_state
      : ∀ (events : List SessionEvent) (state : Client × σ),
          state.1.OnWord state.2
          → EventsLand OnWord state events
          → (events.foldl turn state).1.OnWord (events.foldl turn state).2 from
    from_state _ ({ client with session := client.session.drainEvents.2 }, host) onWord landed
  intro events
  induction events with
  | nil => exact fun state onWord _ => onWord
  | cons event rest ih =>
      intro state onWord landed
      exact ih (turn state event) (handleEvent_onWord onWord event landed.1) landed.2

end Client

-----------------------------------------------------------------------------------------
-- Runs
-----------------------------------------------------------------------------------------

/-- Anything that happens to a client and its editor. -/
inductive ClientAction (σ : Type) where
  | start (transport : Transport) (root : String)
  | restart (transport : Transport) (root : String)
  | stop
  | setIndent (tabSize : UInt32) (insertSpaces : Bool)
  /-- The session is used directly. -/
  | useSession (use : Session → Session)
  | openActiveDocument
  | save
  | triggerCompletion
  /-- The selection moves within the menu. -/
  | navigate (move : CompletionMenu → CompletionMenu)
  | acceptCompletion
  | closeCompletion
  | format
  | goToDefinition
  | findReferences
  | showLineDiagnostics
  | processEvents
  | receive (chunk : List UInt8)
  | handleServerEvent (event : ServerEvent)
  /-- The editor changes, which it tells as a change of its text. -/
  | edit (change : σ → σ)
  /-- The editor changes without a word. -/
  | alter (change : σ → σ)

namespace ClientAction

/-- A client and its editor after an action. -/
def run (state : Client × σ) : ClientAction σ → Client × σ
  | start transport root => (state.1.start state.2 transport root).2
  | restart transport root => (state.1.restart state.2 transport root).2
  | stop => state.1.stop state.2
  | setIndent tabSize insertSpaces => (state.1.setIndent tabSize insertSpaces, state.2)
  | useSession use => ({ state.1 with session := use state.1.session }, state.2)
  | openActiveDocument => ((state.1.openActiveDocument state.2).2, state.2)
  | save => state.1.save state.2
  | triggerCompletion => state.1.triggerCompletion state.2
  | navigate move => (state.1.navigate state.2 move).2
  | acceptCompletion => (state.1.acceptCompletion state.2).2
  | closeCompletion => state.1.closeCompletion state.2
  | format => state.1.format state.2
  | goToDefinition => state.1.goToDefinition state.2
  | findReferences => state.1.findReferences state.2
  | showLineDiagnostics => state.1.showLineDiagnostics state.2
  | processEvents => state.1.processEvents state.2
  | receive chunk => state.1.receive state.2 chunk
  | handleServerEvent event => state.1.handleServerEvent state.2 event
  | edit change => state.1.documentChanged (change state.2)
  | alter change => (state.1, change state.2)

/-- An editor moves its cursor without a word only while no word is being completed. -/
def Allowed (state : Client × σ) : ClientAction σ → Prop
  | alter change =>
    state.1.anchor = none ∨ Host.cursor (change state.2) = Host.cursor state.2
  | _ => True

/-- Each jump that an action leads to ends in a state that is allowed. -/
def Lands (landing : Client → σ → Prop) (state : Client × σ) : ClientAction σ → Prop
  | processEvents => state.1.Lands landing state.2
  | receive chunk | handleServerEvent (.output chunk) =>
    { state.1 with session := state.1.session.receive chunk }.Lands landing state.2
  | _ => True

/-- One action keeps the cursor on the word, if its jumps do. -/
theorem run_onWord [SteadyHost σ] {state : Client × σ} (onWord : state.1.OnWord state.2)
    (action : ClientAction σ) (allowed : action.Allowed state)
    (landed : action.Lands Client.OnWord state)
    : (action.run state).1.OnWord (action.run state).2 := by
  obtain ⟨client, host⟩ := state
  cases action with
  | start transport root => exact Client.onWord_of_idle (client.start_idle host transport root) _
  | restart transport root => exact Client.onWord_of_idle (Client.start_idle _ _ transport root) _
  | stop => exact Client.onWord_of_idle (client.closeCompletion_anchor host) _
  | setIndent tabSize insertSpaces => exact onWord
  | useSession use => exact onWord
  | openActiveDocument =>
      exact (Client.KeepsWord.of_same (client.openActiveDocument_anchor host)).onWord onWord
  | save => exact (client.save_keepsWord host).onWord onWord
  | triggerCompletion => exact client.triggerCompletion_onWord host
  | navigate move => exact (client.navigate_keepsWord host move).onWord onWord
  | acceptCompletion => exact client.acceptCompletion_onWord host
  | closeCompletion => exact (client.closeCompletion_keepsWord host).onWord onWord
  | format => exact (client.asked_keepsWord host _).onWord onWord
  | goToDefinition => exact (client.asked_keepsWord host _).onWord onWord
  | findReferences => exact (client.asked_keepsWord host _).onWord onWord
  | showLineDiagnostics => exact (client.showLineDiagnostics_keepsWord host).onWord onWord
  | processEvents => exact Client.processEvents_onWord onWord landed
  | receive chunk => exact Client.processEvents_onWord onWord landed
  | handleServerEvent event =>
      cases event with
      | output chunk => exact Client.processEvents_onWord onWord landed
      | errorLine text => exact onWord
      | exited status => exact Client.onWord_of_idle (client.closeCompletion_anchor host) _
  | edit change => exact client.documentChanged_onWord (change host)
  | alter change =>
      rcases allowed with idle | kept
      · exact Client.onWord_of_idle idle _
      · have same : Client.KeepsWord client host (client, change host) := ⟨Or.inr rfl, kept⟩
        exact same.onWord onWord

end ClientAction

/-- The states that a client and an editor come to, from any state without a menu. Jumps
end in states that are allowed.
-/
inductive Reached (landing : Client → σ → Prop) : Client × σ → Prop where
  | idle {client : Client} (idle : client.anchor = none) (host : σ)
    : Reached landing (client, host)
  | next {state : Client × σ} (reached : Reached landing state) (action : ClientAction σ)
    (allowed : action.Allowed state) (landed : action.Lands landing state)
    : Reached landing (action.run state)

namespace Client

/-- While jumps end on the word, the cursor is on the word, by induction on the run. -/
theorem onWord_of_reached [SteadyHost σ] {state : Client × σ} (reached : Reached OnWord state)
    : state.1.OnWord state.2 := by
  induction reached with
  | idle idle host => exact onWord_of_idle idle host
  | next _ action allowed landed onWord => exact action.run_onWord onWord allowed landed

/-- While jumps end on the word, an accepted candidate replaces text from some point of the
cursor's line up to the cursor. This goes on after one more jump exactly if that ends on the
word, too, or if the candidate names a place of its own there.
-/
theorem acceptCompletion_replaces_word [SteadyHost σ] {state : Client × σ}
    (reached : Reached OnWord state) (location : Location)
    : (((state.1.acceptCompletion state.2).1 = false ∧ state.1.replacements state.2 = [])
        ∨ ((state.1.acceptCompletion state.2).1 = true
          ∧ ∃ replacement,
              state.1.replacements state.2 = [replacement]
              ∧ replacement.stop = Host.cursor state.2
              ∧ replacement.start.Precedes replacement.stop))
      ∧ let (client, host) := state.1.jumpTo state.2 location
        ∀ replacement ∈ client.replacements host,
          replacement.stop = Host.cursor host
          ∧ (replacement.start.Precedes replacement.stop
            ↔ client.OnWord host ∨ client.OffersStart host) := by
  constructor
  · rcases state.1.replacements_cases state.2 with
      nothing | ⟨anchor, candidate, completing, selected, accepted, one⟩
    · exact Or.inl nothing
    · refine Or.inr ⟨accepted, _, one, rfl, ?_⟩
      exact (insertionStart_precedes_iff completing selected).mpr (Or.inl (onWord_of_reached reached))
  · obtain ⟨client, host⟩ := state.1.jumpTo state.2 location
    intro replacement asked
    rcases client.replacements_cases host with
      ⟨_, nothing⟩ | ⟨anchor, candidate, completing, selected, _, one⟩
    · rw [nothing] at asked
      cases asked
    · rw [one] at asked
      obtain rfl := List.mem_singleton.mp asked
      exact ⟨rfl, insertionStart_precedes_iff completing selected⟩

end Client

-----------------------------------------------------------------------------------------
-- A run with a jump
-----------------------------------------------------------------------------------------

/-- A file that cannot be opened leaves nothing but the record of the call. -/
theorem RecordedEditor.openFile_error {path reason : String} {editor unopened : RecordedEditor}
    (failed : Host.openFile path editor = (.error reason, unopened))
    : unopened = editor.record (.openFile path) := by
  change editor.openFile path = _ at failed
  unfold RecordedEditor.openFile at failed
  dsimp only at failed
  split at failed
  · exact (Prod.mk.inj failed).2.symm
  · cases (Prod.mk.inj failed).1

instance : SteadyHost RecordedEditor where
  cursor_showStatus _ _ := rfl
  cursor_showOverlay _ _ := rfl
  cursor_hideOverlay _ := rfl
  cursor_openFile failed := by
    rw [RecordedEditor.openFile_error failed]
    rfl

/-- Events without a jump may be handled in any run. -/
theorem Reached.processEvents {landing : Client → σ → Prop} {state : Client × σ}
    (reached : Reached landing state)
    (still : state.1.session.events.all (fun event => !event.isJump) = true)
    : Reached landing (ClientAction.processEvents.run state) := by
  have silent
      : ∀ (events : List SessionEvent) (state : Client × σ),
          events.all (fun event => !event.isJump) = true
          → Client.EventsLand landing state events := by
    intro events
    induction events with
    | nil => exact fun _ _ => trivial
    | cons event rest ih =>
        intro state still
        rw [List.all_cons, Bool.and_eq_true] at still
        refine ⟨?_, ih _ still.2⟩
        intro jump
        rw [jump] at still
        exact absurd still.1 (by decide)
  exact reached.next _ trivial (silent _ _ still)

/-- Where jumps end does not matter when every state is allowed. -/
theorem ClientAction.lands_anywhere (state : Client × σ) (action : ClientAction σ)
    : action.Lands (fun _ _ => True) state := by
  have anywhere
      : ∀ (events : List SessionEvent) (state : Client × σ),
          Client.EventsLand (fun _ _ => True) state events := by
    intro events
    induction events with
    | nil => exact fun _ => trivial
    | cons event rest ih => exact fun state => ⟨fun _ => trivial, ih _⟩
  cases action with
  | processEvents => exact anywhere _ _
  | receive chunk => exact anywhere _ _
  | handleServerEvent event =>
      cases event with
      | output chunk => exact anywhere _ _
      | errorLine text => trivial
      | exited status => trivial
  | _ => trivial

/-- A server answers a request. -/
def answered (id : Nat) (result : Json.Value) : ClientAction RecordedEditor :=
  .useSession fun session =>
    (session.handleMessage
      (.ofFields [("jsonrpc", .text "2.0"), ("id", .ofNat id), ("result", result)])).2

/-- An editor with three lines, whose cursor is behind the word of the first one. -/
def wordEditor : RecordedEditor where
  buffer := .ofText "fo\nbar\nbaz".toList
  cursor := { line := 0, column := 2 }
  path := some "/a"
  language := "rust"
  documents := []
  screen := { x := 0, y := 0, width := 80, height := 24 }
  reserved := 24

/-- A client without a server. -/
def idleState : Client × RecordedEditor :=
  (.new {} {}, wordEditor)

/-- A server is started, and it says that it is ready. -/
def readyState : Client × RecordedEditor :=
  ClientAction.processEvents.run
    ((answered 0 (.ofFields [])).run ((ClientAction.start {} "/").run idleState))

/-- The server suggests a candidate for the word. -/
def typingState : Client × RecordedEditor :=
  ClientAction.processEvents.run
    ((answered 1 (.array [.ofFields [("label", .text "foo")]])).run
      (ClientAction.triggerCompletion.run readyState))

/-- Where a symbol is defined: on the last line. -/
def definitionAnswer : Json.Value :=
  .ofFields
    [
      ("uri", .text "file:///a"),
      (
        "range",
        Range.toValue
          { start := { line := 2, character := 1 }, stop := { line := 2, character := 3 } }
      )
    ]

/-- While the menu is open, the server answers where a symbol is defined. -/
def jumpedState : Client × RecordedEditor :=
  ClientAction.processEvents.run
    ((answered 2 definitionAnswer).run (ClientAction.goToDefinition.run typingState))

namespace Client

/-- The candidate takes the place of the word. -/
theorem acceptCompletion_replaces_first_word
    : Reached OnWord typingState
      ∧ (typingState.1.acceptCompletion typingState.2).1 = true
      ∧ ∃ replacement,
          typingState.1.replacements typingState.2 = [replacement]
          ∧ replacement.stop = Host.cursor typingState.2
          ∧ replacement.start.Precedes replacement.stop := by
  have idle : Reached OnWord idleState := .idle rfl wordEditor
  have ready : Reached OnWord readyState :=
    ((idle.next (.start {} "/") trivial trivial).next (answered 0 (.ofFields [])) trivial
      trivial).processEvents (by decide +kernel)
  have typing : Reached OnWord typingState :=
    ((ready.next .triggerCompletion trivial trivial).next
      (answered 1 (.array [.ofFields [("label", .text "foo")]])) trivial
      trivial).processEvents (by decide +kernel)
  have accepted : (typingState.1.acceptCompletion typingState.2).1 = true := by
    decide +kernel
  refine ⟨typing, accepted, ?_⟩
  rcases (acceptCompletion_replaces_word typing
      { uri := "file:///a", range := default }).1 with ⟨refused, _⟩ | ⟨_, replaced⟩
  · exact absurd (accepted.symm.trans refused) (by decide)
  · exact replaced

/-- After a jump to another line, the candidate takes the place of everything from the word
to the new cursor, two line breaks included.
-/
theorem acceptCompletion_loses_lines
    : Reached (fun _ _ => True) jumpedState
      ∧ jumpedState.1.replacements jumpedState.2
        = [
            {
              start := { line := 0, column := 0 }
              stop := { line := 2, column := 1 }
              text := "foo"
            }
          ]
      ∧ (jumpedState.1.acceptCompletion jumpedState.2).2.2.buffer.text = "fooaz".toList := by
  have action
      : ∀ {state : Client × RecordedEditor} (action : ClientAction RecordedEditor),
          Reached (fun _ _ => True) state
          → action.Allowed state
          → Reached (fun _ _ => True) (action.run state) :=
    fun action reached allowed => reached.next action allowed (action.lands_anywhere _)
  have idle : Reached (fun _ _ => True) idleState := .idle rfl wordEditor
  have ready : Reached (fun _ _ => True) readyState :=
    action .processEvents
      (action (answered 0 (.ofFields [])) (action (.start {} "/") idle trivial) trivial) trivial
  have typing : Reached (fun _ _ => True) typingState :=
    action .processEvents
      (action (answered 1 (.array [.ofFields [("label", .text "foo")]]))
        (action .triggerCompletion ready trivial) trivial)
      trivial
  have jumped : Reached (fun _ _ => True) jumpedState :=
    action .processEvents
      (action (answered 2 definitionAnswer) (action .goToDefinition typing trivial) trivial) trivial
  exact ⟨jumped, by decide +kernel⟩

end Client

end LanguageClient
