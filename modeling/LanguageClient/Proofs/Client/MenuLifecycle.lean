import LanguageClient.Proofs.Client.CompletionRequests
import LanguageClient.Proofs.Client.FormattedText
import LanguageClient.Proofs.Completion.MenuPages

/-! The life of a completion menu. A client that completes no word has no candidates, shows no
menu and awaits no streak, and a menu is shown only while there is a word and something to
suggest for it.
-/

namespace LanguageClient

open Json (Value)

-----------------------------------------------------------------------------------------
-- Menus
-----------------------------------------------------------------------------------------

namespace CompletionMenu

theorem Consistent.of_same {menu other : CompletionMenu} (consistent : menu.Consistent)
    (all : other.all = menu.all) (ranked : other.ranked = menu.ranked)
    : other.Consistent := by
  rw [Consistent, isOpen, all, ranked]
  exact consistent

/-- Whether a move of the selection keeps the candidates. -/
def KeepsCandidates (move : CompletionMenu → CompletionMenu) : Prop :=
  ∀ menu, (move menu).all = menu.all ∧ (move menu).ranked = menu.ranked

theorem moveSelection_keepsCandidates (step : CompletionMenu → Nat → Nat → Nat)
    : KeepsCandidates fun menu => menu.moveSelection (step menu) := by
  intro menu
  dsimp only
  unfold moveSelection
  split <;> exact ⟨rfl, rfl⟩

/-- All moves that a user can make keep the candidates. -/
theorem keepsCandidates_of_mem
    : ∀ move ∈ [selectNext, selectPrevious, pageDown, pageUp], KeepsCandidates move := by
  intro move listed
  simp only [List.mem_cons, List.not_mem_nil, or_false] at listed
  rcases listed with rfl | rfl | rfl | rfl <;> exact moveSelection_keepsCandidates _

end CompletionMenu

/-- The overlay of a menu is one of a menu that is open, with other pages at most. -/
theorem Overlay.ofMenu?_eq_some {widths : CellWidths} {menu paged : CompletionMenu}
    {area : OverlayArea} {limits : OverlayLimits} {overlay : Overlay}
    (shown : ofMenu? widths menu area limits = some (overlay, paged))
    : menu.isOpen = true ∧ paged.all = menu.all ∧ paged.ranked = menu.ranked := by
  unfold ofMenu? at shown
  split at shown
  · cases shown
  · rename_i isOpen
    obtain ⟨_, rfl⟩ := Prod.mk.inj (Option.some.inj shown)
    exact ⟨by simpa using isOpen, rfl, rfl⟩

theorem Overlay.ofLines?_kind {widths : CellWidths} {lines : List String} {area : OverlayArea}
    {limits : OverlayLimits} {overlay : Overlay}
    (shown : ofLines? widths lines area limits = some overlay)
    : overlay.kind = .message := by
  unfold ofLines? at shown
  split at shown
  · cases shown
  · rw [← Option.some.inj shown]

-----------------------------------------------------------------------------------------
-- Editors
-----------------------------------------------------------------------------------------

/-- An editor that shows a completion menu only when it is told to. -/
class MenuHost (σ : Type) [Host σ] where
  /-- Whether the overlay that is shown is a completion menu. -/
  showsMenu : σ → Bool
  shown_showOverlay
    : ∀ {overlay : Overlay} {host : σ},
        showsMenu (Host.showOverlay overlay host) = true → overlay.kind = .completion
  shown_hideOverlay : ∀ host : σ, showsMenu (Host.hideOverlay host) = false
  shown_showStatus
    : ∀ {message : String} {host : σ},
        showsMenu (Host.showStatus message host) = true → showsMenu host = true
  shown_setCursor
    : ∀ {point : TextPoint} {host : σ},
        showsMenu (Host.setCursor point host) = true → showsMenu host = true
  shown_replaceRange
    : ∀ {start stop : TextPoint} {text : String} {host : σ},
        showsMenu (Host.replaceRange start stop text host) = true → showsMenu host = true
  shown_openFile
    : ∀ {path : String} {host : σ},
        showsMenu (Host.openFile path host).2 = true → showsMenu host = true

open MenuHost

namespace Client

variable {σ : Type} [Host σ] [MenuHost σ]

/-- Without a word there are no candidates, and a menu that is shown is open at a word. -/
structure Coherent (state : Client × σ) : Prop where
  consistent : state.1.menu.Consistent
  idle : state.1.anchor = none → state.1.menu.all = []
  shown
    : showsMenu state.2 = true → state.1.anchor.isSome = true ∧ state.1.menu.isOpen = true

namespace Coherent

variable {client : Client} {host : σ}

theorem unshown (coherent : Coherent (client, host)) (idle : client.anchor = none)
    : showsMenu host = false := by
  cases shows : showsMenu host with
  | false => rfl
  | true =>
      have completing := (coherent.shown shows).1
      dsimp only at completing
      rw [idle] at completing
      cases completing

/-- The session makes no difference, nor does what does not bring up a menu. -/
theorem same (coherent : Coherent (client, host)) {told : Client} {changed : σ}
    (anchor : told.anchor = client.anchor) (menu : told.menu = client.menu)
    (shown : showsMenu changed = true → showsMenu host = true)
    : Coherent (told, changed) where
  consistent := by
    dsimp only
    rw [menu]
    exact coherent.consistent
  idle := by
    dsimp only
    rw [anchor, menu]
    exact coherent.idle
  shown := by
    dsimp only
    rw [anchor, menu]
    exact fun shows => coherent.shown (shown shows)

theorem status (coherent : Coherent (client, host)) (message : String)
    : Coherent (client, Host.showStatus message host) :=
  coherent.same rfl rfl shown_showStatus

-----------------------------------------------------------------------------------------
-- The menu
-----------------------------------------------------------------------------------------

/-- A menu that is closed is taken away with its candidates. -/
theorem closed (consistent : client.menu.Consistent)
    (unshown : client.anchor = none → showsMenu host = false)
    : Coherent (client.closeCompletion host) := by
  unfold closeCompletion
  dsimp only
  split
  · refine ⟨rfl, fun _ => rfl, fun shows => ?_⟩
    exact absurd (shows.symm.trans (shown_hideOverlay host)) (by decide)
  · rename_i rests
    obtain ⟨idle, isClosed⟩ : client.anchor = none ∧ client.menu.isOpen = false := by
      simpa using rests
    refine ⟨consistent, fun _ => ?_, fun shows => ?_⟩
    · rw [CompletionMenu.Consistent, isClosed] at consistent
      simpa using consistent.symm
    · exact absurd (shows.symm.trans (unshown idle)) (by decide)

theorem close (coherent : Coherent (client, host)) : Coherent (client.closeCompletion host) :=
  closed coherent.consistent coherent.unshown

/-- A menu is shown at its word if it is open, whatever has been shown before. -/
theorem rendered (session : Session) {menu : CompletionMenu} (consistent : menu.Consistent)
    (completing : client.anchor.isSome = true) (host : σ)
    : Coherent (Client.renderCompletion { client with session, menu } host) := by
  have idle : client.anchor ≠ none := fun none => by
    rw [none] at completing
    cases completing
  have hidden : Coherent ({ client with session, menu }, Host.hideOverlay host) := by
    refine ⟨consistent, fun none => absurd none idle, fun shows => ?_⟩
    exact absurd (shows.symm.trans (shown_hideOverlay host)) (by decide)
  unfold renderCompletion
  dsimp only
  split
  · rename_i none
    exact absurd none idle
  · split
    · exact hidden
    · split
      · exact hidden
      · rename_i paged shown
        obtain ⟨isOpen, all, ranked⟩ := Overlay.ofMenu?_eq_some shown
        refine ⟨consistent.of_same all ranked, fun none => absurd none idle, fun _ => ?_⟩
        refine ⟨completing, ?_⟩
        dsimp only
        rw [CompletionMenu.isOpen, ranked]
        exact isOpen

/-- A trigger leaves an open menu open, as it has candidates for any word. -/
theorem triggerCompletion (coherent : Coherent (client, host))
    : Coherent (client.triggerCompletion host) := by
  unfold Client.triggerCompletion
  dsimp only
  split
  · refine ⟨CompletionMenu.refresh_consistent _, nofun, fun shows => ⟨rfl, ?_⟩⟩
    have filled := (coherent.shown shows).2
    rw [coherent.consistent] at filled
    dsimp only
    rw [CompletionMenu.setTyped, CompletionMenu.refresh_consistent, CompletionMenu.refresh_all]
    exact filled
  · rename_i session _
    have told : Coherent ({ client with session }, host) := coherent.same rfl rfl id
    exact told.close.status _

theorem updateCompletion (coherent : Coherent (client, host))
    : Coherent (client.updateCompletion host) := by
  unfold Client.updateCompletion
  split
  · exact coherent
  · rename_i anchor completing
    dsimp only
    split
    · exact rendered _ (CompletionMenu.refresh_consistent _)
        (Option.isSome_of_eq_some completing) host
    · exact coherent.close

theorem documentChanged (coherent : Coherent (client, host))
    : Coherent (client.documentChanged host) := by
  unfold Client.documentChanged
  dsimp only
  split
  · refine updateCompletion ?_
    exact coherent.same rfl rfl id
  · exact coherent.updateCompletion

theorem navigate (coherent : Coherent (client, host))
    {move : CompletionMenu → CompletionMenu} (keeps : CompletionMenu.KeepsCandidates move)
    : Coherent (client.navigate host move).2 := by
  obtain ⟨all, ranked⟩ := keeps client.menu
  unfold Client.navigate
  split
  · rename_i isOpen
    exact rendered client.session (coherent.consistent.of_same all ranked)
      (Bool.and_eq_true_iff.mp isOpen).1 host
  · exact coherent

theorem acceptCompletion (coherent : Coherent (client, host))
    : Coherent (client.acceptCompletion host).2 := by
  unfold Client.acceptCompletion
  split
  · exact coherent
  · split
    · exact coherent.close
    · have moved {start stop point : TextPoint} {text : String}
          : Coherent
              (client.closeCompletion
                (Host.setCursor point (Host.replaceRange start stop text host))) :=
        (coherent.same rfl rfl fun shows => shown_replaceRange (shown_setCursor shows)).close
      exact moved.documentChanged

theorem showCandidates (coherent : Coherent (client, host)) (candidates : List Candidate)
    : Coherent (client.showCandidates host candidates) := by
  have consistent : (client.menu.setCandidates candidates).Consistent :=
    CompletionMenu.refresh_consistent _
  unfold Client.showCandidates
  split
  · exact coherent
  · rename_i completing
    dsimp only
    split
    · have word : client.anchor.isSome = true := by
        simpa [Option.isSome_iff_ne_none] using completing
      exact rendered client.session consistent word host
    · have closed
          : Coherent
              (Client.closeCompletion
                { client with menu := client.menu.setCandidates candidates } host) :=
        closed consistent coherent.unshown
      exact closed.status _

-----------------------------------------------------------------------------------------
-- Requests and messages
-----------------------------------------------------------------------------------------

theorem asked (coherent : Coherent (client, host)) (outcome : Session.Outcome RequestHandle)
    : Coherent (client.asked host outcome) := by
  have told : Coherent ({ client with session := outcome.2 }, host) := coherent.same rfl rfl id
  unfold Client.asked
  dsimp only
  split
  · exact told
  · exact told.status _

theorem save (coherent : Coherent (client, host)) : Coherent (client.save host) := by
  have told
      : Coherent ({ client with session := (client.session.saveDocument none).2 }, host) :=
    coherent.same rfl rfl id
  unfold Client.save
  dsimp only
  split
  · exact told
  · exact told
  · exact told
  · exact told.status _

theorem openActiveDocument (coherent : Coherent (client, host))
    : Coherent ((client.openActiveDocument host).2, host) := by
  unfold Client.openActiveDocument
  split
  · exact coherent
  · exact coherent.same rfl rfl id

/-- Lines are shown in place of the menu, and they are none. -/
theorem showLines (coherent : Coherent (client, host)) (point : TextPoint)
    (lines : List String)
    : Coherent (client.showLines host point lines) := by
  have closed := coherent.close
  unfold Client.showLines
  dsimp only
  split
  · exact closed
  · rename_i overlay shown
    obtain ⟨area, _, lines⟩ := Option.bind_eq_some_iff.mp shown
    refine closed.same rfl rfl fun shows => ?_
    have menu := (shown_showOverlay shows).symm.trans (Overlay.ofLines?_kind lines)
    cases menu

theorem showLineDiagnostics (coherent : Coherent (client, host))
    : Coherent (client.showLineDiagnostics host) := by
  unfold Client.showLineDiagnostics
  dsimp only
  split
  · exact coherent.status _
  · exact coherent.showLines _ _

-----------------------------------------------------------------------------------------
-- Events
-----------------------------------------------------------------------------------------

/-- Edits bring up no menu, by induction on them. -/
theorem shown_applyEdits {edits : List TextEdit}
    : showsMenu (applyEdits host edits) = true → showsMenu host = true :=
  List.foldlRecOn (TextEdit.applicationOrder edits) _
    (motive := fun edited => showsMenu edited = true → showsMenu host = true) id
    fun _ before _ _ shows => before (shown_replaceRange shows)

theorem applyFormatting (coherent : Coherent (client, host)) (edits : List TextEdit)
    : Coherent (client.applyFormatting host edits) := by
  unfold Client.applyFormatting
  split
  · exact coherent.status _
  · have edited : Coherent (client, applyEdits host edits) :=
      coherent.same rfl rfl shown_applyEdits
    exact edited.documentChanged.status _

theorem moveTo (coherent : Coherent (client, host)) (path : String) (location : Location)
    : Coherent (client, Client.moveTo host path location) :=
  coherent.same rfl rfl fun shows => shown_setCursor (shown_showStatus shows)

theorem jumpTo (coherent : Coherent (client, host)) (location : Location)
    : Coherent (client.jumpTo host location) := by
  unfold Client.jumpTo
  split
  · exact coherent.status _
  · rename_i path _
    have opened : Coherent (client, (Host.openFile path host).2) :=
      coherent.same rfl rfl shown_openFile
    dsimp only
    split
    · exact coherent.moveTo path location
    · split
      · rename_i outcome
        rw [outcome] at opened
        exact opened.status _
      · rename_i outcome
        rw [outcome] at opened
        exact opened.openActiveDocument.moveTo path location

theorem handleReply (coherent : Coherent (client, host)) (reply : Reply)
    : Coherent (client.handleReply host reply) := by
  cases reply with
  | completion candidates => exact coherent.showCandidates candidates
  | formatting edits => exact coherent.applyFormatting edits
  | definition locations =>
      cases locations with
      | nil => exact coherent.status _
      | cons location rest => exact coherent.jumpTo location
  | references locations =>
      cases locations with
      | nil => exact coherent.status _
      | cons location rest => exact (coherent.status _).showLines _ _
  | error reason => exact coherent.status _
  | handshake _ | shutdown | other _ => exact coherent

theorem turn {state : Client × σ} (coherent : Coherent state) (event : SessionEvent)
    : Coherent (Client.turn state event) := by
  cases event with
  | reply handle reply => exact coherent.handleReply reply
  | initialized info => exact coherent.status _
  | shown notice => exact coherent.status _
  | logged notice => exact coherent
  | diagnostics publication =>
      change Coherent (state.1, showCounts state.2 publication.diagnostics)
      unfold showCounts
      dsimp only
      split
      · exact coherent
      · exact coherent.status _

/-- Every event keeps the menu coherent, so events in a row do. -/
theorem processEvents (coherent : Coherent (client, host))
    : Coherent (client.processEvents host) := by
  have drained : Coherent (client.withSession client.session.drainEvents.2, host) :=
    coherent.same rfl rfl id
  exact Client.processEvents_keeps drained fun _ event coherent => coherent.turn event

theorem receive (coherent : Coherent (client, host)) (chunk : List UInt8)
    : Coherent (client.receive host chunk) := by
  have arrived : Coherent (client.withSession (client.session.receive chunk), host) :=
    coherent.same rfl rfl id
  exact arrived.processEvents

-----------------------------------------------------------------------------------------
-- Servers
-----------------------------------------------------------------------------------------

theorem stop (coherent : Coherent (client, host)) : Coherent (client.stop host) :=
  coherent.close.same rfl rfl id

theorem start (coherent : Coherent (client, host)) (transport : Transport) (root : String)
    : Coherent (client.start host transport root).2 := by
  have closed := coherent.close
  unfold Client.start
  generalize client.closeCompletion host = outcome at closed
  obtain ⟨client, hidden⟩ := outcome
  dsimp only
  have greeted {session : Session} : Coherent ({ client with session }, hidden) :=
    closed.same rfl rfl id
  split
  · exact greeted
  · exact greeted.openActiveDocument

end Coherent

end Client

-----------------------------------------------------------------------------------------
-- Runs
-----------------------------------------------------------------------------------------

section Runs

variable {σ : Type} [Host σ] [MenuHost σ]

/-- Nobody else uses the session or changes the candidates, and the editor brings up no menu of
its own.
-/
def ClientAction.SparesMenu (state : Client × σ) : ClientAction σ → Prop
  | useSession _ => False
  | navigate move => CompletionMenu.KeepsCandidates move
  | edit change | alter change =>
    showsMenu (change state.2) = true → showsMenu state.2 = true
  | _ => True

/-- The states that a new client comes to in an editor that shows no menu at first. -/
inductive Unprompted : Client × σ → Prop where
  | start (options : SessionOptions) (limits : OverlayLimits) (host : σ)
    (plain : showsMenu host = false)
    : Unprompted (.new options limits, host)
  | next {state : Client × σ} (reached : Unprompted state) (action : ClientAction σ)
    (spares : action.SparesMenu state)
    : Unprompted (action.run state)

namespace Client

/-- Every action keeps the menu coherent. -/
theorem Coherent.step {state : Client × σ} (coherent : Coherent state) {action : ClientAction σ}
    (spares : action.SparesMenu state)
    : Coherent (action.run state) := by
  obtain ⟨client, host⟩ := state
  cases action with
  | start transport root => exact coherent.start transport root
  | restart transport root => exact coherent.stop.start transport root
  | stop => exact coherent.stop
  | setIndent tabSize insertSpaces => exact coherent.same rfl rfl id
  | useSession use => exact spares.elim
  | openActiveDocument => exact coherent.openActiveDocument
  | save => exact coherent.save
  | triggerCompletion => exact coherent.triggerCompletion
  | navigate move => exact coherent.navigate spares
  | acceptCompletion => exact coherent.acceptCompletion
  | closeCompletion => exact coherent.close
  | format | goToDefinition | findReferences => exact coherent.asked _
  | showLineDiagnostics => exact coherent.showLineDiagnostics
  | processEvents => exact coherent.processEvents
  | receive chunk => exact coherent.receive chunk
  | handleServerEvent event =>
      cases event with
      | output chunk => exact coherent.receive chunk
      | errorLine text => exact coherent
      | exited status => exact coherent.stop.status _
  | edit change =>
      have edited : Coherent (client, change host) := coherent.same rfl rfl spares
      exact edited.documentChanged
  | alter change => exact coherent.same rfl rfl spares

/-- So it is along every run, by induction on its actions. -/
theorem coherent_of_unprompted {state : Client × σ} (reached : Unprompted state)
    : Coherent state ∧ state.1.Orderly := by
  induction reached with
  | start options limits host plain =>
      refine ⟨⟨rfl, fun _ => rfl, fun shows => ?_⟩, .new options limits⟩
      exact absurd (shows.symm.trans plain) (by decide)
  | next _ action spares ih =>
      refine ⟨ih.1.step spares, ih.2.run fun use uses => ?_⟩
      rw [uses] at spares
      exact spares

/-- Whatever the user does and whatever arrives: while no word is completed there are no
candidates, no menu is shown and no streak is awaited, and a menu that is shown is an open one at
a word. To close it gives up nothing but completions that go on waiting.
-/
theorem menu_lives_with_its_word {state : Client × σ} (reached : Unprompted state)
    : (state.1.isCompleting = false
        → state.1.menu.all = []
          ∧ state.1.menu.ranked = []
          ∧ showsMenu state.2 = false
          ∧ state.1.session.pending.any (·.retain) = false)
      ∧ (showsMenu state.2 = true
        → state.1.isCompleting = true ∧ state.1.menu.isOpen = true)
      ∧ ∀ pending,
          state.1.session.pending = some pending
          → ¬(pending.retain = true ∧ pending.method = .completion)
          → (state.1.closeCompletion state.2).1.session.pending = some pending := by
  obtain ⟨coherent, orderly⟩ := coherent_of_unprompted reached
  refine ⟨fun rests => ?_, coherent.shown, fun pending slot other => ?_⟩
  · have idle : state.1.anchor = none := by simpa [isCompleting] using rests
    have empty := coherent.idle idle
    refine ⟨empty, ?_, coherent.unshown idle, orderly.idle idle⟩
    have isClosed := coherent.consistent
    rw [CompletionMenu.Consistent, empty] at isClosed
    simpa [CompletionMenu.isOpen] using isClosed
  · have unretained : pending.retain ≠ true := fun retain =>
      other ⟨retain, orderly.retains pending slot retain⟩
    rw [closeCompletion_session, Session.releasePending, slot, Option.any_some, if_neg unretained]
    exact slot

end Client

end Runs

-----------------------------------------------------------------------------------------
-- Editors that show menus when told to
-----------------------------------------------------------------------------------------

theorem LineEditor.scrollToCursor_overlay (editor : LineEditor)
    : editor.scrollToCursor.overlay = editor.overlay := by
  obtain ⟨scrollTop, scrolled⟩ := editor.scrollToCursor_eq
  rw [scrolled]

instance : MenuHost LineEditor where
  showsMenu editor := editor.overlay.any (·.kind = .completion)
  shown_showOverlay := by
    intro overlay editor shows
    change decide (overlay.kind = .completion) = true at shows
    exact of_decide_eq_true shows
  shown_hideOverlay _ := rfl
  shown_showStatus := id
  shown_setCursor := by
    intro point editor shows
    change (editor.setCursor point).overlay.any _ = true at shows
    rw [LineEditor.setCursor, LineEditor.scrollToCursor_overlay] at shows
    exact shows
  shown_replaceRange := id
  shown_openFile := by
    intro path editor shows
    change (editor.openFile path).2.overlay.any _ = true at shows
    unfold LineEditor.openFile at shows
    split at shows
    · exact shows
    · split at shows
      · exact shows
      · cases shows

/-- Whether a menu is shown after a call, by whether one has been shown before. -/
def HostCall.leavesMenu (shown : Bool) : HostCall → Bool
  | showOverlay overlay => overlay.kind = .completion
  | hideOverlay => false
  | setCursor _ | replace _ _ _ | openFile _ | showStatus _ => shown

/-- Whether the overlay that has been shown last is a menu and has not been hidden since. -/
def RecordedEditor.menuShown (editor : RecordedEditor) : Bool :=
  editor.calls.foldl HostCall.leavesMenu false

theorem RecordedEditor.menuShown_record (editor : RecordedEditor) (call : HostCall)
    : (editor.record call).menuShown = call.leavesMenu editor.menuShown :=
  List.foldl_concat ..

instance : MenuHost RecordedEditor where
  showsMenu := RecordedEditor.menuShown
  shown_showOverlay := by
    intro overlay editor shows
    exact of_decide_eq_true ((editor.menuShown_record (.showOverlay overlay)).symm.trans shows)
  shown_hideOverlay editor := editor.menuShown_record .hideOverlay
  shown_showStatus := by
    intro message editor shows
    exact (editor.menuShown_record (.showStatus message)).symm.trans shows
  shown_setCursor := by
    intro point editor shows
    exact (editor.menuShown_record (.setCursor point)).symm.trans shows
  shown_replaceRange := by
    intro start stop text editor shows
    exact (editor.menuShown_record (.replace start stop text)).symm.trans shows
  shown_openFile := by
    intro path editor shows
    refine (editor.menuShown_record (.openFile path)).symm.trans (Eq.trans ?_ shows)
    change _ = (editor.openFile path).2.menuShown
    unfold RecordedEditor.openFile
    dsimp only
    split <;> rfl

/-- A server has filled the menu, and the selection is moved. -/
def movedState : Client × RecordedEditor :=
  (ClientAction.navigate CompletionMenu.selectNext).run (suggestion.run triggeredState)

/-- A menu that is filled is shown, and it is gone once it is closed. -/
theorem Client.menu_lives_until_closed
    : Unprompted movedState
      ∧ showsMenu movedState.2 = true
      ∧ movedState.1.menu.isOpen = true
      ∧ Unprompted (ClientAction.closeCompletion.run movedState)
      ∧ showsMenu (ClientAction.closeCompletion.run movedState).2 = false := by
  have triggered : Unprompted triggeredState :=
    ((Unprompted.start {} {} wordEditor rfl).next (.start {} "/") trivial).next
      (arrival 0 (.ofFields [])) trivial
      |>.next .triggerCompletion trivial
  have moved : Unprompted movedState :=
    (triggered.next suggestion trivial).next (.navigate CompletionMenu.selectNext)
      (CompletionMenu.keepsCandidates_of_mem _ List.mem_cons_self)
  have closed := moved.next .closeCompletion trivial
  obtain ⟨shows, rests⟩
      : showsMenu movedState.2 = true
        ∧ Client.isCompleting (ClientAction.closeCompletion.run movedState).1 = false := by
    decide +kernel
  have isOpen := (Client.menu_lives_with_its_word moved).2.1 shows
  have gone := (Client.menu_lives_with_its_word closed).1 rests
  exact ⟨moved, shows, isOpen.2, closed, gone.2.2.1⟩

end LanguageClient
