import LanguageClient.Proofs.Client.TypedWord
import LanguageClient.Proofs.Session.AwaitedFormatting

/-! What a client does beside its document: it shows messages and overlays, and its session is
given no text. Most of its operations are of this kind.
-/

namespace LanguageClient

variable {σ : Type} [Host σ]

/-- What an editor comes to when messages are shown, and overlays are shown or hidden. -/
inductive Displayed (host : σ) : σ → Prop where
  | same : Displayed host host
  | status {shown : σ} (displayed : Displayed host shown) (message : String)
    : Displayed host (Host.showStatus message shown)
  | overlay {shown : σ} (displayed : Displayed host shown) (overlay : Overlay)
    : Displayed host (Host.showOverlay overlay shown)
  | hidden {shown : σ} (displayed : Displayed host shown)
    : Displayed host (Host.hideOverlay shown)

namespace Displayed

variable {host shown : σ}

theorem trans (earlier : Displayed host shown) {last : σ} (later : Displayed shown last)
    : Displayed host last := by
  induction later with
  | same => exact earlier
  | status _ message displayed => exact displayed.status message
  | overlay _ overlay displayed => exact displayed.overlay overlay
  | hidden _ displayed => exact displayed.hidden

/-- What messages and overlays leave alone is left alone, by induction on them. -/
theorem keeps {α : Type} {view : σ → α} (displayed : Displayed host shown)
    (status : ∀ message host, view (Host.showStatus message host) = view host)
    (overlay : ∀ overlay host, view (Host.showOverlay overlay host) = view host)
    (hidden : ∀ host, view (Host.hideOverlay host) = view host)
    : view shown = view host := by
  induction displayed with
  | same => rfl
  | status _ message same => exact (status message _).trans same
  | overlay _ shown same => exact (overlay shown _).trans same
  | hidden _ same => exact (hidden _).trans same

end Displayed

namespace Client

/-- Something is shown, and the session has been given no text. -/
structure Displays (before after : Client × σ) : Prop where
  session : Session.Neutral before.1.session after.1.session
  host : Displayed before.2 after.2

namespace Displays

theorem of_session {client changed : Client} {host shown : σ}
    (session : changed.session = client.session) (displayed : Displayed host shown)
    : Displays (client, host) (changed, shown) :=
  ⟨session ▸ .refl _, displayed⟩

theorem refl (state : Client × σ) : Displays state state :=
  ⟨.refl _, .same⟩

theorem trans {first second third : Client × σ} (earlier : Displays first second)
    (later : Displays second third)
    : Displays first third :=
  ⟨earlier.session.trans later.session, earlier.host.trans later.host⟩

/-- A message comes last. -/
theorem status {state : Client × σ} {client : Client} {host : σ}
    (displays : Displays state (client, host)) (message : String)
    : Displays state (client, Host.showStatus message host) :=
  ⟨displays.session, displays.host.status message⟩

end Displays

-----------------------------------------------------------------------------------------
-- The menu
-----------------------------------------------------------------------------------------

theorem closeCompletion_displays (client : Client) (host : σ)
    : Displays (client, host) (client.closeCompletion host) := by
  unfold closeCompletion
  dsimp only
  split
  · exact ⟨client.session.releasePending_neutral, Displayed.same.hidden⟩
  · exact ⟨client.session.releasePending_neutral, .same⟩

theorem renderCompletion_displays (client : Client) (host : σ)
    : Displays (client, host) (client.renderCompletion host) := by
  unfold renderCompletion
  split
  · exact .refl _
  · split
    · exact .of_session rfl Displayed.same.hidden
    · split
      · exact .of_session rfl Displayed.same.hidden
      · exact .of_session rfl (Displayed.same.overlay _)

/-- A menu changes nothing that counts. -/
theorem renderCompletion_displays_menu (client : Client) (menu : CompletionMenu) (host : σ)
    : Displays (client, host) (Client.renderCompletion { client with menu } host) := by
  have filled : Displays (client, host) ({ client with menu }, host) := .of_session rfl .same
  exact filled.trans (renderCompletion_displays _ host)

theorem requestCompletion_neutral (session : Session) (position : Position)
    : Session.Neutral session (session.requestCompletion position).2 :=
  session.requestAboutDocument_neutral _ (fun _ => nofun) nofun

theorem triggerCompletion_displays (client : Client) (host : σ)
    : Displays (client, host) (client.triggerCompletion host) := by
  have asked := requestCompletion_neutral client.session (positionOf host (Host.cursor host))
  unfold triggerCompletion
  dsimp only
  split
  · rename_i outcome
    rw [outcome] at asked
    exact ⟨asked, .same⟩
  · rename_i session outcome
    rw [outcome] at asked
    have told : Displays (client, host) ({ client with session }, host) := ⟨asked, .same⟩
    exact (told.trans (closeCompletion_displays { client with session } host)).status _

theorem updateCompletion_displays (client : Client) (host : σ)
    : Displays (client, host) (client.updateCompletion host) := by
  unfold updateCompletion
  split
  · exact .refl _
  · dsimp only
    split
    · have asked
          : Displays (client, host)
              ({ client with
                session :=
                  (client.session.requestCompletion (positionOf host (Host.cursor host))).2
                menu := client.menu.setTyped (typedWord host).2 },
                host) :=
        ⟨requestCompletion_neutral _ _, .same⟩
      exact asked.trans (renderCompletion_displays _ host)
    · exact client.closeCompletion_displays host

theorem navigate_displays (client : Client) (host : σ) (move : CompletionMenu → CompletionMenu)
    : Displays (client, host) (client.navigate host move).2 := by
  unfold navigate
  split
  · exact client.renderCompletion_displays_menu _ host
  · exact .refl _

theorem showCandidates_displays (client : Client) (host : σ) (candidates : List Candidate)
    : Displays (client, host) (client.showCandidates host candidates) := by
  unfold showCandidates
  split
  · exact .refl _
  · dsimp only
    split
    · exact client.renderCompletion_displays_menu _ host
    · have filled
          : Displays (client, host)
              ({ client with menu := client.menu.setCandidates candidates }, host) :=
        .of_session rfl .same
      exact (filled.trans (closeCompletion_displays _ host)).status _

-----------------------------------------------------------------------------------------
-- Requests and messages
-----------------------------------------------------------------------------------------

/-- Whatever is asked for apart from formatting gives no text. -/
theorem asked_displays (client : Client) (host : σ) {outcome : Session.Outcome RequestHandle}
    (neutral : Session.Neutral client.session outcome.2)
    : Displays (client, host) (client.asked host outcome) := by
  unfold asked
  dsimp only
  split
  · exact ⟨neutral, .same⟩
  · exact ⟨neutral, Displayed.same.status _⟩

theorem save_displays (client : Client) (host : σ)
    : Displays (client, host) (client.save host) := by
  have told := client.session.saveDocument_neutral none
  unfold save
  dsimp only
  split
  · exact ⟨told, .same⟩
  · exact ⟨told, .same⟩
  · exact ⟨told, .same⟩
  · exact ⟨told, Displayed.same.status _⟩

theorem showLines_displays (client : Client) (host : σ) (point : TextPoint)
    (lines : List String)
    : Displays (client, host) (client.showLines host point lines) := by
  have closed := client.closeCompletion_displays host
  unfold showLines
  dsimp only
  split
  · exact closed
  · exact ⟨closed.session, closed.host.overlay _⟩

theorem showLineDiagnostics_displays (client : Client) (host : σ)
    : Displays (client, host) (client.showLineDiagnostics host) := by
  unfold showLineDiagnostics
  dsimp only
  split
  · exact (Displays.refl _).status _
  · exact client.showLines_displays host _ _

theorem showReferences_displays (client : Client) (host : σ) (locations : List Location)
    : Displays (client, host) (client.showReferences host locations) := by
  have shown := (Displays.refl (client, host)).status
    (toString locations.length ++ " references")
  exact shown.trans (client.showLines_displays _ _ _)

theorem showCounts_displayed (host : σ) (diagnostics : List Diagnostic)
    : Displayed host (showCounts host diagnostics) := by
  unfold showCounts
  dsimp only
  split
  · exact .same
  · exact Displayed.same.status _

end Client

end LanguageClient
