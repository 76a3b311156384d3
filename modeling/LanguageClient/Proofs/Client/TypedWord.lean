import LanguageClient.Client.Events

/-! A menu belongs to the word before the cursor. Everything that a client does on its own
keeps the cursor, follows the word to another cursor, or closes the menu; going to a
definition does none of these.
-/

namespace LanguageClient

/-- A point on the same line as another one and not behind it. -/
def TextPoint.Precedes (start stop : TextPoint) : Prop :=
  start.line = stop.line ∧ start.column ≤ stop.column

instance (start stop : TextPoint) : Decidable (start.Precedes stop) :=
  inferInstanceAs (Decidable (_ ∧ _))

/-- An editor whose cursor only moves when it is told to, when the text changes, or when
another document is shown.
-/
class SteadyHost (σ : Type) [Host σ] : Prop where
  cursor_showStatus
    : ∀ (message : String) (host : σ), Host.cursor (Host.showStatus message host) = Host.cursor host
  cursor_showOverlay
    : ∀ (overlay : Overlay) (host : σ),
        Host.cursor (Host.showOverlay overlay host) = Host.cursor host
  cursor_hideOverlay : ∀ host : σ, Host.cursor (Host.hideOverlay host) = Host.cursor host
  cursor_openFile
    : ∀ {path reason : String} {host unopened : σ},
        Host.openFile path host = (.error reason, unopened)
        → Host.cursor unopened = Host.cursor host

attribute [simp] SteadyHost.cursor_showStatus SteadyHost.cursor_showOverlay
  SteadyHost.cursor_hideOverlay

namespace Client

variable {σ : Type} [Host σ]

/-- The word that is being completed starts on the line of the cursor and not behind it. -/
def OnWord (client : Client) (host : σ) : Prop :=
  ∀ anchor, client.anchor = some anchor → anchor.Precedes (Host.cursor host)

/-- Without a menu there is no word to stay on. -/
theorem onWord_of_idle {client : Client} (idle : client.anchor = none) (host : σ)
    : client.OnWord host := by
  intro anchor completing
  exact absurd (idle.symm.trans completing) nofun

/-- The word is kept or given up, and the cursor is kept. -/
structure KeepsWord (client : Client) (host : σ) (outcome : Client × σ) : Prop where
  anchor : outcome.1.anchor = none ∨ outcome.1.anchor = client.anchor
  cursor : Host.cursor outcome.2 = Host.cursor host

namespace KeepsWord

variable {client : Client} {host : σ} {outcome : Client × σ}

theorem of_same {told : Client} (anchor : told.anchor = client.anchor)
    : KeepsWord client host (told, host) :=
  ⟨Or.inr anchor, rfl⟩

theorem trans (earlier : KeepsWord client host outcome) {last : Client × σ}
    (later : KeepsWord outcome.1 outcome.2 last)
    : KeepsWord client host last where
  anchor := by
    rcases later.anchor with closed | kept
    · exact Or.inl closed
    · exact earlier.anchor.imp kept.trans kept.trans
  cursor := later.cursor.trans earlier.cursor

/-- Nothing but the word of the client before counts. -/
theorem of_anchor {told : Client} (kept : KeepsWord told host outcome)
    (anchor : told.anchor = client.anchor)
    : KeepsWord client host outcome :=
  ⟨anchor ▸ kept.anchor, kept.cursor⟩

theorem onWord (kept : KeepsWord client host outcome) (onWord : client.OnWord host)
    : outcome.1.OnWord outcome.2 := by
  intro anchor completing
  rw [kept.cursor]
  rcases kept.anchor with closed | same
  · exact absurd (closed.symm.trans completing) nofun
  · exact onWord anchor (same.symm.trans completing)

end KeepsWord

theorem closeCompletion_anchor (client : Client) (host : σ)
    : (client.closeCompletion host).1.anchor = none := by
  unfold closeCompletion
  dsimp only
  split
  · rfl
  · rename_i idle
    cases anchor : client.anchor with
    | none => rfl
    | some point => simp [anchor] at idle

/-- The typed word starts before the cursor. -/
theorem typedWord_precedes (host : σ) : (typedWord host).1.Precedes (Host.cursor host) :=
  ⟨rfl, Word.start_le _ _⟩

theorem triggerCompletion_onWord (client : Client) (host : σ)
    : (client.triggerCompletion host).1.OnWord (client.triggerCompletion host).2 := by
  unfold triggerCompletion
  dsimp only
  split
  · intro anchor completing
    obtain rfl := Option.some.inj completing
    exact typedWord_precedes host
  · exact onWord_of_idle (closeCompletion_anchor _ host) _

theorem openActiveDocument_anchor (client : Client) (host : σ)
    : (client.openActiveDocument host).2.anchor = client.anchor := by
  unfold openActiveDocument
  split <;> rfl

/-- A server starts without a menu. -/
theorem start_idle (client : Client) (host : σ) (transport : Transport) (root : String)
    : (client.start host transport root).2.1.anchor = none := by
  have closed := client.closeCompletion_anchor host
  unfold start
  dsimp only
  split
  · exact closed
  · exact (openActiveDocument_anchor _ _).trans closed

variable [SteadyHost σ]

-----------------------------------------------------------------------------------------
-- The menu
-----------------------------------------------------------------------------------------

/-- Closing the menu keeps the cursor. -/
theorem closeCompletion_keepsWord (client : Client) (host : σ)
    : KeepsWord client host (client.closeCompletion host) := by
  refine ⟨Or.inl (client.closeCompletion_anchor host), ?_⟩
  unfold closeCompletion
  dsimp only
  split
  · exact SteadyHost.cursor_hideOverlay host
  · rfl

/-- Showing the menu keeps its word and the cursor. -/
theorem renderCompletion_keepsWord (client : Client) (host : σ)
    : KeepsWord client host (client.renderCompletion host) := by
  unfold renderCompletion
  split
  · exact .of_same rfl
  · split
    · exact ⟨Or.inr rfl, SteadyHost.cursor_hideOverlay host⟩
    · split
      · exact ⟨Or.inr rfl, SteadyHost.cursor_hideOverlay host⟩
      · exact ⟨Or.inr rfl, SteadyHost.cursor_showOverlay _ host⟩

theorem navigate_keepsWord (client : Client) (host : σ) (move : CompletionMenu → CompletionMenu)
    : KeepsWord client host (client.navigate host move).2 := by
  unfold navigate
  split
  · exact (renderCompletion_keepsWord { client with menu := move client.menu } host).of_anchor
      rfl
  · exact .of_same rfl

/-- Whatever the cursor is, the menu follows the word before it or is closed. -/
theorem updateCompletion_onWord (client : Client) (host : σ)
    : (client.updateCompletion host).1.OnWord (client.updateCompletion host).2 := by
  unfold updateCompletion
  split
  · rename_i idle
    exact onWord_of_idle idle host
  · rename_i anchor completing
    dsimp only
    split
    · rename_i same
      refine (renderCompletion_keepsWord _ host).onWord ?_
      intro other stillCompleting
      obtain rfl := Option.some.inj (completing.symm.trans stillCompleting)
      exact same ▸ typedWord_precedes host
    · exact onWord_of_idle (client.closeCompletion_anchor host) _

/-- The cursor may be anywhere before a change of the text is told. -/
theorem documentChanged_onWord (client : Client) (host : σ)
    : (client.documentChanged host).1.OnWord (client.documentChanged host).2 :=
  updateCompletion_onWord _ host

/-- An accepted candidate closes the menu. -/
theorem acceptCompletion_onWord (client : Client) (host : σ)
    : (client.acceptCompletion host).2.1.OnWord (client.acceptCompletion host).2.2 := by
  unfold acceptCompletion
  split
  · rename_i idle
    exact onWord_of_idle idle host
  · split
    · exact onWord_of_idle (client.closeCompletion_anchor host) _
    · exact documentChanged_onWord _ _

-----------------------------------------------------------------------------------------
-- Requests and messages
-----------------------------------------------------------------------------------------

theorem report_cursor (host : σ) (error : ClientError)
    : Host.cursor (report host error) = Host.cursor host :=
  SteadyHost.cursor_showStatus _ host

theorem asked_keepsWord (client : Client) (host : σ) (outcome : Session.Outcome RequestHandle)
    : KeepsWord client host (client.asked host outcome) := by
  unfold asked
  dsimp only
  split
  · exact .of_same rfl
  · exact ⟨Or.inr rfl, report_cursor host _⟩

theorem save_keepsWord (client : Client) (host : σ)
    : KeepsWord client host (client.save host) := by
  unfold save
  dsimp only
  split
  · exact .of_same rfl
  · exact .of_same rfl
  · exact .of_same rfl
  · exact ⟨Or.inr rfl, report_cursor host _⟩

/-- Lines are shown in place of the menu. -/
theorem showLines_keepsWord (client : Client) (host : σ) (point : TextPoint)
    (lines : List String)
    : KeepsWord client host (client.showLines host point lines) := by
  have closed := client.closeCompletion_keepsWord host
  unfold showLines
  dsimp only
  split
  · exact closed
  · exact closed.trans ⟨Or.inr rfl, SteadyHost.cursor_showOverlay _ _⟩

theorem showLineDiagnostics_keepsWord (client : Client) (host : σ)
    : KeepsWord client host (client.showLineDiagnostics host) := by
  unfold showLineDiagnostics
  dsimp only
  split
  · exact ⟨Or.inr rfl, SteadyHost.cursor_showStatus _ host⟩
  · exact client.showLines_keepsWord host _ _

theorem showReferences_keepsWord (client : Client) (host : σ) (locations : List Location)
    : KeepsWord client host (client.showReferences host locations) := by
  have shown
      : KeepsWord client host
          (client, Host.showStatus (toString locations.length ++ " references") host) :=
    ⟨Or.inr rfl, SteadyHost.cursor_showStatus _ host⟩
  exact shown.trans (client.showLines_keepsWord _ _ _)

theorem showCandidates_keepsWord (client : Client) (host : σ) (candidates : List Candidate)
    : KeepsWord client host (client.showCandidates host candidates) := by
  unfold showCandidates
  split
  · exact .of_same rfl
  · dsimp only
    split
    · exact (renderCompletion_keepsWord
        { client with menu := client.menu.setCandidates candidates } host).of_anchor rfl
    · have closed := closeCompletion_keepsWord
        { client with menu := client.menu.setCandidates candidates } host
      exact ⟨closed.anchor, (SteadyHost.cursor_showStatus _ _).trans closed.cursor⟩

theorem showCounts_cursor (host : σ) (diagnostics : List Diagnostic)
    : Host.cursor (showCounts host diagnostics) = Host.cursor host := by
  unfold showCounts
  dsimp only
  split
  · rfl
  · exact SteadyHost.cursor_showStatus _ host

/-- Formatting edits may leave the cursor anywhere, but they are told as a change. -/
theorem applyFormatting_onWord {client : Client} {host : σ} (onWord : client.OnWord host)
    (edits : List TextEdit)
    : (client.applyFormatting host edits).1.OnWord (client.applyFormatting host edits).2 := by
  unfold applyFormatting
  split
  · intro anchor completing
    rw [report_cursor]
    exact onWord anchor completing
  · intro anchor completing
    dsimp only
    rw [SteadyHost.cursor_showStatus]
    exact documentChanged_onWord client _ anchor completing

end Client

end LanguageClient
