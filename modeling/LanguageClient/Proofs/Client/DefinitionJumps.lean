import LanguageClient.Proofs.Client.FormattedText
import LanguageClient.Proofs.Uri

/-! Jumps to definitions in the document that is shown. The document is known by how the client
writes its URI, so a jump stays in it exactly if the server writes the URI in the same way. All
other ways of writing it name the same file, which is then opened once more.
-/

namespace LanguageClient

variable {σ : Type} [Host σ]

-----------------------------------------------------------------------------------------
-- Files that are opened
-----------------------------------------------------------------------------------------

/-- Any editor, with the paths that it has been asked to open. -/
structure FileWatch (σ : Type) where
  host : σ
  opened : List String := []

namespace FileWatch

/-- Something happens to the editor other than opening a file. -/
def change (watch : FileWatch σ) (happen : σ → σ) : FileWatch σ :=
  { watch with host := happen watch.host }

instance : Host (FileWatch σ) where
  documentPath watch := Host.documentPath watch.host
  language watch := Host.language watch.host
  documentText watch := Host.documentText watch.host
  lineText watch := Host.lineText watch.host
  cursor watch := Host.cursor watch.host
  setCursor point watch := watch.change (Host.setCursor point)
  replaceRange start stop text watch := watch.change (Host.replaceRange start stop text)
  openFile path watch :=
    let (result, host) := Host.openFile path watch.host
    (result, { host, opened := watch.opened ++ [path] })
  showStatus message watch := watch.change (Host.showStatus message)
  showOverlay overlay watch := watch.change (Host.showOverlay overlay)
  hideOverlay watch := watch.change Host.hideOverlay
  screenBounds watch := Host.screenBounds watch.host
  reservedRow watch := Host.reservedRow watch.host
  screenPosition watch := Host.screenPosition watch.host
  files watch := Host.files watch.host

end FileWatch

namespace Client

-----------------------------------------------------------------------------------------
-- Jumps
-----------------------------------------------------------------------------------------

/-- The editor shows the document at a path from the root that leads nowhere else. -/
structure Shows (host : σ) (path : String) : Prop where
  shown : Host.documentPath host = some path
  absolute : Path.isAbsolute path = true
  canonical : (Host.files host).absolute path = path

/-- A watch does not change what a jump does. -/
theorem jumpTo_watched (client : Client) (host : σ) (location : Location)
    : ((client.jumpTo ({ host } : FileWatch σ) location).1,
        (client.jumpTo ({ host } : FileWatch σ) location).2.host)
      = client.jumpTo host location := by
  unfold jumpTo
  cases location.path? with
  | none => rfl
  | some path =>
      have paths
          : (Host.documentPath ({ host } : FileWatch σ)).map
                (Uri.ofPath (Host.files ({ host } : FileWatch σ)))
            = (Host.documentPath host).map (Uri.ofPath (Host.files host)) :=
        rfl
      dsimp only
      rw [paths]
      split
      · rfl
      · have opening
            : Host.openFile path ({ host } : FileWatch σ)
              = ((Host.openFile path host).1, { host := (Host.openFile path host).2, opened := [path] }) :=
          rfl
        rw [opening]
        cases Host.openFile path host with
        | mk result opened =>
            cases result with
            | error reason => rfl
            | ok _ => rfl

/-- What the client takes for the URI of the document that is shown. -/
theorem Shows.uri {host : σ} {path : String} (shows : Shows host path)
    : (Host.documentPath host).map (Uri.ofPath (Host.files host))
      = some (Uri.ofAbsolutePath path) := by
  rw [shows.shown, Option.map_some, Uri.ofPath, shows.canonical]

/-- Only the client's own way of writing the URI keeps the file from being opened again. -/
theorem jumpTo_opened (client : Client) {host : σ} {path : String} (shows : Shows host path)
    {location : Location} (resolves : location.path? = some path)
    : (client.jumpTo ({ host } : FileWatch σ) location).2.opened
      = if location.uri = Uri.ofAbsolutePath path then [] else [path] := by
  have watched : Shows ({ host } : FileWatch σ) path := ⟨shows.shown, shows.absolute, shows.canonical⟩
  unfold jumpTo
  rw [resolves, watched.uri]
  dsimp only
  by_cases own : location.uri = Uri.ofAbsolutePath path
  · rw [own, if_pos rfl, if_pos rfl]
    rfl
  · rw [if_neg fun same => own (Option.some.inj same).symm, if_neg own]
    cases opening : Host.openFile path ({ host } : FileWatch σ) with
    | mk result watch =>
        have asked : watch.opened = [path] := congrArg (·.2.opened) opening.symm
        cases result with
        | error reason => exact asked
        | ok _ => exact asked

/-- In the client's own way of writing the URI, a jump moves the cursor and that is all. -/
theorem jumpTo_own (client : Client) {host : σ} {path : String} (shows : Shows host path)
    {location : Location} (resolves : location.path? = some path)
    (own : location.uri = Uri.ofAbsolutePath path)
    : client.jumpTo host location = (client, moveTo host path location) := by
  unfold jumpTo
  rw [resolves, shows.uri, own]
  exact if_pos rfl

/-- The definition is in the document that is shown, in whatever way the server writes its URI. The
file is not opened again exactly if that is the way in which the client writes it, and then the
client and the text stay as they are and the cursor is moved to the start of the definition.
Every other way of writing it opens the file again.
-/
theorem definition_stays_iff [SteadyText σ] (client : Client) (host : σ) (path : String)
    (shows : Shows host path) (location : Location) (others : List Location)
    : let reply := Reply.definition (location :: others)
      let after := client.handleReply ({ host } : FileWatch σ) reply
      let start := pointOf host location.range.start
      (after.1, after.2.host) = client.handleReply host reply
      ∧ Uri.Spells (Uri.ofAbsolutePath path) path
      ∧ (Uri.Spells location.uri path → location.path? = some path)
      ∧ (location.path? = some path
        → (after.2.opened = [] ↔ location.uri = Uri.ofAbsolutePath path)
          ∧ (location.uri ≠ Uri.ofAbsolutePath path → after.2.opened = [path])
          ∧ (location.uri = Uri.ofAbsolutePath path
            → after.1 = client
              ∧ Host.documentText after.2.host = Host.documentText host
              ∧ after.2.host
                = Host.showStatus (path ++ ":" ++ toString (start.line + 1))
                    (Host.setCursor start host))) := by
  intro reply after start
  have watched : (after.1, after.2.host) = client.jumpTo host location :=
    client.jumpTo_watched host location
  refine ⟨watched, Uri.spells_ofAbsolutePath shows.absolute, fun spells => spells.toPath?_eq,
    fun resolves => ?_⟩
  have opened : after.2.opened = if location.uri = Uri.ofAbsolutePath path then [] else [path] :=
    client.jumpTo_opened shows resolves
  refine ⟨?_, fun other => opened.trans (if_neg other), fun own => ?_⟩
  · rw [opened]
    split
    · rename_i own
      exact ⟨fun _ => own, fun _ => rfl⟩
    · rename_i other
      exact ⟨nofun, fun own => absurd own other⟩
  · rw [jumpTo_own client shows resolves own] at watched
    obtain ⟨same, moved⟩ := Prod.mk.inj watched
    exact ⟨same, by rw [moved]; exact text_moveTo host path location, moved⟩

/-- An editor that shows a file with changes that have not been saved. -/
def unsaved : RecordedEditor where
  buffer := .ofText "fo\nbar\nbaz".toList
  cursor := { line := 0, column := 2 }
  path := some "/a+b.rs"
  language := "rust"
  documents := [("/a+b.rs", "fo")]
  screen := { x := 0, y := 0, width := 80, height := 20 }
  reserved := 19

theorem shows_unsaved : Shows unsaved "/a+b.rs" :=
  ⟨rfl, by decide +kernel, by decide +kernel⟩

/-- A definition in the last line of the file, in some way of writing its URI. -/
def definedAt (uri : String) : Location where
  uri
  range := { start := { line := 2, character := 1 }, stop := { line := 2, character := 3 } }

/-- The server writes the plus sign by its value, as the client does. -/
theorem definition_stays_iff_of_own_spelling
    : let after :=
        ({} : Client).handleReply ({ host := unsaved } : FileWatch RecordedEditor)
          (.definition [definedAt "file:///a%2Bb.rs"])
      Shows unsaved "/a+b.rs"
      ∧ (definedAt "file:///a%2Bb.rs").path? = some "/a+b.rs"
      ∧ after.2.opened = []
      ∧ Host.documentText after.2.host = Host.documentText unsaved
      ∧ Host.cursor after.2.host = { line := 2, column := 1 } := by
  intro after
  have resolves : (definedAt "file:///a%2Bb.rs").path? = some "/a+b.rs" := by decide +kernel
  have own : (definedAt "file:///a%2Bb.rs").uri = Uri.ofAbsolutePath "/a+b.rs" := by
    decide +kernel
  obtain ⟨_, _, _, jumps⟩ :=
    definition_stays_iff {} unsaved "/a+b.rs" shows_unsaved (definedAt "file:///a%2Bb.rs") []
  obtain ⟨stays, _, kept⟩ := jumps resolves
  obtain ⟨_, text, moved⟩ := kept own
  refine ⟨shows_unsaved, resolves, stays.mpr own, text, ?_⟩
  rw [moved]
  decide +kernel

/-- The server leaves the plus sign as it is, which a URI may. The file is opened again, and the
changes that have not been saved are gone.
-/
theorem definition_reopens_shown_file
    : let reply := Reply.definition [definedAt "file:///a+b.rs"]
      let after := ({} : Client).handleReply ({ host := unsaved } : FileWatch RecordedEditor) reply
      Shows unsaved "/a+b.rs"
      ∧ Uri.Spells "file:///a+b.rs" "/a+b.rs"
      ∧ (definedAt "file:///a+b.rs").path? = some "/a+b.rs"
      ∧ after.2.opened = ["/a+b.rs"]
      ∧ Host.documentText unsaved = "fo\nbar\nbaz"
      ∧ Host.documentText after.2.host = "fo" := by
  have spells : Uri.Spells "file:///a+b.rs" "/a+b.rs" := by
    refine ⟨rfl, [], "/a+b.rs".toList, Or.inl rfl, by decide, ?_⟩
    have bytes : Text.Utf8.encode "/a+b.rs" = [47, 97, 43, 98, 46, 114, 115] := by decide
    rw [bytes]
    repeat' first
      | exact .none
      | refine .itself (by decide) ?_
  exact ⟨shows_unsaved, spells, spells.toPath?_eq, by decide +kernel⟩

end Client

end LanguageClient
