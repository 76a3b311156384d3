import LanguageClient.Proofs.Client.CompletionRequests
import LanguageClient.Proofs.Client.FormattedText

/-! The word that candidates are for. Completion requests are sent for the word that is being
completed, and the menu closes when that word is left. Only a trigger turns to another word, and
it goes on awaiting the requests before it: candidates for these are shown at the word of the
last trigger.
-/

namespace LanguageClient

open Json (Value)
open Session (CompletionsFrom completionSent?)

variable {σ : Type} [Host σ]

-----------------------------------------------------------------------------------------
-- Runs with a record of completions
-----------------------------------------------------------------------------------------

/-- A completion request that has gone out. -/
structure AskedCompletion where
  id : Nat
  /-- Where the word started that it was sent for. -/
  anchor : Option TextPoint
  /-- Whether it was sent by a trigger, and not because the text had changed. -/
  triggered : Bool
deriving DecidableEq, Repr

/-- Candidates that are put into the menu. -/
structure FilledMenu where
  /-- The request that they reply to. -/
  handle : RequestHandle
  /-- Where the word starts that is being completed by now. -/
  anchor : TextPoint
  /-- The completion requests that the server has been sent by now, oldest first. -/
  asked : List AskedCompletion
deriving DecidableEq, Repr

/-- A client and its editor after some actions, with a record of completions. -/
structure AnchorRun (σ : Type) where
  state : Client × σ
  /-- The completion requests that the server has been sent, oldest first. -/
  asked : List AskedCompletion := []
  filled : List FilledMenu := []

namespace AnchorRun

/-- The record of a completion request, made when it has gone out. -/
def noted (run : AnchorRun σ) (triggered : Bool) (after : Client) : List AskedCompletion :=
  (completionSent? run.state.1.session after.session).toList.map fun id =>
    { id, anchor := after.anchor, triggered }

/-- Something is done at once. -/
def advance (run : AnchorRun σ) (triggered : Bool) (state : Client × σ) : AnchorRun σ :=
  { run with state, asked := run.asked ++ run.noted triggered state.1 }

/-- The record of candidates, made before they are put into the menu. -/
def record (run : AnchorRun σ) : SessionEvent → List FilledMenu
  | .reply handle (.completion _) =>
    run.state.1.anchor.toList.map fun anchor => { handle, anchor, asked := run.asked }
  | _ => []

/-- One event more. -/
def take (run : AnchorRun σ) (event : SessionEvent) : AnchorRun σ :=
  { run.advance false (Client.turn run.state event) with
    filled := run.filled ++ run.record event }

/-- The session does something by itself. -/
def withSession (run : AnchorRun σ) (session : Session) : AnchorRun σ :=
  { run with state := (run.state.1.withSession session, run.state.2) }

/-- The events that wait. -/
def takeAll (run : AnchorRun σ) : AnchorRun σ :=
  run.state.1.session.drainEvents.1.foldl take
    (run.withSession run.state.1.session.drainEvents.2)

/-- One action more. A new server has been sent nothing. -/
def step (run : AnchorRun σ) : ClientAction σ → AnchorRun σ
  | .receive chunk | .handleServerEvent (.output chunk) =>
    (run.withSession (run.state.1.session.receive chunk)).takeAll
  | .processEvents => run.takeAll
  | .start transport root =>
    { run with state := (ClientAction.start transport root).run run.state, asked := [] }
  | .restart transport root =>
    { run with state := (ClientAction.restart transport root).run run.state, asked := [] }
  | action => run.advance action.isTrigger (action.run run.state)

theorem takeAll_state (run : AnchorRun σ)
    : run.takeAll.state = ClientAction.processEvents.run run.state :=
  (List.foldl_hom state fun _ _ => rfl).symm

/-- The record changes nothing. -/
theorem step_state (run : AnchorRun σ) (action : ClientAction σ)
    : (run.step action).state = action.run run.state := by
  unfold step
  split
  · exact takeAll_state _
  · exact takeAll_state _
  · exact takeAll_state _
  · rfl
  · rfl
  · rfl

end AnchorRun

/-- The runs of a new client in any editor, while nobody else uses the session. -/
inductive AnchorRun.Reached : AnchorRun σ → Prop where
  | start (options : SessionOptions) (limits : OverlayLimits) (host : σ)
    : Reached { state := (.new options limits, host) }
  | next {run : AnchorRun σ} (reached : Reached run) (action : ClientAction σ)
    (own : ∀ use, action ≠ .useSession use)
    : Reached (run.step action)

-----------------------------------------------------------------------------------------
-- The record of a request
-----------------------------------------------------------------------------------------

/-- The last of some requests that a trigger has sent. -/
def lastTrigger? (asked : List AskedCompletion) : Option AskedCompletion :=
  (asked.filter (·.triggered)).getLast?

theorem lastTrigger?_concat (asked : List AskedCompletion) (later : AskedCompletion)
    : lastTrigger? (asked ++ [later])
      = if later.triggered then some later else lastTrigger? asked := by
  unfold lastTrigger?
  rw [List.filter_append]
  cases triggered : later.triggered with
  | false => simp [triggered]
  | true => simp [triggered]

/-- A request is on record. A word that is being completed is that of the last trigger since, or
else the word that the request was sent for.
-/
def Traced (asked : List AskedCompletion) (anchor : Option TextPoint) (id : Nat) : Prop :=
  ∃ front entry since,
    asked = front ++ entry :: since
    ∧ entry.id = id
    ∧ (anchor = none ∨ ((lastTrigger? since).getD entry).anchor = anchor)

namespace Traced

variable {asked : List AskedCompletion} {anchor : Option TextPoint} {id : Nat}

theorem closed (traced : Traced asked anchor id) : Traced asked none id := by
  obtain ⟨front, entry, since, split, same, _⟩ := traced
  exact ⟨front, entry, since, split, same, Or.inl rfl⟩

theorem last (asked : List AskedCompletion) (entry : AskedCompletion)
    : Traced (asked ++ [entry]) entry.anchor entry.id :=
  ⟨asked, entry, [], rfl, rfl, Or.inr rfl⟩

/-- The requests before a trigger are at its word from then on. -/
theorem concat (traced : Traced asked anchor id) {later : AskedCompletion}
    (follows : later.triggered = false → later.anchor = anchor)
    : Traced (asked ++ [later]) later.anchor id := by
  obtain ⟨front, entry, since, rfl, same, word⟩ := traced
  refine ⟨front, entry, since ++ [later], by simp, same, ?_⟩
  rw [lastTrigger?_concat]
  cases triggered : later.triggered with
  | true => exact Or.inr rfl
  | false =>
      rw [follows triggered]
      exact word

end Traced

-----------------------------------------------------------------------------------------
-- The invariant
-----------------------------------------------------------------------------------------

/-- The candidates are for one request on record, and they come at the word of the last trigger
since.
-/
structure FilledMenu.Faithful (filled : FilledMenu) : Prop where
  numbered : filled.asked.Pairwise fun earlier later => earlier.id < later.id
  traced : Traced filled.asked (some filled.anchor) filled.handle.id

namespace AnchorRun

/-- What every run keeps: candidates are awaited and wait for requests on record only. -/
structure Sound (run : AnchorRun σ) : Prop where
  orderly : run.state.1.Orderly
  numbered : run.asked.Pairwise fun earlier later => earlier.id < later.id
  issued
    : run.state.1.session.isRunning = true
      → ∀ entry ∈ run.asked, entry.id < run.state.1.session.nextId
  completions : CompletionsFrom (Traced run.asked run.state.1.anchor) run.state.1.session
  filled : ∀ filled ∈ run.filled, filled.Faithful

section Record

variable {run : AnchorRun σ} {triggered : Bool} {after : Client}

omit [Host σ]

theorem noted_of_quiet (latest : run.state.1.session.AwaitsLatest)
    (quiet : Session.Quiet run.state.1.session after.session)
    : run.noted triggered after = [] := by
  rw [noted, Session.completionSent?_of_quiet latest quiet, Option.toList_none, List.map_nil]

theorem noted_of_other {middle : Session} {method : Method} {transport : Transport}
    {message : Value} (quiet : Session.Quiet run.state.1.session middle)
    (running : middle.isRunning = true)
    (sent : after.session = (middle.asking method).delivered transport message)
    (other : method ≠ .completion)
    : run.noted triggered after = [] := by
  rw [noted, sent, Session.completionSent?_of_asking quiet running, if_neg other,
    Option.toList_none, List.map_nil]

theorem noted_of_completion (triggered : Bool) {middle : Session} {transport : Transport}
    {message : Value} (quiet : Session.Quiet run.state.1.session middle)
    (running : middle.isRunning = true)
    (sent : after.session = (middle.asking .completion).delivered transport message)
    : run.noted triggered after
      = [{ id := run.state.1.session.nextId, anchor := after.anchor, triggered }] := by
  rw [noted, sent, Session.completionSent?_of_asking quiet running, if_pos rfl,
    Option.toList_some, List.map_singleton]

/-- Requests on record stay there, and a trigger takes them along to its word. -/
theorem traced_noted (latest : run.state.1.session.AwaitsLatest)
    (onward : Client.Onward triggered run.state.1 after) {id : Nat}
    (traced : Traced run.asked run.state.1.anchor id)
    : Traced (run.asked ++ run.noted triggered after) after.anchor id := by
  cases onward with
  | quiet quiet anchor =>
      rw [noted_of_quiet latest quiet, List.append_nil]
      rcases anchor with same | ⟨none, _⟩
      · rw [same]
        exact traced
      · rw [none]
        exact traced.closed
  | asks middle method transport message quiet running sent completing anchor =>
      by_cases completion : method = .completion
      · subst completion
        rw [noted_of_completion triggered quiet running sent]
        refine traced.concat fun untriggered => ?_
        refine anchor.resolve_right fun moved => ?_
        exact absurd (moved.1.symm.trans untriggered) (by decide)
      · have same := anchor.resolve_right fun moved => completion moved.2
        rw [noted_of_other quiet running sent completion, List.append_nil, same]
        exact traced

end Record

namespace Sound

variable {run : AnchorRun σ}

section Advance

omit [Host σ]

variable {triggered : Bool} {state : Client × σ}

/-- Nothing is asked, or something else is. -/
theorem unasked (sound : run.Sound) (orderly : state.1.Orderly)
    (nothing : run.noted triggered state.1 = [])
    (issued
      : state.1.session.isRunning = true
        → run.state.1.session.isRunning = true
          ∧ run.state.1.session.nextId ≤ state.1.session.nextId)
    (completions : CompletionsFrom (Traced run.asked state.1.anchor) state.1.session)
    : (run.advance triggered state).Sound := by
  have same : (run.advance triggered state).asked = run.asked := by
    rw [AnchorRun.advance, nothing, List.append_nil]
  refine ⟨orderly, same ▸ sound.numbered, fun running => ?_, same ▸ completions, sound.filled⟩
  obtain ⟨before, later⟩ := issued running
  rw [same]
  exact fun entry listed => Nat.lt_of_lt_of_le (sound.issued before entry listed) later

/-- A completion request takes its place on record. -/
theorem asked (sound : run.Sound) (orderly : state.1.Orderly)
    (noted
      : run.noted triggered state.1
        = [{ id := run.state.1.session.nextId, anchor := state.1.anchor, triggered }])
    (running : run.state.1.session.isRunning = true)
    (next : state.1.session.nextId = run.state.1.session.nextId + 1)
    (completions
      : CompletionsFrom (Traced (run.asked ++ run.noted triggered state.1) state.1.anchor)
          state.1.session)
    : (run.advance triggered state).Sound := by
  have issued := sound.issued running
  refine ⟨orderly, ?_, fun _ entry listed => ?_, completions, sound.filled⟩
  · dsimp only [AnchorRun.advance]
    rw [noted]
    refine List.pairwise_append.mpr ⟨sound.numbered, List.pairwise_singleton _ _, ?_⟩
    intro earlier listed later new
    rw [List.mem_singleton.mp new]
    exact issued earlier listed
  · dsimp only [AnchorRun.advance] at listed ⊢
    rw [noted] at listed
    rw [next]
    rcases List.mem_append.mp listed with earlier | new
    · exact Nat.lt_succ_of_lt (issued entry earlier)
    · rw [List.mem_singleton.mp new]
      exact Nat.lt_succ_self _

/-- What is done at once leaves awaited what is on record only. -/
theorem advance (sound : run.Sound) (onward : Client.Onward triggered run.state.1 state.1)
    : (run.advance triggered state).Sound := by
  have latest := sound.orderly.latest
  have orderly := sound.orderly.onward onward
  have traced (id : Nat)
      : Traced run.asked run.state.1.anchor id
        → Traced (run.asked ++ run.noted triggered state.1) state.1.anchor id :=
    traced_noted latest onward
  cases onward with
  | quiet quiet anchor =>
      have nothing : run.noted triggered state.1 = [] := noted_of_quiet latest quiet
      rw [nothing, List.append_nil] at traced
      exact sound.unasked orderly nothing
        (fun runs => ⟨quiet.running runs, Nat.le_of_eq (quiet.nextId runs).symm⟩)
        ((sound.completions.quiet quiet).mono traced)
  | asks middle method transport message quiet running sent completing anchor =>
      have awaited := sound.completions.quiet quiet
      have same := quiet.nextId running
      have next : state.1.session.nextId = run.state.1.session.nextId + 1 := by
        rw [sent, ← same]
        rfl
      by_cases completion : method = .completion
      · subst completion
        have noted := noted_of_completion triggered quiet running sent
        refine sound.asked orderly noted (quiet.running running) next ?_
        have new
            : Traced (run.asked ++ run.noted triggered state.1) state.1.anchor
                middle.nextId := by
          rw [noted, same]
          exact .last run.asked _
        rw [sent]
        exact awaited.asking_completion (latest.quiet quiet) traced new transport message
      · have nothing : run.noted triggered state.1 = [] :=
          noted_of_other quiet running sent completion
        rw [nothing, List.append_nil] at traced
        refine sound.unasked orderly nothing
          (fun _ => ⟨quiet.running running, next ▸ Nat.le_succ _⟩) ?_
        rw [sent]
        exact (awaited.asking_other completion transport message).mono traced

end Advance

-----------------------------------------------------------------------------------------
-- Events
-----------------------------------------------------------------------------------------

/-- Candidates for a request on record are put into the menu, or passed over without one. -/
theorem take (sound : run.Sound) {event : SessionEvent}
    (known
      : ∀ handle candidates,
          event = .reply handle (.completion candidates)
          → Traced run.asked run.state.1.anchor handle.id)
    : (run.take event).Sound := by
  have advanced : (run.advance false (Client.turn run.state event)).Sound :=
    sound.advance (Client.turn_onward run.state event)
  refine ⟨advanced.orderly, advanced.numbered, advanced.issued, advanced.completions, ?_⟩
  intro filled listed
  rcases List.mem_append.mp listed with earlier | new
  · exact sound.filled filled earlier
  · unfold AnchorRun.record at new
    split at new
    · rename_i handle candidates
      obtain ⟨anchor, completing, rfl⟩ := List.mem_map.mp new
      have traced := known handle candidates rfl
      rw [Option.mem_toList.mp completing] at traced
      exact ⟨sound.numbered, traced⟩
    · cases new

/-- Events in a row, by induction on them. -/
theorem foldl_take (sound : run.Sound) {events : List SessionEvent}
    (known
      : ∀ handle candidates,
          .reply handle (.completion candidates) ∈ events
          → Traced run.asked run.state.1.anchor handle.id)
    : (events.foldl AnchorRun.take run).Sound := by
  induction events generalizing run with
  | nil => exact sound
  | cons event rest ih =>
      have taken := sound.take fun handle candidates same =>
        known handle candidates (same ▸ List.mem_cons_self)
      refine ih taken fun handle candidates listed => ?_
      exact traced_noted sound.orderly.latest (Client.turn_onward run.state event)
        (known handle candidates (List.mem_cons_of_mem event listed))

theorem takeAll (sound : run.Sound) : run.takeAll.Sound := by
  have quiet := run.state.1.session.drainEvents_quiet
  have drained : (run.withSession run.state.1.session.drainEvents.2).Sound :=
    ⟨sound.orderly.drainEvents, sound.numbered, sound.issued, sound.completions.quiet quiet,
      sound.filled⟩
  exact drained.foldl_take sound.completions.events

omit [Host σ] in
theorem receive (sound : run.Sound) (chunk : List UInt8)
    : (run.withSession (run.state.1.session.receive chunk)).Sound where
  orderly := sound.orderly.receive chunk
  numbered := sound.numbered
  issued := by
    intro running
    obtain ⟨same, before⟩ := Session.receive_unasked running
    exact same.symm ▸ sound.issued before
  completions := sound.completions.receive chunk
  filled := sound.filled

omit [Host σ] in
/-- A new server has been asked for nothing. -/
theorem started (sound : run.Sound) {state : Client × σ} (wordless : state.1.session.Wordless)
    : Sound { run with state, asked := [] } :=
  ⟨.of_wordless wordless, .nil, fun _ _ => nofun, wordless.completions.mono fun _ => False.elim,
    sound.filled⟩

/-- One action more. -/
theorem step (sound : run.Sound) {action : ClientAction σ}
    (own : ∀ use, action ≠ .useSession use)
    : (run.step action).Sound := by
  have single (single : action.isSingle = true)
      : (run.advance action.isTrigger (action.run run.state)).Sound :=
    sound.advance (ClientAction.run_onward single run.state)
  cases action with
  | useSession use => exact absurd rfl (own use)
  | start transport root => exact sound.started (Client.start_wordless _ _ transport root)
  | restart transport root => exact sound.started (Client.start_wordless _ _ transport root)
  | processEvents => exact sound.takeAll
  | receive chunk => exact (sound.receive chunk).takeAll
  | handleServerEvent event =>
      cases event with
      | output chunk => exact (sound.receive chunk).takeAll
      | errorLine _ | exited _ => exact single rfl
  | stop | setIndent _ _ | openActiveDocument | save | triggerCompletion | navigate _
  | acceptCompletion | closeCompletion | format | goToDefinition | findReferences
  | showLineDiagnostics | edit _ | alter _ => exact single rfl

/-- So it is along every run, by induction on its actions. -/
theorem of_reached (reached : run.Reached) : run.Sound := by
  induction reached with
  | start options limits host =>
      exact ⟨.new options limits, .nil, fun _ _ => nofun, ⟨fun _ _ => nofun, fun _ _ => nofun⟩,
        fun _ => nofun⟩
  | next _ action own sound => exact sound.step own

end Sound

end AnchorRun

-----------------------------------------------------------------------------------------
-- Candidates in the menu
-----------------------------------------------------------------------------------------

/-- Whatever the user does and whatever arrives, candidates that are put into the menu reply to
one completion request that the server has been sent, and they are put in at the word of the last
trigger since. That is the word of their request exactly as long as no trigger has turned to
another one.
-/
theorem Client.menu_answers_last_trigger {run : AnchorRun σ} (reached : run.Reached)
    {filled : FilledMenu} (listed : filled ∈ run.filled)
    : ∃ front entry since,
        filled.asked = front ++ entry :: since
        ∧ entry.id = filled.handle.id
        ∧ (∀ other ∈ front ++ since, other.id ≠ filled.handle.id)
        ∧ ((lastTrigger? since).getD entry).anchor = some filled.anchor
        ∧ (entry.anchor = some filled.anchor
          ↔ ∀ last, lastTrigger? since = some last → last.anchor = entry.anchor) := by
  obtain ⟨numbered, front, entry, since, split, same, word⟩ :=
    (AnchorRun.Sound.of_reached reached).filled filled listed
  have current := word.resolve_left nofun
  rw [split] at numbered
  obtain ⟨_, behind, before⟩ := List.pairwise_append.mp numbered
  refine ⟨front, entry, since, split, same, fun other listed => ?_, current, ?_⟩
  · rcases List.mem_append.mp listed with earlier | later
    · exact same ▸ Nat.ne_of_lt (before other earlier entry List.mem_cons_self)
    · exact same ▸ Nat.ne_of_gt (List.rel_of_pairwise_cons behind later)
  · rw [← current]
    cases lastTrigger? since with
    | none => simp
    | some last => simp [eq_comm]

-----------------------------------------------------------------------------------------
-- Two words
-----------------------------------------------------------------------------------------

/-- A server that is ready has been asked for completions. -/
def triggeredRun : AnchorRun RecordedEditor :=
  let started : AnchorRun RecordedEditor := { state := idleState }
  ((started.step (.start {} "/")).step (arrival 0 (.ofFields []))).step .triggerCompletion

theorem reached_triggeredRun : triggeredRun.Reached :=
  (((AnchorRun.Reached.start {} {} wordEditor).next (.start {} "/") nofun).next
    (arrival 0 (.ofFields [])) nofun).next .triggerCompletion nofun

/-- It is asked again at the same word, and answers the first request. -/
def sameWordRun : AnchorRun RecordedEditor :=
  (triggeredRun.step .triggerCompletion).step suggestion

/-- The candidates are shown at the word that their request was sent for. -/
theorem Client.menu_answers_trigger_at_same_word
    : sameWordRun.Reached
      ∧ sameWordRun.filled.length = 1
      ∧ ∀ filled ∈ sameWordRun.filled,
          ∃ front entry since,
            filled.asked = front ++ entry :: since
            ∧ entry.id = filled.handle.id
            ∧ entry.anchor = some filled.anchor := by
  have reached : sameWordRun.Reached :=
    (reached_triggeredRun.next .triggerCompletion nofun).next suggestion nofun
  obtain ⟨one, words⟩
      : sameWordRun.filled.length = 1
        ∧ ∀ filled ∈ sameWordRun.filled,
            ∀ request ∈ filled.asked, request.anchor = some { line := 0, column := 0 } := by
    decide +kernel
  refine ⟨reached, one, fun filled listed => ?_⟩
  obtain ⟨front, entry, since, split, same, _, _, answers⟩ :=
    menu_answers_last_trigger reached listed
  refine ⟨front, entry, since, split, same, answers.mpr fun last found => ?_⟩
  have later : last ∈ since := List.mem_of_mem_filter (List.mem_of_getLast? found)
  have asked := words filled listed
  rw [split] at asked
  exact (asked last (by simp [later])).trans (asked entry (by simp)).symm

/-- The cursor goes to the end of the second line. -/
def nextWord : ClientAction RecordedEditor :=
  .alter fun editor => { editor with cursor := { line := 1, column := 3 } }

/-- It is asked again at another word, and answers the first request. -/
def otherWordRun : AnchorRun RecordedEditor :=
  ((triggeredRun.step nextWord).step .triggerCompletion).step suggestion

/-- The candidates for the first word are shown at the second one. -/
theorem Client.menu_answers_another_word
    : otherWordRun.Reached
      ∧ otherWordRun.filled
        = [
            {
              handle := { id := 1, method := .completion }
              anchor := { line := 1, column := 0 }
              asked :=
                [
                  { id := 1, anchor := some { line := 0, column := 0 }, triggered := true },
                  { id := 2, anchor := some { line := 1, column := 0 }, triggered := true }
                ]
            }
          ]
      ∧ otherWordRun.state.1.menu.isOpen = true
      ∧ otherWordRun.state.1.anchor = some { line := 1, column := 0 } := by
  refine ⟨?_, by decide +kernel⟩
  exact ((reached_triggeredRun.next nextWord nofun).next .triggerCompletion nofun).next
    suggestion nofun

end LanguageClient
