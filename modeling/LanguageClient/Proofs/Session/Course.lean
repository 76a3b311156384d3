import Mathlib.Data.List.DropRight
import LanguageClient.Proofs.Session.Connection

/-! The course of a session through all its connections, moment by moment: what has been asked
and what has been replied to at each moment, in their order.
-/

namespace LanguageClient

open Json (Value)

/-- Something that happens to a session: a connection starts or ends, it is called, or a
message arrives.
-/
inductive Occurrence where
  | start (transport : Transport)
  | stop
  | call (call : SessionCall)
  | message (message : Value)

/-- The session after something has happened to it. -/
def Occurrence.apply (session : Session) : Occurrence → Session
  | start transport => session.start transport
  | stop => session.stop
  | call operation => (operation.run session).2
  | message arrived => (session.handleMessage arrived).2

/-- Something that has happened to a session. -/
structure Moment where
  /-- The session before. -/
  session : Session
  occurrence : Occurrence

namespace Moment

def after (moment : Moment) : Session :=
  moment.occurrence.apply moment.session

/-- The requests that are issued. -/
def asked (moment : Moment) : List RequestHandle :=
  match moment.occurrence with
  | .call operation => operation.issued moment.session
  | _ => []

/-- The requests that are replied to. -/
def replies (moment : Moment) : List RequestHandle :=
  match moment.occurrence with
  | .message arrived => moment.session.repliesTo arrived
  | _ => []

def isStart (moment : Moment) : Bool :=
  match moment.occurrence with
  | .start _ => true
  | _ => false

/-- Whether completion requests in a row end here: something else is asked, they are no longer
wanted, or the connection ends or starts.
-/
def ends (moment : Moment) : Bool :=
  match moment.occurrence with
  | .start _ | .stop | .call (.act .releasePending) => true
  | _ => !moment.after.isRunning || moment.asked.any (·.method ≠ .completion)

/-- The latest completion requests in a row, with everything that has happened between them
and since.
-/
def streak (past : List Moment) : List Moment :=
  (past.rtakeWhile fun moment => !moment.ends).dropWhile fun moment => moment.asked.isEmpty

/-- The requests that have been issued since the latest start. -/
def sinceStart (past : List Moment) : List RequestHandle :=
  (past.rtakeWhile fun moment => !moment.isStart).flatMap asked

theorem streak_concat (past : List Moment) (moment : Moment)
    : streak (past ++ [moment])
      = if moment.ends then
          []
        else if streak past = [] ∧ moment.asked = [] then
          []
        else
          streak past ++ [moment] := by
  unfold streak
  rw [List.rtakeWhile_concat]
  cases ends : moment.ends with
  | true => rfl
  | false =>
      simp only [Bool.not_false, if_true, List.dropWhile_append, List.isEmpty_iff]
      by_cases none
        : (past.rtakeWhile fun moment => !moment.ends).dropWhile (fun moment => moment.asked.isEmpty)
          = []
      · by_cases unasked : moment.asked = []
        · simp [none, unasked]
        · simp [none, unasked]
      · simp [none]

/-- A streak is the end of the past, and nothing in it has ended it. -/
theorem streak_suffix (past : List Moment)
    : streak past <:+ past ∧ ∀ moment ∈ streak past, moment.ends = false := by
  have within := List.dropWhile_suffix (fun moment : Moment => moment.asked.isEmpty)
    (l := past.rtakeWhile fun moment => !moment.ends)
  refine ⟨within.trans (List.rtakeWhile_suffix _ _), fun moment member => ?_⟩
  simpa using List.mem_rtakeWhile_imp (within.subset member)

theorem sinceStart_concat (past : List Moment) (moment : Moment)
    : sinceStart (past ++ [moment])
      = if moment.isStart then [] else sinceStart past ++ moment.asked := by
  unfold sinceStart
  rw [List.rtakeWhile_concat]
  cases moment.isStart with
  | true => rfl
  | false => simp

/-- Until the next start only more is asked, by induction on the moments until then. -/
theorem sinceStart_append (past : List Moment) {later : List Moment}
    (unstarted : ∀ moment ∈ later, moment.isStart = false)
    : sinceStart (past ++ later) = sinceStart past ++ later.flatMap asked := by
  induction later using List.reverseRecOn with
  | nil => simp
  | append_singleton between last ih =>
      have earlier := ih fun moment member => unstarted moment (List.mem_append_left _ member)
      have latest : last.isStart = false := unstarted last (by simp)
      rw [← List.append_assoc, sinceStart_concat, latest, if_neg Bool.false_ne_true, earlier,
        List.flatMap_append, List.flatMap_singleton, List.append_assoc]

/-- The moments since the latest start, if there has been one, by induction on the moments. -/
theorem exists_latest_start {moments : List Moment}
    (started : ∃ moment ∈ moments, moment.isStart = true)
    : ∃ front restart back,
        moments = front ++ restart :: back
        ∧ restart.isStart = true
        ∧ ∀ moment ∈ back, moment.isStart = false := by
  induction moments using List.reverseRecOn with
  | nil => obtain ⟨moment, member, _⟩ := started; cases member
  | append_singleton earlier last ih =>
      cases latest : last.isStart with
      | true => exact ⟨earlier, last, [], rfl, latest, by simp⟩
      | false =>
          obtain ⟨moment, member, start⟩ := started
          have before : moment ∈ earlier := by
            rcases List.mem_append.mp member with before | now
            · exact before
            · rw [List.mem_singleton.mp now, latest] at start
              cases start
          obtain ⟨front, restart, back, rfl, begins, unstarted⟩ := ih ⟨moment, before, start⟩
          refine ⟨front, restart, back ++ [last], by simp, begins, fun other other_mem => ?_⟩
          rcases List.mem_append.mp other_mem with between | now
          · exact unstarted other between
          · rw [List.mem_singleton.mp now]
            exact latest

/-- After a start only what has been asked since is known. -/
theorem sinceStart_restart (past : List Moment) {restart : Moment} {back : List Moment}
    (begins : restart.isStart = true) (unstarted : ∀ moment ∈ back, moment.isStart = false)
    : sinceStart (past ++ restart :: back) = back.flatMap asked := by
  have again := sinceStart_append (past ++ [restart]) unstarted
  rw [sinceStart_concat, if_pos begins, List.nil_append, List.append_assoc,
    List.singleton_append] at again
  exact again

/-- A message ends a streak only by ending the connection. -/
theorem ends_message {moment : Moment} {message : Value}
    (occurs : moment.occurrence = .message message)
    : moment.ends = !moment.after.isRunning := by
  obtain ⟨session, _⟩ := moment
  obtain rfl : _ = Occurrence.message message := occurs
  exact Bool.or_false _

/-- A moment that does not end a streak asks for completions only. -/
theorem asked_completion {moment : Moment} (going : moment.ends = false) {handle : RequestHandle}
    (asked : handle ∈ moment.asked)
    : handle.method = .completion := by
  unfold ends at going
  split at going
  · cases going
  · cases going
  · cases going
  · rw [Bool.or_eq_false_iff, List.any_eq_false] at going
    simpa using going.2 handle asked

/-- A start ends a streak, so that all of it has been asked since then. -/
theorem streak_sinceStart (past : List Moment)
    : ∃ earlier, sinceStart past = earlier ++ (streak past).flatMap asked := by
  obtain ⟨⟨front, split⟩, going⟩ := streak_suffix past
  have unstarted : ∀ moment ∈ streak past, moment.isStart = false := by
    intro moment member
    have unended := going moment member
    unfold ends at unended
    unfold isStart
    split
    · rename_i begun
      rw [begun] at unended
      cases unended
    · rfl
  refine ⟨sinceStart front, ?_⟩
  rw [← sinceStart_append front unstarted, split]

/-- After the end of a streak the next one is later, by induction on the moments since. -/
theorem streak_after_end (past : List Moment) {moment : Moment} (ended : moment.ends = true)
    (later : List Moment)
    : streak (past ++ moment :: later) <:+ later := by
  induction later using List.reverseRecOn with
  | nil =>
      have nothing : streak (past ++ [moment]) = [] := by rw [streak_concat, if_pos ended]
      simp [nothing]
  | append_singleton between last ih =>
      rw [← List.cons_append, ← List.append_assoc, streak_concat]
      split
      · exact List.nil_suffix
      · split
        · exact List.nil_suffix
        · exact (List.suffix_append_self_iff).mpr ih

end Moment

-----------------------------------------------------------------------------------------
-- Courses
-----------------------------------------------------------------------------------------

/-- A session and everything that has happened to it. -/
structure Course where
  session : Session
  past : List Moment := []

namespace Course

/-- Something happens at once. -/
def note (course : Course) (occurrence : Occurrence) : Course where
  session := occurrence.apply course.session
  past := course.past ++ [{ session := course.session, occurrence }]

/-- Something happens. Bytes arrive as the messages that they complete. -/
def step (course : Course) : Occurrence → Course
  | .call (.act (.receive chunk)) =>
    let (messages, framer) := course.session.framer.feed chunk
    (messages.map Occurrence.message).foldl note
      { course with session := { course.session with framer } }
  | occurrence => course.note occurrence

/-- The course of a session through occurrences in their order. -/
def after (session : Session) (occurrences : List Occurrence) : Course :=
  occurrences.foldl step { session }

theorem foldl_note_session (course : Course) (messages : List Value)
    : ((messages.map Occurrence.message).foldl note course).session
      = course.session.handleMessages messages := by
  rw [List.foldl_map]
  exact (List.foldl_hom Course.session fun _ _ => rfl).symm

/-- Taking notes changes nothing. -/
theorem step_session (course : Course) (occurrence : Occurrence)
    : (course.step occurrence).session = occurrence.apply course.session := by
  unfold step
  split
  · exact foldl_note_session _ _
  · rfl

theorem after_session (session : Session) (occurrences : List Occurrence)
    : (after session occurrences).session = occurrences.foldl Occurrence.apply session :=
  (List.foldl_hom Course.session fun course occurrence =>
    (course.step_session occurrence).symm).symm

/-- A course that begins with a new session. Between two moments only bytes may have been
left over.
-/
inductive Reached (options : SessionOptions) : Course → Prop
  | new : Reached options { session := { options } }
  | framed {course : Course} (reached : Reached options course) (framer : Framer)
    : Reached options { course with session := { course.session with framer } }
  | noted {course : Course} (reached : Reached options course) (occurrence : Occurrence)
      (atOnce : ∀ chunk, occurrence ≠ .call (.act (.receive chunk)))
    : Reached options (course.note occurrence)

namespace Reached

variable {options : SessionOptions} {course : Course}

/-- Every course of a new session is reached, by induction on what happens. -/
theorem after (options : SessionOptions) (occurrences : List Occurrence)
    : Reached options (Course.after { options } occurrences) := by
  have messaged (messages : List Value)
      : ∀ course,
          Reached options course
          → Reached options ((messages.map Occurrence.message).foldl note course) := by
    induction messages with
    | nil => exact fun course reached => reached
    | cons message rest ih =>
        exact fun course reached => ih _ (reached.noted (.message message) nofun)
  suffices from_course
      : ∀ course, Reached options course → Reached options (occurrences.foldl step course) from
    from_course _ .new
  induction occurrences with
  | nil => exact fun course reached => reached
  | cons occurrence rest ih =>
      intro course reached
      refine ih _ ?_
      unfold step
      split
      · exact messaged _ _ (reached.framed _)
      · rename_i atOnce
        exact reached.noted occurrence atOnce

/-- Every moment has been reached by the moments before it, by induction on the course. -/
theorem split (reached : Reached options course) {before later : List Moment} {moment : Moment}
    (split : course.past = before ++ moment :: later)
    : Reached options { session := moment.session, past := before }
      ∧ ∀ chunk, moment.occurrence ≠ .call (.act (.receive chunk)) := by
  induction reached generalizing later with
  | new => exact absurd split (by simp)
  | framed _ _ ih => exact ih split
  | @noted course reached occurrence atOnce ih =>
      rcases List.eq_nil_or_concat later with rfl | ⟨between, last, rfl⟩
      · obtain ⟨rfl, same⟩ := List.append_inj' split rfl
        obtain rfl := (List.cons.inj same).1
        exact ⟨reached, atOnce⟩
      · have joined
            : course.past ++ [{ session := course.session, occurrence }]
              = (before ++ moment :: between) ++ [last] := by
          simpa [note] using split
        exact ih (List.append_inj' joined rfl).1

end Reached

end Course

end LanguageClient
