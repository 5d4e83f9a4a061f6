/-
# Backchannel.Proofs.Session.Reported -- what a caller is told of a timeout

A request that times out is ended by its caller, who finds nothing at the deadline, or by a
sweep.  The caller has kept the wait that was asked for and names that.  The sweep has only
the two ends of the wait, and a wait is cut to `maxWait` when its end is set; so it names what
was left of it (`Step.names`).

Whoever of the two comes first, it is a timeout of the same request.  But the wait that it
names shows who it was as soon as more was asked for than is ever scheduled
(`timeout_reported`).
-/
import Backchannel.Proofs.Session.Backdrop
import Backchannel.Proofs.Session.Deadline

namespace Backchannel.Session

set_option autoImplicit false

open Backchannel.Json (Value)

variable {s : Session} {id : RequestId} {m : Move} {ms : List Move} {t : List Step} {st : Step}
  {c : Closure} {wait : Duration}

/-- The wait that a step names when a request expires in it. -/
def Step.names (wait : Duration) (st : Step) : Duration :=
  match st.move with
  | .sweep => min wait maxWait
  | _ => wait

/-! ## A mailbox that is closed -/

/-- The caller of a request, if it is there, is done or will be told of that end. -/
def Ended (id : RequestId) (c : Closure) (s : Session) : Prop :=
  ∀ held, s.ticket? id = some held → held.sub.done = true ∨ held.box.closure = some c

/-- A pull from a closed mailbox tells of its end, or of what was lost. -/
theorem pull_ended {held : Ticket} {now : Instant}
    (ended : held.sub.done = true ∨ held.box.closure = some c) :
    ((held.pull id now).2.sub.done = true ∨ (held.pull id now).2.box.closure = some c) ∧
      ∀ e, (held.pull id now).1 = .failed e →
        c.pulled = .failed e ∨ ∃ other lost, e = .lagged other lost := by
  cases done : held.sub.done with
  | true =>
    rw [Ticket.pull_of_done done]
    exact ⟨.inl done, fun e told => by cases told⟩
  | false =>
    have closed : held.box.closure = some c := ended.resolve_left (by simp [done])
    rcases Ticket.pull_cases done id now with ⟨-, pull⟩ | ⟨-, v, rest, -, pull⟩ |
      ⟨-, -, c', closed', pull⟩ | ⟨-, -, opened, -⟩ | ⟨-, -, opened, -⟩
    · rw [pull]
      exact ⟨.inl rfl, fun e told => .inr ⟨_, _, by cases told; rfl⟩⟩
    · rw [pull]
      exact ⟨.inr closed, fun e told => by cases told⟩
    · cases closed.symm.trans closed'
      rw [pull]
      exact ⟨.inl rfl, fun e told => .inl told⟩
    · cases closed.symm.trans opened
    · cases closed.symm.trans opened

theorem Sound.ended_step (h : Sound s) (ended : Ended id c s) (other : m.sends? ≠ some id) :
    Ended id c (s.step m) := by
  intro after found
  rw [(h.step m).ticket] at found
  have made : ∀ new, turn m s id ≠ .opened new := by
    intro new opened
    obtain ⟨-, sessionId, kind, payload, rfl, -⟩ := turn_opened opened
    exact other rfl
  cases held : s.ticket? id with
  | none =>
    rw [held] at found
    cases own : turn m s id with
    | opened new => exact absurd own (made new)
    | _ => rw [own] at found; cases found
  | some before =>
    have closed := ended before held
    have settled : before.isOpen = false := by
      rcases closed with done | closed
      · simp [Ticket.isOpen, done]
      · simp [Ticket.isOpen, closed]
    rw [held] at found
    rcases Turn.apply_of_not_open settled made with ⟨same, -⟩ | ⟨now, pulled⟩ | dropped
    · rw [same] at found
      cases found
      exact closed
    · rw [pulled] at found
      cases found
      exact (pull_ended closed).1
    · rw [dropped] at found
      cases found

theorem Sound.ended_run (h : Sound s) (ended : Ended id c s) (unsent : id ∉ sentIds ms) :
    Ended id c (Session.run ms s) := by
  induction ms generalizing s with
  | nil => exact ended
  | cons m ms ih =>
    obtain ⟨other, unsent⟩ := unsent_cons unsent
    exact ih (h.step m).toSound (h.ended_step ended other) unsent

/-! ## What ends the wait -/

/-- A sweep in which a request expires closes its mailbox with what was left of the wait. -/
theorem Dated.swept_ended {due : Instant} (h : Dated s) (own : s.settings.requestTimeout = wait)
    (dueAt : DueAt id due wait s) (expires : Step.Expires id ⟨s, .sweep⟩) :
    Ended id (.failed (.timeout id (min wait maxWait))) (s.step .sweep) := by
  obtain ⟨held, found, isOpen⟩ := h.isOutstanding_iff.mp expires.1.1
  have opened := (Ticket.isOpen_iff.mp isOpen).2
  have late : held.sub.deadline ≤ s.now :=
    (dueAt held found).1 ▸ h.toSound.expires_late dueAt expires
  have turned : turn .sweep s id = .closed (.failed (.timeout id (min wait maxWait))) := by
    rw [h.turn_sweep, found, own]
    simp [Option.filter, isOpen, late, deadlineAfter]
  intro after found'
  rw [(h.toSound.step .sweep).ticket, turned, found] at found'
  cases found'
  refine .inr ?_
  simp [Ticket.close, isOpen, Mailbox.close, opened]

/-- A pull in which a request expires tells its caller of the wait that was asked for. -/
theorem Sound.pulled_ended {due : Instant} (h : Sound s) (dueAt : DueAt id due wait s)
    (waits : s.isOutstanding id = true) {other : RequestId} {after : Duration}
    (told : Step.pull? id ⟨s, .recv id⟩ = some (.failed (.timeout other after))) :
    Ended id (.failed (.timeout id wait)) (s.step (.recv id)) ∧ other = id ∧ after = wait := by
  obtain ⟨-, held, found, pulled⟩ := h.pulled told
  obtain ⟨ticket, found', isOpen⟩ := h.isOutstanding_iff.mp waits
  cases found.symm.trans found'
  obtain ⟨awaits, opened⟩ := Ticket.isOpen_iff.mp isOpen
  refine ⟨fun ticket' found' => .inl ?_, ?_⟩
  · have own : turn (.recv id) s id = .pulled s.now := by simp [turn]
    rw [(h.step (.recv id)).ticket, own, found] at found'
    cases found'
    rw [Ticket.pull_done awaits, pulled]
    rfl
  · obtain ⟨-, -, -, ⟨-, -, same, own⟩ | closed⟩ := pull_timeout pulled
    · exact ⟨same, own.trans (dueAt held found).2⟩
    · cases opened.symm.trans closed

/-- In whatever step a request expires, its caller is told of the timeout that this step names,
there or later, unless it is told that items were lost. -/
theorem Dated.expires_ended {due : Instant} (h : Dated s) (own : s.settings.requestTimeout = wait)
    (dueAt : DueAt id due wait s) (expires : Step.Expires id ⟨s, m⟩) :
    Ended id (.failed (.timeout id (Step.names wait ⟨s, m⟩))) (s.step m) ∧
      ∀ e, Step.pull? id ⟨s, m⟩ = some (.failed e) →
        e = .timeout id (Step.names wait ⟨s, m⟩) := by
  rcases expires.2 with swept | ⟨other, after, told⟩
  · cases swept
    refine ⟨h.swept_ended own dueAt expires, fun e told => ?_⟩
    cases pull?_move told
  · cases pull?_move told
    obtain ⟨ended, rfl, rfl⟩ := h.toSound.pulled_ended dueAt expires.1.1 told
    refine ⟨ended, fun e told' => ?_⟩
    cases told.symm.trans told'
    rfl

/-! ## What is reported -/

/-- What the caller of a request is told of a timeout in the steps `t`, which begin when it was
made with that wait. -/
structure Reported (wait : Duration) (id : RequestId) (t : List Step) : Prop where
  /-- Who is told of a timeout is told of that of its own request, which has expired, and of
  the wait that this step names. -/
  told : ∀ t₁ st t₂ other after, t = t₁ ++ st :: t₂ →
    st.pull? id = some (.failed (.timeout other after)) →
      other = id ∧ ∃ at_ ∈ t₁ ++ [st], at_.Expires id ∧ after = at_.names wait
  /-- Whose request expires is told of that and of no other error, unless items were lost. -/
  errors : ∀ at_ ∈ t, at_.Expires id → ∀ st ∈ t, ∀ e, st.pull? id = some (.failed e) →
    e = .timeout id (at_.names wait) ∨ ∃ other lost, e = .lagged other lost
  /-- Whoever asks for no more than is ever scheduled is told of what it asked for. -/
  alike : wait ≤ maxWait → ∀ st ∈ t, ∀ other after,
    st.pull? id = some (.failed (.timeout other after)) → after = wait
  /-- Whoever asks for more is told of it just if it was not the sweep that came first. -/
  apart : maxWait < wait → ∀ at_ ∈ t, at_.Expires id → ∀ st ∈ t, ∀ other after,
    st.pull? id = some (.failed (.timeout other after)) → (after = wait ↔ at_.move ≠ .sweep)

theorem names_of_le (short : wait ≤ maxWait) (st : Step) : st.names wait = wait := by
  unfold Step.names
  split
  · exact Nat.min_eq_left short
  · rfl

theorem names_eq_iff (long : maxWait < wait) (st : Step) :
    st.names wait = wait ↔ st.move ≠ .sweep := by
  unfold Step.names
  split
  · rename_i swept
    simp [swept, Nat.min_eq_right (Nat.le_of_lt long), Nat.ne_of_lt long]
  · rename_i other
    simp only [true_iff]
    exact other

/-- The error of a pull tells how the request expired. -/
theorem Dated.errors {due : Instant} (h : Dated s) (own : s.settings.requestTimeout = wait)
    (dueAt : DueAt id due wait s) (unsent : id ∉ sentIds ms) {at_ : Step}
    (among : at_ ∈ steps ms s) (expires : at_.Expires id) (pulls : st ∈ steps ms s)
    {e : CallError} (told : st.pull? id = some (.failed e)) :
    e = .timeout id (at_.names wait) ∨ ∃ other lost, e = .lagged other lost := by
  obtain ⟨t₁, t₂, split⟩ := List.append_of_mem among
  obtain ⟨ms₁, ms₂, moves, -, before, rest⟩ := steps_split split
  have unsent₁ : id ∉ sentIds ms₁ := fun sent => unsent (by simp [moves, sentIds_append, sent])
  have unsent₂ : id ∉ sentIds ms₂ := fun sent =>
    unsent (by simp [moves, sentIds_append, sentIds_cons, sent])
  have dated : Dated at_.before := before ▸ h.run ms₁
  have own' : at_.before.settings.requestTimeout = wait := by
    rw [before, h.toSound.run_settings ms₁]
    exact own
  obtain ⟨ended, tells⟩ := dated.expires_ended own'
    (before ▸ h.toSound.dueAt_run dueAt unsent₁) expires
  rw [split, List.mem_append, List.mem_cons] at pulls
  rcases pulls with earlier | rfl | later
  · -- Who fails in a pull waits no more, so nothing would be left to expire.
    obtain ⟨u₁, u₂, rfl⟩ := List.append_of_mem earlier
    have split' : steps ms s = u₁ ++ st :: (u₂ ++ at_ :: t₂) := by simp [split]
    have sound : Sound st.before := h.toSound.before (by rw [split']; simp)
    have behind : at_ ∈ u₂ ++ at_ :: t₂ := by simp
    have settled := h.toSound.settled_behind unsent split' (sound.failed_after told) behind
    rw [expires.1.1] at settled
    cases settled
  · exact .inl (tells e told)
  · have sound : Sound at_.after := (dated.toSound.step at_.move).toSound
    rw [rest] at later
    obtain ⟨u₁, u₂, split₂⟩ := List.append_of_mem later
    obtain ⟨ns₁, ns₂, rfl, -, at₂, -⟩ := steps_split split₂
    have ended₂ : Ended id _ st.before := at₂ ▸ sound.ended_run ended fun sent =>
      unsent₂ (by simp [sentIds_append, sent])
    obtain ⟨-, held, found, pulled⟩ := Sound.pulled (at₂ ▸ sound.run ns₁) told
    rcases (pull_ended (ended₂ held found)).2 e pulled with same | lagged
    · cases same
      exact .inl rfl
    · exact .inr lagged

theorem Dated.reported {due : Instant} (h : Dated s) (own : s.settings.requestTimeout = wait)
    (watched : Watched due wait id [] s) (distinct : Distinct ms) (unsent : id ∉ sentIds ms) :
    Reported wait id (steps ms s) := by
  have told : ∀ t₁ st t₂ other after, steps ms s = t₁ ++ st :: t₂ →
      st.pull? id = some (.failed (.timeout other after)) →
        other = id ∧ ∃ at_ ∈ t₁ ++ [st], at_.Expires id ∧ after = at_.names wait := by
    intro t₁ st t₂ other after split told
    obtain ⟨ms₁, ms₂, moves, rfl, before, -⟩ := steps_split split
    have watched₁ : Watched due wait id (steps ms₁ s) st.before := by
      rw [before]
      refine h.toSound.watched_run watched ?_ fun sent => unsent ?_
      · rw [Distinct, moves, sentIds_append, List.nodup_append] at distinct
        exact distinct.1
      · simp [moves, sentIds_append, sent]
    have sound : Sound st.before := before ▸ h.toSound.run ms₁
    obtain ⟨same, -, -, at_, among, expires⟩ := sound.timeout_told watched₁ told
    have within : at_ ∈ steps ms s := by
      rw [split, List.append_cons]
      exact List.mem_append_left t₂ among
    refine ⟨same, at_, among, expires, ?_⟩
    rcases h.errors own watched.dueAt unsent within expires (by rw [split]; simp) told with
      named | ⟨_, _, lagged⟩
    · cases named
      rfl
    · cases lagged
  refine ⟨told, fun at_ among expires st pulls e told => ?_, ?_, ?_⟩
  · exact h.errors own watched.dueAt unsent among expires pulls told
  · intro short st pulls other after told'
    obtain ⟨t₁, t₂, split⟩ := List.append_of_mem pulls
    obtain ⟨-, at_, -, -, named⟩ := told t₁ st t₂ other after split told'
    exact named.trans (names_of_le short at_)
  · intro long at_ among expires st pulls other after told'
    rcases h.errors own watched.dueAt unsent among expires pulls told' with
      named | ⟨_, _, lagged⟩
    · cases named
      exact names_eq_iff long at_
    · cases lagged

/-- A caller whose request times out is told so.  Which wait it is told of depends on who came
first, but only if more was asked for than is ever scheduled. -/
theorem timeout_reported (settings : Settings) (pre post : List Move) (id : RequestId)
    (sessionId : Option String) (kind : Kind) (payload : Value)
    (distinct : Distinct (pre ++ .send id sessionId kind payload :: post))
    (opened : (run pre (start settings)).status = .opened) :
    Reported settings.requestTimeout id
      (steps post (run (pre ++ [.send id sessionId kind payload]) (start settings))) := by
  have dated := (dated_start settings).run pre
  have isOpen : (run pre (start settings)).status.isClosed = false := by rw [opened]; rfl
  have own : (run pre (start settings)).settings = settings :=
    (sound_start settings).run_settings pre
  have watched : Watched _ _ id [] _ := dated.toSound.watched_sent isOpen sessionId kind payload
  rw [own] at watched
  rw [Distinct, sentIds_append, sentIds_cons, List.nodup_append] at distinct
  obtain ⟨-, distinct, -⟩ := distinct
  rw [List.nodup_append] at distinct
  obtain ⟨-, rest, apart⟩ := distinct
  rw [run_snoc]
  refine (dated.step _).reported ?_ watched rest fun sent => ?_
  · rw [(dated.toSound.step _).settings, own]
  · exact apart id (by simp [Move.sends?]) id sent rfl

/-- One nanosecond more than is ever scheduled. -/
def patient : Settings := ⟨maxWait + 1, none, 1⟩

/-- The sweep comes before the caller. -/
def sweptFirst : List Move := [.pass maxWait, .sweep, .recv "a"]

/-- The caller of the same request comes first, and is told of another wait. -/
def calledFirst : List Move := [.pass maxWait, .recv "a", .sweep]

theorem sweptFirst_reported :
    Distinct ([] ++ .send "a" none .tool .null :: sweptFirst) ∧
      (run [] (start patient)).status = .opened ∧
      pulls "a" (steps sweptFirst (run ([] ++ [.send "a" none .tool .null]) (start patient))) =
        [.failed (.timeout "a" maxWait)] ∧
      pulls "a" (steps calledFirst (run ([] ++ [.send "a" none .tool .null]) (start patient))) =
        [.failed (.timeout "a" (maxWait + 1))] ∧
      Reported (maxWait + 1) "a"
        (steps sweptFirst (run ([] ++ [.send "a" none .tool .null]) (start patient))) := by
  obtain ⟨distinct, opened, told, told'⟩ :
      Distinct ([] ++ .send "a" none .tool .null :: sweptFirst) ∧
      (run [] (start patient)).status = .opened ∧
      pulls "a" (steps sweptFirst (run ([] ++ [.send "a" none .tool .null]) (start patient))) =
        [.failed (.timeout "a" maxWait)] ∧
      pulls "a" (steps calledFirst (run ([] ++ [.send "a" none .tool .null]) (start patient))) =
        [.failed (.timeout "a" (maxWait + 1))] := by
    decide +kernel
  exact ⟨distinct, opened, told, told',
    timeout_reported patient [] sweptFirst "a" none .tool .null distinct opened⟩

end Backchannel.Session
