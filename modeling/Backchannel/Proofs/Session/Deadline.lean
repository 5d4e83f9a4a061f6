/-
# Backchannel.Proofs.Session.Deadline -- a request times out at its deadline and not before

Two clocks watch over a request: its caller looks at the deadline when a pull finds nothing,
and the sweep looks at the deadlines of all entries.  Whichever comes first ends the request
(`Step.Expires`).  Either does so only at the deadline or later, and only if nothing else has
ended the request (`Step.Settles`); and then the caller is told of it only after every item
that came.  Conversely a caller that finds nothing at the deadline does not wait any longer.

What carries all this is that a request waits once: who does not wait any more never waits
again, so of all the steps of a run only one ends a request (`Sound.ends_once`).
-/
import Backchannel.Proofs.Session.Closing
import Backchannel.Proofs.Session.Delivery

namespace Backchannel.Session

set_option autoImplicit false

open Backchannel.Json (Value)

variable {s : Session} {id : RequestId} {m : Move} {ms : List Move} {t t₁ t₂ : List Step}
  {st : Step}

/-! ## Steps of a run -/

/-- The session after a step. -/
def Step.after (st : Step) : Session := st.before.step st.move

/-- A step that finds a request waiting and leaves it resolved. -/
def Step.Ends (id : RequestId) (st : Step) : Prop :=
  st.before.isOutstanding id = true ∧ st.after.isOutstanding id = false

/-- A step that resolves a request with a timeout: a sweep, or a pull of its caller. -/
def Step.Expires (id : RequestId) (st : Step) : Prop :=
  st.Ends id ∧
    (st.move = .sweep ∨ ∃ other after, st.pull? id = some (.failed (.timeout other after)))

/-- A step that resolves a request otherwise, while it waits: its last response comes, or one
that cannot be read, or the session is closed. -/
def Step.Settles (id : RequestId) (st : Step) : Prop :=
  st.before.isOutstanding id = true ∧
    ((∃ r, st.reply? id = some r ∧ itemOf? r = none) ∨
      (∃ how, heard st.move st.before = .malformed id how) ∨
      (st.before.status.isClosed = false ∧ st.after.status.isClosed = true))

/-- A step of a run is a move of it, made where the moves before have led. -/
theorem steps_split (split : steps ms s = t₁ ++ st :: t₂) :
    ∃ ms₁ ms₂, ms = ms₁ ++ st.move :: ms₂ ∧ t₁ = steps ms₁ s ∧ st.before = run ms₁ s ∧
      t₂ = steps ms₂ st.after := by
  induction ms generalizing s t₁ with
  | nil => simp [steps] at split
  | cons m ms ih =>
    cases t₁ with
    | nil =>
      obtain ⟨rfl, rfl⟩ := List.cons.inj split
      exact ⟨[], ms, rfl, rfl, rfl, rfl⟩
    | cons first t₁ =>
      obtain ⟨rfl, rest⟩ := List.cons.inj split
      obtain ⟨ms₁, ms₂, rfl, rfl, before, after⟩ := ih rest
      exact ⟨m :: ms₁, ms₂, rfl, rfl, before, after⟩

theorem sentIds_append (ms ns : List Move) : sentIds (ms ++ ns) = sentIds ms ++ sentIds ns :=
  List.filterMap_append

/-- A request that a run does not make is not made by its first move, nor later. -/
theorem unsent_cons (unsent : id ∉ sentIds (m :: ms)) : m.sends? ≠ some id ∧ id ∉ sentIds ms := by
  rw [sentIds_cons, List.mem_append] at unsent
  exact ⟨fun own => unsent (.inl (by simp [own])), fun later => unsent (.inr later)⟩

theorem routed_append (id : RequestId) (t₁ t₂ : List Step) :
    routed id (t₁ ++ t₂) = routed id t₁ ++ routed id t₂ :=
  List.filterMap_append

/-! ## A request waits once -/

theorem Sound.isOutstanding_step (h : Sound s) (m : Move) :
    (s.step m).isOutstanding id = true ↔
      ∃ held, (turn m s id).apply id (s.ticket? id) = some held ∧ held.isOpen = true := by
  rw [(h.step m).toRegistered.isOutstanding_iff, (h.step m).ticket]

/-- Who does not wait any more never waits again. -/
theorem Sound.settled_step (h : Sound s) (settled : s.isOutstanding id = false)
    (other : m.sends? ≠ some id) : (s.step m).isOutstanding id = false := by
  have made : ∀ new, turn m s id ≠ .opened new := by
    intro new opened
    obtain ⟨-, sessionId, kind, payload, rfl, -⟩ := turn_opened opened
    exact other rfl
  rw [← Bool.not_eq_true, h.isOutstanding_step]
  rintro ⟨after, turned, isOpen⟩
  cases held : s.ticket? id with
  | none =>
    rw [held] at turned
    cases own : turn m s id with
    | opened new => exact made new own
    | _ => rw [own] at turned; cases turned
  | some before =>
    have ended := h.not_open held settled
    rw [held] at turned
    rcases Turn.apply_of_not_open ended made with ⟨same, -⟩ | ⟨now, pulled⟩ | dropped
    · rw [same] at turned
      cases turned
      rw [ended] at isOpen
      cases isOpen
    · rw [pulled] at turned
      cases turned
      rw [Ticket.pull_not_open ended] at isOpen
      cases isOpen
    · rw [dropped] at turned
      cases turned

theorem Sound.settled_run (h : Sound s) (settled : s.isOutstanding id = false)
    (unsent : id ∉ sentIds ms) : (Session.run ms s).isOutstanding id = false := by
  induction ms generalizing s with
  | nil => exact settled
  | cons m ms ih =>
    obtain ⟨other, unsent⟩ := unsent_cons unsent
    exact ih (h.step m).toSound (h.settled_step settled other) unsent

/-- Once a request has ended no step finds it waiting. -/
theorem Sound.not_waiting (h : Sound s) (settled : s.isOutstanding id = false)
    (unsent : id ∉ sentIds ms) (among : st ∈ steps ms s) : st.before.isOutstanding id = false := by
  obtain ⟨t₁, t₂, split⟩ := List.append_of_mem among
  obtain ⟨ms₁, ms₂, rfl, -, before, -⟩ := steps_split split
  rw [before]
  refine h.settled_run settled fun sent => unsent ?_
  simp [sentIds_append, sent]

theorem Sound.before (h : Sound s) (among : st ∈ steps ms s) : Sound st.before := by
  obtain ⟨t₁, t₂, split⟩ := List.append_of_mem among
  obtain ⟨ms₁, ms₂, rfl, -, before, -⟩ := steps_split split
  rw [before]
  exact h.run ms₁

/-- Once a step has left a request resolved, no step behind it finds the request waiting. -/
theorem Sound.settled_behind (h : Sound s) (unsent : id ∉ sentIds ms) {one two : Step}
    (split : steps ms s = t₁ ++ one :: t₂) (settled : one.after.isOutstanding id = false)
    (among : two ∈ t₂) : two.before.isOutstanding id = false := by
  obtain ⟨ms₁, ms₂, rfl, -, at_, rfl⟩ := steps_split split
  have sound : Sound one.after := by
    rw [Step.after, at_]
    exact ((h.run ms₁).step one.move).toSound
  refine sound.not_waiting settled (fun sent => unsent ?_) among
  simp [sentIds_append, sentIds_cons, sent]

/-- Of the steps of a run only one ends a request. -/
theorem Sound.ends_once (h : Sound s) (unsent : id ∉ sentIds ms) {one two : Step}
    (first : one ∈ steps ms s) (second : two ∈ steps ms s) (ends : one.Ends id)
    (ends' : two.Ends id) : one = two := by
  obtain ⟨t₁, t₂, split⟩ := List.append_of_mem first
  rw [split, List.mem_append, List.mem_cons] at second
  -- Whichever of the two comes first leaves nothing for the other to end.
  rcases second with earlier | same | later
  · obtain ⟨u₁, u₂, rfl⟩ := List.append_of_mem earlier
    have split' : steps ms s = u₁ ++ two :: (u₂ ++ one :: t₂) := by simp [split]
    have behind : one ∈ u₂ ++ one :: t₂ := by simp
    have settled := h.settled_behind unsent split' ends'.2 behind
    rw [ends.1] at settled
    cases settled
  · exact same.symm
  · have settled := h.settled_behind unsent split ends.2 later
    rw [ends'.1] at settled
    cases settled

/-! ## What ends a request -/

/-- No one waits for what is closed. -/
theorem Sound.closed_after (h : Sound s) {c : Closure} (own : turn m s id = .closed c) :
    (s.step m).isOutstanding id = false := by
  rw [← Bool.not_eq_true, h.isOutstanding_step, own]
  rintro ⟨after, turned, isOpen⟩
  obtain ⟨before, -, rfl⟩ := Option.map_eq_some_iff.mp turned
  simp at isOpen

/-- Whatever settles a request ends it. -/
theorem Sound.settles_after (h : Sound s) (settles : Step.Settles id ⟨s, m⟩) :
    (s.step m).isOutstanding id = false := by
  obtain ⟨-, how⟩ := settles
  rcases how with ⟨r, reply, last⟩ | ⟨how, malformed⟩ | ⟨opened, shut⟩
  · rw [Step.reply?_eq] at reply
    split at reply
    · cases own : turn m s id with
      | closed c => exact h.closed_after own
      | item v =>
        rw [own] at reply
        cases reply
        cases last
      | _ => rw [own] at reply; cases reply
    · cases reply
  · have means := turn_means m s id
    generalize own : turn m s id = turn at means
    cases means with
    | noticed =>
      rw [malformed] at own
      have closed : Turn.ofNotice id (.malformed id how) =
          .closed (.failed (.protocol (.malformedResponse how))) := by simp [Turn.ofNotice]
      exact h.closed_after (own.trans closed)
    | idle quiet | closed _ _ quiet => rw [quiet] at malformed; cases malformed
    | opened | pulled | dropped | expired => cases malformed
  · have ticks := (h.toGoverned.ticks m).status
    rcases nextStatus_cases s m with same | ⟨reason, why, -⟩
    · rw [same] at ticks
      rw [Step.after, ticks, opened] at shut
      cases shut
    · exact h.closed_after (turn_of_closeReason opened why id)

theorem pull?_move {got : Pulled Value} (pulled : Step.pull? id ⟨s, m⟩ = some got) :
    m = .recv id := by
  refine Classical.byContradiction fun other => ?_
  rw [pull?_of_other other] at pulled
  cases pulled

/-- Neither a sweep nor a pull settles a request. -/
theorem Sound.expires_not_settles (h : Sound s) (expires : Step.Expires id ⟨s, m⟩) :
    ¬ Step.Settles id ⟨s, m⟩ := by
  obtain ⟨-, how⟩ := expires
  have calm : heard m s = .nothing ∧ m.closeReason? s = none := by
    rcases how with swept | ⟨other, after, told⟩
    · cases swept
      exact ⟨rfl, rfl⟩
    · cases pull?_move told
      exact ⟨rfl, rfl⟩
  rintro ⟨-, ⟨r, reply, -⟩ | ⟨how, malformed⟩ | ⟨opened, shut⟩⟩
  · simp only [Step.reply?, calm.1] at reply
    cases reply
  · rw [calm.1] at malformed
    cases malformed
  · have status := (h.toGoverned.ticks m).status
    rw [nextStatus_of_none calm.2] at status
    rw [Step.after, status, opened] at shut
    cases shut

/-! ## The deadline -/

/-- The caller's end of a request, if it is there, has that deadline and that wait. -/
def DueAt (id : RequestId) (due : Instant) (wait : Duration) (s : Session) : Prop :=
  ∀ held, s.ticket? id = some held → held.sub.deadline = due ∧ held.sub.timeout = wait

theorem Sound.dueAt_sent (h : Sound s) (opened : s.status.isClosed = false)
    (sessionId : Option String) (kind : Kind) (payload : Value) :
    DueAt id (deadlineAfter s.now s.settings.requestTimeout) s.settings.requestTimeout
      (s.step (.send id sessionId kind payload)) := by
  intro held found
  rw [(h.step (.send id sessionId kind payload)).ticket] at found
  simp only [turn, if_true, opened, Bool.false_eq_true, if_false, Turn.apply] at found
  cases found
  exact ⟨rfl, rfl⟩

theorem Sound.dueAt_step {due : Instant} {wait : Duration} (h : Sound s)
    (dueAt : DueAt id due wait s) (other : m.sends? ≠ some id) : DueAt id due wait (s.step m) := by
  intro after found
  rw [(h.step m).ticket] at found
  cases held : s.ticket? id with
  | none =>
    rw [held] at found
    cases own : turn m s id with
    | opened new =>
      obtain ⟨-, sessionId, kind, payload, rfl, -⟩ := turn_opened own
      exact absurd rfl other
    | _ => rw [own] at found; cases found
  | some before =>
    have due := dueAt before held
    rw [held] at found
    cases own : turn m s id with
    | idle => rw [own] at found; cases found; exact due
    | opened new =>
      obtain ⟨-, sessionId, kind, payload, rfl, -⟩ := turn_opened own
      exact absurd rfl other
    | item v => rw [own] at found; cases found; rwa [Ticket.put_sub]
    | closed c => rw [own] at found; cases found; rwa [Ticket.close_sub]
    | pulled now =>
      rw [own] at found
      cases found
      rcases before.pull_sub id now with ⟨-, same⟩ | ⟨-, same, -⟩ <;> rw [same] <;> exact due
    | dropped => rw [own] at found; cases found

theorem Sound.dueAt_run {due : Instant} {wait : Duration} (h : Sound s)
    (dueAt : DueAt id due wait s) (unsent : id ∉ sentIds ms) :
    DueAt id due wait (Session.run ms s) := by
  induction ms generalizing s with
  | nil => exact dueAt
  | cons m ms ih =>
    obtain ⟨other, unsent⟩ := unsent_cons unsent
    exact ih (h.step m).toSound (h.dueAt_step dueAt other) unsent

/-- The pulls that tell of a timeout come last.  It is their own, or one that the mailbox was
closed with. -/
theorem pull_timeout {held : Ticket} {now : Instant} {other : RequestId} {after : Duration}
    (told : (held.pull id now).1 = .failed (.timeout other after)) :
    held.sub.done = false ∧ held.box.dropped = 0 ∧ held.box.items = [] ∧
      ((held.box.closure = none ∧ held.sub.deadline ≤ now ∧ other = id ∧
          after = held.sub.timeout) ∨
        held.box.closure = some (.failed (.timeout other after))) := by
  cases done : held.sub.done with
  | true =>
    rw [Ticket.pull_of_done done] at told
    cases told
  | false =>
    rcases Ticket.pull_cases done id now with ⟨-, pull⟩ | ⟨-, v, rest, -, pull⟩ |
      ⟨kept, items, c, closure, pull⟩ | ⟨kept, items, closure, late, pull⟩ | ⟨-, -, -, -, pull⟩ <;>
      rw [pull] at told
    · cases told
    · cases told
    · refine ⟨rfl, kept, items, .inr ?_⟩
      cases c with
      | finished => cases told
      | failed e => cases e <;> cases told; exact closure
    · cases told
      exact ⟨rfl, kept, items, .inl ⟨closure, late, rfl, rfl⟩⟩
    · cases told

/-- What a pull brings comes from what its caller has. -/
theorem Sound.pulled (h : Sound s) {got : Pulled Value} (told : Step.pull? id ⟨s, m⟩ = some got) :
    m = .recv id ∧ ∃ held, s.ticket? id = some held ∧ (held.pull id s.now).1 = got := by
  cases pull?_move told
  have own : turn (.recv id) s id = .pulled s.now := by simp [turn]
  rw [h.pull?_eq, own] at told
  cases found : s.ticket? id with
  | none =>
    rw [found] at told
    cases told
  | some held =>
    rw [found] at told
    exact ⟨rfl, held, rfl, Option.some.inj told⟩

/-- A request expires at its deadline or later. -/
theorem Sound.expires_late {due : Instant} {wait : Duration} (h : Sound s)
    (dueAt : DueAt id due wait s) (expires : Step.Expires id ⟨s, m⟩) : due ≤ s.now := by
  obtain ⟨⟨waits, ended⟩, how⟩ := expires
  obtain ⟨held, found, isOpen⟩ := h.isOutstanding_iff.mp waits
  obtain ⟨deadline, -⟩ := dueAt held found
  rcases how with swept | ⟨other, after, told⟩
  · cases swept
    have means := turn_means .sweep s id
    generalize own : turn .sweep s id = turn at means
    cases means with
    | expired entry late =>
      obtain ⟨held', found', -, -, -, same⟩ := h.entry entry
      rw [found] at found'
      cases found'
      rw [← deadline, ← same]
      exact late
    | idle | noticed =>
      -- A sweep that leaves the request alone does not end it.
      have stays : (s.step .sweep).isOutstanding id = true := by
        rw [h.isOutstanding_step, own, found]
        exact ⟨held, rfl, isOpen⟩
      rw [Step.after, stays] at ended
      cases ended
    | closed _ why => cases why
  · obtain ⟨-, held', found', pulled⟩ := h.pulled told
    rw [found] at found'
    cases found'
    obtain ⟨-, -, -, ⟨-, late, -⟩ | closed⟩ := pull_timeout pulled
    · rw [← deadline]
      exact late
    · rw [(Ticket.isOpen_iff.mp isOpen).2] at closed
      cases closed

/-! ## Who was swept -/

/-- A timeout that a mailbox was closed with is that of its request, which expired before. -/
def Swept (id : RequestId) (due : Instant) (t : List Step) (s : Session) : Prop :=
  ∀ held other after, s.ticket? id = some held →
    held.box.closure = some (.failed (.timeout other after)) →
      other = id ∧ due ≤ s.now ∧ ∃ st ∈ t, st.Expires id

/-- Only a sweep closes a request with a timeout, and only one that waits. -/
theorem turn_timeout {other : RequestId} {after : Duration}
    (own : turn m s id = .closed (.failed (.timeout other after))) :
    m = .sweep ∧ other = id ∧ s.isOutstanding id = true := by
  have means := turn_means m s id
  rw [own] at means
  generalize timeout : Turn.closed (.failed (.timeout other after)) = turn at means
  cases means with
  | @expired e entry late =>
    cases timeout
    exact ⟨rfl, rfl, by simp [isOutstanding, Keyed.contains, entry]⟩
  | noticed =>
    rcases ofNotice_cases id (heard m s) with same | ⟨v, same⟩ | same | ⟨message, same⟩ |
      ⟨violation, same⟩ <;> simp [same] at timeout
  | idle | opened | pulled | dropped | closed => cases timeout

theorem Sound.swept_step {due : Instant} {wait : Duration} (h : Sound s)
    (dueAt : DueAt id due wait s) (swept : Swept id due t s) :
    Swept id due (t ++ [⟨s, m⟩]) (s.step m) := by
  intro after other span found closed
  rw [(h.step m).ticket] at found
  rcases Turn.apply_closure found closed with ⟨held, found', closed'⟩ | same | own | opened
  · obtain ⟨same, late, st, among, expires⟩ := swept held other span found' closed'
    exact ⟨same, Nat.le_trans late (h.toGoverned.now_le m), st, by simp [among], expires⟩
  · cases same
  · -- The mailbox was open, so it is this step that ends the request.
    obtain ⟨rfl, rfl, waits⟩ := turn_timeout own
    have expires : Step.Expires other ⟨s, .sweep⟩ := ⟨⟨waits, h.closed_after own⟩, .inl rfl⟩
    have late := Nat.le_trans (h.expires_late dueAt expires) (h.toGoverned.now_le .sweep)
    exact ⟨rfl, late, _, by simp, expires⟩
  · obtain ⟨-, sessionId, kind, payload, -, rfl⟩ := turn_opened opened
    cases closed

theorem Sound.swept_run {due : Instant} {wait : Duration} (h : Sound s)
    (dueAt : DueAt id due wait s) (swept : Swept id due t s) (unsent : id ∉ sentIds ms) :
    Swept id due (t ++ steps ms s) (Session.run ms s) := by
  induction ms generalizing s t with
  | nil => simpa [steps] using swept
  | cons m ms ih =>
    obtain ⟨other, unsent⟩ := unsent_cons unsent
    have rest := ih (h.step m).toSound (h.dueAt_step dueAt other) (h.swept_step dueAt swept) unsent
    simpa [steps] using rest

/-! ## A request and its deadline -/

/-- What holds of a request from when it is made, after the steps `t`. -/
structure Watched (due : Instant) (wait : Duration) (id : RequestId) (t : List Step)
    (s : Session) : Prop where
  dueAt : DueAt id due wait s
  account : Account (max s.settings.queueCapacity 1) id t (s.ticket? id)
  swept : Swept id due t s

theorem Sound.watched_run {due : Instant} {wait : Duration} (h : Sound s)
    (watched : Watched due wait id t s) (distinct : Distinct ms) (unsent : id ∉ sentIds ms) :
    Watched due wait id (t ++ steps ms s) (Session.run ms s) where
  dueAt := h.dueAt_run watched.dueAt unsent
  account := by
    rw [h.run_settings ms]
    exact h.account_run distinct watched.account fun sent => absurd sent unsent
  swept := h.swept_run watched.dueAt watched.swept unsent

/-- A request as it is made. -/
theorem Sound.watched_sent (h : Sound s) (opened : s.status.isClosed = false)
    (sessionId : Option String) (kind : Kind) (payload : Value) :
    Watched (deadlineAfter s.now s.settings.requestTimeout) s.settings.requestTimeout id []
      (s.step (.send id sessionId kind payload)) := by
  have made : (s.step (.send id sessionId kind payload)).ticket? id =
      some (s.newTicket id kind) := by
    rw [(h.step _).ticket]
    simp [turn, opened, Turn.apply]
  have open_ : (s.newTicket id kind).box.closure = none := rfl
  refine ⟨h.dueAt_sent opened sessionId kind payload, ?_, ?_⟩
  · rw [(h.step _).settings, made]
    have balance : (s.newTicket id kind).box.Balanced (routed id []) [] :=
      Mailbox.balanced_empty id s.settings.queueCapacity
    refine .waiting rfl rfl balance rfl fun c closed => ?_
    rw [open_] at closed
    cases closed
  · intro held other after found closed
    rw [made] at found
    cases found
    rw [open_] at closed
    cases closed

/-- Nothing comes for a request that has ended. -/
theorem Sound.routed_of_settled (h : Sound s) (settled : s.isOutstanding id = false)
    (unsent : id ∉ sentIds ms) : routed id (steps ms s) = [] := by
  refine List.filterMap_eq_nil_iff.mpr fun st among => ?_
  have gone := h.not_waiting settled unsent among
  obtain ⟨before, m⟩ := st
  rw [Step.item?, Step.reply?_eq, gone]
  rfl

/-- A pull that fails ends the wait, if nothing has before. -/
theorem Sound.failed_after (h : Sound s) {e : CallError}
    (told : Step.pull? id ⟨s, m⟩ = some (.failed e)) : (s.step m).isOutstanding id = false := by
  obtain ⟨rfl, held, found, pulled⟩ := h.pulled told
  have waits : held.sub.done = false := by
    cases done : held.sub.done with
    | false => rfl
    | true =>
      rw [Ticket.pull_of_done done] at pulled
      cases pulled
  have done := Ticket.pull_done waits id s.now
  have own : turn (.recv id) s id = .pulled s.now := by simp [turn]
  rw [← Bool.not_eq_true, h.isOutstanding_step, own, found]
  rintro ⟨ticket, turned, isOpen⟩
  cases turned
  rw [pulled] at done
  rw [(Ticket.isOpen_iff.mp isOpen).1] at done
  cases done

/-- Who is told of a timeout has got all that came, and the request has expired. -/
theorem Sound.timeout_told {due : Instant} {wait : Duration} (h : Sound s)
    (watched : Watched due wait id t s) {other : RequestId} {after : Duration}
    (told : Step.pull? id ⟨s, m⟩ = some (.failed (.timeout other after))) :
    other = id ∧ due ≤ s.now ∧ results id t = (routed id t).map .item ∧
      ∃ st ∈ t ++ [⟨s, m⟩], st.Expires id := by
  obtain ⟨-, held, found, pulled⟩ := h.pulled told
  obtain ⟨waits, kept, items, why⟩ := pull_timeout pulled
  have all : results id t = (routed id t).map .item := by
    have account := watched.account
    rw [found] at account
    cases account with
    | waiting _ size balance got closes => rw [balance.empty_handed kept items, got]
    | ended n done => rw [waits] at done; cases done
  rcases why with ⟨opened, -, same, -⟩ | closed
  · -- Its own timeout: the request was still outstanding.
    have outstanding := h.isOutstanding_iff.mpr ⟨held, found, Ticket.isOpen_iff.mpr ⟨waits, opened⟩⟩
    have expires : Step.Expires id ⟨s, m⟩ :=
      ⟨⟨outstanding, h.failed_after told⟩, .inr ⟨other, after, told⟩⟩
    exact ⟨same, h.expires_late watched.dueAt expires, all, _, by simp, expires⟩
  · obtain ⟨same, late, st, among, expires⟩ := watched.swept held other after found closed
    exact ⟨same, late, all, st, by simp [among], expires⟩

/-- Who finds nothing at the deadline is told of a timeout. -/
theorem Sound.recv_late {due : Instant} {wait : Duration} (h : Sound s)
    (watched : Watched due wait id t s) {sub : Subscription} {box : Mailbox}
    (found : s.subscriptions.get? id = some sub) (waits : sub.done = false)
    (stored : s.mailboxOf? id = some box) (items : box.items = []) (opened : box.closure = none)
    (late : due ≤ s.now) :
    (s.recv id).1 = .failed (.timeout id wait) ∧ (s.recv id).2.isOutstanding id = false := by
  have held : s.ticket? id = some ⟨sub, box⟩ := by
    rw [mailboxOf?, found] at stored
    exact ticket?_eq_some.mpr ⟨found, stored⟩
  obtain ⟨deadline, timeout⟩ := watched.dueAt _ held
  have kept : box.dropped = 0 := by
    have account := watched.account
    rw [held] at account
    cases account with
    | waiting _ size balance =>
      -- A mailbox that dropped something is full, and there is room for one item at least.
      have full : 0 < box.dropped → box.items.length = box.room := balance.full
      have positive : 0 < box.room := balance.positive
      rw [items, List.length_nil] at full
      omega
    | ended n done => rw [waits] at done; cases done
  have pull : ((⟨sub, box⟩ : Ticket).pull id s.now).1 = .failed (.timeout id wait) := by
    have due : sub.deadline ≤ s.now := deadline ▸ late
    have take : box.take = (.pending, box) := by simp [Mailbox.take, kept, items, opened]
    simp [Ticket.pull, waits, take, due, ← timeout]
  have got : (s.recv id).1 = .failed (.timeout id wait) := by
    rw [recv_eq held]
    exact pull
  have told : Step.pull? id ⟨s, .recv id⟩ = some (.failed (.timeout id wait)) := by
    rw [pull?_recv, found, ← got]
    rfl
  refine ⟨got, ?_⟩
  rw [← step_recv]
  exact h.failed_after told

/-- What there is to say of the timeout of a request that was made with that deadline and that
wait, after the steps `t`, which lead from there to `s`. -/
structure Timeouts (due : Instant) (wait : Duration) (id : RequestId) (t : List Step)
    (s : Session) : Prop where
  /-- It expires only at its deadline or later, and only if nothing else resolves it. -/
  late : ∀ st ∈ t, st.Expires id → due ≤ st.before.now ∧ ∀ other ∈ t, ¬ other.Settles id
  /-- Its caller is told only after it got all items that came, and only if it expired. -/
  told : ∀ t₁ st t₂ other after, t = t₁ ++ st :: t₂ →
    st.pull? id = some (.failed (.timeout other after)) →
      other = id ∧ due ≤ st.before.now ∧ results id t₁ = (accepted id t).map .item ∧
        ∃ at_ ∈ t₁ ++ [st], at_.Expires id
  /-- Whose last response came is never told of a timeout. -/
  answered : ∀ st ∈ t, ∀ r, st.reply? id = some r → itemOf? r = none →
    ∀ later ∈ t, ∀ other after, later.pull? id ≠ some (.failed (.timeout other after))
  /-- Who finds nothing at the deadline does not wait any longer. -/
  prompt : ∀ sub box, s.subscriptions.get? id = some sub → sub.done = false →
    s.mailboxOf? id = some box → box.items = [] → box.closure = none → due ≤ s.now →
      (s.recv id).1 = .failed (.timeout id wait) ∧ (s.recv id).2.isOutstanding id = false

theorem Sound.timeouts {due : Instant} {wait : Duration} (h : Sound s)
    (watched : Watched due wait id [] s) (distinct : Distinct ms) (unsent : id ∉ sentIds ms) :
    Timeouts due wait id (steps ms s) (Session.run ms s) := by
  -- What the moves up to some step have kept.
  have up {ms₁ ms₂ : List Move} {m : Move} (split : ms = ms₁ ++ m :: ms₂) :
      Watched due wait id (steps ms₁ s) (Session.run ms₁ s) := by
    subst split
    refine h.watched_run watched ?_ fun sent => unsent (by simp [sentIds_append, sent])
    rw [Distinct, sentIds_append, List.nodup_append] at distinct
    exact distinct.1
  have late : ∀ st ∈ steps ms s, st.Expires id →
      due ≤ st.before.now ∧ ∀ other ∈ steps ms s, ¬ other.Settles id := by
    intro st among expires
    obtain ⟨t₁, t₂, split⟩ := List.append_of_mem among
    obtain ⟨ms₁, ms₂, split, -, before, -⟩ := steps_split split
    refine ⟨(h.before among).expires_late (before ▸ (up split).dueAt) expires, ?_⟩
    intro other among' settles
    have ends : other.Ends id := ⟨settles.1, (h.before among').settles_after settles⟩
    rw [h.ends_once unsent among' among ends expires.1] at settles
    exact (h.before among).expires_not_settles expires settles
  have told : ∀ t₁ st t₂ other after, steps ms s = t₁ ++ st :: t₂ →
      st.pull? id = some (.failed (.timeout other after)) →
        other = id ∧ due ≤ st.before.now ∧
          results id t₁ = (accepted id (steps ms s)).map .item ∧
            ∃ at_ ∈ t₁ ++ [st], at_.Expires id := by
    intro t₁ st t₂ other after split told
    have sound : Sound st.before := by
      have among : st ∈ steps ms s := by
        rw [split]
        exact List.mem_append_right t₁ List.mem_cons_self
      exact h.before among
    obtain ⟨ms₁, ms₂, moves, rfl, before, rfl⟩ := steps_split split
    have watched₁ := up moves
    rw [← before] at watched₁
    obtain ⟨same, late, all, expired⟩ := sound.timeout_told watched₁ told
    -- Nothing comes after the timeout, nor with it.
    have none : st.item? id = none := by
      have move := pull?_move told
      simp [Step.item?, Step.reply?, move, heard]
    have rest : routed id (steps ms₂ st.after) = [] := by
      refine (sound.step st.move).toSound.routed_of_settled (sound.failed_after told) ?_
      intro sent
      exact unsent (by simp [moves, sentIds_append, sentIds_cons, sent])
    have after : routed id (st :: steps ms₂ st.after) = [] := by
      rw [routed, filterMap_cons, none]
      exact rest
    refine ⟨same, late, ?_, expired⟩
    rw [h.accepted_eq_routed, split, routed_append, after, List.append_nil]
    exact all
  refine ⟨late, told, ?_, ?_⟩
  · intro st among r reply last later among' other after timeout
    obtain ⟨t₁, t₂, split⟩ := List.append_of_mem among'
    obtain ⟨-, -, -, at_, before, expires⟩ := told t₁ later t₂ other after split timeout
    have within : at_ ∈ steps ms s := by
      rw [split, List.append_cons]
      exact List.mem_append_left t₂ before
    have waits : st.before.isOutstanding id = true := by
      rw [Step.reply?_eq] at reply
      split at reply
      · assumption
      · cases reply
    exact (late at_ within expires).2 st among ⟨waits, .inl ⟨r, reply, last⟩⟩
  · intro sub box found waits stored items opened isLate
    exact (h.run ms).recv_late (h.watched_run watched distinct unsent) found waits stored items
      opened isLate

/-- A request times out exactly when its deadline has come and nothing has resolved it. -/
theorem timeouts_exact (settings : Settings) (pre post : List Move) (id : RequestId)
    (sessionId : Option String) (kind : Kind) (payload : Value)
    (distinct : Distinct (pre ++ .send id sessionId kind payload :: post))
    (opened : (run pre (start settings)).status = .opened) :
    Timeouts ((run pre (start settings)).now + min settings.requestTimeout maxWait)
      settings.requestTimeout id
      (steps post (run (pre ++ [.send id sessionId kind payload]) (start settings)))
      (run (pre ++ .send id sessionId kind payload :: post) (start settings)) := by
  have sound := sound_run settings pre
  have isOpen : (run pre (start settings)).status.isClosed = false := by rw [opened]; rfl
  have watched : Watched _ _ id [] _ := sound.watched_sent isOpen sessionId kind payload
  rw [(sound_start settings).run_settings pre] at watched
  rw [Distinct, sentIds_append, sentIds_cons, List.nodup_append] at distinct
  obtain ⟨-, distinct, -⟩ := distinct
  rw [List.nodup_append] at distinct
  obtain ⟨-, rest, apart⟩ := distinct
  rw [run_snoc, run_append]
  refine (sound.step _).toSound.timeouts watched rest fun sent => ?_
  exact apart id (by simp [Move.sends?]) id sent rfl

/-- Both requests are swept, but the caller of one is told only after it got the item that
had come in time. -/
def overdue : List Move :=
  hears (.item "slow" (.bool true)) ++ [.pass 7, .recv "slow", .sweep, .recv "slow", .recv "slow"]

theorem overdue_timeouts :
    Distinct ([.send "late" none .storage .null] ++ .send "slow" none .llm .null :: overdue) ∧
      (run [.send "late" none .storage .null] (start ⟨5, none, 1⟩)).status = .opened ∧
      pulls "slow" (steps overdue (run ([.send "late" none .storage .null] ++
          [.send "slow" none .llm .null]) (start ⟨5, none, 1⟩))) =
        [.item (.bool true), .failed (.timeout "slow" 5), .finished] ∧
      Timeouts 5 5 "slow"
        (steps overdue (run ([.send "late" none .storage .null] ++
          [.send "slow" none .llm .null]) (start ⟨5, none, 1⟩)))
        (run ([.send "late" none .storage .null] ++ .send "slow" none .llm .null :: overdue)
          (start ⟨5, none, 1⟩)) := by
  obtain ⟨distinct, opened, got⟩ :
      Distinct ([.send "late" none .storage .null] ++ .send "slow" none .llm .null :: overdue) ∧
      (run [.send "late" none .storage .null] (start ⟨5, none, 1⟩)).status = .opened ∧
      pulls "slow" (steps overdue (run ([.send "late" none .storage .null] ++
          [.send "slow" none .llm .null]) (start ⟨5, none, 1⟩))) =
        [.item (.bool true), .failed (.timeout "slow" 5), .finished] := by
    decide +kernel
  exact ⟨distinct, opened, got,
    timeouts_exact ⟨5, none, 1⟩ _ overdue "slow" none .llm .null distinct opened⟩

end Backchannel.Session
