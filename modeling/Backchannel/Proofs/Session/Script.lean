/-
# Backchannel.Proofs.Session.Script -- a caller who waits gets what is said to him

Between two pulls of a caller anything may happen, and a pull that finds nothing is made again
when something has happened (`awaitReply`).  As long as the responses to the request come
before its deadline, the session stays open and the mailbox has room for their items, the
caller gets them all and in order, up to the first that ends the request; however the pulls
fall between the moves (`Promised.supplies`).

The invariant is about the ticket of the caller (`Expects`): while it is open, its items and
the responses that are still to come are what he will get; once it is not, its outcome is.
-/
import Backchannel.Proofs.Session.Apart
import Backchannel.Proofs.Session.Closing
import Backchannel.Proofs.Supply

namespace Backchannel

set_option autoImplicit false

open Backchannel.Json (Value)
open Backchannel.Text (lineFeed)
open Backchannel.Text.Utf8 (Bytes)

namespace Session

/-! ## Waiting -/

/-- The pull of a caller who waits.  Before it, and again as long as it finds nothing, the
moves of the next batch are made. -/
def awaitReply (id : RequestId) :
    List (List Move) → Session → Pulled Value × List (List Move) × Session
  | [], s =>
    let (got, s) := s.recv id
    (got, [], s)
  | ms :: later, s =>
    match (run ms s).recv id with
    | (.pending, s) => awaitReply id later s
    | (got, s) => (got, later, s)

/-- The same as the pull of one source. -/
def pullAwaiting (id : RequestId) (x : List (List Move) × Session) :
    Pulled Value × List (List Move) × Session :=
  awaitReply id x.1 x.2

/-! ## Lines -/

/-- The line that the reader takes in a step. -/
def Step.taken? (st : Step) : Option Bytes :=
  match st.move with
  | .byte b =>
    if st.before.reading && b == lineFeed then some (b :: st.before.unread).reverse else none
  | .tail =>
    if st.before.reading && !st.before.unread.isEmpty then some st.before.unread.reverse else none
  | _ => none

/-- The lines of a run that name a request, in order. -/
def linesFor (id : RequestId) (t : List Step) : List Bytes :=
  (t.filterMap Step.taken?).filter fun line => (Notice.ofLine line).names? = some id

/-- What the reader makes of a step is what it makes of the line. -/
theorem heard_eq (m : Move) (s : Session) :
    heard m s = ((Step.taken? ⟨s, m⟩).map Notice.ofLine).getD .nothing := by
  cases m with
  | byte b =>
    simp only [heard, Step.taken?]
    split <;> rfl
  | tail =>
    simp only [heard, Step.taken?]
    split <;> rfl
  | _ => rfl

/-- The notice of a request in a step. -/
def Step.notice? (id : RequestId) (st : Step) : Option Notice :=
  if (heard st.move st.before).names? = some id then some (heard st.move st.before) else none

/-- The notices of a request in a run, in order. -/
def notices (id : RequestId) (t : List Step) : List Notice := t.filterMap (Step.notice? id)

theorem notices_cons (id : RequestId) (st : Step) (t : List Step) :
    notices id (st :: t) = (st.notice? id).toList ++ notices id t :=
  filterMap_cons _ st t

/-- The notices of a request are what its lines come to. -/
theorem notices_eq (id : RequestId) (t : List Step) :
    notices id t = (linesFor id t).map Notice.ofLine := by
  induction t with
  | nil => rfl
  | cons st t ih =>
    have split : linesFor id (st :: t) =
        st.taken?.toList.filter (fun line => (Notice.ofLine line).names? = some id) ++
          linesFor id t := by
      rw [linesFor, filterMap_cons, List.filter_append]
      rfl
    rw [notices_cons, ih, split, List.map_append]
    refine congrArg (· ++ _) ?_
    obtain ⟨s, m⟩ := st
    rw [Step.notice?, heard_eq]
    cases taken : Step.taken? ⟨s, m⟩ with
    | none => rfl
    | some line =>
      by_cases named : (Notice.ofLine line).names? = some id <;> simp [named]

/-! ## Responses in time -/

/-- In a run these responses come for a request, and no more of it: the session stays open
and the deadline does not pass. -/
structure Reaches (id : RequestId) (deadline : Instant) (rs : List Response) (s : Session)
    (ms : List Move) : Prop where
  notices : notices id (steps ms s) = rs.map .response
  opened : (run ms s).status = .opened
  early : (run ms s).now < deadline

variable {id : RequestId} {s s' : Session} {m : Move} {ms : List Move} {deadline : Instant}
  {r : Response} {rs : List Response} {t : Ticket}

/-- What requests do to the session has no part in it. -/
theorem run_congr (h : Sound s) (h' : Sound s') (same : s'.backdrop = s.backdrop)
    (id : RequestId) (ms : List Move) :
    (run ms s').backdrop = (run ms s).backdrop ∧
      Session.notices id (steps ms s') = Session.notices id (steps ms s) := by
  induction ms generalizing s s' with
  | nil => exact ⟨same, rfl⟩
  | cons m ms ih =>
    have next : (s'.step m).backdrop = (s.step m).backdrop := by
      rw [h.toGoverned.step_backdrop, h'.toGoverned.step_backdrop, same]
    have notice : Step.notice? id ⟨s', m⟩ = Step.notice? id ⟨s, m⟩ := by
      simp only [Step.notice?, heard_congr same]
    obtain ⟨last, rest⟩ := ih (h.step m).toSound (h'.step m).toSound next
    refine ⟨last, ?_⟩
    rw [steps_cons, steps_cons, notices_cons, notices_cons, notice, rest]

namespace Reaches

theorem congr (reaches : Reaches id deadline rs s ms) (h : Sound s) (h' : Sound s')
    (same : s'.backdrop = s.backdrop) : Reaches id deadline rs s' ms := by
  obtain ⟨last, notices⟩ := run_congr h h' same id ms
  refine ⟨notices.trans reaches.notices, ?_, ?_⟩
  · exact (congrArg Backdrop.status last).trans reaches.opened
  · have now : (run ms s').now = (run ms s).now := congrArg Backdrop.now last
    rw [now]
    exact reaches.early

/-- Nothing comes when nothing happens. -/
theorem nothing (reaches : Reaches id deadline rs s []) : rs = [] :=
  List.map_eq_nil_iff.mp reaches.notices.symm

theorem inTime (reaches : Reaches id deadline rs s ms) (h : Sound s) : s.now < deadline := by
  have early := reaches.early
  clear reaches
  induction ms generalizing s with
  | nil => exact early
  | cons m ms ih =>
    have next := ih (h.step m).toSound early
    have later : s.now ≤ (s.step m).now := by
      rw [(h.toGoverned.ticks m).now]
      exact Nat.le_add_right _ _
    exact Nat.lt_of_le_of_lt later next

/-- A step brings the first response, or none. -/
theorem step (reaches : Reaches id deadline rs s (m :: ms)) :
    ((heard m s).names? ≠ some id ∧ Reaches id deadline rs (s.step m) ms) ∨
      ∃ r later, rs = r :: later ∧ r.id = id ∧ heard m s = .response r ∧
        Reaches id deadline later (s.step m) ms := by
  obtain ⟨notices, opened, early⟩ := reaches
  rw [steps_cons, notices_cons, Step.notice?] at notices
  by_cases named : (heard m s).names? = some id
  · right
    rw [if_pos named] at notices
    obtain ⟨r, later, rfl, first, rest⟩ := List.map_eq_cons_iff.mp notices.symm
    have own : r.id = id := by
      rw [← first] at named
      exact Option.some.inj named
    exact ⟨r, later, rfl, own, first.symm, rest.symm, opened, early⟩
  · rw [if_neg named] at notices
    exact .inl ⟨named, notices, opened, early⟩

/-- Until they all have come, a request is told of nothing but responses. -/
theorem turn (reaches : Reaches id t.sub.deadline rs s (m :: ms)) (h : Sound s)
    (held : s.ticket? id = some t) (other : m.caller? ≠ some id) :
    turn m s id = .ofNotice id (heard m s) := by
  have means := turn_means m s id
  generalize Session.turn m s id = turn at means ⊢
  cases means with
  | opened | pulled | dropped => exact absurd rfl other
  | idle quiet => rw [quiet]; rfl
  | expired found late =>
    obtain ⟨held', same, -, -, -, deadline⟩ := h.entry found
    rw [held] at same
    cases same
    rw [deadline] at late
    exact absurd (reaches.inTime h) (Nat.not_lt.mpr late)
  | @closed _ reason isOpen why =>
    -- The session would be closed by then.
    have closed : (s.step m).status = .closed reason := by
      cases status : s.status with
      | opened => rw [(h.toGoverned.ticks m).status, nextStatus, status, why]
      | closed first =>
        rw [status] at isOpen
        cases isOpen
    have opened := reaches.opened
    rw [run_cons, (h.step m).toSound.run_closed closed ms] at opened
    cases opened
  | noticed => rfl

end Reaches

/-! ## What the caller will get -/

/-- The items among some responses. -/
def itemsOf (rs : List Response) : List Value := rs.filterMap fun r => itemOf? r.reply

/-- What the caller of a request will get in a run, given his ticket. -/
inductive Expects (id : RequestId) (ms : List Move) (s : Session) (t : Ticket) :
    List (Pulled Value) → Prop where
  | waiting {upto rest : List Move} {rs : List Response} (isOpen : t.isOpen = true)
    (kept : t.box.dropped = 0) (split : ms = upto ++ rest)
    (reaches : Reaches id t.sub.deadline rs s upto)
    (room : t.box.items.length + (itemsOf rs).length ≤ t.box.room)
    (ends : ∃ r ∈ rs, itemOf? r.reply = none) :
    Expects id ms s t (t.box.items.map .item ++ outcomes (rs.map Response.reply))
  | settled (ended : t.isOpen = false) : Expects id ms s t t.outcome

variable {results : List (Pulled Value)}

/-- A response that is an item is put behind those that wait. -/
theorem put_expects {v : Value} {upto rest : List Move} (isOpen : t.isOpen = true)
    (kept : t.box.dropped = 0) (reaches : Reaches id t.sub.deadline rs s upto)
    (item : r.reply = .item v)
    (room : t.box.items.length + (itemsOf (r :: rs)).length ≤ t.box.room)
    (ends : ∃ q ∈ r :: rs, itemOf? q.reply = none) :
    Expects id (upto ++ rest) s (t.put v)
      (t.box.items.map .item ++ outcomes ((r :: rs).map Response.reply)) := by
  have opened := (Ticket.isOpen_iff.mp isOpen).2
  have counted : itemsOf (r :: rs) = v :: itemsOf rs := by simp [itemsOf, item, itemOf?]
  rw [counted, List.length_cons] at room
  have fits : t.box.items.length < t.box.room := by omega
  have put : t.put v = ⟨t.sub, { t.box with items := t.box.items ++ [v] }⟩ := by
    simp [Ticket.put, isOpen, Mailbox.push, opened, fits]
  have results : t.box.items.map .item ++ outcomes ((r :: rs).map Response.reply) =
      (t.box.items ++ [v]).map .item ++ outcomes (rs.map Response.reply) := by
    rw [List.map_cons, item, outcomes, List.map_cons, Reply.pulled, untilOver_of_item rfl]
    simp [outcomes]
  have later : ∃ q ∈ rs, itemOf? q.reply = none := by
    obtain ⟨q, among, last⟩ := ends
    rcases List.mem_cons.mp among with rfl | after
    · rw [item] at last
      cases last
    · exact ⟨q, after, last⟩
  rw [results, put]
  refine .waiting (Ticket.isOpen_iff.mpr (Ticket.isOpen_iff.mp isOpen)) kept rfl reaches ?_ later
  simp only [List.length_append, List.length_singleton]
  omega

/-- A response that ends the request closes the mailbox behind them. -/
theorem close_expects {c : Closure} (isOpen : t.isOpen = true) (kept : t.box.dropped = 0)
    (last : r.reply.pulled = c.pulled) (ends : r.reply.pulled.isOver = true) :
    Expects id ms s (t.close c)
      (t.box.items.map .item ++ outcomes ((r :: rs).map Response.reply)) := by
  obtain ⟨waits, opened⟩ := Ticket.isOpen_iff.mp isOpen
  have close : t.close c = ⟨t.sub, { t.box with closure := some c }⟩ := by
    simp [Ticket.close, isOpen, Mailbox.close, opened]
  have results : (t.close c).outcome =
      t.box.items.map .item ++ outcomes ((r :: rs).map Response.reply) := by
    rw [List.map_cons, outcomes, List.map_cons, untilOver_of_over ends, last, close]
    simp [Ticket.outcome, waits, Mailbox.remains, kept]
  rw [← results]
  exact .settled (t.close_isOpen c)

/-- Nor does a ticket that is not open change, but by its caller. -/
theorem turn_ended (ended : t.isOpen = false) (other : m.caller? ≠ some id) :
    (turn m s id).apply id (some t) = some t := by
  have close (c : Closure) : Turn.apply id (.closed c) (some t) = some t :=
    congrArg some (Ticket.close_of_not_open ended c)
  have means := turn_means m s id
  generalize turn m s id = turn at means ⊢
  cases means with
  | opened | pulled | dropped => exact absurd rfl other
  | idle => rfl
  | expired => exact close _
  | closed => exact close _
  | noticed =>
    rcases ofNotice_cases id (heard m s) with same | ⟨v, same⟩ | same | ⟨message, same⟩ |
      ⟨violation, same⟩ <;> rw [same]
    · rfl
    · exact congrArg some (Ticket.put_of_not_open ended v)
    · exact close _
    · exact close _
    · exact close _

/-- A move that is not the caller's changes nothing of what he will get. -/
theorem Expects.step (expects : Expects id (m :: ms) s t results) (h : Sound s)
    (held : s.ticket? id = some t) (other : m.caller? ≠ some id) :
    ∃ t', (s.step m).ticket? id = some t' ∧ Expects id ms (s.step m) t' results := by
  have next := (h.step m).ticket id
  rw [held] at next
  cases expects with
  | settled ended =>
    rw [turn_ended ended other] at next
    exact ⟨t, next, .settled ended⟩
  | @waiting upto rest rs isOpen kept split reaches room ends =>
    cases upto with
    | nil =>
      obtain ⟨r, among, -⟩ := ends
      rw [reaches.nothing] at among
      cases among
    | cons first upto =>
      obtain ⟨rfl, rfl⟩ := List.cons.inj split
      rw [reaches.turn h held other] at next
      rcases reaches.step with ⟨apart, later⟩ | ⟨r, rs, rfl, own, told, later⟩
      · rw [ofNotice_of_other apart] at next
        exact ⟨t, next, .waiting isOpen kept rfl later room ends⟩
      · have turn : Turn.ofNotice id (heard m s) = .ofReply r.reply := by
          rw [told, Turn.ofNotice, if_pos own]
        rw [turn] at next
        cases reply : r.reply with
        | item v =>
          rw [reply] at next
          exact ⟨t.put v, next, put_expects isOpen kept later reply room ends⟩
        | finish =>
          rw [reply] at next
          exact ⟨_, next, close_expects isOpen kept (by rw [reply]; rfl) (by rw [reply]; rfl)⟩
        | failed message =>
          rw [reply] at next
          exact ⟨_, next, close_expects isOpen kept (by rw [reply]; rfl) (by rw [reply]; rfl)⟩

theorem Expects.run {ns : List Move} (expects : Expects id (ms ++ ns) s t results) (h : Sound s)
    (held : s.ticket? id = some t) (others : ∀ m ∈ ms, m.caller? ≠ some id) :
    ∃ t', (run ms s).ticket? id = some t' ∧ Expects id ns (run ms s) t' results := by
  induction ms generalizing s t with
  | nil => exact ⟨t, held, expects⟩
  | cons m ms ih =>
    obtain ⟨t', held', next⟩ := expects.step h held (others m (by simp))
    exact ih next (h.step m).toSound held' fun n among => others n (by simp [among])

/-! ## Pulling -/

/-- A pull brings the first of what the caller will get, or there is nothing yet and
something is still to happen. -/
theorem Expects.pull (expects : Expects id ms s t results) (h : Sound s) :
    ((t.pull id s.now).1 = .pending ∧ ms ≠ [] ∧
        Expects id ms (s.recv id).2 (t.pull id s.now).2 results) ∨
      ((t.pull id s.now).1 ≠ .pending ∧ (t.pull id s.now).1 = results.headD .finished ∧
        Expects id ms (s.recv id).2 (t.pull id s.now).2 results.tail) := by
  cases expects with
  | settled ended =>
    refine .inr ⟨Ticket.pull_ne_pending ended id s.now, ?_⟩
    have still := Ticket.pull_not_open ended id s.now
    rcases Ticket.pull_outcome ended id s.now with ⟨empty, last, empty'⟩ | first
    · rw [empty, last]
      refine ⟨rfl, ?_⟩
      have settled : Expects id ms (s.recv id).2 (t.pull id s.now).2 (t.pull id s.now).2.outcome :=
        .settled still
      rw [empty'] at settled
      exact settled
    · rw [first]
      exact ⟨rfl, .settled still⟩
  | @waiting upto rest rs isOpen kept split reaches room ends =>
    obtain ⟨waits, opened⟩ := Ticket.isOpen_iff.mp isOpen
    have later := reaches.congr h (h.recv id).toSound (recv_leaves id s).backdrop
    rcases Ticket.pull_cases waits id s.now with ⟨lost, -⟩ | ⟨-, v, items, found, pull⟩ |
      ⟨-, -, c, closed, -⟩ | ⟨-, -, -, late, -⟩ | ⟨-, found, -, -, pull⟩
    · omega
    · right
      rw [pull, found]
      refine ⟨by simp, rfl, ?_⟩
      refine .waiting (Ticket.isOpen_iff.mpr ⟨waits, opened⟩) kept split later ?_ ends
      rw [found, List.length_cons] at room
      dsimp only
      omega
    · rw [opened] at closed
      cases closed
    · exact absurd (reaches.inTime h) (Nat.not_lt.mpr late)
    · left
      rw [pull]
      refine ⟨rfl, ?_, .waiting isOpen kept split later room ends⟩
      rintro rfl
      obtain ⟨rfl, -⟩ := List.append_eq_nil_iff.mp split.symm
      obtain ⟨r, among, -⟩ := ends
      rw [reaches.nothing] at among
      cases among

theorem recv_pull (held : s.ticket? id = some t) :
    s.recv id = ((t.pull id s.now).1, (s.recv id).2) := by
  rw [recv_eq held]

theorem Sound.recv_own (h : Sound s) (held : s.ticket? id = some t) :
    (s.recv id).2.ticket? id = some (t.pull id s.now).2 := by
  rw [h.toRegistered.recv_ticket? held, if_pos rfl]

/-- What is so of a caller who waits for these results, and of the moves that are to come. -/
structure Promised (id : RequestId) (x : List (List Move) × Session)
    (results : List (Pulled Value)) : Prop where
  sound : x.2.Sound
  others : ∀ m ∈ x.1.flatten, m.caller? ≠ some id
  expects : ∃ t, x.2.ticket? id = some t ∧ Expects id x.1.flatten x.2 t results

/-- A pull that is awaited brings the first of the results. -/
theorem Promised.pull {x : List (List Move) × Session} (promised : Promised id x results) :
    (pullAwaiting id x).1 = results.headD .finished ∧
      Promised id (pullAwaiting id x).2 results.tail := by
  obtain ⟨schedule, s⟩ := x
  induction schedule generalizing s with
  | nil =>
    obtain ⟨sound, others, t, held, expects⟩ := promised
    have pulled : s.recv id = ((t.pull id s.now).1, (s.recv id).2) := recv_pull held
    have ticket : (s.recv id).2.ticket? id = some (t.pull id s.now).2 := sound.recv_own held
    rcases expects.pull sound with ⟨-, some, -⟩ | ⟨-, first, rest⟩
    · exact absurd rfl some
    · rw [pullAwaiting, awaitReply, pulled, first]
      exact ⟨rfl, (sound.recv id).toSound, others, _, ticket, rest⟩
  | cons ms later ih =>
    obtain ⟨sound, others, t, held, expects⟩ := promised
    rw [List.flatten_cons] at others expects
    obtain ⟨t, held, expects⟩ := expects.run sound held fun m among =>
      others m (List.mem_append_left _ among)
    have others : ∀ m ∈ later.flatten, m.caller? ≠ some id := fun m among =>
      others m (List.mem_append_right _ among)
    have sound := sound.run ms
    rw [pullAwaiting, awaitReply]
    generalize run ms s = s at sound held expects ⊢
    have pulled : s.recv id = ((t.pull id s.now).1, (s.recv id).2) := recv_pull held
    have ticket : (s.recv id).2.ticket? id = some (t.pull id s.now).2 := sound.recv_own held
    rcases expects.pull sound with ⟨pending, -, rest⟩ | ⟨ready, first, rest⟩
    · rw [pulled, pending]
      exact ih (s.recv id).2 ⟨(sound.recv id).toSound, others, _, ticket, rest⟩
    · have awaited : Promised id (later, (s.recv id).2) results.tail :=
        ⟨(sound.recv id).toSound, others, _, ticket, rest⟩
      rw [pulled, ← first]
      cases got : (t.pull id s.now).1 with
      | pending => exact absurd got ready
      | item | finished | failed => exact ⟨rfl, awaited⟩

/-- The pulls of a caller who waits bring what is said to him. -/
theorem Promised.supplies {x : List (List Move) × Session} (promised : Promised id x results) :
    Supplies (pullAwaiting id) x results :=
  .of_step (Promised id) (fun _ _ promised => promised.pull) promised

/-! ## From the request on -/

/-- The caller of a request to which responses come in time, with room for their items, gets
what they come to. -/
theorem Sound.promised_sent (h : Sound s) {sessionId : Option String} {kind : Kind}
    {payload : Value} {schedule : List (List Move)} {upto rest : List Move}
    (split : schedule.flatten = upto ++ rest)
    (others : ∀ m ∈ schedule.flatten, m.caller? ≠ some id)
    (reaches : Reaches id (deadlineAfter s.now s.settings.requestTimeout) rs
      (s.step (.send id sessionId kind payload)) upto)
    (room : (itemsOf rs).length ≤ s.settings.queueCapacity)
    (ends : ∃ r ∈ rs, itemOf? r.reply = none) :
    Promised id (schedule, s.step (.send id sessionId kind payload))
      (outcomes (rs.map Response.reply)) := by
  have next := h.step (.send id sessionId kind payload)
  have whole : (Session.run (.send id sessionId kind payload :: upto) s).status = .opened :=
    reaches.opened
  have opened := h.opened_before whole
  have ticket := next.ticket id
  have turn : turn (.send id sessionId kind payload) s id = .opened (s.newTicket id kind) := by
    simp [turn, opened]
  rw [turn] at ticket
  have fits : (s.newTicket id kind).box.items.length + (itemsOf rs).length ≤
      (s.newTicket id kind).box.room := by
    change 0 + _ ≤ max s.settings.queueCapacity 1
    omega
  exact ⟨next.toSound, others, s.newTicket id kind, ticket,
    .waiting rfl rfl split reaches fits ends⟩

end Session

end Backchannel
