/-
# Backchannel.Proofs.Plugin.Calls -- what a call for one result comes to

The task of a call waits for the first that comes for its request and then ends, whatever that
is: an item, the end, an error, the close of the session, or the deadline.  `first` reads it off
the steps of a run, and `Course` says where the call is: it runs, and its ticket holds what came
first; or it has been answered by that; or it is gone.  It stays on that course through every
step that is not made in its name (`Course.run`).

As long as a call runs only its own polls and what happens to the session matter to its ticket.
Once it has been answered or is gone nobody is there to be told (`Over`).
-/
import Backchannel.Proofs.Plugin.Flight
import Backchannel.Proofs.Session.Effect
import Backchannel.Proofs.Session.Resolution

namespace Backchannel

set_option autoImplicit false

open Backchannel.Json (Value)

theorem Closure.pulled_ne_pending (c : Closure) : c.pulled ≠ .pending := by
  cases c <;> simp [Closure.pulled]

/-- What the next pull from a mailbox brings that has dropped nothing, if something is there. -/
def Mailbox.next? (m : Mailbox) : Option (Pulled Value) :=
  (m.items.head?.map Pulled.item).or (m.closure.map Closure.pulled)

namespace Session

variable {s s' s'' : Session} {id other : RequestId} {m : Move}

/-! ## What others do -/

/-- Soundness is kept, and the caller of the request has what it had. -/
def Spares (id : RequestId) (s s' : Session) : Prop :=
  s.Sound → s'.Sound ∧ s'.ticket? id = s.ticket? id

namespace Spares

theorem refl (id : RequestId) (s : Session) : Spares id s s := fun sound => ⟨sound, rfl⟩

theorem trans (first : Spares id s s') (rest : Spares id s' s'') : Spares id s s'' := by
  intro sound
  obtain ⟨sound', same⟩ := first sound
  obtain ⟨sound'', same'⟩ := rest sound'
  exact ⟨sound'', same'.trans same⟩

/-- What the caller of one request does is nothing to another. -/
theorem of_caller (caller : m.caller? = some other) (apart : other ≠ id) :
    Spares id s (s.step m) := by
  intro sound
  have turns := sound.step m
  have idle : turn m s id = .idle := by
    cases m with
    | send _ | recv _ | drop _ =>
      cases caller
      exact if_neg apart
    | _ => cases caller
  refine ⟨turns.toSound, ?_⟩
  rw [turns.ticket, idle]
  rfl

theorem send (apart : other ≠ id) (sessionId : Option String) (kind : Kind) (payload : Value) :
    Spares id s (s.send other sessionId kind payload).2 :=
  of_caller (m := .send other sessionId kind payload) rfl apart

theorem recv (apart : other ≠ id) : Spares id s (s.recv other).2 := by
  have pulled : Spares id s (s.step (.recv other)) := of_caller rfl apart
  rwa [step_recv] at pulled

theorem drop (apart : other ≠ id) : Spares id s (s.drop other) :=
  of_caller (m := .drop other) rfl apart

end Spares

/-! ## What comes for a request -/

/-- What a step brings for a request that is outstanding: a reply, or how it is resolved
otherwise. -/
def Step.brings? (id : RequestId) (st : Step) : Option (Pulled Value) :=
  ((st.reply? id).map Reply.pulled).or ((st.resolves? id).map Closure.pulled)

theorem Step.brings?_eq (id : RequestId) (m : Move) (s : Session) :
    Step.brings? id ⟨s, m⟩ = ((Step.item? id ⟨s, m⟩).map Pulled.item).or
      ((Step.resolves? id ⟨s, m⟩).map Closure.pulled) := by
  rw [Step.brings?, Step.item?, Step.reply?_eq, Step.resolves?]
  by_cases waits : s.isOutstanding id = true
  · simp only [waits, if_true]
    cases turn m s id with
    | closed c =>
      cases c with
      | finished => rfl
      | failed e => cases e <;> rfl
    | _ => rfl
  · simp only [waits, Bool.false_eq_true, if_false]
    rfl

/-- What comes for a request goes behind what its caller has not pulled yet. -/
theorem Sound.step_next? (h : Sound s) (other : m.caller? ≠ some id) {ticket : Ticket}
    (held : s.ticket? id = some ticket) (kept : ticket.box.dropped = 0)
    (still : ∀ box, (s.step m).mailboxOf? id = some box → box.dropped = 0) :
    ∃ box, (s.step m).ticket? id = some ⟨ticket.sub, box⟩ ∧ box.dropped = 0 ∧
      box.next? = ticket.box.next?.or (Step.brings? id ⟨s, m⟩) := by
  rw [Step.brings?_eq]
  cases isOpen : ticket.isOpen with
  | true =>
    obtain ⟨box, own, closure, items⟩ := h.step_waiting other held isOpen
    have kept' : box.dropped = 0 := still box (by rw [mailboxOf?_eq, own]; rfl)
    have opened := (Ticket.isOpen_iff.mp isOpen).2
    refine ⟨box, own, kept', ?_⟩
    rw [Mailbox.next?, Mailbox.next?, closure, opened, items kept kept']
    cases ticket.box.items with
    | nil => cases Step.item? id ⟨s, m⟩ <;> rfl
    | cons v rest => rfl
  | false =>
    obtain ⟨own, item, resolved⟩ := h.step_settled other held isOpen
    refine ⟨ticket.box, own, kept, ?_⟩
    rw [item, resolved]
    exact Option.or_none.symm

/-- A caller that waits is told what is there, or what its own pull brings, or nothing, and then
it goes on waiting. -/
theorem Sound.recv_next? (h : Sound s) {ticket : Ticket} (held : s.ticket? id = some ticket)
    (waits : ticket.sub.done = false) (kept : ticket.box.dropped = 0) :
    (∃ got, (s.recv id).1 = got ∧ got ≠ .pending ∧
        ticket.box.next?.or (Step.brings? id ⟨s, .recv id⟩) = some got) ∨
      ((s.recv id).1 = .pending ∧ (s.recv id).2.ticket? id = some ticket ∧
        ticket.box.next?.or (Step.brings? id ⟨s, .recv id⟩) = none) := by
  have pulled : (s.recv id).1 = (ticket.pull id s.now).1 := by rw [recv_eq held]
  have after := (h.recv_ticket? held id).trans (if_pos rfl)
  rw [pulled, Step.brings?_eq, h.item?_recv held, h.resolves?_recv held, Ticket.isOpen, waits]
  rcases Ticket.pull_cases waits id s.now with ⟨lost, -⟩ | ⟨-, v, rest, items, pull⟩ |
    ⟨-, items, c, closure, pull⟩ | ⟨-, items, closure, late, pull⟩ |
    ⟨-, items, closure, early, pull⟩
  · omega
  · refine .inl ⟨.item v, by rw [pull], by simp, ?_⟩
    rw [Mailbox.next?, items]
    rfl
  · refine .inl ⟨c.pulled, by rw [pull], c.pulled_ne_pending, ?_⟩
    rw [Mailbox.next?, items, closure]
    rfl
  · refine .inl ⟨.failed (.timeout id ticket.sub.timeout), by rw [pull], by simp, ?_⟩
    simp [Mailbox.next?, items, closure, late, Closure.pulled, CallError.duplicate]
  · refine .inr ⟨by rw [pull], by rw [after, pull], ?_⟩
    simp [Mailbox.next?, items, closure, Nat.not_le.mpr early]

end Session

namespace Plugin

variable {p q : Plugin} {op : Op} {id other : RequestId} {job : Job}

/-! ## What other steps do -/

/-- In whose name a step acts that is not one of a task: it makes a request, or does to the
session what only the caller of a request does. -/
def Op.caller? : Op → Option RequestId
  | .session m => m.caller?
  | op => op.requests?

def Op.Intrudes (id : RequestId) (op : Op) : Prop := op.caller? = some id

instance (id : RequestId) (op : Op) : Decidable (op.Intrudes id) :=
  inferInstanceAs (Decidable (op.caller? = some id))

/-- What is held of a request and the ticket of its caller are as they were. -/
structure Apart (id : RequestId) (p q : Plugin) : Prop where
  held : q.held.get? id = p.held.get? id
  session : Session.Spares id p.session q.session

namespace Apart

theorem refl (id : RequestId) (p : Plugin) : Apart id p p := ⟨rfl, .refl id p.session⟩

theorem hold (apart : other ≠ id) (h : Held) (own : Apart id p q) : Apart id p (q.hold other h) :=
  ⟨((Keyed.get?_insert id other h q.held).trans (if_neg apart)).trans own.held, own.session⟩

theorem request (apart : other ≠ id) (sessionId : Option String) (kind : Kind) (payload : Value)
    (h : Held) (p : Plugin) : Apart id p (p.request other sessionId kind payload h).2 := by
  have sent : Session.Spares id p.session (p.session.send other sessionId kind payload).2 :=
    .send apart sessionId kind payload
  rcases answer : p.session.send other sessionId kind payload with ⟨_ | _, session⟩ <;>
    rw [answer] at sent
  · simpa only [Plugin.request, answer] using ⟨rfl, sent⟩
  · simp only [Plugin.request, answer]
    exact Apart.hold apart h ⟨rfl, sent⟩

theorem requestTimed (apart : other ≠ id) (model : ModelName) (kind : Kind) (payload : Value)
    (h : Held) (p : Plugin) : Apart id p (p.requestTimed other model kind payload h).2 := by
  cases entered : p.timing.enter other model p.now with
  | error e =>
    simp only [Plugin.requestTimed, entered]
    exact .refl id p
  | ok timing =>
    have sent := Apart.request apart ((p.models.get? model).getD none) kind payload h
      { p with timing := timing }
    rcases answer : Plugin.request other ((p.models.get? model).getD none) kind payload h
      { p with timing := timing } with ⟨_ | _, q⟩ <;> rw [answer] at sent <;>
      simp only [Plugin.requestTimed, entered, answer] <;> exact ⟨sent.held, sent.session⟩

theorem start (apart : other ≠ id) (sessionId : Option String) (job : Job) (p : Plugin) :
    Apart id p (p.start other sessionId job) := by
  -- Whatever the call is for, an error that it starts with is held under its own id.
  have refused {q : Plugin} (made : Apart id p q) (e : CallError) :
      Apart id p (q.hold other (.answered (.error e))) := hold apart _ made
  cases job with
  | first kind shape payload =>
    have made := request apart sessionId kind payload (.running (.first kind shape payload)) p
    simp only [Plugin.start]
    split
    · exact made
    · exact refused made _
  | storage op =>
    have made := request apart sessionId .storage op.payload (.running (.storage op)) p
    simp only [Plugin.start]
    split
    · exact made
    · exact refused made _
  | completion model r =>
    have made := requestTimed apart model .llm (r.payload false) (.running (.completion model r)) p
    simp only [Plugin.start]
    split
    · exact made
    · exact refused made _

theorem release (apart : other ≠ id) (own : Apart id p q) : Apart id p (q.release other) where
  held := ((Keyed.get?_erase id other q.held).trans (if_neg apart)).trans own.held
  session := own.session.trans (.drop apart)

theorem look (apart : other ≠ id) (job : Job) (p : Plugin) :
    Apart id p (p.look (other, .running job)) := by
  have pulled : Apart id p { p with session := (p.session.recv other).2 } := ⟨rfl, .recv apart⟩
  simp only [Plugin.look]
  cases job.conclude other (p.session.recv other).1 with
  | none => exact pulled
  | some answer => exact hold apart _ (release apart pulled)

theorem next {α : Type} (apart : other ≠ id) (z : Stream α) (s : Session) :
    Session.Spares id s (z.next (Session.recv other) s).2.2 := by
  unfold Stream.next
  split
  · exact .refl id s
  · exact .recv apart

theorem drain {α : Type} (apart : other ≠ id) (fuel : Nat) (z : Stream α) (s : Session) :
    Session.Spares id s (z.drain (Session.recv other) fuel s).2.2.2 := by
  induction fuel generalizing z s with
  | zero => exact .refl id s
  | succ fuel ih =>
    have pulled := next apart z s
    rcases got : z.next (Session.recv other) s with ⟨_ | a | _ | e, z', s'⟩ <;> rw [got] at pulled
    case item => simpa only [Stream.drain, got] using pulled.trans (ih z' s')
    all_goals simpa only [Stream.drain, got] using pulled

theorem pull (apart : other ≠ id) (z : Stream Value) (timed : Bool) (p : Plugin) :
    Apart id p (p.pull other z timed).2 := by
  have pulled : Apart id p { p with session := (z.next (Session.recv other) p.session).2.2 } :=
    ⟨rfl, next apart z p.session⟩
  have kept := hold apart (.stream (z.next (Session.recv other) p.session).2.1 timed) pulled
  simp only [Plugin.pull]
  split <;> exact ⟨kept.held, kept.session⟩

theorem pullAll (apart : other ≠ id) (z : Stream Value) (timed : Bool) (p : Plugin) :
    Apart id p (p.pullAll other z timed).2.2 := by
  have pulled (fuel : Nat) :
      Apart id p { p with session := (z.drain (Session.recv other) fuel p.session).2.2.2 } :=
    ⟨rfl, drain apart fuel z p.session⟩
  have kept (fuel : Nat) :=
    hold apart (.stream (z.drain (Session.recv other) fuel p.session).2.2.1 timed) (pulled fuel)
  simp only [Plugin.pullAll]
  split <;> exact ⟨(kept _).held, (kept _).session⟩

end Apart

/-- What a call comes to that is refused. -/
def refused? : Except CallError Unit → Option (Pulled Value)
  | .ok () => none
  | .error e => some (.failed e)

/-- What a step brings for the call of a request: the start does if the call is refused, what
happens to the session may, and so may a poll that comes too late for anything else. -/
def Step.brought? (id : RequestId) (st : Step) : Option (Pulled Value) :=
  match st.op with
  | .start other sessionId job =>
    if other = id then refused? (startResult other sessionId job st.before) else none
  | .session m => Session.Step.brings? id ⟨st.before.session, m⟩
  | .look other =>
    if other = id then Session.Step.brings? id ⟨st.before.session, .recv id⟩ else none
  | _ => none

/-- What came first for the call of a request, if anything did. -/
def first (id : RequestId) (t : List Step) : Option (Pulled Value) :=
  t.findSome? (Step.brought? id)

theorem first_snoc (id : RequestId) (t : List Step) (st : Step) :
    first id (t ++ [st]) = (first id t).or (st.brought? id) := by
  simp [first, List.findSome?_append]

/-- What is held of a request is its task or the answer of that, or nothing. -/
def Tasked (id : RequestId) (p : Plugin) : Prop :=
  ∀ h, p.held.get? id = some h → (∃ job, h = .running job) ∨ ∃ answer, h = .answered answer

/-- What is neither a task nor an answer is held of another request. -/
theorem Tasked.apart {h : Held} (tasked : Tasked id p) (held : p.held.get? other = some h)
    (noTask : ∀ job, h ≠ .running job) (noAnswer : ∀ answer, h ≠ .answered answer) :
    other ≠ id := by
  rintro rfl
  rcases tasked h held with ⟨job, same⟩ | ⟨answer, same⟩
  · exact noTask job same
  · exact noAnswer answer same

/-- All that a step can be to the call of a request, in whose name nobody else acts. -/
inductive Does (id : RequestId) (p : Plugin) : Op → Prop where
  | session {m : Session.Move} (other : m.caller? ≠ some id) : Does id p (.session m)
  | look : Does id p (.look id)
  | cancel : Does id p (.cancel id)
  | join : Does id p (.join id)
  | apart {op : Op} (apart : Apart id p (p.step op)) (quiet : Step.brought? id ⟨p, op⟩ = none) :
    Does id p op

/-- A step that finds nothing to act on. -/
theorem Does.gone (gone : p.perform op = (.gone, p)) (quiet : Step.brought? id ⟨p, op⟩ = none) :
    Does id p op := by
  refine .apart ?_ quiet
  rw [step, gone]
  exact .refl id p

theorem does (tasked : Tasked id p) (alone : ¬ op.Intrudes id) : Does id p op := by
  cases op with
  | session m => exact .session alone
  | addModel name sessionId => exact .apart ⟨rfl, .refl id p.session⟩ rfl
  | send other sessionId kind payload =>
    have apart : other ≠ id := fun same => alone (congrArg some same)
    exact .apart (.request apart sessionId kind payload _ p) rfl
  | invoke other sessionId kind payload shape =>
    have apart : other ≠ id := fun same => alone (congrArg some same)
    exact .apart (.request apart sessionId kind payload _ p) rfl
  | start other sessionId job =>
    have apart : other ≠ id := fun same => alone (congrArg some same)
    exact .apart (.start apart sessionId job p) (if_neg apart)
  | stream other model request =>
    have apart : other ≠ id := fun same => alone (congrArg some same)
    exact .apart (.requestTimed apart model .llm _ _ p) rfl
  | look other =>
    by_cases own : other = id
    · exact own ▸ .look
    have unlooked : Step.brought? id ⟨p, .look other⟩ = none := if_neg own
    rcases held : p.held.get? other with _ | _ | ⟨z, timed⟩ | job | answer
    case some.running =>
      refine .apart ?_ unlooked
      simpa only [step, perform, held] using Apart.look own job p
    all_goals exact .gone (by simp only [perform, held]) unlooked
  | next other =>
    rcases held : p.held.get? other with _ | _ | ⟨z, timed⟩ | job | answer
    case some.stream =>
      have own : other ≠ id := tasked.apart held (by simp) (by simp)
      refine .apart ?_ rfl
      simpa only [step, perform, held] using Apart.pull own z timed p
    all_goals exact .gone (by simp only [perform, held]) rfl
  | drain other =>
    rcases held : p.held.get? other with _ | _ | ⟨z, timed⟩ | job | answer
    case some.stream =>
      have own : other ≠ id := tasked.apart held (by simp) (by simp)
      refine .apart ?_ rfl
      simpa only [step, perform, held] using Apart.pullAll own z timed p
    all_goals exact .gone (by simp only [perform, held]) rfl
  | drop other =>
    rcases held : p.held.get? other with _ | _ | ⟨z, timed⟩ | job | answer
    case some.subscription | some.stream =>
      have own : other ≠ id := tasked.apart held (by simp) (by simp)
      refine .apart ?_ rfl
      simpa only [step, perform, held] using Apart.release own (.refl id p)
    all_goals exact .gone (by simp only [perform, held]) rfl
  | cancel other =>
    by_cases own : other = id
    · exact own ▸ .cancel
    rcases held : p.held.get? other with _ | _ | ⟨z, timed⟩ | job | answer
    case some.running | some.answered =>
      refine .apart ?_ rfl
      simpa only [step, perform, held] using Apart.release own (.refl id p)
    all_goals exact .gone (by simp only [perform, held]) rfl
  | join other =>
    by_cases own : other = id
    · exact own ▸ .join
    rcases held : p.held.get? other with _ | _ | ⟨z, timed⟩ | job | answer
    case some.answered =>
      refine .apart ?_ rfl
      simp only [step, perform, held]
      exact ⟨(Keyed.get?_erase id other p.held).trans (if_neg own), .refl id p.session⟩
    all_goals exact .gone (by simp only [perform, held]) rfl

/-! ## The course of a call -/

/-- Nobody waits for the request any more, and what still comes for it changes nothing. -/
structure Over (id : RequestId) (p : Plugin) : Prop where
  settled : p.session.isOutstanding id = false
  unsubscribed : p.session.subscriptions.get? id = none
  deaf : ∀ n : Notice, n.names? = some id → p.session.heed n = p.session

theorem over_of_ticket? (sound : p.session.Sound) (left : p.session.ticket? id = none) :
    Over id p := by
  have settled : p.session.isOutstanding id = false := by
    cases waits : p.session.isOutstanding id with
    | false => rfl
    | true =>
      obtain ⟨ticket, held, -⟩ := sound.isOutstanding_iff.mp waits
      cases left.symm.trans held
  refine ⟨settled, ?_, fun n named => ?_⟩
  · rw [← Option.not_isSome_iff_eq_none, ← sound.ticket?_isSome, left]
    exact Bool.false_ne_true
  · cases n with
    | nothing | request f => cases named
    | response r =>
      obtain rfl : r.id = id := Option.some.inj named
      exact Session.heed_stray settled
    | malformed other how =>
      obtain rfl : other = id := Option.some.inj named
      exact Session.heed_strayMalformed settled how

/-- Nothing is there of a request. -/
structure Absent (id : RequestId) (p : Plugin) : Prop where
  held : p.held.get? id = none
  left : p.session.ticket? id = none

theorem absent_idle (settings : Settings) (id : RequestId) : Absent id (idle settings) := ⟨rfl, rfl⟩

theorem absent_release (id : RequestId) (p : Plugin) : Absent id (p.release id) where
  held := Keyed.get?_erase_self id p.held
  left := (Session.drop_ticket? id _ id).trans (if_pos rfl)

theorem run_sound (ops : List Op) (sound : p.session.Sound) : (run ops p).session.Sound := by
  induction ops generalizing p with
  | nil => exact sound
  | cons op ops ih => exact ih ((step_leads op p).sound sound)

theorem ticket?_step_of_none {s : Session} {m : Session.Move} (sound : s.Sound)
    (other : m.caller? ≠ some id) (left : s.ticket? id = none) : (s.step m).ticket? id = none := by
  rw [(sound.step m).ticket, left]
  rcases Session.turn_of_other other with same | ⟨v, same⟩ | ⟨c, same⟩ <;> rw [same] <;> rfl

theorem Absent.step (h : Absent id p) (sound : p.session.Sound) (alone : ¬ op.Intrudes id) :
    Absent id (p.step op) := by
  have tasked : Tasked id p := fun _ found => by cases h.held.symm.trans found
  cases does tasked alone with
  | session other => exact ⟨h.held, ticket?_step_of_none sound other h.left⟩
  | look | cancel | join => simpa only [Plugin.step, perform, h.held] using h
  | apart apart quiet => exact ⟨apart.held.trans h.held, (apart.session sound).2.trans h.left⟩

theorem Absent.run {ops : List Op} (h : Absent id p) (sound : p.session.Sound)
    (alone : ∀ op ∈ ops, ¬ op.Intrudes id) : Absent id (run ops p) := by
  induction ops generalizing p with
  | nil => exact h
  | cons op ops ih =>
    refine ih (h.step sound (alone op List.mem_cons_self)) ((step_leads op p).sound sound) ?_
    exact fun op' among => alone op' (List.mem_cons_of_mem op among)

/-- Where a call is after some steps. -/
inductive Course (job : Job) (id : RequestId) (t : List Step) (p : Plugin) : Prop where
  /-- It runs, and what came first is what its ticket holds. -/
  | running {ticket : Ticket} (held : p.held.get? id = some (.running job))
    (own : p.session.ticket? id = some ticket) (waits : ticket.sub.done = false)
    (kept : ticket.box.dropped = 0) (next : ticket.box.next? = first id t)
  /-- What came first has answered it. -/
  | answered {got : Pulled Value} {answer : Except CallError Answer}
    (held : p.held.get? id = some (.answered answer)) (came : first id t = some got)
    (concluded : job.conclude id got = some answer) (left : p.session.ticket? id = none)
  /-- It was cancelled, or its answer was taken. -/
  | gone (absent : Absent id p) (ended : ∃ st ∈ t, st.op = .cancel id ∨ st.op = .join id)

variable {t : List Step}

theorem Course.tasked (h : Course job id t p) : Tasked id p := by
  intro held found
  cases h with
  | running own => exact .inl ⟨job, Option.some.inj (found.symm.trans own)⟩
  | answered own => exact .inr ⟨_, Option.some.inj (found.symm.trans own)⟩
  | gone absent => cases found.symm.trans absent.held

theorem conclude_isSome (job : Job) (id : RequestId) {got : Pulled Value} (some : got ≠ .pending) :
    ∃ answer, job.conclude id got = .some answer := by
  have single {α : Type} (shape : Json.Decoder α) :
      ∃ result, Stream.single id shape got = .some result := by
    cases got with
    | pending => exact absurd rfl some
    | finished => exact ⟨_, rfl⟩
    | failed e => exact ⟨_, rfl⟩
    | item v => cases read : shape.ofValue v <;> simp [Stream.single, Stream.typed, read]
  cases job with
  | first kind shape payload =>
    obtain ⟨result, same⟩ := single shape
    exact ⟨_, by rw [Job.conclude, same]; rfl⟩
  | storage op =>
    obtain ⟨result, same⟩ := single Storage.replyDecoder
    exact ⟨_, by rw [Job.conclude, same]; rfl⟩
  | completion model r =>
    obtain ⟨result, same⟩ := single Completion.Result.decoder
    exact ⟨_, by rw [Job.conclude, same]; rfl⟩

/-- A poll of the task answers it if something has come by now. -/
theorem Course.look {ticket : Ticket} (sound : p.session.Sound)
    (held : p.held.get? id = some (.running job)) (own : p.session.ticket? id = some ticket)
    (waits : ticket.sub.done = false) (kept : ticket.box.dropped = 0)
    (next : ticket.box.next? = first id t) :
    Course job id (t ++ [⟨p, .look id⟩]) (p.step (.look id)) := by
  have came : first id (t ++ [⟨p, .look id⟩]) =
      ticket.box.next?.or (Session.Step.brings? id ⟨p.session, .recv id⟩) := by
    rw [first_snoc, next]
    exact congrArg _ (if_pos rfl)
  have after : p.step (.look id) = p.look (id, .running job) := by
    simp only [step, perform, held]
  rw [after, Plugin.look]
  dsimp only
  rcases sound.recv_next? own waits kept with ⟨got, pulled, some, there⟩ | ⟨pulled, still, nothing⟩
  · obtain ⟨answer, concluded⟩ := conclude_isSome job id some
    rw [pulled, concluded]
    refine .answered ?_ (came.trans there) concluded ?_
    · exact Keyed.get?_insert_self id _ _
    · exact (Session.drop_ticket? id _ id).trans (if_pos rfl)
  · have idle : job.conclude id .pending = none := by cases job <;> rfl
    rw [pulled, idle]
    obtain ⟨unfilled, -⟩ := Option.or_eq_none_iff.mp nothing
    exact .running held still waits kept (unfilled.trans (came.trans nothing).symm)

theorem first_kept {got : Pulled Value} (came : first id t = some got) (st : Step) :
    first id (t ++ [st]) = some got := by
  rw [first_snoc, came]
  rfl

/-- Whatever happens that is not done in its name, a call stays on its course. -/
theorem Course.step (h : Course job id t p) (sound : p.session.Sound) (alone : ¬ op.Intrudes id)
    (still : ∀ box ∈ (p.step op).session.mailboxOf? id, box.dropped = 0) :
    Course job id (t ++ [⟨p, op⟩]) (p.step op) := by
  have doing := does h.tasked alone
  cases h with
  | running held own waits kept next =>
    cases doing with
    | session other =>
      obtain ⟨box, own', kept', next'⟩ := sound.step_next? other own kept still
      refine .running held own' waits kept' (next'.trans ?_)
      rw [first_snoc, next]
      rfl
    | look => exact .look sound held own waits kept next
    | cancel =>
      simp only [Plugin.step, perform, held]
      exact .gone (absent_release id p) ⟨_, List.mem_append_right _ List.mem_cons_self, .inl rfl⟩
    | join =>
      -- There is no answer to take.
      simp only [Plugin.step, perform, held]
      refine .running held own waits kept ?_
      rw [first_snoc, next]
      exact Option.or_none.symm
    | apart apart quiet =>
      refine .running (apart.held.trans held) ((apart.session sound).2.trans own) waits kept ?_
      rw [first_snoc, quiet, next, Option.or_none]
  | answered held came concluded left =>
    have came' : first id (t ++ [⟨p, op⟩]) = some _ := first_kept came _
    cases doing with
    | session other =>
      exact .answered held came' concluded (ticket?_step_of_none sound other left)
    | look =>
      simp only [Plugin.step, perform, held]
      exact .answered held came' concluded left
    | cancel =>
      simp only [Plugin.step, perform, held]
      exact .gone (absent_release id p) ⟨_, List.mem_append_right _ List.mem_cons_self, .inl rfl⟩
    | join =>
      simp only [Plugin.step, perform, held]
      exact .gone ⟨Keyed.get?_erase_self id p.held, left⟩
        ⟨_, List.mem_append_right _ List.mem_cons_self, .inr rfl⟩
    | apart apart quiet =>
      exact .answered (apart.held.trans held) came' concluded ((apart.session sound).2.trans left)
  | gone absent ended =>
    obtain ⟨st, among, ends⟩ := ended
    exact .gone (absent.step sound alone) ⟨st, List.mem_append_left _ among, ends⟩

/-! ## A whole run -/

/-- Nothing that comes for the request in a run is dropped for want of room. -/
def Uncrowded (id : RequestId) (ops : List Op) (p : Plugin) : Prop :=
  ∀ st ∈ steps ops p, ∀ box ∈ (st.before.step st.op).session.mailboxOf? id, box.dropped = 0

instance (id : RequestId) (ops : List Op) (p : Plugin) : Decidable (Uncrowded id ops p) :=
  inferInstanceAs (Decidable (∀ st ∈ steps ops p,
    ∀ box ∈ (st.before.step st.op).session.mailboxOf? id, box.dropped = 0))

theorem Course.run {ops : List Op} (h : Course job id t p) (sound : p.session.Sound)
    (alone : ∀ op ∈ ops, ¬ op.Intrudes id) (uncrowded : Uncrowded id ops p) :
    Course job id (t ++ steps ops p) (run ops p) := by
  induction ops generalizing t p with
  | nil => simpa [steps, Plugin.run] using h
  | cons op ops ih =>
    have next := h.step sound (alone op List.mem_cons_self) (uncrowded _ List.mem_cons_self)
    have rest := ih next ((step_leads op p).sound sound)
      (fun op' among => alone op' (List.mem_cons_of_mem op among))
      (fun st among => uncrowded st (List.mem_cons_of_mem _ among))
    simpa [steps, Plugin.run] using rest

/-! ## How a call begins -/

/-- How a request comes out that was made in the state `p`. -/
inductive Asked (id : RequestId) (h : Held) (p q : Plugin) : Except CallError Unit → Prop where
  | made (kind : Kind) (held : q.held.get? id = some h)
    (own : q.session.ticket? id = some (p.session.newTicket id kind)) : Asked id h p q (.ok ())
  | refused {e : CallError} (session : q.session = p.session) : Asked id h p q (.error e)

theorem request_asked (sound : p.session.Sound) (id : RequestId) (sessionId : Option String)
    (kind : Kind) (payload : Value) (h : Held) :
    Asked id h p (p.request id sessionId kind payload h).2
      (p.request id sessionId kind payload h).1 := by
  cases closed : p.session.status.isClosed with
  | true =>
    simp only [request, Session.send_of_closed closed]
    exact .refused rfl
  | false =>
    simp only [request, sound.toGoverned.send_of_open closed]
    refine .made kind (Keyed.get?_insert_self id h _) ?_
    exact (sound.register_ticket? id kind id).trans (if_pos rfl)

theorem requestTimed_asked (sound : p.session.Sound) (id : RequestId) (model : ModelName)
    (kind : Kind) (payload : Value) (h : Held) :
    Asked id h p (p.requestTimed id model kind payload h).2
      (p.requestTimed id model kind payload h).1 := by
  cases entered : p.timing.enter id model p.now with
  | error e =>
    simp only [requestTimed, entered]
    exact .refused rfl
  | ok timing =>
    have asked := request_asked (p := { p with timing := timing }) sound id
      ((p.models.get? model).getD none) kind payload h
    rcases answer : Plugin.request id ((p.models.get? model).getD none) kind payload h
      { p with timing := timing } with ⟨_ | _, q⟩ <;> rw [answer] at asked <;>
      simp only [requestTimed, entered, answer]
    · cases asked with
      | refused session => exact .refused session
    · cases asked with
      | made kind held own => exact .made kind held own

/-- A call that is not refused waits for its first reply. -/
theorem course_start (sound : p.session.Sound) (absent : Absent id p) (sessionId : Option String)
    (job : Job) :
    Course job id [⟨p, .start id sessionId job⟩] (p.step (.start id sessionId job)) := by
  have begun {result : Except CallError Unit × Plugin}
      (asked : Asked id (.running job) p result.2 result.1)
      (same : startResult id sessionId job p = result.1) :
      Course job id [⟨p, .start id sessionId job⟩]
        (match result.1 with
        | .ok () => result.2
        | .error e => result.2.hold id (.answered (.error e))) := by
    have came : first id [⟨p, .start id sessionId job⟩] = refused? result.1 := by
      simp [first, Step.brought?, same]
    rcases result with ⟨e | _, q⟩
    · have concluded : job.conclude id (.failed e) = some (.error e) := by cases job <;> rfl
      cases asked with
      | refused session =>
        refine .answered (Keyed.get?_insert_self id _ _) came concluded ?_
        exact (congrArg (Session.ticket? · id) session).trans absent.left
    · cases asked with
      | made kind held own => exact .running held own rfl rfl came.symm
  cases job with
  | first kind shape payload =>
    exact begun (request_asked sound id sessionId kind payload _) rfl
  | storage op => exact begun (request_asked sound id sessionId .storage op.payload _) rfl
  | completion model r => exact begun (requestTimed_asked sound id model .llm (r.payload false) _) rfl

/-- A call is on its course, whatever is done before it starts and after. -/
theorem course_run (settings : Settings) {before after : List Op} (sessionId : Option String)
    (job : Job) (alone : ∀ op ∈ before ++ after, ¬ op.Intrudes id)
    (uncrowded : Uncrowded id after ((run before (idle settings)).step (.start id sessionId job))) :
    Course job id (steps (.start id sessionId job :: after) (run before (idle settings)))
      (run (before ++ .start id sessionId job :: after) (idle settings)) := by
  have sound : (idle settings).session.Sound := Session.sound_start settings
  have absent : Absent id (run before (idle settings)) :=
    (absent_idle settings id).run sound fun op among => alone op (List.mem_append_left _ among)
  have started := course_start (run_sound before sound) absent sessionId job
  have later := started.run ((step_leads _ _).sound (run_sound before sound))
    (fun op among => alone op (List.mem_append_right _ among)) uncrowded
  simpa [steps, Plugin.run] using later

theorem Course.isOutstanding (h : Course job id t p) (sound : p.session.Sound)
    (held : p.held.get? id = some (.running job)) (nothing : first id t = none) :
    p.session.isOutstanding id = true := by
  cases h with
  | answered held' => cases held.symm.trans held'
  | gone absent => cases held.symm.trans absent.held
  | running _ own waits kept next =>
    obtain ⟨-, unresolved⟩ := Option.or_eq_none_iff.mp (next.trans nothing)
    refine sound.isOutstanding_iff.mpr ⟨_, own, Ticket.isOpen_iff.mpr ⟨waits, ?_⟩⟩
    exact Option.map_eq_none_iff.mp unresolved

/-- The reply that a frame is comes for a call that waits. -/
theorem brought?_of_response {m : Session.Move} {r : Response}
    (waits : p.session.isOutstanding id = true) (heard : Session.heard m p.session = .response r)
    (own : r.id = id) : Step.brought? id ⟨p, .session m⟩ = some r.reply.pulled := by
  simp [Step.brought?, Session.Step.brings?, Session.Step.reply?, heard, own, waits]

/-- A call that has not been answered yet is answered by the next poll, if something has come. -/
theorem Course.polled {got : Pulled Value} (h : Course job id t p) (sound : p.session.Sound)
    (held : p.held.get? id = some (.running job)) (came : first id t = some got) :
    ∃ answer, job.conclude id got = some answer ∧
      (p.step (.look id)).held.get? id = some (.answered answer) := by
  cases h with
  | answered held' => cases held.symm.trans held'
  | gone absent => cases held.symm.trans absent.held
  | running _ own waits kept next =>
    rw [came] at next
    rcases sound.recv_next? own waits kept with ⟨got', pulled, some, there⟩ | ⟨-, -, nothing⟩
    · rw [next] at there
      cases there
      obtain ⟨answer, concluded⟩ := conclude_isSome job id some
      refine ⟨answer, concluded, ?_⟩
      simp only [Plugin.step, perform, held, Plugin.look, pulled, concluded]
      exact Keyed.get?_insert_self id _ _
    · rw [next] at nothing
      cases nothing

/-- Once a call does not run any more, it is over. -/
theorem Course.over (h : Course job id t p) (sound : p.session.Sound)
    (ended : p.held.get? id ≠ some (.running job)) : Over id p := by
  cases h with
  | running held => exact absurd held ended
  | answered _ _ _ left => exact over_of_ticket? sound left
  | gone absent => exact over_of_ticket? sound absent.left

end Plugin

end Backchannel
