/-
# Backchannel.Proofs.Session.Contest.Steps -- operations and callers, step by step

What one step of a contest can be, and what it makes of one mailbox: a `Deed`, which is read
off the step alone (`mailbox_step`).  Entries only go and closed mailboxes only stay closed,
whoever moves (`Session.Later`).

Steps that no one comes between make up what is told at once elsewhere: an operation that moves
alone does what `Session.route` does (`route_alone`), or `fail`, `sweep` and `failAll`
(`sweep_alone` and its like), and a caller that moves alone pulls as `Session.recv` does
(`recv_alone`).
-/
import Backchannel.Session.Contest
import Backchannel.Proofs.Session.Turn

namespace Backchannel

set_option autoImplicit false

open Backchannel.Json (Value)

variable {s s' : Session} {o : Contest} {id : RequestId} {ref : MailboxRef} {w : Worker}

/-! ## Mailboxes -/

theorem Mailbox.take_closure (box : Mailbox) (closed : box.closure.isSome = true) :
    box.take.2.closure.isSome = true := by
  rcases box.take_cases with ⟨-, take⟩ | ⟨-, v, rest, -, take⟩ | ⟨-, -, c, -, take⟩ |
    ⟨-, -, -, take⟩ <;> rw [take]
  · rfl
  · exact closed
  · exact closed
  · exact closed

namespace Session

/-- How a mailbox is closed, if it is. -/
def closure? (s : Session) (ref : MailboxRef) : Option Closure :=
  (s.mailboxes[ref]?).bind Mailbox.closure

theorem onMailbox_get? (ref : MailboxRef) (f : Mailbox → Mailbox) (s : Session)
    (other : MailboxRef) :
    (s.onMailbox ref f).mailboxes[other]? =
      if ref = other then (s.mailboxes[other]?).map f else s.mailboxes[other]? := by
  simp only [onMailbox, List.getElem?_modify]
  split
  · rfl
  · simp

theorem removeEntry_get? (id : RequestId) (s : Session) (other : RequestId) :
    (s.removeEntry id).table.get? other = if id = other then none else s.table.get? other := by
  simp [removeEntry, Keyed.get?_erase]

/-- What may become of a session while no request is made: entries go, mailboxes are closed,
callers are told their end or let go. -/
structure Later (s s' : Session) : Prop where
  entry : ∀ id e, s'.table.get? id = some e → s.table.get? id = some e
  closed : ∀ ref, (s.closure? ref).isSome → (s'.closure? ref).isSome
  held : ∀ id sub, s'.subscriptions.get? id = some sub → ∃ before,
    s.subscriptions.get? id = some before ∧ (sub = before ∨ sub = { before with done := true })

theorem Later.refl (s : Session) : Later s s where
  entry := fun _ _ found => found
  closed := fun _ isSome => isSome
  held := fun _ sub found => ⟨sub, found, .inl rfl⟩

theorem Later.trans {s'' : Session} (h : Later s s') (next : Later s' s'') : Later s s'' where
  entry := fun id e found => h.entry id e (next.entry id e found)
  closed := fun ref isSome => next.closed ref (h.closed ref isSome)
  held := by
    intro id sub found
    obtain ⟨sub', found', same | done⟩ := next.held id sub found
    · exact same ▸ h.held id sub' found'
    · obtain ⟨before, found, same' | done'⟩ := h.held id sub' found'
      · exact ⟨before, found, .inr (same' ▸ done)⟩
      · exact ⟨before, found, .inr (by rw [done, done'])⟩

theorem Later.absent (h : Later s s') (gone : s.table.get? id = none) :
    s'.table.get? id = none := by
  cases found : s'.table.get? id with
  | none => rfl
  | some e =>
    rw [h.entry id e found] at gone
    cases gone

theorem later_removeEntry (id : RequestId) (s : Session) : Later s (s.removeEntry id) where
  entry := by
    intro other e found
    rw [removeEntry_get?] at found
    split at found
    · cases found
    · exact found
  closed := fun _ isSome => isSome
  held := fun _ sub found => ⟨sub, found, .inl rfl⟩

/-- A change to a mailbox that leaves it closed if it was. -/
theorem later_onMailbox (ref : MailboxRef) {f : Mailbox → Mailbox}
    (stays : ∀ box : Mailbox, box.closure.isSome → (f box).closure.isSome) (s : Session) :
    Later s (s.onMailbox ref f) where
  entry := fun _ _ found => found
  closed := by
    intro other isSome
    rw [closure?, onMailbox_get?]
    rw [closure?] at isSome
    cases box : s.mailboxes[other]? with
    | none =>
      rw [box] at isSome
      cases isSome
    | some box' =>
      rw [box] at isSome
      split
      · exact stays box' isSome
      · exact isSome
  held := fun _ sub found => ⟨sub, found, .inl rfl⟩

/-- A caller looks into its mailbox. -/
theorem later_look {t : Ticket} (held : s.ticket? id = some t) :
    Later s (s.onMailbox t.sub.mailbox fun _ => t.box.take.2) where
  entry := fun _ _ found => found
  closed := by
    intro ref isSome
    rw [closure?, onMailbox_get?]
    split
    · rename_i same
      subst same
      rw [closure?, (ticket?_eq_some.mp held).2] at isSome
      rw [(ticket?_eq_some.mp held).2]
      exact t.box.take_closure isSome
    · exact isSome
  held := fun _ sub found => ⟨sub, found, .inl rfl⟩

theorem later_conclude (id : RequestId) (s : Session) : Later s (s.conclude id) where
  entry := (later_removeEntry id s).entry
  closed := fun _ isSome => isSome
  held := by
    intro other sub found
    simp only [conclude, Keyed.get?_modify] at found
    split at found
    · obtain ⟨before, present, rfl⟩ := Option.map_eq_some_iff.mp found
      exact ⟨before, present, .inr rfl⟩
    · exact ⟨sub, found, .inl rfl⟩

theorem later_drop (id : RequestId) (s : Session) : Later s (s.drop id) where
  entry := (later_removeEntry id s).entry
  closed := fun _ isSome => isSome
  held := by
    intro other sub found
    simp only [drop, Keyed.get?_erase] at found
    split at found
    · cases found
    · exact ⟨sub, found, .inl rfl⟩

end Session

/-! ## Deeds -/

/-- What is done to a mailbox. -/
inductive Deed where
  | nothing
  | push (v : Value)
  | close (c : Closure)
  /-- Its caller looks into it. -/
  | take

namespace Deed

def apply : Deed → Mailbox → Mailbox
  | .nothing, box => box
  | .push v, box => box.push v
  | .close c, box => box.close c
  | .take, box => box.take.2

/-- How the mailbox is to be closed. -/
def offer? : Deed → Option Closure
  | .close c => some c
  | _ => none

/-- The item that is to go into the mailbox. -/
def push? : Deed → Option Value
  | .push v => some v
  | _ => none

/-- What a reply does to the mailbox of its request. -/
def ofReply : Reply → Deed
  | .item v => .push v
  | .finish => .close .finished
  | .failed message => .close (.failed (.application message))

end Deed

/-! ## One operation -/

namespace Worker

/-- What the next step of an operation does to a mailbox. -/
def deed (ref : MailboxRef) (w : Worker) : Deed :=
  match w.phase with
  | .handing other r => if other = ref then .ofReply r.reply else .nothing
  | .telling other c _ _ => if other = ref then .close c else .nothing
  | _ => .nothing

/-- All that an operation does in one step. -/
inductive Advances (w : Worker) (s : Session) : Phase → Session → Prop where
  | finds {r : Response} {e : Entry} (phase : w.phase = .looking r)
    (found : s.table.get? r.id = some e) : Advances w s (.handing e.mailbox r) s
  | misses {r : Response} (phase : w.phase = .looking r) (absent : s.table.get? r.id = none) :
    Advances w s .finished s
  | puts {ref : MailboxRef} {r : Response} {v : Value} (phase : w.phase = .handing ref r)
    (item : r.reply = .item v) : Advances w s .finished (s.onMailbox ref (.push v))
  | closes {ref : MailboxRef} {r : Response} {c : Closure} (phase : w.phase = .handing ref r)
    (last : Deed.ofReply r.reply = .close c) :
    Advances w s (.clearing r.id) (s.onMailbox ref (.close c))
  | clears {id : RequestId} (phase : w.phase = .clearing id) :
    Advances w s .finished (s.removeEntry id)
  | starts {why : Grounds} (owed : List RequestId) (phase : w.phase = .starting why) :
    Advances w s (.gathering why owed) s
  | gathers {why : Grounds} {owed : List RequestId} (phase : w.phase = .gathering why owed) :
    Advances w s (.gathering why owed) s
  | gathered {why : Grounds} {owed : List RequestId} (phase : w.phase = .gathering why owed) :
    Advances w s (.taking why w.collected) s
  | ends {why : Grounds} (phase : w.phase = .taking why []) : Advances w s .finished s
  | takes {why : Grounds} {id : RequestId} {left : List RequestId} {e : Entry}
    (phase : w.phase = .taking why (id :: left)) (found : s.table.get? id = some e)
    (covered : why.covers e = true) :
    Advances w s (.telling e.mailbox (why.closure id e) why left) (s.removeEntry id)
  | passes {why : Grounds} {id : RequestId} {left : List RequestId}
    (phase : w.phase = .taking why (id :: left))
    (none : ∀ e, s.table.get? id = some e → why.covers e = false) :
    Advances w s (.taking why left) s
  | tells {ref : MailboxRef} {c : Closure} {why : Grounds} {left : List RequestId}
    (phase : w.phase = .telling ref c why left) :
    Advances w s (.taking why left) (s.onMailbox ref (.close c))
  | rests (phase : w.phase = .finished) : Advances w s .finished s

theorem advances (w : Worker) (s : Session) : Advances w s (w.advance s).1 (w.advance s).2 := by
  unfold advance
  split
  · rename_i r phase
    cases found : s.table.get? r.id with
    | some e => exact .finds phase found
    | none => exact .misses phase found
  · rename_i ref r phase
    split
    · rename_i v item
      exact .puts phase item
    · rename_i last
      exact .closes phase (by rw [last]; rfl)
    · rename_i message last
      exact .closes phase (by rw [last]; rfl)
  · rename_i id phase
    exact .clears phase
  · rename_i why phase
    exact .starts _ phase
  · rename_i why owed phase
    split
    · exact .gathered phase
    · exact .gathers phase
  · rename_i why phase
    exact .ends phase
  · rename_i why id left phase
    split
    · rename_i e found
      obtain ⟨found, covered⟩ := Option.filter_eq_some_iff.mp found
      exact .takes phase found covered
    · rename_i none
      refine .passes phase fun e found => ?_
      rw [found, Option.filter_some] at none
      split at none
      · cases none
      · exact Bool.eq_false_iff.mpr (by assumption)
  · rename_i ref c why left phase
    exact .tells phase
  · rename_i phase
    exact .rests phase

theorem advance_later (w : Worker) (s : Session) : s.Later (w.advance s).2 := by
  have advances := w.advances s
  generalize (w.advance s).1 = phase, (w.advance s).2 = after at advances
  cases advances with
  | puts => exact s.later_onMailbox _ (fun box closed => by simpa using closed)
  | closes | tells => exact s.later_onMailbox _ (fun box _ => by simp)
  | clears | takes => exact Session.later_removeEntry _ s
  | _ => exact .refl s

theorem advance_mailbox (w : Worker) (s : Session) (ref : MailboxRef) :
    (w.advance s).2.mailboxes[ref]? = (s.mailboxes[ref]?).map (w.deed ref).apply := by
  have advances := w.advances s
  generalize (w.advance s).1 = phase, (w.advance s).2 = after at advances
  have other (idle : w.deed ref = .nothing) :
      s.mailboxes[ref]? = (s.mailboxes[ref]?).map (w.deed ref).apply := by
    rw [idle]
    exact Option.map_id_fun.symm ▸ rfl
  have told {own : MailboxRef} (given : Deed)
      (deed : w.deed ref = if own = ref then given else .nothing) :
      (s.onMailbox own given.apply).mailboxes[ref]? =
        (s.mailboxes[ref]?).map (w.deed ref).apply := by
    rw [Session.onMailbox_get?]
    split
    · rename_i same
      rw [deed, if_pos same]
    · rename_i apart
      exact other (by rw [deed, if_neg apart])
  cases advances with
  | puts phase item => exact told (.push _) (by simp [deed, phase, item, Deed.ofReply])
  | closes phase last => exact told (.close _) (by simp [deed, phase, last])
  | tells phase => exact told (.close _) (by simp [deed, phase])
  | clears phase | takes phase => exact other (by simp [deed, phase])
  | finds phase | misses phase | starts _ phase | gathers phase | gathered phase | ends phase
  | passes phase | rests phase => exact other (by simp [deed, phase])

theorem advance_subscriptions (w : Worker) (s : Session) :
    (w.advance s).2.subscriptions = s.subscriptions := by
  have advances := w.advances s
  generalize (w.advance s).1 = phase, (w.advance s).2 = after at advances
  cases advances <;> rfl

end Worker

/-! ## One caller -/

namespace Pull

variable {p : Pull}

/-- All that a caller does in one step of its pull. -/
inductive Advances (id : RequestId) (p : Pull) (s : Session) :
    Option (Pulled Value) → Pull → Session → Prop where
  | nobody (absent : s.ticket? id = none) : Advances id p s none p s
  | finished {t : Ticket} (phase : p = .resting) (held : s.ticket? id = some t)
    (done : t.sub.done = true) : Advances id p s (some .finished) .resting s
  | item {t : Ticket} {v : Value} {rest : List Value} (phase : p = .resting)
    (held : s.ticket? id = some t) (waits : t.sub.done = false) (kept : t.box.dropped = 0)
    (items : t.box.items = v :: rest) :
    Advances id p s (some (.item v)) .resting (s.onMailbox t.sub.mailbox fun _ => t.box.take.2)
  | lags {t : Ticket} (phase : p = .resting) (held : s.ticket? id = some t)
    (waits : t.sub.done = false) (lost : 0 < t.box.dropped) :
    Advances id p s none (.leaving (.failed (.lagged t.box.id t.box.dropped)))
      (s.onMailbox t.sub.mailbox fun _ => t.box.take.2)
  | told {t : Ticket} {c : Closure} (phase : p = .resting) (held : s.ticket? id = some t)
    (waits : t.sub.done = false) (kept : t.box.dropped = 0) (items : t.box.items = [])
    (closed : t.box.closure = some c) :
    Advances id p s none (.leaving c.pulled) (s.onMailbox t.sub.mailbox fun _ => t.box.take.2)
  | empty {t : Ticket} (phase : p = .resting) (held : s.ticket? id = some t)
    (waits : t.sub.done = false) (kept : t.box.dropped = 0) (items : t.box.items = [])
    (opened : t.box.closure = none) :
    Advances id p s none .waiting (s.onMailbox t.sub.mailbox fun _ => t.box.take.2)
  | late {t : Ticket} (phase : p = .waiting) (held : s.ticket? id = some t)
    (late : t.sub.deadline ≤ s.now) :
    Advances id p s none (.leaving (.failed (.timeout id t.sub.timeout))) s
  | early {t : Ticket} (phase : p = .waiting) (held : s.ticket? id = some t) :
    Advances id p s (some .pending) .resting s
  | leaves {t : Ticket} {got : Pulled Value} (phase : p = .leaving got)
    (held : s.ticket? id = some t) : Advances id p s (some got) .resting (s.conclude id)

theorem advances (id : RequestId) (p : Pull) (s : Session) :
    Advances id p s (p.advance id s).1 (p.advance id s).2.1 (p.advance id s).2.2 := by
  unfold advance
  cases found : s.subscriptions.get? id with
  | none => exact .nobody (by simp [Session.ticket?, found])
  | some sub =>
    cases stored : s.mailboxes[sub.mailbox]? with
    | none =>
      simp only [Session.mailboxOf?, found, Option.bind_some, stored]
      exact .nobody (by simp [Session.ticket?, found, stored])
    | some box =>
      have held : s.ticket? id = some ⟨sub, box⟩ := Session.ticket?_eq_some.mpr ⟨found, stored⟩
      simp only [Session.mailboxOf?, found, Option.bind_some, stored]
      cases p with
      | waiting =>
        simp only
        split
        · rename_i late
          exact .late rfl held late
        · exact .early rfl held
      | leaving got => exact .leaves rfl held
      | resting =>
        simp only
        cases done : sub.done with
        | true => exact .finished rfl held done
        | false =>
          rcases box.take_cases with ⟨lost, take⟩ | ⟨kept, v, rest, items, take⟩ |
            ⟨kept, items, c, closed, take⟩ | ⟨kept, items, opened, take⟩
          · have lags := Advances.lags (p := .resting) rfl held done lost
            simpa [take] using lags
          · have item := Advances.item (p := .resting) rfl held done kept items
            simpa [take] using item
          · have told := Advances.told (p := .resting) rfl held done kept items closed
            cases c <;> simpa [take, Closure.pulled] using told
          · have empty := Advances.empty (p := .resting) rfl held done kept items opened
            simpa [take] using empty

/-- What the next step of a pull does to a mailbox. -/
def deed (ref : MailboxRef) (id : RequestId) (p : Pull) (s : Session) : Deed :=
  match p, s.ticket? id with
  | .resting, some t =>
    if t.sub.done = false ∧ t.sub.mailbox = ref then .take else .nothing
  | _, _ => .nothing

theorem advance_later (id : RequestId) (p : Pull) (s : Session) :
    s.Later (p.advance id s).2.2 := by
  have advances := p.advances id s
  generalize (p.advance id s).1 = got, (p.advance id s).2.1 = after,
    (p.advance id s).2.2 = s' at advances
  cases advances with
  | item _ held | lags _ held | told _ held | empty _ held => exact Session.later_look held
  | leaves => exact Session.later_conclude id s
  | nobody | finished | late | early => exact .refl s

theorem advance_mailbox (id : RequestId) (p : Pull) (s : Session) (ref : MailboxRef) :
    (p.advance id s).2.2.mailboxes[ref]? =
      (s.mailboxes[ref]?).map (p.deed ref id s).apply := by
  have advances := p.advances id s
  generalize (p.advance id s).1 = got, (p.advance id s).2.1 = after,
    (p.advance id s).2.2 = s' at advances
  have other (idle : p.deed ref id s = .nothing) :
      s.mailboxes[ref]? = (s.mailboxes[ref]?).map (p.deed ref id s).apply := by
    rw [idle]
    exact Option.map_id_fun.symm ▸ rfl
  have looks {t : Ticket} (phase : p = .resting) (held : s.ticket? id = some t)
      (waits : t.sub.done = false) :
      (s.onMailbox t.sub.mailbox fun _ => t.box.take.2).mailboxes[ref]? =
        (s.mailboxes[ref]?).map (p.deed ref id s).apply := by
    rw [Session.onMailbox_get?]
    split
    · rename_i same
      subst same
      rw [(Session.ticket?_eq_some.mp held).2]
      simp [deed, phase, held, waits, Deed.apply]
    · rename_i apart
      exact other (by simp [deed, phase, held, apart])
  cases advances with
  | item phase held waits | lags phase held waits | told phase held waits
  | empty phase held waits => exact looks phase held waits
  | nobody absent =>
    refine other ?_
    cases p <;> simp [deed, absent]
  | finished phase held done => exact other (by simp [deed, phase, held, done])
  | late phase | early phase | leaves phase => exact other (by simp [deed, phase])

end Pull

/-! ## All of them -/

namespace Contest

open Session (Later)

variable {a : Act} {acts : List Act} {n : Nat}

@[simp] theorem run_cons (a : Act) (acts : List Act) (o : Contest) :
    run (a :: acts) o = run acts (o.step a) := rfl

theorem run_append (acts more : List Act) (o : Contest) :
    run (acts ++ more) o = run more (run acts o) :=
  List.foldl_append

/-- An act and the contest that it finds. -/
structure Step where
  before : Contest
  act : Act

def Step.after (st : Step) : Contest := st.before.step st.act

/-- A run, step by step. -/
def steps : List Act → Contest → List Step
  | [], _ => []
  | a :: acts, o => ⟨o, a⟩ :: steps acts (o.step a)

/-- What a step brings to the caller of a request, if it is the last of a pull. -/
def Step.answer? (id : RequestId) (st : Step) : Option (Pulled Value) :=
  if st.act = .pull id then (st.before.perform st.act).1 else none

def answers (id : RequestId) (t : List Step) : List (Pulled Value) :=
  t.filterMap (Step.answer? id)

/-- What a step does to a mailbox. -/
def deed (ref : MailboxRef) (o : Contest) (a : Act) : Deed :=
  match a with
  | .work n => (o.workers[n]?.map (Worker.deed ref)).getD .nothing
  | .pull id => (o.pulls id).deed ref id o.session
  | .find _ _ | .drop _ | .pass _ => .nothing

/-- The contest when an operation has come so far, and has made that of the session. -/
def worked (n : Nat) (w : Worker) (s : Session) (o : Contest) : Contest :=
  ⟨s, o.workers.set n w, o.pulls⟩

theorem worked_get? {before : Worker} (found : o.workers[n]? = some before) (w : Worker)
    (s : Session) : (o.worked n w s).workers[n]? = some w := by
  obtain ⟨bound, -⟩ := List.getElem?_eq_some_iff.mp found
  simp [worked, bound]

@[simp] theorem worked_worked (n : Nat) (w w' : Worker) (s s' : Session) (o : Contest) :
    (o.worked n w s).worked n w' s' = o.worked n w' s' := by
  simp [worked]

theorem worked_self (found : o.workers[n]? = some w) : o.worked n w o.session = o := by
  obtain ⟨bound, rfl⟩ := List.getElem?_eq_some_iff.mp found
  simp [worked]

/-- The contest after a step of an operation. -/
theorem step_work (found : o.workers[n]? = some w) :
    o.step (.work n) =
      o.worked n { w with phase := (w.advance o.session).1 } (w.advance o.session).2 := by
  simp [step, perform, found, worked]

theorem step_find (found : o.workers[n]? = some w) (id : RequestId) :
    o.step (.find n id) = o.worked n (w.find id o.session) o.session := by
  simp [step, perform, found, worked]

/-- The contest when the caller of a request has come so far, and has made that of the session. -/
def pulled (id : RequestId) (p : Pull) (s : Session) (o : Contest) : Contest :=
  ⟨s, o.workers, fun other => if other = id then p else o.pulls other⟩

@[simp] theorem pulled_pulls (id : RequestId) (p : Pull) (s : Session) (o : Contest) :
    (o.pulled id p s).pulls id = p := if_pos rfl

@[simp] theorem pulled_pulled (id : RequestId) (p p' : Pull) (s s' : Session) (o : Contest) :
    (o.pulled id p s).pulled id p' s' = o.pulled id p' s' := by
  simp only [pulled, Contest.mk.injEq, true_and]
  funext other
  split <;> rfl

theorem pulled_self {p : Pull} (same : o.pulls id = p) (s : Session) :
    o.pulled id p s = { o with session := s } := by
  simp only [pulled, Contest.mk.injEq, true_and]
  funext other
  split
  · rename_i own
    rw [own, same]
  · rfl

/-- The contest after a step of the caller of a request. -/
theorem step_pull (o : Contest) (id : RequestId) :
    o.step (.pull id) = o.pulled id ((o.pulls id).advance id o.session).2.1
      ((o.pulls id).advance id o.session).2.2 := rfl

theorem step_drop (resting : o.pulls id = .resting) :
    o.step (.drop id) = { o with session := o.session.drop id } := by
  simp [step, perform, resting]

theorem step_drop_of_pulling (pulling : o.pulls id ≠ .resting) : o.step (.drop id) = o := by
  cases phase : o.pulls id with
  | resting => exact absurd phase pulling
  | _ => simp [step, perform, phase]

/-- Whoever moves, entries only go and closed mailboxes stay closed. -/
theorem later_step (o : Contest) (a : Act) : o.session.Later (o.step a).session := by
  cases a with
  | work n =>
    cases found : o.workers[n]? with
    | none => simpa [step, perform, found] using Later.refl o.session
    | some w =>
      rw [step_work found]
      exact w.advance_later o.session
  | find n id =>
    cases found : o.workers[n]? with
    | none => simpa [step, perform, found] using Later.refl o.session
    | some w =>
      rw [step_find found]
      exact .refl o.session
  | pull id => exact (o.pulls id).advance_later id o.session
  | drop id =>
    by_cases resting : o.pulls id = .resting
    · rw [step_drop resting]
      exact Session.later_drop id o.session
    · rw [step_drop_of_pulling resting]
      exact .refl o.session
  | pass span => exact ⟨fun _ _ found => found, fun _ isSome => isSome,
      fun _ sub found => ⟨sub, found, .inl rfl⟩⟩

theorem later_run (acts : List Act) (o : Contest) : o.session.Later (run acts o).session := by
  induction acts generalizing o with
  | nil => exact .refl o.session
  | cons a acts ih => exact (o.later_step a).trans (ih (o.step a))

/-- What becomes of a mailbox is told by the deeds alone. -/
theorem mailbox_step (o : Contest) (a : Act) (ref : MailboxRef) :
    (o.step a).session.mailboxes[ref]? =
      (o.session.mailboxes[ref]?).map (o.deed ref a).apply := by
  have idle : o.session.mailboxes[ref]? = (o.session.mailboxes[ref]?).map Deed.nothing.apply :=
    Option.map_id_fun.symm ▸ rfl
  cases a with
  | work n =>
    cases found : o.workers[n]? with
    | none => simpa [step, perform, deed, found] using idle
    | some w =>
      rw [step_work found, deed, found]
      exact w.advance_mailbox o.session ref
  | find n id =>
    cases found : o.workers[n]? with
    | none => simpa [step, perform, deed, found] using idle
    | some w =>
      rw [step_find found]
      exact idle
  | pull id => exact (o.pulls id).advance_mailbox id o.session ref
  | drop id =>
    by_cases resting : o.pulls id = .resting
    · rw [step_drop resting]
      exact idle
    · rw [step_drop_of_pulling resting]
      exact idle
  | pass span => exact idle

/-! ## One at a time -/

/-- An operation after some steps of its own, and what it has made of the session. -/
def alone (k : Nat) (w : Worker) (s : Session) : Worker × Session :=
  match k with
  | 0 => (w, s)
  | k + 1 => alone k { w with phase := (w.advance s).1 } (w.advance s).2

theorem alone_succ (k : Nat) (w : Worker) (s : Session) :
    alone (k + 1) w s = alone k { w with phase := (w.advance s).1 } (w.advance s).2 := rfl

theorem run_work (found : o.workers[n]? = some w) (k : Nat) :
    run (List.replicate k (.work n)) o =
      o.worked n (alone k w o.session).1 (alone k w o.session).2 := by
  induction k generalizing o w with
  | zero => exact (worked_self found).symm
  | succ k ih =>
    rw [List.replicate_succ, run_cons, step_work found, ih (worked_get? found _ _), worked_worked]
    rfl

/-- Whoever routes a response alone does so at once. -/
theorem route_alone {r : Response} (found : o.workers[n]? = some w) (phase : w.phase = .looking r) :
    run (List.replicate 3 (.work n)) o =
      o.worked n { w with phase := .finished } (o.session.route r).2 := by
  have same : alone 3 w o.session = ({ w with phase := .finished }, (o.session.route r).2) := by
    cases entry : o.session.table.get? r.id with
    | none => simp [alone, Worker.advance, phase, entry, Session.route]
    | some e =>
      cases reply : r.reply <;> simp [alone, Worker.advance, phase, entry, reply, Session.route]
  rw [run_work found, same]

/-- Takes the entry of a request and tells its caller, if there are grounds to. -/
def take (why : Grounds) (s : Session) (id : RequestId) : Session :=
  match (s.table.get? id).filter why.covers with
  | some e => (s.removeEntry id).onMailbox e.mailbox (.close (why.closure id e))
  | none => s

theorem alone_taking (why : Grounds) (left : List RequestId) (phase : w.phase = .taking why left)
    (s : Session) : ∃ k, alone k w s = ({ w with phase := .finished }, left.foldl (take why) s) := by
  induction left generalizing w s with
  | nil => exact ⟨1, by simp [alone, Worker.advance, phase]⟩
  | cons id left ih =>
    cases entry : (s.table.get? id).filter why.covers with
    | none =>
      obtain ⟨k, last⟩ := ih (w := { w with phase := .taking why left }) rfl s
      refine ⟨k + 1, ?_⟩
      simp [alone_succ, Worker.advance, phase, entry, last, take]
    | some e =>
      obtain ⟨k, last⟩ := ih (w := { w with phase := .taking why left }) rfl (take why s id)
      refine ⟨k + 2, ?_⟩
      simp only [take, entry] at last
      simp [alone_succ, Worker.advance, phase, entry, last, take]

theorem take_failure (e : CallError) (s : Session) (id : RequestId) :
    take (.failure e) s id = s.fail id e := by
  cases entry : s.table.get? id with
  | none => simp [take, Session.fail, entry]
  | some found => simp [take, Session.fail, entry, Grounds.covers, Grounds.closure, Option.filter]

/-- Whoever fails a request alone does so at once. -/
theorem fail_alone {e : CallError} (found : o.workers[n]? = some w)
    (phase : w.phase = .taking (.failure e) [id]) :
    ∃ acts, run acts o = o.worked n { w with phase := .finished } (o.session.fail id e) := by
  obtain ⟨k, last⟩ := alone_taking (.failure e) [id] phase o.session
  refine ⟨List.replicate k (.work n), ?_⟩
  rw [run_work found, last, List.foldl_cons, List.foldl_nil, take_failure]

/-- Of the entries in a table it comes upon those that are to be taken. -/
theorem run_find (found : o.workers[n]? = some w) {why : Grounds} {owed : List RequestId}
    (phase : w.phase = .gathering why owed) (ids : List RequestId)
    (covered : ∀ id ∈ ids, ((o.session.table.get? id).filter why.covers).isSome) :
    run (ids.map (.find n)) o =
      o.worked n { w with collected := w.collected ++ ids } o.session := by
  induction ids generalizing o w with
  | nil => simpa [run] using (worked_self found).symm
  | cons id ids ih =>
    have first : w.find id o.session = { w with collected := w.collected ++ [id] } := by
      simp [Worker.find, phase, covered id]
    have rest := ih (worked_get? found { w with collected := w.collected ++ [id] } o.session) phase
      fun other listed => covered other (by simp [listed])
    rw [List.map_cons, run_cons, step_find found, first, rest, worked_worked]
    simp [worked]

/-- Whoever goes through the table alone takes all entries that are to be taken. -/
theorem gather_alone (found : o.workers[n]? = some w) {why : Grounds}
    (phase : w.phase = .starting why) (none : w.collected = [])
    (nodup : o.session.table.keys.Nodup) :
    let ids := Keyed.keys (o.session.table.filter fun e => why.covers e.2)
    ∃ acts, run acts o = o.worked n { w with phase := .finished, collected := ids }
      (ids.foldl (take why) o.session) := by
  intro ids
  have covered : ∀ id ∈ ids, ((o.session.table.get? id).filter why.covers).isSome := by
    intro id listed
    rw [Keyed.mem_keys_iff, Keyed.get?_filter nodup] at listed
    exact listed
  let gathering : Worker := { w with phase := .gathering why ids }
  let gathered : Worker := { gathering with collected := ids }
  let taking : Worker := { gathered with phase := .taking why ids }
  obtain ⟨k, last⟩ := alone_taking (w := taking) why ids rfl o.session
  have starts : o.step (.work n) = o.worked n gathering o.session := by
    rw [step_work found, Worker.advance, phase]
  have finds : run (ids.map (.find n)) (o.worked n gathering o.session) =
      o.worked n gathered o.session := by
    rw [run_find (worked_get? found gathering o.session) rfl ids covered, worked_worked]
    simp [worked, gathering, gathered, none]
  have ends : (o.worked n gathered o.session).step (.work n) = o.worked n taking o.session := by
    have all : (ids.all fun id => ids.contains id || !o.session.isOutstanding id) = true := by
      rw [List.all_eq_true]
      intro id listed
      simp [listed]
    have took : gathered.advance o.session = (.taking why ids, o.session) := if_pos all
    rw [step_work (worked_get? found _ _), worked_worked]
    exact congrArg (fun p => o.worked n { gathered with phase := p.1 } p.2) took
  refine ⟨.work n :: (ids.map (.find n) ++ .work n :: List.replicate k (.work n)), ?_⟩
  rw [run_cons, starts, run_append, finds, run_cons, ends,
    run_work (worked_get? found taking o.session), worked_worked]
  exact congrArg (fun p => o.worked n p.1 p.2) last

/-- Whoever fails all requests alone does so at once. -/
theorem failAll_alone {e : CallError} (found : o.workers[n]? = some (.begin (.failAll e)))
    (nodup : o.session.table.keys.Nodup) :
    ∃ acts, run acts o = o.worked n ⟨.failAll e, .finished, o.session.table.keys⟩
      (o.session.failAll e) := by
  have all : (o.session.table.filter fun x => (Grounds.failure e.duplicate).covers x.2) =
      o.session.table := List.filter_eq_self.mpr fun _ _ => rfl
  have same : o.session.failAll e =
      o.session.table.keys.foldl (take (.failure e.duplicate)) o.session := by
    rw [Session.failAll]
    congr
    funext s id
    exact (take_failure e.duplicate s id).symm
  obtain ⟨acts, last⟩ := gather_alone found rfl rfl nodup
  rw [all] at last
  exact ⟨acts, same ▸ last⟩

theorem take_expired (s : Session) (id : RequestId) :
    take (.expired s.now) s id = (s.expire id).2 := by
  have grounds : (Grounds.expired s.now).covers = fun e => decide (e.deadline ≤ s.now) := rfl
  rw [take, Session.expire, grounds]
  cases entry : (s.table.get? id).filter fun e => e.deadline ≤ s.now with
  | none => rfl
  | some e =>
    obtain ⟨found, -⟩ := Option.filter_eq_some_iff.mp entry
    simp only [Session.fail, found, Grounds.closure]

/-- To take entries one by one because they are expired is to sweep. -/
theorem foldl_take (ids : List RequestId) (swept : Nat) (s : Session) :
    ids.foldl (take (.expired s.now)) s =
      (ids.foldl (fun swept id => (swept.1 + (swept.2.expire id).1.toNat, (swept.2.expire id).2))
        (swept, s)).2 := by
  induction ids generalizing s swept with
  | nil => rfl
  | cons id ids ih =>
    rw [List.foldl_cons, List.foldl_cons, take_expired, ← ih, Session.expire_now]

/-- Whoever sweeps alone does so at once. -/
theorem sweep_alone (found : o.workers[n]? = some (.begin (.sweep o.session.now)))
    (nodup : o.session.table.keys.Nodup) :
    ∃ acts, run acts o = o.worked n ⟨.sweep o.session.now, .finished, Keyed.keys o.session.expired⟩
      o.session.sweep := by
  obtain ⟨acts, last⟩ := gather_alone found rfl rfl nodup
  have swept : o.session.sweep =
      (Keyed.keys o.session.expired).foldl (take (.expired o.session.now)) o.session :=
    (foldl_take _ 0 _).symm
  rw [swept]
  exact ⟨acts, last⟩

/-- What some steps of a caller bring, how far it is then, and what it has made of the
session. -/
def aloneCaller (id : RequestId) (k : Nat) (p : Pull) (s : Session) :
    List (Pulled Value) × Pull × Session :=
  match k with
  | 0 => ([], p, s)
  | k + 1 =>
    let (got, p, s) := p.advance id s
    let (rest, p, s) := aloneCaller id k p s
    (got.toList ++ rest, p, s)

theorem run_pull (k : Nat) (o : Contest) (id : RequestId) :
    run (List.replicate k (.pull id)) o =
        o.pulled id (aloneCaller id k (o.pulls id) o.session).2.1
          (aloneCaller id k (o.pulls id) o.session).2.2 ∧
      answers id (steps (List.replicate k (.pull id)) o) =
        (aloneCaller id k (o.pulls id) o.session).1 := by
  induction k generalizing o with
  | zero => exact ⟨(pulled_self rfl _).symm, rfl⟩
  | succ k ih =>
    obtain ⟨last, brought⟩ := ih (o.step (.pull id))
    have first : answers id (steps (List.replicate (k + 1) (.pull id)) o) =
        ((o.pulls id).advance id o.session).1.toList ++
          answers id (steps (List.replicate k (.pull id)) (o.step (.pull id))) := by
      have own : Step.answer? id ⟨o, .pull id⟩ = ((o.pulls id).advance id o.session).1 := by
        simp [Step.answer?, perform]
      rw [List.replicate_succ, steps, answers, List.filterMap_cons, own]
      cases ((o.pulls id).advance id o.session).1 <;> rfl
    rw [List.replicate_succ, run_cons, last, ← List.replicate_succ, first, brought, step_pull]
    simp only [pulled_pulls, pulled_pulled]
    exact ⟨rfl, rfl⟩

/-- A caller whose steps no one comes between pulls as `Session.recv` does. -/
theorem recv_alone {t : Ticket} (resting : o.pulls id = .resting)
    (held : o.session.ticket? id = some t) :
    ∃ k, run (List.replicate k (.pull id)) o = { o with session := (o.session.recv id).2 } ∧
      answers id (steps (List.replicate k (.pull id)) o) = [(o.session.recv id).1] := by
  obtain ⟨sub, box⟩ := t
  obtain ⟨found, stored⟩ := Session.ticket?_eq_some.mp held
  have mailbox : o.session.mailboxOf? id = some box := by
    simp [Session.mailboxOf?, found, stored]
  have enough (k : Nat) (got : Pulled Value) (s : Session)
      (alone : aloneCaller id k .resting o.session = ([got], .resting, s))
      (recv : o.session.recv id = (got, s)) :
      ∃ k, run (List.replicate k (.pull id)) o = { o with session := (o.session.recv id).2 } ∧
        answers id (steps (List.replicate k (.pull id)) o) = [(o.session.recv id).1] := by
    obtain ⟨last, brought⟩ := run_pull k o id
    rw [resting, alone] at last brought
    refine ⟨k, ?_, ?_⟩
    · rw [last, recv]
      exact pulled_self resting s
    · rw [brought, recv]
  -- What it does after it has looked into its mailbox.
  let looked : Session := o.session.onMailbox sub.mailbox fun _ => box.take.2
  have found' : looked.subscriptions.get? id = some sub := found
  have mailbox' : looked.mailboxOf? id = some box.take.2 := by
    have stored' : looked.mailboxes[sub.mailbox]? = some box.take.2 := by
      rw [Session.onMailbox_get?, if_pos rfl, stored]
      rfl
    simp [Session.mailboxOf?, found', stored']
  have leaves (got : Pulled Value) :
      (Pull.leaving got).advance id looked = (some got, .resting, looked.conclude id) := by
    simp [Pull.advance, found', mailbox']
  cases done : sub.done with
  | true =>
    refine enough 1 .finished o.session ?_ ?_
    · simp [aloneCaller, Pull.advance, found, mailbox, done]
    · simp [Session.recv, found, mailbox, done]
  | false =>
    rcases box.take_cases with ⟨-, take⟩ | ⟨-, v, rest, -, take⟩ | ⟨-, -, c, -, take⟩ |
      ⟨-, -, -, take⟩
    · have looks : (Pull.resting).advance id o.session =
          (none, .leaving (.failed (.lagged box.id box.dropped)), looked) := by
        simp [Pull.advance, found, mailbox, done, take, looked]
      refine enough 2 (.failed (.lagged box.id box.dropped)) (looked.conclude id) ?_ ?_
      · simp [aloneCaller, looks, leaves]
      · simp [Session.recv, found, mailbox, done, take, looked]
    · have looks : (Pull.resting).advance id o.session = (some (.item v), .resting, looked) := by
        simp [Pull.advance, found, mailbox, done, take, looked]
      refine enough 1 (.item v) looked ?_ ?_
      · simp [aloneCaller, looks]
      · simp [Session.recv, found, mailbox, done, take, looked]
    · have looks : (Pull.resting).advance id o.session = (none, .leaving c.pulled, looked) := by
        cases c <;> simp [Pull.advance, found, mailbox, done, take, looked, Closure.pulled]
      refine enough 2 c.pulled (looked.conclude id) ?_ ?_
      · simp [aloneCaller, looks, leaves]
      · cases c <;> simp [Session.recv, found, mailbox, done, take, looked, Closure.pulled]
    · have looks : (Pull.resting).advance id o.session = (none, .waiting, looked) := by
        simp [Pull.advance, found, mailbox, done, take, looked]
      by_cases late : sub.deadline ≤ o.session.now
      · have waits : (Pull.waiting).advance id looked =
            (none, .leaving (.failed (.timeout id sub.timeout)), looked) := by
          have late' : sub.deadline ≤ looked.now := late
          simp [Pull.advance, found', mailbox', late']
        refine enough 3 (.failed (.timeout id sub.timeout)) (looked.conclude id) ?_ ?_
        · simp [aloneCaller, looks, waits, leaves]
        · simp [Session.recv, found, mailbox, done, take, looked, Session.onMailbox, late]
      · have waits : (Pull.waiting).advance id looked = (some .pending, .resting, looked) := by
          have early : ¬ sub.deadline ≤ looked.now := late
          simp [Pull.advance, found', mailbox', early]
        refine enough 2 .pending looked ?_ ?_
        · simp [aloneCaller, looks, waits]
        · simp [Session.recv, found, mailbox, done, take, looked, Session.onMailbox, late]

end Contest

end Backchannel
