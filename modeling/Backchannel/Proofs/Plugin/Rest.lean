/-
# Backchannel.Proofs.Plugin.Rest -- a plugin at rest

Whatever is done to a plugin, everything settles in the end.  Then its session is at rest and
no call has anything to look at (`Resting`), and nothing happens until the next moment to stop
at: settling again changes nothing, and as time passes only the clock does (`Resting.fire`).
-/
import Backchannel.Proofs.Plugin.Calls
import Backchannel.Proofs.Session.Rest

namespace Backchannel

set_option autoImplicit false

open Backchannel.Json (Value)

/-- A pull that finds nothing comes before the deadline, and finds nothing until then. -/
theorem Ticket.pull_until {t : Ticket} {id : RequestId} {now : Instant}
    (waits : t.pull id now = (.pending, t)) :
    now < t.sub.deadline ∧
      ∀ later < t.sub.deadline, t.pull id later = (.pending, t) := by
  have unfinished : t.sub.done = false := by
    cases done : t.sub.done with
    | false => rfl
    | true =>
      rw [pull_of_done done] at waits
      cases waits
  have nothing : (t.pull id now).1 = .pending := by rw [waits]
  obtain ⟨items, unclosed, -⟩ := pull_pending unfinished nothing
  have kept : t.box.dropped = 0 ∧ now < t.sub.deadline := by
    rcases pull_cases unfinished id now with ⟨-, pull⟩ | ⟨-, v, rest, some, -⟩ |
      ⟨-, -, c, some, -⟩ | ⟨-, -, -, -, pull⟩ | ⟨kept, -, -, early, -⟩
    · simp [pull] at nothing
    · cases items.symm.trans some
    · cases unclosed.symm.trans some
    · simp [pull] at nothing
    · exact ⟨kept, early⟩
  refine ⟨kept.2, fun later early => ?_⟩
  rcases pull_cases unfinished id later with ⟨lost, -⟩ | ⟨-, v, rest, some, -⟩ |
    ⟨-, -, c, some, -⟩ | ⟨-, -, -, late, -⟩ | ⟨-, -, -, -, pull⟩
  · exact absurd kept.1 (Nat.ne_of_gt lost)
  · cases items.symm.trans some
  · cases unclosed.symm.trans some
  · exact absurd late (Nat.not_le.mpr early)
  · exact pull

namespace Session

variable {s s' : Session} {id : RequestId}

/-- A pull for a request finds nothing. -/
def Quiet (id : RequestId) (s : Session) : Prop := (s.recv id).1 = .pending

theorem quiet_iff :
    Quiet id s ↔ ∃ t, s.ticket? id = some t ∧ t.pull id s.now = (.pending, t) := by
  constructor
  · intro quiet
    rw [Quiet] at quiet
    cases held : s.ticket? id with
    | none =>
      rw [recv_of_none held] at quiet
      cases quiet
    | some t =>
      rw [recv_eq held] at quiet
      cases done : t.sub.done with
      | true =>
        rw [Ticket.pull_of_done done] at quiet
        cases quiet
      | false =>
        obtain ⟨-, -, same⟩ := Ticket.pull_pending done quiet
        exact ⟨t, rfl, Prod.ext quiet same⟩
  · rintro ⟨t, held, pull⟩
    rw [Quiet, recv_eq held, pull]

/-- It then changes nothing. -/
theorem Quiet.recv (h : Quiet id s) : (s.recv id).2 = s := by
  obtain ⟨t, held, pull⟩ := quiet_iff.mp h
  obtain ⟨-, stored⟩ := ticket?_eq_some.mp held
  have waits : t.sub.done = false := by
    cases done : t.sub.done with
    | false => rfl
    | true =>
      rw [Ticket.pull_of_done done] at pull
      cases pull
  have same : s.mailboxes.modify t.sub.mailbox (fun _ => t.box) = s.mailboxes := by
    refine List.ext_getElem? fun ref => ?_
    rw [List.getElem?_modify]
    split
    · rename_i own
      rw [← own, stored]
      rfl
    · simp
  rw [recv_eq held, pull]
  simp only [waits, Bool.false_eq_true, if_false]
  rw [onMailbox, same]

/-- What is not done in its caller's name leaves it quiet, if no time passes. -/
theorem Quiet.spared (h : Quiet id s) (same : s'.ticket? id = s.ticket? id) (now : s'.now = s.now) :
    Quiet id s' := by
  obtain ⟨t, held, pull⟩ := quiet_iff.mp h
  exact quiet_iff.mpr ⟨t, same.trans held, now ▸ pull⟩

/-- As time passes it stays so until its deadline, which is one of the moments to stop at. -/
theorem Quiet.later (h : Quiet id s) (sound : Sound s) {now : Instant}
    (early : ∀ due ∈ s.dueTimes, s.now < due → now < due)
    (subscriptions : s'.subscriptions = s.subscriptions) (mailboxes : s'.mailboxes = s.mailboxes)
    (clock : s'.now = now) : Quiet id s' := by
  obtain ⟨t, held, pull⟩ := quiet_iff.mp h
  obtain ⟨inTime, nothing⟩ := Ticket.pull_until pull
  -- Who waits for more than is there waits on an open session.
  have opened : s.status.isClosed = false := by
    cases status : s.status.isClosed with
    | false => rfl
    | true =>
      have settled : s.isOutstanding id = false := by simp [isOutstanding, sound.emptied status]; rfl
      exact absurd (congrArg Prod.fst pull)
        (Ticket.pull_ne_pending (sound.not_open held settled) id s.now)
  have stop : t.sub.deadline ∈ s.dueTimes := by
    have listed := Keyed.mem_of_get? (ticket?_eq_some.mp held).1
    rw [dueTimes, opened]
    exact List.mem_append_right _ (List.mem_map.mpr ⟨_, listed, rfl⟩)
  refine quiet_iff.mpr ⟨t, (ticket?_congr subscriptions mailboxes id).trans held, ?_⟩
  rw [clock]
  exact nothing now (early _ stop inTime)

end Session

namespace Plugin

variable {p q : Plugin} {id : RequestId} {job : Job}

/-! ## Looking after calls -/

/-- Who looks after a call shares nothing with others, and leaves the timers alone. -/
theorem look_shared (p : Plugin) (entry : RequestId × Held) :
    (p.look entry).session.backdrop = p.session.backdrop ∧
      (p.look entry).session.timers = p.session.timers := by
  have pulled : (p.session.recv entry.1).2.backdrop = p.session.backdrop ∧
      (p.session.recv entry.1).2.timers = p.session.timers :=
    ⟨(Session.recv_leaves entry.1 p.session).backdrop, Session.recv_timers entry.1 p.session⟩
  unfold look
  split
  · rename_i job running
    dsimp only
    cases job.conclude entry.1 (p.session.recv entry.1).1 <;> exact pulled
  · exact ⟨rfl, rfl⟩

theorem lookAfterCalls_shared (p : Plugin) :
    p.lookAfterCalls.session.backdrop = p.session.backdrop ∧
      p.lookAfterCalls.session.timers = p.session.timers := by
  unfold lookAfterCalls
  generalize p.held = held
  induction held generalizing p with
  | nil => exact ⟨rfl, rfl⟩
  | cons entry held ih =>
    obtain ⟨backdrop, timers⟩ := look_shared p entry
    obtain ⟨backdrop', timers'⟩ := ih (p.look entry)
    exact ⟨backdrop'.trans backdrop, timers'.trans timers⟩

/-- Who is quiet is looked after in vain. -/
theorem look_quiet (quiet : Session.Quiet id p.session) (job : Job) :
    p.look (id, .running job) = p := by
  have nothing : job.conclude id (p.session.recv id).1 = none := by
    rw [quiet]
    cases job <;> rfl
  simp only [look, nothing, quiet.recv]

/-- Who is not is answered. -/
theorem look_answered (answered : ¬ Session.Quiet id p.session) (job : Job) :
    ∃ answer, (p.look (id, .running job)).held =
      (p.held.erase id).insert id (.answered answer) := by
  obtain ⟨answer, concluded⟩ := conclude_isSome job id answered
  exact ⟨answer, by simp only [look, concluded]; rfl⟩

/-- What runs when a call has been looked after ran before, and if it is that call it is
quiet. -/
theorem look_running {other : RequestId} {running : Job}
    (runs : (other, .running running) ∈ (p.look (id, .running job)).held) :
    (other, .running running) ∈ p.held ∧ (other = id → Session.Quiet id p.session) := by
  rcases Classical.em (Session.Quiet id p.session) with quiet | answered
  · rw [look_quiet quiet] at runs
    exact ⟨runs, fun _ => quiet⟩
  · obtain ⟨answer, held⟩ := look_answered answered job
    rw [held, Keyed.insert, List.mem_append] at runs
    have among : (other, .running running) ∈ p.held ∧ other ≠ id := by
      rcases runs with kept | put
      · simpa [Keyed.erase] using kept
      · simp at put
    exact ⟨among.1, fun same => absurd same among.2⟩

/-- Who looks after one call leaves the quiet ones quiet. -/
theorem look_keeps_quiet (sound : p.session.Sound) (entry : RequestId × Held)
    (quiet : Session.Quiet id p.session) : Session.Quiet id (p.look entry).session := by
  obtain ⟨other, held⟩ := entry
  cases held with
  | running job =>
    by_cases own : other = id
    · subst own
      rw [look_quiet quiet]
      exact quiet
    · have now := congrArg Backdrop.now (look_shared p (other, .running job)).1
      exact quiet.spared ((Apart.look own job p).session sound).2 now
  | _ => exact quiet

/-- When all calls have been looked after, those that still run are quiet. -/
theorem lookAfterCalls_quiet (sound : p.session.Sound)
    (runs : (id, .running job) ∈ p.lookAfterCalls.held) :
    Session.Quiet id p.lookAfterCalls.session := by
  have after (held : List (RequestId × Held)) (p : Plugin) (sound : p.session.Sound)
      (left : ∀ id job, (id, .running job) ∈ p.held →
        Session.Quiet id p.session ∨ (id, .running job) ∈ held) :
      ∀ id job, (id, .running job) ∈ (held.foldl look p).held →
        Session.Quiet id (held.foldl look p).session := by
    induction held generalizing p with
    | nil => exact fun id job runs => (left id job runs).resolve_right List.not_mem_nil
    | cons entry held ih =>
      refine ih (p.look entry) ((look_silent p entry).leads.sound sound) fun id job runs => ?_
      obtain ⟨other, h⟩ := entry
      cases h with
      | running job' =>
        obtain ⟨before, own⟩ := look_running runs
        rcases left id job before with quiet | among
        · exact .inl (look_keeps_quiet sound _ quiet)
        · rcases List.mem_cons.mp among with same | among
          · obtain ⟨rfl, -⟩ := Prod.mk.inj same
            exact .inl (look_keeps_quiet sound _ (own rfl))
          · exact .inr among
      | _ =>
        rcases left id job runs with quiet | among
        · exact .inl quiet
        · exact .inr (by simpa using among)
  exact after p.held p sound (fun _ _ runs => .inr runs) id job runs

/-! ## At rest -/

/-- Everything has settled. -/
structure Resting (p : Plugin) : Prop where
  sound : p.session.Sound
  atRest : p.session.AtRest
  quiet : ∀ id job, (id, .running job) ∈ p.held → Session.Quiet id p.session

theorem settle_resting (sound : p.session.Sound) (ahead : p.session.Ahead 1) :
    Resting p.settle := by
  have settled : (p.onSession Session.settle).session.Sound :=
    (Session.settle_silent p.session).leads.sound sound
  obtain ⟨backdrop, timers⟩ := lookAfterCalls_shared (p.onSession Session.settle)
  exact {
    sound := (lookAfterCalls_silent _).leads.sound settled
    atRest := (ahead.settle sound).congr backdrop timers
    quiet := fun _ _ runs => lookAfterCalls_quiet settled runs }

theorem Resting.lookAfterCalls (h : Resting p) : p.lookAfterCalls = p := by
  have idle (held : List (RequestId × Held)) (all : ∀ e ∈ held, e ∈ p.held) :
      held.foldl look p = p := by
    induction held with
    | nil => rfl
    | cons entry held ih =>
      have first : p.look entry = p := by
        obtain ⟨id, h'⟩ := entry
        cases h' with
        | running job => exact look_quiet (h.quiet id job (all _ List.mem_cons_self)) job
        | _ => rfl
      rw [List.foldl_cons, first]
      exact ih fun e among => all e (List.mem_cons_of_mem _ among)
  exact idle p.held fun _ among => among

theorem Resting.settle (h : Resting p) : p.settle = p := by
  have same : p.onSession Session.settle = p := by
    rw [onSession, h.atRest.settle]
  rw [Plugin.settle, same, h.lookAfterCalls]

/-! ## As time passes -/

variable {every : Duration} {t target : Instant}

/-- What fires at its moment leaves everything at rest. -/
theorem fire_resting (sound : p.session.Sound)
    (set : p.session.settings.heartbeatEvery = some every) (positive : 0 < every)
    (reached : p.session.Ahead 0) : Resting p.fire := by
  have rung : (p.onSession Session.ring).session.Sound :=
    (Session.ring_moment p.session).leads.sound sound
  have ahead := (sound.ring_ahead set positive reached).2
  obtain ⟨backdrop, timers⟩ := lookAfterCalls_shared (p.onSession Session.ring)
  exact settle_resting ((lookAfterCalls_silent _).leads.sound rung) (ahead.congr backdrop timers)

/-- Time passes, and nothing happens but that the heartbeat ceases which a closed session would
not take. -/
def drift (t : Instant) (p : Plugin) : Plugin :=
  p.onSession fun s => { s with now := t, beatAt := s.beatAt.filter (t < ·) }

/-- Before the next moment to stop at nothing fires. -/
theorem Resting.fire (h : Resting p) (set : p.session.settings.heartbeatEvery = some every)
    (later : p.now ≤ t) (early : ∀ due ∈ p.session.dueTimes, p.now < due → t < due) :
    (p.setClock t).fire = p.drift t ∧ Resting (p.drift t) := by
  have ahead : (p.setClock t).session.Ahead 1 := by
    constructor
    · intro opened reads
      exact early _ (Session.sweepAt_mem_dueTimes opened) (h.atRest.ahead.sweep opened reads)
    · intro opened due timer
      exact early _ (Session.beatAt_mem_dueTimes opened timer)
        (h.atRest.ahead.beat opened due timer)
  have rung : (p.setClock t).onSession Session.ring = p.drift t :=
    congrArg (fun s => { p with session := s })
      (ahead.ring (fun closed => (h.atRest.left closed).1) set)
  have led : Session.Leads p.session (p.drift t).session :=
    (setClock_leads later).trans ⟨[.timers p.session.sweepAt _], rfl⟩
  have resting : Resting (p.drift t) := by
    refine ⟨led.sound h.sound, ⟨⟨ahead.sweep, ?_⟩, h.atRest.outbox, h.atRest.left⟩, ?_⟩
    · intro opened due timer
      have kept := (Option.filter_eq_some_iff.mp timer).2
      exact of_decide_eq_true kept
    · intro id job runs
      exact (h.quiet id job runs).later h.sound early rfl rfl rfl
  refine ⟨?_, resting⟩
  rw [Plugin.fire, rung, resting.lookAfterCalls, resting.settle]

end Plugin

end Backchannel
