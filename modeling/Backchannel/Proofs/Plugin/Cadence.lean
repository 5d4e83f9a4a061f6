/-
# Backchannel.Proofs.Plugin.Cadence -- heartbeats keep time

Plugin, daemon and clock act, each action settles before the next, and a wait stops at every
moment at which something is due.  As long as the clock does not jump all this comes to a paced
run of the session (`Flow`), so its heartbeats come at the multiples of their period.
-/
import Backchannel.Proofs.Plugin.Advance
import Backchannel.Proofs.Session.Beats

namespace Backchannel

set_option autoImplicit false

/-- The clock moves at once. -/
def Action.jumps : Action → Bool
  | .clock (.jump _) => true
  | _ => false

def Action.isHeartbeat : Action → Bool
  | .plugin move => move.isHeartbeat
  | _ => false

namespace Session

variable {s s' s'' : Session} {m n : Nat} {every : Duration} {t : Instant}

/-- A paced run with that number of heartbeats by the plugin leads from one session to the
other. -/
def Flow (n : Nat) (s s' : Session) : Prop :=
  ∃ hs, Paced hs s ∧ hs.countP Happening.isHeartbeat = n ∧ s' = after hs s

namespace Flow

theorem refl (s : Session) : Flow 0 s s := ⟨[], trivial, rfl, rfl⟩

theorem trans (first : Flow m s s') (rest : Flow n s' s'') : Flow (m + n) s s'' := by
  obtain ⟨hs, paced, count, rfl⟩ := first
  obtain ⟨more, paced', count', rfl⟩ := rest
  refine ⟨hs ++ more, paced.append paced', ?_, (after_append hs more s).symm⟩
  rw [List.countP_append, count, count']

theorem of_happening (x : Happening) (paced : x.Paced s) :
    Flow x.isHeartbeat.toNat s (s.happen x) := by
  refine ⟨[x], ⟨paced, trivial⟩, ?_, rfl⟩
  cases count : x.isHeartbeat <;> simp [count]

theorem of_asking (h : Asking s s') : Flow 0 s s' := by
  obtain ⟨ms, all, rfl⟩ := h
  induction ms generalizing s with
  | nil => exact refl s
  | cons m ms ih =>
    have kind := all m List.mem_cons_self
    have paced : (Happening.move m).Paced s := by
      cases m with
      | pass span => exact fun passes => absurd kind.passes (Nat.ne_of_gt passes)
      | _ => exact kind.timers
    have silent : (Happening.move m).isHeartbeat = false := by
      cases m with
      | heartbeat => exact absurd rfl kind.frame
      | _ => rfl
    have first := of_happening _ paced
    rw [silent] at first
    exact first.trans (ih fun m' mem => all m' (List.mem_cons_of_mem m mem))

theorem of_silently (h : Silently s s') : Flow 0 s s' := of_asking (Silently.asking h)

theorem heartbeat (s : Session) : Flow 1 s s.heartbeat.2 := of_happening (.move .heartbeat) rfl

/-- Time passes while nothing waits, and no further than to the next heartbeat. -/
theorem pass (idle : s.outbox = []) (later : s.now ≤ t) (reached : Ahead 0 { s with now := t }) :
    Flow 0 s { s with now := t } := by
  have arrived : s.now + (t - s.now) = t := Nat.add_sub_cancel' later
  have paced : (Happening.move (.pass (t - s.now))).Paced s := fun _ =>
    ⟨idle, fun opened due timer => by rw [arrived]; exact reached.beat opened due timer⟩
  have passed : Flow 0 s (s.happen (.move (.pass (t - s.now)))) := of_happening _ paced
  simpa only [happen, step, perform, arrived] using passed

theorem ring (sound : Sound s) (set : s.settings.heartbeatEvery = some every)
    (positive : 0 < every) (reached : Ahead 0 s) : Flow 0 s s.ring := by
  rw [(sound.ring_ahead set positive reached).1]
  exact (of_happening .sweep trivial).trans (of_happening .beat trivial)

end Flow

theorem Flow.sound (h : Flow n s s') (sound : Sound s) : Sound s' := by
  obtain ⟨hs, -, -, rfl⟩ := h
  exact (after_leads hs s).sound sound

theorem Silently.outbox (h : Silently s s') (sound : Sound s) (idle : s.outbox = []) :
    s'.outbox = [] := by
  refine h.keeps (I := fun s => s.outbox = []) (fun s m sound kind idle => ?_) sound idle
  exact (sound.toGoverned.step_idle idle (.inr kind.frame)).1

theorem Silently.ahead {margin : Duration} (h : Silently s s') (sound : Sound s)
    (ahead : Ahead margin s) : Ahead margin s' :=
  ahead.keep sound (h.mono fun _ kind => kind.toIsStill)

/-- A session with that time between heartbeats, in which time may pass. -/
structure Poised (every : Duration) (s : Session) : Prop where
  sound : Sound s
  set : s.settings.heartbeatEvery = some every
  outbox : s.outbox = []
  ahead : Ahead 1 s

theorem Poised.silently (h : Poised every s) (silently : Silently s s') : Poised every s' where
  sound := silently.leads.sound h.sound
  set := (silently.leads.settings h.sound).symm ▸ h.set
  outbox := Silently.outbox silently h.sound h.outbox
  ahead := Silently.ahead silently h.sound h.ahead

/-- A flow without heartbeats of the plugin, behind which time may pass. -/
structure Passage (every : Duration) (s s' : Session) : Prop where
  flow : Flow 0 s s'
  poised : Poised every s'

namespace Passage

theorem trans (first : Passage every s s') (rest : Passage every s' s'') : Passage every s s'' :=
  ⟨first.flow.trans rest.flow, rest.poised⟩

theorem silently (h : Passage every s s') (rest : Silently s' s'') : Passage every s s'' :=
  ⟨h.flow.trans (Flow.of_silently rest), h.poised.silently rest⟩

end Passage

end Session

namespace Plugin

open Session (Flow Passage Moment Poised Silently)

variable {p q : Plugin} {every : Duration} {target : Instant} {n : Nat}
variable {σ β : Type} {look : σ → Plugin → Look σ β × Plugin}

theorem Resting.poised (h : Resting p) (set : p.session.settings.heartbeatEvery = some every) :
    Poised every p.session :=
  ⟨h.sound, set, h.atRest.outbox, h.atRest.ahead⟩

/-! ## Waiting -/

theorem fire_passage (sound : p.session.Sound)
    (set : p.session.settings.heartbeatEvery = some every) (positive : 0 < every)
    (reached : p.session.Ahead 0) : Passage every p.session p.fire.session := by
  have looked := lookAfterCalls_silent (p.onSession Session.ring)
  have rest : Silently p.session.ring p.fire.session := looked.trans (settle_silent _)
  have kept := (fire_moment p).leads.settings sound
  exact ⟨(Flow.ring sound set positive reached).trans (Flow.of_silently rest),
    (fire_resting sound set positive reached).poised (kept ▸ set)⟩

/-- At the next stop someone looks, and everything fires that is due. -/
theorem stop_passage (poised : Poised every p.session) (positive : 0 < every)
    (ahead : p.now ≤ target)
    (looked : Silently (p.setClock (p.session.nextStop target)).session q.session) :
    Passage every p.session q.fire.session := by
  have reached := poised.ahead.reach target
  have arrived : Flow 0 p.session (p.setClock (p.session.nextStop target)).session :=
    Flow.pass poised.outbox (Session.le_nextStop ahead) reached
  have sound := arrived.sound poised.sound
  have fired := fire_passage (looked.leads.sound sound)
    ((congrArg Settings.heartbeatEvery (looked.leads.settings sound)).trans poised.set) positive
    (Silently.ahead looked sound reached)
  exact ⟨(arrived.trans (Flow.of_silently looked)).trans fired.flow, fired.poised⟩

theorem await_passage (timeless : Timeless look) (positive : 0 < every) (fuel : Nat) (sofar : σ)
    (poised : Poised every p.session) (ahead : p.now ≤ target) :
    Passage every p.session (await look target fuel sofar p).2.session := by
  induction fuel generalizing sofar p with
  | zero => exact ⟨Flow.refl p.session, poised⟩
  | succ fuel ih =>
    have looked := timeless sofar (p.setClock (p.session.nextStop target))
    rw [await]
    rcases first : look sofar (p.setClock (p.session.nextStop target)) with ⟨result | sofar, q⟩ <;>
      rw [first] at looked <;> have fired := stop_passage poised positive ahead looked
    · exact fired
    · dsimp only
      split
      · exact fired
      · have again := timeless sofar q.fire
        rcases second : look sofar q.fire with ⟨result | sofar, r⟩ <;> rw [second] at again
        · exact fired.silently again
        · have stopped := fired.silently again
          -- No time has passed since the stop, so the target is still ahead.
          have sound : (p.setClock (p.session.nextStop target)).session.Sound :=
            (setClock_leads (Session.le_nextStop ahead)).sound poised.sound
          have still : Moment (p.setClock (p.session.nextStop target)).session r.session :=
            ((Silently.moment looked).trans (fire_moment q)).trans (Silently.moment again)
          have here : r.now = p.session.nextStop target := Moment.now still sound
          have onward : r.now ≤ target := by
            rw [here]
            exact Session.nextStop_le p.session target
          exact stopped.trans (ih sofar stopped.poised onward)

theorem awaitFor_passage (timeless : Timeless look) (positive : 0 < every) (wait : Duration)
    (sofar : σ) (poised : Poised every p.session) :
    Passage every p.session (p.awaitFor wait look sofar).2.session := by
  have looked := timeless sofar p
  rw [awaitFor]
  rcases first : look sofar p with ⟨result | sofar, q⟩ <;> rw [first] at looked <;>
    have passed : Passage every p.session q.session :=
      ⟨Flow.of_silently looked, poised.silently looked⟩
  · exact passed
  · exact passed.trans
      (await_passage timeless positive wait sofar passed.poised (Nat.le_add_right q.now wait))

/-! ## Actions -/

theorem Affects.flow {beats : Bool} {s : Session} (h : Affects p beats s) (positive : 0 < every)
    (poised : Poised every p.session) : Flow beats.toNat p.session s ∧ s.Ahead 1 := by
  cases h with
  | asks asks =>
    exact ⟨Flow.of_asking asks,
      poised.ahead.keep poised.sound (asks.mono fun _ kind => kind.toIsStill)⟩
  | waits timeless wait sofar rest =>
    have passed := (awaitFor_passage timeless positive wait sofar poised).silently rest
    exact ⟨passed.flow, passed.poised.ahead⟩
  | beats =>
    have still : Session.Via Session.Move.IsStill p.session p.session.heartbeat.2 :=
      .of_move p.session .heartbeat ⟨rfl, rfl⟩
    exact ⟨Flow.heartbeat p.session, poised.ahead.keep poised.sound still⟩

theorem act_flow (h : Resting p) (set : p.session.settings.heartbeatEvery = some every)
    (positive : 0 < every) {action : Action} (steady : action.jumps = false) :
    Flow action.isHeartbeat.toNat p.session (p.act action).2.session ∧
      Resting (p.act action).2 := by
  have poised := h.poised set
  have settles {q : Plugin} {n : Nat} (flow : Flow n p.session q.session)
      (ahead : q.session.Ahead 1) : Flow n p.session q.settle.session ∧ Resting q.settle :=
    ⟨flow.trans (Flow.of_silently (settle_silent q)), settle_resting (flow.sound h.sound) ahead⟩
  cases action with
  | plugin move =>
    obtain ⟨flow, ahead⟩ := (actPlugin_affects move p).flow positive poised
    exact settles flow ahead
  | daemon move =>
    have silent := actDaemon_silent move p
    exact settles (Flow.of_silently silent) (Silently.ahead silent h.sound h.atRest.ahead)
  | clock move =>
    cases move with
    | advance span =>
      have timeless : Timeless watch := fun _ q => .refl q.session
      have passed := awaitFor_passage timeless positive span () poised
      exact settles passed.flow passed.poised.ahead
    | jump span => cases steady

theorem acts_flow (h : Resting p) (set : p.session.settings.heartbeatEvery = some every)
    (positive : 0 < every) {actions : List Action} (steady : ∀ a ∈ actions, a.jumps = false) :
    Flow (actions.countP Action.isHeartbeat) p.session (acts actions p).session ∧
      Resting (acts actions p) := by
  induction actions generalizing p with
  | nil => exact ⟨Flow.refl p.session, h⟩
  | cons action actions ih =>
    obtain ⟨flow, resting⟩ := act_flow h set positive (steady action List.mem_cons_self)
    have kept := (act_leads action h.sound).settings h.sound
    obtain ⟨flows, rests⟩ := ih resting (kept ▸ set) fun a among =>
      steady a (List.mem_cons_of_mem action among)
    have count : (action :: actions).countP Action.isHeartbeat =
        action.isHeartbeat.toNat + actions.countP Action.isHeartbeat := by
      rw [List.countP_cons, Nat.add_comm]
      cases action.isHeartbeat <;> rfl
    exact ⟨count ▸ flow.trans flows, rests⟩

/-- A plugin that has just been started is at rest. -/
theorem launch_flow {settings : Settings} (set : settings.heartbeatEvery = some every)
    (positive : 0 < every) :
    Flow 0 (.start settings) (launch settings).session ∧ Resting (launch settings) := by
  have reached : (Session.start settings).Ahead 0 :=
    ⟨fun _ _ => Nat.zero_le _, fun _ _ _ => Nat.zero_le _⟩
  have sound := Session.sound_start settings
  have fired := fire_passage (p := ⟨.start settings, [], [], .empty⟩) sound set positive reached
  exact ⟨fired.flow, fire_resting sound set positive reached⟩

/-! ## On time -/

/-- What heartbeats with that period come to, when these actions have been taken. -/
structure OnTime (period : Duration) (settings : Settings) (actions : List Action) : Prop where
  /-- They come to a paced run, in which the plugin sends no other heartbeats than it was
  asked for. -/
  paced : ∃ hs, Session.Paced hs (.start settings) ∧
    hs.countP Session.Happening.isHeartbeat = actions.countP Action.isHeartbeat ∧
    (acts actions (launch settings)).session = Session.after hs (.start settings)
  /-- As long as the session is open, one heartbeat of the timer has been written a period. -/
  count : (acts actions (launch settings)).session.status.isClosed = false →
    (acts actions (launch settings)).session.written.count OutboundFrame.heartbeat.toLine =
      (acts actions (launch settings)).now / period + actions.countP Action.isHeartbeat
  /-- When it is closed nothing more is written, whatever else is done. -/
  ceases : (acts actions (launch settings)).session.status.isClosed = true → ∀ more,
    (acts (actions ++ more) (launch settings)).session.written =
      (acts actions (launch settings)).session.written
  /-- Time may pass as a whole or in pieces. -/
  pieces : ∀ spans : List Duration,
    acts (actions ++ spans.map fun span => .clock (.advance span)) (launch settings) =
      acts (actions ++ [.clock (.advance (Duration.total spans))]) (launch settings)
  passes : ∀ span, (acts (actions ++ [.clock (.advance span)]) (launch settings)).now =
    (acts actions (launch settings)).now + span

theorem acts_append (first rest : List Action) (p : Plugin) :
    acts (first ++ rest) p = acts rest (acts first p) := List.foldl_append

theorem onTime {settings : Settings} (set : settings.heartbeatEvery = some every)
    (positive : 0 < every) {actions : List Action} (steady : ∀ a ∈ actions, a.jumps = false) :
    OnTime (min every maxWait) settings actions := by
  obtain ⟨launched, rests⟩ := launch_flow set positive
  have started := (launch_leads settings).settings (Session.sound_start settings)
  obtain ⟨flow, resting⟩ := acts_flow rests (started ▸ set) positive steady
  have kept : (acts actions (launch settings)).session.settings.heartbeatEvery = some every := by
    rw [(acts_leads actions rests.sound).settings rests.sound, started]
    exact set
  obtain ⟨hs, paced, count, same⟩ := launched.trans flow
  rw [Nat.zero_add] at count
  refine ⟨⟨hs, paced, count, same⟩, fun opened => ?_, fun closed more => ?_, fun spans => ?_,
    fun span => ?_⟩
  · -- Everything has settled, so nothing waits and the next heartbeat is not due.
    have idle := resting.atRest.outbox
    have ahead := resting.atRest.ahead.beat opened
    rw [same] at opened idle ahead
    rw [now, same, ← count]
    exact (Session.onBeat_start set positive paced).heartbeats (Session.sound_start settings)
      opened idle ahead
  · rw [acts_append]
    exact ((acts_leads more resting.sound).idle resting.sound closed resting.atRest.outbox).2
  · rw [acts_append, acts_append]
    exact resting.acts_advances kept positive spans
  · rw [acts_append]
    exact (resting.act_advance kept positive span).2.1

/-- Heartbeats keep time, whatever else goes on: among all that happens in a session, in any
order, and with a plugin, its daemon and a clock that does not jump. -/
theorem heartbeats_keep_time {settings : Settings} (set : settings.heartbeatEvery = some every)
    (long : Duration.ofMillis 1 ≤ every) :
    (∀ hs, Session.Paced hs (.start settings) →
      Session.OnBeat (min every maxWait) hs (.start settings)) ∧
    ∀ actions : List Action, (∀ a ∈ actions, a.jumps = false) →
      OnTime (min every maxWait) settings actions := by
  have positive : 0 < every := Nat.lt_of_lt_of_le (by decide) long
  exact ⟨fun hs paced => Session.onBeat_start set positive paced,
    fun actions steady => onTime set positive steady⟩

/-- A heartbeat every fifty milliseconds. -/
def brisk : Settings := ⟨Duration.ofSeconds 300, some (Duration.ofMillis 50), 64⟩

/-- The first heartbeat goes out. -/
def firstBeat : List Session.Happening :=
  [.sweep, .move (.pass (Duration.ofMillis 50)), .beat, .move .write]

/-- The plugin sends a heartbeat of its own between the second one and the third. -/
def between : List Action :=
  [.clock (.advance (Duration.ofMillis 120)), .plugin .heartbeat,
    .clock (.advance (Duration.ofMillis 35))]

theorem brisk_keeps_time :
    brisk.heartbeatEvery = some (Duration.ofMillis 50) ∧
      Duration.ofMillis 1 ≤ Duration.ofMillis 50 ∧
      Session.Paced firstBeat (.start brisk) ∧
      Session.autos firstBeat (.start brisk) = [Session.timerBeat (Duration.ofMillis 50) 0] ∧
      (∀ a ∈ between, a.jumps = false) ∧
      (acts between (launch brisk)).session.status.isClosed = false ∧
      (acts between (launch brisk)).session.written.count OutboundFrame.heartbeat.toLine =
        3 + 1 := by
  have set : brisk.heartbeatEvery = some (Duration.ofMillis 50) := rfl
  have long : Duration.ofMillis 1 ≤ Duration.ofMillis 50 := by decide
  obtain ⟨beats, keeps⟩ := heartbeats_keep_time set long
  have paced : Session.Paced firstBeat (.start brisk) := by
    refine ⟨trivial, fun _ => ⟨rfl, fun _ due timer => ?_⟩, trivial, rfl, trivial⟩
    obtain rfl : Duration.ofMillis 50 = due := Option.some.inj timer
    exact Nat.le_of_eq (Nat.zero_add _)
  have one : (Session.autos firstBeat (.start brisk)).length = 1 := by decide +kernel
  have beat := (beats firstBeat paced).beats
  rw [one] at beat
  have steady : ∀ a ∈ between, a.jumps = false := by decide
  have opened : (acts between (launch brisk)).session.status.isClosed = false := by
    decide +kernel
  have count := (keeps between steady).count opened
  have now : (acts between (launch brisk)).now = Duration.ofMillis 155 := by decide +kernel
  rw [now] at count
  exact ⟨set, long, paced, beat, steady, opened, count⟩

end Plugin

end Backchannel
