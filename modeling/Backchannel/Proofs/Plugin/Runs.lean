/-
# Backchannel.Proofs.Plugin.Runs -- a plugin runs its session

A plugin, its daemon and the clock act on a session through many layers: requests, typed
streams, calls that run by themselves, waits that stop at every timer.  All of it comes to
moves of the session (`act_leads`).  So whatever is shown of every run of a session holds
of the session of every plugin at all times (`always_run`).
-/
import Backchannel.Plugin.Action
import Backchannel.Proofs.Session.Moment
import Backchannel.Proofs.Session.Registry

namespace Backchannel

set_option autoImplicit false

open Backchannel.Json (Value)

/-- The plugin sends a heartbeat of its own accord. -/
def PluginMove.isHeartbeat : PluginMove → Bool
  | .heartbeat => true
  | _ => false

namespace Plugin

open Session (Asking Leads Moment Silently Via)

variable {α : Type} {σ β : Type}

/-! ## Requests and calls -/

theorem release_silent (id : RequestId) (p : Plugin) :
    Silently p.session (p.release id).session := .of_move p.session (.drop id) rfl rfl rfl

theorem request_asks (id : RequestId) (sessionId : Option String) (kind : Kind)
    (payload : Value) (h : Held) (p : Plugin) :
    Asking p.session (p.request id sessionId kind payload h).2.session := by
  have sent : Asking p.session (p.session.send id sessionId kind payload).2 :=
    .of_move p.session (.send id sessionId kind payload) ⟨⟨rfl, rfl⟩, nofun⟩
  rcases answer : p.session.send id sessionId kind payload with ⟨_ | _, session⟩ <;>
    simpa [request, hold, answer] using sent

theorem requestTimed_asks (id : RequestId) (model : ModelName) (kind : Kind) (payload : Value)
    (h : Held) (p : Plugin) :
    Asking p.session (p.requestTimed id model kind payload h).2.session := by
  cases entered : p.timing.enter id model p.now with
  | error e =>
    simp only [requestTimed, entered]
    exact .refl p.session
  | ok timing =>
    have sent := request_asks id ((p.models.get? model).getD none) kind payload h
      { p with timing := timing }
    rcases answer : Plugin.request id ((p.models.get? model).getD none) kind payload h
      { p with timing := timing } with ⟨_ | _, q⟩ <;>
      simpa [requestTimed, entered, answer] using sent

theorem start_asks (id : RequestId) (sessionId : Option String) (job : Job) (p : Plugin) :
    Asking p.session (p.start id sessionId job).session := by
  cases job with
  | first kind shape payload =>
    have sent := request_asks id sessionId kind payload (.running (.first kind shape payload)) p
    rcases answer : p.request id sessionId kind payload (.running (.first kind shape payload)) with
      ⟨_ | _, q⟩ <;> simpa [start, hold, answer] using sent
  | storage op =>
    have sent := request_asks id sessionId .storage op.payload (.running (.storage op)) p
    rcases answer : p.request id sessionId .storage op.payload (.running (.storage op)) with
      ⟨_ | _, q⟩ <;> simpa [start, hold, answer] using sent
  | completion model r =>
    have sent := requestTimed_asks id model .llm (r.payload false)
      (.running (.completion model r)) p
    rcases answer : p.requestTimed id model .llm (r.payload false)
        (.running (.completion model r)) with
      ⟨_ | _, q⟩ <;> simpa [start, hold, answer] using sent

/-! ## Looking -/

theorem look_silent (p : Plugin) (entry : RequestId × Held) :
    Silently p.session (p.look entry).session := by
  have pulled := Session.recv_silent entry.1 p.session
  unfold look
  split
  · rename_i job running
    cases answer : job.conclude entry.1 (p.session.recv entry.1).1 with
    | none => simpa [answer] using pulled
    | some result =>
      refine pulled.trans ?_
      simp only [answer]
      exact release_silent entry.1 { p with session := (p.session.recv entry.1).2 }
  · exact .refl p.session

theorem lookAfterCalls_silent (p : Plugin) : Silently p.session p.lookAfterCalls.session := by
  unfold lookAfterCalls
  generalize p.held = held
  induction held generalizing p with
  | nil => exact .refl p.session
  | cons entry held ih => exact (look_silent p entry).trans (ih (p.look entry))

theorem settle_silent (p : Plugin) : Silently p.session p.settle.session :=
  (Session.settle_silent p.session).trans (lookAfterCalls_silent (p.onSession Session.settle))

theorem fire_moment (p : Plugin) : Moment p.session p.fire.session := by
  have looked := lookAfterCalls_silent (p.onSession Session.ring)
  exact (Session.ring_moment p.session).trans (Silently.moment (looked.trans (settle_silent _)))

/-! ## Streams -/

theorem next_silent {α : Type} (z : Stream α) (id : RequestId) (s : Session) :
    Silently s (z.next (Session.recv id) s).2.2 := by
  unfold Stream.next
  split
  · exact .refl s
  · exact Session.recv_silent id s

theorem pull_silent (id : RequestId) (z : Stream Value) (timed : Bool) (p : Plugin) :
    Silently p.session (p.pull id z timed).2.session := by
  have pulled := next_silent z id p.session
  simp only [pull]
  split <;> exact pulled

theorem drain_silent {α : Type} (fuel : Nat) (z : Stream α) (id : RequestId) (s : Session) :
    Silently s (z.drain (Session.recv id) fuel s).2.2.2 := by
  induction fuel generalizing z s with
  | zero => exact .refl s
  | succ fuel ih =>
    have pulled := next_silent z id s
    rcases got : z.next (Session.recv id) s with ⟨_ | a | _ | e, z', s'⟩ <;> rw [got] at pulled
    · simpa [Stream.drain, got] using pulled
    · simpa [Stream.drain, got] using pulled.trans (ih z' s')
    · simpa [Stream.drain, got] using pulled
    · simpa [Stream.drain, got] using pulled

theorem pullAll_silent (id : RequestId) (z : Stream Value) (timed : Bool) (p : Plugin) :
    Silently p.session (p.pullAll id z timed).2.2.session := by
  have drained (fuel : Nat) := drain_silent fuel z id p.session
  simp only [pullAll]
  split <;> exact drained _

/-! ## Waiting -/

variable {σ β : Type}

/-- A look takes no time and asks for nothing. -/
def Timeless (look : σ → Plugin → Look σ β × Plugin) : Prop :=
  ∀ sofar p, Silently p.session (look sofar p).2.session

theorem setClock_leads {t : Instant} {p : Plugin} (later : p.now ≤ t) :
    Leads p.session (p.setClock t).session :=
  Session.leads_of_le later

theorem moveTo_leads {t : Instant} {p : Plugin} (later : p.now ≤ t) :
    Leads p.session (p.moveTo t).session :=
  (setClock_leads later).trans (fire_moment (p.setClock t)).leads

theorem await_leads {look : σ → Plugin → Look σ β × Plugin} (timeless : Timeless look)
    {target : Instant} (fuel : Nat) (sofar : σ) {p : Plugin} (sound : p.session.Sound)
    (ahead : p.now ≤ target) : Leads p.session (await look target fuel sofar p).2.session := by
  induction fuel generalizing sofar p with
  | zero => exact ⟨[], rfl⟩
  | succ fuel ih =>
    have arrived : Leads p.session (p.setClock (p.session.nextStop target)).session :=
      setClock_leads (Session.le_nextStop ahead)
    have looked := timeless sofar (p.setClock (p.session.nextStop target))
    rw [await]
    rcases first : look sofar (p.setClock (p.session.nextStop target)) with ⟨result | sofar, q⟩ <;>
      rw [first] at looked <;> have fired := (Silently.moment looked).trans (fire_moment q)
    · exact arrived.trans fired.leads
    · dsimp only
      split
      · exact arrived.trans fired.leads
      · have again := fired.trans (Silently.moment (timeless sofar q.fire))
        rcases second : look sofar q.fire with ⟨result | sofar, r⟩ <;> rw [second] at again
        · exact arrived.trans again.leads
        · -- No time has passed since the stop, so the target is still ahead.
          have here : r.now = p.session.nextStop target := Moment.now again (arrived.sound sound)
          have onward : r.now ≤ target := by
            rw [here]
            exact Session.nextStop_le p.session target
          have led := arrived.trans again.leads
          exact led.trans (ih sofar (led.sound sound) onward)

theorem awaitFor_leads {look : σ → Plugin → Look σ β × Plugin} (timeless : Timeless look)
    (wait : Duration) (sofar : σ) {p : Plugin} (sound : p.session.Sound) :
    Leads p.session (p.awaitFor wait look sofar).2.session := by
  have looked := timeless sofar p
  rw [awaitFor]
  rcases first : look sofar p with ⟨result | sofar, q⟩ <;> rw [first] at looked
  · exact looked.leads
  · exact looked.leads.trans
      (await_leads timeless wait sofar (looked.leads.sound sound) (Nat.le_add_right q.now wait))

theorem lookPull_timeless {pull : Plugin → Pulled Value × Plugin}
    (still : ∀ p, Silently p.session (pull p).2.session) : Timeless (lookPull pull) := by
  intro sofar p
  have pulled := still p
  unfold lookPull
  rcases got : pull p with ⟨_ | _ | _ | _, q⟩ <;> rw [got] at pulled <;> exact pulled

theorem lookAll_timeless (id : RequestId) : Timeless (lookAll id) := by
  intro sofar p
  unfold lookAll
  split
  · rename_i z timed held
    exact pullAll_silent id z timed p
  · exact .refl p.session

theorem lookAnswer_timeless (id : RequestId) : Timeless (lookAnswer id) := by
  intro sofar p
  unfold lookAnswer
  split <;> exact .refl p.session

theorem lookClosed_timeless : Timeless lookClosed := by
  intro sofar p
  unfold lookClosed
  split <;> exact .refl p.session

theorem pullHeld_silent (id : RequestId) (p : Plugin) :
    Silently p.session (p.pullHeld id).2.session := by
  unfold pullHeld
  split
  · rename_i z timed held
    exact pull_silent id z timed p
  · exact .refl p.session

theorem recv_silent (id : RequestId) (p : Plugin) : Silently p.session (p.recv id).2.session :=
  Session.recv_silent id p.session

/-! ## Actions -/

theorem accepted_snd (answer : Except CallError Unit × Plugin) :
    (accepted answer).2 = answer.2 := by
  rcases answer with ⟨_ | _, p⟩ <;> rfl

theorem inTime_snd (answer : Option Outcome × Plugin) : (inTime answer).2 = answer.2 := by
  rcases answer with ⟨_ | _, p⟩ <;> rfl

/-- All that a move of the plugin can do to its session, and whether it sends a heartbeat. -/
inductive Affects (p : Plugin) : Bool → Session → Prop where
  /-- It may make a request, and does not wait. -/
  | asks {s : Session} (asks : Asking p.session s) : Affects p false s
  /-- It waits for something, and may let go of it then. -/
  | waits {σ β : Type} {look : σ → Plugin → Look σ β × Plugin} {s : Session}
    (timeless : Timeless look) (wait : Duration) (sofar : σ)
    (rest : Silently (p.awaitFor wait look sofar).2.session s) : Affects p false s
  | beats : Affects p true p.session.heartbeat.2

theorem actPlugin_affects (move : PluginMove) (p : Plugin) :
    Affects p move.isHeartbeat (p.actPlugin move).2.session := by
  have nothing : Affects p false p.session := .asks (.refl p.session)
  have released (id : RequestId) : Affects p false (p.release id).session :=
    .asks (Silently.asking (release_silent id p))
  cases move with
  | send id sessionId kind payload | invoke id sessionId kind payload shape =>
    rw [actPlugin, accepted_snd]
    exact .asks (request_asks id sessionId kind payload _ p)
  | start id sessionId job => exact .asks (start_asks id sessionId job p)
  | addModel name sessionId => exact nothing
  | stream id model request =>
    rw [actPlugin, accepted_snd]
    exact .asks (requestTimed_asks id model .llm _ _ p)
  | recv id wait =>
    simp only [actPlugin]
    split
    · rw [inTime_snd]
      exact .waits (lookPull_timeless (recv_silent id)) wait () (.refl _)
    · exact nothing
  | next id wait =>
    simp only [actPlugin]
    split
    · rw [inTime_snd]
      exact .waits (lookPull_timeless (pullHeld_silent id)) wait () (.refl _)
    · exact .waits (lookPull_timeless (pullHeld_silent id)) wait () (.refl _)
    · exact nothing
  | takeAll id wait =>
    simp only [actPlugin]
    split
    · rw [inTime_snd]
      exact .waits (lookAll_timeless id) wait [] (release_silent id _)
    · exact nothing
  | join id wait =>
    simp only [actPlugin]
    split
    · rw [inTime_snd]
      exact .waits (lookAnswer_timeless id) wait () (.refl _)
    · rw [inTime_snd]
      exact .waits (lookAnswer_timeless id) wait () (.refl _)
    · exact nothing
  | drop id | cancel id =>
    simp only [actPlugin]
    split
    · exact released id
    · exact released id
    · exact nothing
  | heartbeat =>
    simp only [actPlugin]
    rw [accepted_snd]
    exact .beats
  | close => exact .asks (Silently.asking (.of_move p.session .close rfl rfl rfl))
  | closed wait =>
    simp only [actPlugin]
    rw [inTime_snd]
    exact .waits lookClosed_timeless wait () (.refl _)
  | dropInbound => exact .asks (Silently.asking (.of_move p.session .dropInbound rfl rfl rfl))

theorem Affects.leads {beats : Bool} {p : Plugin} {s : Session} (h : Affects p beats s)
    (sound : p.session.Sound) : Leads p.session s := by
  cases h with
  | asks asks => exact asks.leads
  | waits timeless wait sofar rest =>
    exact (awaitFor_leads timeless wait sofar sound).trans rest.leads
  | beats => exact ⟨[.heartbeat], rfl⟩

theorem deliver_silent (fuel : Nat) (bytes : Text.Utf8.Bytes) (p : Plugin) :
    Silently p.session (deliver fuel bytes p).session := by
  induction fuel generalizing bytes p with
  | zero => exact .refl p.session
  | succ fuel ih =>
    rw [deliver]
    split
    · exact .refl p.session
    · have read := Session.readBytes_silent (bytes.take pipeCapacity) p.session
      have settled := settle_silent (p.onSession (Session.readBytes (bytes.take pipeCapacity)))
      exact (read.trans settled).trans (ih _ _)

theorem actDaemon_silent (move : DaemonMove) (p : Plugin) :
    Silently p.session (p.actDaemon move).session := by
  cases move with
  | write bytes => exact deliver_silent _ bytes p
  | hangUp => exact Session.endInput_silent p.session
  | stopReading => exact .of_move p.session .endOutput rfl rfl rfl

theorem actClock_leads (move : ClockMove) {p : Plugin} (sound : p.session.Sound) :
    Leads p.session (p.actClock move).session := by
  cases move with
  | advance span => exact awaitFor_leads (fun _ q => .refl q.session) span () sound
  | jump span => exact moveTo_leads (Nat.le_add_right p.now span)

/-- Whatever is done to a plugin comes to moves of its session. -/
theorem act_leads (action : Action) {p : Plugin} (sound : p.session.Sound) :
    Leads p.session (p.act action).2.session := by
  cases action with
  | plugin move => exact ((actPlugin_affects move p).leads sound).trans (settle_silent _).leads
  | daemon move => exact ((actDaemon_silent move p).trans (settle_silent _)).leads
  | clock move => exact (actClock_leads move sound).trans (settle_silent _).leads

/-! ## Always -/

theorem launch_leads (settings : Settings) :
    Leads (.start settings) (launch settings).session := by
  have later : (⟨.start settings, [], [], .empty⟩ : Plugin).now ≤ 0 := Nat.le_refl 0
  exact moveTo_leads later

theorem acts_leads (actions : List Action) {p : Plugin} (sound : p.session.Sound) :
    Leads p.session (acts actions p).session := by
  induction actions generalizing p with
  | nil => exact Leads.refl p.session
  | cons action actions ih =>
    have first := act_leads action sound
    exact first.trans (ih (first.sound sound))

/-- At all times the session of a plugin is what some run has made of it. -/
theorem always_run (settings : Settings) (actions : List Action) :
    ∃ ms, (acts actions (launch settings)).session = Session.run ms (.start settings) := by
  have launched := launch_leads settings
  exact launched.trans (acts_leads actions (launched.sound (Session.sound_start settings)))

/-- So its entries are always those of the callers that still wait. -/
theorem always_registryExact (settings : Settings) (actions : List Action) :
    Session.RegistryExact (acts actions (launch settings)).session := by
  obtain ⟨ms, same⟩ := always_run settings actions
  rw [same]
  exact (Session.sound_run settings ms).toRegistered.exact

end Plugin

end Backchannel
