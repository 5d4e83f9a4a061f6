/-
# Backchannel.Proofs.Plugin.Flight -- one completion at a time

In whatever order a plugin takes its smallest steps (`Op`), a model runs exactly while one of
its calls is in flight, and whoever calls it then is refused and changes nothing
(`single_flight`).

A call is in flight (`InFlight`) from the step that starts it to the one that ends it; both can
be told from what the steps answer, without a look at the guards.  The proof is that guards
are set and given back in just these steps.
-/
import Backchannel.Plugin.Run
import Backchannel.Proofs.Plugin.Runs
import Backchannel.Proofs.Session.Closing
import Backchannel.Proofs.Timing

namespace Backchannel.Plugin

set_option autoImplicit false

open Backchannel.Json (Decoder Value)

/-! ## The smallest steps -/

/-- The id under which a step makes a request. -/
def Op.requests? : Op → Option RequestId
  | .send id _ _ _ | .invoke id _ _ _ _ | .start id _ _ | .stream id _ _ => some id
  | _ => none

/-- Each request of a run has an id of its own. -/
def Distinct (ops : List Op) : Prop := (ops.filterMap Op.requests?).Nodup

/-- The step calls a model, under that id. -/
inductive Op.Calls (id : RequestId) (model : ModelName) : Op → Prop where
  | task (sessionId : Option String) (request : Completion.Request) :
    Calls id model (.start id sessionId (.completion model request))
  | stream (request : Completion.Request) : Calls id model (.stream id model request)

namespace Step

/-- A call of a model begins, and is not refused. -/
def Starts (family : Nat) (id : RequestId) (st : Step) : Prop :=
  st.report = .made (.ok ()) ∧ ∃ model, st.op.Calls id model ∧
    st.before.timing.contexts.get? model = some family

/-- The call that a step ends: its task is answered or cancelled, its stream brings the end
or an error, or is let go. -/
def ended? (st : Step) : Option RequestId :=
  match st.op, st.report with
  | .look id, .looked (some _) => some id
  | .cancel id, .done => some id
  | .next id, .pulled got => if got.isOver then some id else none
  | .drain id, .drained _ true => some id
  | .drop id, .done => some id
  | _, _ => none

end Step

/-- A call of a model is in flight after the steps `t`. -/
def InFlight (family : Nat) (t : List Step) (id : RequestId) : Prop :=
  ∃ t₁ st t₂, t = t₁ ++ st :: t₂ ∧ st.Starts family id ∧ ∀ later ∈ t₂, later.ended? ≠ some id

variable {p : Plugin} {op : Op} {t : List Step} {st : Step} {id : RequestId} {family : Nat}
  {model : ModelName}

theorem inFlight_snoc :
    InFlight family (t ++ [st]) id ↔
      (InFlight family t id ∧ st.ended? ≠ some id) ∨ st.Starts family id :=
  since_snoc

/-! ## A call begins -/

/-- What a call of a model that is there comes to. -/
inductive Begun (family : Nat) (model : ModelName) (id : RequestId) (p q : Plugin) :
    Except CallError Unit → Prop where
  /-- The model runs. -/
  | race (running : p.timing.isRunning model = true) (session : q.session = p.session)
    (timing : q.timing = p.timing) : Begun family model id p q (.error .race)
  /-- The session is closed. -/
  | closed {reason : CloseReason} (idle : p.timing.isRunning model = false)
    (status : p.session.status = .closed reason) (session : q.session = p.session)
    (timing : q.timing = p.timing) :
    Begun family model id p q (.error (.connectionClosed reason))
  | taken (idle : p.timing.isRunning model = false) (opened : p.session.status = .opened)
    (timing : q.timing = p.timing.entered id family p.now) : Begun family model id p q (.ok ())

theorem requestTimed_begun (sound : p.session.Sound)
    (own : p.timing.contexts.get? model = some family) (fresh : p.timing.guards.get? id = none)
    (kind : Kind) (payload : Value) (h : Held) :
    Begun family model id p (p.requestTimed id model kind payload h).2
      (p.requestTimed id model kind payload h).1 := by
  cases running : p.timing.isRunning model with
  | true =>
    have entered := Timing.enter_of_running running id p.now
    simp only [requestTimed, entered]
    exact .race running rfl rfl
  | false =>
    have entered := Timing.enter_of_idle own running id p.now
    cases status : p.session.status with
    | closed reason =>
      have sent := Session.send_of_closed (s := p.session) (by rw [status]; rfl) id
        ((p.models.get? model).getD none) kind payload
      have undone := Timing.release_entered (Timing.idle_slot own running) fresh p.now
      simp only [requestTimed, entered, request, sent, Session.refusal_of_closed status]
      exact .closed running status rfl undone
    | opened =>
      have sent := sound.toGoverned.send_of_open (by rw [status]; rfl) id
        ((p.models.get? model).getD none) kind payload
      simp only [requestTimed, entered, request, sent, hold]
      exact .taken running status rfl

/-- Both kinds of calls make a timed request; what is held of it is their own affair. -/
theorem Op.Calls.requestTimed (calls : op.Calls id model) (p : Plugin) :
    ∃ payload h, (p.perform op).1 = .made (p.requestTimed id model .llm payload h).1 ∧
      (p.step op).session = (p.requestTimed id model .llm payload h).2.session ∧
      (p.step op).timing = (p.requestTimed id model .llm payload h).2.timing := by
  cases calls with
  | task sessionId request =>
    refine ⟨request.payload false, .running (.completion model request), rfl, ?_⟩
    rcases answer : p.requestTimed id model .llm (request.payload false)
      (.running (.completion model request)) with ⟨_ | _, q⟩ <;>
      simp [step, perform, Plugin.start, hold, answer]
  | stream request =>
    exact ⟨request.payload true, .stream (.ofRequest id chunkShape) true, rfl, rfl, rfl⟩

theorem Op.Calls.begun (calls : op.Calls id model) (sound : p.session.Sound)
    (own : p.timing.contexts.get? model = some family)
    (fresh : p.timing.guards.get? id = none) :
    ∃ result, (p.perform op).1 = .made result ∧ Begun family model id p (p.step op) result := by
  obtain ⟨payload, h, report, session, timing⟩ := calls.requestTimed p
  have begun := requestTimed_begun sound own fresh .llm payload h
  rcases answer : p.requestTimed id model .llm payload h with ⟨result, q⟩
  rw [answer] at begun report session timing
  refine ⟨result, report, ?_⟩
  cases begun with
  | race running session' timing' =>
    exact .race running (session.trans session') (timing.trans timing')
  | closed idle status session' timing' =>
    exact .closed idle status (session.trans session') (timing.trans timing')
  | taken idle opened timing' => exact .taken idle opened (timing.trans timing')

/-! ## What a step touches -/

theorem step_leads (op : Op) (p : Plugin) : Session.Leads p.session (p.step op).session := by
  cases op with
  | session m => exact ⟨[m], rfl⟩
  | addModel name sessionId => exact Session.Leads.refl p.session
  | send id sessionId kind payload => exact (request_asks id sessionId kind payload _ p).leads
  | invoke id sessionId kind payload shape =>
    exact (request_asks id sessionId kind payload _ p).leads
  | start id sessionId job => exact (start_asks id sessionId job p).leads
  | stream id model request => exact (requestTimed_asks id model .llm _ _ p).leads
  | look id =>
    simp only [step, perform]
    split
    · exact (look_silent p _).leads
    · exact Session.Leads.refl p.session
  | next id =>
    simp only [step, perform]
    split
    · exact (pull_silent id _ _ p).leads
    · exact Session.Leads.refl p.session
  | drain id =>
    simp only [step, perform]
    split
    · exact (pullAll_silent id _ _ p).leads
    · exact Session.Leads.refl p.session
  | drop id =>
    simp only [step, perform]
    split
    · exact (release_silent id p).leads
    · exact (release_silent id p).leads
    · exact Session.Leads.refl p.session
  | cancel id =>
    simp only [step, perform]
    split
    · exact (release_silent id p).leads
    · exact (release_silent id p).leads
    · exact Session.Leads.refl p.session
  | join id =>
    simp only [step, perform]
    split <;> exact Session.Leads.refl p.session

/-- What a step does to the guards: a call may set one, and whoever ends a call gives its
guard back. -/
inductive Touch (p : Plugin) (op : Op) : Prop where
  | call {id : RequestId} {model : ModelName} (calls : op.Calls id model)
    (goesOn : (Step.mk p op).ended? = none)
  | model {name : ModelName} (alone : ∀ id model, ¬ op.Calls id model)
    (goesOn : (Step.mk p op).ended? = none) (timing : (p.step op).timing = p.timing.create name)
  | kept (alone : ∀ id model, ¬ op.Calls id model) (goesOn : (Step.mk p op).ended? = none)
    (timing : (p.step op).timing = p.timing)
  | released {id : RequestId} (alone : ∀ id model, ¬ op.Calls id model)
    (ended : (Step.mk p op).ended? = some id) (timing : (p.step op).timing = p.timing.release id)

theorem request_timing (id : RequestId) (sessionId : Option String) (kind : Kind)
    (payload : Value) (h : Held) (p : Plugin) :
    (p.request id sessionId kind payload h).2.timing = p.timing := by
  rcases answer : p.session.send id sessionId kind payload with ⟨_ | _, session⟩ <;>
    simp [request, hold, answer]

theorem start_timing {job : Job} (single : ∀ model request, job ≠ .completion model request)
    (id : RequestId) (sessionId : Option String) (p : Plugin) :
    (p.start id sessionId job).timing = p.timing := by
  cases job with
  | first kind shape payload =>
    have same := request_timing id sessionId kind payload (.running (.first kind shape payload)) p
    rcases answer : p.request id sessionId kind payload (.running (.first kind shape payload)) with
      ⟨_ | _, q⟩ <;> simpa [Plugin.start, hold, answer] using same
  | storage op =>
    have same := request_timing id sessionId .storage op.payload (.running (.storage op)) p
    rcases answer : p.request id sessionId .storage op.payload (.running (.storage op)) with
      ⟨_ | _, q⟩ <;> simpa [Plugin.start, hold, answer] using same
  | completion model request => exact absurd rfl (single model request)

/-- A step that finds nothing to act on. -/
theorem Touch.gone (alone : ∀ id model, ¬ op.Calls id model) (gone : p.perform op = (.gone, p)) :
    Touch p op := by
  refine .kept alone ?_ ?_
  · simp only [Step.ended?, Step.report, gone]
  · rw [step, gone]

/-- A step that may be the last of a call, and gives the guard back if it is. -/
theorem Touch.last (id : RequestId) (ends : Bool) (alone : ∀ id model, ¬ op.Calls id model)
    (ended : (Step.mk p op).ended? = if ends then some id else none)
    (timing : (p.step op).timing = if ends then p.timing.release id else p.timing) :
    Touch p op := by
  cases ends with
  | true => exact .released alone ended timing
  | false => exact .kept alone ended timing

theorem look_timing (id : RequestId) (job : Job) (p : Plugin) :
    (p.look (id, .running job)).timing =
      if (job.conclude id (p.session.recv id).1).isSome then p.timing.release id
      else p.timing := by
  cases answer : job.conclude id (p.session.recv id).1 <;>
    simp [Plugin.look, release, hold, answer]

theorem pull_timing (id : RequestId) (z : Stream Value) (timed : Bool) (p : Plugin) :
    (p.pull id z timed).2.timing =
      if (p.pull id z timed).1.isOver then p.timing.release id else p.timing := by
  simp only [pull, hold, apply_ite Plugin.timing]
  rfl

theorem pullAll_timing (id : RequestId) (z : Stream Value) (timed : Bool) (p : Plugin) :
    (p.pullAll id z timed).2.2.timing =
      if (p.pullAll id z timed).2.1 then p.timing.release id else p.timing := by
  simp only [pullAll, hold, apply_ite Plugin.timing]
  rfl

theorem touch (p : Plugin) (op : Op) : Touch p op := by
  cases op with
  | session m => exact .kept nofun rfl rfl
  | addModel name sessionId => exact .model nofun rfl rfl
  | send id sessionId kind payload =>
    exact .kept nofun rfl (request_timing id sessionId kind payload _ p)
  | invoke id sessionId kind payload shape =>
    exact .kept nofun rfl (request_timing id sessionId kind payload _ p)
  | start id sessionId job =>
    cases job with
    | completion model request => exact .call (.task sessionId request) rfl
    | first kind shape payload => exact .kept nofun rfl (start_timing (by simp) id sessionId p)
    | storage op => exact .kept nofun rfl (start_timing (by simp) id sessionId p)
  | stream id model request => exact .call (.stream request) rfl
  | look id =>
    have alone : ∀ id' model, ¬ (Op.look id).Calls id' model := by rintro _ _ ⟨⟩
    rcases held : p.held.get? id with _ | _ | ⟨z, timed⟩ | job | answer
    case some.running =>
      refine .last id (job.conclude id (p.session.recv id).1).isSome alone ?_ ?_
      · cases answer : job.conclude id (p.session.recv id).1 <;>
          simp [Step.ended?, Step.report, perform, held, answer]
      · simpa only [step, perform, held] using look_timing id job p
    all_goals exact .gone alone (by simp [perform, held])
  | next id =>
    have alone : ∀ id' model, ¬ (Op.next id).Calls id' model := by rintro _ _ ⟨⟩
    rcases held : p.held.get? id with _ | _ | ⟨z, timed⟩ | job | answer
    case some.stream =>
      refine .last id (p.pull id z timed).1.isOver alone ?_ ?_
      · simp [Step.ended?, Step.report, perform, held]
      · simpa only [step, perform, held] using pull_timing id z timed p
    all_goals exact .gone alone (by simp [perform, held])
  | drain id =>
    have alone : ∀ id' model, ¬ (Op.drain id).Calls id' model := by rintro _ _ ⟨⟩
    rcases held : p.held.get? id with _ | _ | ⟨z, timed⟩ | job | answer
    case some.stream =>
      refine .last id (p.pullAll id z timed).2.1 alone ?_ ?_
      · cases ended : (p.pullAll id z timed).2.1 <;>
          simp [Step.ended?, Step.report, perform, held, ended]
      · simpa only [step, perform, held] using pullAll_timing id z timed p
    all_goals exact .gone alone (by simp [perform, held])
  | drop id =>
    have alone : ∀ id' model, ¬ (Op.drop id).Calls id' model := by rintro _ _ ⟨⟩
    rcases held : p.held.get? id with _ | _ | ⟨z, timed⟩ | job | answer
    case some.subscription | some.stream =>
      refine .last id true alone ?_ ?_ <;>
        simp [Step.ended?, Step.report, step, perform, held, release]
    all_goals exact .gone alone (by simp [perform, held])
  | cancel id =>
    have alone : ∀ id' model, ¬ (Op.cancel id).Calls id' model := by rintro _ _ ⟨⟩
    rcases held : p.held.get? id with _ | _ | ⟨z, timed⟩ | job | answer
    case some.running | some.answered =>
      refine .last id true alone ?_ ?_ <;>
        simp [Step.ended?, Step.report, step, perform, held, release]
    all_goals exact .gone alone (by simp [perform, held])
  | join id =>
    have alone : ∀ id' model, ¬ (Op.join id).Calls id' model := by rintro _ _ ⟨⟩
    rcases held : p.held.get? id with _ | _ | ⟨z, timed⟩ | job | answer
    case some.answered =>
      exact .kept alone (by simp [Step.ended?])
        (by simp [step, perform, held])
    all_goals exact .gone alone (by simp [perform, held])

/-! ## Flight and guards -/

theorem Op.Calls.unique {id' : RequestId} {model' : ModelName} (calls : op.Calls id model)
    (calls' : op.Calls id' model') : id = id' ∧ model = model' := by
  cases calls <;> cases calls' <;> exact ⟨rfl, rfl⟩

theorem Op.Calls.requests (calls : op.Calls id model) : op.requests? = some id := by
  cases calls <;> rfl

theorem InFlight.requested (h : InFlight family t id) :
    ∃ st ∈ t, st.op.requests? = some id := by
  obtain ⟨t₁, st, t₂, rfl, ⟨-, model, calls, -⟩, -⟩ := h
  exact ⟨st, by simp, calls.requests⟩

/-- The guards that are there are those of the calls in flight. -/
structure Flying (t : List Step) (p : Plugin) : Prop where
  sound : p.session.Sound
  exact : p.timing.Exact
  flight : ∀ family id, p.timing.Runs family id ↔ InFlight family t id

theorem flying_idle (settings : Settings) : Flying [] (idle settings) where
  sound := Session.sound_start settings
  exact := Timing.exact_empty
  flight := by
    intro family id
    constructor
    · rintro ⟨at_, found⟩
      cases found
    · intro inFlight
      obtain ⟨st, among, -⟩ := inFlight.requested
      cases among

theorem Flying.fresh (h : Flying t p) (new : ∀ st ∈ t, st.op.requests? ≠ some id) :
    p.timing.guards.get? id = none := by
  cases found : p.timing.guards.get? id with
  | none => rfl
  | some g =>
    have inFlight := (h.flight g.family id).mp ⟨g.startedAt, found⟩
    obtain ⟨st, among, requests⟩ := inFlight.requested
    exact absurd requests (new st among)

theorem requestTimed_timing_of_none (unknown : p.timing.contexts.get? model = none)
    (fresh : p.timing.guards.get? id = none) (kind : Kind) (payload : Value) (h : Held) :
    (p.requestTimed id model kind payload h).2.timing = p.timing := by
  have entered := Timing.enter_of_none unknown id p.now
  have same := request_timing id ((p.models.get? model).getD none) kind payload h p
  have untouched := Timing.release_of_none fresh
  rcases answer : p.request id ((p.models.get? model).getD none) kind payload h with ⟨_ | _, q⟩ <;>
    rw [answer] at same <;> simp_all [requestTimed]

/-- A call begins or is refused. -/
theorem Flying.call (h : Flying t p) (calls : op.Calls id model)
    (new : ∀ st ∈ t, st.op.requests? ≠ some id) :
    (p.step op).timing.Exact ∧ ∀ f key, (p.step op).timing.Runs f key ↔
      p.timing.Runs f key ∨ (Step.mk p op).Starts f key := by
  have fresh := h.fresh new
  -- Whoever starts in this step is this call.
  have starts (f : Nat) (key : RequestId) :
      (Step.mk p op).Starts f key ↔ (p.perform op).1 = .made (.ok ()) ∧ key = id ∧
        p.timing.contexts.get? model = some f := by
    constructor
    · rintro ⟨report, model', calls', own⟩
      obtain ⟨rfl, rfl⟩ := calls'.unique calls
      exact ⟨report, rfl, own⟩
    · rintro ⟨report, rfl, own⟩
      exact ⟨report, model, calls, own⟩
  simp only [starts]
  cases own : p.timing.contexts.get? model with
  | none =>
    obtain ⟨payload, held, -, -, timing⟩ := calls.requestTimed p
    rw [timing, requestTimed_timing_of_none own fresh]
    exact ⟨h.exact, by simp⟩
  | some family =>
    obtain ⟨result, report, begun⟩ := calls.begun h.sound own fresh
    rw [report]
    cases begun with
    | race running session timing => exact ⟨timing ▸ h.exact, by simp [timing]⟩
    | closed idle status session timing => exact ⟨timing ▸ h.exact, by simp [timing]⟩
    | taken idle opened timing =>
      have free := Timing.idle_slot own idle
      have bound := h.exact.context model family own
      refine ⟨timing ▸ h.exact.entered free fresh bound p.now, fun f key => ?_⟩
      rw [timing, Timing.entered_runs id family p.now p.timing fresh]
      simp [and_comm, eq_comm]

theorem Flying.step (h : Flying t p) (op : Op)
    (new : ∀ id, op.requests? = some id → ∀ st ∈ t, st.op.requests? ≠ some id) :
    Flying (t ++ [⟨p, op⟩]) (p.step op) := by
  have sound := (step_leads op p).sound h.sound
  have none_starts (alone : ∀ id model, ¬ op.Calls id model) (f : Nat) (key : RequestId) :
      ¬ (Step.mk p op).Starts f key := fun ⟨_, model, calls, _⟩ => alone key model calls
  cases touch p op with
  | call calls goesOn =>
    obtain ⟨exact, runs⟩ := h.call calls (new _ calls.requests)
    refine ⟨sound, exact, fun f key => ?_⟩
    rw [runs, inFlight_snoc, h.flight, goesOn]
    simp
  | model alone goesOn timing =>
    refine ⟨sound, timing ▸ h.exact.create _, fun f key => ?_⟩
    have same : (p.step op).timing.Runs f key ↔ p.timing.Runs f key := by rw [timing]; rfl
    rw [same, inFlight_snoc, h.flight, goesOn]
    simp [none_starts alone]
  | kept alone goesOn timing =>
    refine ⟨sound, timing ▸ h.exact, fun f key => ?_⟩
    rw [timing, inFlight_snoc, h.flight, goesOn]
    simp [none_starts alone]
  | released alone ended timing =>
    refine ⟨sound, timing ▸ h.exact.release _, fun f key => ?_⟩
    rw [timing, Timing.release_runs, inFlight_snoc, h.flight, ended]
    simp [none_starts alone, eq_comm]

theorem Flying.run {ops : List Op} (h : Flying t p)
    (distinct : Distinct (t.map Step.op ++ ops)) :
    Flying (t ++ steps ops p) (run ops p) := by
  induction ops generalizing t p with
  | nil => simpa [steps, Plugin.run] using h
  | cons op ops ih =>
    have new (id : RequestId) (requests : op.requests? = some id) (st : Step) (among : st ∈ t) :
        st.op.requests? ≠ some id := by
      intro earlier
      simp only [Distinct, List.filterMap_append, List.filterMap_cons, requests,
        List.nodup_append] at distinct
      refine distinct.2.2 id ?_ id List.mem_cons_self rfl
      exact List.mem_filterMap.mpr ⟨st.op, List.mem_map_of_mem among, earlier⟩
    have rest := ih (h.step op new) (by simpa using distinct)
    simpa [steps, Plugin.run] using rest

/-! ## Single flight -/

/-- After the steps `t`, a step calls a model that is there, under an id of its own. -/
inductive NewCall (t : List Step) (p : Plugin) (model : ModelName) (op : Op) : Prop where
  | intro {id : RequestId} {family : Nat} (calls : op.Calls id model)
    (new : ∀ st ∈ t, st.op.requests? ≠ some id)
    (own : p.timing.contexts.get? model = some family)

/-- Completions of one model come one at a time, after the steps `t`. -/
structure SingleFlight (t : List Step) (p : Plugin) : Prop where
  /-- A model runs exactly while a call of it is in flight, -/
  running : ∀ model family, p.timing.contexts.get? model = some family →
    (p.timing.isRunning model = true ↔ ∃ id, InFlight family t id)
  /-- and then it is one call. -/
  single : ∀ family one two, InFlight family t one → InFlight family t two → one = two
  /-- Another call of the model fails with a race exactly if the model runs, -/
  race : ∀ op model, NewCall t p model op →
    ((p.perform op).1 = .made (.error .race) ↔ p.timing.isRunning model = true)
  /-- with the reason of the close exactly if it does not and the session is closed, -/
  closed : ∀ op model reason, NewCall t p model op →
    ((p.perform op).1 = .made (.error (.connectionClosed reason)) ↔
      p.timing.isRunning model = false ∧ p.session.status = .closed reason)
  /-- and in no other way.  A call that fails has left the session as it was, with no new entry
  and no new line, and nothing runs but what ran. -/
  refused : ∀ op model e, NewCall t p model op → (p.perform op).1 = .made (.error e) →
    (e = .race ∨ ∃ reason, e = .connectionClosed reason) ∧
      (p.step op).session = p.session ∧ (p.step op).timing = p.timing

theorem Flying.begun (h : Flying t p) (call : NewCall t p model op) :
    ∃ family id result, (p.perform op).1 = .made result ∧
      Begun family model id p (p.step op) result := by
  obtain ⟨calls, new, own⟩ := call
  obtain ⟨result, report, begun⟩ := calls.begun h.sound own (h.fresh new)
  exact ⟨_, _, result, report, begun⟩

theorem Flying.singleFlight (h : Flying t p) : SingleFlight t p where
  running := by
    intro model family own
    rw [h.exact.running own]
    simp only [h.flight]
  single := by
    intro family one two flies flies'
    exact h.exact.runs_once ((h.flight family one).mpr flies) ((h.flight family two).mpr flies')
  race := by
    intro op model call
    obtain ⟨family, id, result, report, begun⟩ := h.begun call
    rw [report]
    cases begun with
    | race running => simp [running]
    | closed idle => simp [idle]
    | taken idle => simp [idle]
  closed := by
    intro op model reason call
    obtain ⟨family, id, result, report, begun⟩ := h.begun call
    rw [report]
    cases begun with
    | race running => simp [running]
    | closed idle status => simp [idle, status]
    | taken idle opened => simp [opened]
  refused := by
    intro op model e call failed
    obtain ⟨family, id, result, report, begun⟩ := h.begun call
    rw [report] at failed
    cases begun with
    | race running session timing =>
      cases failed
      exact ⟨.inl rfl, session, timing⟩
    | closed idle status session timing =>
      cases failed
      exact ⟨.inr ⟨_, rfl⟩, session, timing⟩
    | taken => cases failed

/-- Whatever is done to a plugin, in whatever order: of each model at most one call is in
flight, the model runs exactly as long, and whoever calls it meanwhile is refused and has
changed nothing. -/
theorem single_flight (settings : Settings) {ops : List Op} (distinct : Distinct ops) :
    SingleFlight (steps ops (idle settings)) (run ops (idle settings)) := by
  have flying : Flying ([] ++ steps ops (idle settings)) (run ops (idle settings)) :=
    (flying_idle settings).run (by simpa using distinct)
  exact flying.singleFlight

def greeting : Completion.Request := ⟨⟨"acme", "m", "chat", []⟩, [], [], []⟩

/-- A task is cancelled, and its model can be called again; the call after that comes too
early. -/
def rivals : List Op :=
  [.addModel "m" none, .start "first" none (.completion "m" greeting), .look "first",
    .cancel "first", .stream "second" "m" greeting,
    .start "third" none (.completion "m" greeting)]

theorem rivals_singleFlight :
    Distinct rivals ∧
      (run rivals (idle ⟨5, none, 1⟩)).timing.isRunning "m" = true ∧
      SingleFlight (steps rivals (idle ⟨5, none, 1⟩)) (run rivals (idle ⟨5, none, 1⟩)) := by
  have distinct : Distinct rivals := by
    unfold Distinct
    decide
  exact ⟨distinct, by decide +kernel, single_flight ⟨5, none, 1⟩ distinct⟩

end Backchannel.Plugin
