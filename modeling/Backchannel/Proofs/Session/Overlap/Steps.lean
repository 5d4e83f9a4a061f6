/-
# Backchannel.Proofs.Session.Overlap.Steps -- callers and a close, step by step

What one step of an overlap can be, and what becomes of its callers in a run.  Steps that no
one comes between make up what is told at once elsewhere: a caller that moves alone sends as
`Session.send` does (`send_alone`), a close that moves alone closes as `Session.shutDown`
does (`close_alone`).  And wherever an overlap is, it can come to its end (`finishes`).
-/
import Backchannel.Session.Overlap
import Backchannel.Proofs.Session.Turn

namespace Backchannel

set_option autoImplicit false

variable {s : Session} {o : Overlap} {id : RequestId} {w : Sender}

/-! ## One caller -/

namespace Session

theorem enqueue_of_writing (writes : s.writing = true) (line : String) :
    s.enqueue line = (.ok (), { s with outbox := s.outbox ++ [line] }) :=
  if_pos writes

theorem enqueue_of_stopped (stopped : s.writing = false) (closed : s.status.isClosed = true)
    (line : String) : s.enqueue line = (.error s.refusal, s) := by
  simp [enqueue, stopped, shutDown_of_closed closed]

/-- The writer of an open session works. -/
def Works (s : Session) : Prop := s.status.isClosed = false → s.writing = true

theorem Works.closed (h : s.Works) (stopped : s.writing = false) : s.status.isClosed = true := by
  cases status : s.status.isClosed with
  | true => rfl
  | false => simp [h status] at stopped

end Session

namespace Stage

/-- How many steps a caller is from its return, at most. -/
def distance : Stage → Nat
  | .starting => 5
  | .admitted => 4
  | .registered => 3
  | .confirmed => 2
  | .refused _ => 1
  | .returned _ => 0

theorem distance_le (stage : Stage) : stage.distance ≤ 5 := by
  cases stage <;> simp [distance]

theorem returned_of_distance {stage : Stage} (near : stage.distance ≤ 0) :
    ∃ result, stage = .returned result := by
  cases stage with
  | returned result => exact ⟨result, rfl⟩
  | _ => cases near

end Stage

namespace Sender

/-- All that a caller does in one step. -/
inductive Advances (id : RequestId) (w : Sender) (s : Session) : Stage → Session → Prop where
  | admits (stage : w.stage = .starting) (opened : s.status.isClosed = false) :
    Advances id w s .admitted s
  | sendsAway (stage : w.stage = .starting) (closed : s.status.isClosed = true) :
    Advances id w s (.returned (.error s.refusal)) s
  | registers (stage : w.stage = .admitted) :
    Advances id w s .registered (s.register id w.wanted.kind)
  | confirms (stage : w.stage = .registered) (opened : s.status.isClosed = false) :
    Advances id w s .confirmed s
  | refuses (stage : w.stage = .registered) (closed : s.status.isClosed = true) :
    Advances id w s (.refused s.refusal) s
  | enqueues (stage : w.stage = .confirmed) (writing : s.writing = true) :
    Advances id w s (.returned (.ok ())) { s with outbox := s.outbox ++ [w.wanted.line id] }
  | stops (stage : w.stage = .confirmed) (closed : s.status.isClosed = true) :
    Advances id w s (.refused s.refusal) s
  | letsGo {e : CallError} (stage : w.stage = .refused e) :
    Advances id w s (.returned (.error e)) (s.drop id)
  | rests {result : Except CallError Unit} (stage : w.stage = .returned result) :
    Advances id w s (.returned result) s

theorem advances (w : Sender) (id : RequestId) (works : s.Works) :
    Advances id w s (w.advance id s).1 (w.advance id s).2 := by
  unfold advance
  split
  · rename_i stage
    cases status : s.status.isClosed with
    | true => exact .sendsAway stage status
    | false => exact .admits stage status
  · rename_i stage
    exact .registers stage
  · rename_i stage
    cases status : s.status.isClosed with
    | true => exact .refuses stage status
    | false => exact .confirms stage status
  · rename_i stage
    by_cases writes : s.writing = true
    · rw [Session.enqueue_of_writing writes]
      exact .enqueues stage writes
    · have stopped := Bool.eq_false_iff.mpr writes
      rw [Session.enqueue_of_stopped stopped (works.closed stopped)]
      exact .stops stage (works.closed stopped)
  · rename_i e stage
    exact .letsGo stage
  · rename_i result stage
    exact .rests stage

/-- Where a caller is after some steps of its own, and what it has made of the session. -/
def after (id : RequestId) (n : Nat) (w : Sender) (s : Session) : Stage × Session :=
  match n with
  | 0 => (w.stage, s)
  | n + 1 =>
    let (stage, s) := w.advance id s
    { w with stage := stage }.after id n s

theorem advance_distance (w : Sender) (id : RequestId) (s : Session) :
    (w.advance id s).1.distance ≤ w.stage.distance - 1 := by
  unfold advance
  split <;> rename_i stage <;> rw [stage]
  · split <;> simp [Stage.distance]
  · simp [Stage.distance]
  · split <;> simp [Stage.distance]
  · split <;> simp [Stage.distance]
  · simp [Stage.distance]
  · simp [Stage.distance]

theorem after_distance (w : Sender) (n : Nat) (id : RequestId) (s : Session) :
    (w.after id n s).1.distance ≤ w.stage.distance - n := by
  induction n generalizing w s with
  | zero => exact Nat.le_refl _
  | succ n ih =>
    have first := w.advance_distance id s
    have rest := ih { w with stage := (w.advance id s).1 } (w.advance id s).2
    refine Nat.le_trans rest ?_
    simp only
    omega

end Sender

namespace Overlap

/-! ## What becomes of the callers -/

theorem run_append (acts more : List Act) (o : Overlap) :
    run (acts ++ more) o = run more (run acts o) :=
  List.foldl_append

theorem run_snoc (acts : List Act) (a : Act) (o : Overlap) :
    run (acts ++ [a]) o = (run acts o).step a :=
  run_append acts [a] o

/-- The overlap after a step of the caller of a request. -/
def sent (id : RequestId) (stage : Stage) (s : Session) (o : Overlap) : Overlap :=
  { o with session := s, senders := o.senders.modify id fun w => { w with stage := stage } }

theorem step_send (found : o.senders.get? id = some w) :
    o.step (.send id) = o.sent id (w.advance id o.session).1 (w.advance id o.session).2 := by
  simp [step, found, sent]

theorem sent_get? (found : o.senders.get? id = some w) (stage : Stage) (s : Session) :
    (o.sent id stage s).senders.get? id = some { w with stage := stage } := by
  simp [sent, Keyed.get?_modify, found]

theorem sent_stage? (found : o.senders.get? id = some w) (stage : Stage) (s : Session)
    (other : RequestId) :
    (o.sent id stage s).stage? other = if id = other then some stage else o.stage? other := by
  by_cases same : id = other
  · subst same
    simp [stage?, sent, Keyed.get?_modify, found]
  · simp [stage?, sent, Keyed.get?_modify, same]

theorem sent_sent (id : RequestId) (first last : Stage) (s s' : Session) (o : Overlap) :
    (o.sent id first s).sent id last s' = o.sent id last s' := by
  have once : (o.senders.modify id fun w => { w with stage := first }).modify id
      (fun w => { w with stage := last }) = o.senders.modify id fun w => { w with stage := last } := by
    simp only [Keyed.modify, List.map_map]
    refine List.map_congr_left fun e _ => ?_
    by_cases own : e.1 = id <;> simp [own]
  simp [sent, once]

theorem stage?_step_other (o : Overlap) {a : Act} (other : a ≠ .send id) :
    (o.step a).stage? id = o.stage? id := by
  cases a with
  | send sender =>
    have apart : sender ≠ id := fun same => other (congrArg Act.send same)
    cases found : o.senders.get? sender with
    | none => simp [step, found]
    | some w => rw [step_send found, sent_stage? found, if_neg apart]
  | close | find | leaveOutput => rfl

theorem stage?_send {stage : Stage} (at_ : o.stage? id = some stage) :
    ∃ w, o.senders.get? id = some w ∧ w.stage = stage ∧
      (o.step (.send id)).stage? id = some (w.advance id o.session).1 := by
  obtain ⟨w, found, rfl⟩ := Option.map_eq_some_iff.mp at_
  exact ⟨w, found, rfl, by rw [step_send found, sent_stage? found, if_pos rfl]⟩

theorem returned_stays {result : Except CallError Unit} (at_ : o.stage? id = some (.returned result))
    (acts : List Act) : (run acts o).stage? id = some (.returned result) := by
  induction acts generalizing o with
  | nil => exact at_
  | cons a acts ih =>
    refine ih ?_
    by_cases own : a = .send id
    · obtain ⟨w, -, stage, next⟩ := stage?_send at_
      rw [own, next, Sender.advance, stage]
    · rw [stage?_step_other o own, at_]

theorem wanted_run (acts : List Act) (o : Overlap) (id : RequestId) :
    ((run acts o).senders.get? id).map Sender.wanted = (o.senders.get? id).map Sender.wanted := by
  induction acts generalizing o with
  | nil => rfl
  | cons a acts ih =>
    refine (ih (o.step a)).trans ?_
    cases a with
    | send sender =>
      cases found : o.senders.get? sender with
      | none => simp [step, found]
      | some w =>
        rw [step_send found, sent, Keyed.get?_modify]
        split
        · simp only [Option.map_map]
          rfl
        · rfl
    | close | find | leaveOutput => rfl

/-- Only a caller that was admitted twice hands over a line. -/
theorem step_outbox (works : o.session.Works) (a : Act) :
    (o.step a).session.outbox = o.session.outbox ∨ (o.step a).session.outbox = [] ∨
      ∃ id w, a = .send id ∧ o.senders.get? id = some w ∧ w.stage = .confirmed ∧
        (o.step a).session.outbox = o.session.outbox ++ [w.wanted.line id] := by
  cases a with
  | send id =>
    cases found : o.senders.get? id with
    | none => exact .inl (by simp [step, found])
    | some w =>
      have advances := w.advances id works
      rw [step_send found]
      simp only [sent]
      generalize (w.advance id o.session).1 = stage, (w.advance id o.session).2 = s at advances ⊢
      cases advances with
      | enqueues stage => exact .inr (.inr ⟨id, w, rfl, found, stage, rfl⟩)
      | _ => exact .inl rfl
  | close =>
    refine .inl ?_
    simp only [step, Closer.advance]
    split
    · split <;> rfl
    · rfl
    · split <;> rfl
    · rfl
    · split <;> rfl
    · rfl
    · rfl
  | find id => exact .inl rfl
  | leaveOutput =>
    simp only [step, Session.leaveOutput]
    split
    · exact .inr (.inl rfl)
    · exact .inl rfl

/-! ## One at a time -/

theorem run_send (found : o.senders.get? id = some w) (n : Nat) :
    run (List.replicate (n + 1) (.send id)) o =
      o.sent id (w.after id (n + 1) o.session).1 (w.after id (n + 1) o.session).2 := by
  induction n generalizing o w with
  | zero => exact step_send found
  | succ n ih =>
    have first := step_send found
    refine (congrArg (run (List.replicate (n + 1) (.send id))) first).trans ?_
    rw [ih (sent_get? found _ _), sent_sent]
    rfl

/-- A caller whose steps no one comes between sends as `Session.send` does. -/
theorem send_alone (found : o.senders.get? id = some w) (starting : w.stage = .starting)
    (works : o.session.Works) :
    let sent := o.session.send id w.wanted.sessionId w.wanted.kind w.wanted.payload
    run (List.replicate 5 (.send id)) o = o.sent id (.returned sent.1) sent.2 := by
  intro sent
  have same : w.after id 5 o.session = (.returned sent.1, sent.2) := by
    cases status : o.session.status.isClosed with
    | true =>
      simp [Sender.after, Sender.advance, starting, status, sent, Session.send]
    | false =>
      have writing := works status
      simp [Sender.after, Sender.advance, starting, status, sent, Session.send, Session.register,
        Session.enqueue, writing, Wanted.line]
  rw [run_send found 4, same]

/-- It passes what is in the table of what it comes upon. -/
theorem run_find (ids owed found : List RequestId) (o : Overlap) :
    run (ids.map .find) { o with closer := .collecting owed found } =
      { o with closer := .collecting owed (found ++ ids.filter o.session.isOutstanding) } := by
  induction ids generalizing found with
  | nil => simp [run]
  | cons id ids ih =>
    cases waits : o.session.isOutstanding id with
    | true =>
      have first : { o with closer := .collecting owed found }.step (.find id) =
          { o with closer := .collecting owed (found ++ [id]) } := by
        simp [step, Closer.find, waits]
      refine (congrArg (run (ids.map .find)) first).trans ((ih _).trans ?_)
      simp [waits]
    | false =>
      have first : { o with closer := .collecting owed found }.step (.find id) =
          { o with closer := .collecting owed found } := by
        simp [step, Closer.find, waits]
      refine (congrArg (run (ids.map .find)) first).trans ((ih _).trans ?_)
      simp [waits]

/-- It takes and tells one after the other. -/
theorem run_failing (left : List RequestId) (o : Overlap) :
    ∃ n, run (List.replicate n .close) { o with closer := .failing left } =
      { o with
        session := left.foldl
          (fun s id => s.fail id (CallError.connectionClosed o.reason).duplicate) o.session
        closer := .finished } := by
  induction left generalizing o with
  | nil => exact ⟨1, rfl⟩
  | cons id left ih =>
    cases entry : o.session.table.get? id with
    | none =>
      obtain ⟨n, last⟩ := ih o
      refine ⟨n + 1, ?_⟩
      have first : { o with closer := .failing (id :: left) }.step .close =
          { o with closer := .failing left } := by
        simp [step, Closer.advance, entry]
      refine (congrArg (run (List.replicate n .close)) first).trans (last.trans ?_)
      simp [Session.fail, entry]
    | some e =>
      let failed := o.session.fail id (CallError.connectionClosed o.reason).duplicate
      obtain ⟨n, last⟩ := ih { o with session := failed }
      refine ⟨n + 2, ?_⟩
      have first : ({ o with closer := .failing (id :: left) }.step .close).step .close =
          { o with session := failed, closer := .failing left } := by
        simp [step, Closer.advance, entry, failed, Session.fail]
      exact (congrArg (run (List.replicate n .close)) first).trans last

/-- A close that has come upon all that is owed can come to its end. -/
theorem run_collecting (owed found : List RequestId) (o : Overlap) :
    ∃ n, run (owed.map .find ++ .close :: List.replicate n .close)
        { o with closer := .collecting owed found } =
      { o with
        session := (found ++ owed.filter o.session.isOutstanding).foldl
          (fun s id => s.fail id (CallError.connectionClosed o.reason).duplicate) o.session
        closer := .finished } := by
  let all := found ++ owed.filter o.session.isOutstanding
  obtain ⟨n, last⟩ := run_failing all o
  refine ⟨n, ?_⟩
  rw [run_append, run_find]
  have complete : (owed.all fun id => all.contains id || !o.session.isOutstanding id) = true := by
    rw [List.all_eq_true]
    intro id listed
    cases waits : o.session.isOutstanding id with
    | true => simp [all, waits, listed]
    | false => simp
  have ends : { o with closer := .collecting owed all }.step .close =
      { o with closer := .failing all } := by
    simp only [step, Closer.advance, complete, if_true]
  exact (congrArg (run (List.replicate n .close)) ends).trans last

/-- A close whose steps no one comes between closes as `Session.shutDown` does. -/
theorem close_alone (waiting : o.closer = .waiting) (opened : o.session.status = .opened) :
    ∃ acts, run acts o =
      { o with session := o.session.shutDown o.reason, closer := .finished } := by
  let announced : Session := { o.session with status := .closed o.reason }
  let keys := o.session.table.keys
  obtain ⟨n, last⟩ := run_collecting keys [] { o with session := announced }
  refine ⟨.close :: .close :: (keys.map .find ++ .close :: List.replicate n .close), ?_⟩
  have begins : (o.step .close).step .close =
      { o with session := announced, closer := .collecting keys [] } := by
    simp [step, Closer.advance, waiting, opened, announced, keys]
  have all : keys.filter announced.isOutstanding = keys :=
    List.filter_eq_self.mpr fun id listed => Keyed.mem_keys_iff.mp listed
  have shut : o.session.shutDown o.reason = announced.failAll (.connectionClosed o.reason) :=
    Session.shutDown_of_open (by rw [opened]; rfl) o.reason
  refine (congrArg (run _) begins).trans (last.trans ?_)
  rw [shut, Session.failAll, List.nil_append, all]

/-! ## To the end -/

/-- A caller that goes on comes to its return. -/
theorem send_returns (found : o.senders.get? id = some w) :
    ∃ result, (run (List.replicate 5 (.send id)) o).stage? id = some (.returned result) := by
  rw [run_send found 4, sent_stage? found, if_pos rfl]
  have near := w.after_distance 5 id o.session
  rw [Nat.sub_eq_zero_of_le w.stage.distance_le] at near
  obtain ⟨result, last⟩ := Stage.returned_of_distance near
  exact ⟨result, congrArg some last⟩

/-- If there is a caller of that id, it has returned. -/
def Returned (o : Overlap) (id : RequestId) : Prop :=
  ∀ stage, o.stage? id = some stage → ∃ result, stage = .returned result

theorem Returned.run (h : o.Returned id) (acts : List Act) : (run acts o).Returned id := by
  intro stage at_
  cases before : o.stage? id with
  | none =>
    have same := wanted_run acts o id
    rw [stage?, Option.map_eq_none_iff] at before
    rw [before, Option.map_none, Option.map_eq_none_iff] at same
    simp [stage?, same] at at_
  | some stage' =>
    obtain ⟨result, rfl⟩ := h stage' before
    rw [returned_stays before] at at_
    exact ⟨result, (Option.some.inj at_).symm⟩

theorem returned_send (o : Overlap) (id : RequestId) :
    (run (List.replicate 5 (.send id)) o).Returned id := by
  cases found : o.senders.get? id with
  | none =>
    have absent : o.Returned id := by
      intro stage at_
      simp [stage?, found] at at_
    exact absent.run _
  | some w =>
    intro stage at_
    obtain ⟨result, last⟩ := send_returns found
    rw [last] at at_
    exact ⟨result, (Option.some.inj at_).symm⟩

/-- A close that goes on comes to its end. -/
theorem close_finishes (o : Overlap) : ∃ acts, (run acts o).closer = .finished := by
  have failing (left : List RequestId) (o : Overlap) :
      ∃ acts, (run acts { o with closer := .failing left }).closer = .finished := by
    obtain ⟨n, last⟩ := run_failing left o
    exact ⟨_, congrArg Overlap.closer last⟩
  have announced (o : Overlap) :
      ∃ acts, (run acts { o with closer := .announced }).closer = .finished := by
    obtain ⟨n, last⟩ := run_collecting o.session.table.keys [] o
    exact ⟨.close :: _, congrArg Overlap.closer last⟩
  obtain ⟨session, senders, reason, closer⟩ := o
  cases closer with
  | waiting =>
    cases status : session.status with
    | opened =>
      obtain ⟨acts, last⟩ := announced
        ⟨{ session with status := .closed reason }, senders, reason, .waiting⟩
      refine ⟨.close :: acts, ?_⟩
      simpa [run, step, Closer.advance, status] using last
    | closed first =>
      refine ⟨[.close], ?_⟩
      simp [run, step, Closer.advance, status]
  | announced => exact announced ⟨session, senders, reason, .waiting⟩
  | collecting owed found =>
    obtain ⟨n, last⟩ := run_collecting owed found ⟨session, senders, reason, .waiting⟩
    exact ⟨_, congrArg Overlap.closer last⟩
  | failing left => exact failing left ⟨session, senders, reason, .waiting⟩
  | telling ref left =>
    obtain ⟨acts, last⟩ := failing left
      ⟨session.onMailbox ref (.close (.failed (CallError.connectionClosed reason).duplicate)),
        senders, reason, .waiting⟩
    exact ⟨.close :: acts, last⟩
  | finished => exact ⟨[], rfl⟩

/-- However far all are, they can come to their ends. -/
theorem finishes (o : Overlap) : ∃ acts, (run acts o).Finished := by
  have senders (ids : List RequestId) : ∃ acts, ∀ id ∈ ids, (run acts o).Returned id := by
    induction ids with
    | nil => exact ⟨[], fun _ listed => absurd listed List.not_mem_nil⟩
    | cons id ids ih =>
      obtain ⟨acts, others⟩ := ih
      refine ⟨acts ++ List.replicate 5 (.send id), fun other listed => ?_⟩
      rw [run_append]
      rcases List.mem_cons.mp listed with rfl | listed
      · exact returned_send _ other
      · exact (others other listed).run _
  obtain ⟨acts, returned⟩ := senders o.senders.keys
  obtain ⟨more, closed⟩ := close_finishes (run acts o)
  refine ⟨acts ++ more, by rwa [run_append], fun id => ?_⟩
  rw [run_append]
  cases found : o.senders.get? id with
  | none =>
    have absent : o.Returned id := by
      intro stage at_
      simp [stage?, found] at at_
    exact (absent.run acts).run more
  | some w =>
    have listed : id ∈ o.senders.keys := Keyed.mem_keys_iff.mpr (by simp [found])
    exact (returned id listed).run more

end Overlap

end Backchannel
