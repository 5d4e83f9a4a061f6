/-
# Backchannel.Proofs.Session.Overlap.Escape -- no request escapes a close

However the steps of callers that send and of a close come between one another, no request
is forgotten (`no_request_escapes`).  When all are done the table is empty.  Whoever was
accepted finds in its mailbox that the connection is closed, whoever was refused is told so
at once and leaves nothing behind.  And no line is handed to the writer before the entry of
its request was made, so no response can come for a request that is not known.
-/
import Backchannel.Proofs.Session.Overlap.Sound

namespace Backchannel

set_option autoImplicit false

open Session (Registered)

variable {s : Session} {o : Overlap} {id : RequestId}

namespace Overlap

/-! ## The beginning -/

theorem stage?_begin (wanted : Keyed RequestId Wanted) (reason : CloseReason) (id : RequestId) :
    (begin s wanted reason).stage? id = (wanted.get? id).map fun _ => .starting := by
  simp only [stage?, begin, Keyed.get?_map fun _ (w : Wanted) => Sender.mk w .starting,
    Option.map_map]
  rfl

theorem begin_wanted (s : Session) (wanted : Keyed RequestId Wanted) (reason : CloseReason)
    (id : RequestId) :
    ((begin s wanted reason).senders.get? id).map Sender.wanted = wanted.get? id := by
  rw [begin, Keyed.get?_map fun _ (w : Wanted) => Sender.mk w .starting, Option.map_map]
  exact Option.map_id_apply

theorem Sound.of_begin (sound : Session.Sound s) (opened : s.status = .opened)
    {wanted : Keyed RequestId Wanted} (fresh : ∀ id, (wanted.get? id).isSome →
      s.subscriptions.get? id = none) (reason : CloseReason) : Sound s (begin s wanted reason) := by
  have stages (id : RequestId) (stage : Stage)
      (at_ : (begin s wanted reason).stage? id = some stage) :
      stage = .starting ∧ s.subscriptions.get? id = none := by
    rw [stage?_begin] at at_
    cases found : wanted.get? id with
    | none => simp [found] at at_
    | some w =>
      rw [found] at at_
      exact ⟨(Option.some.inj at_).symm, fresh id (by simp [found])⟩
  refine ⟨sound.toRegistered, sound.writing, opened, ?_, ?_, ?_, ?_, ?_, ?_⟩
  · intro ref left telling
    cases telling
  · intro id stage at_ holds
    simp [Session.ref?, Overlap.settled, begin, (stages id stage at_).2]
  · intro id stage at_ holds
    rw [(stages id stage at_).1] at holds
    cases holds
  · intro id waits
    obtain ⟨t, held, isOpen⟩ := sound.isOutstanding_iff.mp waits
    obtain ⟨done, closure⟩ := Ticket.isOpen_iff.mp isOpen
    refine ⟨?_, t, held, done, .inl closure⟩
    cases at_ : (begin s wanted reason).stage? id with
    | none => rfl
    | some stage =>
      have absent := (stages id stage at_).2
      rw [(Session.ticket?_eq_some.mp held).1] at absent
      cases absent
  · intro id stage e at_ error
    rw [(stages id stage at_).1] at error
    cases error
  · intro ids owes
    cases owes

/-! ## Entries come before lines -/

/-- Who is about to hand over its line has made its entry on the way. -/
theorem registers_of_confirmed {acts : List Act}
    (early : o.stage? id = some .starting ∨ o.stage? id = some .admitted)
    (confirmed : (run acts o).stage? id = some .confirmed) :
    ∃ earlier later, acts = earlier ++ .send id :: later ∧
      (run earlier o).stage? id = some .admitted := by
  induction acts generalizing o with
  | nil => rcases early with at_ | at_ <;> simp [run, at_] at confirmed
  | cons a acts ih =>
    have go (early : (o.step a).stage? id = some .starting ∨ (o.step a).stage? id = some .admitted) :
        ∃ earlier later, a :: acts = earlier ++ .send id :: later ∧
          (run earlier o).stage? id = some .admitted := by
      obtain ⟨earlier, later, rfl, at_⟩ := ih early confirmed
      exact ⟨a :: earlier, later, rfl, at_⟩
    by_cases own : a = .send id
    · subst own
      rcases early with at_ | at_
      · obtain ⟨w, -, stage, next⟩ := stage?_send at_
        rw [Sender.advance, stage] at next
        cases status : o.session.status.isClosed with
        | true =>
          -- Who is sent away at once never hands over a line.
          simp only [status, if_true] at next
          have stays := returned_stays next acts
          have confirmed : (run acts (o.step (.send id))).stage? id = some .confirmed := confirmed
          rw [stays] at confirmed
          cases confirmed
        | false =>
          simp only [status, Bool.false_eq_true, if_false] at next
          exact go (.inr next)
      · exact ⟨[], acts, rfl, at_⟩
    · exact go (by rwa [stage?_step_other o own])

theorem Sound.absent (h : Sound s o) {stage : Stage} (at_ : o.stage? id = some stage)
    (free : stage.holds = false) : o.session.isOutstanding id = false := by
  have absent := not_outstanding h.registered (h.outside id stage at_ free)
  simpa [Session.isOutstanding] using absent

theorem registers_of_admitted (admitted : o.stage? id = some .admitted) :
    (o.step (.send id)).session.isOutstanding id = true := by
  obtain ⟨w, found, stage, -⟩ := stage?_send admitted
  simp [step_send found, sent, Sender.advance, stage, Session.register, Session.isOutstanding,
    Keyed.contains]

/-- A line is handed over only after the entry of its request was made. -/
theorem Sound.enters_before_line {wanted : Keyed RequestId Wanted} {reason : CloseReason}
    (begun : Sound s (begin s wanted reason)) (acts : List Act) (a : Act) (line : String)
    (grows : ((Overlap.run acts (begin s wanted reason)).step a).session.outbox =
      (Overlap.run acts (begin s wanted reason)).session.outbox ++ [line]) :
    ∃ id w earlier later, wanted.get? id = some w ∧ line = w.line id ∧ a = .send id ∧
      acts = earlier ++ .send id :: later ∧
        (Overlap.run earlier (begin s wanted reason)).session.isOutstanding id = false ∧
        (Overlap.run (earlier ++ [.send id]) (begin s wanted reason)).session.isOutstanding id =
          true := by
  have works : (Overlap.run acts (begin s wanted reason)).session.Works := by
    have works := (begun.run acts).works
    simpa only [Session.Works, settled_status, settled_writing] using works
  rcases step_outbox works a with same | empty | ⟨id, w, rfl, found, stage, grew⟩
  · simp [same] at grows
  · simp [empty] at grows
  · have own : wanted.get? id = some w.wanted := by
      have same := wanted_run acts (begin s wanted reason) id
      rw [found, begin_wanted] at same
      exact same.symm
    have early : (begin s wanted reason).stage? id = some .starting := by
      rw [stage?_begin, own]
      rfl
    have confirmed : (Overlap.run acts (begin s wanted reason)).stage? id = some .confirmed := by
      rw [stage?, found]
      exact congrArg some stage
    obtain ⟨earlier, later, split, admitted⟩ := registers_of_confirmed (.inl early) confirmed
    have line : line = w.wanted.line id := by
      rw [grew] at grows
      simpa using grows.symm
    refine ⟨id, w.wanted, earlier, later, own, line, rfl, split, ?_, ?_⟩
    · exact (begun.run earlier).absent admitted rfl
    · rw [run_snoc]
      exact registers_of_admitted admitted

/-! ## When all are done -/

theorem Finished.settled (h : o.Finished) : o.settled = o.session := by
  simp [Overlap.settled, h.closed]

theorem Sound.table_of_finished (h : Sound s o) (finished : o.Finished) :
    o.session.table = [] := by
  refine Keyed.eq_nil_of_get? fun id => ?_
  cases entry : o.session.table.get? id with
  | none => rfl
  | some e =>
    have waits : o.settled.isOutstanding id = true := by
      simp [finished.settled, Session.isOutstanding, Keyed.contains, entry]
    have owes : o.closer.owes? = some [] := by rw [finished.closed]; rfl
    rcases h.owed [] owes id waits with listed | ⟨stage, at_, late⟩
    · cases listed
    · obtain ⟨result, rfl⟩ := finished.returned id stage at_
      cases late

/-- The mailbox of the request tells of the close. -/
def Told (o : Overlap) (id : RequestId) : Prop :=
  ∃ box, o.session.mailboxOf? id = some box ∧
    box.closure = some (.failed (.connectionClosed o.reason))

theorem Sound.told_of_finished (h : Sound s o) (finished : o.Finished)
    (waits : o.settled.Awaits o.reason id) : o.Told id := by
  rw [finished.settled] at waits
  obtain ⟨t, held, done, closure⟩ := waits
  refine ⟨t.box, by rw [Session.mailboxOf?_eq, held]; rfl, ?_⟩
  rcases closure with opened | closed
  · -- A caller that waits has an entry, and there is none.
    have registered : Registered o.session := finished.settled ▸ h.registered
    have outstanding := registered.isOutstanding_iff.mpr
      ⟨t, held, Ticket.isOpen_iff.mpr ⟨done, opened⟩⟩
    simp [Session.isOutstanding, Keyed.contains, h.table_of_finished finished] at outstanding
  · exact closed

/-- What is so when all are done.  `s` is the session at the beginning. -/
structure Resolved (s : Session) (o : Overlap) : Prop where
  empty : o.session.table = []
  accepted : ∀ id, o.stage? id = some (.returned (.ok ())) → o.Told id
  refused : ∀ id e, o.stage? id = some (.returned (.error e)) →
    e = .connectionClosed o.reason ∧ o.session.subscriptions.get? id = none
  /-- So is every request of before. -/
  before : ∀ id, s.isOutstanding id = true → o.Told id

theorem Sound.resolved (h : Sound s o) (finished : o.Finished) : Resolved s o where
  empty := h.table_of_finished finished
  accepted id at_ := h.told_of_finished finished (h.inside id _ at_ rfl)
  refused := by
    intro id e at_
    refine ⟨h.told id _ e at_ rfl, ?_⟩
    have gone := h.outside id _ at_ rfl
    rwa [finished.settled, Session.ref?, Option.map_eq_none_iff] at gone
  before id waits := h.told_of_finished finished (h.before id waits).2

/-- However callers that send and a close overlap, they can all come to their ends.  When
they have, no entry is left, whoever was accepted is told of the close and whoever was
refused has left nothing.  And all the while a line is handed over only after the entry of
its request was made. -/
theorem no_request_escapes (settings : Settings) (ms : List Session.Move)
    (wanted : Keyed RequestId Wanted) (reason : CloseReason) (acts : List Act)
    (opened : (Session.run ms (Session.start settings)).status = .opened)
    (fresh : ∀ id, (wanted.get? id).isSome →
      (Session.run ms (Session.start settings)).subscriptions.get? id = none) :
    let s := Session.run ms (Session.start settings)
    let o := begin s wanted reason
    (∃ more, (run (acts ++ more) o).Finished) ∧
      ((run acts o).Finished → Resolved s (run acts o)) ∧
      ∀ a line, ((run acts o).step a).session.outbox = (run acts o).session.outbox ++ [line] →
        ∃ id w earlier later, wanted.get? id = some w ∧ line = w.line id ∧ a = .send id ∧
          acts = earlier ++ .send id :: later ∧
            (run earlier o).session.isOutstanding id = false ∧
            (run (earlier ++ [.send id]) o).session.isOutstanding id = true := by
  intro s o
  have begun : Sound s o := .of_begin (Session.sound_run settings ms) opened fresh reason
  have sound := begun.run acts
  refine ⟨?_, sound.resolved, begun.enters_before_line acts⟩
  obtain ⟨more, finished⟩ := finishes (run acts o)
  exact ⟨more, by rwa [run_append]⟩

/-- One request is there already when a close begins, and two are on their way. -/
def rush : Overlap :=
  begin (Session.run [.send "old" none .storage .null] (Session.start ⟨5, none, 1⟩))
    [("soon", ⟨none, .tool, .null⟩), ("late", ⟨none, .llm, .null⟩)] .byPlugin

/-- One of the two looks twice before the close begins, the other only once. -/
def rushed : List Act :=
  [.send "soon", .send "late", .send "soon", .send "soon", .send "late", .close, .send "soon",
    .send "late", .close, .find "soon", .send "late", .find "old"] ++ List.replicate 6 .close

theorem rush_finished : (run rushed rush).Finished := by
  have senders : (run rushed rush).senders =
      [("soon", ⟨⟨none, .tool, .null⟩, .returned (.ok ())⟩),
        ("late", ⟨⟨none, .llm, .null⟩, .returned (.error (.connectionClosed .byPlugin))⟩)] := rfl
  refine ⟨rfl, fun id stage at_ => ?_⟩
  simp only [stage?, senders, Keyed.get?] at at_
  split at at_
  · exact ⟨_, (Option.some.inj at_).symm⟩
  · split at at_
    · exact ⟨_, (Option.some.inj at_).symm⟩
    · cases at_

theorem rush_resolved :
    (run rushed rush).Finished ∧
      (run rushed rush).stage? "soon" = some (.returned (.ok ())) ∧
      (run rushed rush).stage? "late" = some (.returned (.error (.connectionClosed .byPlugin))) ∧
      Resolved (Session.run [.send "old" none .storage .null] (Session.start ⟨5, none, 1⟩))
        (run rushed rush) := by
  have fresh (id : RequestId) (named : (Keyed.get? id
      [("soon", (⟨none, .tool, .null⟩ : Wanted)), ("late", ⟨none, .llm, .null⟩)]).isSome = true) :
      (Session.run [.send "old" none .storage .null]
        (Session.start ⟨5, none, 1⟩)).subscriptions.get? id = none := by
    simp only [Keyed.get?] at named
    split at named
    · rename_i own
      exact own ▸ rfl
    · split at named
      · rename_i own
        exact own ▸ rfl
      · cases named
  have resolved := (no_request_escapes ⟨5, none, 1⟩ _ _ _ rushed rfl fresh).2.1 rush_finished
  exact ⟨rush_finished, rfl, rfl, resolved⟩

end Overlap

end Backchannel
