/-
# Backchannel.Proofs.CommandLine.OneCall -- a call over a connection of its own

The program opens a connection, makes one call, hears one line and prints what the call comes to.
No time passes in all that.  However the line is cut into pieces on its way, the call waits while
it has not come as a whole (`Waiting`), then what it holds is there (`Filled`), and when the
session settles next the call is answered with that (`storageOverSession_line`).
-/
import Backchannel.CommandLine.Program
import Backchannel.Proofs.Interpretation
import Backchannel.Proofs.Session.Outbound
import Backchannel.Proofs.Storage

namespace Backchannel

set_option autoImplicit false

open Backchannel.Text (IsLine lineFeed)
open Backchannel.Text.Utf8 (Bytes)

/-- What comes before the end of a line holds no line feed. -/
theorem Text.IsLine.within {line before behind : Bytes} (whole : IsLine line)
    (split : line = before ++ behind) (goesOn : behind ≠ []) : lineFeed ∉ before := by
  obtain ⟨body, rfl, plain⟩ := whole
  have body_eq : body = before ++ behind.dropLast := by
    rw [← List.dropLast_append_of_ne_nil goesOn, ← split, List.dropLast_concat]
  exact fun among => plain (body_eq ▸ List.mem_append_left _ among)

/-- A reply that is put into an empty mailbox is what comes next. -/
theorem Reply.put_next? {m : Mailbox} (items : m.items = []) (closure : m.closure = none)
    (dropped : m.dropped = 0) (room : 0 < m.room) (reply : Reply) :
    (reply.put m).dropped = 0 ∧ (reply.put m).next? = some reply.pulled := by
  cases reply <;>
    simp [Reply.put, Mailbox.push, Mailbox.close, Mailbox.next?, Reply.pulled, Closure.pulled,
      CallError.duplicate, items, closure, dropped, room]

theorem lt_deadlineAfter (start : Instant) {wait : Duration} (positive : 0 < wait) :
    start < deadlineAfter start wait :=
  Nat.lt_add_of_pos_right (Nat.lt_min.mpr ⟨positive, by decide⟩)

namespace Session

variable {s : Session} {id : RequestId} {unread : Bytes} {reply : Reply}

/-- A session that nothing has ended, and whose daemon takes what it writes. -/
structure AtWork (s : Session) : Prop extends Sound s where
  opened : s.status = .opened
  reads : s.reading = true
  accepts : s.accepting = true

theorem AtWork.outside {s' : Session} (h : AtWork s) (table : s'.table = s.table)
    (subscriptions : s'.subscriptions = s.subscriptions) (mailboxes : s'.mailboxes = s.mailboxes)
    (same : SameConnection s s') (reads : s'.reading = s.reading)
    (accepts : s'.accepting = s.accepting) : AtWork s' where
  toSound := (h.toSound.outside table subscriptions mailboxes same).toSound
  opened := same.status.trans h.opened
  reads := reads.trans h.reads
  accepts := accepts.trans h.accepts

/-- When such a session settles, what waits is written. -/
theorem AtWork.settle_eq (h : AtWork s) :
    s.settle = { s with outbox := [], written := s.written ++ s.outbox } := by
  have opened : s.status.isClosed = false := by rw [h.opened]; rfl
  rw [settle, if_neg (by rw [opened]; exact Bool.false_ne_true), writeAll,
    repeat_writeNext (h.writing opened) h.accepts, List.drop_length, List.take_length]
  simp [noticeClose, leaveInput, leaveOutput, opened]

theorem AtWork.settle (h : AtWork s) : AtWork s.settle := by
  rw [h.settle_eq]
  exact h.outside rfl rfl rfl ⟨rfl, rfl, rfl, rfl⟩ rfl rfl

theorem AtWork.settle_ticket? (h : AtWork s) (id : RequestId) :
    s.settle.ticket? id = s.ticket? id := by
  rw [h.settle_eq]
  rfl

/-- A request whose caller waits in time, while that much of a line has come. -/
structure Waiting (id : RequestId) (unread : Bytes) (s : Session) : Prop extends AtWork s where
  left : s.unread = unread
  ticket : ∃ t, s.ticket? id = some t ∧ t.sub.done = false ∧ t.box.items = [] ∧
    t.box.closure = none ∧ t.box.dropped = 0 ∧ 0 < t.box.room ∧ s.now < t.sub.deadline

/-- A request whose caller has not pulled yet what came first. -/
structure Filled (id : RequestId) (reply : Reply) (s : Session) : Prop extends AtWork s where
  ticket : ∃ t, s.ticket? id = some t ∧ t.sub.done = false ∧ t.box.dropped = 0 ∧
    t.box.next? = some reply.pulled

theorem Waiting.settle (h : Waiting id unread s) : Waiting id unread s.settle := by
  obtain ⟨t, held, waits, items, closure, dropped, room, early⟩ := h.ticket
  refine ⟨h.toAtWork.settle, ?_, t, (h.settle_ticket? id).trans held, waits, items, closure,
    dropped, room, ?_⟩
  · rw [h.settle_eq]
    exact h.left
  · rw [h.settle_eq]
    exact early

theorem Filled.settle (h : Filled id reply s) : Filled id reply s.settle := by
  obtain ⟨t, held, rest⟩ := h.ticket
  exact ⟨h.toAtWork.settle, t, (h.settle_ticket? id).trans held, rest⟩

/-- Within a line nothing comes. -/
theorem Waiting.readBytes {bytes : Bytes} (h : Waiting id unread s) (within : lineFeed ∉ bytes) :
    Waiting id (bytes.reverse ++ unread) (s.readBytes bytes) := by
  rw [readBytes_within h.reads within]
  exact ⟨h.outside rfl rfl rfl ⟨rfl, rfl, rfl, rfl⟩ rfl rfl, congrArg (bytes.reverse ++ ·) h.left,
    h.ticket⟩

/-- A pull that comes too early leaves all as it is. -/
theorem Waiting.recv (h : Waiting id unread s) :
    (s.recv id).1 = .pending ∧ Waiting id unread (s.recv id).2 := by
  obtain ⟨t, held, waits, items, closure, dropped, room, early⟩ := h.ticket
  have pull : t.pull id s.now = (.pending, t) := by
    rcases Ticket.pull_cases waits id s.now with ⟨lost, -⟩ | ⟨-, v, rest, some, -⟩ |
      ⟨-, -, c, some, -⟩ | ⟨-, -, -, late, -⟩ | ⟨-, -, -, -, pull⟩
    · omega
    · cases items.symm.trans some
    · cases closure.symm.trans some
    · exact absurd early (Nat.not_lt.mpr late)
    · exact pull
  have after : (s.recv id).2.ticket? id = some t := by
    rw [h.recv_ticket? held, if_pos rfl, pull]
  have sound : Sound (s.recv id).2 := (h.toSound.recv id).toSound
  rw [recv_eq held, pull, if_neg (by simp [waits]), if_neg (by simp [waits])] at after sound ⊢
  exact ⟨rfl, ⟨sound, h.opened, h.reads, h.accepts⟩, h.left, t, after, waits, items, closure,
    dropped, room, early⟩

theorem recv_written (id : RequestId) (s : Session) : (s.recv id).2.written = s.written := by
  cases held : s.ticket? id with
  | none => rw [recv_of_none held]
  | some t =>
    rw [recv_eq held]
    dsimp only
    split
    · rfl
    · split <;> rfl

theorem route_reads (r : Response) (s : Session) :
    (s.route r).2.reading = s.reading ∧ (s.route r).2.accepting = s.accepting := by
  unfold route
  split
  · exact ⟨rfl, rfl⟩
  · split <;> exact ⟨rfl, rfl⟩

/-- With the end of the line what it holds is there. -/
theorem Waiting.line {bytes line : Bytes} {r : Response} (h : Waiting id unread s)
    (whole : IsLine line) (split : line = unread.reverse ++ bytes) (goesOn : bytes ≠ [])
    (means : Notice.ofLine line = .response r) (own : r.id = id) :
    Filled id r.reply (s.readBytes bytes) := by
  obtain ⟨t, held, waits, items, closure, dropped, room, early⟩ := h.ticket
  -- Reading the rest is as good as reading the whole line with nothing read before.
  obtain ⟨fresh, clear⟩ : ∃ fresh, fresh = { s with unread := [] } := ⟨_, rfl⟩
  have work : AtWork fresh := clear ▸ h.outside rfl rfl rfl ⟨rfl, rfl, rfl, rfl⟩ rfl rfl
  have empty : fresh.unread = [] := by rw [clear]
  have kept : fresh.ticket? id = some t := by rw [← held, clear]; rfl
  have front : fresh.readBytes unread.reverse = s := by
    rw [readBytes_within work.reads (whole.within split goesOn), empty, List.reverse_reverse,
      List.append_nil, clear, ← h.left]
  have read : s.readBytes bytes = fresh.heed (.response r) := by
    calc s.readBytes bytes
      _ = (fresh.readBytes unread.reverse).readBytes bytes := by rw [front]
      _ = fresh.readBytes line := by rw [split]; exact List.foldl_append.symm
      _ = fresh.readLine line := readBytes_line work.reads empty whole
      _ = fresh.heed (.response r) := by rw [readLine, means]
  have heeded := work.heed (.response r)
  have connection := heed_connection (.response r) fresh
  obtain ⟨reads, accepts⟩ := route_reads r fresh
  have ticket := heeded.ticket id
  rw [Turn.ofNotice, if_pos own, kept, put_of_open (Ticket.isOpen_iff.mpr ⟨waits, closure⟩)] at ticket
  rw [read]
  exact ⟨⟨heeded.toSound, connection.status.trans work.opened, reads.trans work.reads,
    accepts.trans work.accepts⟩, _, ticket, waits, Reply.put_next? items closure dropped room r.reply⟩

theorem Filled.recv (h : Filled id reply s) : (s.recv id).1 = reply.pulled := by
  obtain ⟨t, held, waits, dropped, next⟩ := h.ticket
  rcases h.recv_next? held waits dropped with ⟨got, pulled, -, there⟩ | ⟨-, -, nothing⟩
  · rw [next] at there
    exact pulled.trans (Option.some.inj there).symm
  · rw [next] at nothing
    cases nothing

/-! ## The beginning -/

/-- When a session starts no heartbeat is due. -/
theorem fireBeats_start (settings : Settings) (due : Instant) (fuel : Nat) :
    fireBeats fuel { start settings with sweepAt := due } =
      { start settings with sweepAt := due } := by
  cases fuel with
  | zero => rfl
  | succ fuel =>
    rcases settings with ⟨timeout, _ | every, capacity⟩
    · rfl
    by_cases positive : 0 < every
    · have beat : (start ⟨timeout, some every, capacity⟩).beatAt = some (deadlineAfter 0 every) := by
        simp [start, Option.filter, positive]
      simp only [fireBeats]
      rw [beat]
      exact if_neg (Nat.not_le.mpr (lt_deadlineAfter 0 positive))
    · have beat : (start ⟨timeout, some every, capacity⟩).beatAt = none := by
        simp [start, Option.filter, positive]
      simp only [fireBeats]
      rw [beat]

theorem ring_start (settings : Settings) :
    ∃ due, (start settings).ring = { start settings with sweepAt := due } := by
  obtain ⟨due, swept⟩ : ∃ due, (start settings).fireSweep = { start settings with sweepAt := due } :=
    ⟨_, rfl⟩
  exact ⟨due, by rw [ring, swept, fireBeats_start]⟩

theorem atWork_start (settings : Settings) (due : Instant) :
    AtWork { start settings with sweepAt := due } :=
  AtWork.outside ⟨sound_start settings, rfl, rfl, rfl⟩ rfl rfl rfl ⟨rfl, rfl, rfl, rfl⟩ rfl rfl

/-- A request that is sent waits with an empty mailbox. -/
theorem AtWork.send (h : AtWork s) (positive : 0 < s.settings.requestTimeout) (id : RequestId)
    (sessionId : Option String) (kind : Kind) (payload : Json.Value) :
    (s.send id sessionId kind payload).1 = .ok () ∧
      Waiting id s.unread (s.send id sessionId kind payload).2 := by
  have opened : s.status.isClosed = false := by rw [h.opened]; rfl
  have sent := h.send_of_open opened id sessionId kind payload
  have sound := (h.toSound.send id sessionId kind payload).toSound
  have ticket : (s.send id sessionId kind payload).2.ticket? id = some (s.newTicket id kind) := by
    rw [sent]
    exact (h.register_ticket? id kind id).trans (if_pos rfl)
  rw [sent] at sound ticket ⊢
  refine ⟨rfl, ⟨sound, h.opened, h.reads, h.accepts⟩, rfl, _, ticket, rfl, rfl, rfl, rfl, ?_, ?_⟩
  · exact Nat.lt_of_lt_of_le Nat.one_pos (Nat.le_max_right _ _)
  · exact lt_deadlineAfter s.now positive

end Session

namespace Plugin

variable {p : Plugin} {job : Job} {id : RequestId} {unread : Bytes}
  {answer : Except CallError Answer}

/-! ## A line -/

/-- The plugin holds nothing but one call, which waits. -/
structure Awaits (job : Job) (id : RequestId) (unread : Bytes) (p : Plugin) : Prop where
  alone : p.held = [(id, .running job)]
  session : p.session.Waiting id unread

/-- The plugin holds nothing but the answer of one call. -/
def Holds (id : RequestId) (answer : Except CallError Answer) (p : Plugin) : Prop :=
  p.held = [(id, .answered answer)]

theorem Holds.settle (h : Holds id answer p) : Holds id answer p.settle := by
  have held : (p.onSession Session.settle).held = [(id, .answered answer)] := h
  rw [Plugin.settle, lookAfterCalls, held]
  exact held

theorem Awaits.settle (h : Awaits job id unread p) : Awaits job id unread p.settle := by
  have held : (p.onSession Session.settle).held = [(id, .running job)] := h.alone
  have waiting : (p.onSession Session.settle).session.Waiting id unread := h.session.settle
  obtain ⟨pending, after⟩ := waiting.recv
  have idle : job.conclude id .pending = none := by cases job <;> rfl
  rw [Plugin.settle, lookAfterCalls, held]
  simp only [List.foldl_cons, List.foldl_nil, look, pending, idle]
  exact ⟨held, after⟩

/-- What a call has waited to write is written when it settles. -/
theorem Awaits.written (h : Awaits job id unread p) :
    p.settle.session.written = p.session.written ++ p.session.outbox := by
  have held : (p.onSession Session.settle).held = [(id, .running job)] := h.alone
  have idle : job.conclude id .pending = none := by cases job <;> rfl
  obtain ⟨pending, -⟩ := h.session.settle.recv
  have pending : ((p.onSession Session.settle).session.recv id).1 = .pending := pending
  rw [Plugin.settle, lookAfterCalls, held]
  simp only [List.foldl_cons, List.foldl_nil, look, pending, idle, Session.recv_written]
  exact congrArg Session.written h.session.settle_eq

/-- A call is answered with what has come for it when the session settles. -/
theorem settle_filled {reply : Reply} (alone : p.held = [(id, .running job)])
    (filled : p.session.Filled id reply) (concluded : job.conclude id reply.pulled = some answer) :
    Holds id answer p.settle := by
  have held : (p.onSession Session.settle).held = [(id, .running job)] := alone
  have pulled : ((p.onSession Session.settle).session.recv id).1 = reply.pulled := filled.settle.recv
  rw [Plugin.settle, lookAfterCalls, held]
  simp only [List.foldl_cons, List.foldl_nil, look, pulled, concluded]
  simp [Holds, hold, release, held, Keyed.insert, Keyed.erase]

/-- A line answers the call, however the pipe cuts it. -/
theorem deliver_line {line : Bytes} {r : Response} (whole : IsLine line)
    (means : Notice.ofLine line = .response r) (own : r.id = id)
    (concluded : job.conclude id r.reply.pulled = some answer) (fuel : Nat) {bytes : Bytes}
    (h : Awaits job id unread p) (split : line = unread.reverse ++ bytes) (goesOn : bytes ≠ [])
    (enough : bytes.length ≤ fuel * pipeCapacity) : Holds id answer (deliver fuel bytes p) := by
  induction fuel generalizing bytes unread p with
  | zero => exact absurd (List.length_eq_zero_iff.mp (by omega)) goesOn
  | succ fuel ih =>
    have some : ¬ bytes.isEmpty = true := by simpa using goesOn
    rw [deliver, if_neg some]
    by_cases last : bytes.length ≤ pipeCapacity
    · have filled := h.session.line whole split goesOn means own
      rw [List.take_of_length_le last, List.drop_of_length_le last]
      have answered : Holds id answer (p.onSession (Session.readBytes bytes)).settle :=
        settle_filled h.alone filled concluded
      cases fuel <;> exact answered
    · have rest : bytes.drop pipeCapacity ≠ [] := by
        intro none
        exact last (List.drop_eq_nil_iff.mp none)
      have cut : line = (unread.reverse ++ bytes.take pipeCapacity) ++ bytes.drop pipeCapacity := by
        rw [List.append_assoc, List.take_append_drop, split]
      have within : lineFeed ∉ bytes.take pipeCapacity := fun among =>
        whole.within cut rest (List.mem_append_right _ among)
      have next : Awaits job id ((bytes.take pipeCapacity).reverse ++ unread)
          (p.onSession (Session.readBytes (bytes.take pipeCapacity))) :=
        ⟨h.alone, h.session.readBytes within⟩
      refine ih next.settle ?_ rest ?_
      · rw [List.reverse_append, List.reverse_reverse]
        exact cut
      · rw [List.length_drop]
        rw [Nat.succ_mul] at enough
        omega

/-! ## The whole call -/

/-- A plugin that has just been launched. -/
theorem launch_session (settings : Settings) :
    ∃ due, (launch settings).session = { Session.start settings with sweepAt := due } := by
  obtain ⟨due, ring⟩ := Session.ring_start settings
  have started : (launch settings).session = (Session.start settings).ring.settle := rfl
  have work : (Session.start settings).ring.AtWork := by
    rw [ring]
    exact Session.atWork_start settings due
  exact ⟨due, by rw [started, work.settle_eq, ring]; rfl⟩

/-- An operation that a new plugin begins with waits for its reply, and its line is written. -/
theorem launch_start (settings : Settings) (positive : 0 < settings.requestTimeout)
    (id : RequestId) (sessionId : Option String) (op : Storage.Operation) :
    Awaits (.storage op) id []
        ((launch settings).act (.plugin (.start id sessionId (.storage op)))).2 ∧
      ((launch settings).act (.plugin (.start id sessionId (.storage op)))).2.session.written =
        [(OutboundFrame.invoke sessionId ⟨.storage, id, op.payload⟩).toLine] := by
  obtain ⟨due, launched⟩ := launch_session settings
  have work : (launch settings).session.AtWork := by
    rw [launched]
    exact Session.atWork_start settings due
  have opened : (launch settings).session.status.isClosed = false := by rw [launched]; rfl
  have sent := work.send_of_open opened id sessionId .storage op.payload
  obtain ⟨-, waiting⟩ := work.send (by rw [launched]; exact positive) id sessionId .storage op.payload
  rw [sent] at waiting
  have started : Awaits (.storage op) id [] ((launch settings).start id sessionId (.storage op)) := by
    simp only [start, request, sent]
    refine ⟨rfl, ?_⟩
    rw [launched] at waiting ⊢
    exact waiting
  refine ⟨started.settle, started.written.trans ?_⟩
  simp only [start, request, sent]
  rw [launched]
  rfl

theorem Holds.join (h : Holds id answer p) :
    (p.act (.plugin (.join id 0))).1 = .answered answer := by
  have found : p.held.get? id = some (.answered answer) := by
    rw [show p.held = [(id, .answered answer)] from h]
    simp [Keyed.get?]
  simp [act, actPlugin, awaitFor, lookAnswer, inTime, found]

end Plugin

namespace CommandLine

/-- An operation over a connection comes to the verdict on the line that the daemon writes. -/
theorem storageOverSession_line {c : Config} {s : Surroundings} {r : Response}
    {result : Except CallError Storage.Answer} (positive : 0 < c.requestTimeout)
    (sessionId : Option String) (op : Storage.Operation) (whole : IsLine (s.daemon s.id))
    (means : Notice.ofLine (s.daemon s.id) = .response r) (own : r.id = s.id)
    (verdict : Storage.Verdict s.id op r.reply.pulled result) :
    storageOverSession c sessionId op s = result := by
  obtain ⟨awaits, -⟩ := Plugin.launch_start c.settings positive s.id sessionId op
  have concluded : (Job.storage op).conclude s.id r.reply.pulled = some (result.map .stored) := by
    rw [Storage.conclude_eq, verdict.outcome]
    rfl
  have some : s.daemon s.id ≠ [] := by
    obtain ⟨body, line, -⟩ := whole
    rw [line]
    exact List.append_ne_nil_of_right_ne_nil body (List.cons_ne_nil _ _)
  rw [storageOverSession]
  generalize ((Plugin.launch c.settings).act (.plugin (.start s.id sessionId (.storage op)))).2 = p
    at awaits ⊢
  have written : Plugin.Holds s.id (result.map .stored)
      (p.act (.daemon (.write (s.daemon s.id)))).2 := by
    refine (Plugin.deliver_line whole means own concluded _ awaits rfl some ?_).settle
    have pieces := Nat.lt_div_mul_add (a := (s.daemon s.id).length) (show 0 < Plugin.pipeCapacity by decide)
    rw [Nat.add_mul, Nat.one_mul]
    exact Nat.le_of_lt pieces
  have heard : Plugin.Holds s.id (result.map .stored) (hear (s.daemon s.id) p) :=
    Plugin.Holds.settle (p := ((p.act (.daemon (.write (s.daemon s.id)))).2.actDaemon .hangUp)) written
  rw [heard.join]
  cases result <;> rfl

end CommandLine

end Backchannel
