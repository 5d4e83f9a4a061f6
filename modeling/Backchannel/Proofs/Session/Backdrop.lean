/-
# Backchannel.Proofs.Session.Backdrop -- the connection apart from its requests

The backdrop of a session is what all of its requests share: status, clock, writer,
reader, the line that is being read and the lines that go out.  It runs by itself:
`Governed.step_backdrop` tells it after every move from what it was before and the move
alone.  What a line says, a pull or a drop has no part in it.

Entries are no part of the backdrop, but they too are told by little: a move makes at
most the entry of a request that is sent (`step_entry`), so the wait of every entry is
the one that the settings allow (`Dated`).
-/
import Backchannel.Proofs.Session.Status

namespace Backchannel

set_option autoImplicit false

open Backchannel.Text.Utf8 (Bytes)

/-- What the requests of a session share. -/
structure Backdrop where
  settings : Settings
  now : Instant
  status : Status
  outbox : List String
  written : List String
  accepting : Bool
  writing : Bool
  reading : Bool
  /-- The bytes of the line that is being read, last byte first. -/
  unread : Bytes
  /-- How many requests were made. -/
  requests : Nat

namespace Backdrop

variable (b : Backdrop)

/-- Puts a line in the outbox, unless the session is closed. -/
def enqueue (line : String) : Backdrop :=
  if b.status.isClosed then b else { b with outbox := b.outbox ++ [line] }

def close (reason : CloseReason) : Backdrop :=
  if b.status.isClosed then b else { b with status := .closed reason }

def readByte (byte : UInt8) : Backdrop :=
  if b.reading then
    { b with unread := if byte = Text.lineFeed then [] else byte :: b.unread }
  else b

def readTail : Backdrop := if b.reading then { b with unread := [] } else b

def stopInput (reason : CloseReason) : Backdrop :=
  if b.reading then { b.close reason with reading := false } else b

def failOutput (reason : CloseReason) : Backdrop :=
  if b.writing && !b.outbox.isEmpty then
    { b.close reason with writing := false, outbox := [] }
  else b

def writeNext : Backdrop :=
  match b.outbox with
  | [] => b
  | line :: rest =>
    if b.writing && b.accepting then { b with outbox := rest, written := b.written ++ [line] }
    else b.failOutput (Session.writeFailure line)

def leaveInput : Backdrop := if b.status.isClosed then { b with reading := false } else b

def leaveOutput : Backdrop :=
  if b.status.isClosed then { b with writing := false, outbox := [] } else b

/-- One more request was made, unless the session is closed. -/
def request : Backdrop :=
  if b.status.isClosed then b else { b with requests := b.requests + 1 }

/-- The backdrop after a move. -/
def after : Session.Move → Backdrop
  | .send id sessionId kind payload =>
    b.request.enqueue (OutboundFrame.invoke sessionId ⟨kind, id, payload⟩).toLine
  | .heartbeat => b.enqueue OutboundFrame.heartbeat.toLine
  | .close => b.close .byPlugin
  | .byte byte => b.readByte byte
  | .tail => b.readTail
  | .endOfStream => b.stopInput .endOfStream
  | .readError why => b.stopInput (.readFailed why)
  | .write => b.writeNext
  | .writeError why => b.failOutput (.writeFailed why)
  | .flushError why => b.failOutput (.flushFailed why)
  | .leaveInput => b.leaveInput
  | .leaveOutput => b.leaveOutput
  | .endOutput => { b with accepting := false }
  | .pass span => { b with now := b.now + span }
  | .recv _ | .drop _ | .dropInbound | .sweep | .timers _ _ => b

end Backdrop

namespace Session

variable {s : Session} {id : RequestId}

def backdrop (s : Session) : Backdrop where
  settings := s.settings
  now := s.now
  status := s.status
  outbox := s.outbox
  written := s.written
  accepting := s.accepting
  writing := s.writing
  reading := s.reading
  unread := s.unread
  requests := s.mailboxes.length

/-- The backdrop of `s'` is `b`, every entry of `s'` is one of `s`, and the plugin was handed
the frames `fs`. -/
structure Leaves (s : Session) (b : Backdrop) (fs : List InboundFrame) (s' : Session) : Prop where
  backdrop : s'.backdrop = b
  entries : ∀ id e, s'.table.get? id = some e → s.table.get? id = some e
  inbound : s'.inbound = s.inbound ++ fs

theorem Leaves.of_table {s' : Session} {b : Backdrop} (backdrop : s'.backdrop = b)
    (same : s'.table = s.table) (inbound : s'.inbound = s.inbound) : Leaves s b [] s' :=
  ⟨backdrop, fun _ _ found => same ▸ found, by rw [inbound, List.append_nil]⟩

theorem Leaves.of_erase {s' : Session} {b : Backdrop} (backdrop : s'.backdrop = b)
    (gone : s'.table = s.table.erase id) (inbound : s'.inbound = s.inbound) :
    Leaves s b [] s' := by
  refine ⟨backdrop, fun other e found => ?_, by rw [inbound, List.append_nil]⟩
  rw [gone, Keyed.get?_erase] at found
  split at found
  · cases found
  · exact found

/-! ## What requests do -/

theorem onEntry_backdrop (id : RequestId) (f : Mailbox → Mailbox) (s : Session) :
    (s.onEntry id f).backdrop = s.backdrop := by
  unfold onEntry
  split
  · simp [backdrop, onMailbox]
  · rfl

theorem onEntry_inbound (id : RequestId) (f : Mailbox → Mailbox) (s : Session) :
    (s.onEntry id f).inbound = s.inbound := by
  unfold onEntry
  split <;> rfl

theorem resolve_leaves (id : RequestId) (c : Closure) (s : Session) :
    Leaves s s.backdrop [] (s.resolve id c) :=
  .of_erase (onEntry_backdrop id (.close c) s) (resolve_table id c s)
    (onEntry_inbound id (.close c) s)

theorem resolveEach_leaves (causes : Keyed RequestId Closure) (s : Session) :
    Leaves s s.backdrop [] (s.resolveEach causes) := by
  induction causes generalizing s with
  | nil => exact .of_table rfl rfl rfl
  | cons e causes ih =>
    have first := resolve_leaves e.1 e.2 s
    have rest := ih (s.resolve e.1 e.2)
    exact ⟨rest.backdrop.trans first.backdrop,
      fun id entry found => first.entries id entry (rest.entries id entry found),
      rest.inbound.trans (by rw [first.inbound, List.append_nil])⟩

theorem sweep_leaves (s : Session) : Leaves s s.backdrop [] s.sweep := by
  rw [sweep_eq]
  exact resolveEach_leaves _ s

/-- The frames that the plugin is handed on a notice. -/
def forwards (n : Notice) (s : Session) : List InboundFrame :=
  match n with
  | .request f => if s.listening then [f] else []
  | _ => []

theorem heed_leaves (n : Notice) (s : Session) :
    Leaves s s.backdrop (s.forwards n) (s.heed n) := by
  cases n with
  | nothing => exact .of_table rfl rfl rfl
  | request f =>
    cases listens : s.listening <;> refine ⟨?_, fun _ _ found => ?_, ?_⟩ <;>
      simp_all [heed, forwards, backdrop]
  | malformed id how =>
    rw [heed, fail_eq_resolve]
    exact resolve_leaves id _ s
  | response r =>
    simp only [heed, route_snd]
    split
    · exact .of_table (onEntry_backdrop r.id _ s) (onEntry_table r.id _ s)
        (onEntry_inbound r.id _ s)
    · exact resolve_leaves r.id _ s
    · exact .of_table rfl rfl rfl

/-- Reading on, and acting on what was read. -/
theorem hear_leaves (unread : Bytes) (n : Notice) (s : Session) :
    Leaves s { s.backdrop with unread := unread } (s.forwards n)
      ({ s with unread := unread }.heed n) := by
  have heed := heed_leaves n { s with unread := unread }
  exact ⟨heed.backdrop, heed.entries, heed.inbound⟩

theorem readByte_leaves (s : Session) (b : UInt8) :
    Leaves s (s.backdrop.readByte b) (s.forwards (heard (.byte b) s)) (s.readByte b) := by
  cases reads : s.reading with
  | false =>
    rw [show heard (.byte b) s = .nothing by simp [heard, reads]]
    refine .of_table ?_ ?_ ?_ <;> simp [readByte, Backdrop.readByte, backdrop, reads]
  | true =>
    by_cases ends : b = Text.lineFeed
    · have shared : s.backdrop.readByte b = { s.backdrop with unread := [] } := by
        simp [Backdrop.readByte, backdrop, reads, ends]
      have line : heard (.byte b) s = .ofLine (b :: s.unread).reverse := by
        simp [heard, reads, ends]
      rw [readByte, if_pos reads, if_pos ends, shared, line]
      exact hear_leaves [] _ s
    · rw [show heard (.byte b) s = .nothing by simp [heard, ends]]
      refine .of_table ?_ ?_ ?_ <;> simp [readByte, Backdrop.readByte, backdrop, reads, ends]

theorem readTail_leaves (s : Session) :
    Leaves s s.backdrop.readTail (s.forwards (heard .tail s)) s.readTail := by
  by_cases left : (s.reading && !s.unread.isEmpty) = true
  · have shared : s.backdrop.readTail = { s.backdrop with unread := [] } :=
      if_pos (Bool.and_eq_true_iff.mp left).1
    have line : heard .tail s = .ofLine s.unread.reverse := if_pos left
    rw [readTail, if_pos left, shared, line]
    exact hear_leaves [] _ s
  · have shared : s.backdrop.readTail = s.backdrop := by
      cases reads : s.reading with
      | false => simp [Backdrop.readTail, backdrop, reads]
      | true =>
        have none : s.unread = [] := by simpa [reads] using left
        simp [Backdrop.readTail, backdrop, none]
    rw [readTail, if_neg left, shared, show heard .tail s = .nothing from if_neg left]
    exact .of_table rfl rfl rfl

theorem recv_leaves (id : RequestId) (s : Session) :
    Leaves s s.backdrop [] (s.recv id).2 := by
  cases held : s.ticket? id with
  | none =>
    rw [recv_of_none held]
    exact .of_table rfl rfl rfl
  | some t =>
    rw [recv_eq held]
    dsimp only
    split
    · exact .of_table rfl rfl rfl
    · split
      · exact .of_erase (by simp [backdrop, conclude, removeEntry, onMailbox]) rfl rfl
      · exact .of_table (by simp [backdrop, onMailbox]) rfl rfl

/-! ## What the connection does -/

theorem shutDown_leaves (reason : CloseReason) (s : Session) :
    Leaves s (s.backdrop.close reason) [] (s.shutDown reason) := by
  cases status : s.status.isClosed with
  | true =>
    rw [shutDown_of_closed status]
    exact .of_table (by simp [Backdrop.close, backdrop, status]) rfl rfl
  | false =>
    rw [shutDown_of_open status, failAll_eq]
    have failed := resolveEach_leaves
      (s.table.map fun x => (x.1, .failed (CallError.connectionClosed reason).duplicate))
      { s with status := .closed reason }
    exact ⟨failed.backdrop.trans (by simp [Backdrop.close, backdrop, status]), failed.entries,
      failed.inbound⟩

theorem stopInput_leaves (reason : CloseReason) (s : Session) :
    Leaves s (s.backdrop.stopInput reason) [] (s.stopInput reason) := by
  have closed := shutDown_leaves reason s
  cases reads : s.reading with
  | false =>
    refine .of_table ?_ ?_ ?_ <;> simp [stopInput, Backdrop.stopInput, backdrop, reads]
  | true =>
    have shared : s.backdrop.stopInput reason =
        { s.backdrop.close reason with reading := false } := if_pos reads
    rw [stopInput, if_pos reads, shared, ← closed.backdrop]
    exact ⟨rfl, closed.entries, closed.inbound⟩

theorem failOutput_leaves (reason : CloseReason) (s : Session) :
    Leaves s (s.backdrop.failOutput reason) [] (s.failOutput reason) := by
  have closed := shutDown_leaves reason s
  by_cases waits : (s.writing && !s.outbox.isEmpty) = true
  · have shared : s.backdrop.failOutput reason =
        { s.backdrop.close reason with writing := false, outbox := [] } := if_pos waits
    rw [failOutput, if_pos waits, shared, ← closed.backdrop]
    exact ⟨rfl, closed.entries, closed.inbound⟩
  · have shared : s.backdrop.failOutput reason = s.backdrop := if_neg waits
    rw [failOutput, if_neg waits, shared]
    exact .of_table rfl rfl rfl

theorem writeNext_leaves (s : Session) : Leaves s s.backdrop.writeNext [] s.writeNext := by
  cases outbox : s.outbox with
  | nil => refine .of_table ?_ ?_ ?_ <;> simp [writeNext, Backdrop.writeNext, backdrop, outbox]
  | cons line rest =>
    have failed := failOutput_leaves (writeFailure line) s
    by_cases takes : (s.writing && s.accepting) = true
    · refine .of_table ?_ ?_ ?_ <;>
        simp [writeNext, Backdrop.writeNext, backdrop, outbox, Bool.and_eq_true_iff.mp takes]
    · have shared : s.backdrop.writeNext = s.backdrop.failOutput (writeFailure line) := by
        have waits : s.backdrop.outbox = line :: rest := outbox
        rw [Backdrop.writeNext, waits]
        exact if_neg takes
      rw [writeNext, outbox]
      dsimp only
      rw [if_neg takes, shared]
      exact failed

theorem Governed.heartbeat_leaves (h : Governed s) :
    Leaves s (s.backdrop.enqueue OutboundFrame.heartbeat.toLine) [] s.heartbeat.2 := by
  cases status : s.status.isClosed with
  | true =>
    rw [heartbeat_of_closed status]
    exact .of_table (by simp [Backdrop.enqueue, backdrop, status]) rfl rfl
  | false =>
    rw [h.heartbeat_of_open status]
    exact .of_table (by simp [Backdrop.enqueue, backdrop, status]) rfl rfl

/-! ## Every move -/

/-- A move that sends no request makes no entry. -/
theorem Governed.step_leaves (h : Governed s) {m : Move} (silent : m.sends? = none) :
    Leaves s (s.backdrop.after m) (s.forwards (heard m s)) (s.step m) := by
  cases m with
  | send => cases silent
  | recv id =>
    rw [step_recv]
    exact recv_leaves id s
  | drop id => exact .of_erase rfl (show (s.drop id).table = s.table.erase id from rfl) rfl
  | heartbeat => exact h.heartbeat_leaves
  | byte b => exact readByte_leaves s b
  | tail => exact readTail_leaves s
  | sweep => exact sweep_leaves s
  | close => exact shutDown_leaves .byPlugin s
  | endOfStream => exact stopInput_leaves .endOfStream s
  | readError why => exact stopInput_leaves (.readFailed why) s
  | write => exact writeNext_leaves s
  | writeError why => exact failOutput_leaves (.writeFailed why) s
  | flushError why => exact failOutput_leaves (.flushFailed why) s
  | leaveInput =>
    change Leaves s s.backdrop.leaveInput [] s.leaveInput
    cases status : s.status.isClosed <;> refine .of_table ?_ ?_ ?_ <;>
      simp [leaveInput, Backdrop.leaveInput, backdrop, status]
  | leaveOutput =>
    change Leaves s s.backdrop.leaveOutput [] s.leaveOutput
    cases status : s.status.isClosed <;> refine .of_table ?_ ?_ ?_ <;>
      simp [leaveOutput, Backdrop.leaveOutput, backdrop, status]
  | dropInbound | endOutput | timers | pass => exact .of_table rfl rfl rfl

/-- What is shared goes on by itself, whatever becomes of the requests. -/
theorem Governed.step_backdrop (h : Governed s) (m : Move) :
    (s.step m).backdrop = s.backdrop.after m := by
  cases m with
  | send id sessionId kind payload =>
    change (s.send id sessionId kind payload).2.backdrop = _
    cases status : s.status.isClosed with
    | true =>
      rw [send_of_closed status]
      simp [Backdrop.after, Backdrop.request, Backdrop.enqueue, backdrop, status]
    | false =>
      rw [h.send_of_open status]
      simp [Backdrop.after, Backdrop.request, Backdrop.enqueue, backdrop, register, status]
  | _ => exact (h.step_leaves rfl).backdrop

/-- The plugin is handed what the reader hears of requests of the daemon, and nothing else. -/
theorem Governed.step_inbound (h : Governed s) (m : Move) :
    (s.step m).inbound = s.inbound ++ s.forwards (heard m s) := by
  cases m with
  | send id sessionId kind payload =>
    change (s.send id sessionId kind payload).2.inbound = s.inbound ++ []
    cases status : s.status.isClosed with
    | true => rw [send_of_closed status, List.append_nil]
    | false => rw [h.send_of_open status]; simp [register]
  | _ => exact (h.step_leaves rfl).inbound

/-! ## Entries -/

/-- The entry of a request that is sent now. -/
def newEntry (kind : Kind) (s : Session) : Entry :=
  ⟨kind, s.mailboxes.length, s.now, deadlineAfter s.now s.settings.requestTimeout⟩

/-- An entry was there before, or its request has just been sent. -/
theorem Governed.step_entry (h : Governed s) (m : Move) {e : Entry}
    (found : (s.step m).table.get? id = some e) :
    s.table.get? id = some e ∨ ∃ kind, e = s.newEntry kind := by
  cases m with
  | send other sessionId kind payload =>
    change (s.send other sessionId kind payload).2.table.get? id = some e at found
    cases status : s.status.isClosed with
    | true =>
      rw [send_of_closed status] at found
      exact .inl found
    | false =>
      rw [h.send_of_open status] at found
      simp only [register, Keyed.get?_insert] at found
      split at found
      · exact .inr ⟨kind, (Option.some.inj found).symm⟩
      · exact .inl found
  | _ => exact .inl ((h.step_leaves rfl).entries id e found)

/-- A session is sound, and the wait of every entry is the one that the settings allow. -/
structure Dated (s : Session) : Prop extends Sound s where
  wait : ∀ id e, s.table.get? id = some e →
    e.deadline - e.createdAt = deadlineAfter 0 s.settings.requestTimeout

theorem dated_start (settings : Settings) : Dated (start settings) where
  toSound := sound_start settings
  wait := by
    intro id e found
    cases found

theorem Dated.step (h : Dated s) (m : Move) : Dated (s.step m) where
  toSound := (h.toSound.step m).toSound
  wait := by
    intro id e found
    rw [(h.toSound.step m).settings]
    rcases h.toGoverned.step_entry m found with before | ⟨kind, rfl⟩
    · exact h.wait id e before
    · simp [newEntry, deadlineAfter]

theorem Dated.run (h : Dated s) (ms : List Move) : Dated (run ms s) := by
  induction ms generalizing s with
  | nil => exact h
  | cons m ms ih => exact ih (h.step m)

theorem Dated.heed (h : Dated s) (n : Notice) : Dated (s.heed n) where
  toSound := (h.toSound.heed n).toSound
  wait := by
    intro id e found
    rw [(h.toSound.heed n).settings]
    exact h.wait id e ((heed_leaves n s).entries id e found)

/-- What a sweep means for a request is told by its ticket. -/
theorem Dated.turn_sweep (h : Dated s) (id : RequestId) :
    turn .sweep s id =
      match (s.ticket? id).filter fun t => t.isOpen && t.sub.deadline ≤ s.now with
      | some _ => .closed (.failed (.timeout id (deadlineAfter 0 s.settings.requestTimeout)))
      | none => .idle := by
  have agree := h.agree id
  cases found : s.table.get? id with
  | none =>
    cases held : s.ticket? id with
    | none => simp [turn, found]
    | some t =>
      have ended : t.isOpen = false := by simpa [found, held, Agree] using agree
      simp [turn, found, Option.filter, ended]
  | some e =>
    obtain ⟨t, held, isOpen, -, -, deadline⟩ := h.entry found
    have wait := h.wait id e found
    by_cases late : t.sub.deadline ≤ s.now <;>
      simp [turn, found, held, Option.filter, isOpen, deadline, late, expiry, ← wait]

end Session

end Backchannel
