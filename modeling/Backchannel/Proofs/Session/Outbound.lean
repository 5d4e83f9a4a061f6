/-
# Backchannel.Proofs.Session.Outbound -- what the daemon gets

Every request and every heartbeat that the session takes is one line, and the lines go
through one queue: a call puts its line at the end of the outbox, the writer takes the first.
So the lines that were written, those that wait and those that were lost with the writer are,
in this order, the lines of the calls that succeeded (`Accounts`), whatever else happened in
between.  As long as the session is open nothing is lost.

A line has a single line feed, at its end, so the bytes that the daemon gets fall into these
lines again.
-/
import Backchannel.Proofs.Frame
import Backchannel.Proofs.Session.Backdrop
import Backchannel.Proofs.Session.Closing

namespace Backchannel

set_option autoImplicit false

open Backchannel.Json (Value)
open Backchannel.Text (IsLine splitLines)
open Backchannel.Text.Utf8 (Bytes bytesOf)

/-! ## Lines of calls -/

theorem OutboundFrame.isLine_toLine (f : OutboundFrame) : IsLine (bytesOf f.toLine) :=
  isLine_frameLine _ _ _

/-- No request reads like a heartbeat: they differ in the event, if not before. -/
theorem OutboundFrame.invoke_toLine_ne (sessionId : Option String) (r : Request) :
    (invoke sessionId r).toLine ≠ heartbeat.toLine := by
  intro same
  have chars := congrArg String.toList same
  simp only [toLine, frameLine, String.toList_ofList, frameMembers, invoke, heartbeat] at chars
  cases sessionId with
  | none =>
    have letter : ['s'] = ['h'] := congrArg (fun cs => (cs.drop 28).take 1) chars
    exact absurd letter (by decide)
  | some id =>
    have letter : ['"'] = ['n'] := congrArg (fun cs => (cs.drop 14).take 1) chars
    exact absurd letter (by decide)

/-! ## The queue -/

namespace Backdrop

/-- The lines are those that the daemon got, those that wait, and those that were lost when
the writer stopped. -/
def Accounts (lines : List String) (b : Backdrop) : Prop :=
  ∃ lost, b.written ++ b.outbox ++ lost = lines ∧ (b.writing = true → lost = [])

variable {b : Backdrop} {lines : List String}

/-- A change to neither the queue nor the writer. -/
theorem Accounts.of_same {b' : Backdrop} (h : b.Accounts lines) (written : b'.written = b.written)
    (outbox : b'.outbox = b.outbox) (writing : b'.writing = b.writing) : b'.Accounts lines := by
  unfold Accounts
  rw [written, outbox, writing]
  exact h

theorem Accounts.enqueue (h : b.Accounts lines)
    (works : b.status.isClosed = false → b.writing = true) (line : String) :
    (b.enqueue line).Accounts (lines ++ if b.status.isClosed then [] else [line]) := by
  unfold Backdrop.enqueue
  cases status : b.status.isClosed with
  | true => simpa using h
  | false =>
    obtain ⟨lost, rfl, kept⟩ := h
    rw [kept (works status)]
    refine ⟨[], ?_, fun _ => rfl⟩
    simp

/-- The writer stops, and what waits is lost. -/
theorem Accounts.stop (h : b.Accounts lines) {b' : Backdrop} (written : b'.written = b.written)
    (outbox : b'.outbox = []) (writing : b'.writing = false) : b'.Accounts lines := by
  obtain ⟨lost, rfl, -⟩ := h
  refine ⟨b.outbox ++ lost, ?_, fun works => ?_⟩
  · rw [written, outbox]
    simp
  · rw [writing] at works
    cases works

theorem close_written (reason : CloseReason) (b : Backdrop) :
    (b.close reason).written = b.written ∧ (b.close reason).outbox = b.outbox ∧
      (b.close reason).writing = b.writing := by
  unfold close
  split <;> exact ⟨rfl, rfl, rfl⟩

theorem Accounts.close (h : b.Accounts lines) (reason : CloseReason) :
    (b.close reason).Accounts lines := by
  obtain ⟨written, outbox, writing⟩ := b.close_written reason
  exact h.of_same written outbox writing

theorem Accounts.failOutput (h : b.Accounts lines) (reason : CloseReason) :
    (b.failOutput reason).Accounts lines := by
  unfold Backdrop.failOutput
  split
  · exact h.stop (b.close_written reason).1 rfl rfl
  · exact h

theorem Accounts.writeNext (h : b.Accounts lines) : b.writeNext.Accounts lines := by
  unfold Backdrop.writeNext
  split
  · exact h
  · rename_i line rest waits
    split
    · obtain ⟨lost, rfl, kept⟩ := h
      refine ⟨lost, ?_, kept⟩
      simp [waits]
    · exact h.failOutput _

/-- The reader has nothing to do with the lines. -/
theorem Accounts.readByte (h : b.Accounts lines) (byte : UInt8) :
    (b.readByte byte).Accounts lines := by
  unfold Backdrop.readByte
  split
  · exact h.of_same rfl rfl rfl
  · exact h

theorem Accounts.readTail (h : b.Accounts lines) : b.readTail.Accounts lines := by
  unfold Backdrop.readTail
  split
  · exact h.of_same rfl rfl rfl
  · exact h

theorem Accounts.stopInput (h : b.Accounts lines) (reason : CloseReason) :
    (b.stopInput reason).Accounts lines := by
  unfold Backdrop.stopInput
  split
  · exact (h.close reason).of_same rfl rfl rfl
  · exact h

theorem Accounts.leaveInput (h : b.Accounts lines) : b.leaveInput.Accounts lines := by
  unfold Backdrop.leaveInput
  split
  · exact h.of_same rfl rfl rfl
  · exact h

theorem Accounts.leaveOutput (h : b.Accounts lines) : b.leaveOutput.Accounts lines := by
  unfold Backdrop.leaveOutput
  split
  · exact h.stop rfl rfl rfl
  · exact h

end Backdrop

namespace Session

/-! ## Calls and their lines -/

/-- The line of the call that a move makes. -/
def Move.line? : Move → Option String
  | .send id sessionId kind payload =>
    some (OutboundFrame.invoke sessionId ⟨kind, id, payload⟩).toLine
  | .heartbeat => some OutboundFrame.heartbeat.toLine
  | _ => none

/-- The line of the call that a step makes, if the call succeeds. -/
def Step.line? (st : Step) : Option String :=
  match st.answer with
  | .sent (.ok ()) => st.move.line?
  | _ => none

/-- The lines of the calls that succeeded, in the order of the calls. -/
def calledLines (t : List Step) : List String := t.filterMap Step.line?

/-- The frame of the call that a move makes. -/
def Move.frame? : Move → Option OutboundFrame
  | .send id sessionId kind payload => some (.invoke sessionId ⟨kind, id, payload⟩)
  | .heartbeat => some .heartbeat
  | _ => none

/-- The frame of the call that a step makes, if the call succeeds. -/
def Step.frame? (st : Step) : Option OutboundFrame :=
  match st.answer with
  | .sent (.ok ()) => st.move.frame?
  | _ => none

/-- The frames of the calls that succeeded, in the order of the calls. -/
def calledFrames (t : List Step) : List OutboundFrame := t.filterMap Step.frame?

theorem Move.line?_eq (m : Move) : m.line? = m.frame?.map OutboundFrame.toLine := by
  cases m <;> rfl

theorem Step.line?_eq (st : Step) : st.line? = st.frame?.map OutboundFrame.toLine := by
  unfold Step.line? Step.frame?
  split
  · exact st.move.line?_eq
  · rfl

/-- The lines of the calls are those of their frames. -/
theorem calledLines_eq (t : List Step) :
    calledLines t = (calledFrames t).map OutboundFrame.toLine := by
  rw [calledLines, calledFrames, List.map_filterMap]
  exact congrArg (t.filterMap ·) (funext Step.line?_eq)

/-- The bytes that the daemon got. -/
def received (s : Session) : Bytes := (s.written.map bytesOf).flatten

theorem Step.line?_of_none {st : Step} (silent : st.move.line? = none) : st.line? = none := by
  unfold Step.line?
  split
  · exact silent
  · rfl

variable {s : Session} {m : Move}

/-- A call succeeds if the session is open, and only then. -/
theorem Governed.line?_eq (h : Governed s) (m : Move) :
    Step.line? ⟨s, m⟩ = if s.status.isClosed then none else m.line? := by
  cases m with
  | send id sessionId kind payload =>
    cases status : s.status.isClosed with
    | true => simp [Step.line?, Step.answer, perform, send_of_closed status]
    | false => simp [Step.line?, Step.answer, perform, h.send_of_open status]
  | heartbeat =>
    cases status : s.status.isClosed with
    | true => simp [Step.line?, Step.answer, perform, heartbeat_of_closed status]
    | false => simp [Step.line?, Step.answer, perform, h.heartbeat_of_open status]
  | _ => exact (Step.line?_of_none rfl).trans (ite_self none).symm

/-- A call hands its line to the writer, and every other move leaves the lines as they are or
moves them on. -/
theorem Governed.accounts_step (h : Governed s) {lines : List String}
    (accounts : s.backdrop.Accounts lines) (m : Move) :
    (s.step m).backdrop.Accounts (lines ++ (Step.line? ⟨s, m⟩).toList) := by
  rw [h.step_backdrop, h.line?_eq]
  have quiet : ∀ {b : Backdrop}, b.Accounts lines → m.line? = none →
      b.Accounts (lines ++ (if s.status.isClosed then none else m.line?).toList) := by
    intro b accounts silent
    rw [silent, ite_self]
    simpa using accounts
  have called : ∀ {b : Backdrop} (line : String), b.Accounts lines → b.status = s.status →
      b.writing = s.writing → m.line? = some line →
      (b.enqueue line).Accounts
        (lines ++ (if s.status.isClosed then none else m.line?).toList) := by
    intro b line accounts status writing calls
    have enqueued := accounts.enqueue (by rw [status, writing]; exact h.writing) line
    rw [status] at enqueued
    rw [calls]
    cases closed : s.status.isClosed with
    | true => simpa [closed] using enqueued
    | false => simpa [closed] using enqueued
  cases m with
  | send id sessionId kind payload =>
    have requested : s.backdrop.request.Accounts lines ∧ s.backdrop.request.status = s.status ∧
        s.backdrop.request.writing = s.writing := by
      unfold Backdrop.request
      split
      · exact ⟨accounts, rfl, rfl⟩
      · exact ⟨accounts.of_same rfl rfl rfl, rfl, rfl⟩
    exact called _ requested.1 requested.2.1 requested.2.2 rfl
  | heartbeat => exact called _ accounts rfl rfl rfl
  | close => exact quiet (accounts.close _) rfl
  | byte b => exact quiet (accounts.readByte b) rfl
  | tail => exact quiet accounts.readTail rfl
  | endOfStream => exact quiet (accounts.stopInput _) rfl
  | readError why => exact quiet (accounts.stopInput _) rfl
  | write => exact quiet accounts.writeNext rfl
  | writeError why => exact quiet (accounts.failOutput _) rfl
  | flushError why => exact quiet (accounts.failOutput _) rfl
  | leaveInput => exact quiet accounts.leaveInput rfl
  | leaveOutput => exact quiet accounts.leaveOutput rfl
  | endOutput | pass => exact quiet (accounts.of_same rfl rfl rfl) rfl
  | recv | drop | dropInbound | sweep | timers => exact quiet accounts rfl

theorem Sound.accounts_run (h : Sound s) {lines : List String}
    (accounts : s.backdrop.Accounts lines) (ms : List Move) :
    (Session.run ms s).backdrop.Accounts (lines ++ calledLines (steps ms s)) := by
  induction ms generalizing s lines with
  | nil => simpa [steps, calledLines] using accounts
  | cons m ms ih =>
    have first := h.toGoverned.accounts_step accounts m
    have rest := ih (h.step m).toSound first
    rw [steps_cons, calledLines, filterMap_cons, ← List.append_assoc]
    exact rest

theorem accounts_start (settings : Settings) : (start settings).backdrop.Accounts [] :=
  ⟨[], rfl, fun _ => rfl⟩

/-- Every line that was called for is that of a frame. -/
theorem isLine_of_called {ms : List Move} {line : String}
    (called : line ∈ calledLines (steps ms s)) : IsLine (bytesOf line) := by
  rw [calledLines_eq] at called
  obtain ⟨f, -, rfl⟩ := List.mem_map.mp called
  exact f.isLine_toLine

/-! ## The writer's turns -/

/-- The writer writes the lines that wait one after the other. -/
theorem repeat_writeNext (writes : s.writing = true) (takes : s.accepting = true) (n : Nat) :
    Nat.repeat writeNext n s =
      { s with outbox := s.outbox.drop n, written := s.written ++ s.outbox.take n } := by
  induction n with
  | zero => simp [Nat.repeat]
  | succ n ih =>
    rw [Nat.repeat, ih]
    cases waits : s.outbox.drop n with
    | nil =>
      have short := List.drop_eq_nil_iff.mp waits
      rw [List.drop_of_length_le (Nat.le_succ_of_le short), List.take_of_length_le short,
        List.take_of_length_le (Nat.le_succ_of_le short)]
      rfl
    | cons line rest =>
      have next : s.outbox.take (n + 1) = s.outbox.take n ++ [line] := by
        rw [List.take_add, waits]
        rfl
      have behind : s.outbox.drop (n + 1) = rest := by
        rw [← List.drop_drop, waits]
        rfl
      rw [next, behind]
      simp [writeNext, writes, takes]

theorem writeAll_written (writes : s.writing = true) (takes : s.accepting = true) :
    s.writeAll.written = s.written ++ s.outbox := by
  rw [writeAll, repeat_writeNext writes takes]
  simp

/-! ## What the daemon gets -/

/-- The bytes that the daemon got fall into the lines that were written. -/
theorem splitLines_received {lines : List String} (accounts : s.backdrop.Accounts lines)
    (whole : ∀ line ∈ lines, IsLine (bytesOf line)) :
    splitLines s.received = s.written.map bytesOf := by
  obtain ⟨lost, rfl, -⟩ := accounts
  refine Text.splitLines_flatten_lines ?_
  intro line among
  obtain ⟨text, written, rfl⟩ := List.mem_map.mp among
  have part : text ∈ s.written := written
  exact whole text (by simp [backdrop, part])

/-- What the daemon gets of a session that is open. -/
structure Framed (settings : Settings) (ms : List Move) : Prop where
  /-- The lines that the daemon got and those that wait are the lines of the calls. -/
  received : splitLines (run ms (start settings)).received ++
      (run ms (start settings)).outbox.map bytesOf =
    (calledLines (steps ms (start settings))).map bytesOf
  /-- If the daemon takes what is written, it gets all of them with the writer's next turns. -/
  written : (run ms (start settings)).accepting = true →
    splitLines (run ms (start settings)).writeAll.received =
      (calledLines (steps ms (start settings))).map bytesOf
  whole : ∀ line ∈ calledLines (steps ms (start settings)), IsLine (bytesOf line)
  /-- A request is taken, its caller holds it under the id in the line, and the line stands
  between those of the calls before and behind it. -/
  sent : ∀ before id sessionId kind payload after,
    ms = before ++ .send id sessionId kind payload :: after →
      ((run before (start settings)).perform (.send id sessionId kind payload)).1 =
          .sent (.ok ()) ∧
        (∃ sub, (run (before ++ [.send id sessionId kind payload])
            (start settings)).subscriptions.get? id = some sub ∧ sub.kind = kind) ∧
        calledLines (steps ms (start settings)) =
          calledLines (steps before (start settings)) ++
            (OutboundFrame.invoke sessionId ⟨kind, id, payload⟩).toLine ::
              calledLines (steps after
                (run (before ++ [.send id sessionId kind payload]) (start settings)))

theorem calledLines_append (ms ns : List Move) (s : Session) :
    calledLines (steps (ms ++ ns) s) =
      calledLines (steps ms s) ++ calledLines (steps ns (run ms s)) := by
  rw [steps_append, calledLines, List.filterMap_append]
  rfl

/-- A request of an open session is taken, held by its caller, and has its line. -/
theorem Governed.sent_of_open (h : Governed s) (opened : s.status.isClosed = false)
    (id : RequestId) (sessionId : Option String) (kind : Kind) (payload : Value) :
    (s.perform (.send id sessionId kind payload)).1 = .sent (.ok ()) ∧
      (∃ sub, (s.step (.send id sessionId kind payload)).subscriptions.get? id = some sub ∧
        sub.kind = kind) ∧
      Step.line? ⟨s, .send id sessionId kind payload⟩ =
        some (OutboundFrame.invoke sessionId ⟨kind, id, payload⟩).toLine := by
  refine ⟨?_, ?_, ?_⟩
  · rw [perform, h.send_of_open opened]
  · rw [step, perform, h.send_of_open opened]
    exact ⟨_, Keyed.get?_insert_self _ _ _, rfl⟩
  · rw [h.line?_eq, opened]
    rfl

/-- What the daemon gets is the lines of the calls that succeeded, in the order of the calls
and none but those: all of them while the session is open, the first of them once it is
closed. -/
theorem outbound_framed (settings : Settings) (ms : List Move) :
    splitLines (run ms (start settings)).received <+:
        (calledLines (steps ms (start settings))).map bytesOf ∧
      ((run ms (start settings)).status = .opened → Framed settings ms) := by
  have sound := sound_run settings
  have accounts : (run ms (start settings)).backdrop.Accounts
      (calledLines (steps ms (start settings))) :=
    (sound_start settings).accounts_run (accounts_start settings) ms
  have whole : ∀ line ∈ calledLines (steps ms (start settings)), IsLine (bytesOf line) :=
    fun line called => isLine_of_called called
  have got := splitLines_received accounts whole
  obtain ⟨lost, lines, kept⟩ := accounts
  refine ⟨?_, fun opened => ?_⟩
  · rw [got, ← lines, List.append_assoc, List.map_append]
    exact List.prefix_append _ _
  · have writes : (run ms (start settings)).writing = true :=
      (sound ms).writing (by rw [opened]; rfl)
    have all : (run ms (start settings)).written ++ (run ms (start settings)).outbox =
        calledLines (steps ms (start settings)) := by
      rw [← lines, kept writes, List.append_nil]
      rfl
    refine ⟨?_, fun takes => ?_, whole, ?_⟩
    · rw [got, ← List.map_append, all]
    · rw [received, writeAll_written writes takes, all]
      refine Text.splitLines_flatten_lines fun line among => ?_
      obtain ⟨text, called, rfl⟩ := List.mem_map.mp among
      exact whole text called
    · rintro before id sessionId kind payload after rfl
      have governed := (sound before).toGoverned
      rw [run_append] at opened
      obtain ⟨taken, held, line⟩ :=
        governed.sent_of_open ((sound before).opened_before opened) id sessionId kind payload
      rw [run_snoc]
      refine ⟨taken, held, ?_⟩
      rw [calledLines_append, steps_cons, calledLines, calledLines, filterMap_cons, line]
      rfl

/-- A request whose payload has line feeds and quotes, and a heartbeat. -/
def talk : List Move :=
  [.send "a" (some "s") .storage (.text "one\ntwo \"three\""), .write, .heartbeat]

theorem talk_received :
    (run talk (start ⟨5, none, 1⟩)).status = .opened ∧
      splitLines (run talk (start ⟨5, none, 1⟩)).writeAll.received =
        [bytesOf (OutboundFrame.invoke (some "s")
            ⟨.storage, "a", .text "one\ntwo \"three\""⟩).toLine,
          bytesOf OutboundFrame.heartbeat.toLine] := by
  obtain ⟨opened, takes⟩ : (run talk (start ⟨5, none, 1⟩)).status = .opened ∧
      (run talk (start ⟨5, none, 1⟩)).accepting = true := by
    decide +kernel
  exact ⟨opened, ((outbound_framed ⟨5, none, 1⟩ talk).2 opened).written takes⟩

end Session

end Backchannel
