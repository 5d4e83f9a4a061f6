/-
# Backchannel.Proofs.Session.Tasks -- what the session knows of its tasks

A poll does one of few things (`Does`), and so does an act (`Next`).  Whatever they are, the
session takes its tasks for being at work exactly as long as they are, and no task leaves a
session that is open (`Fits`).  Only a close changes the status, and only once, so the changes
that a task knows of tell whether it knows of the close (`Tracked`).
-/
import Backchannel.Proofs.Session.Backdrop
import Backchannel.Proofs.Session.Closing
import Backchannel.Session.Tasks

namespace Backchannel

set_option autoImplicit false

open Backchannel.Text.Utf8 (Bytes)

namespace Tasks

variable {t t' : Tasks}

/-- What a poll does, where it does anything. -/
inductive Does (t : Tasks) : Poll → Tasks → Prop where
  | start {k : Task} (fresh : t.phase k = .fresh) :
    Does t (.start k) ((t.perform (k.prelude t.session)).enter k (.looping t.changes))
  | leave {k : Task} {seen : Nat} (loops : t.phase k = .looping seen) (news : seen ≠ t.changes)
      (closed : t.session.status.isClosed = true) :
    Does t (.wake k) ((t.perform [k.leave]).enter k .left)
  | look {k : Task} {seen : Nat} (loops : t.phase k = .looping seen) (news : seen ≠ t.changes)
      (opened : t.session.status.isClosed = false) :
    Does t (.wake k) (t.enter k (.looping t.changes))
  | byte {seen : Nat} {b : UInt8} {rest : Bytes} (loops : t.reader = .looping seen)
      (waits : t.incoming = b :: rest) :
    Does t .byte ({ t with incoming := rest }.perform [.byte b])
  | tail {seen : Nat} (loops : t.reader = .looping seen) (read : t.incoming = [])
      (ended : t.ending = some .hungUp) (waits : t.session.unread.isEmpty = false) :
    Does t .tail (t.perform [.tail])
  | ending {seen : Nat} {e : Ending} (loops : t.reader = .looping seen) (read : t.incoming = [])
      (ended : t.ending = some e) :
    Does t .ending ((t.perform e.moves).enter .reader .left)
  | sweep {seen : Nat} (loops : t.reader = .looping seen)
      (due : t.session.sweepAt ≤ t.session.now) :
    Does t .sweep (t.perform (sweeping t.session))
  | line {seen : Nat} (loops : t.writer = .looping seen) (waits : t.session.outbox ≠ []) :
    Does t .line (t.enter .writer (.writing seen))
  | hand {seen : Nat} (writes : t.writer = .writing seen) (takes : t.outlet = .taking) :
    Does t .handOver ((t.perform [.write]).enter .writer (.looping seen))
  | failWrite {seen : Nat} {why : String} (writes : t.writer = .writing seen)
      (fails : t.outlet = .writeFails why) :
    Does t .handOver ((t.perform [.writeError why]).enter .writer .left)
  | failFlush {seen : Nat} {why : String} (writes : t.writer = .writing seen)
      (fails : t.outlet = .flushFails why) :
    Does t .handOver ((t.perform [.flushError why]).enter .writer .left)
  | shutDown (left : t.writer = .left) (unshut : t.shut = false) :
    Does t .shutDown { t with shut := true }

theorem does_of_poll {p : Poll} (polled : t.poll p = some t') : Does t p t' := by
  cases p with
  | start k =>
    simp only [poll] at polled
    split at polled <;> cases polled
    exact .start ‹_›
  | wake k =>
    simp only [poll] at polled
    split at polled
    · split at polled
      · cases polled
      · split at polled <;> cases polled
        · exact .leave ‹_› ‹_› ‹_›
        · exact .look ‹_› ‹_› (Bool.eq_false_iff.mpr ‹_›)
    · cases polled
  | byte =>
    simp only [poll] at polled
    split at polled <;> cases polled
    exact .byte ‹_› ‹_›
  | tail =>
    simp only [poll] at polled
    split at polled
    · split at polled <;> cases polled
      exact .tail ‹_› ‹_› ‹_› (Bool.eq_false_iff.mpr ‹_›)
    · cases polled
  | ending =>
    simp only [poll] at polled
    split at polled <;> cases polled
    exact .ending ‹_› ‹_› ‹_›
  | sweep =>
    simp only [poll] at polled
    split at polled
    · split at polled <;> cases polled
      exact .sweep ‹_› ‹_›
    · cases polled
  | line =>
    simp only [poll] at polled
    split at polled <;> cases polled
    rename_i waits
    exact .line ‹_› (by rw [waits]; exact List.cons_ne_nil _ _)
  | handOver =>
    simp only [poll] at polled
    split at polled <;> cases polled
    · exact .hand ‹_› ‹_›
    · exact .failWrite ‹_› ‹_›
    · exact .failFlush ‹_› ‹_›
  | shutDown =>
    simp only [poll] at polled
    split at polled <;> cases polled
    exact .shutDown ‹_› ‹_›

/-- What an act makes of the tasks. -/
inductive Next (t : Tasks) : Tasks → Prop where
  | idle : Next t t
  | outside {m : Session.Move} (outside : m.isOutside = true) : Next t (t.perform [m])
  | arrive (incoming : Bytes) : Next t { t with incoming := incoming }
  | finish (e : Ending) : Next t { t with ending := t.ending.or (some e) }
  | outlet (o : Outlet) : Next t { t with outlet := o }
  | poll {p : Poll} {t' : Tasks} (does : Does t p t') : Next t t'

theorem next_step (t : Tasks) (a : Act) : Next t (t.step a) := by
  cases a with
  | outside m =>
    simp only [step]
    split
    · exact .outside ‹_›
    · exact .idle
  | arrive bytes =>
    simp only [step]
    split
    · exact .idle
    · exact .arrive _
  | finish e => exact .finish e
  | outlet o => exact .outlet o
  | poll p =>
    simp only [step]
    cases polled : t.poll p with
    | none => exact .idle
    | some t' => exact .poll (does_of_poll polled)

/-! ## What the session knows of its tasks -/

/-- The session takes its tasks for being at work as long as they are. -/
structure Fits (b : Backdrop) (reader writer : Phase) : Prop where
  reading : b.reading = true ↔ reader ≠ .left
  writing : b.writing = true ↔ writer ≠ .left
  accepting : b.accepting = true
  line : ∀ seen, writer = .writing seen → b.outbox ≠ []
  /-- No task leaves a session that is open. -/
  closed : reader = .left ∨ writer = .left → b.status.isClosed = true

section Fits

variable {b b' : Backdrop} {reader writer : Phase}

theorem Fits.undisturbed (h : Fits b reader writer) (reading : b'.reading = b.reading)
    (writing : b'.writing = b.writing) (accepting : b'.accepting = b.accepting)
    (outbox : b.outbox <+: b'.outbox)
    (status : b.status.isClosed = true → b'.status.isClosed = true) : Fits b' reader writer where
  reading := reading ▸ h.reading
  writing := writing ▸ h.writing
  accepting := accepting ▸ h.accepting
  line := fun seen own empty => h.line seen own (List.prefix_nil.mp (empty ▸ outbox))
  closed := fun left => status (h.closed left)

theorem Fits.enqueue (h : Fits b reader writer) (line : String) :
    Fits (b.enqueue line) reader writer := by
  unfold Backdrop.enqueue
  split
  · exact h
  · exact h.undisturbed rfl rfl rfl (List.prefix_append _ _) id

theorem Fits.close (h : Fits b reader writer) (reason : CloseReason) :
    Fits (b.close reason) reader writer := by
  unfold Backdrop.close
  split
  · exact h
  · exact h.undisturbed rfl rfl rfl (List.prefix_refl _) fun _ => rfl

theorem close_isClosed (b : Backdrop) (reason : CloseReason) :
    (b.close reason).status.isClosed = true := by
  unfold Backdrop.close
  split
  · assumption
  · rfl

theorem Fits.outside (h : Fits b reader writer) {m : Session.Move} (outside : m.isOutside = true) :
    Fits (b.after m) reader writer := by
  cases m with
  | send id sessionId kind payload =>
    refine Fits.enqueue ?_ _
    unfold Backdrop.request
    split
    · exact h
    · exact h.undisturbed rfl rfl rfl (List.prefix_refl _) fun closed => closed
  | heartbeat => exact h.enqueue _
  | close => exact h.close .byPlugin
  | recv | drop | dropInbound => exact h
  | pass => exact h.undisturbed rfl rfl rfl (List.prefix_refl _) fun closed => closed
  | _ => cases outside

theorem Fits.readByte (h : Fits b reader writer) (byte : UInt8) :
    Fits (b.readByte byte) reader writer := by
  unfold Backdrop.readByte
  split
  · exact h.undisturbed rfl rfl rfl (List.prefix_refl _) fun closed => closed
  · exact h

theorem Fits.readTail (h : Fits b reader writer) : Fits b.readTail reader writer := by
  unfold Backdrop.readTail
  split
  · exact h.undisturbed rfl rfl rfl (List.prefix_refl _) fun closed => closed
  · exact h

/-- The reader stops. -/
theorem Fits.stopReading (h : Fits b reader writer) (closed : b.status.isClosed = true) :
    Fits { b with reading := false } .left writer where
  reading := by simp
  writing := h.writing
  accepting := h.accepting
  line := h.line
  closed := fun _ => closed

/-- The writer stops, and the lines that wait are lost. -/
theorem Fits.stopWriting (h : Fits b reader writer) (closed : b.status.isClosed = true) :
    Fits { b with writing := false, outbox := [] } reader .left where
  reading := h.reading
  writing := by simp
  accepting := h.accepting
  line := by
    intro seen own
    cases own
  closed := fun _ => closed

theorem Fits.stopInput (h : Fits b reader writer) (works : reader ≠ .left)
    (reason : CloseReason) : Fits (b.stopInput reason) .left writer := by
  rw [Backdrop.stopInput, if_pos (h.reading.mpr works)]
  exact (h.close reason).stopReading (close_isClosed b reason)

theorem Fits.failOutput {seen : Nat} (h : Fits b reader (.writing seen)) (reason : CloseReason) :
    Fits (b.failOutput reason) reader .left := by
  have waits : (b.writing && !b.outbox.isEmpty) = true := by
    have line := h.line seen rfl
    simp [h.writing.mpr (by simp), line]
  rw [Backdrop.failOutput, if_pos waits]
  exact (h.close reason).stopWriting (close_isClosed b reason)

/-- The tasks go on to something else. -/
theorem Fits.goOn {reader' writer' : Phase} (h : Fits b reader writer)
    (reads : reader' = .left ↔ reader = .left) (writes : writer' = .left ↔ writer = .left)
    (line : ∀ seen, writer' = .writing seen → b.outbox ≠ []) : Fits b reader' writer' where
  reading := h.reading.trans (not_congr reads.symm)
  writing := h.writing.trans (not_congr writes.symm)
  accepting := h.accepting
  line := line
  closed := fun left => h.closed (left.imp reads.mp writes.mp)

theorem Fits.writeNext {seen : Nat} (h : Fits b reader (.writing seen)) :
    Fits b.writeNext reader (.looping seen) := by
  have loops : Fits b reader (.looping seen) := h.goOn .rfl (by simp) (by simp)
  unfold Backdrop.writeNext
  split
  · exact loops
  · rw [if_pos (by simp [h.writing, h.accepting])]
    exact ⟨loops.reading, loops.writing, loops.accepting, by simp, loops.closed⟩

end Fits

theorem run_backdrop {s : Session} (h : Session.Sound s) (ms : List Session.Move) :
    (Session.run ms s).backdrop = ms.foldl Backdrop.after s.backdrop := by
  induction ms generalizing s with
  | nil => rfl
  | cons m ms ih =>
    rw [Session.run_cons, ih (h.step m).toSound, h.toGoverned.step_backdrop, List.foldl_cons]

theorem run_isClosed {s : Session} (h : Session.Sound s) (ms : List Session.Move)
    (closed : s.status.isClosed = true) : (Session.run ms s).status.isClosed = true := by
  cases status : s.status with
  | opened => simp [status, Status.isClosed] at closed
  | closed reason =>
    rw [h.run_closed status ms]
    rfl

/-- A session as its tasks see it.  Only a close changes the status, and it does so once. -/
structure Tracked (t : Tasks) : Prop where
  sound : Session.Sound t.session
  changes : t.changes = if t.session.status.isClosed then 1 else 0
  fits : Fits t.session.backdrop t.reader t.writer

theorem tracked_spawn (settings : Settings) : Tracked (spawn settings) where
  sound := Session.sound_start settings
  changes := rfl
  fits := ⟨by simp [spawn, Session.start, Session.backdrop],
    by simp [spawn, Session.start, Session.backdrop], rfl, by simp [spawn], by simp [spawn]⟩

theorem Tracked.changes_perform (h : Tracked t) (ms : List Session.Move) :
    (t.perform ms).changes = if (t.perform ms).session.status.isClosed then 1 else 0 := by
  have before := h.changes
  simp only [perform]
  by_cases closed : t.session.status.isClosed = true
  · simp [closed, run_isClosed h.sound ms closed, before]
  · by_cases closes : (Session.run ms t.session).status.isClosed = true <;>
      simp [closed, closes, before]

theorem Tracked.perform (h : Tracked t) (ms : List Session.Move) {r w : Phase}
    (fits : Fits (ms.foldl Backdrop.after t.session.backdrop) r w) :
    Tracked { t.perform ms with reader := r, writer := w } where
  sound := h.sound.run ms
  changes := h.changes_perform ms
  fits := run_backdrop h.sound ms ▸ fits

/-- Moves while both tasks stay where they are. -/
theorem Tracked.stay (h : Tracked t) (ms : List Session.Move)
    (fits : Fits (ms.foldl Backdrop.after t.session.backdrop) t.reader t.writer) :
    Tracked (t.perform ms) :=
  h.perform ms fits

theorem Tracked.start (h : Tracked t) {k : Task} (fresh : t.phase k = .fresh) :
    Tracked ((t.perform (k.prelude t.session)).enter k (.looping t.changes)) := by
  cases k with
  | reader =>
    have works : t.reader = .fresh := fresh
    exact h.perform _ (h.fits.goOn (by simp [works]) .rfl h.fits.line)
  | writer =>
    have works : t.writer = .fresh := fresh
    exact h.perform [] (h.fits.goOn .rfl (by simp [works]) (by simp))

theorem Tracked.leave (h : Tracked t) (k : Task) (closed : t.session.status.isClosed = true) :
    Tracked ((t.perform [k.leave]).enter k .left) := by
  have status : t.session.backdrop.status.isClosed = true := closed
  cases k with
  | reader =>
    refine h.perform _ ?_
    simp only [List.foldl, Task.leave, Backdrop.after, Backdrop.leaveInput, if_pos status]
    exact h.fits.stopReading status
  | writer =>
    refine h.perform _ ?_
    simp only [List.foldl, Task.leave, Backdrop.after, Backdrop.leaveOutput, if_pos status]
    exact h.fits.stopWriting status

theorem Tracked.look (h : Tracked t) {k : Task} {seen : Nat} (loops : t.phase k = .looping seen) :
    Tracked (t.enter k (.looping t.changes)) := by
  cases k with
  | reader =>
    have works : t.reader = .looping seen := loops
    exact ⟨h.sound, h.changes, h.fits.goOn (by simp [works, enter]) .rfl h.fits.line⟩
  | writer =>
    have works : t.writer = .looping seen := loops
    exact ⟨h.sound, h.changes, h.fits.goOn .rfl (by simp [works, enter]) (by simp [enter])⟩

theorem Tracked.ending (h : Tracked t) (works : t.reader ≠ .left) (e : Ending) :
    Tracked ((t.perform e.moves).enter .reader .left) := by
  refine h.perform _ ?_
  cases e with
  | hungUp => exact h.fits.readTail.stopInput works .endOfStream
  | broken why => exact h.fits.stopInput works (.readFailed why)

theorem Tracked.poll (h : Tracked t) {p : Poll} (does : Does t p t') : Tracked t' := by
  cases does with
  | start fresh => exact h.start fresh
  | leave _ _ closed => exact h.leave _ closed
  | look loops => exact h.look loops
  | @byte seen b rest loops waits =>
    have taken : Tracked { t with incoming := rest } := ⟨h.sound, h.changes, h.fits⟩
    exact taken.stay [.byte b] (h.fits.readByte b)
  | tail => exact h.stay [.tail] h.fits.readTail
  | ending loops ended => exact h.ending (by simp [loops]) _
  | sweep => exact h.stay (sweeping t.session) h.fits
  | line loops waits =>
    exact ⟨h.sound, h.changes, h.fits.goOn .rfl (by simp [loops, enter]) fun _ _ => waits⟩
  | hand writes => exact h.perform [.write] (Fits.writeNext (writes ▸ h.fits))
  | failWrite writes => exact h.perform [.writeError _] ((writes ▸ h.fits).failOutput _)
  | failFlush writes => exact h.perform [.flushError _] ((writes ▸ h.fits).failOutput _)
  | shutDown => exact ⟨h.sound, h.changes, h.fits⟩

theorem Tracked.next (h : Tracked t) (next : Next t t') : Tracked t' := by
  cases next with
  | idle => exact h
  | @outside m outside => exact h.stay [m] (h.fits.outside outside)
  | arrive | finish | outlet => exact ⟨h.sound, h.changes, h.fits⟩
  | poll does => exact h.poll does

end Tasks

end Backchannel
