/-
# Backchannel.Proofs.Session.Moment -- what happens while no time passes

Whatever a session does by itself, it does in moves.  `Leads s s'` says that moves lead from
`s` to `s'`.  Of what kind they are is said by `Via`: in a `Moment` no time passes; what is
done `Silently` leaves the timers alone as well and hands nothing to the writer; who is
`Asking` may make requests.  What holds after every run therefore holds wherever these
operations lead.
-/
import Backchannel.Proofs.Session.Outbound
import Backchannel.Proofs.Session.Timers

namespace Backchannel.Session

set_option autoImplicit false

open Backchannel.Text.Utf8 (Bytes)

variable {s s' s'' : Session} {P Q : Move → Prop}

/-- Moves lead from one session to the other. -/
def Leads (s s' : Session) : Prop := ∃ ms, s' = run ms s

theorem Leads.refl (s : Session) : Leads s s := ⟨[], rfl⟩

theorem Leads.trans (first : Leads s s') (rest : Leads s' s'') : Leads s s'' := by
  obtain ⟨ms, rfl⟩ := first
  obtain ⟨ns, rfl⟩ := rest
  exact ⟨ms ++ ns, (run_append ms ns s).symm⟩

theorem Leads.sound (h : Leads s s') (sound : Sound s) : Sound s' := by
  obtain ⟨ms, rfl⟩ := h
  exact sound.run ms

theorem Leads.settings (h : Leads s s') (sound : Sound s) : s'.settings = s.settings := by
  obtain ⟨ms, rfl⟩ := h
  exact sound.run_settings ms

theorem Leads.closed (h : Leads s s') (sound : Sound s) (closed : s.status.isClosed = true) :
    s'.status.isClosed = true := by
  obtain ⟨ms, rfl⟩ := h
  cases status : s.status with
  | opened => simp [status, Status.isClosed] at closed
  | closed reason =>
    rw [sound.run_closed status ms]
    rfl

/-- Moves of one kind lead from one session to the other. -/
def Via (P : Move → Prop) (s s' : Session) : Prop := ∃ ms, (∀ m ∈ ms, P m) ∧ s' = run ms s

namespace Via

theorem refl (s : Session) : Via P s s := ⟨[], by simp, rfl⟩

theorem trans (first : Via P s s') (rest : Via P s' s'') : Via P s s'' := by
  obtain ⟨ms, all, rfl⟩ := first
  obtain ⟨ns, all', rfl⟩ := rest
  refine ⟨ms ++ ns, fun m mem => ?_, (run_append ms ns s).symm⟩
  rcases List.mem_append.mp mem with mem | mem
  · exact all m mem
  · exact all' m mem

theorem of_move (s : Session) (m : Move) (kind : P m) : Via P s (s.step m) := by
  refine ⟨[m], fun n mem => ?_, rfl⟩
  rw [List.mem_singleton.mp mem]
  exact kind

theorem mono (kinds : ∀ m, P m → Q m) (h : Via P s s') : Via Q s s' := by
  obtain ⟨ms, all, same⟩ := h
  exact ⟨ms, fun m mem => kinds m (all m mem), same⟩

theorem leads (h : Via P s s') : Leads s s' := by
  obtain ⟨ms, -, same⟩ := h
  exact ⟨ms, same⟩

/-- What every move of a kind keeps in a sound session is kept. -/
theorem keeps {I : Session → Prop} (step : ∀ s m, Sound s → P m → I s → I (s.step m))
    (h : Via P s s') (sound : Sound s) (holds : I s) : I s' := by
  obtain ⟨ms, all, rfl⟩ := h
  induction ms generalizing s with
  | nil => exact holds
  | cons m ms ih =>
    have first := step s m sound (all m List.mem_cons_self) holds
    exact ih (sound.step m).toSound first fun n mem => all n (List.mem_cons_of_mem m mem)

end Via

/-- It takes no time and leaves the timers alone. -/
structure Move.IsStill (m : Move) : Prop where
  passes : m.passes = 0
  timers : m.setsTimers = false

/-- It hands nothing to the writer either. -/
structure Move.IsSilent (m : Move) : Prop extends m.IsStill where
  frame : m.frame? = none

/-- What it hands to the writer is no heartbeat. -/
structure Move.IsAsking (m : Move) : Prop extends m.IsStill where
  frame : m.frame? ≠ some .heartbeat

theorem Move.IsSilent.isAsking {m : Move} (h : m.IsSilent) : m.IsAsking where
  toIsStill := h.toIsStill
  frame := by
    simp [h.frame]

/-- No time passes. -/
abbrev Moment (s s' : Session) : Prop := Via (fun m => m.passes = 0) s s'

abbrev Silently (s s' : Session) : Prop := Via Move.IsSilent s s'

abbrev Asking (s s' : Session) : Prop := Via Move.IsAsking s s'

theorem Silently.of_move (s : Session) (m : Move) (passes : m.passes = 0)
    (timers : m.setsTimers = false) (frame : m.frame? = none) : Silently s (s.step m) :=
  Via.of_move s m ⟨⟨passes, timers⟩, frame⟩

theorem Silently.asking (h : Silently s s') : Asking s s' := h.mono fun _ kind => kind.isAsking

theorem Asking.moment (h : Asking s s') : Moment s s' := h.mono fun _ kind => kind.passes

theorem Silently.moment (h : Silently s s') : Moment s s' := h.asking.moment

theorem Moment.now (h : Moment s s') (sound : Sound s) : s'.now = s.now := by
  refine h.keeps (I := fun s' => s'.now = s.now) (fun s' m sound still same => ?_) sound rfl
  rw [(sound.toGoverned.ticks m).now, still, same]
  rfl

/-- Time passes. -/
theorem leads_of_le {t : Instant} (later : s.now ≤ t) : Leads s { s with now := t } := by
  refine ⟨[.pass (t - s.now)], ?_⟩
  have arrived : s.now + (t - s.now) = t := Nat.add_sub_cancel' later
  simp only [run_cons, run_nil, step, perform, arrived]

/-! ## Reader and writer -/

theorem recv_silent (id : RequestId) (s : Session) : Silently s (s.recv id).2 := by
  have moved := Silently.of_move s (.recv id) rfl rfl rfl
  rwa [step_recv] at moved

theorem readBytes_silent (bytes : Bytes) (s : Session) : Silently s (s.readBytes bytes) := by
  induction bytes generalizing s with
  | nil => exact .refl s
  | cons b bytes ih =>
    exact (Silently.of_move s (.byte b) rfl rfl rfl).trans (ih (s.readByte b))

theorem endInput_silent (s : Session) : Silently s s.endInput :=
  (Silently.of_move s .tail rfl rfl rfl).trans (Silently.of_move s.readTail .endOfStream rfl rfl rfl)

theorem writeAll_silent (s : Session) : Silently s s.writeAll := by
  unfold writeAll
  generalize s.outbox.length = n
  induction n with
  | zero => exact .refl s
  | succ n ih => exact ih.trans (Silently.of_move _ .write rfl rfl rfl)

theorem noticeClose_silent (s : Session) : Silently s s.noticeClose :=
  (Silently.of_move s .leaveInput rfl rfl rfl).trans
    (Silently.of_move s.leaveInput .leaveOutput rfl rfl rfl)

theorem settle_silent (s : Session) : Silently s s.settle := by
  unfold settle
  split
  · exact noticeClose_silent s
  · exact (writeAll_silent s).trans (noticeClose_silent s.writeAll)

/-! ## Timers -/

theorem fireSweep_moment (s : Session) : Moment s s.fireSweep := by
  unfold fireSweep
  split
  · exact Via.trans (.of_move s .sweep rfl) (.of_move s.sweep (.timers _ s.sweep.beatAt) rfl)
  · exact .refl s

theorem fireBeats_moment (fuel : Nat) (s : Session) : Moment s (fireBeats fuel s) := by
  induction fuel generalizing s with
  | zero => exact .refl s
  | succ fuel ih =>
    have beat : Moment s s.heartbeat.2 := .of_move s .heartbeat rfl
    have set (next : Option Instant) :
        Moment s.heartbeat.2 { s.heartbeat.2 with beatAt := next } :=
      .of_move s.heartbeat.2 (.timers s.heartbeat.2.sweepAt next) rfl
    unfold fireBeats
    split
    · split
      · split
        · rename_i same
          rw [same] at beat set
          exact (beat.trans (set _)).trans (ih _)
        · rename_i same
          rw [same] at beat set
          exact beat.trans (set none)
      · exact .refl s
    · exact .refl s

theorem ring_moment (s : Session) : Moment s s.ring :=
  (fireSweep_moment s).trans (fireBeats_moment _ s.fireSweep)

theorem foldl_min_le (times : List Nat) (target : Nat) : times.foldl min target ≤ target := by
  induction times generalizing target with
  | nil => exact Nat.le_refl target
  | cons t times ih => exact Nat.le_trans (ih (min target t)) (Nat.min_le_left target t)

theorem le_foldl_min {times : List Nat} {bound target : Nat} (ahead : bound ≤ target)
    (all : ∀ t ∈ times, bound ≤ t) : bound ≤ times.foldl min target := by
  induction times generalizing target with
  | nil => exact ahead
  | cons t times ih =>
    have first : bound ≤ min target t := Nat.le_min.mpr ⟨ahead, all t List.mem_cons_self⟩
    exact ih first fun u mem => all u (List.mem_cons_of_mem t mem)

/-- The next stop is no later than the target, -/
theorem nextStop_le (s : Session) (target : Instant) : s.nextStop target ≤ target :=
  foldl_min_le _ target

/-- and not in the past. -/
theorem le_nextStop {target : Instant} (ahead : s.now ≤ target) : s.now ≤ s.nextStop target := by
  refine le_foldl_min ahead fun t mem => ?_
  obtain ⟨-, later⟩ := List.mem_filter.mp mem
  exact Nat.le_of_lt (of_decide_eq_true later)

end Backchannel.Session
