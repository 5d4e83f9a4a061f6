/-
# Backchannel.Proofs.Session.Rest -- a session at rest

When everything has settled no line waits for the writer, no timer is due, and of a session
that is closed reader and writer have stopped (`AtRest`).  Settling again then changes nothing,
and neither do the timers as long as the moments lie ahead that they are set to (`Ahead`).
-/
import Backchannel.Proofs.Session.Moment

namespace Backchannel

set_option autoImplicit false

namespace Backdrop

variable {b : Backdrop}

/-- What is at rest stays so if nothing is handed over. -/
theorem after_idle (idle : b.outbox = []) {m : Session.Move}
    (quiet : b.status.isClosed = true ∨ m.frame? = none) :
    (b.after m).outbox = [] ∧ (b.after m).written = b.written := by
  have closes (reason : CloseReason) : (b.close reason).outbox = [] ∧
      (b.close reason).written = b.written := by
    obtain ⟨written, outbox, -⟩ := b.close_written reason
    exact ⟨outbox.trans idle, written⟩
  have fails (reason : CloseReason) : b.failOutput reason = b := by
    simp [failOutput, idle]
  cases m with
  | send id sessionId kind payload =>
    have closed : b.status.isClosed = true := quiet.resolve_right (Option.some_ne_none _)
    simp [after, request, enqueue, closed, idle]
  | heartbeat =>
    have closed : b.status.isClosed = true := quiet.resolve_right (Option.some_ne_none _)
    simp [after, enqueue, closed, idle]
  | close => exact closes _
  | endOfStream | readError why =>
    simp only [after, stopInput]
    split
    · exact closes _
    · exact ⟨idle, rfl⟩
  | writeError why | flushError why =>
    rw [after, fails]
    exact ⟨idle, rfl⟩
  | write => simp [after, writeNext, idle]
  | byte | tail | leaveInput =>
    simp only [after, readByte, readTail, leaveInput]
    split <;> exact ⟨idle, rfl⟩
  | leaveOutput =>
    simp only [after, leaveOutput]
    split
    · exact ⟨rfl, rfl⟩
    · exact ⟨idle, rfl⟩
  | recv | drop | dropInbound | sweep | endOutput | timers | pass => exact ⟨idle, rfl⟩

theorem close_reading (reason : CloseReason) (b : Backdrop) :
    (b.close reason).reading = b.reading := by
  unfold close
  split <;> rfl

/-- A reader that has stopped does not go on. -/
theorem after_reading {m : Session.Move} (reads : (b.after m).reading = true) :
    b.reading = true := by
  have fails {reason : CloseReason} (reads : (b.failOutput reason).reading = true) :
      b.reading = true := by
    unfold failOutput at reads
    split at reads
    · exact (b.close_reading reason).symm.trans reads
    · exact reads
  cases m with
  | send id sessionId kind payload =>
    simp only [after, request, enqueue] at reads
    split at reads <;> exact reads
  | heartbeat =>
    simp only [after, enqueue] at reads
    split at reads <;> exact reads
  | close => exact (b.close_reading _).symm.trans reads
  | endOfStream | readError why =>
    simp only [after, stopInput] at reads
    split at reads
    · cases reads
    · exact reads
  | writeError why | flushError why => exact fails reads
  | write =>
    simp only [after, writeNext] at reads
    split at reads
    · exact reads
    · split at reads
      · exact reads
      · exact fails reads
  | byte | tail =>
    simp only [after, readByte, readTail] at reads
    split at reads <;> assumption
  | leaveInput =>
    simp only [after, leaveInput] at reads
    split at reads
    · cases reads
    · exact reads
  | leaveOutput =>
    simp only [after, leaveOutput] at reads
    split at reads <;> exact reads
  | recv | drop | dropInbound | sweep | endOutput | timers | pass => exact reads

end Backdrop

namespace Session

variable {s s' : Session} {margin : Duration} {t : Instant}

/-! ## What lies ahead -/

/-- The timers of a session that is open are due no earlier than in that time. -/
structure Ahead (margin : Duration) (s : Session) : Prop where
  sweep : s.status.isClosed = false → s.reading = true → s.now + margin ≤ s.sweepAt
  beat : s.status.isClosed = false → ∀ due, s.beatAt = some due → s.now + margin ≤ due

theorem Ahead.congr (h : Ahead margin s) (shared : s'.backdrop = s.backdrop)
    (timers : s'.timers = s.timers) : Ahead margin s' := by
  have reading : s'.reading = s.reading := congrArg Backdrop.reading shared
  have status : s'.status = s.status := congrArg Backdrop.status shared
  have now : s'.now = s.now := congrArg Backdrop.now shared
  have sweepAt : s'.sweepAt = s.sweepAt := congrArg Prod.fst timers
  have beatAt : s'.beatAt = s.beatAt := congrArg Prod.snd timers
  constructor
  · rw [status, reading, now, sweepAt]
    exact h.sweep
  · rw [status, now, beatAt]
    exact h.beat

/-- What takes no time and sets no timer leaves them ahead. -/
theorem Ahead.keep (h : Ahead margin s) (sound : Sound s) (still : Via Move.IsStill s s') :
    Ahead margin s' := by
  refine still.keeps (fun s m sound kind ahead => ?_) sound h
  have now := (sound.toGoverned.ticks m).now
  rw [kind.passes] at now
  constructor
  · intro opened reads
    have before := Backdrop.after_reading (b := s.backdrop) (m := m)
      (by rw [← sound.toGoverned.step_backdrop]; exact reads)
    rw [now, sound.toGoverned.step_sweepAt kind.timers]
    exact ahead.sweep (sound.toGoverned.opened_step opened) before
  · rw [now, sound.toGoverned.step_beatAt kind.timers]
    exact fun opened => ahead.beat (sound.toGoverned.opened_step opened)

/-! ## Settling -/

structure AtRest (s : Session) : Prop where
  ahead : Ahead 1 s
  outbox : s.outbox = []
  left : s.status.isClosed = true → s.reading = false ∧ s.writing = false

theorem AtRest.congr (h : AtRest s) (shared : s'.backdrop = s.backdrop)
    (timers : s'.timers = s.timers) : AtRest s' := by
  have reading : s'.reading = s.reading := congrArg Backdrop.reading shared
  have writing : s'.writing = s.writing := congrArg Backdrop.writing shared
  have status : s'.status = s.status := congrArg Backdrop.status shared
  refine ⟨h.ahead.congr shared timers, (congrArg Backdrop.outbox shared).trans h.outbox, ?_⟩
  rw [status, reading, writing]
  exact h.left

/-- The writer takes the line that has waited longest, or stops and drops them all. -/
theorem writeNext_outbox (works : s.writing = true ∨ s.outbox = []) :
    (s.writeNext.writing = true ∨ s.writeNext.outbox = []) ∧
      s.writeNext.outbox.length ≤ s.outbox.length - 1 := by
  cases waits : s.outbox with
  | nil => simp [writeNext, waits]
  | cons line rest =>
    have writes : s.writing = true := works.resolve_right (by simp [waits])
    cases takes : s.accepting with
    | true => simp [writeNext, waits, writes, takes]
    | false => simp [writeNext, failOutput, waits, writes, takes]

theorem writeAll_outbox (works : s.writing = true) : s.writeAll.outbox = [] := by
  have left (n : Nat) : ((Nat.repeat writeNext n s).writing = true ∨
        (Nat.repeat writeNext n s).outbox = []) ∧
      (Nat.repeat writeNext n s).outbox.length ≤ s.outbox.length - n := by
    induction n with
    | zero => exact ⟨.inl works, Nat.le_refl _⟩
    | succ n ih =>
      obtain ⟨works', fewer⟩ := writeNext_outbox ih.1
      exact ⟨works', by rw [Nat.repeat]; omega⟩
  have none := (left s.outbox.length).2
  rw [Nat.sub_self] at none
  exact List.eq_nil_of_length_eq_zero (Nat.le_zero.mp none)

theorem noticeClose_of_open (opened : s.status.isClosed = false) : s.noticeClose = s := by
  simp [noticeClose, leaveInput, leaveOutput, opened]

theorem noticeClose_of_closed (closed : s.status.isClosed = true) :
    s.noticeClose = { s with reading := false, writing := false, outbox := [] } := by
  simp [noticeClose, leaveInput, leaveOutput, closed]

theorem noticeClose_left (works : s.status.isClosed = false → s.outbox = []) :
    s.noticeClose.outbox = [] ∧ (s.noticeClose.status.isClosed = true →
      s.noticeClose.reading = false ∧ s.noticeClose.writing = false) := by
  cases status : s.status.isClosed with
  | false =>
    rw [noticeClose_of_open status]
    exact ⟨works status, fun closed => by rw [status] at closed; cases closed⟩
  | true =>
    rw [noticeClose_of_closed status]
    exact ⟨rfl, fun _ => ⟨rfl, rfl⟩⟩

theorem Ahead.settle (h : Ahead 1 s) (sound : Sound s) : AtRest s.settle := by
  have ahead := h.keep sound ((settle_silent s).mono fun _ kind => kind.toIsStill)
  have left : s.settle.outbox = [] ∧ (s.settle.status.isClosed = true →
      s.settle.reading = false ∧ s.settle.writing = false) := by
    unfold Session.settle
    split
    · rename_i closed
      exact noticeClose_left fun opened => by rw [closed] at opened; cases opened
    · rename_i opened
      exact noticeClose_left fun _ => writeAll_outbox (sound.writing (by simpa using opened))
  exact ⟨ahead, left.1, left.2⟩

/-- What is at rest has settled. -/
theorem AtRest.settle (h : AtRest s) : s.settle = s := by
  have wrote : s.writeAll = s := by
    rw [writeAll, h.outbox]
    rfl
  have noticed : s.noticeClose = s := by
    cases status : s.status.isClosed with
    | false => exact noticeClose_of_open status
    | true =>
      obtain ⟨reading, writing⟩ := h.left status
      have outbox := h.outbox
      rw [noticeClose_of_closed status]
      clear h wrote
      cases s
      simp_all
  unfold Session.settle
  split
  · exact noticed
  · rw [wrote]
    exact noticed

theorem Governed.step_idle (h : Governed s) (idle : s.outbox = []) {m : Move}
    (quiet : s.status.isClosed = true ∨ m.frame? = none) :
    (s.step m).outbox = [] ∧ (s.step m).written = s.written := by
  have after := Backdrop.after_idle (b := s.backdrop) idle quiet
  rwa [← h.step_backdrop] at after

/-- Nothing is written any more once a session is closed and no line waits. -/
theorem Leads.idle (h : Leads s s') (sound : Sound s) (closed : s.status.isClosed = true)
    (idle : s.outbox = []) : s'.outbox = [] ∧ s'.written = s.written := by
  obtain ⟨ms, rfl⟩ := h
  induction ms generalizing s with
  | nil => exact ⟨idle, rfl⟩
  | cons m ms ih =>
    obtain ⟨waits, kept⟩ := sound.toGoverned.step_idle idle (m := m) (.inl closed)
    have first : Leads s (s.step m) := ⟨[m], rfl⟩
    obtain ⟨rests, same⟩ := ih (first.sound sound) (first.closed sound closed) waits
    exact ⟨rests, same.trans kept⟩

/-! ## The timers -/

variable {every : Duration}

/-- Timers whose moments have not been missed go off and are set ahead. -/
theorem Sound.ring_ahead (sound : Sound s) (set : s.settings.heartbeatEvery = some every)
    (positive : 0 < every) (reached : Ahead 0 s) :
    s.ring = fireBeats 1 s.fireSweep ∧ Ahead 1 s.ring := by
  obtain ⟨shared, timer⟩ := fireSweep_shared s
  have settings : s.fireSweep.settings = s.settings := congrArg Backdrop.settings shared
  have status : s.fireSweep.status = s.status := congrArg Backdrop.status shared
  have now : s.fireSweep.now = s.now := congrArg Backdrop.now shared
  have reading : s.fireSweep.reading = s.reading := congrArg Backdrop.reading shared
  have governed : Governed s.fireSweep :=
    ((fireSweep_moment s).leads.sound sound).toGoverned
  obtain ⟨once, next⟩ := governed.fireBeats_once (settings ▸ set) positive
    (by rw [status, timer, now]; exact reached.beat) (lateness + 1)
  obtain ⟨now', status', reading', sweepAt'⟩ := governed.beat_rest
  have rung : s.ring = fireBeats 1 s.fireSweep := once
  rw [rung]
  refine ⟨rfl, fun opened reads => ?_, fun opened due timer => ?_⟩
  · rw [status', status] at opened
    rw [reading', reading] at reads
    rw [now', sweepAt', now]
    rcases fireSweep_cases s with ⟨early, idle⟩ | ⟨next, late, swept⟩
    · rw [idle]
      exact early reads
    · rw [swept]
      exact late (reached.sweep opened reads)
  · rw [now']
    exact next (status' ▸ opened) due timer

/-- With the timers ahead there is nothing to do, but for the heartbeat of a session that is
closed, which ceases when it would be due. -/
theorem Ahead.ring (h : Ahead 1 s) (left : s.status.isClosed = true → s.reading = false)
    (set : s.settings.heartbeatEvery = some every) :
    s.ring = { s with beatAt := s.beatAt.filter (s.now < ·) } := by
  have unswept : s.fireSweep = s := by
    unfold fireSweep
    refine if_neg fun due => ?_
    obtain ⟨reads, late⟩ := Bool.and_eq_true_iff.mp due
    cases status : s.status.isClosed with
    | true =>
      rw [left status] at reads
      cases reads
    | false => exact Nat.not_le.mpr (h.sweep status reads) (of_decide_eq_true late)
  rw [Session.ring, unswept]
  cases timer : s.beatAt with
  | none =>
    rw [fireBeats_ahead (.inr (by simp [timer])), Option.filter, ← timer]
  | some due =>
    by_cases late : due ≤ s.now
    · have closed : s.status.isClosed = true := by
        cases status : s.status.isClosed with
        | true => rfl
        | false => exact absurd late (Nat.not_le.mpr (h.beat status due timer))
      rw [fireBeats_refused closed set timer late]
      simp [Option.filter, Nat.not_lt.mpr late]
    · have early := Nat.lt_of_not_le late
      rw [fireBeats_ahead (.inr (by simpa [timer] using early))]
      simp [Option.filter, early, ← timer]

/-! ## The next stop -/

variable {due early target : Instant}

theorem foldl_min_min (times : List Nat) (a b : Nat) :
    times.foldl min (min a b) = min a (times.foldl min b) := by
  induction times generalizing b with
  | nil => rfl
  | cons t times ih => rw [List.foldl_cons, List.foldl_cons, Nat.min_assoc, ih]

theorem foldl_min_le_of_mem {times : List Nat} {t : Nat} (among : t ∈ times) (target : Nat) :
    times.foldl min target ≤ t := by
  induction times generalizing target with
  | nil => cases among
  | cons u times ih =>
    rcases List.mem_cons.mp among with rfl | among
    · exact Nat.le_trans (foldl_min_le times (min target t)) (Nat.min_le_right target t)
    · exact ih among (min target u)

/-- Nothing that may become due is passed over. -/
theorem nextStop_le_due (among : due ∈ s.dueTimes) (later : s.now < due) (target : Instant) :
    s.nextStop target ≤ due :=
  foldl_min_le_of_mem (List.mem_filter.mpr ⟨among, decide_eq_true later⟩) target

/-- On the way to a target time passes. -/
theorem lt_nextStop (ahead : s.now < target) : s.now < s.nextStop target := by
  have bound : ∀ t ∈ s.dueTimes.filter (s.now < ·), s.now + 1 ≤ t := fun t mem =>
    of_decide_eq_true (List.mem_filter.mp mem).2
  exact le_foldl_min ahead bound

theorem sweepAt_mem_dueTimes (opened : s.status.isClosed = false) : s.sweepAt ∈ s.dueTimes := by
  simp [dueTimes, opened]

theorem beatAt_mem_dueTimes (opened : s.status.isClosed = false) (timer : s.beatAt = some due) :
    due ∈ s.dueTimes := by
  simp [dueTimes, opened, timer]

theorem dueTimes_of_closed (closed : s.status.isClosed = true) : s.dueTimes = [] := by
  simp [dueTimes, closed]

/-- A session that is closed stops at the target alone. -/
theorem nextStop_of_closed (closed : s.status.isClosed = true) (target : Instant) :
    s.nextStop target = target := by
  simp [nextStop, dueTimes_of_closed closed]

/-- On the way to an earlier target the stops are the same, as far as it goes. -/
theorem nextStop_early (le : early ≤ target) :
    s.nextStop early = min early (s.nextStop target) := by
  have same : min early target = early := Nat.min_eq_left le
  rw [nextStop, nextStop, ← foldl_min_min, same]

/-- At the next stop nothing has been missed. -/
theorem Ahead.reach (h : Ahead 1 s) (target : Instant) :
    Ahead 0 { s with now := s.nextStop target } := by
  constructor
  · intro opened reads
    have opened : s.status.isClosed = false := opened
    exact nextStop_le_due (sweepAt_mem_dueTimes opened) (h.sweep opened reads) target
  · intro opened due timer
    have opened : s.status.isClosed = false := opened
    have timer : s.beatAt = some due := timer
    exact nextStop_le_due (beatAt_mem_dueTimes opened timer) (h.beat opened due timer) target

end Session

end Backchannel
