/-
# Backchannel.Proofs.Session.Beats -- the beat of a session

In a paced run time passes continuously: only when no line waits for the writer, and never past
the moment at which a heartbeat is due.  Two records tell what such a run brings about: the
lines that are handed to the writer, each with the moment and with who handed it over
(`posts`), and the lines that the daemon gets, each with the moment (`record`).  Whatever else
happens, the timer hands over one heartbeat at every multiple of its period, and a line is
written at the moment at which it is handed over (`Beats.happen`).
-/
import Backchannel.Proofs.Session.Rest

namespace Backchannel.Session

set_option autoImplicit false

variable {s s' : Session}

/-! ## What happens -/

/-- A line that was handed to the writer. -/
structure Posted where
  line : String
  moment : Instant
  /-- It is the timer's, not the plugin's. -/
  byTimer : Bool

/-- The line, and when it was handed over. -/
def Posted.stamp (p : Posted) : String × Instant := (p.line, p.moment)

/-- The heartbeat of a timer with that number, counted from naught. -/
def timerBeat (period : Duration) (k : Nat) : Posted :=
  ⟨OutboundFrame.heartbeat.toLine, (k + 1) * period, true⟩

/-- The lines that are handed to the writer: that of a call which succeeds, and what the task
of the heartbeat puts behind those that wait. -/
def Happening.posts (s : Session) : Happening → List Posted
  | .move m => (Step.line? ⟨s, m⟩).toList.map (⟨·, s.now, false⟩)
  | .sweep => []
  | .beat => ((s.happen .beat).outbox.drop s.outbox.length).map (⟨·, s.now, true⟩)

/-- The lines that the daemon gets, and when. -/
def Happening.record (s : Session) (h : Happening) : List (String × Instant) :=
  ((s.happen h).written.drop s.written.length).map (·, s.now)

def posts : List Happening → Session → List Posted
  | [], _ => []
  | h :: hs, s => h.posts s ++ posts hs (s.happen h)

def record : List Happening → Session → List (String × Instant)
  | [], _ => []
  | h :: hs, s => h.record s ++ record hs (s.happen h)

/-- The lines of the timer among those that the daemon gets. -/
def autos (hs : List Happening) (s : Session) : List Posted :=
  ((posts hs s).take (record hs s).length).filter Posted.byTimer

theorem posts_append (hs more : List Happening) (s : Session) :
    posts (hs ++ more) s = posts hs s ++ posts more (after hs s) := by
  induction hs generalizing s with
  | nil => rfl
  | cons h hs ih =>
    rw [List.cons_append, posts, ih, posts, List.append_assoc]
    rfl

theorem record_append (hs more : List Happening) (s : Session) :
    record (hs ++ more) s = record hs s ++ record more (after hs s) := by
  induction hs generalizing s with
  | nil => rfl
  | cons h hs ih =>
    rw [List.cons_append, record, ih, record, List.append_assoc]
    rfl

theorem Paced.append {hs more : List Happening} (first : Paced hs s)
    (rest : Paced more (after hs s)) : Paced (hs ++ more) s := by
  induction hs generalizing s with
  | nil => exact rest
  | cons h hs ih => exact ⟨first.1, ih first.2 rest⟩

theorem happen_leads (x : Happening) (s : Session) : Leads s (s.happen x) := by
  cases x with
  | move m => exact ⟨[m], rfl⟩
  | sweep => exact (fireSweep_moment s).leads
  | beat => exact (fireBeats_moment 1 s).leads

theorem after_leads (hs : List Happening) (s : Session) : Leads s (after hs s) := by
  induction hs generalizing s with
  | nil => exact .refl s
  | cons x hs ih => exact (happen_leads x s).trans (ih (s.happen x))

end Backchannel.Session

namespace Backchannel

open Session (Posted)

namespace Backdrop

/-! ## The queue -/

/-- Only a writer that works writes, and one that has stopped does not go on. -/
structure Flows (b b' : Backdrop) : Prop where
  written : ∃ lines, b'.written = b.written ++ lines ∧ (lines ≠ [] → b.writing = true)
  writing : b'.writing = true → b.writing = true

variable {b b' : Backdrop}

theorem Flows.of_same (written : b'.written = b.written)
    (writing : b'.writing = true → b.writing = true) : Flows b b' where
  written := ⟨[], by rw [written, List.append_nil], fun some => absurd rfl some⟩
  writing := writing

theorem close_flows (reason : CloseReason) (b : Backdrop) : Flows b (b.close reason) := by
  obtain ⟨written, -, writing⟩ := b.close_written reason
  exact .of_same written fun works => writing ▸ works

theorem stopInput_flows (reason : CloseReason) (b : Backdrop) : Flows b (b.stopInput reason) := by
  unfold stopInput
  split
  · obtain ⟨written, -, writing⟩ := b.close_written reason
    exact .of_same written fun works => writing ▸ works
  · exact .of_same rfl id

theorem failOutput_flows (reason : CloseReason) (b : Backdrop) : Flows b (b.failOutput reason) := by
  unfold failOutput
  split
  · exact .of_same (b.close_written reason).1 nofun
  · exact .of_same rfl id

theorem writeNext_flows (b : Backdrop) : Flows b b.writeNext := by
  unfold writeNext
  split
  · exact .of_same rfl id
  · rename_i line rest waits
    split
    · rename_i works
      obtain ⟨writes, -⟩ := Bool.and_eq_true_iff.mp works
      exact ⟨⟨[line], rfl, fun _ => writes⟩, fun _ => writes⟩
    · exact failOutput_flows _ b

theorem enqueue_flows (line : String) (b : Backdrop) : Flows b (b.enqueue line) := by
  unfold enqueue
  split <;> exact .of_same rfl id

theorem after_flows (m : Session.Move) (b : Backdrop) : Flows b (b.after m) := by
  cases m with
  | send id sessionId kind payload =>
    have called := enqueue_flows (OutboundFrame.invoke sessionId ⟨kind, id, payload⟩).toLine b.request
    have same : b.request.written = b.written ∧ b.request.writing = b.writing := by
      unfold request
      split <;> exact ⟨rfl, rfl⟩
    exact ⟨same.1 ▸ same.2 ▸ called.written, same.2 ▸ called.writing⟩
  | heartbeat => exact enqueue_flows _ b
  | close => exact close_flows _ b
  | endOfStream | readError why => exact stopInput_flows _ b
  | writeError why | flushError why => exact failOutput_flows _ b
  | write => exact writeNext_flows b
  | byte | tail | leaveInput =>
    simp only [after, readByte, readTail, leaveInput]
    split <;> exact .of_same rfl id
  | leaveOutput =>
    simp only [after, leaveOutput]
    split
    · exact .of_same rfl fun works => absurd works Bool.false_ne_true
    · exact .of_same rfl id
  | recv | drop | dropInbound | sweep | endOutput | timers | pass => exact .of_same rfl id

end Backdrop

namespace Session

variable {b b' : Backdrop} {s s' : Session} {ps new : List Posted}
  {got : List (String × Instant)} {lines : List String}

/-- What was handed over until now and what the daemon got of it. -/
structure Ledger (ps : List Posted) (got : List (String × Instant)) (b : Backdrop) : Prop where
  accounts : b.Accounts (ps.map Posted.line)
  got : got = (ps.take b.written.length).map Posted.stamp
  /-- What waits for the writer was handed over just now. -/
  fresh : b.writing = true → ∀ p ∈ ps.drop b.written.length, p.moment = b.now

theorem Ledger.length (h : Ledger ps got b) :
    b.written.length ≤ ps.length ∧ got.length = b.written.length := by
  obtain ⟨lost, same, -⟩ := h.accounts
  have count := congrArg List.length same
  simp only [List.length_append, List.length_map] at count
  have got := congrArg List.length h.got
  simp only [List.length_map, List.length_take] at got
  omega

/-- Lines are handed over, or the writer takes those that have waited longest; no time passes. -/
theorem Ledger.goesOn (h : Ledger ps got b)
    (accounts : b'.Accounts ((ps ++ new).map Posted.line)) (moments : ∀ p ∈ new, p.moment = b.now)
    (written : b'.written = b.written ++ lines) (wrote : lines ≠ [] → b.writing = true)
    (writing : b'.writing = true → b.writing = true) (now : b'.now = b.now) :
    Ledger (ps ++ new) (got ++ lines.map (·, b.now)) b' := by
  obtain ⟨short, -⟩ := h.length
  have fresh (works : b.writing = true) :
      ∀ p ∈ (ps ++ new).drop b.written.length, p.moment = b.now := by
    intro p among
    rw [List.drop_append_of_le_length short] at among
    rcases List.mem_append.mp among with waited | just
    · exact h.fresh works p waited
    · exact moments p just
  refine ⟨accounts, ?_, fun works p among => ?_⟩
  · -- What is written now are the lines behind those that were written before.
    have taken : (((ps ++ new).drop b.written.length).take lines.length).map Posted.line = lines := by
      obtain ⟨lost, same, -⟩ := accounts
      rw [List.map_take, List.map_drop, ← same, written]
      simp
    have stamped : (((ps ++ new).drop b.written.length).take lines.length).map Posted.stamp =
        lines.map (·, b.now) := by
      rcases Decidable.em (lines = []) with rfl | some
      · rfl
      conv => rhs; rw [← taken, List.map_map]
      refine List.map_congr_left fun p among => ?_
      exact congrArg (p.line, ·) (fresh (wrote some) p (List.mem_of_mem_take among))
    rw [written, List.length_append, List.take_add, List.map_append, stamped, h.got,
      List.take_append_of_le_length short]
  · rw [now]
    refine fresh (writing works) p ?_
    rw [written, List.length_append, ← List.drop_drop] at among
    exact List.mem_of_mem_drop among

/-- Time passes while nothing waits. -/
theorem Ledger.pass (h : Ledger ps got b) (idle : b.outbox = []) (span : Duration) :
    Ledger ps got { b with now := b.now + span } := by
  refine ⟨h.accounts, h.got, fun works p among => ?_⟩
  obtain ⟨lost, same, kept⟩ := h.accounts
  have count := congrArg List.length same
  simp [idle, kept works] at count
  rw [List.drop_eq_nil_iff.mpr (by simp [count])] at among
  cases among

/-! ## What happens keeps the beat -/

/-- A move sets no timer, and if time passes in it, then as it may. -/
theorem Happening.Paced.move {m : Move} (paced : (Happening.move m).Paced s) :
    m.setsTimers = false ∧
      (m.passes = 0 ∨ ∃ span, m = .pass span ∧ s.outbox = [] ∧
        (s.status.isClosed = false → ∀ due, s.beatAt = some due → s.now + span ≤ due)) := by
  cases m with
  | pass span =>
    refine ⟨rfl, (Nat.eq_zero_or_pos span).imp id fun passes => ?_⟩
    exact ⟨span, rfl, paced passes⟩
  | _ => exact ⟨paced, .inl rfl⟩

theorem Ledger.move (h : Ledger ps got s.backdrop) (sound : Sound s) {m : Move}
    (paced : (Happening.move m).Paced s) :
    Ledger (ps ++ Happening.posts s (.move m)) (got ++ Happening.record s (.move m))
      (s.step m).backdrop := by
  rcases paced.move with ⟨-, still | ⟨span, rfl, idle, -⟩⟩
  · have accounts := sound.toGoverned.accounts_step h.accounts m
    have flows := Backdrop.after_flows m s.backdrop
    rw [← sound.toGoverned.step_backdrop] at flows
    obtain ⟨lines, written, wrote⟩ := flows.written
    have now : (s.step m).backdrop.now = s.backdrop.now := by
      have ticks := (sound.toGoverned.ticks m).now
      rw [still] at ticks
      exact ticks
    have record : Happening.record s (.move m) = lines.map (·, s.now) := by
      have same : (s.step m).written = s.written ++ lines := written
      rw [Happening.record, happen, same, List.drop_left]
    rw [record]
    refine h.goesOn ?_ ?_ written wrote flows.writing now
    · have lined : (Happening.posts s (.move m)).map Posted.line = (Step.line? ⟨s, m⟩).toList := by
        simp [Happening.posts, Function.comp_def]
      rw [List.map_append, lined]
      exact accounts
    · intro p among
      obtain ⟨line, -, rfl⟩ := List.mem_map.mp among
      rfl
  · have nothing : Happening.record s (.move (.pass span)) = [] := by
      simp [Happening.record, happen, step, perform]
    have silent : Happening.posts s (.move (.pass span)) = [] := rfl
    rw [nothing, silent, List.append_nil, List.append_nil]
    exact h.pass idle span

/-- The heartbeats of a session whose timer has handed over so many. -/
structure Beats (settings : Settings) (period : Duration) (sent : Nat) (ps : List Posted)
    (got : List (String × Instant)) (s : Session) : Prop extends Sound s where
  settings : s.settings = settings
  ledger : Ledger ps got s.backdrop
  byTimer : ps.filter Posted.byTimer = (List.range sent).map (timerBeat period)
  timer : s.status.isClosed = false → s.beatAt = some ((sent + 1) * period)
  since : s.status.isClosed = false → sent * period ≤ s.now
  inTime : s.status.isClosed = false → s.now ≤ (sent + 1) * period

variable {settings : Settings} {every period : Duration} {sent : Nat}

/-- Neither queue nor timer changes. -/
theorem Beats.of_same (h : Beats settings period sent ps got s) (sound : Sound s')
    (shared : s'.backdrop = s.backdrop)
    (timer : s.status.isClosed = false → s'.beatAt = s.beatAt) :
    Beats settings period sent ps got s' := by
  have settings' : s'.settings = s.settings := congrArg Backdrop.settings shared
  have status : s'.status = s.status := congrArg Backdrop.status shared
  have now : s'.now = s.now := congrArg Backdrop.now shared
  refine ⟨sound, settings'.trans h.settings, shared ▸ h.ledger, h.byTimer, ?_, ?_, ?_⟩
  · rw [status]
    exact fun opened => (timer opened).trans (h.timer opened)
  · rw [status, now]
    exact h.since
  · rw [status, now]
    exact h.inTime

theorem Beats.move (h : Beats settings period sent ps got s) {m : Move}
    (paced : (Happening.move m).Paced s) :
    Beats settings period sent (ps ++ Happening.posts s (.move m))
      (got ++ Happening.record s (.move m)) (s.step m) := by
  have stepped := h.toSound.step m
  obtain ⟨own, passes⟩ := paced.move
  have now := (h.toGoverned.ticks m).now
  refine ⟨stepped.toSound, stepped.settings.trans h.settings, h.ledger.move h.toSound paced, ?_,
    fun opened => ?_, fun opened => ?_, fun opened => ?_⟩
  · have plugins : (Happening.posts s (.move m)).filter Posted.byTimer = [] := by
      simp [Happening.posts]
    rw [List.filter_append, plugins, List.append_nil]
    exact h.byTimer
  · exact (h.toGoverned.step_beatAt own).trans (h.timer (h.toGoverned.opened_step opened))
  · exact Nat.le_trans (h.since (h.toGoverned.opened_step opened)) (h.toGoverned.now_le m)
  · have before := h.toGoverned.opened_step opened
    rw [now]
    rcases passes with still | ⟨span, rfl, -, inTime⟩
    · rw [still]
      exact h.inTime before
    · exact inTime before _ (h.timer before)

theorem Beats.beat (set : settings.heartbeatEvery = some every)
    (h : Beats settings (min every maxWait) sent ps got s) :
    ∃ sent', Beats settings (min every maxWait) sent' (ps ++ Happening.posts s .beat)
      (got ++ Happening.record s .beat) (s.happen .beat) := by
  have turn : BeatTurn s (s.happen .beat) := h.toGoverned.beatTurn
  have sound : Sound (s.happen .beat) := (happen_leads .beat s).sound h.toSound
  rw [Happening.posts, Happening.record]
  generalize s.happen .beat = s' at turn sound ⊢
  cases turn with
  | idle => exact ⟨sent, by simpa using h⟩
  | refused closed =>
    refine ⟨sent, ?_⟩
    simpa using h.of_same sound rfl fun opened => by rw [closed] at opened; cases opened
  | sent opened set' timer late =>
    obtain rfl : every = _ := Option.some.inj (set.symm.trans (h.settings ▸ set'))
    obtain rfl := Option.some.inj (timer.symm.trans (h.timer opened))
    -- The timer goes off at the very moment that it was set to.
    have here : s.now = (sent + 1) * min every maxWait := Nat.le_antisymm (h.inTime opened) late
    have posted : ((s.outbox ++ [OutboundFrame.heartbeat.toLine]).drop s.outbox.length).map
        (⟨·, s.now, true⟩) = [timerBeat (min every maxWait) sent] := by
      rw [List.drop_left, timerBeat, here]
      rfl
    have accounts := h.ledger.accounts.enqueue (fun _ => h.writing opened)
      OutboundFrame.heartbeat.toLine
    have status : s.backdrop.status.isClosed = false := opened
    simp only [Backdrop.enqueue, status, Bool.false_eq_true, if_false] at accounts
    refine ⟨sent + 1, sound, h.settings, ?_, ?_, fun _ => ?_, fun _ => ?_, fun _ => ?_⟩
    · dsimp only
      rw [posted, List.drop_length]
      have unwritten : s.written = s.written ++ [] := (List.append_nil _).symm
      refine h.ledger.goesOn ?_ ?_ unwritten (absurd rfl) id rfl
      · rw [List.map_append]
        exact accounts
      · intro p among
        rw [List.mem_singleton.mp among]
        exact here.symm
    · dsimp only
      rw [posted, List.filter_append, h.byTimer, List.range_succ, List.map_append]
      rfl
    · dsimp only
      rw [here, nextFiring_now, ← Nat.succ_mul]
    · exact Nat.le_of_eq here.symm
    · dsimp only
      rw [here]
      exact Nat.mul_le_mul_right _ (Nat.le_succ _)

theorem Beats.happen (set : settings.heartbeatEvery = some every)
    (h : Beats settings (min every maxWait) sent ps got s) {x : Happening} (paced : x.Paced s) :
    ∃ sent', Beats settings (min every maxWait) sent' (ps ++ x.posts s) (got ++ x.record s)
      (s.happen x) := by
  cases x with
  | move m => exact ⟨sent, h.move paced⟩
  | beat => exact h.beat set
  | sweep =>
    obtain ⟨shared, timer⟩ := fireSweep_shared s
    have written : s.fireSweep.written = s.written := congrArg Backdrop.written shared
    refine ⟨sent, ?_⟩
    have same := h.of_same ((happen_leads .sweep s).sound h.toSound) shared fun _ => timer
    simpa [Happening.posts, Happening.record, Session.happen, written] using same

theorem Beats.run (set : settings.heartbeatEvery = some every) {hs : List Happening}
    (h : Beats settings (min every maxWait) sent ps got s) (paced : Paced hs s) :
    ∃ sent', Beats settings (min every maxWait) sent' (ps ++ posts hs s) (got ++ record hs s)
      (after hs s) := by
  induction hs generalizing sent ps got s with
  | nil => exact ⟨sent, by simpa [posts, record, after] using h⟩
  | cons x hs ih =>
    obtain ⟨_, next⟩ := h.happen set paced.1
    obtain ⟨sent', last⟩ := ih next paced.2
    refine ⟨sent', ?_⟩
    rw [posts, record, ← List.append_assoc, ← List.append_assoc]
    exact last

theorem beats_start (set : settings.heartbeatEvery = some every) (positive : 0 < every) :
    Beats settings (min every maxWait) 0 [] [] (start settings) where
  toSound := sound_start settings
  settings := rfl
  ledger := ⟨accounts_start settings, rfl, fun _ _ among => by cases among⟩
  byTimer := rfl
  timer := by
    intro _
    simp [start, set, Option.filter, positive, deadlineAfter]
  since := fun _ => by rw [Nat.zero_mul]; exact Nat.zero_le _
  inTime := fun _ => Nat.zero_le _

/-! ## After a close -/

theorem Happening.posts_closed (sound : Sound s) (closed : s.status.isClosed = true)
    (x : Happening) : x.posts s = [] := by
  cases x with
  | move m => simp [Happening.posts, sound.toGoverned.line?_eq, closed]
  | sweep => rfl
  | beat =>
    have turn : BeatTurn s (s.happen .beat) := sound.toGoverned.beatTurn
    rw [Happening.posts]
    generalize s.happen .beat = s' at turn ⊢
    cases turn with
    | idle | refused => simp
    | sent opened => simp [opened] at closed

/-- Nothing is handed over any more. -/
theorem Sound.posts_closed (h : Sound s) (closed : s.status.isClosed = true)
    (hs : List Happening) : posts hs s = [] := by
  induction hs generalizing s with
  | nil => rfl
  | cons x hs ih =>
    have led := happen_leads x s
    rw [posts, x.posts_closed h closed, ih (led.sound h) (led.closed h closed)]
    rfl

/-- And when nothing waits, nothing is written. -/
theorem Sound.record_closed (h : Sound s) (closed : s.status.isClosed = true)
    (idle : s.outbox = []) (hs : List Happening) : record hs s = [] := by
  induction hs generalizing s with
  | nil => rfl
  | cons x hs ih =>
    have led := happen_leads x s
    obtain ⟨rests, same⟩ := led.idle h closed idle
    rw [record, Happening.record, same, ih (led.sound h) (led.closed h closed) rests]
    simp

/-- Time passes only when nothing waits. -/
theorem Sound.happen_now (h : Sound s) {x : Happening} (paced : x.Paced s) :
    (s.happen x).now = s.now ∨ s.outbox = [] := by
  cases x with
  | move m =>
    have ticks := (h.toGoverned.ticks m).now
    rcases paced.move with ⟨-, still | ⟨-, -, idle, -⟩⟩
    · rw [still] at ticks
      exact .inl ticks
    · exact .inr idle
  | sweep => exact .inl (congrArg Backdrop.now (fireSweep_shared s).1)
  | beat => exact .inl (h.toGoverned.beat_rest).1

/-- What the writer had in hand is written at the moment of the close or not at all. -/
theorem Sound.record_closed_now (h : Sound s) (closed : s.status.isClosed = true)
    {hs : List Happening} (paced : Paced hs s) : ∀ got ∈ record hs s, got.2 = s.now := by
  induction hs generalizing s with
  | nil => exact fun got among => absurd among List.not_mem_nil
  | cons x hs ih =>
    intro got among
    rcases h.happen_now paced.1 with still | idle
    · rcases List.mem_append.mp among with here | rest
      · obtain ⟨line, -, rfl⟩ := List.mem_map.mp here
        rfl
      · have led := happen_leads x s
        exact (ih (led.sound h) (led.closed h closed) paced.2 got rest).trans still
    · rw [h.record_closed closed idle (x :: hs)] at among
      cases among

/-! ## Heartbeats of the plugin -/

/-- The plugin sends a heartbeat of its own accord. -/
def Happening.isHeartbeat : Happening → Bool
  | .move .heartbeat => true
  | _ => false

theorem Move.line?_count (m : Move) :
    m.line?.toList.count OutboundFrame.heartbeat.toLine =
      (Happening.move m).isHeartbeat.toNat := by
  cases m with
  | send id sessionId kind payload =>
    exact List.count_eq_zero.mpr fun among =>
      OutboundFrame.invoke_toLine_ne sessionId ⟨kind, id, payload⟩ (List.mem_singleton.mp among).symm
  | heartbeat => exact List.count_singleton_self
  | _ => rfl

theorem Sound.posted_heartbeats (h : Sound s) (opened : s.status.isClosed = false)
    (x : Happening) :
    ((x.posts s).map Posted.line).count OutboundFrame.heartbeat.toLine =
      (x.posts s).countP Posted.byTimer + x.isHeartbeat.toNat := by
  cases x with
  | move m =>
    have lined : (Happening.posts s (.move m)).map Posted.line = m.line?.toList := by
      simp [Happening.posts, Function.comp_def, h.toGoverned.line?_eq, opened]
    have plugins : (Happening.posts s (.move m)).countP Posted.byTimer = 0 := by
      simp [Happening.posts]
    rw [lined, plugins, m.line?_count, Nat.zero_add]
  | sweep => rfl
  | beat =>
    have turn : BeatTurn s (s.happen .beat) := h.toGoverned.beatTurn
    rw [Happening.posts]
    generalize s.happen .beat = s' at turn ⊢
    cases turn with
    | idle | refused => simp [Happening.isHeartbeat]
    | sent => simp [Happening.isHeartbeat]

/-- The heartbeats that are handed over while a session is open are those of the timer and
those of the plugin. -/
theorem Sound.heartbeats (h : Sound s) {hs : List Happening}
    (opened : (after hs s).status.isClosed = false) :
    ((posts hs s).map Posted.line).count OutboundFrame.heartbeat.toLine =
      (posts hs s).countP Posted.byTimer + hs.countP Happening.isHeartbeat := by
  induction hs generalizing s with
  | nil => rfl
  | cons x hs ih =>
    have before : s.status.isClosed = false := by
      cases status : s.status.isClosed with
      | false => rfl
      | true =>
        rw [(after_leads (x :: hs) s).closed h status] at opened
        cases opened
    have first := h.posted_heartbeats before x
    have rest := ih ((happen_leads x s).sound h) opened
    rw [posts, List.map_append, List.count_append, List.countP_append, first, rest,
      List.countP_cons]
    cases x.isHeartbeat <;> simp <;> omega

/-! ## On the beat -/

/-- What comes of a run in which time passes continuously. -/
structure OnBeat (period : Duration) (hs : List Happening) (s : Session) : Prop where
  /-- The record tells what the daemon got. -/
  written : (record hs s).map Prod.fst = (after hs s).written
  /-- Every line was written at the moment at which it was handed over, in that order. -/
  inTime : record hs s = ((posts hs s).take (record hs s).length).map Posted.stamp
  /-- The lines of the timer were heartbeats, one at each multiple of the period. -/
  beats : autos hs s = (List.range (autos hs s).length).map (timerBeat period)
  /-- As long as the session is open none is missing, once all is done that is due. -/
  count : (after hs s).status.isClosed = false → (after hs s).outbox = [] →
    (∀ due, (after hs s).beatAt = some due → (after hs s).now < due) →
    (record hs s).length = (posts hs s).length ∧
      (autos hs s).length = (after hs s).now / period
  /-- When it is closed nothing more is handed over, what waited is written at once or never,
  and if nothing waited the record is at its end. -/
  ceases : (after hs s).status.isClosed = true → ∀ more,
    posts (hs ++ more) s = posts hs s ∧
      (Paced more (after hs s) → ∀ got ∈ record more (after hs s), got.2 = (after hs s).now) ∧
      ((after hs s).outbox = [] → record (hs ++ more) s = record hs s)

/-- While nothing is left to do, the heartbeats that the daemon has are those of the timer and
those of the plugin. -/
theorem OnBeat.heartbeats {period : Duration} {hs : List Happening} (h : OnBeat period hs s)
    (sound : Sound s) (opened : (after hs s).status.isClosed = false)
    (idle : (after hs s).outbox = [])
    (ahead : ∀ due, (after hs s).beatAt = some due → (after hs s).now < due) :
    (after hs s).written.count OutboundFrame.heartbeat.toLine =
      (after hs s).now / period + hs.countP Happening.isHeartbeat := by
  obtain ⟨all, autos⟩ := h.count opened idle ahead
  have stamps : Prod.fst ∘ Posted.stamp = Posted.line := rfl
  have lines : (after hs s).written = (posts hs s).map Posted.line := by
    rw [← h.written, h.inTime, all, List.take_length, List.map_map, stamps]
  have timers : (posts hs s).countP Posted.byTimer = (after hs s).now / period := by
    rw [← autos, Session.autos, all, List.take_length, List.countP_eq_length_filter]
  rw [lines, sound.heartbeats opened, timers]

theorem Beats.onBeat {hs : List Happening}
    (h : Beats settings period sent (posts hs s) (record hs s) (after hs s)) :
    OnBeat period hs s := by
  obtain ⟨short, count⟩ := h.ledger.length
  have inTime := h.ledger.got
  rw [← count] at inTime
  have first : autos hs s <+: (List.range sent).map (timerBeat period) :=
    h.byTimer ▸ (List.take_prefix _ _).filter _
  refine ⟨?_, inTime, ?_, fun opened idle ahead => ?_, fun closed more => ?_⟩
  · obtain ⟨lost, lines, -⟩ := h.ledger.accounts
    have stamps : Prod.fst ∘ Posted.stamp = Posted.line := rfl
    rw [h.ledger.got, List.map_map, stamps, List.map_take, ← lines]
    simp [backdrop]
  · have own := List.prefix_iff_eq_take.mp first
    rw [← List.map_take, List.take_range] at own
    have fits : (autos hs s).length ≤ sent := by simpa using first.length_le
    rwa [Nat.min_eq_left fits] at own
  · have all : (record hs s).length = (posts hs s).length := by
      obtain ⟨lost, lines, kept⟩ := h.ledger.accounts
      have many := congrArg List.length lines
      have idle : (after hs s).backdrop.outbox = [] := idle
      simp [idle, kept (h.writing opened)] at many
      omega
    refine ⟨all, ?_⟩
    rw [autos, all, List.take_length, h.byTimer, List.length_map, List.length_range]
    exact (Nat.div_eq_of_lt_le (h.since opened) (ahead _ (h.timer opened))).symm
  · rw [posts_append, record_append, h.toSound.posts_closed closed, List.append_nil]
    refine ⟨rfl, fun paced => h.toSound.record_closed_now closed paced, fun idle => ?_⟩
    rw [h.toSound.record_closed closed idle, List.append_nil]

theorem onBeat_start (set : settings.heartbeatEvery = some every) (positive : 0 < every)
    {hs : List Happening} (paced : Paced hs (start settings)) :
    OnBeat (min every maxWait) hs (start settings) := by
  obtain ⟨sent, beats⟩ := (beats_start set positive).run set paced
  exact beats.onBeat

end Session

end Backchannel
