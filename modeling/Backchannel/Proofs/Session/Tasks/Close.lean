/-
# Backchannel.Proofs.Session.Tasks.Close -- who learns of the close

A task that took its first poll while the session was open learns of the close, and leaves.
One that came later takes the close for known, waits for a change that never comes, and
stays: the writer until a line cannot be written, the reader until the stream ends.  Until
then the reader goes on to hand requests of the daemon to the plugin.

`Traced` is what carries this through a run: what a task in its loop knows of the status
tells when it took its first poll.
-/
import Backchannel.Proofs.Session.Tasks

namespace Backchannel

set_option autoImplicit false

open Backchannel.Text.Utf8 (Bytes)

namespace Tasks

variable {t t' : Tasks}

/-! ## What has happened -/

/-- An act, and the state that it finds. -/
structure Step where
  before : Tasks
  act : Act

def Step.after (st : Step) : Tasks := st.before.step st.act

/-- A run, step by step. -/
def steps : List Act → Tasks → List Step
  | [], _ => []
  | a :: acts, t => ⟨t, a⟩ :: steps acts (t.step a)

/-- The task takes its first poll while the session is open. -/
structure Step.InTime (k : Task) (st : Step) : Prop where
  fresh : st.before.phase k = .fresh
  starts : st.after.phase k ≠ .fresh
  opened : st.before.session.status = .opened

/-- The writer leaves in the middle of a line. -/
def Step.GivesUp (st : Step) : Prop :=
  ∃ seen, st.before.writer = .writing seen ∧ st.after.writer = .left

/-- The task took its first poll while the session was open. -/
def InTime (k : Task) (past : List Step) : Prop := ∃ st ∈ past, st.InTime k

/-- A line could not be written. -/
def WriteFailed (past : List Step) : Prop := ∃ st ∈ past, st.GivesUp

theorem inTime_snoc {k : Task} {past : List Step} {st : Step} :
    InTime k (past ++ [st]) ↔ InTime k past ∨ st.InTime k := by
  simp [InTime, or_and_right, exists_or]

theorem writeFailed_snoc {past : List Step} {st : Step} :
    WriteFailed (past ++ [st]) ↔ WriteFailed past ∨ st.GivesUp := by
  simp [WriteFailed, or_and_right, exists_or]

/-! ## How far the tasks are -/

/-- What becomes of the phase of a task. -/
inductive Passage (t : Tasks) : Task → Phase → Prop where
  | rests {k : Task} : Passage t k (t.phase k)
  | starts {k : Task} (fresh : t.phase k = .fresh) : Passage t k (.looping t.changes)
  | leaves {k : Task} {seen : Nat} (loops : t.phase k = .looping seen) (news : seen ≠ t.changes) :
    Passage t k .left
  | looks {k : Task} {seen : Nat} (loops : t.phase k = .looping seen) (news : seen ≠ t.changes)
      (opened : t.session.status.isClosed = false) : Passage t k (.looping t.changes)
  | ends {seen : Nat} (loops : t.reader = .looping seen) (ended : t.ending.isSome = true) :
    Passage t .reader .left
  | takes {seen : Nat} (loops : t.writer = .looping seen) : Passage t .writer (.writing seen)
  | hands {seen : Nat} (writes : t.writer = .writing seen) : Passage t .writer (.looping seen)
  | fails {seen : Nat} (writes : t.writer = .writing seen) : Passage t .writer .left

theorem Does.passage {p : Poll} (does : Does t p t') (k : Task) :
    Passage t k (t'.phase k) := by
  cases does with
  | @start own fresh =>
    cases own <;> cases k
    · exact .starts fresh
    · exact .rests
    · exact .rests
    · exact .starts fresh
  | @leave own seen loops news closed =>
    cases own <;> cases k
    · exact .leaves loops news
    · exact .rests
    · exact .rests
    · exact .leaves loops news
  | @look own seen loops news opened =>
    cases own <;> cases k
    · exact .looks loops news opened
    · exact .rests
    · exact .rests
    · exact .looks loops news opened
  | ending loops _ ended =>
    cases k
    · exact .ends loops (by simp [ended])
    · exact .rests
  | line loops =>
    cases k
    · exact .rests
    · exact .takes loops
  | hand writes =>
    cases k
    · exact .rests
    · exact .hands writes
  | failWrite writes | failFlush writes =>
    cases k
    · exact .rests
    · exact .fails writes
  | byte | tail | sweep | shutDown => cases k <;> exact .rests

theorem Next.passage (next : Next t t') (k : Task) : Passage t k (t'.phase k) := by
  cases next with
  | poll does => exact does.passage k
  | _ => cases k <;> exact .rests

/-- A stream that has an end keeps it. -/
theorem Next.ending (next : Next t t') (ended : t.ending.isSome = true) :
    t'.ending.isSome = true := by
  cases next with
  | finish e => simp
  | idle | outside | arrive | outlet => exact ended
  | poll does =>
    cases does with
    | @start k | @leave k | @look k => cases k <;> exact ended
    | _ => exact ended

theorem changes_le_perform (ms : List Session.Move) (t : Tasks) :
    t.changes ≤ (t.perform ms).changes := by
  simp only [perform]
  split
  · exact Nat.le_refl _
  · exact Nat.le_succ _

theorem Next.changes (next : Next t t') : t.changes ≤ t'.changes := by
  cases next with
  | idle | arrive | finish | outlet => exact Nat.le_refl _
  | outside => exact changes_le_perform _ t
  | poll does =>
    cases does with
    | @start k | @leave k => cases k <;> exact changes_le_perform _ t
    | @look k => cases k <;> exact Nat.le_refl _
    | @byte _ b rest => exact changes_le_perform [.byte b] { t with incoming := rest }
    | tail | ending | sweep | hand | failWrite | failFlush => exact changes_le_perform _ t
    | line | shutDown => exact Nat.le_refl _

/-- What a task that has not left knows of the status. -/
def Phase.seen? : Phase → Option Nat
  | .looping seen | .writing seen => some seen
  | .fresh | .left => none

/-- How far the tasks are tells what has happened to them. -/
structure Traced (past : List Step) (t : Tasks) : Prop extends Tracked t where
  fresh : ∀ k, t.phase k = .fresh → ¬ InTime k past
  /-- Who came in time does not know of the close. -/
  seen : ∀ k n, (t.phase k).seen? = some n → n ≤ t.changes ∧ (InTime k past ↔ n = 0)
  reader : t.reader = .left → InTime .reader past ∨ t.ending.isSome = true
  writer : t.writer = .left → InTime .writer past ∨ WriteFailed past
  failed : WriteFailed past → t.writer = .left
  /-- The reader is never in the middle of a line. -/
  reads : ∀ seen, t.reader ≠ .writing seen

theorem traced_spawn (settings : Settings) : Traced [] (spawn settings) where
  toTracked := tracked_spawn settings
  fresh := by simp [InTime]
  seen := by
    intro k n known
    cases k <;> cases known
  reader := by simp [spawn]
  writer := by simp [spawn]
  failed := by simp [WriteFailed]
  reads := by simp [spawn]

section Traced

variable {past : List Step}

theorem Traced.fresh_step (h : Traced past t) (a : Act) (k : Task)
    (fresh : (t.step a).phase k = .fresh) : ¬ InTime k (past ++ [⟨t, a⟩]) := by
  have via := (next_step t a).passage k
  generalize next : (t.step a).phase k = p at via fresh
  cases via with
  | rests =>
    rw [inTime_snoc]
    rintro (before | now)
    · exact h.fresh k fresh before
    · exact now.starts (next.trans fresh)
  | _ => cases fresh

/-- Who has seen `n` changes when it goes on has seen as many before, or has just come. -/
theorem Traced.seen_step (h : Traced past t) (a : Act) (k : Task) (n : Nat)
    (known : ((t.step a).phase k).seen? = some n) :
    n ≤ (t.step a).changes ∧ (InTime k (past ++ [⟨t, a⟩]) ↔ n = 0) := by
  have more := (next_step t a).changes
  -- Its first poll lies behind it, and this act is none.
  have goesOn (before : (t.phase k).seen? = some n) :
      n ≤ (t.step a).changes ∧ (InTime k (past ++ [⟨t, a⟩]) ↔ n = 0) := by
    obtain ⟨bound, told⟩ := h.seen k n before
    have started : ¬ Step.InTime k ⟨t, a⟩ := fun now => by simp [now.fresh, Phase.seen?] at before
    exact ⟨Nat.le_trans bound more, by simp only [inTime_snoc, told, started, or_false]⟩
  have via := (next_step t a).passage k
  generalize next : (t.step a).phase k = p at via known
  cases via with
  | rests => exact goesOn known
  | starts fresh =>
    cases known
    have began : Step.InTime k ⟨t, a⟩ ↔ t.changes = 0 := by
      rw [h.changes]
      cases status : t.session.status with
      | opened =>
        have now : Step.InTime k ⟨t, a⟩ := ⟨fresh, by simp [Step.after, next], status⟩
        simp [now, Status.isClosed]
      | closed reason =>
        have late : ¬ Step.InTime k ⟨t, a⟩ := fun now => by simpa [status] using now.opened
        simp [late, Status.isClosed]
    exact ⟨more, by simp only [inTime_snoc, h.fresh k fresh, began, false_or]⟩
  | looks loops news opened =>
    have bound := (h.seen k _ (by rw [loops]; rfl)).1
    have changes := h.changes
    rw [opened] at changes
    -- It has seen no change, and there was none.
    exact absurd (Nat.le_antisymm bound (changes ▸ Nat.zero_le _)) news
  | takes loops =>
    refine goesOn ?_
    rw [show t.phase .writer = .looping _ from loops]
    exact known
  | hands writes =>
    refine goesOn ?_
    rw [show t.phase .writer = .writing _ from writes]
    exact known
  | leaves | ends | fails => cases known

/-- A task that learns of the close came in time. -/
theorem Traced.inTime_of_news (h : Traced past t) {k : Task} {n : Nat}
    (known : (t.phase k).seen? = some n) (news : n ≠ t.changes) : InTime k past := by
  obtain ⟨bound, told⟩ := h.seen k n known
  have atMost : t.changes ≤ 1 := by
    rw [h.changes]
    split
    · exact Nat.le_refl _
    · exact Nat.zero_le _
  exact told.mpr (by omega)

theorem Traced.reader_step (h : Traced past t) (a : Act) (left : (t.step a).reader = .left) :
    InTime .reader (past ++ [⟨t, a⟩]) ∨ (t.step a).ending.isSome = true := by
  rw [inTime_snoc]
  have via := (next_step t a).passage .reader
  generalize next : (t.step a).phase .reader = p at via
  have own : p = .left := next.symm.trans left
  cases via with
  | rests => exact (h.reader own).imp .inl fun ended => (next_step t a).ending ended
  | leaves loops news => exact .inl (.inl (h.inTime_of_news (by rw [loops]; rfl) news))
  | ends loops ended => exact .inr ((next_step t a).ending ended)
  | starts | looks => cases own

theorem Traced.writer_step (h : Traced past t) (a : Act) (left : (t.step a).writer = .left) :
    InTime .writer (past ++ [⟨t, a⟩]) ∨ WriteFailed (past ++ [⟨t, a⟩]) := by
  rw [inTime_snoc, writeFailed_snoc]
  have via := (next_step t a).passage .writer
  generalize next : (t.step a).phase .writer = p at via
  have own : p = .left := next.symm.trans left
  cases via with
  | rests => exact (h.writer own).imp .inl .inl
  | leaves loops news => exact .inl (.inl (h.inTime_of_news (by rw [loops]; rfl) news))
  | fails writes => exact .inr (.inr ⟨_, writes, left⟩)
  | starts | looks | takes | hands => cases own

theorem Traced.failed_step (h : Traced past t) (a : Act)
    (failed : WriteFailed (past ++ [⟨t, a⟩])) : (t.step a).writer = .left := by
  rcases writeFailed_snoc.mp failed with before | ⟨seen, -, left⟩
  · have gone : t.phase .writer = .left := h.failed before
    have via := (next_step t a).passage .writer
    generalize next : (t.step a).phase .writer = p at via
    have own : (t.step a).writer = p := next
    rw [own]
    cases via with
    | rests => exact gone
    | leaves | fails => rfl
    | starts fresh => cases gone.symm.trans fresh
    | looks loops => cases gone.symm.trans loops
    | takes loops => cases gone.symm.trans loops
    | hands writes => cases gone.symm.trans writes
  · exact left

theorem Traced.reads_step (h : Traced past t) (a : Act) (seen : Nat) :
    (t.step a).reader ≠ .writing seen := by
  intro own
  have via := (next_step t a).passage .reader
  rw [show (t.step a).phase .reader = .writing seen from own] at via
  generalize next : Phase.writing seen = p at via
  cases via with
  | rests => exact h.reads seen next.symm
  | starts | looks | leaves | ends => cases next

theorem Traced.step (h : Traced past t) (a : Act) : Traced (past ++ [⟨t, a⟩]) (t.step a) where
  toTracked := h.toTracked.next (next_step t a)
  fresh := h.fresh_step a
  seen := h.seen_step a
  reader := h.reader_step a
  writer := h.writer_step a
  failed := h.failed_step a
  reads := h.reads_step a

theorem Traced.run (h : Traced past t) (acts : List Act) :
    Traced (past ++ steps acts t) (run acts t) := by
  induction acts generalizing past t with
  | nil => simpa [steps] using h
  | cons a acts ih => simpa [steps] using ih (h.step a)

end Traced

/-! ## When nothing is left to do -/

section Quiet

variable {past : List Step} {k : Task}

theorem Quiet.started (quiet : t.Quiet) (k : Task) : t.phase k ≠ .fresh := by
  intro fresh
  have polled := quiet (.start k)
  simp [poll, fresh] at polled

/-- Who waits knows of every change. -/
theorem Quiet.informed (quiet : t.Quiet) {seen : Nat} (loops : t.phase k = .looping seen) :
    seen = t.changes := by
  have polled := quiet (.wake k)
  simp only [poll, loops] at polled
  split at polled
  · assumption
  · split at polled <;> cases polled

theorem Quiet.read (quiet : t.Quiet) {seen : Nat} (loops : t.reader = .looping seen) :
    t.incoming = [] ∧ t.ending = none := by
  have taken := quiet .byte
  have stopped := quiet .ending
  simp only [poll, loops] at taken stopped
  cases incoming : t.incoming with
  | cons b rest => simp [incoming] at taken
  | nil =>
    cases ended : t.ending with
    | some e => simp [incoming, ended] at stopped
    | none => exact ⟨rfl, rfl⟩

theorem Quiet.shut (quiet : t.Quiet) (left : t.writer = .left) : t.shut = true := by
  have polled := quiet .shutDown
  cases shut : t.shut with
  | true => rfl
  | false => simp [poll, left, shut] at polled

/-- Who came in time and still waits would have news. -/
theorem Traced.not_looping (h : Traced past t) (closed : t.session.status.isClosed = true)
    (quiet : t.Quiet) (inTime : InTime k past) (seen : Nat) : t.phase k ≠ .looping seen := by
  intro loops
  have unseen := (h.seen k seen (by rw [loops]; rfl)).2.mp inTime
  have all := quiet.informed loops
  have changes := h.changes
  rw [closed, ← all, unseen] at changes
  cases changes

theorem Traced.writer_left_iff (h : Traced past t) (closed : t.session.status.isClosed = true)
    (quiet : t.Quiet) :
    t.writer = .left ∧ t.shut = true ↔
      InTime .writer past ∧ (∀ seen, t.writer ≠ .writing seen) ∨ WriteFailed past := by
  constructor
  · rintro ⟨left, -⟩
    exact (h.writer left).imp_left fun inTime => ⟨inTime, by simp [left]⟩
  · intro cause
    have left : t.writer = .left := by
      rcases cause with ⟨inTime, idle⟩ | failed
      · have started := quiet.started .writer
        have waits := h.not_looping closed quiet inTime
        cases writer : t.writer with
        | fresh => exact absurd writer started
        | looping seen => exact absurd writer (waits seen)
        | writing seen => exact absurd writer (idle seen)
        | left => rfl
      · exact h.failed failed
    exact ⟨left, quiet.shut left⟩

theorem Traced.reader_left_iff (h : Traced past t) (closed : t.session.status.isClosed = true)
    (quiet : t.Quiet) :
    t.reader = .left ↔ InTime .reader past ∨ t.ending.isSome = true := by
  refine ⟨h.reader, fun cause => ?_⟩
  have started := quiet.started .reader
  cases reader : t.reader with
  | fresh => exact absurd reader started
  | looping seen =>
    rcases cause with inTime | ended
    · exact absurd reader (h.not_looping closed quiet inTime seen)
    · rw [(quiet.read reader).2] at ended
      cases ended
  | writing seen => exact absurd reader (h.reads seen)
  | left => rfl

end Quiet

/-! ## What becomes of a line that arrives -/

theorem step_inbound {s : Session} (h : Session.Sound s) {m : Session.Move}
    (silent : Session.heard m s = .nothing) : (s.step m).inbound = s.inbound := by
  simp [h.toGoverned.step_inbound, silent, Session.forwards]

/-- A reader that has left does not come back, and hands nothing to the plugin. -/
theorem Tracked.left_next (h : Tracked t) (left : t.reader = .left) (next : Next t t') :
    t'.reader = .left ∧ t'.session.inbound = t.session.inbound := by
  cases next with
  | idle | arrive | finish | outlet => exact ⟨left, rfl⟩
  | @outside m outside =>
    refine ⟨left, step_inbound h.sound ?_⟩
    cases m with
    | send | recv | drop | heartbeat | close | dropInbound | pass => rfl
    | _ => cases outside
  | poll does =>
    cases does with
    | @start k fresh =>
      cases k with
      | reader => cases left.symm.trans fresh
      | writer => exact ⟨left, rfl⟩
    | @leave k _ loops =>
      cases k with
      | reader => cases left.symm.trans loops
      | writer => exact ⟨left, step_inbound h.sound rfl⟩
    | @look k _ loops =>
      cases k with
      | reader => cases left.symm.trans loops
      | writer => exact ⟨left, rfl⟩
    | byte loops | tail loops | ending loops | sweep loops => cases left.symm.trans loops
    | line | shutDown => exact ⟨left, rfl⟩
    | hand | failWrite | failFlush => exact ⟨left, step_inbound h.sound rfl⟩

theorem Tracked.left_run (h : Tracked t) (left : t.reader = .left) (acts : List Act) :
    (Tasks.run acts t).session.inbound = t.session.inbound := by
  induction acts generalizing t with
  | nil => rfl
  | cons a acts ih =>
    obtain ⟨still, same⟩ := h.left_next left (next_step t a)
    exact (ih (h.next (next_step t a)) still).trans same

/-- The reader takes so many bytes. -/
def takes (bytes : Bytes) : List Act := List.replicate bytes.length (.poll .byte)

/-- A line arrives, and the reader takes it. -/
def hearing (line : Bytes) : List Act :=
  .arrive (line ++ [Text.lineFeed]) :: takes (line ++ [Text.lineFeed])

theorem step_byte {seen : Nat} {b : UInt8} {rest : Bytes} (loops : t.reader = .looping seen)
    (waits : t.incoming = b :: rest) :
    t.step (.poll .byte) = { t with incoming := rest }.perform [.byte b] := by
  simp [step, poll, loops, waits]

/-- Within a line, bytes are only kept. -/
theorem run_within {seen : Nat} (loops : t.reader = .looping seen)
    (reads : t.session.reading = true) {line rest : Bytes} (within : Text.lineFeed ∉ line)
    (waits : t.incoming = line ++ rest) :
    (run (takes line) t).session =
        { t.session with unread := line.reverse ++ t.session.unread } ∧
      (run (takes line) t).reader = .looping seen ∧ (run (takes line) t).incoming = rest := by
  induction line generalizing t with
  | nil => exact ⟨rfl, loops, waits⟩
  | cons b line ih =>
    have other : b ≠ Text.lineFeed := fun same => within (same ▸ List.mem_cons_self)
    have kept : t.session.readByte b = { t.session with unread := b :: t.session.unread } := by
      simp [Session.readByte, reads, other]
    have next := step_byte loops waits
    have session : (t.step (.poll .byte)).session =
        { t.session with unread := b :: t.session.unread } := by
      rw [next]
      exact kept
    obtain ⟨line, reader, incoming⟩ := ih (t := t.step (.poll .byte)) (by rw [next]; exact loops)
      (by rw [session]; exact reads) (fun mem => within (List.mem_cons_of_mem b mem))
      (by rw [next]; rfl)
    refine ⟨line.trans ?_, reader, incoming⟩
    rw [session, List.reverse_cons, List.append_assoc]
    rfl

theorem readByte_request {s : Session} (reads : s.reading = true) (listens : s.listening = true)
    {f : InboundFrame} (asks : Notice.ofLine (Text.lineFeed :: s.unread).reverse = .request f) :
    (s.readByte Text.lineFeed).inbound = s.inbound ++ [f] := by
  simp only [Session.readByte, reads, Session.readLine, asks, Session.heed, listens, if_true]

/-- A reader in its loop hands a request to the plugin, whatever the status. -/
theorem Tracked.hears_request (h : Tracked t) {seen : Nat} (loops : t.reader = .looping seen)
    (empty : t.incoming = []) (open_ : t.ending = none) (listens : t.session.listening = true)
    {line : Bytes} (within : Text.lineFeed ∉ line) {f : InboundFrame}
    (asks : Notice.ofLine (t.session.unread.reverse ++ line ++ [Text.lineFeed]) = .request f) :
    (Tasks.run (hearing line) t).session.inbound = t.session.inbound ++ [f] := by
  have reads : t.session.reading = true := h.fits.reading.mpr (by simp [loops])
  have arrives : t.step (.arrive (line ++ [Text.lineFeed])) =
      { t with incoming := line ++ [Text.lineFeed] } := by
    simp [Tasks.step, empty, open_]
  obtain ⟨session, reader, incoming⟩ :=
    run_within (t := { t with incoming := line ++ [Text.lineFeed] }) loops reads within rfl
  have whole : takes (line ++ [Text.lineFeed]) = takes line ++ [.poll .byte] := by
    simp [takes, List.replicate_succ']
  rw [hearing, Tasks.run_cons, arrives, whole, run_append, Tasks.run_cons, Tasks.run_nil,
    step_byte reader incoming]
  change (Session.readByte _ Text.lineFeed).inbound = _
  rw [session]
  refine readByte_request ?_ ?_ ?_
  · exact reads
  · exact listens
  · simpa using asks

/-- When a session is closed and its tasks have nothing left to do, those have learned of the
close that took their first poll before it.  A writer that did not may have left because a
line could not be written, and one that did may be held up in the middle of a line; a reader
that did not may have left because the stream has ended.  A reader that has left hands nothing
to the plugin any more; one that has not goes on to hand it the requests of the daemon. -/
theorem close_observed_iff (settings : Settings) (acts : List Act)
    (closed : (run acts (spawn settings)).session.status.isClosed = true)
    (quiet : (run acts (spawn settings)).Quiet) :
    let past := steps acts (spawn settings)
    let t := run acts (spawn settings)
    (t.writer = .left ∧ t.shut = true ↔
        InTime .writer past ∧ (∀ seen, t.writer ≠ .writing seen) ∨ WriteFailed past) ∧
      (t.reader = .left ↔ InTime .reader past ∨ t.ending.isSome = true) ∧
      (t.reader = .left → ∀ more, (run more t).session.inbound = t.session.inbound) ∧
      (t.reader ≠ .left → t.session.listening = true →
        ∀ line f, Text.lineFeed ∉ line →
          Notice.ofLine (t.session.unread.reverse ++ line ++ [Text.lineFeed]) = .request f →
          (run (hearing line) t).session.inbound = t.session.inbound ++ [f]) := by
  intro past t
  have traced : Traced past t := (traced_spawn settings).run acts
  refine ⟨traced.writer_left_iff closed quiet, traced.reader_left_iff closed quiet,
    fun left more => traced.left_run left more, fun stays listens line f within asks => ?_⟩
  cases reader : t.reader with
  | fresh => exact absurd reader (quiet.started .reader)
  | looping seen =>
    obtain ⟨empty, open_⟩ := quiet.read reader
    exact traced.hears_request reader empty open_ listens within asks
  | writing seen => exact absurd reader (traced.reads seen)
  | left => exact absurd reader stays

example :
    let t := run [.poll (.start .reader), .poll .sweep, .poll (.start .writer), .outside .close,
      .poll (.wake .writer), .poll .shutDown, .poll (.wake .reader)] (spawn ⟨5, none, 1⟩)
    t.reader = .left ∧ t.writer = .left ∧ t.shut = true :=
  ⟨rfl, rfl, rfl⟩

/-- The plugin closes the session before either task was polled. -/
def late : List Act :=
  [.outside .close, .poll (.start .reader), .poll .sweep, .poll (.start .writer)]

/-- A line of the daemon, without the line feed. -/
def call : Bytes := "\x7b\"event\":\"request\",\"data\":true\x7d".toUTF8.toList

theorem late_quiet : (run late (spawn ⟨5, none, 1⟩)).Quiet := by
  intro p
  cases p with
  | start k | wake k => cases k <;> rfl
  | _ => rfl

/-- Neither task learns of the close: the writer does not shut the transport down, and a
request that arrives is handed to the plugin. -/
theorem late_unobserved :
    let past := steps late (spawn ⟨5, none, 1⟩)
    let t := run late (spawn ⟨5, none, 1⟩)
    t.session.status = .closed .byPlugin ∧ t.Quiet ∧
      t.writer = .looping 1 ∧ t.shut = false ∧ t.reader = .looping 1 ∧
      ¬ InTime .writer past ∧ ¬ InTime .reader past ∧
      (run (hearing call) t).session.inbound = [⟨none, .request, .bool true⟩] := by
  intro past t
  have asks : Notice.ofLine (t.session.unread.reverse ++ call ++ [Text.lineFeed]) =
      .request ⟨none, .request, .bool true⟩ := by decide +kernel
  have within : Text.lineFeed ∉ call := by decide +kernel
  obtain ⟨writer, reader, -, hears⟩ := close_observed_iff ⟨5, none, 1⟩ late rfl late_quiet
  have waits : ∀ seen, t.writer ≠ .writing seen := fun seen held => by cases held
  refine ⟨rfl, late_quiet, rfl, rfl, rfl, fun inTime => ?_, fun inTime => ?_, ?_⟩
  · have left := (writer.mpr (.inl ⟨inTime, waits⟩)).1
    cases left
  · have left := reader.mpr (.inl inTime)
    cases left
  · exact hears (fun left => by cases left) rfl call _ within asks

end Tasks

end Backchannel
