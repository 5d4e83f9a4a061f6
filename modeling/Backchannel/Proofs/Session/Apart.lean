/-
# Backchannel.Proofs.Session.Apart -- each request by itself

Many requests share a session, and none notices the others.  What concerns a request is
what its caller does, the notices that name it, and what befalls the connection: its
`events`.  Of two runs with the same events the pulls of its caller bring the same, and it
is outstanding after both or after neither (`requests_apart`), whatever lines came for others and
whatever other callers did in between, or in which order.

The events are enough to tell the whole history of the request.  `replay` has nothing else
happen, and the session that it comes to is the `Same` for that request.
-/
import Backchannel.Proofs.Notice
import Backchannel.Proofs.Session.Backdrop

namespace Backchannel.Session

set_option autoImplicit false

open Backchannel.Json (Value)
open Backchannel.Text.Utf8 (Bytes)

variable {s s' : Session} {id : RequestId} {m : Move}

/-! ## Events -/

/-- What can concern a request. -/
inductive Event where
  /-- The reader is told something of it. -/
  | heard (n : Notice)
  | moved (m : Move)

/-- The move is the reader's, over what the daemon writes. -/
def Move.isRead : Move → Bool
  | .byte _ | .tail => true
  | _ => false

/-- Of what the reader takes, only a line that names the request concerns it; of what
callers do, only what its own caller does, and which requests are made. -/
def Step.event? (id : RequestId) (st : Step) : Option Event :=
  match st.move with
  | .byte _ | .tail =>
    let n := heard st.move st.before
    if n.names? = some id then some (.heard n) else none
  | .recv other | .drop other => if other = id then some (.moved st.move) else none
  | .dropInbound => none
  | m => some (.moved m)

/-- What concerns a request in a run, in order. -/
def events (id : RequestId) (t : List Step) : List Event := t.filterMap (Step.event? id)

theorem events_cons (id : RequestId) (st : Step) (t : List Step) :
    events id (st :: t) = (st.event? id).toList ++ events id t :=
  filterMap_cons _ st t

theorem ofNotice_of_other {n : Notice} (other : n.names? ≠ some id) :
    Turn.ofNotice id n = .idle := by
  cases n with
  | nothing | request => rfl
  | response r =>
    have apart : r.id ≠ id := fun same => other (congrArg some same)
    simp [Turn.ofNotice, apart]
  | malformed named how =>
    have apart : named ≠ id := fun same => other (congrArg some same)
    simp [Turn.ofNotice, apart]

/-- What makes a move an event, and what it then means. -/
inductive Concerns (s : Session) (id : RequestId) : Move → Option Event → Prop where
  | nothing {m : Move} (shared : m.isRead = true ∨ ∀ b : Backdrop, b.after m = b)
    (idle : turn m s id = .idle) (other : m ≠ .recv id) : Concerns s id m none
  | heard {m : Move} (reads : m.isRead = true) (turn : turn m s id = .ofNotice id (heard m s)) :
    Concerns s id m (some (.heard (heard m s)))
  | moved {m : Move} (acts : m.isRead = false) : Concerns s id m (some (.moved m))

theorem event?_concerns (s : Session) (m : Move) (id : RequestId) :
    Concerns s id m (Step.event? id ⟨s, m⟩) := by
  have read (reads : m.isRead = true) (turn : turn m s id = .ofNotice id (heard m s)) :
      Concerns s id m (if (heard m s).names? = some id then some (.heard (heard m s)) else none) := by
    split
    · exact .heard reads turn
    · rename_i other
      refine .nothing (.inl reads) (turn.trans (ofNotice_of_other other)) ?_
      rintro rfl
      cases reads
  cases m with
  | byte b => exact read rfl rfl
  | tail => exact read rfl rfl
  | recv other =>
    by_cases own : other = id
    · simp only [Step.event?, own, if_true]
      exact .moved rfl
    · simp only [Step.event?, own, if_false]
      exact .nothing (.inr fun _ => rfl) (by simp [turn, own]) fun same => own (Move.recv.inj same)
  | drop other =>
    by_cases own : other = id
    · simp only [Step.event?, own, if_true]
      exact .moved rfl
    · simp only [Step.event?, own, if_false]
      exact .nothing (.inr fun _ => rfl) (by simp [turn, own]) Move.noConfusion
  | dropInbound => exact .nothing (.inr fun _ => rfl) rfl Move.noConfusion
  | _ => exact .moved rfl

/-! ## Sessions that are the same for a request -/

/-- Two sessions are the same for a request, if they share all but the line that is being
read, and its caller has the same ticket. -/
structure Same (id : RequestId) (s s' : Session) : Prop where
  backdrop : { s'.backdrop with unread := [] } = { s.backdrop with unread := [] }
  ticket : s'.ticket? id = s.ticket? id

theorem after_of_read (reads : m.isRead = true) (b : Backdrop) :
    { b.after m with unread := [] } = { b with unread := [] } := by
  cases m with
  | byte byte =>
    simp only [Backdrop.after, Backdrop.readByte]
    split <;> rfl
  | tail =>
    simp only [Backdrop.after, Backdrop.readTail]
    split <;> rfl
  | _ => cases reads

/-- The line that is being read concerns only the reader. -/
theorem after_unread (acts : m.isRead = false) (b : Backdrop) (unread : Bytes) :
    { b with unread := unread }.after m = { b.after m with unread := unread } := by
  have close (reason : CloseReason) :
      { b with unread := unread }.close reason = { b.close reason with unread := unread } := by
    unfold Backdrop.close
    split <;> rfl
  have failOutput (reason : CloseReason) : { b with unread := unread }.failOutput reason =
      { b.failOutput reason with unread := unread } := by
    unfold Backdrop.failOutput
    rw [close]
    split <;> rfl
  have stopInput (reason : CloseReason) : { b with unread := unread }.stopInput reason =
      { b.stopInput reason with unread := unread } := by
    unfold Backdrop.stopInput
    rw [close]
    split <;> rfl
  cases m with
  | byte | tail => cases acts
  | send =>
    cases closed : b.status.isClosed <;>
      simp [Backdrop.after, Backdrop.request, Backdrop.enqueue, closed]
  | heartbeat =>
    simp only [Backdrop.after, Backdrop.enqueue]
    split <;> rfl
  | close => exact close .byPlugin
  | endOfStream => exact stopInput .endOfStream
  | readError why => exact stopInput (.readFailed why)
  | write =>
    simp only [Backdrop.after, Backdrop.writeNext, failOutput]
    split
    · rfl
    · split <;> rfl
  | writeError why => exact failOutput (.writeFailed why)
  | flushError why => exact failOutput (.flushFailed why)
  | leaveInput =>
    simp only [Backdrop.after, Backdrop.leaveInput]
    split <;> rfl
  | leaveOutput =>
    simp only [Backdrop.after, Backdrop.leaveOutput]
    split <;> rfl
  | _ => rfl

namespace Same

theorem settings (same : Same id s s') : s'.settings = s.settings :=
  congrArg Backdrop.settings same.backdrop

theorem status (same : Same id s s') : s'.status = s.status :=
  congrArg Backdrop.status same.backdrop

theorem now (same : Same id s s') : s'.now = s.now := congrArg Backdrop.now same.backdrop

theorem closeReason? (same : Same id s s') (m : Move) : m.closeReason? s' = m.closeReason? s := by
  have reading : s'.reading = s.reading := congrArg Backdrop.reading same.backdrop
  have writing : s'.writing = s.writing := congrArg Backdrop.writing same.backdrop
  have accepting : s'.accepting = s.accepting := congrArg Backdrop.accepting same.backdrop
  have outbox : s'.outbox = s.outbox := congrArg Backdrop.outbox same.backdrop
  cases m <;> simp only [Move.closeReason?, reading, writing, accepting, outbox]

theorem closing (same : Same id s s') (reason : CloseReason) :
    s'.closing reason = s.closing reason := by
  simp only [Session.closing, same.status]

theorem newTicket (same : Same id s s') (kind : Kind) :
    s'.newTicket id kind = s.newTicket id kind := by
  have requests : s'.mailboxes.length = s.mailboxes.length :=
    congrArg Backdrop.requests same.backdrop
  simp only [Session.newTicket, same.settings, same.now, requests]

/-- What does not come from the reader means the same. -/
theorem turn (same : Same id s s') (h : Dated s) (h' : Dated s') (acts : m.isRead = false) :
    turn m s' id = turn m s id := by
  cases m with
  | byte | tail => cases acts
  | sweep => rw [h'.turn_sweep, h.turn_sweep, same.ticket, same.settings, same.now]
  | _ =>
    simp only [Session.turn, same.closeReason?, same.closing, same.newTicket, same.status, same.now,
      heard]

theorem moved (same : Same id s s') (h : Dated s) (h' : Dated s') (acts : m.isRead = false) :
    Same id (s.step m) (s'.step m) where
  backdrop := by
    rw [h.toGoverned.step_backdrop, h'.toGoverned.step_backdrop, ← after_unread acts,
      ← after_unread acts, same.backdrop]
  ticket := by
    rw [(h.toSound.step m).ticket, (h'.toSound.step m).ticket, same.turn h h' acts, same.ticket]

/-- A move that is no event for a request changes nothing for it. -/
theorem quiet (same : Same id s s') (h : Dated s) (idle : Session.turn m s id = .idle)
    (shared : m.isRead = true ∨ ∀ b : Backdrop, b.after m = b) : Same id (s.step m) s' where
  backdrop := by
    rw [h.toGoverned.step_backdrop, same.backdrop]
    rcases shared with reads | still
    · exact (after_of_read reads s.backdrop).symm
    · rw [still]
  ticket := by
    rw [(h.toSound.step m).ticket, idle, same.ticket]
    rfl

theorem heard (same : Same id s s') (h : Dated s) (h' : Dated s') (reads : m.isRead = true)
    (turn : Session.turn m s id = .ofNotice id (heard m s)) :
    Same id (s.step m) (s'.heed (Session.heard m s)) where
  backdrop := by
    rw [h.toGoverned.step_backdrop, after_of_read reads, (heed_leaves _ s').backdrop, same.backdrop]
  ticket := by
    rw [(h.toSound.step m).ticket, turn, (h'.toSound.heed _).ticket, same.ticket]

end Same

/-! ## A run told by its events -/

namespace Event

/-- The event happens by itself. -/
def act (e : Event) (s : Session) : Session :=
  match e with
  | .heard n => s.heed n
  | .moved m => s.step m

/-- What the event brings to the caller of a request, if it is a pull. -/
def pull? (id : RequestId) (e : Event) (s : Session) : Option (Pulled Value) :=
  match e with
  | .heard _ => none
  | .moved m => Step.pull? id ⟨s, m⟩

end Event

theorem Dated.act (h : Dated s) (e : Event) : Dated (e.act s) := by
  cases e with
  | heard n => exact h.heed n
  | moved m => exact h.step m

/-- The session after these events, and nothing else. -/
def replay (es : List Event) (s : Session) : Session := es.foldl (fun s e => e.act s) s

/-- What these events bring to the caller of a request. -/
def told (id : RequestId) : List Event → Session → List (Pulled Value)
  | [], _ => []
  | e :: es, s => (e.pull? id s).toList ++ told id es (e.act s)

theorem Same.event (same : Same id s s') (h : Dated s) (h' : Dated s') {e : Event}
    (event : Step.event? id ⟨s, m⟩ = some e) :
    Same id (s.step m) (e.act s') ∧ Step.pull? id ⟨s, m⟩ = e.pull? id s' := by
  have concerns := event?_concerns s m id
  rw [event] at concerns
  cases concerns with
  | heard reads turn =>
    refine ⟨same.heard h h' reads turn, pull?_of_other ?_⟩
    rintro rfl
    cases reads
  | moved acts =>
    refine ⟨same.moved h h' acts, ?_⟩
    rw [Event.pull?, h.toSound.pull?_eq, h'.toSound.pull?_eq, same.turn h h' acts, same.ticket]

/-- For a request a run does what its events do. -/
theorem Same.run (same : Same id s s') (h : Dated s) (h' : Dated s') (ms : List Move) :
    Same id (run ms s) (replay (events id (steps ms s)) s') ∧
      pulls id (steps ms s) = told id (events id (steps ms s)) s' := by
  induction ms generalizing s s' with
  | nil => exact ⟨same, rfl⟩
  | cons m ms ih =>
    have apart : pulls id (steps (m :: ms) s) =
        (Step.pull? id ⟨s, m⟩).toList ++ pulls id (steps ms (s.step m)) :=
      filterMap_cons _ _ _
    rw [apart, steps_cons, events_cons, run_cons]
    cases event : Step.event? id ⟨s, m⟩ with
    | none =>
      have concerns := event?_concerns s m id
      rw [event] at concerns
      cases concerns with
      | nothing shared idle other =>
        rw [pull?_of_other other]
        exact ih (same.quiet h idle shared) (h.step m) h'
    | some e =>
      obtain ⟨next, brought⟩ := same.event h h' event
      obtain ⟨last, rest⟩ := ih next (h.step m) (h'.act e)
      refine ⟨last, ?_⟩
      rw [brought, rest]
      rfl

/-! ## What is left aside -/

/-- What may come or not come at that moment, for all that a request knows: a pull or a
drop by another caller, or a whole line that does not name the request. -/
inductive Aside (id : RequestId) (s : Session) : List Move → Prop where
  | recv {other : RequestId} (apart : other ≠ id) : Aside id s [.recv other]
  | drop {other : RequestId} (apart : other ≠ id) : Aside id s [.drop other]
  | line {line : Bytes} (begins : s.unread = []) (whole : Text.lineFeed ∉ line)
    (apart : Notice.idOfLine? (line ++ [Text.lineFeed]) ≠ some id) :
    Aside id s ((line ++ [Text.lineFeed]).map .byte)

theorem events_append (id : RequestId) (t u : List Step) :
    events id (t ++ u) = events id t ++ events id u :=
  List.filterMap_append

theorem heard_congr (same : s'.backdrop = s.backdrop) (m : Move) : heard m s' = heard m s := by
  have reading : s'.reading = s.reading := congrArg Backdrop.reading same
  have unread : s'.unread = s.unread := congrArg Backdrop.unread same
  cases m <;> simp only [heard, reading, unread]

/-- Which events a run has is told by the connection and the moves. -/
theorem events_congr (h : Dated s) (h' : Dated s') (same : s'.backdrop = s.backdrop)
    (id : RequestId) (ms : List Move) : events id (steps ms s') = events id (steps ms s) := by
  induction ms generalizing s s' with
  | nil => rfl
  | cons m ms ih =>
    have event : Step.event? id ⟨s', m⟩ = Step.event? id ⟨s, m⟩ := by
      simp only [Step.event?, heard_congr same]
    have next : (s'.step m).backdrop = (s.step m).backdrop := by
      rw [h.toGoverned.step_backdrop, h'.toGoverned.step_backdrop, same]
    rw [steps_cons, steps_cons, events_cons, events_cons, event, ih (h.step m) (h'.step m) next]

/-- Bytes within a line are only kept for later. -/
theorem run_within (h : Dated s) (id : RequestId) {line : Bytes} (within : Text.lineFeed ∉ line) :
    (run (line.map .byte) s).backdrop =
        { s.backdrop with unread := if s.reading then line.reverse ++ s.unread else s.unread } ∧
      events id (steps (line.map .byte) s) = [] := by
  induction line generalizing s with
  | nil =>
    refine ⟨?_, rfl⟩
    cases reads : s.reading <;> simp [backdrop, reads]
  | cons b line ih =>
    obtain ⟨first, rest⟩ := List.ne_and_not_mem_of_not_mem_cons within
    have kept : (s.step (.byte b)).backdrop =
        { s.backdrop with unread := if s.reading then b :: s.unread else s.unread } := by
      rw [h.toGoverned.step_backdrop]
      cases reads : s.reading <;>
        simp [Backdrop.after, Backdrop.readByte, backdrop, reads, Ne.symm first]
    have quiet : Step.event? id ⟨s, .byte b⟩ = none := by
      simp [Step.event?, heard, Ne.symm first, Notice.names?]
    obtain ⟨last, others⟩ := ih (h.step (.byte b)) rest
    have reading : (s.step (.byte b)).reading = s.reading := congrArg Backdrop.reading kept
    have unread : (s.step (.byte b)).unread = if s.reading then b :: s.unread else s.unread :=
      congrArg Backdrop.unread kept
    constructor
    · rw [List.map_cons, run_cons, last, kept, reading, unread]
      cases s.reading <;> simp
    · rw [List.map_cons, steps_cons, events_cons, quiet, others]
      rfl

/-- What is left aside leaves the connection as it is, and is no event. -/
theorem Aside.leaves (h : Dated s) {ms : List Move} (aside : Aside id s ms) :
    (run ms s).backdrop = s.backdrop ∧ events id (steps ms s) = [] := by
  cases aside with
  | recv apart =>
    refine ⟨h.toGoverned.step_backdrop (.recv _), ?_⟩
    simp [events, steps, Step.event?, apart]
  | drop apart =>
    refine ⟨h.toGoverned.step_backdrop (.drop _), ?_⟩
    simp [events, steps, Step.event?, apart]
  | @line line begins whole apart =>
    obtain ⟨kept, silent⟩ := run_within h id whole
    have split : (line ++ [Text.lineFeed]).map Move.byte =
        line.map .byte ++ [.byte Text.lineFeed] := by simp
    rw [split, run_snoc, steps_append, events_append, silent]
    have dated := h.run (line.map .byte)
    generalize run (line.map .byte) s = before at kept dated ⊢
    have reading : before.reading = s.reading := congrArg Backdrop.reading kept
    have unread : before.unread = if s.reading then line.reverse ++ s.unread else s.unread :=
      congrArg Backdrop.unread kept
    rw [begins, List.append_nil] at unread
    constructor
    · rw [dated.toGoverned.step_backdrop, kept]
      cases reads : s.reading <;>
        simp [Backdrop.after, Backdrop.readByte, backdrop, reads, begins]
    · have other : (heard (.byte Text.lineFeed) before).names? ≠ some id := by
        intro named
        cases reads : s.reading with
        | false => simp [heard, reading, reads, Notice.names?] at named
        | true =>
          refine apart (Notice.idOfLine?_of_names ?_)
          simpa [heard, reading, unread, reads] using named
      simp [events, steps, Step.event?, other]

/-- A byte within a line may as well come after a move that does not stop the reader. -/
theorem after_readByte (acts : m.isRead = false) {byte : UInt8} (within : byte ≠ Text.lineFeed)
    {b : Backdrop} (goesOn : (b.after m).reading = b.reading) :
    (b.readByte byte).after m = (b.after m).readByte byte := by
  have unread : (b.after m).unread = b.unread := by
    have same := congrArg Backdrop.unread (after_unread acts b b.unread)
    exact same
  cases reads : b.reading with
  | false => simp [Backdrop.readByte, reads, goesOn]
  | true =>
    have more (c : Backdrop) (reads : c.reading = true) :
        c.readByte byte = { c with unread := byte :: c.unread } := by
      simp [Backdrop.readByte, reads, within]
    rw [more b reads, more (b.after m) (goesOn.trans reads), unread]
    exact after_unread acts b _

theorem delay_leaves (h : Dated s) (id : RequestId) {b : UInt8} (within : b ≠ Text.lineFeed)
    (acts : m.isRead = false) (goesOn : (s.step m).reading = s.reading) :
    (run [m, .byte b] s).backdrop = (run [.byte b, m] s).backdrop ∧
      events id (steps [m, .byte b] s) = events id (steps [.byte b, m] s) := by
  have own (s : Session) : Step.event? id ⟨s, .byte b⟩ = none := by
    simp [Step.event?, heard, within, Notice.names?]
  have other (s' : Session) : Step.event? id ⟨s', m⟩ = Step.event? id ⟨s, m⟩ := by
    cases m with
    | byte | tail => cases acts
    | _ => rfl
  constructor
  · have moved := h.toGoverned.step_backdrop m
    have reading : (s.backdrop.after m).reading = s.backdrop.reading := by
      rw [← moved]
      exact goesOn
    calc ((s.step m).step (.byte b)).backdrop
      _ = (s.backdrop.after m).readByte b := by
        rw [(h.step m).toGoverned.step_backdrop, moved, Backdrop.after]
      _ = (s.backdrop.readByte b).after m := (after_readByte acts within reading).symm
      _ = ((s.step (.byte b)).step m).backdrop := by
        rw [(h.step (.byte b)).toGoverned.step_backdrop, h.toGoverned.step_backdrop, Backdrop.after]
  · simp only [steps, events_cons, own, other (s.step (.byte b))]
    rfl

/-- What may become of a run, for all that a request knows. -/
inductive Rearranged (settings : Settings) (id : RequestId) : List Move → List Move → Prop where
  | aside {ms aside : List Move} (ns : List Move) (left : Aside id (run ms (start settings)) aside) :
    Rearranged settings id (ms ++ ns) (ms ++ aside ++ ns)
  /-- A byte within a line comes later. -/
  | delay {ms : List Move} {b : UInt8} {m : Move} (ns : List Move) (within : b ≠ Text.lineFeed)
    (acts : m.isRead = false)
    (goesOn : (run (ms ++ [m]) (start settings)).reading = (run ms (start settings)).reading) :
    Rearranged settings id (ms ++ [.byte b, m] ++ ns) (ms ++ [m, .byte b] ++ ns)
  | refl (ms : List Move) : Rearranged settings id ms ms
  | symm {ms ns : List Move} : Rearranged settings id ms ns → Rearranged settings id ns ms
  | trans {ms ns os : List Move} : Rearranged settings id ms ns → Rearranged settings id ns os →
    Rearranged settings id ms os

theorem Rearranged.events {settings : Settings} {ms ns : List Move}
    (h : Rearranged settings id ms ns) :
    events id (steps ms (start settings)) = events id (steps ns (start settings)) := by
  have dated := dated_start settings
  induction h with
  | @aside ms aside ns left =>
    have before := dated.run ms
    obtain ⟨kept, silent⟩ := left.leaves before
    rw [List.append_assoc, steps_append, steps_append, steps_append, events_append, events_append,
      events_append, silent, events_congr before (before.run aside) kept]
    rfl
  | @delay ms b m ns within acts goesOn =>
    have before := dated.run ms
    rw [run_snoc] at goesOn
    obtain ⟨kept, same⟩ := delay_leaves before id within acts goesOn
    rw [List.append_assoc, List.append_assoc, steps_append, steps_append, steps_append, steps_append,
      events_append, events_append, events_append, events_append, same,
      events_congr (before.run _) (before.run _) kept]
  | refl => rfl
  | symm _ ih => exact ih.symm
  | trans _ _ first second => exact first.trans second

/-! ## No request notices another -/

/-- What a request is told in a run is told by its events: runs with the same events are the
same for it.  What others do, and what comes for them, is no event. -/
theorem requests_apart (settings : Settings) (id : RequestId) (ms ms' : List Move) :
    (Rearranged settings id ms ms' →
      events id (steps ms (start settings)) = events id (steps ms' (start settings))) ∧
    (events id (steps ms (start settings)) = events id (steps ms' (start settings)) →
      pulls id (steps ms (start settings)) = pulls id (steps ms' (start settings)) ∧
        (run ms (start settings)).isOutstanding id = (run ms' (start settings)).isOutstanding id ∧
        (run ms (start settings)).status = (run ms' (start settings)).status) := by
  have dated := dated_start settings
  refine ⟨Rearranged.events, fun same => ?_⟩
  have fresh : Same id (start settings) (start settings) := ⟨rfl, rfl⟩
  obtain ⟨first, brought⟩ := fresh.run dated dated ms
  obtain ⟨second, brought'⟩ := fresh.run dated dated ms'
  rw [same] at first brought
  have agree : Same id (run ms (start settings)) (run ms' (start settings)) :=
    ⟨second.backdrop.symm.trans first.backdrop, second.ticket.symm.trans first.ticket⟩
  refine ⟨brought.trans brought'.symm, ?_, agree.status.symm⟩
  refine Bool.eq_iff_iff.mpr ((dated.run ms).isOutstanding_iff.trans ?_)
  rw [← agree.ticket]
  exact (dated.run ms').isOutstanding_iff.symm

/-- The caller of `a` pulls twice, when one item has come for it. -/
def alone : List Move :=
  [.send "a" none .tool .null, .send "b" none .llm .null] ++
    (hears (.item "a" (.bool true)) ++ [.recv "a", .recv "a"])

/-- In between, the request of `b` fails, and its caller pulls and gives up. -/
def crowded : List Move :=
  [.send "a" none .tool .null, .send "b" none .llm .null] ++
    (hears (.failed "b" "no model") ++
      (hears (.item "a" (.bool true)) ++ [.recv "b", .recv "a", .drop "b", .recv "a"]))

theorem crowded_rearranged : Rearranged ⟨5, none, 1⟩ "a" alone crowded := by
  let sent : List Move := [.send "a" none .tool .null, .send "b" none .llm .null]
  let failed := hears (.failed "b" "no model")
  let answered := hears (.item "a" (.bool true))
  have foreign : Aside "a" (run sent (start ⟨5, none, 1⟩)) failed := by
    let line : Bytes :=
      (InboundFrame.ofResponse none (.failed "b" "no model")).toLine.toUTF8.toList.dropLast
    have ends : failed = (line ++ [Text.lineFeed]).map .byte :=
      congrArg (List.map Move.byte) (by decide +kernel)
    rw [ends]
    exact .line rfl (by decide +kernel) (by decide +kernel)
  have told : Rearranged ⟨5, none, 1⟩ "a" (sent ++ (answered ++ [.recv "a", .recv "a"]))
      (sent ++ failed ++ (answered ++ [.recv "a", .recv "a"])) := .aside _ foreign
  have pulled : Rearranged ⟨5, none, 1⟩ "a"
      (sent ++ failed ++ answered ++ [.recv "a", .recv "a"])
      (sent ++ failed ++ answered ++ [.recv "b"] ++ [.recv "a", .recv "a"]) :=
    .aside _ (.recv (by decide))
  have dropped : Rearranged ⟨5, none, 1⟩ "a"
      (sent ++ failed ++ answered ++ [.recv "b"] ++ [.recv "a"] ++ [.recv "a"])
      (sent ++ failed ++ answered ++ [.recv "b"] ++ [.recv "a"] ++ [.drop "b"] ++ [.recv "a"]) :=
    .aside _ (.drop (by decide))
  simp only [List.append_assoc, List.cons_append, List.nil_append] at told pulled dropped
  exact told.trans (pulled.trans dropped)

theorem crowded_pulls :
    Rearranged ⟨5, none, 1⟩ "a" alone crowded ∧
      pulls "b" (steps crowded (start ⟨5, none, 1⟩)) = [.failed (.application "no model")] ∧
      pulls "a" (steps alone (start ⟨5, none, 1⟩)) = [.item (.bool true), .pending] ∧
      pulls "a" (steps crowded (start ⟨5, none, 1⟩)) = [.item (.bool true), .pending] ∧
      (run crowded (start ⟨5, none, 1⟩)).isOutstanding "a" = true := by
  obtain ⟨other, own, waits⟩ :
      pulls "b" (steps crowded (start ⟨5, none, 1⟩)) = [.failed (.application "no model")] ∧
      pulls "a" (steps alone (start ⟨5, none, 1⟩)) = [.item (.bool true), .pending] ∧
      (run alone (start ⟨5, none, 1⟩)).isOutstanding "a" = true := by
    decide +kernel
  have same := (requests_apart ⟨5, none, 1⟩ "a" alone crowded).1 crowded_rearranged
  obtain ⟨brought, outstanding, -⟩ := (requests_apart ⟨5, none, 1⟩ "a" alone crowded).2 same
  exact ⟨crowded_rearranged, other, own, brought ▸ own, outstanding ▸ waits⟩

end Backchannel.Session
