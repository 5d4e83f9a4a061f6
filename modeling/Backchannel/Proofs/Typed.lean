/-
# Backchannel.Proofs.Typed -- what the consumers of a typed stream read

All who consume a typed stream read the same, and that is its `sequence`: `Consumed` says so
for each of them, and `typed_sequence` for every run in which nothing is dropped.

Two ends have to be kept apart, the one of the subscription and the one of the stream.  An
`Account` follows both: a stream that waits was told of all items but those in its mailbox,
and one that has ended was told its whole sequence, to which nothing is added any more.
-/
import Backchannel.Proofs.Consumers
import Backchannel.Proofs.Session.Delivery

namespace Backchannel.Stream

set_option autoImplicit false

open Backchannel.Json (Decoder Value)

variable {α : Type} {id : RequestId} {shape : Decoder α} {vs : List Value} {as : List α}
  {x : Stream α × Session} {ticket : Ticket} {us : List Use} {u : Use} {t : List Session.Step}
  {got : List (Pulled α)}

/-! ## The account of a stream -/

/-- What a stream was told, given the steps of its session. -/
inductive Account (id : RequestId) (shape : Decoder α) (t : List Session.Step)
    (got : List (Pulled α)) (x : Stream α × Session) (ticket : Ticket) : Prop where
  /-- It was told all items that came but those that wait. -/
  | waiting {vs : List Value} {as : List α} (stream : x.1 = .ofRequest id shape)
    (kept : ticket.box.dropped = 0) (came : Session.routed id t = vs ++ ticket.box.items)
    (fit : Fit shape vs as) (closure : ticket.box.closure = Session.resolution id t)
    (told : got = as.map .item)
  /-- It was told all that there is to read, and nothing can come to that any more: its caller is
  done, or an item had not the shape. -/
  | ended {as : List α} {last : Pulled α} (count : Nat) (stream : x.1 = ⟨id, shape, true⟩)
    (settled : ticket.sub.done = true ∨ Misfit shape (Session.routed id t))
    (whole : sequenceIn id shape t = as.map .item ++ [last]) (isOver : last.isOver = true)
    (told : got = as.map .item ++ last :: List.replicate count .finished)

theorem Account.named (h : Account id shape t got x ticket) : x.1.id = id := by
  cases h with
  | waiting stream => rw [stream]; rfl
  | ended count stream => rw [stream]

theorem Account.shaped (h : Account id shape t got x ticket) : x.1.shape = shape := by
  cases h with
  | waiting stream => rw [stream]; rfl
  | ended count stream => rw [stream]

/-- What nobody reads makes no difference to what there is to read. -/
theorem sequenceIn_of_none {st : Session.Step} (item : st.item? id = none)
    (resolves : st.resolves? id = none) :
    sequenceIn id shape (t ++ [st]) = sequenceIn id shape t := by
  rw [sequenceIn, Session.routed_of_none item, Session.resolution_snoc, resolves, Option.or_none]
  rfl

theorem sequenceIn_of_misfit (misfit : Misfit shape (Session.routed id t)) (st : Session.Step) :
    sequenceIn id shape (t ++ [st]) = sequenceIn id shape t := by
  rw [sequenceIn, Session.routed_snoc, readAll_of_misfit misfit (lastPulled _)]
  rfl

/-- A step that means nothing for the request. -/
theorem Account.quiet {st : Session.Step} {s : Session} (h : Account id shape t got x ticket)
    (item : st.item? id = none) (resolves : st.resolves? id = none) :
    Account id shape (t ++ [st]) got (x.1, s) ticket := by
  have came' : Session.routed id (t ++ [st]) = Session.routed id t := Session.routed_of_none item
  cases h with
  | waiting stream kept came fit closure told =>
    refine .waiting stream kept (came'.trans came) fit ?_ told
    rw [Session.resolution_snoc, resolves, Option.or_none, closure]
  | ended count stream settled whole isOver told =>
    exact .ended count stream (came' ▸ settled) ((sequenceIn_of_none item resolves).trans whole)
      isOver told

/-- Someone else moves. -/
theorem Account.other (h : Account id shape t got x ticket) (held : Held x ticket)
    {m : Session.Move} (own : m.caller? ≠ some id)
    (uncrowded : ∀ box ∈ (x.2.step m).mailboxOf? id, box.dropped = 0) :
    ∃ ticket', Held (use x (.other m)) ticket' ∧
      Account id shape (t ++ [⟨x.2, m⟩]) got (use x (.other m)) ticket' := by
  have named := h.named
  have found := held.ticket
  rw [named] at found
  have sound := (held.sound.step m).toSound
  cases isOpen : ticket.isOpen with
  | false =>
    obtain ⟨same, item, resolves⟩ := held.sound.step_settled own found isOpen
    exact ⟨ticket, ⟨sound, named ▸ same, held.waits⟩, h.quiet item resolves⟩
  | true =>
    obtain ⟨waits, opened⟩ := Ticket.isOpen_iff.mp isOpen
    obtain ⟨box, same, closed, items⟩ := held.sound.step_waiting own found isOpen
    refine ⟨⟨ticket.sub, box⟩, ⟨sound, named ▸ same, held.waits⟩, ?_⟩
    cases h with
    | ended count stream settled whole isOver told =>
      -- The caller waits on, so it was an item that ended the stream.
      have misfit : Misfit shape (Session.routed id t) :=
        settled.resolve_left (Bool.eq_false_iff.mp waits)
      have still : Misfit shape (Session.routed id (t ++ [⟨x.2, m⟩])) := by
        obtain ⟨v, among, fails⟩ := misfit
        rw [Session.routed_snoc]
        exact ⟨v, List.mem_append_left _ among, fails⟩
      exact .ended count stream (.inr still) ((sequenceIn_of_misfit misfit _).trans whole)
        isOver told
    | waiting stream kept came fit closure told =>
      have kept' : box.dropped = 0 := uncrowded box (by simp [Session.mailboxOf?_eq, same])
      refine .waiting stream kept' ?_ fit ?_ told
      · rw [Session.routed_snoc, came, items kept kept', List.append_assoc]
      · rw [Session.resolution_snoc, ← closure, opened, Option.none_or]
        exact closed

theorem typed_pulled {c : Closure} (resolved : Session.resolution id t = some c) :
    typed id shape c.pulled = lastPulled (some c) := by
  cases c with
  | finished => rfl
  | failed e => exact congrArg Pulled.failed (Session.resolution_pulled resolved e rfl)

/-- A stream whose items are all read comes to how its request was resolved. -/
theorem sequenceIn_of_fit {c : Option Closure} (came : Session.routed id t = vs)
    (fit : Fit shape vs as) (resolved : Session.resolution id t = c) :
    sequenceIn id shape t = as.map .item ++ [lastPulled c] := by
  rw [sequenceIn, came, resolved, ← List.append_nil vs, readAll_of_fit fit]
  rfl

/-- A pull that ends the stream, once all items were read. -/
theorem Account.close {c : Closure} {ticket' : Ticket} (came : Session.routed id t = vs)
    (fit : Fit shape vs as) (resolved : Session.resolution id t = some c)
    (done : ticket'.sub.done = true)
    (stream : x.1 = ⟨id, shape, (lastPulled (some c) : Pulled α).isOver⟩) :
    Account id shape t (as.map .item ++ (lastPulled (some c) : Pulled α).ready?.toList) x
      ticket' := by
  have whole : sequenceIn id shape t = as.map .item ++ [lastPulled (some c)] :=
    sequenceIn_of_fit came fit resolved
  cases c with
  | finished => exact .ended 0 stream (.inl done) whole rfl rfl
  | failed e => exact .ended 0 stream (.inl done) whole rfl rfl

/-- A pull that brings an item, which has the shape or not. -/
theorem Account.take {v : Value} {rest : List Value} {ticket' : Ticket}
    (came : Session.routed id t = vs ++ v :: rest) (fit : Fit shape vs as)
    (kept : ticket'.box.dropped = 0) (left : ticket'.box.items = rest)
    (closure : ticket'.box.closure = Session.resolution id t)
    (stream : x.1 = ⟨id, shape, (typed id shape (.item v)).isOver⟩) :
    Account id shape t (as.map .item ++ (typed id shape (.item v)).ready?.toList) x ticket' := by
  cases read : shape.ofValue v with
  | ok a =>
    have typed : typed id shape (.item v) = .item a := by simp [typed, read]
    rw [typed] at stream ⊢
    refine .waiting stream kept ?_ (fit.snoc read) closure ?_
    · rw [came, left, List.append_assoc]
      rfl
    · rw [List.map_append]
      rfl
  | error how =>
    have typed : typed id shape (.item v) = .failed (.decode id (.value how)) := by
      simp [typed, read]
    rw [typed] at stream ⊢
    refine .ended 0 stream (.inr ?_) ?_ rfl rfl
    · rw [came]
      exact ⟨v, by simp, how, read⟩
    · rw [sequenceIn, came, readAll_of_fit fit, readAll, read]

/-- The stream pulls, and has not ended. -/
theorem Account.pull (h : Account id shape t got x ticket) (held : Held x ticket)
    (opened : x.1.ended = false) :
    Account id shape (t ++ [⟨x.2, .recv id⟩]) (got ++ (got? x .next).toList) (use x .next)
      (ticket.pull id x.2.now).2 := by
  have named := h.named
  cases h with
  | ended count stream =>
    rw [stream] at opened
    cases opened
  | @waiting vs as stream kept came fit closure told =>
    have found := held.ticket
    rw [named] at found
    have after : (use x .next).1 =
        ⟨id, shape, (typed id shape (ticket.pull id x.2.now).1).isOver⟩ := by
      rw [use_next opened, named, Session.recv_eq found, stream]
      rfl
    have brought : got? x .next = (typed id shape (ticket.pull id x.2.now).1).ready? := by
      rw [got?, held.next_fst opened, stream]
      rfl
    -- A pull routes nothing, and resolves the request only if its caller gives up.
    rw [← Session.routed_of_none (held.sound.item?_recv found)] at came
    have resolution := Session.resolution_snoc id t ⟨x.2, .recv id⟩
    rw [held.sound.resolves?_recv found, ← closure] at resolution
    rw [brought, told]
    rcases Ticket.pull_cases (held.waits opened) id x.2.now with ⟨lost, pulled⟩ |
      ⟨-, v, rest, items, pulled⟩ | ⟨-, items, c, closed, pulled⟩ |
      ⟨-, items, unclosed, late, pulled⟩ | ⟨-, items, unclosed, early, pulled⟩ <;>
      rw [pulled] at after ⊢
    · omega
    · rw [items] at came
      refine .take came fit kept rfl ?_ after
      simp [resolution, items]
    · rw [items, List.append_nil] at came
      have resolved : Session.resolution id t = some c := closure.symm.trans closed
      rw [typed_pulled resolved] at after ⊢
      refine .close came fit ?_ rfl after
      simp [resolution, closed]
    · rw [items, List.append_nil] at came
      have isOpen : ticket.isOpen = true := Ticket.isOpen_iff.mpr ⟨held.waits opened, unclosed⟩
      have resolved : Session.resolution id (t ++ [⟨x.2, .recv id⟩]) =
          some (.failed (.timeout id ticket.sub.timeout)) := by
        simp [resolution, unclosed, isOpen, items, late]
      exact .close came fit resolved rfl after
    · refine .waiting after kept came fit ?_ (List.append_nil _)
      simp [resolution, items, unclosed, Nat.not_le.mpr early]

/-- A stream that has ended only tells so. -/
theorem Account.spent (h : Account id shape t got x ticket) (ended : x.1.ended = true) :
    Account id shape t (got ++ (got? x .next).toList) (use x .next) ticket := by
  have brought : got? x .next = some .finished := by simp [got?, next, ended, Pulled.ready?]
  rw [use_next_of_ended ended, brought]
  cases h with
  | waiting stream =>
    rw [stream] at ended
    cases ended
  | ended count stream settled whole isOver told =>
    refine .ended (count + 1) stream settled whole isOver ?_
    rw [told, List.replicate_succ', List.append_assoc]
    rfl

theorem Account.turn (h : Account id shape t got x ticket) (held : Held x ticket)
    (own : ∀ m, u = .other m → m.caller? ≠ some id)
    (uncrowded : ∀ box ∈ (use x u).2.mailboxOf? id, box.dropped = 0) :
    ∃ ticket', Held (use x u) ticket' ∧
      Account id shape (t ++ added x u) (got ++ (got? x u).toList) (use x u) ticket' := by
  cases u with
  | other m =>
    simpa [got?, added, move?] using h.other held (own m rfl) uncrowded
  | next =>
    cases ended : x.1.ended with
    | true =>
      refine ⟨ticket, ?_, ?_⟩
      · rwa [use_next_of_ended ended]
      · simpa [added, move?, ended] using h.spent ended
    | false =>
      have next := held.next ended
      have pulled := h.pull held ended
      rw [h.named] at next
      refine ⟨_, next, ?_⟩
      simpa [added, move?, ended, h.named] using pulled

theorem Account.run (h : Account id shape t got x ticket) (held : Held x ticket)
    (own : Owned id us) (uncrowded : Uncrowded us x) :
    ∃ ticket', Held (uses us x) ticket' ∧
      Account id shape (t ++ trace us x) (got ++ told us x) (uses us x) ticket' := by
  induction us generalizing x t got ticket with
  | nil =>
    have still : trace [] x = [] := rfl
    rw [still, told, List.append_nil, List.append_nil]
    exact ⟨ticket, held, h⟩
  | cons u us ih =>
    obtain ⟨head, tail⟩ := uncrowded
    rw [h.named] at head
    obtain ⟨ticket', held', account⟩ := h.turn held own.head head
    rw [trace_cons, told, ← List.append_assoc, ← List.append_assoc]
    exact ih account held' own.tail tail

/-! ## What the account says -/

/-- A stream was told what there is to read, as far as it went, and behind it the end. -/
theorem Account.reads (h : Account id shape t got x ticket) :
    got = ahead got.length (sequenceIn id shape t) := by
  cases h with
  | waiting stream kept came fit closure told =>
    rw [sequenceIn, came, readAll_of_fit fit, told, ahead_length_append]
  | @ended as last count stream settled whole isOver told =>
    have length : got.length = (as.map Pulled.item ++ [last]).length + count := by
      rw [told, List.length_append, List.length_append, List.length_cons, List.length_replicate,
        List.length_singleton]
      omega
    rw [whole, length, ahead_add_length, told, List.append_assoc]
    rfl

/-- A stream that has ended was told all that there is to read. -/
theorem Account.all (h : Account id shape t got x ticket) (ended : x.1.ended = true) :
    elements got = elements (sequenceIn id shape t) ∧
      gather (elements got) = collected (sequenceIn id shape t) := by
  cases h with
  | waiting stream =>
    rw [stream] at ended
    cases ended
  | ended count stream settled whole isOver told =>
    rw [whole, told, elements_of_over isOver]
    exact ⟨rfl, gather_elements isOver _⟩

/-- A pull finds nothing only if there is no more to read yet. -/
theorem Account.pending (h : Account id shape t got x ticket) (held : Held x ticket)
    (nothing : (x.1.next (Session.recv id) x.2).1 = .pending) :
    x.1.ended = false ∧ sequenceIn id shape (t ++ [⟨x.2, .recv id⟩]) = got ++ [.pending] := by
  have named := h.named
  cases ended : x.1.ended with
  | true => simp [next, ended] at nothing
  | false =>
    refine ⟨rfl, ?_⟩
    have brought : got? x .next = none := by
      rw [got?, named, nothing]
      rfl
    have account := h.pull held ended
    rw [brought, Option.toList_none, List.append_nil] at account
    have raw : (ticket.pull id x.2.now).1 = .pending := by
      rw [← named] at nothing ⊢
      rw [held.next_fst ended] at nothing
      generalize (ticket.pull x.1.id x.2.now).1 = raw at nothing ⊢
      cases raw with
      | pending => rfl
      | finished | failed => cases nothing
      | item v =>
        simp only [typed] at nothing
        split at nothing <;> cases nothing
    obtain ⟨items, unclosed, same⟩ := Ticket.pull_pending (held.waits ended) raw
    rw [same] at account
    cases account with
    | waiting stream kept came fit closure told =>
      rw [items, List.append_nil] at came
      rw [told, sequenceIn_of_fit came fit (closure.symm.trans unclosed)]
      rfl
    | ended count stream =>
      have still := congrArg Stream.ended stream
      rw [use_next ended, named, Session.recv_eq (named ▸ held.ticket), raw] at still
      cases still

/-- Who is told nothing yet still waits. -/
theorem Account.opened (h : Account id shape t [] x ticket) : x.1.ended = false := by
  cases h with
  | waiting stream => rw [stream]; rfl
  | ended count stream settled whole isOver told => simp at told

/-- A call for one result answers with the first that there is to read. -/
theorem Account.single (h : Account id shape t [] x ticket) (held : Held x ticket) :
    Stream.single id shape (x.2.recv id).1 =
      answer (sequenceIn id shape (t ++ [⟨x.2, .recv id⟩])) := by
  have opened := h.opened
  have first : (x.1.next (Session.recv id) x.2).1 = typed id shape (x.2.recv id).1 := by
    simp [next, opened, h.named, h.shaped]
  have reads := (h.pull held opened).reads
  rw [got?, h.named] at reads
  cases raw : typed id shape (x.2.recv id).1 with
  | pending =>
    rw [(h.pending held (first.trans raw)).2]
    simp only [Stream.single, raw]
    rfl
  | item | finished | failed =>
    rw [first, raw] at reads
    simp only [Stream.single, raw]
    generalize sequenceIn id shape (t ++ [⟨x.2, .recv id⟩]) = results at reads ⊢
    cases results with
    | nil => cases reads <;> rfl
    | cons result results =>
      obtain rfl := (List.cons.inj reads).1
      rfl

/-- What there is to read does not change once nothing is awaited any more, unless an item
comes. -/
theorem sequenceIn_of_ready {st : Session.Step} (ready : .pending ∉ sequenceIn id shape t)
    (item : st.item? id = none) : sequenceIn id shape (t ++ [st]) = sequenceIn id shape t := by
  rw [sequenceIn, Session.routed_of_none item, Session.resolution_snoc]
  rw [sequenceIn] at ready ⊢
  cases resolved : Session.resolution id t with
  | some c => rfl
  | none =>
    rw [resolved] at ready
    exact readAll_of_ready ready

/-- There is more to read from a stream that has not ended, be it that there is nothing yet;
and no more items than wait. -/
theorem Account.more (h : Account id shape t got x ticket) (opened : x.1.ended = false) :
    got.length < (sequenceIn id shape t).length ∧
      (sequenceIn id shape t).length ≤ got.length + (ticket.box.items.length + 1) := by
  cases h with
  | ended count stream =>
    rw [stream] at opened
    cases opened
  | waiting stream kept came fit closure told =>
    rw [sequenceIn, came, readAll_of_fit fit, told, List.length_append]
    exact ⟨Nat.lt_add_of_pos_right (readAll_length_pos _ _ _ _),
      Nat.add_le_add_left (readAll_length_le _ _ _ _) _⟩

/-- Who drains often enough a stream that does not keep him waiting comes to its end. -/
theorem Account.drain (h : Account id shape t got x ticket) (held : Held x ticket)
    (opened : x.1.ended = false) (ready : .pending ∉ sequenceIn id shape t) {fuel : Nat}
    (enough : (sequenceIn id shape t).length ≤ got.length + fuel) :
    (x.1.drain (Session.recv x.1.id) fuel x.2).2.1 = true := by
  induction fuel generalizing x t got ticket with
  | zero => exact absurd enough (Nat.not_le.mpr (h.more opened).1)
  | succ fuel ih =>
    have account := h.pull held opened
    have still : sequenceIn id shape (t ++ [⟨x.2, .recv id⟩]) = sequenceIn id shape t :=
      sequenceIn_of_ready ready (held.sound.item?_recv (h.named ▸ held.ticket))
    have after := ended_next opened
    rw [drain_succ]
    rw [got?] at account
    cases first : (x.1.next (Session.recv x.1.id) x.2).1 with
    | finished => rfl
    | failed e => rfl
    | pending =>
      rw [← still, (h.pending held (h.named ▸ first)).2] at ready
      simp at ready
    | item a =>
      rw [first] at account after
      have later : (sequenceIn id shape (t ++ [⟨x.2, .recv id⟩])).length ≤
          (got ++ [Pulled.item a]).length + fuel := by
        rw [still, List.length_append, List.length_singleton]
        omega
      have rest := ih account (h.named ▸ held.next opened) after (still ▸ ready) later
      rw [use_id] at rest
      exact rest

/-! ## All consumers -/

/-- What the consumers of a stream read in some turns. -/
structure Consumed (us : List Use) (x : Stream α × Session) : Prop where
  /-- The pulls brought what there is to read, as far as they went, and behind it the end. -/
  pulled : told us x = ahead (told us x).length (sequence us x)
  /-- A pull finds nothing only when all was told that there is to read so far. -/
  waits : ((uses us x).1.next (Session.recv x.1.id) (uses us x).2).1 = .pending →
    sequence (us ++ [.next]) x = told us x ++ [.pending]
  /-- From a stream that has ended, all elements were read. -/
  all : (uses us x).1.ended = true → elements (told us x) = elements (sequence us x)
  /-- They are collected to all items, or to the first error. -/
  collects : (uses us x).1.ended = true →
    gather (elements (told us x)) = collected (sequence us x)
  /-- A drain comes to the end if that is there, once it may pull more often than items wait. -/
  drains : .pending ∉ sequence us x → ∀ box ∈ (uses us x).2.mailboxOf? x.1.id, ∀ fuel,
    box.items.length < fuel →
      ((uses us x).1.drain (Session.recv x.1.id) fuel (uses us x).2).2.1 = true
  /-- A call for one result answers with the first that there is to read. -/
  single : told us x = [] →
    Stream.single x.1.id x.1.shape ((uses us x).2.recv x.1.id).1 =
      answer (sequence (us ++ [.next]) x)

theorem Account.consumed (h : Account x.1.id x.1.shape [] [] x ticket) (held : Held x ticket)
    (own : Owned x.1.id us) (uncrowded : Uncrowded us x) : Consumed us x := by
  obtain ⟨ticket', held', account⟩ := h.run held own uncrowded
  change Account _ _ (trace us x) (told us x) _ _ at account
  have pulls (opened : (uses us x).1.ended = false) : sequence (us ++ [.next]) x =
      sequenceIn x.1.id x.1.shape (trace us x ++ [⟨(uses us x).2, .recv x.1.id⟩]) := by
    rw [sequence, trace_append, trace_cons, added, move?, opened, uses_id]
    rfl
  refine ⟨account.reads, ?_, fun ended => (account.all ended).1,
    fun ended => (account.all ended).2, ?_, ?_⟩
  · intro nothing
    obtain ⟨opened, rest⟩ := account.pending held' nothing
    rw [pulls opened, rest]
  · intro ready box stored fuel enough
    cases ended : (uses us x).1.ended with
    | true =>
      obtain ⟨fuel, rfl⟩ := Nat.exists_eq_succ_of_ne_zero (Nat.ne_of_gt (Nat.zero_lt_of_lt enough))
      simp [Stream.drain, next, ended]
    | false =>
      have found := held'.ticket
      rw [uses_id] at found
      obtain rfl : ticket'.box = box := by
        simpa [Session.mailboxOf?_eq, found] using stored
      have drain := account.drain held' ended ready
        (Nat.le_trans (account.more ended).2 (Nat.add_le_add_left enough _))
      rwa [uses_id] at drain
  · intro nothing
    rw [nothing] at account
    rw [account.single held', pulls account.opened]

/-- Nothing has come yet for a request that was just made. -/
theorem account_ofRequest (s : Session) (id : RequestId) (kind : Kind) (shape : Decoder α)
    (s' : Session) : Account id shape [] [] (ofRequest id shape, s') (s.newTicket id kind) := by
  have came : Session.routed id [] = [] ++ (s.newTicket id kind).box.items := rfl
  have fit : Fit shape [] [] := rfl
  exact .waiting rfl rfl came fit rfl rfl

/-- All consumers of a stream read the same: the items that came for its request, in its shape
and in order, up to the first that has it not; and if all have it, then how the request was
resolved.  This holds at every moment of every run in which nothing is dropped. -/
theorem typed_sequence (shape : Decoder α) (settings : Settings) (ms : List Session.Move)
    (id : RequestId) (sessionId : Option String) (kind : Kind) (payload : Value)
    (sent : ((Session.run ms (.start settings)).send id sessionId kind payload).1 = .ok ()) :
    let x : Stream α × Session :=
      (ofRequest id shape, ((Session.run ms (.start settings)).send id sessionId kind payload).2)
    (∀ us, Owned id us → Uncrowded us x → Consumed us x) ∧
      ∀ polls : List (List Session.Move × Nat),
        (∀ poll ∈ polls, ∀ m ∈ poll.1, m.caller? ≠ some id) →
        ∃ us, us.filterMap Use.other? <+: polls.flatMap Prod.fst ∧ Owned id us ∧
          drains polls x = (elements (told us x), (uses us x).1.ended, uses us x) := by
  intro x
  constructor
  · intro us own uncrowded
    have held : Held x _ := held_ofRequest (Session.sound_run settings ms) sent shape
    exact (account_ofRequest _ id kind shape _).consumed held own uncrowded
  · intro polls own
    obtain ⟨us, others, same⟩ := drains_eq polls x rfl
    refine ⟨us, others, fun m mem => ?_, same⟩
    have moved : m ∈ us.filterMap Use.other? := List.mem_filterMap.mpr ⟨.other m, mem, rfl⟩
    obtain ⟨poll, among, move⟩ := List.mem_flatMap.mp (others.subset moved)
    exact own poll among m move

/-- A stream of texts. -/
def words : Stream String × Session :=
  (ofRequest "words" .text,
    ((Session.run [] (.start ⟨5, none, 2⟩)).send "words" none .storage .null).2)

/-- A text comes, and then something that is no text. -/
def spoken : List Session.Move :=
  Session.hears (.item "words" (.text "one")) ++ Session.hears (.item "words" (.bool true))

def listening : List Use := spoken.map .other ++ [.next, .next, .next]

theorem words_consumed :
    told listening words = ahead 3 (sequence listening words) ∧
      sequence listening words = [.item "one",
        .failed (.decode "words" (.value (.wrongType (.bool true) "a string")))] ∧
      gather (elements (told listening words)) =
        .error (.decode "words" (.value (.wrongType (.bool true) "a string"))) ∧
      ∃ us, us.filterMap Use.other? <+: [(spoken, 9)].flatMap Prod.fst ∧ Owned "words" us ∧
        drains [(spoken, 9)] words =
          (elements (told us words), (uses us words).1.ended, uses us words) := by
  have quiet : ∀ m ∈ spoken, m.caller? ≠ some "words" := by
    intro m mem
    rcases List.mem_append.mp mem with first | second
    · exact owned_hears "words" _ m (List.mem_map_of_mem first)
    · exact owned_hears "words" _ m (List.mem_map_of_mem second)
  have own : Owned "words" listening := by
    intro m mem
    have moved : m ∈ spoken := by simpa [listening] using mem
    exact quiet m moved
  obtain ⟨length, whole, ended, kept⟩ : (told listening words).length = 3 ∧
      sequence listening words = [.item "one",
        .failed (.decode "words" (.value (.wrongType (.bool true) "a string")))] ∧
      (uses listening words).1.ended = true ∧ Uncrowded listening words := by
    decide +kernel
  have both := typed_sequence .text ⟨5, none, 2⟩ [] "words" none .storage .null rfl
  have consumed : Consumed listening words := both.1 listening own kept
  refine ⟨?_, whole, ?_, both.2 [(spoken, 9)] ?_⟩
  · rw [← length]
    exact consumed.pulled
  · rw [consumed.collects ended, whole]
    rfl
  · simpa using quiet

end Backchannel.Stream
