/-
# Backchannel.Proofs.Release -- when a stream has ended, its entry is gone

A typed stream ends in one of two places.  An end or an error of its source concludes the
subscription, and the entry goes with it.  An element that has not the shape of the
stream ends the stream alone: the subscription knows nothing of it and waits on, so the
entry stays until something else resolves the request (`outstanding_after_end`).

A stream and its session take turns as in `Stream.uses`: the stream pulls, and in between
anyone moves, but for moves that are the caller's own.  A timed stream does to its session
what its stream does.
-/
import Backchannel.Plugin.Basic
import Backchannel.Proofs.Session.Turn

namespace Backchannel

set_option autoImplicit false

open Backchannel.Json (Decoder Value)

namespace Stream

variable {α : Type}

/-- What happens to a stream and its session in one turn. -/
inductive Use where
  /-- The caller pulls the next element. -/
  | next
  /-- Someone moves. -/
  | other (m : Session.Move)

def use (x : Stream α × Session) : Use → Stream α × Session
  | .next => (x.1.next (Session.recv x.1.id) x.2).2
  | .other m => (x.1, x.2.step m)

def uses (us : List Use) (x : Stream α × Session) : Stream α × Session := us.foldl use x

/-- No one but the stream makes the moves of its caller. -/
def Owned (id : RequestId) (us : List Use) : Prop := ∀ m, .other m ∈ us → m.caller? ≠ some id

/-- The caller of an open stream waits. -/
structure Held (x : Stream α × Session) (t : Ticket) : Prop where
  sound : x.2.Sound
  ticket : x.2.ticket? x.1.id = some t
  waits : x.1.ended = false → t.sub.done = false

variable {x : Stream α × Session} {t : Ticket} {id : RequestId} {us : List Use} {u : Use}

/-! ## One turn -/

theorem use_id (x : Stream α × Session) (u : Use) : (use x u).1.id = x.1.id := by
  cases u with
  | other m => rfl
  | next =>
    simp only [use, next]
    split <;> rfl

/-- What a pull does that is not the first after the end. -/
theorem use_next (opened : x.1.ended = false) :
    use x .next = ({ x.1 with ended := (typed x.1.id x.1.shape (x.2.recv x.1.id).1).isOver },
      (x.2.recv x.1.id).2) := by
  simp [use, next, opened]

theorem use_next_of_ended (ended : x.1.ended = true) : use x .next = x := by
  simp [use, next, ended]

/-- A stream that ended leaves its subscription alone. -/
theorem Held.use_of_ended (h : Held x t) (ended : x.1.ended = true)
    (own : ∀ m, u = .other m → m.caller? ≠ some x.1.id) :
    ∃ t', Held (use x u) t' ∧ (use x u).1.ended = true ∧ t'.sub = t.sub := by
  cases u with
  | next =>
    rw [use_next_of_ended ended]
    exact ⟨t, h, ended, rfl⟩
  | other m =>
    obtain ⟨t', ticket, sub⟩ := h.sound.step_sub (own m rfl) h.ticket
    refine ⟨t', ⟨(h.sound.step m).toSound, ticket, fun opened => ?_⟩, ended, sub⟩
    rw [use, ended] at opened
    cases opened

/-- What a pull brings to a stream that has not ended. -/
theorem Held.next_fst (h : Held x t) (opened : x.1.ended = false) :
    (x.1.next (Session.recv x.1.id) x.2).1 =
      typed x.1.id x.1.shape (t.pull x.1.id x.2.now).1 := by
  simp [next, opened, Session.recv_eq h.ticket]

theorem typed_isOver {shape : Decoder α} {raw : Pulled Value} (isOver : raw.isOver = true) :
    (typed id shape raw).isOver = true := by
  cases raw with
  | finished => rfl
  | failed e => rfl
  | item v => cases isOver
  | pending => cases isOver

theorem Held.next (h : Held x t) (opened : x.1.ended = false) :
    Held (use x .next) (t.pull x.1.id x.2.now).2 := by
  have pulled := h.sound.recv x.1.id
  refine ⟨?_, ?_, ?_⟩
  · rw [use_next opened]
    exact pulled.toSound
  · rw [use_id, use_next opened, pulled.ticket, h.ticket, if_pos rfl]
    rfl
  · rw [use_next opened, Ticket.pull_done (h.waits opened), Session.recv_eq h.ticket]
    intro more
    cases isOver : (t.pull x.1.id x.2.now).1.isOver with
    | false => rfl
    | true =>
      rw [typed_isOver isOver] at more
      cases more

/-- A stream that ends leaves its subscription waiting if an element has not its shape,
and only then. -/
theorem Held.ending (h : Held x t) (opened : x.1.ended = false)
    (isOver : (x.1.next (Session.recv x.1.id) x.2).1.isOver = true) :
    (t.pull x.1.id x.2.now).2.sub.done = false ↔
      ∃ how, (x.1.next (Session.recv x.1.id) x.2).1 = .failed (.decode x.1.id how) := by
  rw [h.next_fst opened] at isOver ⊢
  rw [Ticket.pull_done (h.waits opened)]
  have plain := t.pull_ne_decode x.1.id x.2.now
  generalize (t.pull x.1.id x.2.now).1 = raw at isOver plain ⊢
  cases raw with
  | pending => cases isOver
  | finished =>
    constructor
    · intro waits
      cases waits
    · rintro ⟨how, same⟩
      cases same
  | failed e =>
    constructor
    · intro waits
      cases waits
    · rintro ⟨how, same⟩
      obtain rfl : e = .decode x.1.id how := by simpa [typed] using same
      exact absurd rfl (plain x.1.id how)
  | item v =>
    refine ⟨fun _ => ?_, fun _ => rfl⟩
    simp only [typed] at isOver ⊢
    split
    · rename_i a fits
      simp [fits, Pulled.isOver] at isOver
    · exact ⟨_, rfl⟩

/-! ## Many turns -/

theorem Owned.head (own : Owned id (u :: us)) : ∀ m, u = .other m → m.caller? ≠ some id := by
  rintro m rfl
  exact own m List.mem_cons_self

theorem Owned.tail (own : Owned id (u :: us)) : Owned id us :=
  fun m mem => own m (List.mem_cons_of_mem u mem)

theorem Owned.split {ws : List Use} (own : Owned id (us ++ ws)) : Owned id us ∧ Owned id ws :=
  ⟨fun m mem => own m (List.mem_append_left ws mem),
    fun m mem => own m (List.mem_append_right us mem)⟩

theorem uses_id (us : List Use) (x : Stream α × Session) : (uses us x).1.id = x.1.id := by
  induction us generalizing x with
  | nil => rfl
  | cons u us ih => exact (ih (use x u)).trans (use_id x u)

theorem Held.uses (h : Held x t) (own : Owned x.1.id us) : ∃ t', Held (uses us x) t' := by
  induction us generalizing x t with
  | nil => exact ⟨t, h⟩
  | cons u us ih =>
    have rest : Owned (use x u).1.id us := by
      rw [use_id]
      exact own.tail
    cases ended : x.1.ended with
    | true =>
      obtain ⟨t', next, -⟩ := h.use_of_ended ended own.head
      exact ih next rest
    | false =>
      cases u with
      | next => exact ih (h.next ended) rest
      | other m =>
        obtain ⟨t', ticket, sub⟩ := h.sound.step_sub (own.head m rfl) h.ticket
        have next : Held (use x (.other m)) t' :=
          ⟨(h.sound.step m).toSound, ticket, fun opened => sub ▸ h.waits opened⟩
        exact ih next rest

theorem Held.uses_of_ended (h : Held x t) (ended : x.1.ended = true) (own : Owned x.1.id us) :
    ∃ t', Held (Stream.uses us x) t' ∧ t'.sub = t.sub := by
  induction us generalizing x t with
  | nil => exact ⟨t, h, rfl⟩
  | cons u us ih =>
    obtain ⟨t', next, still, same⟩ := h.use_of_ended ended own.head
    obtain ⟨last, held, sub⟩ := ih next still (by rw [use_id]; exact own.tail)
    exact ⟨last, held, sub.trans same⟩

theorem Held.isOutstanding_iff (h : Held x t) :
    x.2.isOutstanding x.1.id = true ↔
      t.sub.done = false ∧ ∃ box, x.2.mailboxOf? x.1.id = some box ∧ box.closure = none := by
  rw [h.sound.toRegistered.isOutstanding_iff, Session.mailboxOf?_eq, h.ticket]
  simp [Ticket.isOpen_iff]

/-- The caller of a request that was just made waits. -/
theorem held_ofRequest {s : Session} (sound : s.Sound) {sessionId : Option String} {kind : Kind}
    {payload : Value} (sent : (s.send id sessionId kind payload).1 = .ok ()) (shape : Decoder α) :
    Held (ofRequest id shape, (s.send id sessionId kind payload).2) (s.newTicket id kind) := by
  have turns := sound.send id sessionId kind payload
  refine ⟨turns.toSound, (turns.ticket id).trans ?_, fun _ => rfl⟩
  cases status : s.status.isClosed with
  | true =>
    rw [Session.send_of_closed status] at sent
    cases sent
  | false => simp [Turn.apply]

/-- What a timed stream does, its stream does. -/
theorem pull_eq_next (p : Plugin) (z : Stream Value) (timed : Bool) :
    (p.pull z.id z timed).1 = (z.next (Session.recv z.id) p.session).1 ∧
      (p.pull z.id z timed).2.session = (use (z, p.session) .next).2 ∧
      (p.pull z.id z timed).2.held.get? z.id =
        some (.stream (use (z, p.session) .next).1 timed) := by
  cases isOver : (z.next (Session.recv z.id) p.session).1.isOver with
  | false => simp [Plugin.pull, use, isOver, Plugin.hold]
  | true => simp [Plugin.pull, use, isOver, Plugin.hold]

/-- When a stream has ended, its entry is gone, but for one case: an element had not the
shape of the stream, and nothing has closed the mailbox since.  The same goes for a timed
stream, which does to its session what its stream does. -/
theorem outstanding_after_end (shape : Decoder α) (settings : Settings) (ms : List Session.Move)
    (id : RequestId) (sessionId : Option String) (kind : Kind) (payload : Value)
    (sent : ((Session.run ms (.start settings)).send id sessionId kind payload).1 = .ok ())
    (us ws : List Use) (own : Owned id (us ++ ws)) :
    (let opened := ((Session.run ms (.start settings)).send id sessionId kind payload).2
      let before := uses us (ofRequest id shape, opened)
      let got := (before.1.next (Session.recv id) before.2).1
      let after := uses ws (use before .next)
      before.1.ended = false → got.isOver = true →
        (after.2.isOutstanding id = true ↔
          (∃ how, got = .failed (.decode id how)) ∧
            ∃ box, after.2.mailboxOf? id = some box ∧ box.closure = none)) ∧
      ∀ (p : Plugin) (z : Stream Value) (timed : Bool),
        (p.pull z.id z timed).1 = (z.next (Session.recv z.id) p.session).1 ∧
          (p.pull z.id z timed).2.session = (use (z, p.session) .next).2 ∧
          (p.pull z.id z timed).2.held.get? z.id =
            some (.stream (use (z, p.session) .next).1 timed) := by
  refine ⟨?_, pull_eq_next⟩
  intro opened before got after waits isOver
  have named : before.1.id = id := uses_id us _
  have named' : after.1.id = id := (uses_id ws _).trans ((use_id before .next).trans named)
  obtain ⟨ownBefore, ownAfter⟩ := own.split
  obtain ⟨t, held⟩ := (held_ofRequest (Session.sound_run settings ms) sent shape).uses ownBefore
  have ending := held.ending waits
  rw [named] at ending
  have ended : (use before .next).1.ended = true := by
    rw [use_next waits]
    have first := held.next_fst waits
    rw [Session.recv_eq held.ticket, ← first, named]
    exact isOver
  obtain ⟨last, final, sub⟩ :=
    (held.next waits).uses_of_ended ended (by rw [use_id, named]; exact ownAfter)
  have outstanding := final.isOutstanding_iff
  rw [named', sub, named, ending isOver] at outstanding
  exact outstanding

theorem owned_hears (id : RequestId) (r : Response) : Owned id ((Session.hears r).map .other) := by
  intro m mem
  simp only [Session.hears, List.mem_map] at mem
  obtain ⟨_, ⟨b, -, rfl⟩, same⟩ := mem
  cases same
  simp [Session.Move.caller?]

/-- A stream of texts, for which something comes that is no text. -/
def misfit : Stream String × Session :=
  uses ((Session.hears (.item "words" (.bool true))).map .other)
    (ofRequest "words" .text,
      ((Session.run [] (.start ⟨5, none, 1⟩)).send "words" none .storage .null).2)

theorem misfit_outstanding :
    misfit.1.ended = false ∧
      (misfit.1.next (Session.recv "words") misfit.2).1 =
        .failed (.decode "words" (.value (.wrongType (.bool true) "a string"))) ∧
      (use misfit .next).2.isOutstanding "words" = true := by
  obtain ⟨waits, got, left⟩ : misfit.1.ended = false ∧
      (misfit.1.next (Session.recv "words") misfit.2).1 =
        .failed (.decode "words" (.value (.wrongType (.bool true) "a string"))) ∧
      (use misfit .next).2.mailboxOf? "words" = some ⟨"words", 1, [], 0, none⟩ := by
    decide +kernel
  have isOver : (misfit.1.next (Session.recv "words") misfit.2).1.isOver = true := by
    rw [got]
    rfl
  have own : Owned "words" ((Session.hears (.item "words" (.bool true))).map .other ++ []) := by
    rw [List.append_nil]
    exact owned_hears "words" _
  have stays : (use misfit .next).2.isOutstanding "words" = true ↔ _ :=
    (outstanding_after_end .text ⟨5, none, 1⟩ [] "words" none .storage .null rfl _ [] own).1 waits
      isOver
  exact ⟨waits, got, stays.mpr ⟨⟨_, got⟩, _, left, rfl⟩⟩

end Stream

end Backchannel
