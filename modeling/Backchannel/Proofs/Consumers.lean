/-
# Backchannel.Proofs.Consumers -- who reads from a typed stream

A stream is pulled from one element at a time; it is drained whenever something may be there,
which is how a stream of elements is handed on and a collection is made; and a call for one
result looks at what comes first.  All of them pull in the end: drains are so many pulls, one
after the other (`drains_eq`).

`sequence` is what a run leaves to read from a stream, whoever reads it: the items that came
for its request, in the shape of the stream, up to the first that has it not, and behind them
how the request was resolved.
-/
import Backchannel.Proofs.Release
import Backchannel.Proofs.Session.Resolution
import Backchannel.Proofs.Supply

namespace Backchannel

set_option autoImplicit false

open Backchannel.Json (Decoder Value)

/-! ## Sequences -/

/-- What a caller is told when it has pulled all items, given how its request was resolved. -/
def lastPulled {α : Type} : Option Closure → Pulled α
  | none => .pending
  | some .finished => .finished
  | some (.failed e) => .failed e

namespace Pulled

variable {α : Type}

/-- What a pull brings that does not have to be made again. -/
def ready? : Pulled α → Option (Pulled α)
  | .pending => none
  | got => some got

def item? : Pulled α → Option α
  | .item a => some a
  | _ => none

def error? : Pulled α → Option CallError
  | .failed e => some e
  | _ => none

end Pulled

namespace Stream

variable {α : Type}

/-- Items read in a shape up to the first that has not that shape, and if all have it, what
comes behind them. -/
def readAll (id : RequestId) (shape : Decoder α) (last : Pulled α) : List Value → List (Pulled α)
  | [] => [last]
  | v :: rest =>
    match shape.ofValue v with
    | .ok a => .item a :: readAll id shape last rest
    | .error how => [.failed (.decode id (.value how))]

/-- What a collection of some results comes to: all items, or the first error. -/
def collected (results : List (Pulled α)) : Except CallError (List α) :=
  match results.findSome? Pulled.error? with
  | some e => .error e
  | none => .ok (results.filterMap Pulled.item?)

/-- What a call for one result answers that is told these results. -/
def answer : List (Pulled α) → Option (Except CallError (Option α))
  | .pending :: _ => none
  | .item a :: _ => some (.ok (some a))
  | .failed e :: _ => some (.error e)
  | .finished :: _ | [] => some (.ok none)

variable {id : RequestId} {shape : Decoder α} {last : Pulled α} {vs : List Value} {as : List α}

/-- These items have the shape, and are read so. -/
def Fit (shape : Decoder α) (vs : List Value) (as : List α) : Prop :=
  vs.map shape.ofValue = as.map .ok

/-- One of these items has not the shape. -/
def Misfit (shape : Decoder α) (vs : List Value) : Prop :=
  ∃ v ∈ vs, ∃ how, shape.ofValue v = .error how

theorem readAll_of_fit (fit : Fit shape vs as) (ws : List Value) :
    readAll id shape last (vs ++ ws) = as.map .item ++ readAll id shape last ws := by
  induction vs generalizing as with
  | nil =>
    cases as with
    | nil => rfl
    | cons a as => cases fit
  | cons v vs ih =>
    cases as with
    | nil => cases fit
    | cons a as =>
      obtain ⟨read, fit⟩ := List.cons.inj fit
      have rest := ih fit
      simp only [List.cons_append, List.map_cons, readAll, read, rest]

theorem readAll_length_pos (id : RequestId) (shape : Decoder α) (last : Pulled α)
    (vs : List Value) : 0 < (readAll id shape last vs).length := by
  cases vs with
  | nil => exact Nat.one_pos
  | cons v vs =>
    rw [readAll]
    split <;> exact Nat.succ_pos _

theorem readAll_length_le (id : RequestId) (shape : Decoder α) (last : Pulled α)
    (vs : List Value) : (readAll id shape last vs).length ≤ vs.length + 1 := by
  induction vs with
  | nil => exact Nat.le_refl 1
  | cons v vs ih =>
    rw [readAll]
    split
    · exact Nat.succ_le_succ ih
    · exact Nat.succ_le_succ (Nat.zero_le _)

/-- Nothing that comes behind an item of another shape is read. -/
theorem readAll_of_misfit (misfit : Misfit shape vs) (last' : Pulled α) (ws : List Value) :
    readAll id shape last (vs ++ ws) = readAll id shape last' vs := by
  induction vs with
  | nil =>
    obtain ⟨v, among, -⟩ := misfit
    cases among
  | cons v vs ih =>
    simp only [List.cons_append, readAll]
    cases read : shape.ofValue v with
    | error how => rfl
    | ok a =>
      have later : Misfit shape vs := by
        obtain ⟨w, among, how, fails⟩ := misfit
        cases among with
        | head =>
          rw [read] at fails
          cases fails
        | tail _ among => exact ⟨w, among, how, fails⟩
      exact congrArg (.item a :: ·) (ih later)

/-- Nor anything that comes behind all items, if one is of another shape. -/
theorem readAll_of_ready (ready : .pending ∉ readAll id shape .pending vs) :
    readAll id shape last vs = readAll id shape .pending vs := by
  induction vs with
  | nil => simp [readAll] at ready
  | cons v vs ih =>
    simp only [readAll] at ready ⊢
    cases read : shape.ofValue v with
    | error how => rfl
    | ok a =>
      rw [read] at ready
      exact congrArg (.item a :: ·) (ih fun among => ready (List.mem_cons_of_mem _ among))

theorem Fit.snoc (fit : Fit shape vs as) {v : Value} {a : α} (read : shape.ofValue v = .ok a) :
    Fit shape (vs ++ [v]) (as ++ [a]) := by
  have both : vs.map shape.ofValue = as.map .ok := fit
  simp [Fit, both, read]

/-! ## What is made of a sequence -/

theorem elements_items (as : List α) (rest : List (Pulled α)) :
    elements (as.map .item ++ rest) = as.map .ok ++ elements rest := by
  induction as with
  | nil => rfl
  | cons a as ih => exact congrArg (.ok a :: ·) ih

/-- The elements of some results are those up to the first that is none. -/
theorem elements_of_over (isOver : last.isOver = true) (as : List α) (rest : List (Pulled α)) :
    elements (as.map .item ++ last :: rest) = elements (as.map .item ++ [last]) := by
  rw [elements_items, elements_items]
  cases last with
  | finished | failed => rfl
  | pending | item => cases isOver

theorem gather_ok (as : List α) (rest : List (Except CallError α)) :
    gather (as.map .ok ++ rest) = (gather rest).map (as ++ ·) := by
  induction as with
  | nil =>
    change gather rest = (gather rest).map ([] ++ ·)
    cases gather rest <;> rfl
  | cons a as ih =>
    change (gather (as.map .ok ++ rest)).map (a :: ·) = _
    rw [ih]
    cases gather rest <;> rfl

/-- A collection of the elements of a sequence. -/
theorem gather_elements (isOver : last.isOver = true) (as : List α) :
    gather (elements (as.map .item ++ [last])) = collected (as.map .item ++ [last]) := by
  rw [elements_items, gather_ok]
  have noError : (as.map Pulled.item).findSome? Pulled.error? = none := by simp [Pulled.error?]
  have items : (as.map Pulled.item).filterMap Pulled.item? = as := by
    rw [List.filterMap_map]
    exact List.filterMap_some
  rw [collected, List.findSome?_append, noError, List.filterMap_append, items]
  cases last with
  | pending | item => cases isOver
  | finished => rfl
  | failed e => rfl

/-! ## What a run tells of a stream -/

/-- The move that a turn is for the session.  A stream that has ended does not pull. -/
def move? (x : Stream α × Session) : Use → Option Session.Move
  | .next => if x.1.ended then none else some (.recv x.1.id)
  | .other m => some m

/-- The step that a turn adds to those of the session. -/
def added (x : Stream α × Session) (u : Use) : List Session.Step :=
  ((move? x u).map (Session.Step.mk x.2)).toList

def moves : List Use → Stream α × Session → List Session.Move
  | [], _ => []
  | u :: us, x => (move? x u).toList ++ moves us (use x u)

/-- What the session does in these turns, step by step. -/
def trace (us : List Use) (x : Stream α × Session) : List Session.Step :=
  Session.steps (moves us x) x.2

/-- What a turn brings to the caller, unless he has to ask again. -/
def got? (x : Stream α × Session) : Use → Option (Pulled α)
  | .next => (x.1.next (Session.recv x.1.id) x.2).1.ready?
  | .other _ => none

/-- What the pulls brought that found something. -/
def told : List Use → Stream α × Session → List (Pulled α)
  | [], _ => []
  | u :: us, x => (got? x u).toList ++ told us (use x u)

/-- What there is to read from a stream: the items that came for its request, in its shape, and
then how the request was resolved. -/
def sequenceIn (id : RequestId) (shape : Decoder α) (t : List Session.Step) : List (Pulled α) :=
  readAll id shape (lastPulled (Session.resolution id t)) (Session.routed id t)

def sequence (us : List Use) (x : Stream α × Session) : List (Pulled α) :=
  sequenceIn x.1.id x.1.shape (trace us x)

/-- Nothing is dropped from the mailbox of the stream. -/
def Uncrowded : List Use → Stream α × Session → Prop
  | [], _ => True
  | u :: us, x =>
    (∀ box ∈ (use x u).2.mailboxOf? x.1.id, box.dropped = 0) ∧ Uncrowded us (use x u)

instance decidableUncrowded : (us : List Use) → (x : Stream α × Session) →
    Decidable (Uncrowded us x)
  | [], _ => inferInstanceAs (Decidable True)
  | u :: us, x =>
    have := decidableUncrowded us (use x u)
    inferInstanceAs (Decidable (_ ∧ _))

variable {x : Stream α × Session} {us : List Use}

theorem trace_cons (u : Use) (us : List Use) (x : Stream α × Session) :
    trace (u :: us) x = added x u ++ trace us (use x u) := by
  cases u with
  | other m => rfl
  | next =>
    cases ended : x.1.ended with
    | true => simp [trace, moves, added, move?, use_next_of_ended ended, ended]
    | false =>
      have after : (use x .next).2 = x.2.step (.recv x.1.id) := by
        rw [use_next ended, Session.step_recv]
      simp [trace, moves, added, move?, ended, after]

theorem told_append (us ws : List Use) (x : Stream α × Session) :
    told (us ++ ws) x = told us x ++ told ws (uses us x) := by
  induction us generalizing x with
  | nil => rfl
  | cons u us ih =>
    rw [List.cons_append, told, ih, told, List.append_assoc]
    rfl

theorem told_others (ms : List Session.Move) (x : Stream α × Session) :
    told (ms.map .other) x = [] ∧ uses (ms.map .other) x = (x.1, Session.run ms x.2) := by
  induction ms generalizing x with
  | nil => exact ⟨rfl, rfl⟩
  | cons m ms ih => exact ih (x.1, x.2.step m)

theorem uses_append (us ws : List Use) (x : Stream α × Session) :
    uses (us ++ ws) x = uses ws (uses us x) :=
  List.foldl_append

theorem ended_uses (ended : x.1.ended = true) : (uses us x).1.ended = true := by
  induction us generalizing x with
  | nil => exact ended
  | cons u us ih =>
    cases u with
    | other m => exact ih (x := (x.1, x.2.step m)) ended
    | next =>
      change (uses us (use x .next)).1.ended = true
      rw [use_next_of_ended ended]
      exact ih ended

theorem ended_next (opened : x.1.ended = false) :
    (use x .next).1.ended = (x.1.next (Session.recv x.1.id) x.2).1.isOver := by
  simp [use, next, opened]

/-- A stream that has not ended has told only items. -/
theorem told_of_opened (opened : (uses us x).1.ended = false) :
    ∃ as : List α, told us x = as.map .item := by
  induction us generalizing x with
  | nil => exact ⟨[], rfl⟩
  | cons u us ih =>
    obtain ⟨as, rest⟩ := ih (x := use x u) opened
    cases u with
    | other m => exact ⟨as, rest⟩
    | next =>
      have before : x.1.ended = false := by
        refine Bool.eq_false_iff.mpr fun ended => ?_
        rw [ended_uses ended] at opened
        cases opened
      have after : (use x .next).1.ended = false := by
        refine Bool.eq_false_iff.mpr fun ended => ?_
        have still : (uses us (use x .next)).1.ended = true := ended_uses ended
        exact absurd (still.symm.trans opened) Bool.noConfusion
      rw [ended_next before] at after
      rw [told, rest, got?]
      cases first : (x.1.next (Session.recv x.1.id) x.2).1 with
      | pending => exact ⟨as, rfl⟩
      | item a => exact ⟨a :: as, rfl⟩
      | finished | failed =>
        rw [first] at after
        cases after

theorem trace_append (us ws : List Use) (x : Stream α × Session) :
    trace (us ++ ws) x = trace us x ++ trace ws (uses us x) := by
  induction us generalizing x with
  | nil => rfl
  | cons u us ih =>
    rw [List.cons_append, trace_cons, ih, trace_cons, List.append_assoc]
    rfl

/-! ## Drains -/

/-- A drain is a pull, and after an element a drain again. -/
theorem drain_succ (x : Stream α × Session) (fuel : Nat) :
    x.1.drain (Session.recv x.1.id) (fuel + 1) x.2 =
      match (x.1.next (Session.recv x.1.id) x.2).1 with
      | .pending => ([], false, use x .next)
      | .finished => ([], true, use x .next)
      | .failed e => ([.error e], true, use x .next)
      | .item a =>
        let (rest, ended, y) :=
          (use x .next).1.drain (Session.recv x.1.id) fuel (use x .next).2
        (.ok a :: rest, ended, y) := by
  rw [drain]
  rcases next : x.1.next (Session.recv x.1.id) x.2 with ⟨got, stream, session⟩
  have after : use x .next = (stream, session) := congrArg Prod.snd next
  rw [after]
  cases got <;> rfl

/-- A drain is so many pulls. -/
theorem drain_eq (x : Stream α × Session) (opened : x.1.ended = false) (fuel : Nat) :
    ∃ count, x.1.drain (Session.recv x.1.id) fuel x.2 =
      (elements (told (List.replicate count .next) x),
        (uses (List.replicate count .next) x).1.ended, uses (List.replicate count .next) x) := by
  induction fuel generalizing x with
  | zero => exact ⟨0, by rw [List.replicate_zero, uses, List.foldl_nil, opened]; rfl⟩
  | succ fuel ih =>
    have after := ended_next opened
    rw [drain_succ]
    cases first : (x.1.next (Session.recv x.1.id) x.2).1 with
    | pending | finished | failed =>
      rw [first] at after
      refine ⟨1, ?_⟩
      change _ = (elements ((got? x .next).toList ++ []), (use x .next).1.ended, use x .next)
      rw [got?, first, after]
      rfl
    | item a =>
      rw [first] at after
      obtain ⟨count, rest⟩ := ih (use x .next) after
      rw [use_id] at rest
      refine ⟨count + 1, ?_⟩
      rw [List.replicate_succ, told, got?, first]
      simp only [rest]
      rfl

/-- Who drains a stream again and again, others making some moves before each drain, until one
comes to its end: the elements, whether it is the end, and what is left.  A number says how
often the drain may pull. -/
def drains :
    List (List Session.Move × Nat) → Stream α × Session →
      List (Except CallError α) × Bool × Stream α × Session
  | [], x => ([], false, x)
  | (ms, fuel) :: polls, x =>
    match x.1.drain (Session.recv x.1.id) fuel (Session.run ms x.2) with
    | (got, true, y) => (got, true, y)
    | (got, false, y) =>
      let (rest, ended, z) := drains polls y
      (got ++ rest, ended, z)

/-- What someone else does in a turn. -/
def Use.other? : Use → Option Session.Move
  | .next => none
  | .other m => some m

theorem others_poll (ms : List Session.Move) (count : Nat) (us : List Use) :
    (ms.map Use.other ++ List.replicate count Use.next ++ us).filterMap Use.other? =
      ms ++ us.filterMap Use.other? := by
  have own : (List.replicate count Use.next).filterMap Use.other? = [] := by
    simp [List.filterMap_replicate, Use.other?]
  have moved : (ms.map Use.other).filterMap Use.other? = ms := by
    rw [List.filterMap_map]
    exact List.filterMap_some
  rw [List.filterMap_append, List.filterMap_append, own, moved, List.append_nil]

/-- Repeated drains are pulls, too. -/
theorem drains_eq (polls : List (List Session.Move × Nat)) (x : Stream α × Session)
    (opened : x.1.ended = false) :
    ∃ us, us.filterMap Use.other? <+: polls.flatMap Prod.fst ∧
      drains polls x = (elements (told us x), (uses us x).1.ended, uses us x) := by
  induction polls generalizing x with
  | nil => exact ⟨[], List.nil_prefix, by rw [uses, List.foldl_nil, opened]; rfl⟩
  | cons poll polls ih =>
    obtain ⟨ms, fuel⟩ := poll
    obtain ⟨quiet, moved⟩ := told_others ms x
    obtain ⟨count, drain⟩ := drain_eq (x.1, Session.run ms x.2) opened fuel
    let first := ms.map Use.other ++ List.replicate count .next
    have after : uses (List.replicate count .next) (x.1, Session.run ms x.2) = uses first x := by
      rw [uses_append, moved]
    have heard : told (List.replicate count .next) (x.1, Session.run ms x.2) = told first x := by
      rw [told_append, quiet, moved]
      rfl
    rw [after, heard] at drain
    rw [drains, drain]
    cases ended : (uses first x).1.ended with
    | true =>
      have others := others_poll ms count []
      rw [List.append_nil, List.filterMap_nil, List.append_nil] at others
      exact ⟨first, others ▸ List.prefix_append ms _, by rw [ended]⟩
    | false =>
      obtain ⟨us, others, rest⟩ := ih (uses first x) ended
      obtain ⟨as, items⟩ := told_of_opened ended
      refine ⟨first ++ us, ?_, ?_⟩
      · rw [others_poll]
        exact List.prefix_append_right_inj ms |>.mpr others
      · have all : elements (as.map Pulled.item) = as.map .ok := by
          simpa [elements] using elements_items as []
        simp only [rest, told_append, uses_append, items, elements_items, all]

end Stream

end Backchannel
