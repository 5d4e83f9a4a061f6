/-
# Backchannel.Proofs.Supply -- what a source brings

Typed streams, collections and calls for one result know nothing of their source but what
its pulls bring.  `Supplies` says what that is: some results, one by one, and then only the
end.  A typed stream is a source itself, and brings the results of its own source read in
its shape, up to the first that does not fit (`Supplies.typed`).
-/
import Backchannel.Http.Client

namespace Backchannel

set_option autoImplicit false

open Backchannel.Json (Decoder Value)
open Backchannel.Http (pullTimes)

variable {α β σ τ : Type}

/-- The next results, where after the given ones there is only the end. -/
def ahead : Nat → List (Pulled α) → List (Pulled α)
  | 0, _ => []
  | count + 1, results => results.headD .finished :: ahead count results.tail

/-- The next results are those that are given, as far as they go. -/
theorem ahead_length_append (results rest : List (Pulled α)) :
    ahead results.length (results ++ rest) = results := by
  induction results with
  | nil => rfl
  | cons got results ih => exact congrArg (got :: ·) ih

theorem ahead_nil (count : Nat) :
    ahead count ([] : List (Pulled α)) = List.replicate count .finished := by
  induction count with
  | zero => rfl
  | succ count ih => exact congrArg (.finished :: ·) ih

theorem ahead_add_length (results : List (Pulled α)) (count : Nat) :
    ahead (results.length + count) results = results ++ List.replicate count .finished := by
  induction results with
  | nil => rw [List.length_nil, Nat.zero_add, ahead_nil, List.nil_append]
  | cons got results ih =>
    rw [List.length_cons, Nat.succ_add]
    exact congrArg (got :: ·) ih

/-- Results up to the first behind which there is nothing. -/
def untilOver : List (Pulled α) → List (Pulled α)
  | [] => []
  | got :: rest => if got.isOver then [got] else got :: untilOver rest

theorem untilOver_of_over {got : Pulled α} (ends : got.isOver = true)
    (rest : List (Pulled α)) : untilOver (got :: rest) = [got] :=
  if_pos ends

theorem untilOver_of_item {got : Pulled α} (ends : got.isOver = false)
    (rest : List (Pulled α)) : untilOver (got :: rest) = got :: untilOver rest := by
  rw [untilOver, ends]
  rfl

theorem untilOver_isPrefix (results : List (Pulled α)) : untilOver results <+: results := by
  induction results with
  | nil => exact List.nil_prefix
  | cons got rest ih =>
    cases ends : got.isOver with
    | true =>
      rw [untilOver_of_over ends]
      exact ⟨rest, rfl⟩
    | false =>
      rw [untilOver_of_item ends]
      exact List.prefix_cons_iff.mpr (.inr ⟨_, rfl, ih⟩)

theorem untilOver_map {f : Pulled α → Pulled α} (same : ∀ got, (f got).isOver = got.isOver)
    (results : List (Pulled α)) : untilOver (results.map f) = (untilOver results).map f := by
  induction results with
  | nil => rfl
  | cons got rest ih =>
    cases ends : got.isOver with
    | true =>
      rw [List.map_cons, untilOver_of_over ends, untilOver_of_over ((same got).trans ends)]
      rfl
    | false =>
      rw [List.map_cons, untilOver_of_item ends, untilOver_of_item ((same got).trans ends), ih]
      rfl

/-- Behind the given results there is the end, whether or not it is given as well. -/
theorem ahead_finished (count : Nat) (results : List (Pulled α)) :
    ahead count (untilOver (results ++ [.finished])) = ahead count (untilOver results) := by
  induction count generalizing results with
  | zero => rfl
  | succ count ih =>
    cases results with
    | nil => rfl
    | cons got rest =>
      rw [List.cons_append]
      cases ends : got.isOver with
      | true => rw [untilOver_of_over ends, untilOver_of_over ends]
      | false =>
        rw [untilOver_of_item ends, untilOver_of_item ends]
        exact congrArg (got :: ·) (ih rest)

/-- The pulls from a source bring these results, and then only the end. -/
def Supplies (pull : σ → Pulled α × σ) (source : σ) (results : List (Pulled α)) : Prop :=
  ∀ count, (pullTimes pull count source).1 = ahead count results

section

variable {pull : σ → Pulled α × σ} {source : σ} {results : List (Pulled α)}

theorem Supplies.first (h : Supplies pull source results) :
    (pull source).1 = results.headD .finished :=
  (List.cons.inj (h 1)).1

theorem Supplies.rest (h : Supplies pull source results) :
    Supplies pull (pull source).2 results.tail :=
  fun count => (List.cons.inj (h (count + 1))).2

/-- What is so of a source and its results, and stays so with every pull that brings the first
of them, says what the source supplies. -/
theorem Supplies.of_step (Fits : σ → List (Pulled α) → Prop)
    (step : ∀ source results, Fits source results →
      (pull source).1 = results.headD .finished ∧ Fits (pull source).2 results.tail)
    (fits : Fits source results) : Supplies pull source results := by
  intro count
  induction count generalizing source results with
  | zero => rfl
  | succ count ih =>
    obtain ⟨first, rest⟩ := step source results fits
    change (pull source).1 :: (pullTimes pull count (pull source).2).1 = _
    rw [ahead, first, ih rest]

/-- A source in another guise supplies the same. -/
theorem Supplies.of_map {f : σ → τ} {pull' : τ → Pulled α × τ}
    (same : ∀ source, pull' (f source) = ((pull source).1, f (pull source).2))
    (h : Supplies pull source results) : Supplies pull' (f source) results := by
  refine .of_step (fun t rs => ∃ s, t = f s ∧ Supplies pull s rs) ?_ ⟨source, rfl, h⟩
  rintro _ rs ⟨s, rfl, supplies⟩
  rw [same]
  exact ⟨supplies.first, _, rfl, supplies.rest⟩

end

/-! ## Typed streams -/

namespace Stream

/-- A typed stream and its source as one source. -/
def ofSource (pull : σ → Pulled Value × σ) (x : Stream α × σ) : Pulled α × Stream α × σ :=
  x.1.next pull x.2

/-- Results read in a shape, up to the first that is no item of it. -/
def typedAll (id : RequestId) (shape : Decoder α) (raws : List (Pulled Value)) :
    List (Pulled α) :=
  untilOver (raws.map (typed id shape))

end Stream

variable {pull : σ → Pulled Value × σ} {source : σ} {id : RequestId} {shape : Decoder α}
  {raws : List (Pulled Value)}

/-- What a typed stream is still to bring: nothing once it has ended, and before that what its
source brings, read in its shape. -/
def Stream.StillBrings (id : RequestId) (shape : Decoder α) (pull : σ → Pulled Value × σ)
    (x : Stream α × σ) (results : List (Pulled α)) : Prop :=
  (x.1.ended = true ∧ results = []) ∨
    ∃ raws, x.1 = .ofRequest id shape ∧ Supplies pull x.2 raws ∧
      results = Stream.typedAll id shape raws

/-- A typed stream brings what its source brings, read in its shape. -/
theorem Supplies.typed (h : Supplies pull source raws) :
    Supplies (Stream.ofSource pull) (.ofRequest id shape, source)
      (Stream.typedAll id shape raws) := by
  refine .of_step (Stream.StillBrings id shape pull) ?_ (.inr ⟨raws, rfl, h, rfl⟩)
  rintro ⟨stream, source⟩ results (⟨ended, rfl⟩ | ⟨raws, rfl, supplies, rfl⟩)
  · have next : Stream.ofSource pull (stream, source) = (.finished, stream, source) := if_pos ended
    rw [next]
    exact ⟨rfl, .inl ⟨ended, rfl⟩⟩
  · have first := supplies.first
    have rest := supplies.rest
    let got := Stream.typed id shape (pull source).1
    have next : Stream.ofSource pull (.ofRequest id shape, source) =
        (got, ⟨id, shape, got.isOver⟩, (pull source).2) := rfl
    rw [next]
    cases raws with
    | nil =>
      have finished : got = .finished := congrArg (Stream.typed id shape) first
      rw [finished]
      exact ⟨rfl, .inl ⟨rfl, rfl⟩⟩
    | cons raw raws =>
      have read : got = Stream.typed id shape raw := congrArg (Stream.typed id shape) first
      rw [Stream.typedAll, List.map_cons, ← read]
      cases ends : got.isOver with
      | true =>
        rw [untilOver_of_over ends]
        exact ⟨rfl, .inl ⟨rfl, rfl⟩⟩
      | false =>
        rw [untilOver_of_item ends]
        exact ⟨rfl, .inr ⟨raws, rfl, rest, rfl⟩⟩

/-! ## Timed streams -/

/-- A source whose pulls release a guard at the end. -/
def guarded {κ : Type} [DecidableEq κ] (pull : σ → Pulled α × σ) (guard : κ)
    (x : σ × Timing κ) : Pulled α × σ × Timing κ :=
  let (got, source) := pull x.1
  (got, source, if got.isOver then x.2.release guard else x.2)

theorem Supplies.guarded {κ : Type} [DecidableEq κ] {pull : σ → Pulled α × σ} {source : σ}
    {results : List (Pulled α)} (h : Supplies pull source results) (guard : κ)
    (timing : Timing κ) : Supplies (guarded pull guard) (source, timing) results := by
  refine .of_step (fun x rs => Supplies pull x.1 rs) ?_ h
  rintro ⟨source, timing⟩ rs supplies
  exact ⟨supplies.first, supplies.rest⟩

namespace Http.ReplyStream

/-- The pulls from a typed stream of replies are those of its stream. -/
theorem supplies {replies : Replies} {shape : Decoder α} {results : List (Pulled α)}
    (h : Supplies (Stream.ofSource Replies.recv) (.ofRequest replies.id shape, replies) results) :
    Supplies ReplyStream.next (.start shape replies) results :=
  Supplies.of_map (f := fun x : Stream α × Replies => (⟨x.1, x.2⟩ : ReplyStream α))
    (fun _ => rfl) h

/-- A timed stream brings the same. -/
theorem supplies_timed {κ : Type} [DecidableEq κ] {s : ReplyStream α}
    {results : List (Pulled α)} (h : Supplies ReplyStream.next s results) (guard : κ)
    (timing : Timing κ) : Supplies (nextTimed guard) (s, timing) results :=
  h.guarded guard timing

end Http.ReplyStream

/-! ## Replies -/

/-- What a reply is to who pulls it. -/
def Reply.pulled : Reply → Pulled Value
  | .item v => .item v
  | .finish => .finished
  | .failed message => .failed (.application message)

/-- What some replies come to: the items, and the first reply that is none. -/
def outcomes (replies : List Reply) : List (Pulled Value) := untilOver (replies.map Reply.pulled)

/-! ## Collecting -/

/-- The elements among some results, up to the first that is none, with the error that it may
be. -/
def elements : List (Pulled α) → List (Except CallError α)
  | .item a :: rest => .ok a :: elements rest
  | .failed e :: _ => [.error e]
  | _ => []

/-- Who pulls often enough from a stream that does not keep him waiting gets all elements. -/
theorem Supplies.drain {stream : Stream α} {results : List (Pulled α)}
    (h : Supplies (Stream.ofSource pull) (stream, source) results) (ready : .pending ∉ results)
    {fuel : Nat} (enough : results.length < fuel) :
    (stream.drain pull fuel source).1 = elements results ∧
      (stream.drain pull fuel source).2.1 = true := by
  induction fuel generalizing stream source results with
  | zero => exact absurd enough (Nat.not_lt_zero _)
  | succ fuel ih =>
    have first := h.first
    have rest := h.rest
    rw [Stream.ofSource] at first rest
    rcases next : stream.next pull source with ⟨got, stream', source'⟩
    rw [next] at first rest
    rw [Stream.drain, next]
    cases results with
    | nil =>
      obtain rfl : got = .finished := first
      exact ⟨rfl, rfl⟩
    | cons result results =>
      obtain rfl : got = result := first
      cases got with
      | pending => exact absurd (List.mem_cons_self ..) ready
      | finished => exact ⟨rfl, rfl⟩
      | failed e => exact ⟨rfl, rfl⟩
      | item a =>
        have later : .pending ∉ results := fun among => ready (List.mem_cons_of_mem _ among)
        obtain ⟨all, ended⟩ := ih rest later (Nat.lt_of_succ_lt_succ enough)
        exact ⟨congrArg (.ok a :: ·) all, ended⟩

end Backchannel
