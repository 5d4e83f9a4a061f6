/-
# Backchannel.Proofs.Http.Transfer -- a body that comes piece by piece

A response comes in pieces, and the caller pulls whenever he likes (`Transfer`).  What he is told
in all is what the whole body holds, however it was cut and whenever he pulled (`body_read`).  No
pull waits while what has come holds a result that was not told, and none waits once all has come.

What a line of the body comes to is told by `LineMeans`.
-/
import Backchannel.Http.Transfer
import Backchannel.Proofs.Http.Reading
import Backchannel.Proofs.Margins

namespace Backchannel.Http

set_option autoImplicit false

open Backchannel.Json (Mismatch Value)
open Backchannel.Text.Utf8 (Bytes)

/-! ## One line -/

/-- What a frame in a body comes to for the request, or that it is passed over. -/
inductive FrameMeans (id : RequestId) (f : InboundFrame) : Option (Pulled Value) → Prop where
  | other (event : f.event ≠ .response) : FrameMeans id f none
  | notResponse {how : Mismatch} (event : f.event = .response)
    (failed : Response.decoder.ofValue f.data = .error how) :
    FrameMeans id f (some (.failed (.protocol (.badLine id (.notResponse how)))))
  | item {r : Response} {v : Value} (event : f.event = .response)
    (read : Response.decoder.ofValue f.data = .ok r) (kind : r.event = .response)
    (data : r.data = some v) : FrameMeans id f (some (.item v))
  | finish {r : Response} (event : f.event = .response)
    (read : Response.decoder.ofValue f.data = .ok r)
    (ends : r.event = .finish ∨ r.event = .response ∧ r.data = none) :
    FrameMeans id f (some .finished)
  | failed {r : Response} (event : f.event = .response)
    (read : Response.decoder.ofValue f.data = .ok r) (kind : r.event = .error) :
    FrameMeans id f (some (.failed (.application r.message)))

/-- What a line of a body comes to for the request, or that it is passed over. -/
inductive LineMeans (id : RequestId) (line : Bytes) : Option (Pulled Value) → Prop where
  | notText {how : Text.Utf8.Failure} (failed : Text.Utf8.decode line = .error how) :
    LineMeans id line (some (.failed (.protocol (.badLine id (.notText how)))))
  | blank {cs : List Char} (text : Text.Utf8.decode line = .ok cs)
    (blank : cs.all Text.isBlank = true) : LineMeans id line none
  | notFrame {cs : List Char} {e : Json.TextError} (text : Text.Utf8.decode line = .ok cs)
    (visible : cs.all Text.isBlank = false)
    (failed : InboundFrame.decoder.parse (String.ofList (Text.trimBoth Text.isBlank cs)) =
      .error e) : LineMeans id line (some (.failed (.protocol (.badLine id (.notFrame e)))))
  | frame {cs : List Char} {f : InboundFrame} {got : Option (Pulled Value)}
    (text : Text.Utf8.decode line = .ok cs) (visible : cs.all Text.isBlank = false)
    (parsed : InboundFrame.decoder.parse (String.ofList (Text.trimBoth Text.isBlank cs)) = .ok f)
    (means : FrameMeans id f got) : LineMeans id line got

theorem trimBoth_isEmpty (cs : List Char) :
    (Text.trimBoth Text.isBlank cs).isEmpty = cs.all Text.isBlank := by
  rw [Bool.eq_iff_iff, List.isEmpty_iff, List.all_eq_true]
  constructor
  · intro empty
    obtain ⟨before, after, front, back, split⟩ := Text.trimBoth_split Text.isBlank cs
    rw [empty, List.nil_append] at split
    rw [split]
    exact fun c among => (List.mem_append.mp among).elim (front c) (back c)
  · intro blank
    rw [Text.trimBoth, ← List.append_nil cs, List.dropWhile_append_of_pos blank]
    rfl

theorem frameMeans_of_response (id : RequestId) {f : InboundFrame} {r : Response}
    (event : f.event = .response) (read : Response.decoder.ofValue f.data = .ok r) :
    FrameMeans id f ((LineContent.reply r.reply).pulled? id) := by
  cases kind : r.event with
  | error =>
    have reply : r.reply = .failed r.message := by simp [Response.reply, kind]
    rw [reply]
    exact .failed event read kind
  | finish =>
    have reply : r.reply = .finish := by simp [Response.reply, kind]
    rw [reply]
    exact .finish event read (.inl kind)
  | response =>
    cases data : r.data with
    | none =>
      have reply : r.reply = .finish := by simp [Response.reply, kind, data]
      rw [reply]
      exact .finish event read (.inr ⟨kind, data⟩)
    | some v =>
      have reply : r.reply = .item v := by simp [Response.reply, kind, data]
      rw [reply]
      exact .item event read kind data

/-- A pull makes of a line what that means. -/
theorem lineMeans (id : RequestId) (line : Bytes) :
    LineMeans id line ((LineContent.ofLine line).pulled? id) := by
  rw [LineContent.ofLine]
  cases text : Text.Utf8.decode line with
  | error how => exact .notText text
  | ok cs =>
    simp only [LineContent.ofText, trimBoth_isEmpty]
    cases visible : cs.all Text.isBlank with
    | true => exact .blank text visible
    | false =>
      simp only [Bool.false_eq_true, if_false]
      cases parsed : InboundFrame.decoder.parse
          (String.ofList (Text.trimBoth Text.isBlank cs)) with
      | error e => exact .notFrame text visible parsed
      | ok f =>
        refine .frame text visible parsed ?_
        dsimp only
        split
        · rename_i other
          exact .other other
        · rename_i same
          have event := Decidable.not_not.mp same
          cases read : Response.decoder.ofValue f.data with
          | error how => exact .notResponse event read
          | ok r => exact frameMeans_of_response id event read

theorem LineMeans.pulled {id : RequestId} {line : Bytes} {got : Option (Pulled Value)}
    (means : LineMeans id line got) : (LineContent.ofLine line).pulled? id = got := by
  cases means with
  | notText failed => rw [LineContent.ofLine, failed]; rfl
  | blank text blank =>
    simp [LineContent.ofLine, text, LineContent.ofText, trimBoth_isEmpty, blank,
      LineContent.pulled?]
  | notFrame text visible failed =>
    simp [LineContent.ofLine, text, LineContent.ofText, trimBoth_isEmpty, visible, failed,
      LineContent.pulled?]
  | frame text visible parsed means =>
    simp only [LineContent.ofLine, text, LineContent.ofText, trimBoth_isEmpty, visible, parsed,
      Bool.false_eq_true, if_false]
    cases means with
    | other event => simp [event, LineContent.pulled?]
    | notResponse event failed => simp [event, failed, LineContent.pulled?]
    | item event read kind data =>
      simp [event, read, Response.reply, kind, data, LineContent.pulled?]
    | finish event read ends =>
      rcases ends with kind | ⟨kind, data⟩
      · simp [event, read, Response.reply, kind, LineContent.pulled?]
      · simp [event, read, Response.reply, kind, data, LineContent.pulled?]
    | failed event read kind => simp [event, read, Response.reply, kind, LineContent.pulled?]

/-! ## What was told so far -/

variable {id : RequestId} {ending : Option BodyEnd} {body left : Bytes} {r : Replies}
  {given : List (Pulled Value)}

/-- What a caller was told of the bytes that have come so far, whatever may come behind them:
items and the others are still to be read, or all, and then only the end. -/
inductive Stage (id : RequestId) (ending : Option BodyEnd) (body : Bytes) :
    Replies → List (Pulled Value) → Prop where
  | goesOn {r : Replies} {left : Bytes} {given : List (Pulled Value)}
    (remains : Remains id ending r left) (items : ∀ got ∈ given, got.isOver = false)
    (split : ∀ more final, Later ending more final →
      holds id final (body ++ more) = given ++ holds id final (left ++ more)) :
    Stage id ending body r given
  | done {r : Replies} {results : List (Pulled Value)} (count : Nat) (done : r.done = true)
    (whole : ∀ more final, Later ending more final → holds id final (body ++ more) = results) :
    Stage id ending body r (results ++ List.replicate count .finished)

/-- A pull tells one result more, or it waits for more than has come. -/
theorem Stage.pull (stage : Stage id ending body r given) :
    (∃ got, (r.resume none).1 = .ready got ∧
      Stage id ending body (r.resume none).2 (given ++ [got])) ∨
    ((r.resume none).1 = .waiting none ∧ ending = none ∧ holds id none body = given ∧
      Stage id ending body (r.resume none).2 given) := by
  cases stage with
  | done count done whole =>
    rw [resume_done done]
    refine .inl ⟨.finished, rfl, ?_⟩
    rw [List.append_assoc, ← List.replicate_succ']
    exact .done (count + 1) done whole
  | goesOn remains items split =>
    obtain ⟨brings, last⟩ := resume_brings remains
    generalize r.resume none = pulled at brings last
    cases brings with
    | @item got after rest goesOn rests first =>
      refine .inl ⟨got, rfl, .goesOn rests (fun got' among => ?_) fun more final later => ?_⟩
      · rcases List.mem_append.mp among with before | now
        · exact items got' before
        · exact List.mem_singleton.mp now ▸ goesOn
      · rw [split more final later, first more final later, List.append_assoc]
        rfl
    | @closes got after ends only =>
      refine .inl ⟨got, rfl, ?_⟩
      have whole (more : Bytes) (final : Option BodyEnd) (later : Later ending more final) :
          holds id final (body ++ more) = given ++ [got] := by
        rw [split more final later, only more final later]
      have all : Stage id ending body after (given ++ [got] ++ List.replicate 0 .finished) :=
        .done 0 (last got rfl ends) whole
      simpa using all
    | waits goesOn rests nothing same =>
      subst goesOn
      refine .inr ⟨rfl, rfl, ?_, .goesOn rests items fun more final later => ?_⟩
      · have held := split [] none (.inl rfl)
        have rest := same [] none
        rw [List.append_nil, List.append_nil] at rest
        rw [List.append_nil, List.append_nil, rest, nothing, List.append_nil] at held
        exact held
      · rw [split more final later, same more final]

theorem Stage.chunk (stage : Stage id none body r given) (bytes : Bytes) :
    Stage id none (body ++ bytes)
      { r with arrived := r.arrived.take (.chunk bytes) } given := by
  cases stage with
  | done count done whole =>
    refine .done count done fun more final _ => ?_
    rw [List.append_assoc]
    exact whole _ _ (.inl rfl)
  | goesOn remains items split =>
    obtain ⟨own, waits, rfl, ends, phase⟩ := remains
    have still : Remains id none { r with arrived := r.arrived.take (.chunk bytes) }
        (r.buffer ++ r.arrived.chunks.flatten ++ bytes) := by
      refine ⟨own, waits, by simp [Arrived.take], ends, ?_⟩
      rcases phase with reading | ⟨-, -, complete⟩ | awaiting
      · exact .inl reading
      · cases complete
      · exact .inr (.inr awaiting)
    refine .goesOn still items fun more final _ => ?_
    rw [List.append_assoc, List.append_assoc]
    exact split _ _ (.inl rfl)

theorem Stage.ended (stage : Stage id none body r given) (how : BodyEnd) :
    Stage id (some how) body { r with arrived := r.arrived.take (.ending how) } given := by
  cases stage with
  | done count done whole => exact .done count done fun more final _ => whole _ _ (.inl rfl)
  | goesOn remains items split =>
    obtain ⟨own, waits, held, -, phase⟩ := remains
    refine .goesOn ⟨own, waits, held, rfl, ?_⟩ items fun more final _ => split _ _ (.inl rfl)
    rcases phase with reading | ⟨-, -, complete⟩ | awaiting
    · exact .inl reading
    · cases complete
    · exact .inr (.inr awaiting)

/-! ## A whole transfer -/

/-- How a caller fares with a body: its pieces come one after the other, and of those that have
come he was told so much. -/
inductive Fares (id : RequestId) (status : Status) (body : Bytes) (how : BodyEnd) :
    Transfer → List (Pulled Value) → Prop where
  | fresh {r : Replies} {chunks : List Bytes} (own : r.id = id) (waits : r.done = false)
    (phase : r.phase = .awaiting false) (empty : r.buffer = [])
    (nothing : r.arrived = ⟨none, [], none⟩) (all : body = chunks.flatten) :
    Fares id status body how ⟨r, .head status :: (chunks.map .chunk ++ [.ending how])⟩ []
  | flows {r : Replies} {given : List (Pulled Value)} {seen : Bytes} {chunks : List Bytes}
    (stage : Stage id none seen r given) (all : body = seen ++ chunks.flatten) :
    Fares id status body how ⟨r, chunks.map .chunk ++ [.ending how]⟩ given
  | arrived {r : Replies} {given : List (Pulled Value)} (stage : Stage id (some how) body r given) :
    Fares id status body how ⟨r, []⟩ given

variable {status : Status} {how : BodyEnd} {x : Transfer}

theorem resume_headless (waits : r.done = false) (phase : r.phase = .awaiting false)
    (empty : r.buffer = []) (nothing : r.arrived = ⟨none, [], none⟩) :
    r.resume none = (.waiting none, r) := by
  have read : ∀ fuel, r.read fuel = (.waiting none, r) := by
    intro fuel
    cases fuel with
    | zero => rfl
    | succ fuel => simp [Replies.read, empty, takeLine, phase, nothing]
  rw [Replies.resume, if_neg (by simp [waits])]
  dsimp only
  rw [read]

theorem bytes_chunks (chunks : List Bytes) (how : BodyEnd) :
    (chunks.map Piece.chunk ++ [Piece.ending how]).flatMap Piece.bytes = chunks.flatten := by
  rw [List.flatMap_append, List.flatMap_map]
  simp [Piece.bytes, List.flatMap_def]

/-- A pull tells one result more.  Or it waits: all is told that is held by what has come, and
there is more to come. -/
theorem Fares.pull (fares : Fares id status body how x given) :
    (∃ got, (x.replies.resume none).1 = .ready got ∧
      Fares id status body how ⟨(x.replies.resume none).2, x.coming⟩ (given ++ [got])) ∨
    ((x.replies.resume none).1 = .waiting none ∧ x.coming ≠ [] ∧
      (∃ seen, body = seen ++ x.coming.flatMap Piece.bytes ∧ holds id none seen = given) ∧
      Fares id status body how ⟨(x.replies.resume none).2, x.coming⟩ given) := by
  cases fares with
  | fresh own waits phase empty nothing all =>
    rw [resume_headless waits phase empty nothing]
    refine .inr ⟨rfl, List.cons_ne_nil _ _, ⟨[], ?_, holds_nil id none⟩,
      .fresh own waits phase empty nothing all⟩
    rw [all, List.flatMap_cons, bytes_chunks]
    rfl
  | @flows r given seen chunks stage all =>
    rcases stage.pull with ⟨got, ready, stage⟩ | ⟨waits, -, held, stage⟩
    · exact .inl ⟨got, ready, .flows stage all⟩
    · refine .inr ⟨waits, List.append_ne_nil_of_right_ne_nil _ (List.cons_ne_nil _ _),
        ⟨seen, ?_, held⟩, .flows stage all⟩
      rw [all, bytes_chunks]
  | arrived stage =>
    rcases stage.pull with ⟨got, ready, stage⟩ | ⟨-, goesOn, -⟩
    · exact .inl ⟨got, ready, .arrived stage⟩
    · cases goesOn

theorem Fares.arrive (fares : Fares id status body how x given)
    (success : status.isSuccess = true) :
    Fares id status body how (x.perform .arrive).2 given := by
  cases fares with
  | @fresh r chunks own waits phase empty nothing all =>
    have remains : Remains id none { r with arrived := r.arrived.take (.head status) } [] := by
      refine ⟨own, waits, ?_, ?_, ?_⟩
      · simp [empty, nothing, Arrived.take]
      · simp [nothing, Arrived.take]
      · exact .inr (.inr ⟨phase, status, rfl, success⟩)
    have quiet : ∀ got ∈ ([] : List (Pulled Value)), got.isOver = false := by simp
    have stage : Stage id none [] { r with arrived := r.arrived.take (.head status) } [] :=
      .goesOn remains quiet fun more final _ => rfl
    exact .flows stage all
  | @flows r given seen chunks stage all =>
    cases chunks with
    | nil =>
      rw [List.flatten_nil, List.append_nil] at all
      subst all
      exact .arrived (stage.ended how)
    | cons chunk chunks =>
      refine .flows (stage.chunk chunk) ?_
      rw [all, List.flatten_cons, List.append_assoc]
  | arrived stage => exact .arrived stage

theorem perform_arrive (x : Transfer) : (x.perform .arrive).1 = none := by
  simp only [Transfer.perform]
  split <;> rfl

/-- Once an end was told there is only the end, whatever else arrives. -/
theorem progress_done (done : x.replies.done = true) (acts : List Transfer.Act) :
    ∀ p ∈ x.progress acts, p = .ready .finished := by
  induction acts generalizing x with
  | nil => simp [Transfer.progress]
  | cons a acts ih =>
    intro p among
    cases a with
    | arrive =>
      have silent : x.progress (.arrive :: acts) = (x.perform .arrive).2.progress acts := by
        rw [Transfer.progress, perform_arrive]
        rfl
      rw [silent] at among
      refine ih (x := (x.perform .arrive).2) ?_ p among
      simp only [Transfer.perform]
      split <;> exact done
    | pull =>
      rw [Transfer.progress, Transfer.perform, resume_done done] at among
      rcases List.mem_cons.mp among with now | later
      · exact now
      · exact ih (x := x) done p later

theorem Fares.done (fares : Fares id status body how x given)
    (isOver : ∃ got ∈ given, got.isOver = true) : x.replies.done = true := by
  obtain ⟨got, among, ends⟩ := isOver
  have settled : ∀ {ending seen r}, Stage id ending seen r given → r.done = true := by
    intro ending seen r stage
    cases stage with
    | goesOn _ items =>
      rw [items got among] at ends
      cases ends
    | done _ done => exact done
  cases fares with
  | fresh => cases among
  | flows stage => exact settled stage
  | arrived stage => exact settled stage

/-- What was told is what the body holds, and then only the end. -/
theorem Stage.given_eq (stage : Stage id ending body r given) {more : Bytes}
    {final : Option BodyEnd} (later : Later ending more final) :
    given = ahead given.length (holds id final (body ++ more)) := by
  cases stage with
  | goesOn _ _ split =>
    rw [split more final later]
    exact (ahead_length_append _ _).symm
  | done count _ whole =>
    rw [whole more final later, List.length_append, List.length_replicate]
    exact (ahead_add_length _ _).symm

theorem Fares.given_eq (fares : Fares id status body how x given) :
    given = ahead given.length (reading id how body) := by
  cases fares with
  | fresh => rfl
  | @flows _ _ seen chunks stage all =>
    rw [reading, all]
    exact stage.given_eq (.inl rfl)
  | arrived stage =>
    have whole := stage.given_eq (.inr ⟨rfl, rfl⟩)
    rwa [List.append_nil] at whole

/-- What the pulls of a caller come to, whose response comes piece by piece. -/
structure BodyRead (id : RequestId) (body : Bytes) (how : BodyEnd) (acts : List Transfer.Act)
    (x : Transfer) : Prop where
  /-- He is told what the body holds, and then only the end. -/
  told : x.told acts = ahead (x.told acts).length (reading id how body)
  /-- Each pull has a result or waits for more of the body. -/
  pulls : ∀ p ∈ x.progress acts, (∃ got, p = .ready got) ∨ p = .waiting none
  /-- Once all has come a pull has a result. -/
  ready : (x.after acts).coming = [] → ∃ got, ((x.after acts).replies.resume none).1 = .ready got
  /-- A pull waits only if all was told that what has come holds. -/
  waits : ((x.after acts).replies.resume none).1 = .waiting none →
    ∃ seen, body = seen ++ (x.after acts).coming.flatMap Piece.bytes ∧
      x.told acts = holds id none seen
  /-- Behind the end or an error there is only the end, whatever else arrives. -/
  settled : (∃ got ∈ x.told acts, got.isOver = true) →
    ∀ coming more, ∀ p ∈ Transfer.progress ⟨(x.after acts).replies, coming⟩ more,
      p = .ready .finished

theorem Fares.perform (fares : Fares id status body how x given)
    (success : status.isSuccess = true) (a : Transfer.Act) :
    Fares id status body how (x.perform a).2
        (given ++ (x.perform a).1.toList.filterMap Progress.result?) ∧
      ∀ p ∈ (x.perform a).1.toList, (∃ got, p = .ready got) ∨ p = .waiting none := by
  cases a with
  | arrive =>
    rw [perform_arrive, Option.toList_none, List.filterMap_nil, List.append_nil]
    exact ⟨fares.arrive success, by simp⟩
  | pull =>
    have pulled : x.perform .pull =
        (some (x.replies.resume none).1, ⟨(x.replies.resume none).2, x.coming⟩) := rfl
    rw [pulled]
    rcases fares.pull with ⟨got, ready, fares⟩ | ⟨waits, -, -, fares⟩
    · rw [ready]
      exact ⟨fares, fun p among => .inl ⟨got, List.mem_singleton.mp among⟩⟩
    · rw [waits]
      refine ⟨?_, fun p among => .inr (List.mem_singleton.mp among)⟩
      rw [show (some (Progress.waiting none)).toList.filterMap Progress.result? = [] from rfl,
        List.append_nil]
      exact fares

theorem Fares.run (fares : Fares id status body how x given) (success : status.isSuccess = true)
    (acts : List Transfer.Act) :
    Fares id status body how (x.after acts) (given ++ x.told acts) ∧
      ∀ p ∈ x.progress acts, (∃ got, p = .ready got) ∨ p = .waiting none := by
  induction acts generalizing x given with
  | nil =>
    refine ⟨?_, by simp [Transfer.progress]⟩
    rw [show x.told [] = [] from rfl, List.append_nil]
    exact fares
  | cons a acts ih =>
    obtain ⟨first, pull⟩ := fares.perform success a
    obtain ⟨rest, pulls⟩ := ih first
    have told : x.told (a :: acts) =
        (x.perform a).1.toList.filterMap Progress.result? ++ (x.perform a).2.told acts :=
      List.filterMap_append
    rw [told, ← List.append_assoc]
    refine ⟨rest, fun p among => ?_⟩
    rw [Transfer.progress] at among
    exact (List.mem_append.mp among).elim (pull p) (pulls p)

/-! ## What is read of a body -/

theorem bodyRead_start (id : RequestId) (kind : Kind) (timeout : Duration)
    (success : status.isSuccess = true) (chunks : List Bytes) (how : BodyEnd)
    (acts : List Transfer.Act) :
    BodyRead id chunks.flatten how acts (.start id kind timeout status chunks how) := by
  have fresh : Fares id status chunks.flatten how
      (.start id kind timeout status chunks how) [] := .fresh rfl rfl rfl rfl rfl rfl
  obtain ⟨fares, pulls⟩ := fresh.run success acts
  rw [List.nil_append] at fares
  refine ⟨fares.given_eq, pulls, fun all => ?_, fun waiting => ?_, fun isOver coming more => ?_⟩
  · rcases fares.pull with ⟨got, ready, -⟩ | ⟨-, more, -⟩
    · exact ⟨got, ready⟩
    · exact absurd all more
  · rcases fares.pull with ⟨got, ready, -⟩ | ⟨-, -, ⟨seen, split, held⟩, -⟩
    · rw [ready] at waiting
      cases waiting
    · exact ⟨seen, split, held.symm⟩
  · exact progress_done (x := ⟨_, coming⟩) (fares.done isOver) more

/-- The pulls from a successful response tell what its lines mean, up to the first result that is
no item or to the end of the body, and then only the end.  It does not matter how the body is cut
into chunks, nor when they and the pulls come. -/
theorem body_read (id : RequestId) (kind : Kind) (timeout : Duration) {status : Status}
    (success : status.isSuccess = true) (chunks : List Bytes) (how : BodyEnd) :
    (∀ line got, (LineContent.ofLine line).pulled? id = got ↔ LineMeans id line got) ∧
    Supplies Replies.recv
      ⟨id, kind, .awaiting false, [], timeout, false, ⟨some (.ok status), chunks, some how⟩⟩
      (reading id how chunks.flatten) ∧
    ∀ acts, BodyRead id chunks.flatten how acts (.start id kind timeout status chunks how) := by
  refine ⟨fun line got => ⟨fun same => same ▸ lineMeans id line, LineMeans.pulled⟩, ?_,
    bodyRead_start id kind timeout success chunks how⟩
  have remains : Remains id (some how)
      ⟨id, kind, .awaiting false, [], timeout, false, ⟨some (.ok status), chunks, some how⟩⟩
      chunks.flatten := ⟨rfl, rfl, rfl, rfl, .inr (.inr ⟨rfl, status, rfl, success⟩)⟩
  exact remains.supplies

/-- An item, a blank line and a part of another item, cut in the middle of the first one and
with an empty chunk. -/
def tornChunks : List Bytes :=
  let item := Text.Utf8.bytesOf (InboundFrame.ofResponse none (.item "a" (.bool true))).toLine
  [item.take 20, [], item.drop 20 ++ [10] ++ item.take 30]

/-- Pulls before, between and behind the chunks; then the connection is lost. -/
def tornActs : List Transfer.Act :=
  [.pull, .arrive, .arrive, .pull, .arrive, .arrive, .pull, .pull, .arrive, .pull, .pull]

theorem tornBody_read :
    Status.isSuccess 200 = true ∧
      BodyRead "a" tornChunks.flatten .broken tornActs
        (.start "a" .tool 5 200 tornChunks .broken) ∧
      (Transfer.start "a" .tool 5 200 tornChunks .broken).progress tornActs =
        [.waiting none, .waiting none, .ready (.item (.bool true)), .waiting none,
          .ready (.failed (.connectionClosed (.exchange "a" .brokenBody))), .ready .finished] := by
  have progress : (Transfer.start "a" .tool 5 200 tornChunks .broken).progress tornActs =
      [.waiting none, .waiting none, .ready (.item (.bool true)), .waiting none,
        .ready (.failed (.connectionClosed (.exchange "a" .brokenBody))), .ready .finished] := by
    decide +kernel
  exact ⟨rfl, (body_read "a" .tool 5 rfl tornChunks .broken).2.2 tornActs, progress⟩

end Backchannel.Http
