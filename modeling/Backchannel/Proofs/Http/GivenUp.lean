/-
# Backchannel.Proofs.Http.GivenUp -- pulls that are given up

While a response comes, event by event, a caller may give up the pull that waits and begin
another one (`Exchange.Act`).  Where the pull waited for the head of the response or for more of
its body nothing is lost by that: what it has read is in the replies, and the next pull goes on
from there.  Where it waited for the text of a refusal, the head of the response is gone with it.
Then every further pull crashes.

The two are all there is (`Held`): the pull in flight is the only one to know of a refusal, or
nobody does (`Stranded`).  So a run crashes exactly if the text of a refusal was given up in it
and the caller pulled again, and any other run tells what it tells without the pulls that were
given up (`interrupted`).
-/
import Backchannel.Http.Exchange
import Backchannel.Proofs.Http.Transfer

namespace Backchannel.Http

set_option autoImplicit false

open Backchannel.Text.Utf8 (Bytes)

/-! ## What comes of a request -/

/-- What an event tells of the head of the response. -/
def Event.head? : Event → Option (Except HttpFailure Status)
  | .failure how => some (.error how)
  | .piece (.head status) => some (.ok status)
  | .piece _ => none

theorem Arrived.note_head (a : Arrived) (e : Event) : (a.note e).head = e.head?.or a.head := by
  rcases e with how | (status | bytes | how) <;> rfl

theorem Outcome.events_head {o : Outcome} {e : Event} {h : Except HttpFailure Status}
    (among : e ∈ o.events) (tells : e.head? = some h) : h = o.head := by
  cases o with
  | failed how =>
    cases List.mem_singleton.mp among
    exact (Option.some.inj tells).symm
  | answered status chunks how =>
    rcases List.mem_cons.mp among with rfl | behind
    · exact (Option.some.inj tells).symm
    · rcases List.mem_append.mp behind with chunk | ending
      · obtain ⟨bytes, -, rfl⟩ := List.mem_map.mp chunk
        cases tells
      · cases List.mem_singleton.mp ending
        cases tells

namespace Exchange

/-- The pull in flight waits for the text of a refusal. -/
def ReadsRefusal (x : Exchange) : Prop := ∃ status, x.inFlight = some (some status)

/-- No pull is given up that waits for the text of a refusal. -/
def Gentle (x : Exchange) (acts : List Act) : Prop :=
  ∀ before after, acts = before ++ .giveUp :: after → ¬ (x.after before).ReadsRefusal

variable {x y : Exchange} {a : Act} {acts : List Act}

theorem after_append (x : Exchange) (before acts : List Act) :
    x.after (before ++ acts) = (x.after before).after acts :=
  List.foldl_append

theorem progress_append (x : Exchange) (before acts : List Act) :
    x.progress (before ++ acts) = x.progress before ++ (x.after before).progress acts := by
  induction before generalizing x with
  | nil => rfl
  | cons a before ih =>
    rw [List.cons_append, progress, ih, progress, List.append_assoc]
    rfl

theorem perform_arrive (x : Exchange) : (x.perform .arrive).1 = none := by
  simp only [perform]
  split <;> rfl

/-- Where nobody pulls nothing is told. -/
theorem progress_idle (x : Exchange) (idle : .poll ∉ acts) : x.progress acts = [] := by
  induction acts generalizing x with
  | nil => rfl
  | cons a acts ih =>
    have silent : (x.perform a).1 = none := by
      cases a with
      | arrive => exact perform_arrive x
      | poll => exact absurd List.mem_cons_self idle
      | giveUp => rfl
    rw [progress, silent, ih _ fun later => idle (List.mem_cons_of_mem a later)]
    rfl

theorem Gentle.first (gentle : x.Gentle (a :: acts)) : a = .giveUp → ¬ x.ReadsRefusal := by
  rintro rfl
  exact gentle [] acts rfl

theorem Gentle.rest (gentle : x.Gentle (a :: acts)) : (x.perform a).2.Gentle acts := by
  rintro before after rfl
  exact gentle (a :: before) after rfl

theorem gentle_or_reads (x : Exchange) (acts : List Act) :
    x.Gentle acts ∨ ∃ before behind, acts = before ++ .giveUp :: behind ∧
      (x.after before).ReadsRefusal := by
  by_cases gentle : x.Gentle acts
  · exact .inl gentle
  · exact .inr (by simpa [Gentle] using gentle)

end Exchange

/-! ## One pull -/

/-- What a pull in flight keeps to itself; `head` is what comes for the head of the response. -/
inductive Held (head : Except HttpFailure Status) (r : Replies) : Option (Option Status) → Prop
  where
  /-- Nothing: the replies know as much. -/
  | nothing {pull : Option (Option Status)} (there : r.phase ≠ .awaiting true)
    (other : ∀ status, pull ≠ some (some status)) : Held head r pull
  /-- That the request is refused. -/
  | refusal {status : Status} (gone : r.phase = .awaiting true) (waits : r.done = false)
    (noLine : takeLine r.buffer = none) (answer : head = .ok status)
    (refused : status.isSuccess = false) : Held head r (some (some status))

theorem Held.refused {head : Except HttpFailure Status} {r : Replies}
    {pull : Option (Option Status)} {status : Status} (held : Held head r pull)
    (reads : pull = some (some status)) :
    r.phase = .awaiting true ∧ r.done = false ∧ takeLine r.buffer = none ∧ head = .ok status ∧
      status.isSuccess = false := by
  cases held with
  | nothing _ other => exact absurd reads (other status)
  | refusal gone waits noLine answer refused =>
    cases reads
    exact ⟨gone, waits, noLine, answer, refused⟩

/-- How far a pull comes that is begun, and what is left of the replies behind it. -/
inductive Reaches (head : Except HttpFailure Status) : Progress × Replies → Prop where
  | ready {got : Pulled Json.Value} {r : Replies}
    (there : got.isOver = false → r.phase ≠ .awaiting true) : Reaches head (.ready got, r)
  | waits {r : Replies} (there : r.phase ≠ .awaiting true) : Reaches head (.waiting none, r)
  | refusal {status : Status} {r : Replies} (gone : r.phase = .awaiting true)
    (waits : r.done = false) (noLine : takeLine r.buffer = none) (answer : head = .ok status)
    (refused : status.isSuccess = false) : Reaches head (.waiting (some status), r)

variable {head : Except HttpFailure Status} {r : Replies} {pull : Option (Option Status)}

theorem Reaches.last {got : Pulled Json.Value} (ends : got.isOver = true) (r : Replies) :
    Reaches head (.ready got, r) :=
  .ready fun goesOn => by simp [ends] at goesOn

theorem readRefusal_cases (status : Status) (r : Replies) :
    (∃ message, r.readRefusal status =
      (.ready (.failed (.protocol (.refused r.id status.write message))), r)) ∨
    r.readRefusal status = (.waiting (some status), r) := by
  rw [Replies.readRefusal]
  split
  · exact .inr rfl
  · exact .inl ⟨_, rfl⟩
  · exact .inl ⟨_, rfl⟩

theorem readRefusal_reaches {status : Status} (gone : r.phase = .awaiting true)
    (waits : r.done = false) (noLine : takeLine r.buffer = none) (answer : head = .ok status)
    (refused : status.isSuccess = false) : Reaches head (r.readRefusal status) := by
  rcases readRefusal_cases status r with ⟨message, told⟩ | waiting
  · rw [told]
    exact .last rfl r
  · rw [waiting]
    exact .refusal gone waits noLine answer refused

theorem readRefusal_snd (status : Status) (r : Replies) : (r.readRefusal status).2 = r := by
  rcases readRefusal_cases status r with ⟨message, told⟩ | waiting
  · rw [told]
  · rw [waiting]

/-- A pull does not crash that finds the head of the response where it is. -/
theorem read_reaches (fuel : Nat) (there : r.phase ≠ .awaiting true) (waits : r.done = false)
    (arrived : ∀ h, r.arrived.head = some h → h = head) :
    Reaches head (r.read fuel) ∧ (r.read fuel).2.arrived.head = r.arrived.head := by
  induction fuel generalizing r with
  | zero => exact ⟨.waits there, rfl⟩
  | succ fuel ih =>
    rw [Replies.read]
    cases noLine : takeLine r.buffer with
    | some parts =>
      dsimp only
      cases (LineContent.ofLine parts.1).pulled? r.id with
      | some got => exact ⟨.ready fun _ => there, rfl⟩
      | none => exact ih there waits arrived
    | none =>
      dsimp only
      cases phase : r.phase with
      | awaiting taken =>
        cases taken with
        | true => exact absurd phase there
        | false =>
          cases known : r.arrived.head with
          | none => exact ⟨.waits there, known⟩
          | some h =>
            cases h with
            | error how => exact ⟨.last rfl _, known⟩
            | ok status =>
              dsimp only
              cases success : status.isSuccess with
              | true =>
                rw [if_pos rfl, ← known]
                exact ih (by simp) waits arrived
              | false =>
                rw [if_neg (by simp), readRefusal_snd]
                exact ⟨readRefusal_reaches rfl waits noLine (arrived _ known).symm success, known⟩
      | reading =>
        dsimp only
        split
        · exact ih (by simp) waits arrived
        · exact ⟨.waits there, rfl⟩
        · exact ⟨.last rfl _, rfl⟩
        · split
          · exact ⟨.last rfl _, rfl⟩
          · split
            · exact ⟨.ready fun _ => by simp, rfl⟩
            · exact ⟨.last rfl _, rfl⟩
      | drained => exact ⟨.last rfl _, rfl⟩

/-- A pull that has ended leaves replies that can be pulled from, and one that waits for the text
of a refusal is the only one to know of it. -/
theorem Reaches.concluded {progress : Progress} : Reaches head (progress, r) →
    let pulled : Progress × Replies := match progress with
      | .ready got => (.ready got, r.conclude got)
      | progress => (progress, r)
    pulled.1 ≠ .crashed ∧ Held head pulled.2 pulled.1.inFlight ∧
      pulled.2.arrived.head = r.arrived.head := by
  intro reaches
  cases reaches with
  | @ready got _ there =>
    cases ends : got.isOver with
    | true =>
      have drained : r.conclude got = { r with done := true, phase := .drained } := if_pos ends
      dsimp only
      rw [drained]
      exact ⟨nofun, .nothing nofun nofun, rfl⟩
    | false =>
      have same : r.conclude got = r := if_neg (by simp [ends])
      dsimp only
      rw [same]
      exact ⟨nofun, .nothing (there ends) nofun, rfl⟩
  | waits there => exact ⟨nofun, .nothing there nofun, rfl⟩
  | refusal gone waits noLine answer refused =>
    exact ⟨nofun, .refusal gone waits noLine answer refused, rfl⟩

/-- Nor does a pull crash that goes on from where it waits. -/
theorem Held.resume (held : Held head r pull)
    (arrived : ∀ h, r.arrived.head = some h → h = head) :
    (r.resume (pull.getD none)).1 ≠ .crashed ∧
      Held head (r.resume (pull.getD none)).2 (r.resume (pull.getD none)).1.inFlight ∧
      (r.resume (pull.getD none)).2.arrived.head = r.arrived.head := by
  cases held with
  | nothing there other =>
    have begun : pull.getD none = none := by
      rcases pull with _ | _ | status
      · rfl
      · rfl
      · exact absurd rfl (other status)
    rw [begun]
    cases done : r.done with
    | true =>
      rw [resume_done done]
      exact ⟨nofun, .nothing there nofun, rfl⟩
    | false =>
      obtain ⟨reaches, known⟩ :=
        read_reaches (r.buffer.length + r.arrived.size + 3) there done arrived
      rw [Replies.resume, if_neg (by simp [done]), ← known]
      exact reaches.concluded
  | @refusal status gone waits noLine answer refused =>
    have reaches := readRefusal_reaches gone waits noLine answer refused
    have same := congrArg (fun r => r.arrived.head) (readRefusal_snd status r)
    dsimp only [Option.getD_some] at same ⊢
    rw [Replies.resume, if_neg (by simp [waits]), ← same]
    exact reaches.concluded

/-! ## A whole exchange -/

/-- Nothing was lost by giving up. -/
structure Intact (head : Except HttpFailure Status) (x : Exchange) : Prop where
  coming : ∀ e ∈ x.coming, ∀ h, e.head? = some h → h = head
  arrived : ∀ h, x.replies.arrived.head = some h → h = head
  held : Held head x.replies x.inFlight

/-- The head of the response is gone, and no pull is in flight that would know of it. -/
structure Stranded (x : Exchange) : Prop where
  idle : x.inFlight = none
  waits : x.replies.done = false
  gone : x.replies.phase = .awaiting true
  noLine : takeLine x.replies.buffer = none

variable {x y : Exchange} {a : Exchange.Act} {acts : List Exchange.Act}

theorem Held.note (held : Held head r pull) (e : Event) :
    Held head { r with arrived := r.arrived.note e } pull := by
  cases held with
  | nothing there other => exact .nothing there other
  | refusal gone waits noLine answer refused => exact .refusal gone waits noLine answer refused

/-- An act that gives up no text of a refusal loses nothing, and no pull crashes in it. -/
theorem Intact.perform (intact : Intact head x) (gentle : a = .giveUp → ¬ x.ReadsRefusal) :
    (x.perform a).1 ≠ some .crashed ∧ Intact head (x.perform a).2 := by
  obtain ⟨coming, arrived, held⟩ := intact
  cases a with
  | arrive =>
    refine ⟨by rw [x.perform_arrive]; nofun, ?_⟩
    simp only [Exchange.perform]
    split
    · exact ⟨coming, arrived, held⟩
    · rename_i e later next
      rw [next] at coming
      refine ⟨fun e among => coming e (List.mem_cons_of_mem _ among), fun h known => ?_,
        held.note e⟩
      -- The head that is there now has just come or was there before.
      rw [Arrived.note_head] at known
      rcases Option.or_eq_some_iff.mp known with now | ⟨-, before⟩
      · exact coming e List.mem_cons_self h now
      · exact arrived h before
  | poll =>
    obtain ⟨runs, held, same⟩ := held.resume arrived
    exact ⟨fun crashed => runs (Option.some.inj crashed), coming, same ▸ arrived, held⟩
  | giveUp =>
    refine ⟨nofun, coming, arrived, ?_⟩
    generalize reads : x.inFlight = pull at held
    cases held with
    | nothing there => exact .nothing there nofun
    | @refusal status => exact absurd ⟨status, reads⟩ (gentle rfl)

theorem Intact.giveUp (intact : Intact head x) (reads : x.ReadsRefusal) :
    Stranded (x.perform .giveUp).2 := by
  obtain ⟨status, inFlight⟩ := reads
  obtain ⟨gone, waits, noLine, -⟩ := intact.held.refused inFlight
  exact ⟨rfl, waits, gone, noLine⟩

/-- Behind that every pull crashes, and so does the next. -/
theorem Stranded.perform (stranded : Stranded x) (a : Exchange.Act) :
    (x.perform a).1 = (if a = .poll then some .crashed else none) ∧
      Stranded (x.perform a).2 := by
  obtain ⟨idle, waits, gone, noLine⟩ := stranded
  cases a with
  | arrive =>
    refine ⟨x.perform_arrive, ?_⟩
    simp only [Exchange.perform]
    split
    · exact ⟨idle, waits, gone, noLine⟩
    · exact ⟨idle, waits, gone, noLine⟩
  | poll =>
    -- There is no line to begin with, and the head is not there a second time.
    have crashes : x.replies.resume none = (.crashed, x.replies) := by
      rw [Replies.resume, if_neg (by simp [waits])]
      simp only [Replies.read, noLine, gone]
    simp only [Exchange.perform, idle, Option.getD_none, crashes]
    exact ⟨rfl, rfl, waits, gone, noLine⟩
  | giveUp => exact ⟨rfl, rfl, waits, gone, noLine⟩

theorem Stranded.after (stranded : Stranded x) (acts : List Exchange.Act) :
    Stranded (x.after acts) := by
  induction acts generalizing x with
  | nil => exact stranded
  | cons a acts ih => exact ih (stranded.perform a).2

theorem Stranded.progress (stranded : Stranded x) (acts : List Exchange.Act) :
    x.progress acts = List.replicate (acts.count .poll) .crashed := by
  induction acts generalizing x with
  | nil => rfl
  | cons a acts ih =>
    obtain ⟨told, behind⟩ := stranded.perform a
    rw [Exchange.progress, ih behind, told, List.count_cons]
    cases a with
    | poll => rfl
    | arrive => rfl
    | giveUp => rfl

/-- Either nothing was lost yet or all is. -/
theorem Intact.after (intact : Intact head x) (acts : List Exchange.Act) :
    Intact head (x.after acts) ∨ Stranded (x.after acts) := by
  induction acts generalizing x with
  | nil => exact .inl intact
  | cons a acts ih =>
    by_cases lost : a = .giveUp ∧ x.ReadsRefusal
    · obtain ⟨rfl, reads⟩ := lost
      exact .inr ((intact.giveUp reads).after acts)
    · exact ih (intact.perform fun given reads => lost ⟨given, reads⟩).2

/-- While a pull waits for the text of a refusal nothing is lost. -/
theorem Intact.reading (intact : Intact head x) (acts : List Exchange.Act)
    (reads : (x.after acts).ReadsRefusal) : Intact head (x.after acts) := by
  rcases intact.after acts with kept | stranded
  · exact kept
  · obtain ⟨status, inFlight⟩ := reads
    rw [stranded.idle] at inFlight
    cases inFlight

/-- The text of a refusal is given up once at most. -/
theorem Intact.gentle (intact : Intact head x) (reads : (x.after acts).ReadsRefusal) :
    x.Gentle acts := by
  rintro before behind rfl earlier
  have stranded := ((intact.reading before earlier).giveUp earlier).after behind
  rw [x.after_append] at reads
  obtain ⟨status, inFlight⟩ := reads
  have idle : ((x.after before).after (.giveUp :: behind)).inFlight = none := stranded.idle
  rw [idle] at inFlight
  cases inFlight

theorem Intact.runs (intact : Intact head x) (gentle : x.Gentle acts) :
    .crashed ∉ x.progress acts := by
  induction acts generalizing x with
  | nil => exact List.not_mem_nil
  | cons a acts ih =>
    obtain ⟨runs, behind⟩ := intact.perform gentle.first
    rw [Exchange.progress, List.mem_append, Option.mem_toList]
    rintro (now | later)
    · exact runs now
    · exact ih behind gentle.rest later

/-- Two exchanges that differ at most in a pull that waits for the head or more of the body. -/
structure Alike (x y : Exchange) : Prop where
  replies : x.replies = y.replies
  coming : x.coming = y.coming
  inFlight : x.inFlight.getD none = y.inFlight.getD none

theorem Alike.perform (alike : Alike x y) (a : Exchange.Act) :
    (x.perform a).1 = (y.perform a).1 ∧ Alike (x.perform a).2 (y.perform a).2 := by
  obtain ⟨r, coming, p⟩ := x
  obtain ⟨_, _, q⟩ := y
  obtain ⟨rfl, rfl, same⟩ := alike
  cases a with
  | arrive =>
    cases coming with
    | nil => exact ⟨rfl, rfl, rfl, same⟩
    | cons e coming => exact ⟨rfl, rfl, rfl, same⟩
  | poll =>
    dsimp only at same
    simp only [Exchange.perform, same]
    exact ⟨trivial, rfl, rfl, rfl⟩
  | giveUp => exact ⟨rfl, rfl, rfl, rfl⟩

/-- To give up a pull that waits for the head or more of the body makes no difference. -/
theorem Alike.giveUp (alike : Alike x y) (other : ¬ x.ReadsRefusal) :
    Alike (x.perform .giveUp).2 y := by
  refine ⟨alike.replies, alike.coming, ?_⟩
  rw [← alike.inFlight]
  cases inFlight : x.inFlight with
  | none => rfl
  | some awaited =>
    cases awaited with
    | none => rfl
    | some status => exact absurd ⟨status, inFlight⟩ other

theorem Alike.progress (alike : Alike x y) (gentle : x.Gentle acts) :
    x.progress acts = y.progress (acts.filter (· ≠ .giveUp)) := by
  induction acts generalizing x y with
  | nil => rfl
  | cons a acts ih =>
    by_cases given : a = .giveUp
    · subst given
      rw [List.filter_cons_of_neg (by simp)]
      exact ih (alike.giveUp (gentle.first rfl)) gentle.rest
    · obtain ⟨told, behind⟩ := alike.perform a
      rw [List.filter_cons_of_pos (by simp [given]), Exchange.progress, Exchange.progress, told,
        ih behind gentle.rest]

theorem Exchange.Gentle.progress (gentle : x.Gentle acts) :
    x.progress acts = x.progress (acts.filter (· ≠ .giveUp)) :=
  Alike.progress ⟨rfl, rfl, rfl⟩ gentle

/-- What is told in a run in which the text of a refusal is given up. -/
theorem Intact.lost (intact : Intact head x) {before : List Exchange.Act}
    (reads : (x.after before).ReadsRefusal) (behind : List Exchange.Act) :
    x.progress (before ++ .giveUp :: behind) =
      x.progress (before.filter (· ≠ .giveUp)) ++
        List.replicate (behind.count .poll) .crashed := by
  rw [x.progress_append, (intact.gentle reads).progress, Exchange.progress,
    ((intact.reading before reads).giveUp reads).progress]
  rfl

theorem Intact.crashed_iff (intact : Intact head x) :
    .crashed ∈ x.progress acts ↔ ∃ before behind, acts = before ++ .giveUp :: behind ∧
      (x.after before).ReadsRefusal ∧ .poll ∈ behind := by
  constructor
  · intro crashed
    rcases x.gentle_or_reads acts with gentle | ⟨before, behind, rfl, reads⟩
    · exact absurd crashed (intact.runs gentle)
    · refine ⟨before, behind, rfl, reads, ?_⟩
      have gentle := intact.gentle reads
      rw [intact.lost reads, ← gentle.progress, List.mem_append, List.mem_replicate] at crashed
      rcases crashed with early | ⟨pulls, -⟩
      · exact absurd early (intact.runs gentle)
      · exact List.count_pos_iff.mp (Nat.pos_of_ne_zero pulls)
  · rintro ⟨before, behind, rfl, reads, pulls⟩
    rw [intact.lost reads, List.mem_append, List.mem_replicate]
    exact .inr ⟨Nat.ne_of_gt (List.count_pos_iff.mpr pulls), rfl⟩

/-- A run that does not crash tells what it tells without the pulls that were given up. -/
theorem Intact.same (intact : Intact head x) (runs : .crashed ∉ x.progress acts) :
    x.progress acts = x.progress (acts.filter (· ≠ .giveUp)) := by
  rcases x.gentle_or_reads acts with gentle | ⟨before, behind, rfl, reads⟩
  · exact gentle.progress
  · have idle : .poll ∉ behind := fun pulls =>
      runs (intact.crashed_iff.mpr ⟨before, behind, rfl, reads, pulls⟩)
    have quiet : .poll ∉ behind.filter (· ≠ .giveUp) := fun pulls =>
      idle (List.mem_filter.mp pulls).1
    rw [intact.lost reads, List.count_eq_zero.mpr idle, List.filter_append,
      List.filter_cons_of_neg (by simp), x.progress_append, Exchange.progress_idle _ quiet]
    rfl

theorem intact_start (id : RequestId) (kind : Kind) (timeout : Duration) (o : Outcome) :
    Intact o.head (.start id kind timeout o) :=
  ⟨fun _ among _ tells => Outcome.events_head among tells, nofun, .nothing nofun nofun⟩

/-- A refusal that comes on an ordinary schedule: its head arrives, and the caller pulls. -/
theorem readsRefusal_start (id : RequestId) (kind : Kind) (timeout : Duration) {status : Status}
    (refused : status.isSuccess = false) (chunks : List Bytes) (how : BodyEnd) :
    ((Exchange.start id kind timeout (.answered status chunks how)).after
      [.arrive, .poll]).ReadsRefusal := by
  refine ⟨status, ?_⟩
  simp [Exchange.after, Exchange.perform, Exchange.start, Outcome.events, Arrived.note,
    Arrived.take, Replies.resume, Replies.read, takeLine, refused, Replies.readRefusal,
    Progress.inFlight]

/-- What comes of it if the caller gives up pulls, whenever he does and however the request is
answered. -/
structure Interrupted (o : Outcome) (x : Exchange) : Prop where
  /-- A pull crashes exactly if one was given up before it that waited for the text of a
  refusal. -/
  crashes : ∀ acts, .crashed ∈ x.progress acts ↔ ∃ before behind,
    acts = before ++ .giveUp :: behind ∧ (x.after before).ReadsRefusal ∧ .poll ∈ behind
  /-- A pull waits so only if the request is refused. -/
  refused : ∀ acts status, (x.after acts).inFlight = some (some status) →
    o.head = .ok status ∧ status.isSuccess = false
  /-- No refusal is safe from that whose end is a piece of its own, behind the head.  Where a
  response without content brings both at once, nobody waits for its text; here the end is always
  taken as a piece of its own. -/
  exposed : ∀ status, o.head = .ok status → status.isSuccess = false →
    .crashed ∈ x.progress [.arrive, .poll, .giveUp, .poll]
  /-- Up to there all is as if no pull had been given up, and behind it every pull crashes. -/
  lost : ∀ before behind, (x.after before).ReadsRefusal →
    x.progress (before ++ .giveUp :: behind) =
      x.progress (before.filter (· ≠ .giveUp)) ++ List.replicate (behind.count .poll) .crashed
  /-- If no pull crashes all is as if none had been given up. -/
  same : ∀ acts, .crashed ∉ x.progress acts →
    x.progress acts = x.progress (acts.filter (· ≠ .giveUp))

/-- Only the text of a refusal cannot be given up. -/
theorem interrupted (id : RequestId) (kind : Kind) (timeout : Duration) (o : Outcome) :
    Interrupted o (.start id kind timeout o) := by
  have intact := intact_start id kind timeout o
  refine ⟨fun _ => intact.crashed_iff, fun acts status reads => ?_, fun status answer refused => ?_,
    fun _ behind reads => intact.lost reads behind, fun _ => intact.same⟩
  · exact ((intact.reading acts ⟨status, reads⟩).held.refused reads).2.2.2
  · cases o with
    | failed how => cases answer
    | answered status' chunks how =>
      cases answer
      exact intact.crashed_iff.mpr ⟨[.arrive, .poll], [.poll], rfl,
        readsRefusal_start id kind timeout refused chunks how, List.mem_singleton.mpr rfl⟩

/-- The pull that waits for the head may be given up, the one that waits for the text may not. -/
example : (Exchange.start "a" .llm 5 (.answered 500 [[0x6F], [0x6B]] .complete)).progress
      [.poll, .giveUp, .arrive, .poll, .arrive, .giveUp, .arrive, .arrive, .poll] =
    [.waiting none, .waiting (some 500), .crashed] := by decide +kernel

end Backchannel.Http
