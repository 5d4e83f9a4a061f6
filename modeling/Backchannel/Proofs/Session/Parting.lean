/-
# Backchannel.Proofs.Session.Parting -- what came before the connection closed

A caller who is told that the connection closed has got every reply to its request by then,
and each of them was an item (`told_before_close`).  That all items were got is known from
the account of the request; what remains is that no reply had ended it.  So the invariant is
about the callers who may still be told of a close: they wait, or their mailbox was closed
for it, and nothing but items has come for them (`Unbroken`).
-/
import Backchannel.Proofs.Session.Closing
import Backchannel.Proofs.Session.Delivery

namespace Backchannel

set_option autoImplicit false

open Backchannel.Json (Value)

/-- The caller may be told that the connection closed. -/
def Ticket.MayPart (t : Ticket) : Prop :=
  t.isOpen = true ∨ ∃ reason, t.box.closure = some (.failed (.connectionClosed reason))

/-- A pull makes nobody wait for a close who did not before. -/
theorem Ticket.MayPart.of_pull {t : Ticket} {id : RequestId} {now : Instant}
    (after : (t.pull id now).2.MayPart) : t.MayPart := by
  rcases after with isOpen | ⟨reason, closed⟩
  · left
    cases before : t.isOpen with
    | true => rfl
    | false =>
      rw [pull_not_open before] at isOpen
      cases isOpen
  · rcases t.pull_closure id now with same | finished
    · exact .inr ⟨reason, same ▸ closed⟩
    · rw [finished] at closed
      cases closed

/-- The reply that a turn brings to a caller who waits. -/
def Turn.replyTo? (turn : Turn) : Option Ticket → Option Reply
  | some t => if t.isOpen then turn.reply? else none
  | none => none

namespace Session

variable {id : RequestId} {t : List Step} {st : Step} {ticket : Option Ticket} {s : Session}
  {m : Move} {ms : List Move} {reason : CloseReason}

/-- The replies that came for a request while it was outstanding, in order. -/
def replies (id : RequestId) (t : List Step) : List Reply := t.filterMap (Step.reply? id)

/-- Nothing but items has come for a request. -/
def OnlyItems (id : RequestId) (t : List Step) : Prop := ∀ r ∈ replies id t, ∃ v, r = .item v

theorem replies_snoc (id : RequestId) (t : List Step) (st : Step) :
    replies id (t ++ [st]) = replies id t ++ (st.reply? id).toList :=
  filterMap_snoc _ t st

theorem replies_of_none (reply : st.reply? id = none) :
    replies id (t ++ [st]) = replies id t := by
  simp [replies_snoc, reply]

theorem OnlyItems.quiet (h : OnlyItems id t) (reply : st.reply? id = none) :
    OnlyItems id (t ++ [st]) := by
  rw [OnlyItems, replies_of_none reply]
  exact h

theorem OnlyItems.item (h : OnlyItems id t) {v : Value} (reply : st.reply? id = some (.item v)) :
    OnlyItems id (t ++ [st]) := by
  rw [OnlyItems, replies_snoc, reply]
  intro r among
  rcases List.mem_append.mp among with before | now
  · exact h r before
  · exact ⟨v, List.mem_singleton.mp now⟩

/-- The items of a request are those of its replies. -/
theorem routed_eq (id : RequestId) (t : List Step) :
    routed id t = (replies id t).filterMap itemOf? := by
  rw [replies, List.filterMap_filterMap]
  rfl

theorem OnlyItems.replies_eq (h : OnlyItems id t) : replies id t = (routed id t).map .item := by
  rw [routed_eq]
  unfold OnlyItems at h
  generalize replies id t = rs at h
  induction rs with
  | nil => rfl
  | cons r rs ih =>
    obtain ⟨v, rfl⟩ := h r (by simp)
    have rest := ih fun r among => h r (by simp [among])
    exact congrArg (Reply.item v :: ·) rest

/-! ## One step -/

/-- What is so of a request, given its ticket, as long as nothing has ended it but a close. -/
structure Unbroken (id : RequestId) (t : List Step) (ticket : Option Ticket) : Prop where
  /-- For who may be told of a close there were only items, -/
  pending : ∀ held, ticket = some held → held.MayPart → OnlyItems id t
  /-- and likewise for who was told, for whom nothing comes any more. -/
  told : ∀ reason, .failed (.connectionClosed reason) ∈ results id t →
    OnlyItems id t ∧ ∀ held, ticket = some held → held.isOpen = false

theorem Unbroken.quiet (h : Unbroken id t ticket) (reply : st.reply? id = none)
    (pull : st.pull? id = none) : Unbroken id (t ++ [st]) ticket where
  pending := fun held found may => (h.pending held found may).quiet reply
  told := by
    intro reason among
    rw [results_of_none pull] at among
    obtain ⟨items, ended⟩ := h.told reason among
    exact ⟨items.quiet reply, ended⟩

/-- A reply comes for a request that waits. -/
theorem Unbroken.reply {held after : Ticket} (h : Unbroken id t (some held))
    (isOpen : held.isOpen = true) (pull : st.pull? id = none)
    (items : after.MayPart → OnlyItems id t → OnlyItems id (t ++ [st])) :
    Unbroken id (t ++ [st]) (some after) where
  pending := by
    rintro _ ⟨⟩ may
    exact items may (h.pending held rfl (.inl isOpen))
  told := by
    intro reason among
    rw [results_of_none pull] at among
    have ended := (h.told reason among).2 held rfl
    rw [isOpen] at ended
    cases ended

theorem Unbroken.pull {held : Ticket} (h : Unbroken id t (some held)) (now : Instant)
    (reply : st.reply? id = none) (pull : st.pull? id = some (held.pull id now).1) :
    Unbroken id (t ++ [st]) (some (held.pull id now).2) where
  pending := by
    rintro _ ⟨⟩ may
    exact (h.pending held rfl may.of_pull).quiet reply
  told := by
    intro reason among
    rw [results_snoc, pull] at among
    rcases List.mem_append.mp among with before | shown
    · obtain ⟨items, ended⟩ := h.told reason before
      refine ⟨items.quiet reply, ?_⟩
      rintro _ ⟨⟩
      exact Ticket.pull_not_open (ended held rfl) id now
    · -- It is told of the close now, so its mailbox was closed for it.
      have now_told : (held.pull id now).1 = .failed (.connectionClosed reason) := by
        simp only [Option.mem_toList, Option.filter_eq_some_iff] at shown
        exact Option.some.inj shown.1
      have closed := pull_tells now_told
      have ended : held.isOpen = false := by simp [Ticket.isOpen, closed]
      refine ⟨(h.pending held rfl (.inr ⟨reason, closed⟩)).quiet reply, ?_⟩
      rintro _ ⟨⟩
      exact Ticket.pull_not_open ended id now

/-- A request takes its turn, any but the first. -/
theorem Unbroken.turn (h : Unbroken id t ticket) {turn : Turn}
    (reply : st.reply? id = turn.replyTo? ticket) (pull : st.pull? id = turn.pull? id ticket)
    (made : ∀ new, turn ≠ .opened new) : Unbroken id (t ++ [st]) (turn.apply id ticket) := by
  cases ticket with
  | none =>
    have gone : turn.apply id none = none := by
      cases turn with
      | opened new => exact absurd rfl (made new)
      | _ => rfl
    rw [gone]
    exact h.quiet reply (pull.trans (by cases turn <;> rfl))
  | some held =>
    rw [Turn.replyTo?] at reply
    cases turn with
    | opened new => exact absurd rfl (made new)
    | idle => exact h.quiet (reply.trans (ite_self none)) pull
    | dropped =>
      have quiet := h.quiet (reply.trans (ite_self none)) pull
      change Unbroken id (t ++ [st]) none
      refine ⟨fun _ absent => ?_, fun reason among => ⟨(quiet.told reason among).1, ?_⟩⟩
      · cases absent
      · intro _ absent
        cases absent
    | pulled now => exact h.pull now (reply.trans (ite_self none)) pull
    | item v =>
      change Unbroken id (t ++ [st]) (some (held.put v))
      cases isOpen : held.isOpen with
      | false =>
        rw [Ticket.put_of_not_open isOpen]
        exact h.quiet (reply.trans (if_neg (by simp [isOpen]))) pull
      | true =>
        have came : st.reply? id = some (.item v) := reply.trans (if_pos isOpen)
        exact h.reply isOpen pull fun _ items => items.item came
    | closed c =>
      change Unbroken id (t ++ [st]) (some (held.close c))
      cases isOpen : held.isOpen with
      | false =>
        rw [Ticket.close_of_not_open isOpen]
        exact h.quiet (reply.trans (if_neg (by simp [isOpen]))) pull
      | true =>
        refine h.reply isOpen pull fun may items => items.quiet ?_
        rw [reply, if_pos isOpen]
        rcases may with still | ⟨reason, closed⟩
        · rw [Ticket.close_isOpen] at still
          cases still
        · -- The mailbox was open, so this is what closed it.
          have opened := (Ticket.isOpen_iff.mp isOpen).2
          rw [Ticket.close, if_pos isOpen, Mailbox.close_closure, opened] at closed
          cases closed
          rfl

/-! ## A whole run -/

theorem Sound.replyTo?_eq (h : Sound s) (id : RequestId) (m : Move) :
    Step.reply? id ⟨s, m⟩ = (Session.turn m s id).replyTo? (s.ticket? id) := by
  rw [Step.reply?_eq]
  cases held : s.ticket? id with
  | none =>
    have absent : ¬ s.isOutstanding id = true := by
      intro waits
      obtain ⟨ticket, found, -⟩ := h.isOutstanding_iff.mp waits
      rw [held] at found
      cases found
    exact if_neg absent
  | some ticket =>
    have same : s.isOutstanding id = ticket.isOpen := by
      cases waits : s.isOutstanding id with
      | false => exact (h.not_open held waits).symm
      | true =>
        obtain ⟨other, found, isOpen⟩ := h.isOutstanding_iff.mp waits
        rw [held] at found
        cases found
        exact isOpen.symm
    rw [same]
    rfl

/-- Nothing has come for a request that was not made, not even an end of it. -/
structure Unasked (id : RequestId) (t : List Step) (ticket : Option Ticket) : Prop
    extends Unmade id t ticket where
  replies : replies id t = []

theorem Unasked.unbroken (h : Unasked id t ticket) : Unbroken id t ticket where
  pending := by
    intro held found may
    rw [h.absent] at found
    cases found
  told := by
    intro reason among
    rw [h.results] at among
    cases among

theorem Sound.unasked_step (h : Sound s) (unasked : Unasked id t (s.ticket? id))
    (other : m.sends? ≠ some id) : Unasked id (t ++ [⟨s, m⟩]) ((s.step m).ticket? id) where
  toUnmade := h.unmade_step unasked.toUnmade other
  replies := by
    have none : Step.reply? id ⟨s, m⟩ = none := by
      rw [h.replyTo?_eq, unasked.absent]
      rfl
    rw [replies_of_none none, unasked.replies]

theorem Sound.unbroken_step (h : Sound s) (unbroken : Unbroken id t (s.ticket? id))
    (unasked : m.sends? = some id → Unasked id t (s.ticket? id)) :
    Unbroken id (t ++ [⟨s, m⟩]) ((s.step m).ticket? id) := by
  rw [(h.step m).ticket]
  have reply := h.replyTo?_eq id m
  have pull := h.pull?_eq id m
  by_cases opens : ∃ new, Session.turn m s id = .opened new
  · obtain ⟨new, opened⟩ := opens
    obtain ⟨-, sessionId, kind, payload, rfl, -⟩ := turn_opened opened
    have fresh := unasked rfl
    rw [opened] at pull
    rw [fresh.absent] at reply
    have nothing : replies id (t ++ [⟨s, .send id sessionId kind payload⟩]) = [] := by
      rw [replies_of_none reply, fresh.replies]
    refine ⟨fun _ _ _ r among => ?_, fun reason among => ?_⟩
    · rw [nothing] at among
      cases among
    · rw [results_of_none pull, fresh.results] at among
      cases among
  · exact unbroken.turn reply pull fun new opened => opens ⟨new, opened⟩

theorem Sound.unbroken_run (h : Sound s) (distinct : Distinct ms)
    (unbroken : Unbroken id t (s.ticket? id))
    (unasked : id ∈ sentIds ms → Unasked id t (s.ticket? id)) :
    Unbroken id (t ++ steps ms s) ((Session.run ms s).ticket? id) :=
  run_once (fun t s => Unbroken id t (s.ticket? id)) (fun t s => Unasked id t (s.ticket? id))
    unasked_step unbroken_step h distinct unbroken unasked

/-! ## What was told -/

/-- Results that tell of a close start with the items that came. -/
theorem Told.before_close {room : Nat} {taken : List Value} {told given later : List (Pulled Value)}
    (h : Told room id t taken told)
    (parts : told = given ++ .failed (.connectionClosed reason) :: later) :
    given = taken.map .item := by
  cases h with
  | @items items inOrder =>
    have among : .failed (.connectionClosed reason) ∈ items.map Pulled.item := by simp [parts]
    simp at among
  | @ended items last n inOrder why =>
    rcases List.append_eq_append_iff.mp parts with ⟨between, front, back⟩ | ⟨between, front, back⟩
    · cases between with
      | nil =>
        cases back
        rw [List.append_nil] at front
        rw [front, (why : taken = items)]
      | cons first between =>
        -- Only the end follows the last result.
        rw [List.cons_append] at back
        have ends : Pulled.failed (.connectionClosed reason) = Pulled.finished :=
          List.eq_of_mem_replicate (n := n) (by rw [(List.cons.inj back).2]; simp)
        cases ends
    · cases between with
      | nil =>
        cases back
        rw [List.append_nil] at front
        rw [← front, (why : taken = items)]
      | cons first between =>
        cases back
        have among : .failed (.connectionClosed reason) ∈ items.map Pulled.item := by simp [front]
        simp at among

/-- Who is told that the connection closed got every reply that came before, and each was an
item. -/
theorem told_before_close (settings : Settings) (distinct : Distinct ms)
    {given later : List (Pulled Value)}
    (told : results id (steps ms (start settings)) =
      given ++ .failed (.connectionClosed reason) :: later) :
    ∃ items : List Value, replies id (steps ms (start settings)) = items.map .item ∧
      given = items.map .item := by
  have sound := sound_start settings
  have unmade : Unmade id [] ((start settings).ticket? id) := ⟨rfl, rfl, rfl⟩
  have unasked : Unasked id [] ((start settings).ticket? id) := ⟨unmade, rfl⟩
  have account := sound.account_run distinct unmade.account fun _ => unmade
  have unbroken := sound.unbroken_run distinct unasked.unbroken fun _ => unasked
  rw [List.nil_append] at account unbroken
  have items := (unbroken.told reason (by simp [told])).1
  exact ⟨_, items.replies_eq, account.told.before_close told⟩

end Session

end Backchannel
