/-
# Backchannel.Proofs.Session.Resolution -- how a request is resolved

A request is resolved once: by the turn that closes its mailbox, or by its caller, who finds
nothing at the deadline and gives up.  `resolution` reads off the steps of a run how, and
`Sound.step_waiting` says that the mailbox of a caller that waits holds just that, next to the
items that were routed to it.
-/
import Backchannel.Proofs.Session.Turn

namespace Backchannel

set_option autoImplicit false

open Backchannel.Json (Value)

namespace Session

variable {s : Session} {id : RequestId} {m : Move} {t : List Step} {st : Step}

/-- The caller of a request finds nothing at its deadline, and gives up. -/
def lapse? (id : RequestId) (s : Session) : Option Closure :=
  (s.ticket? id).bind fun t =>
    if t.box.items.isEmpty && t.sub.deadline ≤ s.now then
      some (.failed (.timeout id t.sub.timeout))
    else none

/-- How a step resolves a request that waits, if it does. -/
def Step.resolves? (id : RequestId) (st : Step) : Option Closure :=
  if st.before.isOutstanding id then
    match turn st.move st.before id with
    | .closed c => some c
    | .pulled _ => st.before.lapse? id
    | _ => none
  else none

/-- How a request was resolved by the steps of a run, if it was. -/
def resolution (id : RequestId) (t : List Step) : Option Closure :=
  t.findSome? (Step.resolves? id)

theorem resolution_snoc (id : RequestId) (t : List Step) (st : Step) :
    resolution id (t ++ [st]) = (resolution id t).or (st.resolves? id) := by
  simp [resolution, List.findSome?_append]

/-- The errors with which requests are resolved are told as they are. -/
theorem resolution_pulled {c : Closure} (resolved : resolution id t = some c) :
    ∀ e, c = .failed e → e.duplicate = e := by
  obtain ⟨st, -, found⟩ := List.exists_of_findSome?_eq_some resolved
  rintro e rfl
  simp only [Step.resolves?] at found
  split at found
  · split at found
    · rename_i c turned
      obtain rfl : c = .failed e := Option.some.inj found
      rcases turn_closed turned with same | ⟨_, same⟩ | ⟨_, same⟩ | ⟨_, -, -, same⟩ |
        ⟨_, -, same⟩ <;> cases same <;> rfl
    · simp only [lapse?, Option.bind_eq_some_iff] at found
      obtain ⟨ticket, -, late⟩ := found
      split at late
      · cases late
        rfl
      · cases late
    · cases found
  · cases found

theorem Registered.isOutstanding_eq (h : Registered s) {ticket : Ticket}
    (held : s.ticket? id = some ticket) : s.isOutstanding id = ticket.isOpen := by
  rw [Bool.eq_iff_iff, h.isOutstanding_iff]
  simp [held]

/-- To a caller that does not wait nothing happens any more. -/
theorem Sound.step_settled (h : Sound s) (other : m.caller? ≠ some id) {ticket : Ticket}
    (held : s.ticket? id = some ticket) (settled : ticket.isOpen = false) :
    (s.step m).ticket? id = some ticket ∧ Step.item? id ⟨s, m⟩ = none ∧
      Step.resolves? id ⟨s, m⟩ = none := by
  refine ⟨?_, ?_, ?_⟩
  · rw [(h.step m).ticket, held]
    rcases turn_of_other other with same | ⟨v, same⟩ | ⟨c, same⟩ <;> rw [same]
    · rfl
    · exact congrArg some (Ticket.put_of_not_open settled v)
    · exact congrArg some (Ticket.close_of_not_open settled c)
  · rw [h.item?_eq, held]
    exact item?_of_not_open settled
  · simp [Step.resolves?, h.isOutstanding_eq held, settled]

/-- A move of someone else adds to the mailbox of a caller that waits what it routes to it, and
closes it if it resolves the request. -/
theorem Sound.step_waiting (h : Sound s) (other : m.caller? ≠ some id) {ticket : Ticket}
    (held : s.ticket? id = some ticket) (isOpen : ticket.isOpen = true) :
    ∃ box, (s.step m).ticket? id = some ⟨ticket.sub, box⟩ ∧
      box.closure = Step.resolves? id ⟨s, m⟩ ∧
      (ticket.box.dropped = 0 → box.dropped = 0 →
        box.items = ticket.box.items ++ (Step.item? id ⟨s, m⟩).toList) := by
  have opened := (Ticket.isOpen_iff.mp isOpen).2
  have item := h.item?_eq id m
  rw [held] at item
  rw [(h.step m).ticket, item, held, Step.resolves?, h.isOutstanding_eq held, if_pos isOpen]
  have turns : turn m s id = .idle ∨ _ := turn_of_other other
  generalize turn m s id = turn at turns ⊢
  rcases turns with rfl | ⟨v, rfl⟩ | ⟨c, rfl⟩
  · exact ⟨ticket.box, rfl, opened, fun _ _ => (List.append_nil _).symm⟩
  · have put : ticket.put v = ⟨ticket.sub, ticket.box.push v⟩ := if_pos isOpen
    refine ⟨ticket.box.push v, congrArg some put, ?_, fun kept still => ?_⟩
    · rw [Mailbox.push_closure, opened]
    · rw [Mailbox.push_kept opened kept still, Turn.item?, if_pos isOpen]
      rfl
  · have close : ticket.close c = ⟨ticket.sub, ticket.box.close c⟩ := if_pos isOpen
    refine ⟨ticket.box.close c, congrArg some close, ?_, fun _ _ => ?_⟩
    · rw [Mailbox.close_closure, opened, Option.getD_none]
    · rw [Mailbox.close_of_open opened]
      exact (List.append_nil _).symm

theorem Sound.item?_recv (h : Sound s) {ticket : Ticket} (held : s.ticket? id = some ticket) :
    Step.item? id ⟨s, .recv id⟩ = none := by
  rw [h.item?_eq, held]
  simp [turn, Turn.item?]

/-- A pull resolves a request that waits if its caller gives up. -/
theorem Sound.resolves?_recv (h : Sound s) {ticket : Ticket} (held : s.ticket? id = some ticket) :
    Step.resolves? id ⟨s, .recv id⟩ =
      if ticket.isOpen && ticket.box.items.isEmpty && ticket.sub.deadline ≤ s.now then
        some (.failed (.timeout id ticket.sub.timeout))
      else none := by
  cases isOpen : ticket.isOpen <;>
    simp [Step.resolves?, turn, lapse?, h.isOutstanding_eq held, held, isOpen]

end Session

end Backchannel
