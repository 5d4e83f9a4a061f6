/-
# Backchannel.Proofs.Session.Registry -- no entry is forgotten, and none is left

In every state that a session can come to, the entries are exactly those of the callers
that still wait (`registry_exact`).  An entry too many would be a leak; a caller too many
would wait for ever, so a caller without an entry always has an answer in its mailbox.
-/
import Backchannel.Proofs.Session.Turn

namespace Backchannel.Session

set_option autoImplicit false

open Backchannel.Json (Value)

variable {s : Session} {id : RequestId}

/-- The entries of a session and the subscriptions of its callers fit. -/
structure RegistryExact (s : Session) : Prop where
  /-- The entries are those of the subscriptions that are not done and whose mailbox is
  open, -/
  keys : ∀ id, id ∈ s.table.keys ↔ ∃ sub box, s.subscriptions.get? id = some sub ∧
    sub.done = false ∧ s.mailboxes[sub.mailbox]? = some box ∧ box.closure = none
  /-- one each, -/
  once : s.table.keys.Nodup
  /-- and with the same mailbox. -/
  shared : ∀ id e, s.table.get? id = some e →
    ∃ sub, s.subscriptions.get? id = some sub ∧ e.mailbox = sub.mailbox
  /-- Without an entry a subscription that is not done has a mailbox that is closed, so
  its caller need not wait. -/
  answered : ∀ id sub, s.subscriptions.get? id = some sub → sub.done = false →
    id ∉ s.table.keys → ∃ box c, s.mailboxes[sub.mailbox]? = some box ∧
      box.closure = some c ∧ (s.recv id).1 ≠ .pending
  /-- What is said to be delivered is put behind what waits in an open mailbox. -/
  delivered : ∀ r, (s.route r).1 = .delivered → ∃ v e box, r.reply = .item v ∧
    s.table.get? r.id = some e ∧ s.mailboxes[e.mailbox]? = some box ∧ box.closure = none ∧
      (s.route r).2.mailboxes[e.mailbox]? = some (box.push v) ∧
        ∃ kept, kept <:+ box.items ∧ (box.push v).items = kept ++ [v]

/-- A caller whose mailbox is closed is answered at once. -/
theorem recv_of_closed {t : Ticket} (held : s.ticket? id = some t) {c : Closure}
    (closed : t.box.closure = some c) : (s.recv id).1 ≠ .pending := by
  rw [recv_eq held]
  exact Ticket.pull_ne_pending (by simp [Ticket.isOpen, closed]) id s.now

theorem Registered.exact (h : Registered s) : RegistryExact s where
  keys := by
    intro id
    rw [Keyed.mem_keys_iff]
    refine h.isOutstanding_iff.trans ⟨?_, ?_⟩
    · rintro ⟨t, held, isOpen⟩
      obtain ⟨found, stored⟩ := ticket?_eq_some.mp held
      obtain ⟨waits, opened⟩ := Ticket.isOpen_iff.mp isOpen
      exact ⟨t.sub, t.box, found, waits, stored, opened⟩
    · rintro ⟨sub, box, found, waits, stored, opened⟩
      exact ⟨⟨sub, box⟩, ticket?_eq_some.mpr ⟨found, stored⟩, Ticket.isOpen_iff.mpr ⟨waits, opened⟩⟩
  once := h.nodup
  shared := by
    intro id e found
    obtain ⟨t, held, -, mailbox, -, -⟩ := h.entry found
    exact ⟨t.sub, (ticket?_eq_some.mp held).1, mailbox⟩
  answered := by
    intro id sub found waits absent
    have bound := h.bound id sub.mailbox (by simp [ref?, found])
    have stored : s.mailboxes[sub.mailbox]? = some s.mailboxes[sub.mailbox] :=
      List.getElem?_eq_getElem bound
    have held : s.ticket? id = some ⟨sub, s.mailboxes[sub.mailbox]⟩ :=
      ticket?_eq_some.mpr ⟨found, stored⟩
    cases closed : s.mailboxes[sub.mailbox].closure with
    | none =>
      -- An open ticket has an entry.
      rw [Keyed.mem_keys_iff] at absent
      exact absurd (h.isOutstanding_iff.mpr ⟨_, held, Ticket.isOpen_iff.mpr ⟨waits, closed⟩⟩) absent
    | some c => exact ⟨_, c, stored, closed, recv_of_closed held closed⟩
  delivered := by
    intro r delivered
    cases found : s.table.get? r.id with
    | none => simp [route, found] at delivered
    | some e =>
      obtain ⟨t, held, isOpen, mailbox, -, -⟩ := h.entry found
      obtain ⟨-, stored⟩ := ticket?_eq_some.mp held
      have opened := (Ticket.isOpen_iff.mp isOpen).2
      cases reply : r.reply with
      | finish => simp [route, found, reply] at delivered
      | failed message => simp [route, found, reply] at delivered
      | item v =>
        refine ⟨v, e, t.box, rfl, rfl, mailbox ▸ stored, opened, ?_, t.box.push_items opened v⟩
        simp [route, found, reply, onMailbox, mailbox, stored]

/-- In every state that a session can come to, entries and subscriptions fit. -/
theorem registry_exact (settings : Settings) (ms : List Move) :
    RegistryExact (run ms (start settings)) :=
  (sound_run settings ms).toRegistered.exact

end Backchannel.Session
