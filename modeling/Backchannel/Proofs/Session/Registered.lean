/-
# Backchannel.Proofs.Session.Registered -- entries and tickets belong together

A request is looked after at two places: the session has its entry, the caller its
ticket (`Session.ticket?`).  `Registered` says how the two fit.  Every subscription has a
mailbox to itself.  An entry stands for a ticket that is open, and refers to its mailbox;
and every open ticket has an entry.

Each operation on one request is told here by what it does to the ticket of every id,
and keeps the session registered.
-/
import Backchannel.Proofs.Session.Ticket

namespace Backchannel

set_option autoImplicit false

open Backchannel.Json (Value)

namespace Session

variable {s : Session} {id : RequestId}

/-- The caller's end of a request. -/
def ticket? (s : Session) (id : RequestId) : Option Ticket :=
  (s.subscriptions.get? id).bind fun sub => (s.mailboxes[sub.mailbox]?).map (Ticket.mk sub)

/-- The mailbox that a subscription refers to. -/
def ref? (s : Session) (id : RequestId) : Option Nat :=
  (s.subscriptions.get? id).map Subscription.mailbox

/-- The entry and the ticket of one request. -/
def Agree : Option Entry → Option Ticket → Prop
  | none, none => True
  | none, some t => t.isOpen = false
  | some e, some t => t.isOpen = true ∧ e.mailbox = t.sub.mailbox ∧ e.kind = t.sub.kind ∧
      e.deadline = t.sub.deadline
  | some _, none => False

structure Registered (s : Session) : Prop where
  nodup : s.table.keys.Nodup
  bound : ∀ id ref, s.ref? id = some ref → ref < s.mailboxes.length
  apart : ∀ id other ref, s.ref? id = some ref → s.ref? other = some ref → id = other
  agree : ∀ id, Agree (s.table.get? id) (s.ticket? id)

theorem registered_start (settings : Settings) : Registered (start settings) where
  nodup := List.nodup_nil
  bound := by simp [ref?, start]
  apart := by simp [ref?, start]
  agree := by simp [ticket?, start, Agree]

theorem ref?_of_ticket? {t : Ticket} (h : s.ticket? id = some t) :
    s.ref? id = some t.sub.mailbox := by
  simp only [ticket?, Option.bind_eq_some_iff, Option.map_eq_some_iff] at h
  obtain ⟨sub, held, box, _, rfl⟩ := h
  simp [ref?, held]

theorem ticket?_eq_some {t : Ticket} :
    s.ticket? id = some t ↔
      s.subscriptions.get? id = some t.sub ∧ s.mailboxes[t.sub.mailbox]? = some t.box := by
  simp only [ticket?, Option.bind_eq_some_iff, Option.map_eq_some_iff]
  constructor
  · rintro ⟨sub, found, box, stored, rfl⟩
    exact ⟨found, stored⟩
  · rintro ⟨found, stored⟩
    exact ⟨t.sub, found, t.box, stored, rfl⟩

theorem mailboxOf?_eq (s : Session) (id : RequestId) :
    s.mailboxOf? id = (s.ticket? id).map Ticket.box := by
  cases found : s.subscriptions.get? id with
  | none => simp [mailboxOf?, ticket?, found]
  | some sub =>
    cases stored : s.mailboxes[sub.mailbox]? <;> simp [mailboxOf?, ticket?, found, stored]

theorem Registered.entry (h : Registered s) {e : Entry} (found : s.table.get? id = some e) :
    ∃ t, s.ticket? id = some t ∧ t.isOpen = true ∧ e.mailbox = t.sub.mailbox ∧
      e.kind = t.sub.kind ∧ e.deadline = t.sub.deadline := by
  have agree := h.agree id
  cases ticket : s.ticket? id with
  | none => simp [found, ticket, Agree] at agree
  | some t => exact ⟨t, rfl, by simpa [found, ticket, Agree] using agree⟩

/-- A request is outstanding as long as its caller waits for more than is there. -/
theorem Registered.isOutstanding_iff (h : Registered s) :
    s.isOutstanding id = true ↔ ∃ t, s.ticket? id = some t ∧ t.isOpen = true := by
  have agree := h.agree id
  cases found : s.table.get? id <;> cases ticket : s.ticket? id <;>
    simp_all [Agree, isOutstanding, Keyed.contains]

theorem Registered.not_open (h : Registered s) {t : Ticket} (held : s.ticket? id = some t)
    (settled : s.isOutstanding id = false) : t.isOpen = false := by
  cases isOpen : t.isOpen with
  | false => rfl
  | true =>
    rw [h.isOutstanding_iff.mpr ⟨t, held, isOpen⟩] at settled
    cases settled

theorem Registered.ticket?_isSome (h : Registered s) :
    (s.ticket? id).isSome = (s.subscriptions.get? id).isSome := by
  cases held : s.subscriptions.get? id with
  | none => simp [ticket?, held]
  | some sub =>
    have bound := h.bound id sub.mailbox (by simp [ref?, held])
    simp [ticket?, held, List.getElem?_eq_getElem bound]

theorem ticket?_congr {s' : Session} (subscriptions : s'.subscriptions = s.subscriptions)
    (mailboxes : s'.mailboxes = s.mailboxes) (id : RequestId) : s'.ticket? id = s.ticket? id := by
  simp only [ticket?, subscriptions, mailboxes]

theorem Registered.congr {s' : Session} (h : Registered s) (table : s'.table = s.table)
    (subscriptions : s'.subscriptions = s.subscriptions)
    (mailboxes : s'.mailboxes = s.mailboxes) : Registered s' where
  nodup := by rw [table]; exact h.nodup
  bound := by simpa only [ref?, subscriptions, mailboxes] using h.bound
  apart := by simpa only [ref?, subscriptions] using h.apart
  agree := by
    intro id
    rw [table, ticket?_congr subscriptions mailboxes]
    exact h.agree id

/-- A change to one request, which leaves every subscription its mailbox, keeps a
session registered if it keeps the entry and the ticket of that request together. -/
theorem Registered.of_one {s' : Session} (h : Registered s) (id : RequestId)
    (refs : ∀ other, s'.ref? other = s.ref? other)
    (size : s'.mailboxes.length = s.mailboxes.length) (nodup : s'.table.keys.Nodup)
    (others : ∀ other, id ≠ other →
      s'.table.get? other = s.table.get? other ∧ s'.ticket? other = s.ticket? other)
    (own : Agree (s'.table.get? id) (s'.ticket? id)) : Registered s' where
  nodup := nodup
  bound := by
    intro other ref held
    rw [refs] at held
    rw [size]
    exact h.bound other ref held
  apart := by
    intro one other ref held held'
    rw [refs] at held held'
    exact h.apart one other ref held held'
  agree := by
    intro other
    by_cases same : id = other
    · exact same ▸ own
    · obtain ⟨table, ticket⟩ := others other same
      rw [table, ticket]
      exact h.agree other

/-! ## Mailboxes and entries -/

theorem onMailbox_ticket? (ref : MailboxRef) (f : Mailbox → Mailbox) (s : Session)
    (id : RequestId) :
    (s.onMailbox ref f).ticket? id = (s.ticket? id).map fun t =>
      if t.sub.mailbox = ref then { t with box := f t.box } else t := by
  cases held : s.subscriptions.get? id with
  | none => simp [ticket?, onMailbox, held]
  | some sub =>
    cases box : s.mailboxes[sub.mailbox]? with
    | none => simp [ticket?, onMailbox, held, List.getElem?_modify, box]
    | some box' =>
      by_cases same : sub.mailbox = ref
      · subst same
        simp [ticket?, onMailbox, held, box]
      · simp [ticket?, onMailbox, held, List.getElem?_modify, box, same, Ne.symm same]

@[simp] theorem onMailbox_table (ref : MailboxRef) (f : Mailbox → Mailbox) (s : Session) :
    (s.onMailbox ref f).table = s.table := rfl

@[simp] theorem onMailbox_size (ref : MailboxRef) (f : Mailbox → Mailbox) (s : Session) :
    (s.onMailbox ref f).mailboxes.length = s.mailboxes.length := by
  simp [onMailbox]

/-- What is done to the mailbox of one request is done to that request alone. -/
theorem Registered.onMailbox_ticket? (h : Registered s) {t : Ticket}
    (held : s.ticket? id = some t) (f : Mailbox → Mailbox) (other : RequestId) :
    (s.onMailbox t.sub.mailbox f).ticket? other =
      if id = other then some { t with box := f t.box } else s.ticket? other := by
  rw [Session.onMailbox_ticket?]
  by_cases same : id = other
  · subst same
    simp [held]
  · rw [if_neg same]
    cases held' : s.ticket? other with
    | none => rfl
    | some t' =>
      have apart : t'.sub.mailbox ≠ t.sub.mailbox := by
        intro ref
        have held' := ref?_of_ticket? held'
        rw [ref] at held'
        exact same (h.apart id other _ (ref?_of_ticket? held) held')
      simp [apart]

/-! ## Outstanding requests -/

/-- Does something to the mailbox of a request that is outstanding. -/
def onEntry (id : RequestId) (f : Mailbox → Mailbox) (s : Session) : Session :=
  match s.table.get? id with
  | some e => s.onMailbox e.mailbox f
  | none => s

@[simp] theorem onEntry_table (id : RequestId) (f : Mailbox → Mailbox) (s : Session) :
    (s.onEntry id f).table = s.table := by
  unfold onEntry
  split <;> rfl

@[simp] theorem onEntry_ref? (id : RequestId) (f : Mailbox → Mailbox) (s : Session)
    (other : RequestId) : (s.onEntry id f).ref? other = s.ref? other := by
  unfold onEntry
  split <;> rfl

@[simp] theorem onEntry_size (id : RequestId) (f : Mailbox → Mailbox) (s : Session) :
    (s.onEntry id f).mailboxes.length = s.mailboxes.length := by
  unfold onEntry
  split <;> simp

/-- The ticket notices it if it is open, and no other ticket does. -/
theorem Registered.onEntry_ticket? (h : Registered s) (f : Mailbox → Mailbox)
    (other : RequestId) :
    (s.onEntry id f).ticket? other =
      if id = other then
        (s.ticket? id).map fun t => if t.isOpen then { t with box := f t.box } else t
      else s.ticket? other := by
  unfold onEntry
  split
  · rename_i e found
    obtain ⟨t, held, isOpen, mailbox, -, -⟩ := h.entry found
    rw [mailbox, h.onMailbox_ticket? held]
    simp [held, isOpen]
  · rename_i absent
    have agree := h.agree id
    rw [absent] at agree
    by_cases same : id = other
    · subst same
      cases held : s.ticket? id with
      | none => simp
      | some t =>
        rw [held] at agree
        have ended : t.isOpen = false := agree
        simp [ended]
    · simp [same]

/-- An outstanding request is given an item. -/
def put (id : RequestId) (v : Value) (s : Session) : Session := s.onEntry id (.push v)

theorem Registered.put_ticket? (h : Registered s) (v : Value) (other : RequestId) :
    (s.put id v).ticket? other =
      if id = other then (s.ticket? id).map (Ticket.put v) else s.ticket? other :=
  h.onEntry_ticket? (.push v) other

theorem Registered.put (h : Registered s) (id : RequestId) (v : Value) :
    Registered (s.put id v) := by
  refine h.of_one id (onEntry_ref? id _ s) (onEntry_size id _ s) ?_ ?_ ?_
  · rw [Session.put, onEntry_table]
    exact h.nodup
  · intro other ne
    rw [h.put_ticket?, if_neg ne, Session.put, onEntry_table]
    exact ⟨rfl, rfl⟩
  · have agree := h.agree id
    rw [h.put_ticket?, if_pos rfl, Session.put, onEntry_table]
    cases found : s.table.get? id <;> cases held : s.ticket? id <;>
      simp_all [Agree]

/-- An outstanding request is resolved: its mailbox is closed and its entry goes. -/
def resolve (id : RequestId) (c : Closure) (s : Session) : Session :=
  (s.onEntry id (.close c)).removeEntry id

theorem resolve_table (id : RequestId) (c : Closure) (s : Session) :
    (s.resolve id c).table = s.table.erase id := by
  rw [resolve, removeEntry, onEntry_table]

theorem resolve_of_none (absent : s.table.get? id = none) (c : Closure) : s.resolve id c = s := by
  simp only [resolve, onEntry, removeEntry, absent, Keyed.erase_of_get?_none absent]

theorem fail_eq_resolve (id : RequestId) (e : CallError) (s : Session) :
    s.fail id e = s.resolve id (.failed e) := by
  cases found : s.table.get? id with
  | some entry =>
    simp only [fail, resolve, onEntry, found]
    rfl
  | none => rw [resolve_of_none found, fail, found]

theorem Registered.resolve_ticket? (h : Registered s) (c : Closure) (other : RequestId) :
    (s.resolve id c).ticket? other =
      if id = other then (s.ticket? id).map (Ticket.close c) else s.ticket? other :=
  h.onEntry_ticket? (.close c) other

theorem Registered.resolve (h : Registered s) (id : RequestId) (c : Closure) :
    Registered (s.resolve id c) := by
  refine h.of_one id (onEntry_ref? id _ s) (onEntry_size id _ s) ?_ ?_ ?_
  · rw [resolve_table]
    exact Keyed.nodup_keys_erase h.nodup id
  · intro other ne
    rw [resolve_table, Keyed.get?_erase, h.resolve_ticket?, if_neg ne, if_neg ne]
    exact ⟨rfl, rfl⟩
  · rw [resolve_table, Keyed.get?_erase_self, h.resolve_ticket?, if_pos rfl]
    cases held : s.ticket? id <;> simp [Agree]

/-! ## The caller -/

theorem conclude_ticket? (id : RequestId) (s : Session) (other : RequestId) :
    (s.conclude id).ticket? other =
      if id = other then (s.ticket? id).map Ticket.conclude else s.ticket? other := by
  by_cases same : id = other
  · subst same
    cases held : s.subscriptions.get? id with
    | none => simp [ticket?, conclude, removeEntry, Keyed.get?_modify, held]
    | some sub =>
      cases box : s.mailboxes[sub.mailbox]? <;>
        simp [ticket?, conclude, removeEntry, Keyed.get?_modify, held, box, Ticket.conclude]
  · simp [ticket?, conclude, removeEntry, Keyed.get?_modify, same]

theorem conclude_ref? (id : RequestId) (s : Session) (other : RequestId) :
    (s.conclude id).ref? other = s.ref? other := by
  cases held : s.subscriptions.get? other with
  | none => simp [ref?, conclude, removeEntry, Keyed.get?_modify, held]
  | some sub => by_cases same : id = other <;>
      simp [ref?, conclude, removeEntry, Keyed.get?_modify, held, same]

/-- Who has no ticket is told the end. -/
theorem recv_of_none (h : s.ticket? id = none) : s.recv id = (.finished, s) := by
  rw [← Option.map_eq_none_iff, ← mailboxOf?_eq] at h
  cases found : s.subscriptions.get? id <;> simp [recv, found, h]

/-- What a pull does, told by the ticket. -/
theorem recv_eq {t : Ticket} (held : s.ticket? id = some t) :
    s.recv id = ((t.pull id s.now).1,
      if t.sub.done then s
      else if (t.pull id s.now).2.sub.done then
        (s.onMailbox t.sub.mailbox fun _ => (t.pull id s.now).2.box).conclude id
      else s.onMailbox t.sub.mailbox fun _ => (t.pull id s.now).2.box) := by
  simp only [ticket?, Option.bind_eq_some_iff, Option.map_eq_some_iff] at held
  obtain ⟨sub, found, box, stored, rfl⟩ := held
  have mailbox : s.mailboxOf? id = some box := by simp [mailboxOf?, found, stored]
  cases done : sub.done with
  | true => simp [recv, found, mailbox, Ticket.pull, done]
  | false =>
    rcases box.take_cases with ⟨-, take⟩ | ⟨-, v, rest, -, take⟩ | ⟨-, -, c, -, take⟩ |
      ⟨-, -, -, take⟩
    · simp [recv, found, mailbox, Ticket.pull, Ticket.conclude, done, take]
    · simp [recv, found, mailbox, Ticket.pull, done, take]
    · cases c <;>
        simp [recv, found, mailbox, Ticket.pull, Ticket.conclude, done, take, Closure.pulled]
    · by_cases late : sub.deadline ≤ s.now <;>
        simp [recv, found, mailbox, Ticket.pull, Ticket.conclude, onMailbox, done, take, late]

theorem Registered.recv_ticket? (h : Registered s) {t : Ticket} (held : s.ticket? id = some t)
    (other : RequestId) :
    (s.recv id).2.ticket? other =
      if id = other then some (t.pull id s.now).2 else s.ticket? other := by
  rw [recv_eq held]
  cases done : t.sub.done with
  | true =>
    rw [Ticket.pull_of_done done]
    by_cases same : id = other
    · subst same
      simpa using held
    · simp [same]
  | false =>
    have stored := h.onMailbox_ticket? held fun _ => (t.pull id s.now).2.box
    rcases t.pull_sub id s.now with ⟨concludes, sub⟩ | ⟨waits, sub, -⟩
    · by_cases same : id = other
      · subst same
        simp only [Bool.false_eq_true, if_false, concludes, if_true, conclude_ticket?, stored,
          Option.map_some]
        exact congrArg some (congrArg (Ticket.mk · _) sub.symm)
      · simp [concludes, conclude_ticket?, stored, same]
    · by_cases same : id = other
      · subst same
        simp only [Bool.false_eq_true, if_false, waits, if_true, stored]
        exact congrArg some (congrArg (Ticket.mk · _) sub.symm)
      · simp [waits, stored, same]

theorem recv_ref? {t : Ticket} (held : s.ticket? id = some t) (other : RequestId) :
    (s.recv id).2.ref? other = s.ref? other := by
  rw [recv_eq held]
  simp only
  split
  · rfl
  · split
    · exact conclude_ref? _ _ _
    · rfl

theorem Registered.recv_table (h : Registered s) {t : Ticket} (held : s.ticket? id = some t) :
    (s.recv id).2.table =
      if (t.pull id s.now).2.sub.done then s.table.erase id else s.table := by
  rw [recv_eq held]
  cases done : t.sub.done with
  | true =>
    have agree := h.agree id
    have absent : s.table.get? id = none := by
      cases found : s.table.get? id with
      | none => rfl
      | some e => simp [held, found, Agree, Ticket.isOpen, done] at agree
    simp [Ticket.pull_of_done done, done, Keyed.erase_of_get?_none absent]
  | false => cases concludes : (t.pull id s.now).2.sub.done <;> simp [Session.conclude, removeEntry]

theorem Registered.recv (h : Registered s) (id : RequestId) : Registered (s.recv id).2 := by
  cases held : s.ticket? id with
  | none =>
    rwa [recv_of_none held]
  | some t =>
    have size : (s.recv id).2.mailboxes.length = s.mailboxes.length := by
      rw [recv_eq held]
      simp only
      split
      · rfl
      · split <;> simp [Session.conclude, removeEntry]
    refine h.of_one id (recv_ref? held) size ?_ ?_ ?_
    · rw [h.recv_table held]
      split
      · exact Keyed.nodup_keys_erase h.nodup id
      · exact h.nodup
    · intro other ne
      rw [h.recv_ticket? held, h.recv_table held, if_neg ne]
      refine ⟨?_, rfl⟩
      split
      · rw [Keyed.get?_erase, if_neg ne]
      · rfl
    · have agree := h.agree id
      rw [h.recv_ticket? held, h.recv_table held, if_pos rfl]
      rcases t.pull_sub id s.now with ⟨concludes, -⟩ | ⟨waits, sub, waiting⟩
      · simp [Agree, Ticket.isOpen, concludes]
      · rw [waits]
        cases found : s.table.get? id with
        | none => simpa [found, held, Agree, waiting] using agree
        | some e => simpa [found, held, Agree, waiting, sub] using agree

theorem drop_ticket? (id : RequestId) (s : Session) (other : RequestId) :
    (s.drop id).ticket? other = if id = other then none else s.ticket? other := by
  by_cases same : id = other <;> simp [ticket?, drop, removeEntry, Keyed.get?_erase, same]

theorem Registered.drop (h : Registered s) (id : RequestId) : Registered (s.drop id) where
  nodup := Keyed.nodup_keys_erase h.nodup id
  bound := by
    intro other ref held
    by_cases same : id = other
    · simp [ref?, Session.drop, same] at held
    · refine h.bound other ref ?_
      simpa [ref?, Session.drop, Keyed.get?_erase, same] using held
  apart := by
    intro one other ref held held'
    by_cases same : id = one
    · simp [ref?, Session.drop, same] at held
    · by_cases same' : id = other
      · simp [ref?, Session.drop, same'] at held'
      · refine h.apart one other ref ?_ ?_
        · simpa [ref?, Session.drop, Keyed.get?_erase, same] using held
        · simpa [ref?, Session.drop, Keyed.get?_erase, same'] using held'
  agree := by
    intro other
    rw [drop_ticket?]
    by_cases same : id = other
    · subst same
      simp [Session.drop, removeEntry, Agree]
    · simpa [Session.drop, removeEntry, Keyed.get?_erase, same] using h.agree other

/-- What the caller of a new request has. -/
def newTicket (id : RequestId) (kind : Kind) (s : Session) : Ticket where
  sub := ⟨kind, s.mailboxes.length, deadlineAfter s.now s.settings.requestTimeout,
    s.settings.requestTimeout, false⟩
  box := .empty id s.settings.queueCapacity

theorem Registered.register_ticket? (h : Registered s) (id : RequestId) (kind : Kind)
    (other : RequestId) :
    (s.register id kind).ticket? other =
      if id = other then some (s.newTicket id kind) else s.ticket? other := by
  by_cases same : id = other
  · subst same
    simp [ticket?, register, newTicket]
  · cases held : s.subscriptions.get? other with
    | none => simp [ticket?, register, Keyed.get?_insert, same, held]
    | some sub =>
      have bound := h.bound other sub.mailbox (by simp [ref?, held])
      simp [ticket?, register, Keyed.get?_insert, same, held, List.getElem?_append_left bound]

theorem register_ref? (id : RequestId) (kind : Kind) (s : Session) (other : RequestId) :
    (s.register id kind).ref? other =
      if id = other then some s.mailboxes.length else s.ref? other := by
  by_cases same : id = other <;> simp [ref?, register, Keyed.get?_insert, same]

theorem Registered.register (h : Registered s) (id : RequestId) (kind : Kind) :
    Registered (s.register id kind) where
  nodup := Keyed.nodup_keys_insert h.nodup _ _
  bound := by
    intro other ref held
    have size : (s.register id kind).mailboxes.length = s.mailboxes.length + 1 := by
      simp [Session.register]
    rw [register_ref?] at held
    rw [size]
    split at held
    · cases held; omega
    · have := h.bound other ref held; omega
  apart := by
    -- The new mailbox lies beyond all others.
    intro one other ref held held'
    rw [register_ref?] at held held'
    split at held <;> split at held'
    · simp_all
    · cases held
      have := h.bound other _ held'
      omega
    · cases held'
      have := h.bound one _ held
      omega
    · exact h.apart one other ref held held'
  agree := by
    intro other
    rw [h.register_ticket?]
    by_cases same : id = other
    · subst same
      simp [Session.register, newTicket, Agree, Ticket.isOpen, Mailbox.empty]
    · simpa [Session.register, Keyed.get?_insert, same] using h.agree other

end Session

end Backchannel
