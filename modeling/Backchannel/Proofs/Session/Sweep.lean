/-
# Backchannel.Proofs.Session.Sweep -- what a sweep does

A sweep goes through the ids whose deadline had passed when it began, looks at each once
more, and counts those that it fails.  Between the two nothing comes, so it fails them all:
the table keeps the entries whose deadline lies ahead, every mailbox of the others is closed
with the timeout of its request, and nothing else is touched (`Registered.sweeps`).
-/
import Backchannel.Proofs.Session.Backdrop

namespace Backchannel.Session

set_option autoImplicit false

variable {s : Session} {id : RequestId}

/-! ## Many requests are resolved -/

theorem resolve_rest (id : RequestId) (c : Closure) (s : Session) :
    ∃ table mailboxes, s.resolve id c = { s with table := table, mailboxes := mailboxes } := by
  unfold resolve onEntry
  split <;> exact ⟨_, _, rfl⟩

/-- Who resolves requests changes nothing but entries and mailboxes. -/
theorem resolveEach_rest (causes : Keyed RequestId Closure) (s : Session) :
    ∃ table mailboxes,
      s.resolveEach causes = { s with table := table, mailboxes := mailboxes } := by
  induction causes generalizing s with
  | nil => exact ⟨s.table, s.mailboxes, rfl⟩
  | cons e causes ih =>
    obtain ⟨table, mailboxes, first⟩ := resolve_rest e.1 e.2 s
    obtain ⟨table', mailboxes', rest⟩ := ih (s.resolve e.1 e.2)
    exact ⟨table', mailboxes', rest.trans (by rw [first])⟩

/-- The entries of the requests that are resolved go, all others stay. -/
theorem resolveEach_entries (causes : Keyed RequestId Closure) (s : Session) :
    (s.resolveEach causes).table = s.table.filter fun e => (causes.get? e.1).isNone := by
  induction causes generalizing s with
  | nil => exact (List.filter_eq_self.mpr fun _ _ => rfl).symm
  | cons cause causes ih =>
    refine (ih (s.resolve cause.1 cause.2)).trans ?_
    rw [resolve_table, Keyed.erase, List.filter_filter]
    congr
    funext e
    by_cases same : cause.1 = e.1
    · simp [Keyed.get?, same]
    · simp [Keyed.get?, same, Ne.symm same]

theorem resolve_mailbox {ref : MailboxRef} (c : Closure)
    (other : ∀ e, s.table.get? id = some e → e.mailbox ≠ ref) :
    (s.resolve id c).mailboxes[ref]? = s.mailboxes[ref]? := by
  cases found : s.table.get? id with
  | none => rw [resolve_of_none found]
  | some e =>
    have apart := other e found
    simp [resolve, onEntry, found, removeEntry, onMailbox, apart]

/-- A mailbox that belongs to no request that is resolved stays as it is. -/
theorem resolveEach_mailbox {ref : MailboxRef} (causes : Keyed RequestId Closure)
    (others : ∀ id ∈ causes.keys, ∀ e, s.table.get? id = some e → e.mailbox ≠ ref) :
    (s.resolveEach causes).mailboxes[ref]? = s.mailboxes[ref]? := by
  induction causes generalizing s with
  | nil => rfl
  | cons cause causes ih =>
    have own := others cause.1 List.mem_cons_self
    refine (ih fun id listed e found => ?_).trans (resolve_mailbox cause.2 own)
    rw [resolve_table, Keyed.get?_erase] at found
    split at found
    · cases found
    · exact others id (List.mem_cons_of_mem _ listed) e found

/-! ## Which they are -/

theorem expiry?_eq_some {c : Closure} :
    s.expiry? id = some c ↔
      ∃ e, s.table.get? id = some e ∧ e.deadline ≤ s.now ∧ expiry id e = c := by
  simp [expiry?, Option.map_eq_some_iff, Option.filter_eq_some_iff, and_assoc]

theorem Registered.expired_expiry? (h : Registered s) (listed : id ∈ s.expired.keys) :
    (s.expiry? id).isSome := by
  obtain ⟨e, among, rfl⟩ := List.mem_map.mp listed
  obtain ⟨present, late⟩ := List.mem_filter.mp among
  have found := Keyed.get?_of_mem h.nodup present
  rw [expiry?_eq_some.mpr ⟨e.2, found, of_decide_eq_true late, rfl⟩]
  rfl

/-- Each of several requests whose deadline has passed counts. -/
theorem foldl_expire_count (ids : List RequestId) (swept : Nat) (distinct : ids.Nodup)
    (late : ∀ id ∈ ids, (s.expiry? id).isSome) :
    (ids.foldl (fun swept id => (swept.1 + (swept.2.expire id).1.toNat, (swept.2.expire id).2))
        (swept, s)).1 = swept + ids.length := by
  induction ids generalizing s swept with
  | nil => rfl
  | cons id ids ih =>
    obtain ⟨apart, distinct⟩ := List.nodup_cons.mp distinct
    obtain ⟨c, cause⟩ := Option.isSome_iff_exists.mp (late id List.mem_cons_self)
    rw [List.foldl_cons, expire_eq, cause]
    refine (ih (swept + 1) distinct fun other listed => ?_).trans ?_
    · have differs : id ≠ other := fun same => apart (same ▸ listed)
      rw [resolve_expiry?, if_neg differs]
      exact late other (List.mem_cons_of_mem _ listed)
    · rw [List.length_cons, Nat.add_assoc, Nat.add_comm 1]

/-! ## The sweep -/

/-- What a sweep leaves, and the number that it tells. -/
structure Sweeps (s : Session) (swept : Nat) (s' : Session) : Prop where
  /-- The entries whose deadline has passed go, and no others. -/
  table : s'.table = s.table.filter fun e => s.now < e.2.deadline
  told : swept = (s.table.filter fun e => e.2.deadline ≤ s.now).length
  /-- The mailbox of each that goes was open.  It is closed with a timeout that names the
  request, behind what waits there. -/
  failed : ∀ id e, s.table.get? id = some e → e.deadline ≤ s.now →
    ∃ box, s.mailboxes[e.mailbox]? = some box ∧ box.closure = none ∧
      s'.mailboxes[e.mailbox]? =
        some { box with
          closure := some (.failed (.timeout id (e.deadline - e.createdAt))) }
  /-- All other mailboxes stay, -/
  others : ∀ ref, (∀ id e, s.table.get? id = some e → e.deadline ≤ s.now → e.mailbox ≠ ref) →
    s'.mailboxes[ref]? = s.mailboxes[ref]?
  /-- and so does everything else. -/
  rest : s' = { s with table := s'.table, mailboxes := s'.mailboxes }

theorem Registered.sweep_entries (h : Registered s) :
    s.sweep.table = s.table.filter fun e => s.now < e.2.deadline := by
  rw [sweep_eq, resolveEach_entries]
  refine List.filter_congr fun e present => ?_
  have found := Keyed.get?_of_mem h.nodup present
  rw [expiries_get?]
  by_cases late : e.2.deadline ≤ s.now
  · rw [expiry?_eq_some.mpr ⟨e.2, found, late, rfl⟩]
    simp [late]
  · have spared : s.expiry? e.1 = none := by simp [expiry?, found, late, Option.filter]
    rw [spared]
    simpa using late

theorem Registered.sweep_failed (h : Registered s) {e : Entry} (found : s.table.get? id = some e)
    (late : e.deadline ≤ s.now) :
    ∃ box, s.mailboxes[e.mailbox]? = some box ∧ box.closure = none ∧
      s.sweep.mailboxes[e.mailbox]? = some { box with closure := some (expiry id e) } := by
  obtain ⟨t, held, isOpen, mailbox, -, -⟩ := h.entry found
  have unclosed := (Ticket.isOpen_iff.mp isOpen).2
  have swept : s.sweep.ticket? id = some (t.close (expiry id e)) := by
    rw [h.sweep_ticket?, found, held]
    simp [Option.filter, late]
  have box := (ticket?_eq_some.mp swept).2
  rw [Ticket.close_sub] at box
  refine ⟨t.box, mailbox ▸ (ticket?_eq_some.mp held).2, unclosed, ?_⟩
  rw [mailbox, box]
  simp [Ticket.close, isOpen, Mailbox.close, unclosed]

theorem Registered.sweeps (h : Registered s) : Sweeps s s.sweepExpired.1 s.sweepExpired.2 where
  table := h.sweep_entries
  told := by
    have distinct : s.expired.keys.Nodup := h.nodup.sublist (List.filter_sublist.map Prod.fst)
    have count := foldl_expire_count s.expired.keys 0 distinct fun _ => h.expired_expiry?
    rw [Nat.zero_add, Keyed.keys, List.length_map] at count
    exact count
  failed := fun id e => h.sweep_failed
  others := by
    intro ref apart
    change s.sweep.mailboxes[ref]? = s.mailboxes[ref]?
    rw [sweep_eq]
    refine resolveEach_mailbox s.expiries fun id listed e found => ?_
    rw [Keyed.mem_keys_iff, expiries_get?, Option.isSome_iff_exists] at listed
    obtain ⟨c, cause⟩ := listed
    obtain ⟨e', found', late, -⟩ := expiry?_eq_some.mp cause
    cases found.symm.trans found'
    exact apart id e found late
  rest := by
    change s.sweep = { s with table := s.sweep.table, mailboxes := s.sweep.mailboxes }
    obtain ⟨table, mailboxes, same⟩ := resolveEach_rest s.expiries s
    rw [sweep_eq, same]

end Backchannel.Session
