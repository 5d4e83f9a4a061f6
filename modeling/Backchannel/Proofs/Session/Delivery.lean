/-
# Backchannel.Proofs.Session.Delivery -- complete and in order, or an error

The caller of a request gets the items that came for it in order, and the first result
that is no item says whether these were all (`delivery`).  An end means that the daemon
closes the stream and nothing before that is missing.  An error means that nothing is
missing which came before it, but for one: who fell behind is told how many items were
dropped, and from their number can tell how many had come.

The invariant is an `Account` of one request.  As long as its caller waits, its mailbox
is balanced between the items that came and those that were pulled; when the caller is
done, what it was told stands.
-/
import Backchannel.Proofs.Session.Turn

namespace Backchannel.Session

set_option autoImplicit false

open Backchannel.Json (Value)

variable {room : Nat} {id : RequestId} {t : List Step} {st : Step}

/-! ## What a request is told -/

/-- The daemon ended the request when these items had come for it. -/
def EndedAfter (id : RequestId) (t : List Step) (items : List Value) : Prop :=
  ∃ t₁ st t₂, t = t₁ ++ st :: t₂ ∧ st.reply? id = some .finish ∧ routed id t₁ = items

/-- Why there are no more items, when `taken` had come and `given` had been pulled. -/
def Explains (room : Nat) (id : RequestId) (t : List Step) (taken given : List Value) :
    Pulled Value → Prop
  | .finished => taken = given ∧ EndedAfter id t given
  | .failed (.lagged _ skipped) => 0 < skipped ∧ taken.length = given.length + skipped + room
  | .failed _ => taken = given
  | .item _ | .pending => False

/-- The items in order, then what explains that there are no more, then only the end. -/
inductive Told (room : Nat) (id : RequestId) (t : List Step) (taken : List Value) :
    List (Pulled Value) → Prop where
  | items {given : List Value} (inOrder : given <+: taken) :
    Told room id t taken (given.map .item)
  | ended {given : List Value} {last : Pulled Value} (n : Nat) (inOrder : given <+: taken)
    (why : Explains room id t taken given last) :
    Told room id t taken (given.map .item ++ last :: List.replicate n .finished)

theorem EndedAfter.later {items : List Value} (h : EndedAfter id t items) (st : Step) :
    EndedAfter id (t ++ [st]) items := by
  obtain ⟨t₁, found, t₂, rfl, reply, before⟩ := h
  exact ⟨t₁, found, t₂ ++ [st], by simp, reply, before⟩

theorem Explains.later {taken given : List Value} {last : Pulled Value}
    (h : Explains room id t taken given last) (st : Step) :
    Explains room id (t ++ [st]) taken given last := by
  cases last with
  | pending => exact h
  | item v => exact h
  | finished => exact ⟨h.1, h.2.later st⟩
  | failed e => cases e <;> exact h

theorem Told.later {taken : List Value} {told : List (Pulled Value)}
    (h : Told room id t taken told) (st : Step) : Told room id (t ++ [st]) taken told := by
  cases h with
  | items inOrder => exact .items inOrder
  | ended n inOrder why => exact .ended n inOrder (why.later st)

/-! ## One step -/

theorem routed_snoc (id : RequestId) (t : List Step) (st : Step) :
    routed id (t ++ [st]) = routed id t ++ (st.item? id).toList := by
  exact filterMap_snoc _ t st

theorem results_snoc (id : RequestId) (t : List Step) (st : Step) :
    results id (t ++ [st]) =
      results id t ++ ((st.pull? id).filter (· ≠ .pending)).toList := by
  exact filterMap_snoc _ t st

theorem routed_of_none (item : st.item? id = none) : routed id (t ++ [st]) = routed id t := by
  simp [routed_snoc, item]

theorem results_of_none (pull : st.pull? id = none) : results id (t ++ [st]) = results id t := by
  simp [results_snoc, pull]

/-- What has to be the case for a mailbox to be closed in that way. -/
def Ends (id : RequestId) (t : List Step) : Closure → Prop
  | .finished => EndedAfter id t (routed id t)
  | .failed (.lagged _ _) => False
  | .failed _ => True

theorem Ends.later {c : Closure} (h : Ends id t c) (item : st.item? id = none) :
    Ends id (t ++ [st]) c := by
  cases c with
  | finished =>
    have came : routed id (t ++ [st]) = routed id t := routed_of_none item
    rw [Ends, came]
    exact EndedAfter.later h st
  | failed e => cases e <;> exact h

/-- Who pulled all that came is told how the mailbox was closed. -/
theorem Ends.explains {c : Closure} {given : List Value} (h : Ends id t c)
    (all : routed id t = given) : Explains room id t (routed id t) given c.pulled := by
  cases c with
  | finished => exact ⟨all, all ▸ h⟩
  | failed e =>
    cases e with
    | lagged other skipped => exact h.elim
    | _ => exact all

/-- What a request was told by the steps of a run, given its ticket at the end. -/
inductive Account (room : Nat) (id : RequestId) (t : List Step) : Option Ticket → Prop where
  | waiting {ticket : Ticket} {given : List Value} (waits : ticket.sub.done = false)
    (size : ticket.box.room = room) (balance : ticket.box.Balanced (routed id t) given)
    (told : results id t = given.map .item)
    (closes : ∀ c, ticket.box.closure = some c → Ends id t c) :
    Account room id t (some ticket)
  | ended {ticket : Ticket} {given : List Value} {last : Pulled Value} (n : Nat)
    (done : ticket.sub.done = true) (left : ticket.box.items = [])
    (inOrder : given <+: routed id t) (why : Explains room id t (routed id t) given last)
    (told : results id t = given.map .item ++ last :: List.replicate n .finished) :
    Account room id t (some ticket)
  | gone (told : Told room id t (routed id t) (results id t)) : Account room id t none

/-- A step that brings nothing. -/
theorem Account.quiet {ticket : Option Ticket} (h : Account room id t ticket)
    (item : st.item? id = none) (pull : st.pull? id = none) :
    Account room id (t ++ [st]) ticket := by
  have came : routed id (t ++ [st]) = routed id t := routed_of_none item
  have brought : results id (t ++ [st]) = results id t := results_of_none pull
  cases h with
  | waiting waits size balance told closes =>
    exact .waiting waits size (came ▸ balance) (brought.trans told) fun c closed =>
      (closes c closed).later item
  | ended n done left inOrder why told =>
    exact .ended n done left (came ▸ inOrder) (came ▸ why.later st) (brought.trans told)
  | gone told =>
    rw [← came, ← brought] at told
    exact .gone (told.later st)

/-- Whatever a request was told so far, it may let go. -/
theorem Account.told {ticket : Option Ticket} (h : Account room id t ticket) :
    Told room id t (routed id t) (results id t) := by
  cases h with
  | waiting waits size balance told closes => exact told ▸ .items balance.isPrefix
  | ended n done left inOrder why told => exact told ▸ .ended n inOrder why
  | gone told => exact told

/-- An item comes for a request. -/
theorem Account.item {ticket : Ticket} (h : Account room id t (some ticket))
    (isOpen : ticket.isOpen = true) {v : Value} (item : st.item? id = some v)
    (pull : st.pull? id = none) : Account room id (t ++ [st]) (some (ticket.put v)) := by
  obtain ⟨waits, opened⟩ := Ticket.isOpen_iff.mp isOpen
  have came : routed id (t ++ [st]) = routed id t ++ [v] := by simp [routed_snoc, item]
  have brought : results id (t ++ [st]) = results id t := results_of_none pull
  cases h with
  | ended n done left inOrder why told => rw [waits] at done; cases done
  | waiting waits size balance told closes =>
    have put : ticket.put v = { ticket with box := ticket.box.push v } := by
      simp [Ticket.put, isOpen]
    rw [put]
    refine .waiting waits ?_ ?_ (brought.trans told) ?_
    · rw [Mailbox.push_room, size]
    · rw [came]
      exact balance.push opened v
    · intro c closed
      rw [Mailbox.push_closure, opened] at closed
      cases closed

/-- A request is resolved. -/
theorem Account.close {ticket : Ticket} (h : Account room id t (some ticket))
    (isOpen : ticket.isOpen = true) {c : Closure} (item : st.item? id = none)
    (pull : st.pull? id = none) (ends : Ends id (t ++ [st]) c) :
    Account room id (t ++ [st]) (some (ticket.close c)) := by
  obtain ⟨waits, opened⟩ := Ticket.isOpen_iff.mp isOpen
  have came : routed id (t ++ [st]) = routed id t := routed_of_none item
  have brought : results id (t ++ [st]) = results id t := results_of_none pull
  cases h with
  | ended n done left inOrder why told => rw [waits] at done; cases done
  | waiting waits size balance told closes =>
    have close : ticket.close c = { ticket with box := ticket.box.close c } := by
      simp [Ticket.close, isOpen]
    rw [close]
    refine .waiting waits ?_ ?_ (brought.trans told) ?_
    · rw [Mailbox.close_of_open opened]
      exact size
    · rw [came]
      exact balance.close c
    · intro d closed
      rw [Mailbox.close_closure, opened] at closed
      obtain rfl : c = d := Option.some.inj closed
      exact ends

/-- The caller is told that there are no more items. -/
theorem Account.last {ticket : Ticket} {given : List Value} {last : Pulled Value}
    (told : results id t = given.map .item) (inOrder : given <+: routed id t)
    (why : Explains room id t (routed id t) given last) (item : st.item? id = none)
    (pull : st.pull? id = some last) (done : ticket.sub.done = true)
    (left : ticket.box.items = []) :
    Account room id (t ++ [st]) (some ticket) := by
  have came : routed id (t ++ [st]) = routed id t := routed_of_none item
  have shown : last ≠ .pending := by
    rintro rfl
    exact why
  have brought : results id (t ++ [st]) =
      given.map .item ++ last :: List.replicate 0 .finished := by
    simp [results_snoc, pull, shown, told]
  exact .ended 0 done left (came ▸ inOrder) (came ▸ why.later st) brought

/-- The caller pulls. -/
theorem Account.pull {ticket : Ticket} (h : Account room id t (some ticket)) (now : Instant)
    (item : st.item? id = none) (pull : st.pull? id = some (ticket.pull id now).1) :
    Account room id (t ++ [st]) (some (ticket.pull id now).2) := by
  have came : routed id (t ++ [st]) = routed id t := routed_of_none item
  cases h with
  | @ended _ given last n done left inOrder why told =>
    rw [Ticket.pull_of_done done] at pull ⊢
    refine .ended (n + 1) done left (came ▸ inOrder) (came ▸ why.later st) ?_
    simp [results_snoc, pull, told, List.replicate_succ']
  | @waiting _ given waits size balance told closes =>
    rcases Ticket.pull_cases waits id now with ⟨lost, pulled⟩ | ⟨kept, v, rest, items, pulled⟩ |
      ⟨kept, items, c, closed, pulled⟩ | ⟨kept, items, opened, late, pulled⟩ |
      ⟨kept, items, opened, early, pulled⟩
    · -- The caller fell behind.
      rw [pulled] at pull ⊢
      have why : Explains room id t (routed id t) given
          (.failed (.lagged ticket.box.id ticket.box.dropped)) :=
        ⟨lost, size ▸ balance.lag lost⟩
      exact .last told balance.isPrefix why item pull rfl rfl
    · rw [pulled] at pull ⊢
      refine .waiting waits size (came ▸ balance.take_item kept items) ?_ fun c closed =>
        (closes c closed).later item
      simp [results_snoc, pull, told]
    · -- All that came was pulled, and the mailbox is closed.
      rw [pulled] at pull ⊢
      have why : Explains room id t (routed id t) given c.pulled :=
        (closes c closed).explains (balance.empty_handed kept items)
      exact .last told balance.isPrefix why item pull rfl items
    · rw [pulled] at pull ⊢
      have why : Explains room id t (routed id t) given
          (.failed (.timeout id ticket.sub.timeout)) := balance.empty_handed kept items
      exact .last told balance.isPrefix why item pull rfl items
    · rw [pulled] at pull ⊢
      refine .waiting waits size (came ▸ balance) ?_ fun c closed => (closes c closed).later item
      simp [results_snoc, pull, told]

/-- A request takes its turn, any but the first. -/
theorem Account.turn {ticket : Option Ticket} (h : Account room id t ticket) {turn : Turn}
    (item : st.item? id = turn.item? ticket) (pull : st.pull? id = turn.pull? id ticket)
    (reply : ∀ held, ticket = some held → held.isOpen = true → st.reply? id = turn.reply?)
    (made : ∀ new, turn ≠ .opened new)
    (plain : ∀ other skipped, turn ≠ .closed (.failed (.lagged other skipped))) :
    Account room id (t ++ [st]) (turn.apply id ticket) := by
  cases turn with
  | idle => exact h.quiet item pull
  | opened new => exact absurd rfl (made new)
  | dropped => exact .gone (h.quiet item pull).told
  | item v =>
    cases ticket with
    | none => exact h.quiet item pull
    | some held =>
      change Account room id (t ++ [st]) (some (held.put v))
      cases isOpen : held.isOpen with
      | true => exact h.item isOpen (by simpa [Turn.item?, isOpen] using item) pull
      | false =>
        rw [Ticket.put_of_not_open isOpen]
        exact h.quiet (item.trans (item?_of_not_open isOpen)) pull
  | closed c =>
    cases ticket with
    | none => exact h.quiet item pull
    | some held =>
      change Account room id (t ++ [st]) (some (held.close c))
      cases isOpen : held.isOpen with
      | true =>
        refine h.close isOpen item pull ?_
        have came : routed id (t ++ [st]) = routed id t := by simp [routed_snoc, item, Turn.item?]
        cases c with
        | finished => exact ⟨t, st, [], rfl, reply held rfl isOpen, came.symm⟩
        | failed e =>
          cases e with
          | lagged other skipped => exact absurd rfl (plain other skipped)
          | _ => trivial
      | false =>
        rw [Ticket.close_of_not_open isOpen]
        exact h.quiet item pull
  | pulled now =>
    cases ticket with
    | none => exact h.quiet item pull
    | some held => exact h.pull now item pull

/-! ## A whole run -/

/-- Nothing has come for a request that was not made. -/
structure Unmade (id : RequestId) (t : List Step) (ticket : Option Ticket) : Prop where
  absent : ticket = none
  routed : routed id t = []
  results : results id t = []

theorem Unmade.turn {ticket : Option Ticket} (h : Unmade id t ticket) {turn : Turn}
    (item : st.item? id = turn.item? ticket) (pull : st.pull? id = turn.pull? id ticket)
    (made : ∀ new, turn ≠ .opened new) : Unmade id (t ++ [st]) (turn.apply id ticket) := by
  obtain ⟨rfl, routed, results⟩ := h
  have untouched : turn.item? none = none ∧ turn.pull? id none = none ∧
      turn.apply id none = none := by
    cases turn with
    | opened new => exact absurd rfl (made new)
    | _ => exact ⟨rfl, rfl, rfl⟩
  obtain ⟨noItem, noPull, none⟩ := untouched
  exact ⟨none, by simp [routed_snoc, routed, item, noItem],
    by simp [results_snoc, results, pull, noPull]⟩

theorem Unmade.account {ticket : Option Ticket} (h : Unmade id t ticket) :
    Account room id t ticket := by
  obtain ⟨rfl, routed, results⟩ := h
  have told : Told room id t (Session.routed id t) ([].map .item) := .items List.nil_prefix
  exact .gone (results ▸ told)

/-- A request is made. -/
theorem Unmade.made {ticket : Option Ticket} (h : Unmade id t ticket) (s : Session) (kind : Kind)
    (item : st.item? id = none) (pull : st.pull? id = none) :
    Account (max s.settings.queueCapacity 1) id (t ++ [st]) (some (s.newTicket id kind)) := by
  obtain ⟨-, routed, results⟩ := h
  have came : Session.routed id (t ++ [st]) = [] := by simp [routed_snoc, routed, item]
  have brought : Session.results id (t ++ [st]) = [] := by simp [results_snoc, results, pull]
  have balance : (s.newTicket id kind).box.Balanced (Session.routed id (t ++ [st])) [] :=
    came ▸ Mailbox.balanced_empty id s.settings.queueCapacity
  refine .waiting rfl rfl balance brought fun c closed => ?_
  simp [newTicket, Mailbox.empty] at closed

variable {s : Session} {m : Move} {ms : List Move}

/-- In a run that makes a request at most once, what each step keeps holds to the end.  The
step that makes the request may use what was so of it before. -/
theorem Sound.run_once (Holds Fresh : List Step → Session → Prop)
    (stays : ∀ {t s m}, Sound s → Fresh t s → m.sends? ≠ some id →
      Fresh (t ++ [⟨s, m⟩]) (s.step m))
    (keeps : ∀ {t s m}, Sound s → Holds t s → (m.sends? = some id → Fresh t s) →
      Holds (t ++ [⟨s, m⟩]) (s.step m))
    (h : Sound s) (distinct : Distinct ms) (holds : Holds t s)
    (fresh : id ∈ sentIds ms → Fresh t s) : Holds (t ++ steps ms s) (Session.run ms s) := by
  induction ms generalizing s t with
  | nil => simpa [steps] using holds
  | cons m ms ih =>
    rw [Distinct, sentIds_cons, List.nodup_append] at distinct
    obtain ⟨-, rest, apart⟩ := distinct
    have first : m.sends? = some id → id ∈ sentIds (m :: ms) := by
      intro sent
      simp [sentIds_cons, sent]
    have next := keeps h holds fun sent => fresh (first sent)
    have run := ih (h.step m).toSound rest next fun later => ?_
    · simpa [steps] using run
    · have other : m.sends? ≠ some id := by
        intro sent
        exact apart id (by simp [sent]) id later rfl
      exact stays h (fresh (by simp [sentIds_cons, later])) other

theorem Sound.unmade_step (h : Sound s) (unmade : Unmade id t (s.ticket? id))
    (other : m.sends? ≠ some id) : Unmade id (t ++ [⟨s, m⟩]) ((s.step m).ticket? id) := by
  rw [(h.step m).ticket]
  refine unmade.turn (h.item?_eq id m) (h.pull?_eq id m) fun new opened => ?_
  obtain ⟨-, sessionId, kind, payload, rfl, -⟩ := turn_opened opened
  exact other rfl

theorem Sound.account_step (h : Sound s)
    (account : Account (max s.settings.queueCapacity 1) id t (s.ticket? id))
    (unmade : m.sends? = some id → Unmade id t (s.ticket? id)) :
    Account (max s.settings.queueCapacity 1) id (t ++ [⟨s, m⟩]) ((s.step m).ticket? id) := by
  rw [(h.step m).ticket]
  have item := h.item?_eq id m
  have pull := h.pull?_eq id m
  by_cases opens : ∃ new, turn m s id = .opened new
  · obtain ⟨new, opened⟩ := opens
    rw [opened] at item pull ⊢
    obtain ⟨-, sessionId, kind, payload, rfl, rfl⟩ := turn_opened opened
    exact (unmade rfl).made s kind item pull
  · refine account.turn item pull ?_ (fun new opened => opens ⟨new, opened⟩)
      (turn_ne_lagged m s id)
    intro held found isOpen
    rw [Step.reply?_eq, if_pos (h.isOutstanding_iff.mpr ⟨held, found, isOpen⟩)]

theorem Sound.account_run (h : Sound s) (distinct : Distinct ms)
    (account : Account (max s.settings.queueCapacity 1) id t (s.ticket? id))
    (unmade : id ∈ sentIds ms → Unmade id t (s.ticket? id)) :
    Account (max s.settings.queueCapacity 1) id (t ++ steps ms s)
      ((Session.run ms s).ticket? id) := by
  rw [← h.run_settings ms]
  refine run_once (fun t s => Account (max s.settings.queueCapacity 1) id t (s.ticket? id))
    (fun t s => Unmade id t (s.ticket? id)) unmade_step ?_ h distinct account unmade
  intro t s m sound account unmade
  have next := sound.account_step account unmade
  rwa [← (sound.step m).settings] at next

/-- Of what comes for a request its mailbox takes all. -/
theorem Sound.accepted_eq_routed (h : Sound s) (ms : List Move) (id : RequestId) :
    accepted id (steps ms s) = routed id (steps ms s) := by
  induction ms generalizing s with
  | nil => rfl
  | cons m ms ih =>
    have rest := ih (h.step m).toSound
    simp only [accepted, routed, steps, List.filterMap_cons, h.accepted?_eq] at rest ⊢
    rw [rest]

theorem Account.fits {ticket : Ticket} (h : Account room id t (some ticket)) :
    ticket.box.items.length ≤ room := by
  cases h with
  | waiting waits size balance told closes => exact size ▸ balance.fits
  | ended n done left inOrder why told => simp [left]

/-- What there is to say of a request after the steps `t`, which lead to `s`. -/
structure Delivery (room : Nat) (id : RequestId) (t : List Step) (s : Session) : Prop where
  /-- The mailbox of the request took all that came for it. -/
  taken : accepted id t = routed id t
  /-- What its caller pulled is complete and in order, or an error says why not. -/
  told : Told room id t (accepted id t) (results id t)
  /-- No more waits than there is room for. -/
  fits : ∀ box, s.mailboxOf? id = some box → box.items.length ≤ room

theorem delivery (settings : Settings) (ms : List Move) (distinct : Distinct ms)
    (id : RequestId) :
    Delivery (max settings.queueCapacity 1) id (steps ms (start settings))
      (run ms (start settings)) := by
  have sound := sound_start settings
  have unmade : Unmade id [] ((start settings).ticket? id) := ⟨rfl, rfl, rfl⟩
  have account := sound.account_run distinct unmade.account fun _ => unmade
  have same := sound.accepted_eq_routed ms id
  refine ⟨same, same ▸ account.told, fun box held => ?_⟩
  rw [mailboxOf?_eq, Option.map_eq_some_iff] at held
  obtain ⟨ticket, held, rfl⟩ := held
  rw [held] at account
  exact account.fits

/-- Two items come for a caller that has room for one, and only then it pulls. -/
def slowCaller : List Move :=
  .send "slow" none .storage .null ::
    (hears (.item "slow" (.bool true)) ++ hears (.item "slow" (.bool false)) ++
      [.recv "slow", .recv "slow"])

theorem slowCaller_delivery :
    Distinct slowCaller ∧
      results "slow" (steps slowCaller (start ⟨5, none, 0⟩)) =
        [.failed (.lagged "slow" 1), .finished] ∧
      Delivery 1 "slow" (steps slowCaller (start ⟨5, none, 0⟩))
        (run slowCaller (start ⟨5, none, 0⟩)) := by
  obtain ⟨distinct, got⟩ : Distinct slowCaller ∧
      results "slow" (steps slowCaller (start ⟨5, none, 0⟩)) =
        [.failed (.lagged "slow" 1), .finished] := by
    decide +kernel
  exact ⟨distinct, got, delivery ⟨5, none, 0⟩ slowCaller distinct "slow"⟩

end Backchannel.Session
