/-
# Backchannel.Proofs.Session.Contest.First -- the first resolution wins

However operations and callers run into each other, a mailbox is closed once, and its caller
is told how: by the first who came to close it, unless the caller fell behind or gave up at its
deadline.  Items that come later are not delivered.  Once an operation that was to resolve a
request is over, the entry is gone for good (`first_resolution_wins`).

`Account` follows one caller: what it got, what waits for it, and why there is no more.
-/
import Backchannel.Proofs.Session.Contest.Sound

namespace Backchannel

set_option autoImplicit false

open Backchannel.Json (Value)
open Session (itemOf?)

namespace Contest

variable {s : Session} {o : Contest} {id : RequestId} {ref : MailboxRef} {w : Worker} {a : Act}
  {acts : List Act} {t : List Step} {st : Step}

/-! ## What is done to a mailbox -/

namespace Step

def deed (ref : MailboxRef) (st : Step) : Deed := st.before.deed ref st.act

/-- How a step is to close a mailbox, be it closed before or not. -/
def offer? (ref : MailboxRef) (st : Step) : Option Closure := (st.deed ref).offer?

/-- The item that a step is to put into a mailbox. -/
def push? (ref : MailboxRef) (st : Step) : Option Value := (st.deed ref).push?

/-- How a step closes a mailbox that was open. -/
def write? (ref : MailboxRef) (st : Step) : Option Closure :=
  if (st.before.session.closure? ref).isNone then st.offer? ref else none

/-- In this step the caller whose mailbox it is learns that it fell behind. -/
def Lags (ref : MailboxRef) (st : Step) : Prop :=
  ∃ id held other skipped, st.act = .pull id ∧ st.before.session.ticket? id = some held ∧
    held.sub.mailbox = ref ∧ st.before.pulls id = .resting ∧
    st.after.pulls id = .leaving (.failed (.lagged other skipped))

/-- In this step the caller of a request, who found nothing before, gives up at its deadline. -/
def GivesUp (id : RequestId) (st : Step) : Prop :=
  st.act = .pull id ∧ st.before.pulls id = .waiting ∧
    ∃ wait, st.after.pulls id = .leaving (.failed (.timeout id wait))

/-- What a step brings to the caller of a request, but for the pulls that find nothing. -/
def result? (id : RequestId) (st : Step) : Option (Pulled Value) :=
  (st.answer? id).filter (· ≠ .pending)

end Step

/-- How a mailbox is first to be closed. -/
def first (ref : MailboxRef) (t : List Step) : Option Closure := t.findSome? (Step.offer? ref)

/-- The items that are put into a mailbox before it is first to be closed. -/
def early (ref : MailboxRef) : List Step → List Value
  | [] => []
  | st :: t => if (st.offer? ref).isSome then [] else (st.push? ref).toList ++ early ref t

def results (id : RequestId) (t : List Step) : List (Pulled Value) :=
  t.filterMap (Step.result? id)

theorem first_snoc (ref : MailboxRef) (t : List Step) (st : Step) :
    first ref (t ++ [st]) = (first ref t).or (st.offer? ref) := by
  simp [first, List.findSome?_append]

theorem early_snoc (ref : MailboxRef) (t : List Step) (st : Step) :
    early ref (t ++ [st]) =
      early ref t ++ if (first ref t).isSome then [] else (st.push? ref).toList := by
  have apart : (st.offer? ref).isSome → st.push? ref = none := by
    unfold Step.offer? Step.push?
    cases st.deed ref <;> simp [Deed.offer?, Deed.push?]
  induction t with
  | nil =>
    cases offer : st.offer? ref with
    | none => simp [early, first, offer]
    | some c => simp [early, first, offer, apart]
  | cons st' t ih =>
    cases offer : st'.offer? ref with
    | none =>
      have same : first ref (st' :: t) = first ref t := by simp [first, offer]
      simp [early, offer, ih, same]
    | some c =>
      have same : first ref (st' :: t) = some c := by simp [first, offer]
      simp [early, offer, same]

theorem results_snoc (id : RequestId) (t : List Step) (st : Step) :
    results id (t ++ [st]) = results id t ++ (st.result? id).toList := by
  cases found : st.result? id <;> simp [results, found]

/-! ## A mailbox is closed once -/

theorem writes_of_closed (closed : (o.session.closure? ref).isSome) (acts : List Act) :
    (steps acts o).filterMap (Step.write? ref) = [] := by
  induction acts generalizing o with
  | nil => rfl
  | cons a acts ih =>
    have none : Step.write? ref ⟨o, a⟩ = none := by
      rw [Step.write?, if_neg]
      rw [Option.isNone_iff_eq_none]
      exact Option.isSome_iff_ne_none.mp closed
    rw [steps, List.filterMap_cons, none]
    exact ih ((o.later_step a).closed ref closed)

/-- Who takes from a mailbox is the caller whose it is. -/
theorem deed_take (takes : o.deed ref a = .take) :
    ∃ id held, a = .pull id ∧ o.pulls id = .resting ∧ o.session.ticket? id = some held ∧
      held.sub.done = false ∧ held.sub.mailbox = ref := by
  have reply (r : Reply) : Deed.ofReply r ≠ .take := by cases r <;> exact Deed.noConfusion
  cases a with
  | work n =>
    cases at_ : o.workers[n]? with
    | none => simp [deed, at_] at takes
    | some w =>
      simp only [deed, at_, Option.map_some, Option.getD_some, Worker.deed] at takes
      split at takes
      · split at takes
        · exact absurd takes (reply _)
        · cases takes
      · split at takes <;> cases takes
      · cases takes
  | find | drop | pass => cases takes
  | pull id =>
    simp only [deed, Pull.deed] at takes
    split at takes
    · rename_i held phase found
      split at takes
      · rename_i own
        exact ⟨id, held, rfl, phase, found, own.1, own.2⟩
      · cases takes
    · cases takes

/-- A caller that has lost items is told so, whatever else is there. -/
theorem pull_lags {held : Ticket} (resting : o.pulls id = .resting)
    (found : o.session.ticket? id = some held) (waits : held.sub.done = false)
    (lost : 0 < held.box.dropped) :
    (o.step (.pull id)).pulls id = .leaving (.failed (.lagged held.box.id held.box.dropped)) := by
  have advances := (o.pulls id).advances id o.session
  rw [step_pull, pulled_pulls]
  generalize ((o.pulls id).advance id o.session).1 = got,
    ((o.pulls id).advance id o.session).2.1 = p,
    ((o.pulls id).advance id o.session).2.2 = after at advances
  have same {other : Ticket} (present : o.session.ticket? id = some other) : other = held :=
    Option.some.inj (present.symm.trans found)
  cases advances with
  | nobody absent => rw [absent] at found; cases found
  | finished _ present done => rw [same present, waits] at done; cases done
  | item _ present _ kept => rw [same present] at kept; omega
  | lags _ present => rw [same present]
  | told _ present _ kept => rw [same present] at kept; omega
  | empty _ present _ kept => rw [same present] at kept; omega
  | late phase | early phase | leaves phase => rw [resting] at phase; cases phase

/-- What becomes of how a mailbox is closed. -/
theorem closure_step (o : Contest) (a : Act) (ref : MailboxRef) :
    (o.step a).session.closure? ref = o.session.closure? ref ∨
      (∃ c, Step.write? ref ⟨o, a⟩ = some c ∧ (o.step a).session.closure? ref = some c) ∨
      ((o.step a).session.closure? ref = some .finished ∧ Step.Lags ref ⟨o, a⟩) := by
  have next := o.mailbox_step a ref
  cases stored : o.session.mailboxes[ref]? with
  | none =>
    rw [stored] at next
    exact .inl (by simp [Session.closure?, stored, next])
  | some box =>
    rw [stored] at next
    have before : o.session.closure? ref = box.closure := by simp [Session.closure?, stored]
    have after : (o.step a).session.closure? ref = ((o.deed ref a).apply box).closure := by
      simp [Session.closure?, next]
    rw [before, after]
    cases done : o.deed ref a with
    | nothing => exact .inl rfl
    | push v => exact .inl (box.push_closure v)
    | close c =>
      cases closed : box.closure with
      | some d => exact .inl (by simp [Deed.apply, closed])
      | none =>
        refine .inr (.inl ⟨c, ?_, by simp [Deed.apply, closed]⟩)
        simp [Step.write?, before, closed, Step.offer?, Step.deed, done, Deed.offer?]
    | take =>
      obtain ⟨id, held, rfl, resting, found, waits, own⟩ := deed_take done
      have same : held.box = box := by
        have present := (Session.ticket?_eq_some.mp found).2
        rw [own, stored] at present
        exact (Option.some.inj present).symm
      rcases box.take_cases with ⟨lost, take⟩ | ⟨-, v, rest, -, take⟩ | ⟨-, -, c, -, take⟩ |
        ⟨-, -, -, take⟩
      · refine .inr (.inr ⟨by simp [Deed.apply, take], ?_⟩)
        exact ⟨id, held, _, _, rfl, found, own, resting,
          pull_lags resting found waits (same ▸ lost)⟩
      · exact .inl (by simp [Deed.apply, take])
      · exact .inl (by simp [Deed.apply, take])
      · exact .inl (by simp [Deed.apply, take])

theorem write_closes {c : Closure} (stored : (o.session.mailboxes[ref]?).isSome)
    (write : Step.write? ref ⟨o, a⟩ = some c) : (o.step a).session.closure? ref = some c := by
  obtain ⟨box, held⟩ := Option.isSome_iff_exists.mp stored
  unfold Step.write? at write
  split at write
  · rename_i opened
    simp only [Session.closure?, held, Option.bind_some, Option.isNone_iff_eq_none] at opened
    simp only [Step.offer?, Step.deed] at write
    rw [Session.closure?, mailbox_step, held]
    cases done : o.deed ref a with
    | close d =>
      rw [done] at write
      cases write
      simp [Deed.apply, opened]
    | _ => rw [done] at write; cases write
  · cases write

/-- A mailbox is closed at most once. -/
theorem writes_once (stored : (o.session.mailboxes[ref]?).isSome) (acts : List Act) :
    ((steps acts o).filterMap (Step.write? ref)).length ≤ 1 := by
  induction acts generalizing o with
  | nil => exact Nat.zero_le 1
  | cons a acts ih =>
    have stored' : ((o.step a).session.mailboxes[ref]?).isSome := by
      rw [mailbox_step, Option.isSome_map]
      exact stored
    cases write : Step.write? ref ⟨o, a⟩ with
    | none =>
      rw [steps, List.filterMap_cons, write]
      exact ih stored'
    | some c =>
      have closed : ((o.step a).session.closure? ref).isSome :=
        Option.isSome_of_eq_some (write_closes stored write)
      rw [steps, List.filterMap_cons, write, writes_of_closed closed]
      exact Nat.le_refl 1

/-! ## What one caller is told -/

/-- Why there are no more items: the mailbox was closed, and first in that way; or the caller
fell behind; or it gave up at its deadline. -/
inductive Why (id : RequestId) (ref : MailboxRef) (t : List Step) : Pulled Value → Prop where
  | closed {c : Closure} (first : first ref t = some c) : Why id ref t c.pulled
  | lagged (other : RequestId) (skipped : Nat) (lost : 0 < skipped) :
    Why id ref t (.failed (.lagged other skipped))
  | late (wait : Duration) (st : Step) (among : st ∈ t) (givesUp : st.GivesUp id) :
    Why id ref t (.failed (.timeout id wait))

theorem Why.later {got : Pulled Value} (h : Why id ref t got) (st : Step) :
    Why id ref (t ++ [st]) got := by
  cases h with
  | closed first => exact .closed (by simp [first_snoc, first])
  | lagged other skipped lost => exact .lagged other skipped lost
  | late wait st' among givesUp => exact .late wait st' (by simp [among]) givesUp

theorem Why.isOver {got : Pulled Value} (h : Why id ref t got) : got.isOver = true := by
  cases h with
  | @closed c first => cases c <;> rfl
  | lagged | late => rfl

/-- The items in order, then why there are no more, then only the end.  At first `waiting` were
in the mailbox. -/
inductive Told (id : RequestId) (ref : MailboxRef) (waiting : List Value) (t : List Step) :
    List (Pulled Value) → Prop where
  | items {given : List Value} (inOrder : given <+: waiting ++ early ref t) :
    Told id ref waiting t (given.map .item)
  | ended {given : List Value} {last : Pulled Value} (n : Nat)
    (inOrder : given <+: waiting ++ early ref t) (why : Why id ref t last) :
    Told id ref waiting t (given.map .item ++ last :: List.replicate n .finished)

/-- What the caller of a request was told by the steps of a run, given how far its pull is and
its ticket, if it still has it. -/
inductive Account (id : RequestId) (ref : MailboxRef) (waiting : List Value) (t : List Step) :
    Pull → Option Ticket → Prop where
  | going {p : Pull} {held : Ticket} {given : List Value} (pull : ∀ got, p ≠ .leaving got)
    (own : held.sub.mailbox = ref) (waits : held.sub.done = false)
    (closure : held.box.closure = first ref t)
    (balance : held.box.dropped = 0 → waiting ++ early ref t = given ++ held.box.items)
    (inOrder : given <+: waiting ++ early ref t) (told : results id t = given.map .item) :
    Account id ref waiting t p (some held)
  | leaving {held : Ticket} {given : List Value} {got : Pulled Value}
    (own : held.sub.mailbox = ref) (why : Why id ref t got)
    (inOrder : given <+: waiting ++ early ref t) (told : results id t = given.map .item) :
    Account id ref waiting t (.leaving got) (some held)
  | ended {held : Ticket} {given : List Value} {last : Pulled Value} (n : Nat)
    (own : held.sub.mailbox = ref) (done : held.sub.done = true) (why : Why id ref t last)
    (inOrder : given <+: waiting ++ early ref t)
    (told : results id t = given.map .item ++ last :: List.replicate n .finished) :
    Account id ref waiting t .resting (some held)
  | gone {p : Pull} (told : Told id ref waiting t (results id t)) : Account id ref waiting t p none

variable {waiting given : List Value} {p : Pull}

theorem inOrder_later (inOrder : given <+: waiting ++ early ref t) (st : Step) :
    given <+: waiting ++ early ref (t ++ [st]) := by
  rw [early_snoc, ← List.append_assoc]
  exact inOrder.trans (List.prefix_append _ _)

theorem Told.later {told : List (Pulled Value)} (h : Told id ref waiting t told) (st : Step) :
    Told id ref waiting (t ++ [st]) told := by
  cases h with
  | items inOrder => exact .items (inOrder_later inOrder st)
  | ended n inOrder why => exact .ended n (inOrder_later inOrder st) (why.later st)

theorem Account.told {held : Option Ticket} (h : Account id ref waiting t p held) :
    Told id ref waiting t (results id t) := by
  cases h with
  | going _ _ _ _ _ inOrder told => exact told ▸ .items inOrder
  | leaving _ _ inOrder told => exact told ▸ .items inOrder
  | ended n _ _ why inOrder told => exact told ▸ .ended n inOrder why
  | gone told => exact told

theorem results_of_none (none : st.result? id = none) : results id (t ++ [st]) = results id t := by
  simp [results_snoc, none]

/-- A step of another. -/
theorem Account.other {held : Option Ticket} (h : Account id ref waiting t p held)
    (none : st.result? id = none) (takes : st.deed ref ≠ .take) :
    Account id ref waiting (t ++ [st]) p
      (held.map fun t => { t with box := (st.deed ref).apply t.box }) := by
  have brought : results id (t ++ [st]) = results id t := results_of_none none
  cases h with
  | leaving own why inOrder told =>
    exact .leaving own (why.later st) (inOrder_later inOrder st) (brought.trans told)
  | ended n own done why inOrder told =>
    exact .ended n own done (why.later st) (inOrder_later inOrder st) (brought.trans told)
  | gone told => exact .gone (brought ▸ told.later st)
  | @going _ held given pull own waits closure balance inOrder told =>
    refine .going pull own waits ?_ ?_ (inOrder_later inOrder st) (brought.trans told)
    · rw [first_snoc, ← closure]
      cases done : st.deed ref with
      | nothing => simp [Step.offer?, done, Deed.offer?, Deed.apply]
      | push v => simp [Step.offer?, done, Deed.offer?, Deed.apply]
      | close c =>
        cases closed : held.box.closure <;>
          simp [Step.offer?, done, Deed.offer?, Deed.apply, closed]
      | take => exact absurd done takes
    · rw [early_snoc, ← closure]
      cases done : st.deed ref with
      | nothing => simpa [Step.push?, done, Deed.push?, Deed.apply] using balance
      | close c =>
        cases closed : held.box.closure with
        | none =>
          simpa [Step.push?, done, Deed.push?, Deed.apply, Mailbox.close, closed] using balance
        | some d =>
          simpa [Step.push?, done, Deed.push?, Deed.apply, Mailbox.close, closed] using balance
      | push v =>
        cases closed : held.box.closure with
        | some d =>
          simpa [Step.push?, done, Deed.push?, Deed.apply, Mailbox.push, closed] using balance
        | none =>
          intro kept
          by_cases fits : held.box.items.length < held.box.room
          · have pushed : held.box.push v =
                { held.box with items := held.box.items ++ [v] } := by
              simp [Mailbox.push, closed, fits]
            simp only [Deed.apply, pushed] at kept
            simp [Step.push?, done, Deed.push?, Deed.apply, pushed, ← List.append_assoc,
              balance kept]
          · -- A full mailbox drops an item to take this one.
            simp [Deed.apply, Mailbox.push, closed, fits] at kept
      | take => exact absurd done takes

/-- A pull neither closes a mailbox nor puts anything into it. -/
theorem pull_deed (o : Contest) (id : RequestId) (ref : MailboxRef) :
    Step.offer? ref ⟨o, .pull id⟩ = none ∧ Step.push? ref ⟨o, .pull id⟩ = none := by
  simp only [Step.offer?, Step.push?, Step.deed, deed, Pull.deed]
  split
  · split <;> exact ⟨rfl, rfl⟩
  · exact ⟨rfl, rfl⟩

/-- What its caller finds in a mailbox is what it has then. -/
theorem look_ticket? {held : Ticket} (found : s.ticket? id = some held) (box : Mailbox) :
    (s.onMailbox held.sub.mailbox fun _ => box).ticket? id = some { held with box := box } := by
  rw [Session.onMailbox_ticket?, found]
  simp

/-- A step of the caller. -/
theorem Account.pull (h : Account id ref waiting t (o.pulls id) (o.session.ticket? id)) :
    Account id ref waiting (t ++ [⟨o, .pull id⟩]) ((o.step (.pull id)).pulls id)
      ((o.step (.pull id)).session.ticket? id) := by
  have advances := (o.pulls id).advances id o.session
  have brings : Step.result? id ⟨o, .pull id⟩ =
      ((o.pulls id).advance id o.session).1.filter (· ≠ .pending) := by
    simp [Step.result?, Step.answer?, perform]
  have next : (o.step (.pull id)).pulls id = ((o.pulls id).advance id o.session).2.1 := by
    rw [step_pull, pulled_pulls]
  have given := results_snoc id t ⟨o, .pull id⟩
  obtain ⟨offer, push⟩ := pull_deed o id ref
  have first_ : first ref (t ++ [⟨o, .pull id⟩]) = first ref t := by simp [first_snoc, offer]
  have early_ : early ref (t ++ [⟨o, .pull id⟩]) = early ref t := by
    simp [early_snoc, push]
  rw [brings] at given
  change Account id ref waiting _ _ (((o.pulls id).advance id o.session).2.2.ticket? id)
  rw [next]
  generalize ((o.pulls id).advance id o.session).1 = got,
    ((o.pulls id).advance id o.session).2.1 = p,
    ((o.pulls id).advance id o.session).2.2 = after at advances given next
  cases advances with
  | nobody absent =>
    rw [absent] at h ⊢
    refine .gone ?_
    have told := h.told.later ⟨o, .pull id⟩
    simpa [given] using told
  | finished phase present done =>
    rw [phase, present] at h
    rw [present]
    cases h with
    | going _ _ waits => rw [waits] at done; cases done
    | ended n own done why inOrder told =>
      refine .ended (n + 1) own done (why.later _) (inOrder_later inOrder _) ?_
      rw [given, told]
      simp [List.replicate_succ']
  | @item held v rest phase present waits kept items =>
    rw [phase, present] at h
    rw [look_ticket? present]
    cases h with
    | ended _ _ done => rw [waits] at done; cases done
    | @going _ _ had pull own _ closure balance inOrder told =>
      have take : held.box.take = (.item v, { held.box with items := rest }) := by
        simp [Mailbox.take, kept, items]
      have all : waiting ++ early ref t = had ++ [v] ++ rest := by
        rw [balance kept, items]
        simp
      have inOrder' : had ++ [v] <+: waiting ++ early ref (t ++ [⟨o, .pull id⟩]) := by
        rw [early_, all]
        exact List.prefix_append _ _
      have told' : results id (t ++ [⟨o, .pull id⟩]) = (had ++ [v]).map .item := by
        rw [given, told]
        simp
      rw [take]
      exact .going (fun _ => Pull.noConfusion) own waits (closure.trans first_.symm)
        (fun _ => early_ ▸ all) inOrder' told'
  | lags phase present waits lost =>
    rw [phase, present] at h
    rw [look_ticket? present]
    cases h with
    | ended _ _ done => rw [waits] at done; cases done
    | going pull own _ closure balance inOrder told =>
      exact .leaving own (.lagged _ _ lost) (inOrder_later inOrder _) (by rw [given, told]; simp)
  | @told held c phase present waits kept items closed =>
    rw [phase, present] at h
    rw [look_ticket? present]
    cases h with
    | ended _ _ done => rw [waits] at done; cases done
    | going pull own _ closure balance inOrder told =>
      refine .leaving own (.closed ?_) (inOrder_later inOrder _) (by rw [given, told]; simp)
      rw [first_, ← closure, closed]
  | @empty held phase present waits kept items opened =>
    rw [phase, present] at h
    rw [look_ticket? present]
    cases h with
    | ended _ _ done => rw [waits] at done; cases done
    | going pull own _ closure balance inOrder told =>
      have take : held.box.take = (.pending, held.box) := by
        simp [Mailbox.take, kept, items, opened]
      rw [take]
      exact .going (fun _ => Pull.noConfusion) own waits (closure.trans first_.symm)
        (fun kept => early_ ▸ balance kept) (early_ ▸ inOrder) (by rw [given, told]; simp)
  | late phase present =>
    have givesUp : Step.GivesUp id ⟨o, .pull id⟩ := ⟨rfl, phase, _, next⟩
    rw [phase, present] at h
    rw [present]
    cases h with
    | going pull own waits closure balance inOrder told =>
      exact .leaving own (.late _ _ (by simp) givesUp) (inOrder_later inOrder _)
        (by rw [given, told]; simp)
  | early phase present =>
    rw [phase, present] at h
    rw [present]
    cases h with
    | going pull own waits closure balance inOrder told =>
      exact .going (fun _ => Pull.noConfusion) own waits (closure.trans first_.symm)
        (fun kept => early_ ▸ balance kept) (early_ ▸ inOrder) (by rw [given, told]; simp)
  | @leaves held got phase present =>
    rw [phase, present] at h
    rw [Session.conclude_ticket?, if_pos rfl, present]
    cases h with
    | going pull => exact absurd rfl (pull got)
    | leaving own why inOrder told =>
      have shown : got ≠ .pending := by
        rintro rfl
        have ended := why.isOver
        cases ended
      refine .ended 0 own rfl (why.later _) (inOrder_later inOrder _) ?_
      rw [given, told]
      simp [shown]

/-- The caller lets go. -/
theorem Account.drop (h : Account id ref waiting t (o.pulls id) (o.session.ticket? id)) :
    Account id ref waiting (t ++ [⟨o, .drop id⟩]) ((o.step (.drop id)).pulls id)
      ((o.step (.drop id)).session.ticket? id) := by
  have quiet : Step.result? id ⟨o, .drop id⟩ = none := rfl
  by_cases resting : o.pulls id = .resting
  · rw [step_drop resting, Session.drop_ticket?, if_pos rfl]
    refine .gone ?_
    rw [results_of_none quiet]
    exact h.told.later _
  · rw [step_drop_of_pulling resting]
    have same := h.other quiet (by simp [Step.deed, deed])
    simpa [Step.deed, deed, Deed.apply] using same

/-! ## Whoever moves -/

/-- The mailbox of a request is that of no other. -/
theorem Sound.apart (h : Sound s o) (registered : s.Registered) {held own : Ticket}
    {other : RequestId} (found : o.session.ticket? id = some held)
    (found' : o.session.ticket? other = some own) (same : own.sub.mailbox = held.sub.mailbox) :
    other = id := by
  have ref (r : RequestId) {t : Ticket} (at_ : o.session.ticket? r = some t) :
      s.ref? r = some t.sub.mailbox := by
    obtain ⟨before, present, rfl | done⟩ :=
      h.later.held r t.sub (Session.ticket?_eq_some.mp at_).1
    · simp [Session.ref?, present]
    · simp [Session.ref?, present, done]
  exact registered.apart other id held.sub.mailbox (same ▸ ref other found') (ref id found)

/-- A step of another leaves a caller its subscription. -/
theorem other_step (own : a ≠ .pull id) (lets : a ≠ .drop id) :
    (o.step a).session.subscriptions.get? id = o.session.subscriptions.get? id ∧
      (o.step a).pulls id = o.pulls id := by
  cases a with
  | work n =>
    cases at_ : o.workers[n]? with
    | none => exact ⟨by simp [step, perform, at_], by simp [step, perform, at_]⟩
    | some w =>
      rw [step_work at_]
      exact ⟨congrArg (Keyed.get? id) (w.advance_subscriptions o.session), rfl⟩
  | find n other =>
    cases at_ : o.workers[n]? with
    | none => exact ⟨by simp [step, perform, at_], by simp [step, perform, at_]⟩
    | some w =>
      rw [step_find at_]
      exact ⟨rfl, rfl⟩
  | pull other =>
    have apart : other ≠ id := fun same => own (same ▸ rfl)
    rw [step_pull]
    refine ⟨?_, if_neg (Ne.symm apart)⟩
    have advances := (o.pulls other).advances other o.session
    simp only [pulled]
    generalize ((o.pulls other).advance other o.session).1 = got,
      ((o.pulls other).advance other o.session).2.1 = p,
      ((o.pulls other).advance other o.session).2.2 = after at advances
    cases advances with
    | leaves => simp [Session.conclude, Session.removeEntry, Keyed.get?_modify, apart]
    | _ => rfl
  | drop other =>
    have apart : other ≠ id := fun same => lets (same ▸ rfl)
    by_cases resting : o.pulls other = .resting
    · rw [step_drop resting]
      exact ⟨by simp [Session.drop, Session.removeEntry, Keyed.get?_erase, apart], rfl⟩
    · rw [step_drop_of_pulling resting]
      exact ⟨rfl, rfl⟩
  | pass span => exact ⟨rfl, rfl⟩

theorem Sound.account_step (h : Sound s o) (registered : s.Registered) (a : Act)
    (account : Account id ref waiting t (o.pulls id) (o.session.ticket? id)) :
    Account id ref waiting (t ++ [⟨o, a⟩]) ((o.step a).pulls id)
      ((o.step a).session.ticket? id) := by
  by_cases own : a = .pull id
  · subst own
    exact account.pull
  by_cases lets : a = .drop id
  · subst lets
    exact account.drop
  obtain ⟨subscription, pull⟩ := other_step (o := o) own lets
  have quiet : Step.result? id ⟨o, a⟩ = none := by
    simp [Step.result?, Step.answer?, own]
  rw [pull]
  generalize o.pulls id = p at account
  cases found : o.session.ticket? id with
  | none =>
    have gone : (o.step a).session.ticket? id = none := by
      simp only [Session.ticket?, subscription] at found ⊢
      cases present : o.session.subscriptions.get? id with
      | none => rfl
      | some sub =>
        rw [present, Option.bind_some, Option.map_eq_none_iff] at found
        rw [Option.bind_some, mailbox_step, found]
        rfl
    rw [gone]
    refine .gone ?_
    rw [results_of_none quiet]
    exact account.told.later _
  | some held =>
    rw [found] at account
    have ref_ : held.sub.mailbox = ref := by
      cases account with
      | going _ own | leaving own | ended _ own => exact own
    have next : (o.step a).session.ticket? id =
        some { held with box := (Step.deed ref ⟨o, a⟩).apply held.box } := by
      obtain ⟨at_, stored⟩ := Session.ticket?_eq_some.mp found
      refine Session.ticket?_eq_some.mpr ⟨subscription.trans at_, ?_⟩
      rw [mailbox_step, stored, ref_]
      rfl
    rw [next]
    refine account.other quiet fun takes => ?_
    obtain ⟨other, own', rfl, -, found', -, same⟩ := deed_take takes
    exact own (congrArg Act.pull (h.apart registered found found' (same.trans ref_.symm)))

theorem Sound.account_run (h : Sound s o) (registered : s.Registered)
    (account : Account id ref waiting t (o.pulls id) (o.session.ticket? id)) (acts : List Act) :
    Account id ref waiting (t ++ steps acts o) ((Contest.run acts o).pulls id)
      ((Contest.run acts o).session.ticket? id) := by
  induction acts generalizing o t with
  | nil => simpa [steps, Contest.run] using account
  | cons a acts ih =>
    have rest := ih (h.step registered a) (h.account_step registered a account)
    simpa [steps] using rest

/-- What there is to say of a request after the steps `t`, which lead to `o`.  At first it was
outstanding, and `waiting` were in its mailbox. -/
structure FirstWins (id : RequestId) (ref : MailboxRef) (waiting : List Value) (t : List Step)
    (o : Contest) : Prop where
  /-- The operations close the mailbox at most once. -/
  once : (t.filterMap (Step.write? ref)).length ≤ 1
  /-- Nothing else changes how it is closed, but that its caller learns that it fell behind. -/
  written : ∀ st ∈ t, st.after.session.closure? ref = st.before.session.closure? ref ∨
    (∃ c, st.write? ref = some c ∧ st.after.session.closure? ref = some c) ∨
    (st.after.session.closure? ref = some .finished ∧ st.Lags ref)
  /-- The caller gets what came before the mailbox was first closed, and is told how. -/
  told : Told id ref waiting t (results id t)
  /-- If an operation is over that was to resolve the request, the entry is gone. -/
  finished : ∀ (n : Nat) w, o.workers[n]? = some w → w.phase = .finished →
    w.op.Covers id w.collected → o.session.table.get? id = none
  /-- So it is if the caller has let go. -/
  dropped : o.session.subscriptions.get? id = none → o.session.table.get? id = none
  /-- An entry that is gone stays so, and no caller is forgotten. -/
  gone : o.session.table.get? id = none →
    o.Resolved id ref ∧ ∀ more, (Contest.run more o).session.table.get? id = none
  /-- Whose mailbox is closed is not resolved again. -/
  final : (o.session.closure? ref).isSome →
    ∀ more, (steps more o).filterMap (Step.write? ref) = []

/-- However operations on the requests of a session run into each other and into the callers,
the first resolution of a request wins. -/
theorem first_resolution_wins (settings : Settings) (ms : List Session.Move)
    (ops : List Operation) (acts : List Act) (id : RequestId) (e : Entry) (box : Mailbox)
    (found : (Session.run ms (Session.start settings)).table.get? id = some e)
    (stored : (Session.run ms (Session.start settings)).mailboxes[e.mailbox]? = some box) :
    FirstWins id e.mailbox box.items
      (steps acts (begin (Session.run ms (Session.start settings)) ops))
      (run acts (begin (Session.run ms (Session.start settings)) ops)) := by
  have registered := (Session.sound_run settings ms).toRegistered
  generalize Session.run ms (Session.start settings) = s at found stored registered
  have sound := (sound_begin registered ops).run registered acts
  obtain ⟨held, present, isOpen, own, -⟩ := registered.entry found
  obtain ⟨waits, opened⟩ := Ticket.isOpen_iff.mp isOpen
  have same : held.box = box := by
    have there := (Session.ticket?_eq_some.mp present).2
    rw [← own, stored] at there
    exact (Option.some.inj there).symm
  have account : Account id e.mailbox box.items [] .resting (some held) := by
    have balance : held.box.dropped = 0 →
        box.items ++ early e.mailbox [] = [] ++ held.box.items := fun _ => by simp [early, same]
    exact .going (fun _ => Pull.noConfusion) own.symm waits opened balance List.nil_prefix rfl
  have account := (sound_begin registered ops).account_run registered (present ▸ account) acts
  refine ⟨writes_once (Option.isSome_of_eq_some stored) acts, ?_, account.told, ?_, ?_, ?_, ?_⟩
  · exact fun st _ => closure_step st.before st.act e.mailbox
  · intro n w at_ finished covers
    have fits := sound.fits n w at_
    rw [Worker.Fits, finished] at fits
    cases fits with
    | finished gone => exact gone id covers
  · intro gone
    cases entry : (Contest.run acts (begin s ops)).session.table.get? id with
    | none => rfl
    | some e' =>
      have there := sound.held id e' entry
      rw [gone] at there
      cases there
  · intro gone
    exact ⟨sound.resolved id e found gone, fun more => (later_run more _).absent gone⟩
  · intro closed more
    exact writes_of_closed closed more

/-- An item and the end of the stream come for a request, and a sweep. -/
def rivals : List Operation :=
  [.route (.item "late" (.bool true)), .route (.finish "late"), .sweep 5]

/-- Between the two steps of the sweep, which has taken the entry, the end of the stream closes
the mailbox. -/
def overtaken : List Act :=
  [.work 0, .work 0, .work 1, .work 2, .find 2 "late", .work 2, .work 2, .work 1, .work 2, .work 2,
    .pull "late", .pull "late", .pull "late", .work 1]

theorem overtaken_firstWins :
    let ms : List Session.Move := [.send "late" none .storage .null, .pass 5]
    let s := Session.run ms (Session.start ⟨5, none, 4⟩)
    s.table.get? "late" = some ⟨.storage, 0, 0, 5⟩ ∧
      s.mailboxes[0]? = some (.empty "late" 4) ∧
      results "late" (steps overtaken (begin s rivals)) = [.item (.bool true), .finished] ∧
      (Contest.run overtaken (begin s rivals)).session.table = [] ∧
      FirstWins "late" 0 [] (steps overtaken (begin s rivals))
        (Contest.run overtaken (begin s rivals)) := by
  intro ms s
  obtain ⟨found, stored, got, gone⟩ : s.table.get? "late" = some ⟨.storage, 0, 0, 5⟩ ∧
      s.mailboxes[0]? = some (.empty "late" 4) ∧
      results "late" (steps overtaken (begin s rivals)) = [.item (.bool true), .finished] ∧
      (Contest.run overtaken (begin s rivals)).session.table = [] := by
    decide +kernel
  exact ⟨found, stored, got, gone, first_resolution_wins ⟨5, none, 4⟩ ms rivals overtaken "late"
    ⟨.storage, 0, 0, 5⟩ (.empty "late" 4) found stored⟩

end Contest

end Backchannel
