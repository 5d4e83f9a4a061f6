/-
# Backchannel.Proofs.Session.Contest.Sound -- what operations see to

`Phase.Fits` says what an operation has seen to that has come so far.  In particular, one that
was to resolve a request and is over has seen its entry gone.

The invariant of all together is `Contest.Sound`.  Its heart is `resolved`: if the entry of a
request is gone, then its mailbox is closed, or someone who took the entry is about to close it,
or the caller itself has ended the request.  So no one is forgotten.
-/
import Backchannel.Proofs.Session.Contest.Steps

namespace Backchannel

set_option autoImplicit false

open Backchannel.Json (Value)
open Session (Later itemOf?)

variable {s s' : Session} {o : Contest} {id : RequestId} {ref : MailboxRef} {w : Worker}

/-! ## What an operation has seen to -/

/-- The operation is to resolve a request: it routes the last response, or it has come upon the
id. -/
def Operation.Covers (id : RequestId) (collected : List RequestId) (op : Operation) : Prop :=
  match op with
  | .route r => r.id = id ∧ itemOf? r.reply = none
  | .fail _ _ | .sweep _ | .failAll _ => id ∈ collected

/-- The operation takes entries. -/
def Operation.takes : Operation → Bool
  | .route _ => false
  | .fail _ _ | .sweep _ | .failAll _ => true

theorem Operation.covers_iff {op : Operation} (takes : op.takes = true)
    (collected : List RequestId) : op.Covers id collected ↔ id ∈ collected := by
  cases op with
  | route r => cases takes
  | fail | sweep | failAll => exact Iff.rfl

/-- What an operation has seen to that has come so far; `s` is where all began, `s'` is the
session now. -/
inductive Phase.Fits (s s' : Session) (op : Operation) (collected : List RequestId) :
    Phase → Prop where
  | looking {r : Response} (routes : op = .route r) : Fits s s' op collected (.looking r)
  | handing {r : Response} {e : Entry} (routes : op = .route r)
    (found : s.table.get? r.id = some e) : Fits s s' op collected (.handing e.mailbox r)
  | clearing {r : Response} {e : Entry} (routes : op = .route r)
    (found : s.table.get? r.id = some e) (closed : (s'.closure? e.mailbox).isSome) :
    Fits s s' op collected (.clearing r.id)
  | starting {why : Grounds} (takes : op.takes = true) (none : collected = []) :
    Fits s s' op collected (.starting why)
  | gathering {why : Grounds} {owed : List RequestId} (takes : op.takes = true)
    (covered : ∀ id ∈ collected, ∀ e, s.table.get? id = some e → why.covers e = true) :
    Fits s s' op collected (.gathering why owed)
  | taking {why : Grounds} {left : List RequestId} (takes : op.takes = true)
    (covered : ∀ id ∈ left, ∀ e, s.table.get? id = some e → why.covers e = true)
    (taken : ∀ id ∈ collected, id ∈ left ∨ s'.table.get? id = none) :
    Fits s s' op collected (.taking why left)
  | telling {ref : MailboxRef} {c : Closure} {why : Grounds} {left : List RequestId}
    (takes : op.takes = true)
    (covered : ∀ id ∈ left, ∀ e, s.table.get? id = some e → why.covers e = true)
    (taken : ∀ id ∈ collected, id ∈ left ∨ s'.table.get? id = none) :
    Fits s s' op collected (.telling ref c why left)
  | finished (gone : ∀ id, op.Covers id collected → s'.table.get? id = none) :
    Fits s s' op collected .finished

namespace Worker

def Fits (s s' : Session) (w : Worker) : Prop := w.phase.Fits s s' w.op w.collected

theorem fits_begin (op : Operation) (s : Session) : (begin op).Fits s s := by
  cases op with
  | route r => exact .looking rfl
  | fail id e => exact .taking rfl (fun _ _ _ _ => rfl) fun other among => .inl among
  | sweep now => exact .starting rfl rfl
  | failAll e => exact .starting rfl rfl

theorem Fits.later {s'' : Session} (h : w.Fits s s') (later : s'.Later s'') : w.Fits s s'' := by
  obtain ⟨op, phase, collected⟩ := w
  cases h with
  | looking routes => exact .looking routes
  | handing routes found => exact .handing routes found
  | clearing routes found closed => exact .clearing routes found (later.closed _ closed)
  | starting takes none => exact .starting takes none
  | gathering takes covered => exact .gathering takes covered
  | taking takes covered taken =>
    exact .taking takes covered fun id among => (taken id among).imp_right later.absent
  | telling takes covered taken =>
    exact .telling takes covered fun id among => (taken id among).imp_right later.absent
  | finished gone => exact .finished fun id covers => later.absent (gone id covers)

/-- Every step of an operation leaves it fit. -/
theorem Fits.advance (h : w.Fits s s') (later : s.Later s')
    (stored : ∀ id e, s.table.get? id = some e → (s'.mailboxes[e.mailbox]?).isSome) :
    ({ w with phase := (w.advance s').1 } : Worker).Fits s (w.advance s').2 := by
  have advances := w.advances s'
  have next := w.advance_later s'
  unfold Fits at h ⊢
  generalize (w.advance s').1 = phase', (w.advance s').2 = after at advances next
  cases advances with
  | finds phase found =>
    rw [phase] at h
    cases h with
    | looking routes => exact .handing routes (later.entry _ _ found)
  | misses phase absent =>
    rw [phase] at h
    cases h with
    | looking routes =>
      refine .finished fun id covers => ?_
      rw [routes] at covers
      exact covers.1 ▸ absent
  | puts phase item =>
    rw [phase] at h
    cases h with
    | handing routes found =>
      refine .finished fun id covers => ?_
      rw [routes] at covers
      have last := covers.2
      rw [item] at last
      cases last
  | closes phase last =>
    rw [phase] at h
    cases h with
    | @handing _ e routes found =>
      refine .clearing routes found ?_
      obtain ⟨box, held⟩ := Option.isSome_iff_exists.mp (stored _ e found)
      rw [Session.closure?, Session.onMailbox_get?, if_pos rfl, held]
      simp
  | clears phase =>
    rw [phase] at h
    cases h with
    | clearing routes found closed =>
      refine .finished fun id covers => ?_
      rw [routes] at covers
      rw [Session.removeEntry_get?, if_pos covers.1]
  | starts owed phase =>
    rw [phase] at h
    cases h with
    | starting takes none =>
      refine .gathering takes ?_
      rw [none]
      exact fun id among => absurd among List.not_mem_nil
  | gathers phase => rwa [phase] at h
  | gathered phase =>
    rw [phase] at h
    cases h with
    | gathering takes covered => exact .taking takes covered fun id among => .inl among
  | ends phase =>
    rw [phase] at h
    cases h with
    | taking takes covered taken =>
      refine .finished fun id covers => ?_
      rw [Operation.covers_iff takes] at covers
      exact (taken id covers).resolve_left List.not_mem_nil
  | @takes why id left e phase found covers =>
    rw [phase] at h
    cases h with
    | taking takes covered taken =>
      refine .telling takes (fun other among => covered other (List.mem_cons_of_mem _ among)) ?_
      intro other among
      rw [Session.removeEntry_get?]
      by_cases same : id = other
      · exact .inr (if_pos same)
      · rw [if_neg same]
        rcases taken other among with left | gone
        · exact .inl ((List.mem_cons.mp left).resolve_left fun own => same own.symm)
        · exact .inr gone
  | @passes why id left phase none =>
    rw [phase] at h
    cases h with
    | taking takes covered taken =>
      refine .taking takes (fun other among => covered other (List.mem_cons_of_mem _ among)) ?_
      intro other among
      rcases taken other among with left | gone
      · rcases List.mem_cons.mp left with rfl | left
        · -- Were the entry still there, there would be grounds to take it.
          refine .inr ?_
          cases found : s'.table.get? other with
          | none => rfl
          | some e =>
            have grounds := covered other List.mem_cons_self e (later.entry _ _ found)
            rw [none e found] at grounds
            cases grounds
        · exact .inl left
      · exact .inr gone
  | tells phase =>
    rw [phase] at h
    cases h with
    | telling takes covered taken => exact .taking takes covered taken
  | rests phase => rwa [phase] at h

theorem Fits.find (h : w.Fits s s') (later : s.Later s') (id : RequestId) :
    (w.find id s').Fits s s' := by
  obtain ⟨op, phase, collected⟩ := w
  cases h with
  | @gathering why owed takes covered =>
    simp only [Worker.find]
    split
    · rename_i present
      obtain ⟨e, found⟩ := Option.isSome_iff_exists.mp present
      obtain ⟨found, grounds⟩ := Option.filter_eq_some_iff.mp found
      refine .gathering takes fun other among entry known => ?_
      rcases List.mem_append.mp among with earlier | own
      · exact covered other earlier entry known
      · rw [List.mem_singleton.mp own, later.entry _ _ found] at known
        exact Option.some.inj known ▸ grounds
    · exact .gathering takes covered
  | looking routes => exact .looking routes
  | handing routes found => exact .handing routes found
  | clearing routes found closed => exact .clearing routes found closed
  | starting takes none => exact .starting takes none
  | taking takes covered taken => exact .taking takes covered taken
  | telling takes covered taken => exact .telling takes covered taken
  | finished gone => exact .finished gone

end Worker

namespace Contest

variable {a : Act} {acts : List Act} {n : Nat}

/-! ## Whose entry is gone -/

/-- The caller of a request knows how it ended or is about to be told, or is there no more. -/
def Resolved (id : RequestId) (ref : MailboxRef) (o : Contest) : Prop :=
  (o.session.closure? ref).isSome ∨
    (∃ (n : Nat) (w : Worker) (c : Closure) (why : Grounds) (left : List RequestId),
      o.workers[n]? = some w ∧ w.phase = .telling ref c why left) ∨
    ∀ sub, o.session.subscriptions.get? id = some sub → sub.done = true

/-- What holds of a contest that began with the session `s`. -/
structure Sound (s : Session) (o : Contest) : Prop where
  later : s.Later o.session
  stored : ∀ ref : MailboxRef, (s.mailboxes[ref]?).isSome → (o.session.mailboxes[ref]?).isSome
  fits : ∀ (n : Nat) w, o.workers[n]? = some w → w.Fits s o.session
  held : ∀ id e, o.session.table.get? id = some e → (o.session.subscriptions.get? id).isSome
  resolved : ∀ id e, s.table.get? id = some e → o.session.table.get? id = none →
    o.Resolved id e.mailbox

/-- Whoever removes an entry: a route that has closed the mailbox, one who takes it, or the
caller. -/
theorem removed {e : Entry} (found : o.session.table.get? id = some e)
    (gone : (o.step a).session.table.get? id = none) :
    (∃ (n : Nat) (w : Worker), o.workers[n]? = some w ∧ w.phase = .clearing id) ∨
      (∃ (n : Nat) (w : Worker) (c : Closure) (why : Grounds) (left : List RequestId),
        (o.step a).workers[n]? = some w ∧ w.phase = .telling e.mailbox c why left) ∨
      ∀ sub, (o.step a).session.subscriptions.get? id = some sub → sub.done = true := by
  have stays (same : (o.step a).session.table = o.session.table) : False := by
    rw [same, found] at gone
    cases gone
  cases a with
  | work n =>
    cases at_ : o.workers[n]? with
    | none => exact (stays (by simp [step, perform, at_])).elim
    | some w =>
      rw [step_work at_] at gone stays ⊢
      have advances := w.advances o.session
      generalize (w.advance o.session).1 = phase', (w.advance o.session).2 = after
        at advances gone stays ⊢
      have own {other : RequestId} (removes : (o.session.removeEntry other).table.get? id = none) :
          other = id := by
        rw [Session.removeEntry_get?] at removes
        refine Classical.byContradiction fun apart => ?_
        rw [if_neg apart, found] at removes
        cases removes
      cases advances with
      | clears phase => exact .inl ⟨n, w, at_, own gone ▸ phase⟩
      | @takes why other left entry phase present covers =>
        cases own gone
        rw [found] at present
        cases present
        exact .inr (.inl ⟨n, _, _, why, left, worked_get? at_ _ _, rfl⟩)
      | _ => exact (stays rfl).elim
  | find n other =>
    cases at_ : o.workers[n]? with
    | none => exact (stays (by simp [step, perform, at_])).elim
    | some w => exact (stays (by rw [step_find at_]; rfl)).elim
  | pull other =>
    rw [step_pull] at gone stays ⊢
    have advances := (o.pulls other).advances other o.session
    generalize ((o.pulls other).advance other o.session).1 = got,
      ((o.pulls other).advance other o.session).2.1 = p,
      ((o.pulls other).advance other o.session).2.2 = after at advances gone stays ⊢
    cases advances with
    | leaves phase held =>
      have same : other = id := by
        refine Classical.byContradiction fun apart => ?_
        simp only [pulled, Session.conclude, Session.removeEntry_get?, if_neg apart, found] at gone
        cases gone
      subst same
      refine .inr (.inr fun sub told => ?_)
      simp only [pulled, Session.conclude, Keyed.get?_modify, if_true] at told
      obtain ⟨before, -, rfl⟩ := Option.map_eq_some_iff.mp told
      rfl
    | _ => exact (stays rfl).elim
  | drop other =>
    by_cases resting : o.pulls other = .resting
    · rw [step_drop resting] at gone ⊢
      have same : other = id := by
        refine Classical.byContradiction fun apart => ?_
        simp only [Session.drop, Session.removeEntry_get?, if_neg apart, found] at gone
        cases gone
      subst same
      refine .inr (.inr fun sub told => ?_)
      simp [Session.drop, Session.removeEntry] at told
    · exact (stays (by rw [step_drop_of_pulling resting])).elim
  | pass span => exact (stays rfl).elim

/-- What becomes of an operation in one step: it goes on, comes upon an id, or stays. -/
theorem worker_step (at_ : o.workers[n]? = some w) (a : Act) :
    (o.step a).workers[n]? = some w ∨
      (a = .work n ∧ o.step a = o.worked n { w with phase := (w.advance o.session).1 }
        (w.advance o.session).2) ∨
      ∃ id, a = .find n id ∧ o.step a = o.worked n (w.find id o.session) o.session := by
  have other {m : Nat} {w' : Worker} {s' : Session} (apart : m ≠ n) :
      (o.worked m w' s').workers[n]? = some w := by
    simpa [worked, apart] using at_
  cases a with
  | work m =>
    by_cases own : m = n
    · subst own
      exact .inr (.inl ⟨rfl, step_work at_⟩)
    · left
      cases found : o.workers[m]? with
      | none => simpa [step, perform, found] using at_
      | some w' =>
        rw [step_work found]
        exact other own
  | find m id =>
    by_cases own : m = n
    · subst own
      exact .inr (.inr ⟨id, rfl, step_find at_ id⟩)
    · left
      cases found : o.workers[m]? with
      | none => simpa [step, perform, found] using at_
      | some w' =>
        rw [step_find found]
        exact other own
  | pull id => exact .inl at_
  | drop id =>
    left
    by_cases resting : o.pulls id = .resting
    · rw [step_drop resting]
      exact at_
    · rw [step_drop_of_pulling resting]
      exact at_
  | pass span => exact .inl at_

theorem worker_before (at_ : (o.step a).workers[n]? = some w) : ∃ w', o.workers[n]? = some w' := by
  cases before : o.workers[n]? with
  | some w' => exact ⟨w', rfl⟩
  | none =>
    have same : (o.step a).workers[n]? = none := by
      cases a with
      | work m => cases found : o.workers[m]? <;> simpa [step, perform, found] using before
      | find m id => cases found : o.workers[m]? <;> simpa [step, perform, found] using before
      | pull id => exact before
      | drop id => cases phase : o.pulls id <;> simpa [step, perform, phase] using before
      | pass span => exact before
    rw [same] at at_
    cases at_

/-- Who is about to tell a caller tells it in the next step of its own. -/
theorem telling_step {c : Closure} {why : Grounds} {left : List RequestId}
    (stored : (o.session.mailboxes[ref]?).isSome) (at_ : o.workers[n]? = some w)
    (phase : w.phase = .telling ref c why left) (a : Act) :
    ((o.step a).session.closure? ref).isSome ∨
      ∃ w', (o.step a).workers[n]? = some w' ∧ w'.phase = .telling ref c why left := by
  obtain ⟨box, held⟩ := Option.isSome_iff_exists.mp stored
  rcases worker_step at_ a with stays | ⟨rfl, -⟩ | ⟨id, -, next⟩
  · exact .inr ⟨w, stays, phase⟩
  · left
    rw [Session.closure?, mailbox_step, held]
    simp [deed, at_, Worker.deed, phase, Deed.apply]
  · refine .inr ⟨w.find id o.session, ?_, by simp [Worker.find, phase]⟩
    rw [next, worked_get? at_]

theorem Resolved.step (h : o.Resolved id ref) (stored : (o.session.mailboxes[ref]?).isSome)
    (a : Act) : (o.step a).Resolved id ref := by
  rcases h with closed | ⟨n, w, c, why, left, at_, phase⟩ | ended
  · exact .inl ((o.later_step a).closed ref closed)
  · rcases telling_step stored at_ phase a with closed | ⟨w', at_', phase'⟩
    · exact .inl closed
    · exact .inr (.inl ⟨n, w', c, why, left, at_', phase'⟩)
  · refine .inr (.inr fun sub found => ?_)
    obtain ⟨before, found, rfl | rfl⟩ := (o.later_step a).held id sub found
    · exact ended sub found
    · rfl

/-! ## Every step -/

theorem Sound.fits_step (h : Sound s o) (entries : ∀ id e, s.table.get? id = some e →
      (s.mailboxes[e.mailbox]?).isSome) (a : Act) (n : Nat) (w : Worker)
    (at_ : (o.step a).workers[n]? = some w) : w.Fits s (o.step a).session := by
  obtain ⟨w', before⟩ := worker_before at_
  have fits := h.fits n w' before
  rcases worker_step before a with stays | ⟨-, next⟩ | ⟨id, -, next⟩
  · rw [stays] at at_
    cases at_
    exact fits.later (o.later_step a)
  · rw [next, worked_get? before] at at_
    cases at_
    rw [next]
    exact fits.advance h.later fun id e found => h.stored _ (entries id e found)
  · rw [next, worked_get? before] at at_
    cases at_
    rw [next]
    exact fits.find h.later id

/-- A caller lets go of its request and of the entry at once. -/
theorem held_step (a : Act) (held : (o.session.subscriptions.get? id).isSome)
    (gone : ((o.step a).session.subscriptions.get? id) = none) :
    (o.step a).session.table.get? id = none := by
  have stays (same : (o.step a).session.subscriptions = o.session.subscriptions) : False := by
    rw [same] at gone
    rw [gone] at held
    cases held
  cases a with
  | work n =>
    cases at_ : o.workers[n]? with
    | none => exact (stays (by simp [step, perform, at_])).elim
    | some w => exact (stays (by rw [step_work at_]; exact w.advance_subscriptions _)).elim
  | find n other =>
    cases at_ : o.workers[n]? with
    | none => exact (stays (by simp [step, perform, at_])).elim
    | some w => exact (stays (by rw [step_find at_]; rfl)).elim
  | pull other =>
    rw [step_pull] at gone stays
    have advances := (o.pulls other).advances other o.session
    generalize ((o.pulls other).advance other o.session).1 = got,
      ((o.pulls other).advance other o.session).2.1 = p,
      ((o.pulls other).advance other o.session).2.2 = after at advances gone stays
    cases advances with
    | leaves phase held' =>
      simp only [pulled, Session.conclude, Keyed.get?_modify] at gone
      split at gone
      · rw [Option.map_eq_none_iff.mp gone] at held
        cases held
      · rw [gone] at held
        cases held
    | _ => exact (stays rfl).elim
  | drop other =>
    by_cases resting : o.pulls other = .resting
    · rw [step_drop resting] at gone ⊢
      have same : other = id := by
        refine Classical.byContradiction fun apart => ?_
        simp only [Session.drop, Keyed.get?_erase, if_neg apart] at gone
        rw [gone] at held
        cases held
      subst same
      simp [Session.drop, Session.removeEntry]
    · exact (stays (by rw [step_drop_of_pulling resting])).elim
  | pass span => exact (stays rfl).elim

theorem sound_begin (registered : s.Registered) (ops : List Operation) : Sound s (begin s ops) where
  later := .refl s
  stored := fun _ isSome => isSome
  fits := by
    intro n w at_
    obtain ⟨op, -, rfl⟩ := List.mem_map.mp (List.mem_of_getElem? at_)
    exact Worker.fits_begin op s
  held := by
    intro id e found
    obtain ⟨t, held, -⟩ := registered.entry found
    exact Option.isSome_of_eq_some (Session.ticket?_eq_some.mp held).1
  resolved := by
    intro id e found gone
    rw [begin] at gone
    rw [found] at gone
    cases gone

theorem Sound.step (h : Sound s o) (registered : s.Registered) (a : Act) : Sound s (o.step a) where
  later := h.later.trans (o.later_step a)
  stored := by
    intro ref isSome
    rw [mailbox_step, Option.isSome_map]
    exact h.stored ref isSome
  fits := h.fits_step (fun id e found => by
    obtain ⟨t, held, -, own, -⟩ := registered.entry found
    rw [own]
    exact Option.isSome_of_eq_some (Session.ticket?_eq_some.mp held).2) a
  held := by
    intro id e found
    have before := h.held id e ((o.later_step a).entry id e found)
    refine Option.isSome_iff_ne_none.mpr fun gone => ?_
    rw [held_step a before gone] at found
    cases found
  resolved := by
    intro id e found gone
    obtain ⟨t, held, -, own, -⟩ := registered.entry found
    have stored : (o.session.mailboxes[e.mailbox]?).isSome := by
      refine h.stored _ ?_
      rw [own]
      exact Option.isSome_of_eq_some (Session.ticket?_eq_some.mp held).2
    cases before : o.session.table.get? id with
    | none => exact (h.resolved id e found before).step stored a
    | some e' =>
      have same := h.later.entry id e' before
      rw [found] at same
      cases same
      rcases removed before gone with ⟨n, w, at_, phase⟩ | ⟨n, w, c, why, left, at_, phase⟩ | ended
      · have fits := h.fits n w at_
        rw [Worker.Fits, phase] at fits
        cases fits with
        | clearing routes found' closed =>
          rw [found] at found'
          cases found'
          exact .inl ((o.later_step a).closed _ closed)
      · exact .inr (.inl ⟨n, w, c, why, left, at_, phase⟩)
      · exact .inr (.inr ended)

theorem Sound.run (h : Sound s o) (registered : s.Registered) (acts : List Act) :
    Sound s (run acts o) := by
  induction acts generalizing o with
  | nil => exact h
  | cons a acts ih => exact ih (h.step registered a)

end Contest

end Backchannel
