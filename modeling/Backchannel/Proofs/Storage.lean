/-
# Backchannel.Proofs.Storage -- what an operation on the storage comes to

`Verdict` is the table: for each operation and for whatever comes first for its request, what
the operation comes to.  `verdict_iff` says that the table has one row for each case.  A call
follows it whatever else is done to the plugin (`storage_verdict`), and so does a call by HTTP
(`Http.Client.verdict`).

The data of a reply is its member of that name, and null if it has none.  A reply can be written
as a list as well.
-/
import Backchannel.Http.Client
import Backchannel.Proofs.Plugin.Calls
import Backchannel.Proofs.Text.Hex

namespace Backchannel

set_option autoImplicit false

open Backchannel.Json (Decoder Fields Members Mismatch Value)
open Backchannel.Text (Hex.decode Hex.encode Hex.digits)

namespace Text.Hex

/-- The text is made of an even number of digits, in either case. -/
def IsHex (s : String) : Prop := s.toList.length % 2 = 0 ∧ ∀ c ∈ s.toList, c ∈ digits

end Text.Hex

namespace Storage

/-! ## Replies -/

/-- The item is a reply with that data. -/
inductive Bears (data : Value) : Value → Prop where
  | member {members : Members}
    (only : members.filter (fun m => m.1 = "data") = [("data", data)]) : Bears data (.object members)
  | absent (null : data = .null) {members : Members}
    (none : members.filter (fun m => m.1 = "data") = []) : Bears data (.object members)
  | listed : Bears data (.list [data])
  | empty (null : data = .null) : Bears data (.list [])

theorem bears_object_iff {data : Value} {members : Members} :
    Bears data (.object members) ↔ members.filter (fun m => m.1 = "data") = [("data", data)] ∨
      data = .null ∧ members.filter (fun m => m.1 = "data") = [] := by
  constructor
  · intro bears
    cases bears with
    | member only => exact .inl only
    | absent null none => exact .inr ⟨null, none⟩
  · rintro (only | ⟨null, none⟩)
    · exact .member only
    · exact .absent null none

def replyFields : Fields (Value × Unit) (Option Value × Unit) :=
  .defaulted "data" .value .null .done

/-- A member of another name is passed over. -/
theorem ofMembers_other {key : String} (other : key ≠ "data") (v : Value) (rest : Members)
    (slots : Option Value × Unit) :
    replyFields.ofMembers ((key, v) :: rest) slots = replyFields.ofMembers rest slots := by
  have unknown (read : {α : Type} → Decoder α → Except Mismatch (α × Unit)) :
      replyFields.offer key read slots = .unknown := by
    simp only [replyFields, Fields.defaulted, Fields.offer, if_neg (Ne.symm other)]
  rw [Fields.ofMembers, unknown]

/-- Once there is data no other may come. -/
theorem ofMembers_filled {data : Value} {members : Members} {found : Value × Unit} :
    replyFields.ofMembers members (some data, ()) = .ok found ↔
      members.filter (fun m => m.1 = "data") = [] ∧ (data, ()) = found := by
  induction members with
  | nil => simp [Fields.ofMembers, replyFields, Fields.defaulted, Fields.finish, bind, Except.bind,
      pure, Except.pure]
  | cons m rest ih =>
    obtain ⟨key, v⟩ := m
    by_cases own : key = "data"
    · subst own
      have repeated (read : {α : Type} → Decoder α → Except Mismatch (α × Unit)) :
          replyFields.offer "data" read (some data, ()) = .repeated := rfl
      rw [Fields.ofMembers, repeated]
      simp
    · rw [ofMembers_other own, ih]
      simp [own]

theorem ofMembers_empty {data : Value} {members : Members} :
    replyFields.ofMembers members (none, ()) = .ok (data, ()) ↔ Bears data (.object members) := by
  rw [bears_object_iff]
  induction members with
  | nil => simp [Fields.ofMembers, replyFields, Fields.defaulted, Fields.finish, bind, Except.bind,
      pure, Except.pure, eq_comm]
  | cons m rest ih =>
    obtain ⟨key, v⟩ := m
    by_cases own : key = "data"
    · subst own
      have known : replyFields.ofMembers (("data", v) :: rest) (none, ()) =
          replyFields.ofMembers rest (some v, ()) := by
        have offered : replyFields.offer "data"
            (fun shape => (shape.ofValue v).map (·, ())) (none, ()) = .known (.ok ((some v, ()), ())) :=
          rfl
        rw [Fields.ofMembers, offered]
      rw [known, ofMembers_filled]
      simp [and_comm]
    · rw [ofMembers_other own, ih]
      simp [own]

theorem bears_iff {item data : Value} : replyDecoder.ofValue item = .ok data ↔ Bears data item := by
  cases item with
  | object members =>
    rw [← ofMembers_empty]
    change (replyFields.ofMembers members (none, ())).map (fun found => found.1) = .ok data ↔ _
    rw [Except.map_eq_ok]
    constructor
    · rintro ⟨⟨own, _⟩, read, rfl⟩
      exact read
    · intro read
      exact ⟨_, read, rfl⟩
  | list items =>
    rcases items with _ | ⟨v, _ | ⟨w, rest⟩⟩
    · change Except.ok Value.null = .ok data ↔ _
      constructor
      · rintro ⟨⟩
        exact .empty rfl
      · intro bears
        cases bears with
        | empty null => rw [null]
    · change Except.ok v = .ok data ↔ _
      constructor
      · rintro ⟨⟩
        exact .listed
      · intro bears
        cases bears
        rfl
    · constructor
      · intro read
        cases read
      · intro bears
        cases bears
  | _ =>
    constructor
    · intro read
      cases read
    · intro bears
      cases bears

/-! ## The table -/

namespace Operation

/-- The operation changes what is stored, and is answered with a word. -/
def Changes : Operation → Prop
  | .set _ _ | .delete _ => True
  | .get _ | .has _ => False

end Operation

/-- What an operation comes to, by what comes first for its request. -/
inductive Verdict (id : RequestId) : Operation → Pulled Value → Except CallError Answer → Prop where
  /-- Errors pass unchanged: those of the daemon, the loss of the connection, the deadline. -/
  | failed {op : Operation} (e : CallError) : Verdict id op (.failed e) (.error e)
  | alien {op : Operation} {item : Value} {how : Mismatch} (noReply : ∀ data, ¬ Bears data item)
    (why : replyDecoder.ofValue item = .error how) :
    Verdict id op (.item item) (.error (.decode id (.value how)))
  | done {op : Operation} {item : Value} (changes : op.Changes) (bears : Bears (.text "ok") item) :
    Verdict id op (.item item) (.ok .done)
  | status {op : Operation} {item : Value} {status : String} (changes : op.Changes)
    (bears : Bears (.text status) item) (other : status ≠ "ok") :
    Verdict id op (.item item) (.error (.application status))
  | report {op : Operation} {item data : Value} (changes : op.Changes) (bears : Bears data item)
    (noText : ∀ s, data ≠ .text s) :
    Verdict id op (.item item) (.error (.application data.render))
  | bytes {key digits : String} {item : Value} {bytes : Text.Utf8.Bytes}
    (bears : Bears (.text digits) item) (hex : Text.Hex.IsHex digits)
    (spelled : Hex.encode bytes = String.ofList (digits.toList.map Char.toLower)) :
    Verdict id (.get key) (.item item) (.ok (.bytes bytes))
  | noHex {key s : String} {item : Value} {how : Text.Hex.Failure} (bears : Bears (.text s) item)
    (noHex : ¬ Text.Hex.IsHex s) (why : Hex.decode s = .error how) :
    Verdict id (.get key) (.item item) (.error (.protocol (.storedNotHex key how)))
  | noText {key : String} {item data : Value} (bears : Bears data item)
    (noText : ∀ s, data ≠ .text s) :
    Verdict id (.get key) (.item item) (.error (.protocol (.storedNotText key)))
  | found {key : String} {item : Value} {found : Bool} (bears : Bears (.bool found) item) :
    Verdict id (.has key) (.item item) (.ok (.found found))
  | noBool {key : String} {item data : Value} (bears : Bears data item)
    (noBool : ∀ b, data ≠ .bool b) :
    Verdict id (.has key) (.item item) (.error (.protocol (.existsNotBool key data)))
  | setUnanswered {key : String} {bytes : Text.Utf8.Bytes} :
    Verdict id (.set key bytes) .finished (.error (.noResponse .storage))
  | getUnanswered {key : String} : Verdict id (.get key) .finished (.error (.notFound key))
  | deleteUnanswered {key : String} : Verdict id (.delete key) .finished (.error (.notFound key))
  | hasUnanswered {key : String} :
    Verdict id (.has key) .finished (.error (.protocol (.existsUnanswered key)))

/-- What an operation comes to, given the first pull. -/
def Operation.outcome? (id : RequestId) (op : Operation) (got : Pulled Value) :
    Option (Except CallError Answer) :=
  (Stream.single id replyDecoder got).map op.conclude

variable {id : RequestId} {op : Operation} {item data : Value}

theorem outcome?_of_bears (bears : Bears data item) (id : RequestId) (op : Operation) :
    op.outcome? id (.item item) = some (op.answer data) := by
  simp [Operation.outcome?, Stream.single, Stream.typed, bears_iff.mpr bears, Operation.conclude]

theorem answer_of_changes (changes : op.Changes) (data : Value) : op.answer data = confirmed data := by
  cases op with
  | set | delete => rfl
  | get | has => exact absurd changes not_false

theorem decode_of_spelled {digits : String} {bytes : Text.Utf8.Bytes} (hex : Text.Hex.IsHex digits)
    (spelled : Hex.encode bytes = String.ofList (digits.toList.map Char.toLower)) :
    Hex.decode digits = .ok bytes := by
  obtain ⟨read, ok, written⟩ := Text.Hex.decode_of_digits hex.2 hex.1
  have same : Text.Hex.encodeChars bytes = Text.Hex.encodeChars read :=
    (String.ofList_inj.mp spelled).trans written.symm
  rw [ok, Text.Hex.encodeChars_injective same]

theorem confirmed_of_not_text (noText : ∀ s, data ≠ .text s) :
    confirmed data = .error (.application data.render) := by
  cases data with
  | text s => exact absurd rfl (noText s)
  | _ => rfl

theorem stored_of_not_text (noText : ∀ s, data ≠ .text s) (key : String) :
    stored key data = .error (.protocol (.storedNotText key)) := by
  cases data with
  | text s => exact absurd rfl (noText s)
  | _ => rfl

theorem answer_of_not_bool (noBool : ∀ b, data ≠ .bool b) (key : String) :
    (Operation.has key).answer data = .error (.protocol (.existsNotBool key data)) := by
  cases data with
  | bool b => exact absurd rfl (noBool b)
  | _ => rfl

theorem Verdict.outcome {got : Pulled Value} {r : Except CallError Answer}
    (h : Verdict id op got r) : op.outcome? id got = some r := by
  cases h with
  | failed e => rfl
  | alien noReply why =>
    simp [Operation.outcome?, Stream.single, Stream.typed, why, Operation.conclude]
  | done changes bears => rw [outcome?_of_bears bears, answer_of_changes changes]; rfl
  | status changes bears other =>
    rw [outcome?_of_bears bears, answer_of_changes changes]
    exact congrArg some (if_neg other)
  | report changes bears noText =>
    rw [outcome?_of_bears bears, answer_of_changes changes, confirmed_of_not_text noText]
  | bytes bears hex spelled =>
    rw [outcome?_of_bears bears, Operation.answer, stored, decode_of_spelled hex spelled]
  | noHex bears _ why => rw [outcome?_of_bears bears, Operation.answer, stored, why]
  | noText bears noText =>
    rw [outcome?_of_bears bears, Operation.answer, stored_of_not_text noText]
  | found bears => rw [outcome?_of_bears bears]; rfl
  | noBool bears noBool => rw [outcome?_of_bears bears, answer_of_not_bool noBool]
  | setUnanswered | getUnanswered | deleteUnanswered | hasUnanswered => rfl

theorem verdict_of_changes (changes : op.Changes) (bears : Bears data item) :
    Verdict id op (.item item) (confirmed data) := by
  cases data with
  | text s =>
    by_cases ok : s = "ok"
    · subst ok
      exact .done changes bears
    · have other : confirmed (.text s) = .error (.application s) := if_neg ok
      rw [other]
      exact .status changes bears ok
  | _ => exact .report changes bears (fun s same => Value.noConfusion same)

theorem verdict_of_get (bears : Bears data item) (key : String) :
    Verdict id (.get key) (.item item) (stored key data) := by
  cases data with
  | text s =>
    cases read : Hex.decode s with
    | ok bytes =>
      have hex := (Text.Hex.decode_isOk s).mp ⟨bytes, read⟩
      simp only [stored, read]
      exact .bytes bears hex (Text.Hex.encode_decode read)
    | error how =>
      simp only [stored, read]
      refine .noHex bears (fun hex => ?_) read
      obtain ⟨bytes, ok⟩ := (Text.Hex.decode_isOk s).mpr hex
      cases read.symm.trans ok
  | _ => exact .noText bears (fun s same => Value.noConfusion same)

theorem verdict_of_bears (bears : Bears data item) : Verdict id op (.item item) (op.answer data) := by
  cases op with
  | set key bytes => exact verdict_of_changes trivial bears
  | delete key => exact verdict_of_changes trivial bears
  | get key => exact verdict_of_get bears key
  | has key =>
    cases data with
    | bool b => exact .found bears
    | _ => exact .noBool bears (fun b same => Value.noConfusion same)

/-- The table has one row for whatever is pulled first. -/
theorem verdict_iff {got : Pulled Value} {r : Except CallError Answer} :
    Verdict id op got r ↔ op.outcome? id got = some r := by
  refine ⟨Verdict.outcome, fun concluded => ?_⟩
  cases got with
  | pending => cases concluded
  | failed e =>
    cases concluded
    exact .failed e
  | finished => cases op <;> cases concluded <;> constructor
  | item v =>
    cases read : replyDecoder.ofValue v with
    | ok data =>
      have bears := bears_iff.mp read
      cases (outcome?_of_bears bears id op).symm.trans concluded
      exact verdict_of_bears bears
    | error how =>
      have noReply (data : Value) : ¬ Bears data v := fun bears => by
        cases read.symm.trans (bears_iff.mpr bears)
      have row : Verdict id op (.item v) (.error (.decode id (.value how))) := .alien noReply read
      cases row.outcome.symm.trans concluded
      exact row

theorem conclude_eq (op : Operation) (id : RequestId) (got : Pulled Value) :
    (Job.storage op).conclude id got = (op.outcome? id got).map fun r => r.map .stored := by
  rw [Job.conclude, Operation.outcome?, Option.map_map]
  rfl

theorem verdict_of_conclude {got : Pulled Value} {answer : Except CallError Backchannel.Answer}
    (concluded : (Job.storage op).conclude id got = some answer) :
    ∃ r, Verdict id op got r ∧ answer = r.map .stored := by
  rw [conclude_eq] at concluded
  obtain ⟨r, outcome, rfl⟩ := Option.map_eq_some_iff.mp concluded
  exact ⟨r, verdict_iff.mpr outcome, rfl⟩

theorem Verdict.unique {got : Pulled Value} {r r' : Except CallError Answer}
    (h : Verdict id op got r) (h' : Verdict id op got r') : r' = r :=
  Option.some.inj (h'.outcome.symm.trans h.outcome)

/-! ## Calls -/

open Plugin (Over Step first)

/-- Where a call for an operation is after the steps `t`, the first of which has started it. -/
inductive Stands (op : Operation) (id : RequestId) (t : List Plugin.Step) (p : Plugin) : Prop where
  /-- It runs.  A reply to its request is what comes first if nothing has come so far, and as
  soon as something has the next poll ends the call with the verdict on that. -/
  | running (held : p.held.get? id = some (.running (.storage op)))
    (hears : first id t = none → ∀ m r, Session.heard m p.session = .response r → r.id = id →
      first id (t ++ [⟨p, .session m⟩]) = some r.reply.pulled)
    (polled : ∀ got, first id t = some got → ∃ r, Verdict id op got r ∧
      (p.step (.look id)).held.get? id = some (.answered (r.map .stored)) ∧
      Over id (p.step (.look id)))
  | answered {got : Pulled Value} {r : Except CallError Answer} (came : first id t = some got)
    (verdict : Verdict id op got r) (only : ∀ r', Verdict id op got r' → r' = r)
    (held : p.held.get? id = some (.answered (r.map .stored))) (settled : Over id p)
  /-- It was cancelled, or its answer was taken. -/
  | gone (held : p.held.get? id = none) (ended : ∃ st ∈ t, st.op = .cancel id ∨ st.op = .join id)
    (settled : Over id p)

theorem stands_of_course {t : List Plugin.Step} {p : Plugin}
    (course : Plugin.Course (.storage op) id t p) (sound : p.session.Sound) : Stands op id t p := by
  cases course with
  | running held own waits kept next =>
    have again : Plugin.Course (.storage op) id t p := .running held own waits kept next
    refine .running held (fun nothing m r heard named => ?_) (fun got came => ?_)
    · rw [Plugin.first_snoc, nothing]
      exact Plugin.brought?_of_response (again.isOutstanding sound held nothing) heard named
    · obtain ⟨answer, concluded, answered⟩ := again.polled sound held came
      obtain ⟨r, verdict, rfl⟩ := verdict_of_conclude concluded
      have after := Plugin.Course.look sound held own waits kept next
      refine ⟨r, verdict, answered, after.over ((Plugin.step_leads _ p).sound sound) ?_⟩
      rw [answered]
      simp
  | answered held came concluded left =>
    obtain ⟨r, verdict, rfl⟩ := verdict_of_conclude concluded
    exact .answered came verdict (fun r' other => verdict.unique other) held
      (Plugin.over_of_ticket? sound left)
  | gone absent ended => exact .gone absent.held ended (Plugin.over_of_ticket? sound absent.left)

end Storage

/-- By HTTP an operation comes to the verdict on the first pull as well. -/
theorem Http.Client.verdict (c : Http.Client) (id : RequestId) (sessionId : Option String)
    (op : Storage.Operation)
    (there : (c.send id sessionId .storage op.payload).recv.1 ≠ .pending) :
    Storage.Verdict id op (c.send id sessionId .storage op.payload).recv.1
      (c.storage id sessionId op) := by
  rw [Storage.verdict_iff, Storage.Operation.outcome?, Http.Client.storage, Http.Client.single]
  obtain ⟨answer, concluded⟩ := Plugin.conclude_isSome (.storage op) id there
  rw [Job.conclude] at concluded
  obtain ⟨result, single, -⟩ := Option.map_eq_some_iff.mp concluded
  rw [single]
  rfl

/-- A call for an operation comes to the verdict on what comes first for its request and to
nothing else, whatever is done to the plugin before and meanwhile, as long as nobody else acts in
the name of the request and its queue has room.  Once the call has ended, if only because it was
cancelled, nothing is left of it, and what still comes for it changes nothing. -/
theorem storage_verdict (settings : Settings) {before after : List Plugin.Op} {id : RequestId}
    (sessionId : Option String) (op : Storage.Operation)
    (alone : ∀ o ∈ before ++ after, ¬ o.Intrudes id)
    (uncrowded : Plugin.Uncrowded id after
      ((Plugin.run before (Plugin.idle settings)).step (.start id sessionId (.storage op)))) :
    Storage.Stands op id
      (Plugin.steps (.start id sessionId (.storage op) :: after)
        (Plugin.run before (Plugin.idle settings)))
      (Plugin.run (before ++ .start id sessionId (.storage op) :: after) (Plugin.idle settings)) :=
  Storage.stands_of_course (Plugin.course_run settings sessionId (.storage op) alone uncrowded)
    (Plugin.run_sound _ (Session.sound_start settings))

namespace Storage

/-- The connection is lost before the daemon has answered. -/
def losing : List Plugin.Op := [.look "put", .session .endOfStream, .look "put", .session .sweep]

theorem losing_verdict :
    (∀ o ∈ ([] : List Plugin.Op) ++ losing, ¬ o.Intrudes "put") ∧
      ((Plugin.run (.start "put" none (.storage (.set "k" [0, 255])) :: losing)
        (Plugin.idle ⟨5, none, 2⟩)).held.get? "put" =
          some (.answered (.error (.connectionClosed .endOfStream)))) ∧
      Stands (.set "k" [0, 255]) "put"
        (Plugin.steps (.start "put" none (.storage (.set "k" [0, 255])) :: losing)
          (Plugin.idle ⟨5, none, 2⟩))
        (Plugin.run (.start "put" none (.storage (.set "k" [0, 255])) :: losing)
          (Plugin.idle ⟨5, none, 2⟩)) := by
  have alone : ∀ o ∈ ([] : List Plugin.Op) ++ losing, ¬ o.Intrudes "put" := by decide
  have uncrowded : Plugin.Uncrowded "put" losing
      ((Plugin.idle ⟨5, none, 2⟩).step (.start "put" none (.storage (.set "k" [0, 255])))) := by
    decide +kernel
  exact ⟨alone, by rfl, storage_verdict ⟨5, none, 2⟩ none (.set "k" [0, 255]) alone uncrowded⟩

end Storage

end Backchannel
