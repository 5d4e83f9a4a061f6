/-
# Backchannel.Proofs.Session.Effect -- what one line changes

A line goes through four readings: its bytes are text, the text is a frame, the frame is a
request or a response, and the data of a response makes up a response or at least names a
request.  Each of them can fail, and then the session is as it was (`Useless`).  What is left
changes one thing: a request of the daemon is handed to the plugin, and a response changes the
mailbox and the entry of the request that it names.

`Effect` tells that for any session, whether or not a run can lead to it.  In a session that
has come about the mailbox is that of the caller alone (`OwnEffect`).
-/
import Backchannel.Proofs.Interpretation
import Backchannel.Proofs.Session.Apart

namespace Backchannel

set_option autoImplicit false

open Backchannel.Json (Value Members Mismatch)
open Backchannel.Text.Utf8 (Bytes)

theorem Response.isTerminal_eq (r : Response) :
    r.isTerminal = (Session.itemOf? r.reply).isNone := by
  obtain ⟨id, event, message, data⟩ := r
  cases event <;> cases data <;> rfl

/-! ## What a line is the text of -/

namespace Notice

variable {line : Bytes} {f : InboundFrame}

/-- The frame that a line is the text of, but for the ends of the line. -/
def frameIn? (line : Bytes) : Option InboundFrame := do
  let cs ← (Text.Utf8.decode line).toOption
  (InboundFrame.decoder.parse (String.ofList (Text.trimRight isLineEnd cs))).toOption

/-- Data is an object that names its request. -/
def Names (data : Value) (id : RequestId) : Prop :=
  ∃ members, data = .object members ∧
    Members.get? "backwards_request_id" members = some (.text id)

theorem namedId?_eq_some {data : Value} {id : RequestId} :
    namedId? data = some id ↔ Names data id := by
  cases data with
  | object members =>
    simp only [namedId?, Value.member?, Option.bind_eq_some_iff, Names, Value.object.injEq,
      exists_eq_left']
    constructor
    · rintro ⟨v, member, text⟩
      cases v with
      | text own => cases text; exact member
      | _ => cases text
    · exact fun member => ⟨_, member, rfl⟩
  | _ => simp [namedId?, Value.member?, Names]

theorem parse_trimmed_blank {cs : List Char} (blank : cs.all Text.isBlank = true) :
    ∃ e, InboundFrame.decoder.parse (String.ofList (Text.trimRight isLineEnd cs)) = .error e := by
  refine Session.parse_blank (List.all_eq_true.mpr fun c among => List.all_eq_true.mp blank c ?_)
  have sub := List.dropWhile_suffix isLineEnd (l := cs.reverse)
  simpa using sub.subset (List.mem_reverse.mp among)

/-- What a line comes to is what its frame comes to. -/
theorem ofLine_eq (line : Bytes) : ofLine line = (frameIn? line).elim .nothing ofFrame := by
  rw [ofLine, frameIn?]
  cases Text.Utf8.decode line with
  | error how => rfl
  | ok cs =>
    simp only [Except.toOption, Option.bind_eq_bind, Option.bind_some, ofText]
    split
    · rename_i blank
      obtain ⟨e, fails⟩ := Session.parse_blank blank
      rw [fails]
      rfl
    · cases InboundFrame.decoder.parse (String.ofList (Text.trimRight isLineEnd cs)) <;> rfl

end Notice

namespace Session

open Notice (frameIn? idOfLine? Names)

variable {s : Session} {line : Bytes} {id : RequestId}

/-! ## Lines that change nothing -/

/-- Why a line changes nothing. -/
inductive Useless (s : Session) (line : Bytes) : Prop where
  | notText {how : Text.Utf8.Failure} (failed : Text.Utf8.decode line = .error how)
  | blank {cs : List Char} (text : Text.Utf8.decode line = .ok cs)
    (blank : cs.all Text.isBlank = true)
  | noFrame {cs : List Char} {e : Json.TextError} (text : Text.Utf8.decode line = .ok cs)
    (failed : InboundFrame.decoder.parse
      (String.ofList (Text.trimRight Notice.isLineEnd cs)) = .error e)
  | unknownEvent {f : InboundFrame} (frame : frameIn? line = some f) (event : f.event = .unknown)
  /-- It is a response to a request that is not outstanding, -/
  | stray {f : InboundFrame} {r : Response} (frame : frameIn? line = some f)
    (event : f.event = .response) (read : Response.decoder.ofValue f.data = .ok r)
    (settled : s.isOutstanding r.id = false)
  /-- or it cannot be read, and names one that is not outstanding, -/
  | strayMalformed {f : InboundFrame} {how : Mismatch} {id : RequestId}
    (frame : frameIn? line = some f) (event : f.event = .response)
    (failed : Response.decoder.ofValue f.data = .error how) (named : Names f.data id)
    (settled : s.isOutstanding id = false)
  /-- or none. -/
  | unnamed {f : InboundFrame} {how : Mismatch} (frame : frameIn? line = some f)
    (event : f.event = .response) (failed : Response.decoder.ofValue f.data = .error how)
    (anonymous : ∀ id, ¬ Names f.data id)

/-! ## What a notice changes -/

theorem get?_of_settled (settled : s.isOutstanding id = false) : s.table.get? id = none := by
  simpa [isOutstanding, Keyed.contains] using settled

theorem heed_stray {r : Response} (settled : s.isOutstanding r.id = false) :
    s.heed (.response r) = s := by
  simp [heed, route, get?_of_settled settled]

theorem heed_strayMalformed (settled : s.isOutstanding id = false) (how : Mismatch) :
    s.heed (.malformed id how) = s := by
  simp [heed, fail, get?_of_settled settled]

theorem heed_response {r : Response} {e : Entry} (found : s.table.get? r.id = some e) :
    s.heed (.response r) = { s with
      mailboxes := s.mailboxes.modify e.mailbox r.reply.put
      table := if r.isTerminal then s.table.erase r.id else s.table } := by
  rw [r.isTerminal_eq, heed, route, found]
  dsimp only
  cases r.reply <;> rfl

theorem heed_malformed {e : Entry} (found : s.table.get? id = some e) (how : Mismatch) :
    s.heed (.malformed id how) = { s with
      mailboxes := s.mailboxes.modify e.mailbox
        (.close (.failed (.protocol (.malformedResponse how))))
      table := s.table.erase id } := by
  rw [heed, fail, found]
  rfl

/-- Of the entries only that of the request may change that a notice is about. -/
theorem heed_entry_of_other {n : Notice} (other : n.names? ≠ some id) (s : Session) :
    (s.heed n).table.get? id = s.table.get? id := by
  cases n with
  | nothing => rfl
  | request f =>
    rw [heed]
    split <;> rfl
  | response r =>
    have apart : r.id ≠ id := fun same => other (congrArg some same)
    cases found : s.table.get? r.id with
    | none => rw [heed_stray (by simp [isOutstanding, Keyed.contains, found])]
    | some e =>
      rw [heed_response found]
      dsimp only
      split
      · rw [Keyed.get?_erase, if_neg apart]
      · rfl
  | malformed named how =>
    have apart : named ≠ id := fun same => other (congrArg some same)
    cases found : s.table.get? named with
    | none => rw [heed_strayMalformed (by simp [isOutstanding, Keyed.contains, found])]
    | some e =>
      rw [heed_malformed found]
      exact (Keyed.get?_erase _ _ _).trans (if_neg apart)

/-! ## Any session -/

/-- What a line changes of a session, that it brings from `s` to `s'`. -/
structure Effect (line : Bytes) (s s' : Session) : Prop where
  status : s'.status = s.status
  outbox : s'.outbox = s.outbox
  /-- Of the entries only that of the request may change that the line is about. -/
  entries : ∀ id, idOfLine? line ≠ some id → s'.table.get? id = s.table.get? id
  useless : Useless s line → s' = s
  request : ∀ f, frameIn? line = some f → f.event = .request →
    s' = if s.listening then { s with inbound := s.inbound ++ [f] } else s
  response : ∀ f r e, frameIn? line = some f → f.event = .response →
    Response.decoder.ofValue f.data = .ok r → s.table.get? r.id = some e →
      s' = { s with
        mailboxes := s.mailboxes.modify e.mailbox r.reply.put
        table := if r.isTerminal then s.table.erase r.id else s.table }
  malformed : ∀ f id how e, frameIn? line = some f → f.event = .response →
    Response.decoder.ofValue f.data = .error how → Names f.data id → s.table.get? id = some e →
      s' = { s with
        mailboxes := s.mailboxes.modify e.mailbox
          (.close (.failed (.protocol (.malformedResponse how))))
        table := s.table.erase id }
  /-- There is no other kind of line. -/
  complete : Useless s line ∨ ∃ f, frameIn? line = some f ∧
    (f.event = .request ∨ f.event = .response ∧
      ((∃ r, Response.decoder.ofValue f.data = .ok r ∧ s.isOutstanding r.id = true) ∨
        ∃ id how, Response.decoder.ofValue f.data = .error how ∧ Names f.data id ∧
          s.isOutstanding id = true))

theorem readLine_of_frame {f : InboundFrame} (frame : frameIn? line = some f) (s : Session) :
    s.readLine line = s.heed (Notice.ofFrame f) := by
  rw [readLine, Notice.ofLine_eq, frame]
  rfl

theorem readLine_of_none (none : frameIn? line = none) (s : Session) : s.readLine line = s := by
  rw [readLine, Notice.ofLine_eq, none]
  rfl

theorem ofFrame_response {f : InboundFrame} {r : Response} (event : f.event = .response)
    (read : Response.decoder.ofValue f.data = .ok r) : Notice.ofFrame f = .response r := by
  simp [Notice.ofFrame, event, Notice.ofResponseData, read]

theorem ofFrame_malformed {f : InboundFrame} {how : Mismatch} (event : f.event = .response)
    (failed : Response.decoder.ofValue f.data = .error how) (named : Names f.data id) :
    Notice.ofFrame f = .malformed id how := by
  simp [Notice.ofFrame, event, Notice.ofResponseData, failed, Notice.namedId?_eq_some.mpr named]

theorem Useless.readLine (useless : Useless s line) : s.readLine line = s := by
  cases useless with
  | notText failed => exact readLine_of_none (by simp [frameIn?, failed, Except.toOption]) s
  | blank text blank =>
    obtain ⟨e, failed⟩ := Notice.parse_trimmed_blank blank
    exact readLine_of_none (by simp [frameIn?, text, failed, Except.toOption]) s
  | noFrame text failed =>
    exact readLine_of_none (by simp [frameIn?, text, failed, Except.toOption]) s
  | unknownEvent frame event =>
    rw [readLine_of_frame frame, Notice.ofFrame, event]
    rfl
  | stray frame event read settled =>
    rw [readLine_of_frame frame, ofFrame_response event read, heed_stray settled]
  | strayMalformed frame event failed named settled =>
    rw [readLine_of_frame frame, ofFrame_malformed event failed named, heed_strayMalformed settled]
  | unnamed frame event failed anonymous =>
    rename_i f how
    have named : Notice.namedId? f.data = none := by
      refine Option.eq_none_iff_forall_not_mem.mpr fun id named => ?_
      exact anonymous id (Notice.namedId?_eq_some.mp named)
    rw [readLine_of_frame frame]
    simp [Notice.ofFrame, event, Notice.ofResponseData, failed, named, heed]

theorem useless_or_acts (line : Bytes) (s : Session) :
    Useless s line ∨ ∃ f, frameIn? line = some f ∧
      (f.event = .request ∨ f.event = .response ∧
        ((∃ r, Response.decoder.ofValue f.data = .ok r ∧ s.isOutstanding r.id = true) ∨
          ∃ id how, Response.decoder.ofValue f.data = .error how ∧ Names f.data id ∧
            s.isOutstanding id = true)) := by
  cases frame : frameIn? line with
  | none =>
    left
    cases text : Text.Utf8.decode line with
    | error how => exact .notText text
    | ok cs =>
      cases parsed : InboundFrame.decoder.parse
          (String.ofList (Text.trimRight Notice.isLineEnd cs)) with
      | error e => exact .noFrame text parsed
      | ok f => simp [frameIn?, text, parsed, Except.toOption] at frame
  | some f =>
    cases event : f.event with
    | request => exact .inr ⟨f, rfl, .inl event⟩
    | unknown => exact .inl (.unknownEvent frame event)
    | response =>
      cases read : Response.decoder.ofValue f.data with
      | ok r =>
        cases waits : s.isOutstanding r.id with
        | true => exact .inr ⟨f, rfl, .inr ⟨event, .inl ⟨r, read, waits⟩⟩⟩
        | false => exact .inl (.stray frame event read waits)
      | error how =>
        by_cases anonymous : ∀ id, ¬ Names f.data id
        · exact .inl (.unnamed frame event read anonymous)
        · obtain ⟨id, named⟩ := Classical.not_forall_not.mp anonymous
          cases waits : s.isOutstanding id with
          | true => exact .inr ⟨f, rfl, .inr ⟨event, .inr ⟨id, how, read, named, waits⟩⟩⟩
          | false => exact .inl (.strayMalformed frame event read named waits)

theorem effect_readLine (line : Bytes) (s : Session) : Effect line s (s.readLine line) where
  status := (heed_connection _ s).status
  outbox := congrArg Backdrop.outbox (heed_leaves _ s).backdrop
  entries _ other := heed_entry_of_other (mt Notice.idOfLine?_of_names other) s
  useless := Useless.readLine
  request f frame event := by
    rw [readLine_of_frame frame, Notice.ofFrame, event]
    rfl
  response f r e frame event read found := by
    rw [readLine_of_frame frame, ofFrame_response event read, heed_response found]
  malformed f id how e frame event failed named found := by
    rw [readLine_of_frame frame, ofFrame_malformed event failed named, heed_malformed found]
  complete := useless_or_acts line s

/-! ## A session that has come about -/

/-- From `s` to `s'` a request that was outstanding failed: its caller, who was not told of an
end yet, will be told the error, and the entry is gone. -/
structure Fails (id : RequestId) (e : CallError) (s s' : Session) : Prop where
  waited : s.isOutstanding id = true
  mailbox : ∃ box, s.mailboxOf? id = some box ∧ box.closure = none ∧
    s'.mailboxOf? id = some { box with closure := some (.failed e) }
  entry : s'.isOutstanding id = false

/-- What a line changes for the callers of a session. -/
structure OwnEffect (line : Bytes) (s s' : Session) : Prop where
  /-- Who waits for a response has a mailbox that is open. -/
  waiting : ∀ id, s.isOutstanding id = true →
    ∃ box, s.mailboxOf? id = some box ∧ box.closure = none
  /-- Only the caller can notice it whose request the line is about. -/
  others : ∀ id, idOfLine? line ≠ some id → s'.ticket? id = s.ticket? id
  response : ∀ f r, frameIn? line = some f → f.event = .response →
    Response.decoder.ofValue f.data = .ok r → s.isOutstanding r.id = true →
      Gets r.id r.reply s s'
  malformed : ∀ f id how, frameIn? line = some f → f.event = .response →
    Response.decoder.ofValue f.data = .error how → Names f.data id → s.isOutstanding id = true →
      Fails id (.protocol (.malformedResponse how)) s s'

theorem Registered.waiting_mailbox (h : Registered s) (waited : s.isOutstanding id = true) :
    ∃ box, s.mailboxOf? id = some box ∧ box.closure = none := by
  obtain ⟨t, held, isOpen⟩ := h.isOutstanding_iff.mp waited
  exact ⟨t.box, by rw [mailboxOf?_eq, held, Option.map_some], (Ticket.isOpen_iff.mp isOpen).2⟩

theorem Sound.fails_malformed (h : Sound s) (waited : s.isOutstanding id = true) (how : Mismatch) :
    Fails id (.protocol (.malformedResponse how)) s (s.heed (.malformed id how)) := by
  have after := h.heed (.malformed id how)
  have turned := after.ticket id
  obtain ⟨t, held, isOpen⟩ := h.isOutstanding_iff.mp waited
  simp only [Turn.ofNotice, if_true, held, Turn.apply, Option.map_some] at turned
  refine ⟨waited, ⟨t.box, ?_, (Ticket.isOpen_iff.mp isOpen).2, ?_⟩, ?_⟩
  · rw [mailboxOf?_eq, held]
    rfl
  · rw [mailboxOf?_eq, turned, Option.map_some, Ticket.close, if_pos isOpen,
      Mailbox.close_of_open (Ticket.isOpen_iff.mp isOpen).2]
  · refine Bool.eq_false_iff.mpr fun waits => ?_
    obtain ⟨t', held', isOpen'⟩ := after.isOutstanding_iff.mp waits
    cases turned.symm.trans held'
    rw [Ticket.close_isOpen] at isOpen'
    cases isOpen'

theorem Sound.ownEffect_readLine (h : Sound s) (line : Bytes) :
    OwnEffect line s (s.readLine line) where
  waiting _ := h.waiting_mailbox
  others id other := by
    have named := mt Notice.idOfLine?_of_names other
    rw [readLine, (h.heed _).ticket, ofNotice_of_other named]
    rfl
  response f r frame event read waited := by
    rw [readLine_of_frame frame, ofFrame_response event read]
    exact (h.gets_iff _).mpr ⟨waited, r, rfl, rfl, rfl⟩
  malformed f id how frame event failed named waited := by
    rw [readLine_of_frame frame, ofFrame_malformed event failed named]
    exact h.fails_malformed waited how

/-- A line changes at most one thing.  It is of no use, or it is a request of the daemon, which
is handed on, or it is a response to a request that is outstanding: that gets the reply, or is
failed if the response cannot be read. -/
theorem line_effect (line : Bytes) :
    (∀ s : Session, Effect line s (s.readLine line)) ∧
    ∀ settings ms, OwnEffect line (run ms (start settings))
      ((run ms (start settings)).readLine line) :=
  ⟨effect_readLine line, fun settings ms => (sound_run settings ms).ownEffect_readLine line⟩

/-- A response to `bad` with an event that there is not. -/
def bogus : InboundFrame :=
  ⟨none, .response, .object [("backwards_request_id", .text "bad"), ("event", .text "bogus")]⟩

def badAndGood : List Move := [.send "bad" none .tool .null, .send "good" none .tool .null]

/-- It fails that request, and the other one has what it had. -/
theorem bogus_fails_alone :
    ∃ how, Fails "bad" (.protocol (.malformedResponse how)) (run badAndGood (start ⟨5, none, 8⟩))
        ((run badAndGood (start ⟨5, none, 8⟩)).readLine (Text.Utf8.bytesOf bogus.toLine)) ∧
      ((run badAndGood (start ⟨5, none, 8⟩)).readLine
          (Text.Utf8.bytesOf bogus.toLine)).ticket? "good" =
        (run badAndGood (start ⟨5, none, 8⟩)).ticket? "good" ∧
      ((run badAndGood (start ⟨5, none, 8⟩)).readLine
          (Text.Utf8.bytesOf bogus.toLine)).isOutstanding "good" = true := by
  obtain ⟨frame, about, waits, stays⟩ :
      frameIn? (Text.Utf8.bytesOf bogus.toLine) = some bogus ∧
        idOfLine? (Text.Utf8.bytesOf bogus.toLine) ≠ some "good" ∧
        (run badAndGood (start ⟨5, none, 8⟩)).isOutstanding "bad" = true ∧
        (run badAndGood (start ⟨5, none, 8⟩)).isOutstanding "good" = true := by
    decide +kernel
  obtain ⟨any, own⟩ := line_effect (Text.Utf8.bytesOf bogus.toLine)
  have fails := (own ⟨5, none, 8⟩ badAndGood).malformed bogus "bad" _ frame rfl rfl
    ⟨_, rfl, rfl⟩ waits
  have entry := (any (run badAndGood (start ⟨5, none, 8⟩))).entries "good" about
  refine ⟨_, fails, (own ⟨5, none, 8⟩ badAndGood).others "good" about, ?_⟩
  rw [isOutstanding, Keyed.contains, entry]
  exact stays

end Session

end Backchannel
