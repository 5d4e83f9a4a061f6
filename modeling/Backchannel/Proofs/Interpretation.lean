/-
# Backchannel.Proofs.Interpretation -- one line, told over either backend

The same line may come in the body of an exchange or from the daemon of a session.  What the
one who pulls obtains (`Http.Replies.Obtains`) and what the request gets that the line is about
(`Session.Gets`) come from the same response, and so they are alike, but for a line whose ends
JSON does not pass over: that one the session ignores (`line_interpreted`).
-/
import Backchannel.Proofs.Http.Body
import Backchannel.Proofs.Margins
import Backchannel.Proofs.Session.Turn
import Backchannel.Proofs.Text.Utf8

namespace Backchannel

set_option autoImplicit false

open Backchannel.Json (Value)
open Backchannel.Text (IsLine lineFeed splitLines)
open Backchannel.Text.Utf8 (Bytes encode)

/-! ## Lines of a body that goes on -/

namespace Http

/-- The caller reads a body that goes on; what has come of it and was not read are those bytes,
in any chunks. -/
structure Awaits (r : Replies) (bytes : Bytes) : Prop where
  waits : r.done = false
  phase : r.phase = .reading ∨
    (r.phase = .awaiting false ∧
      ∃ status, r.arrived.head = some (.ok status) ∧ status.isSuccess = true)
  bytes : bytes = r.buffer ++ r.arrived.chunks.flatten
  goesOn : r.arrived.ending = none

variable {r : Replies} {line : Bytes} {lines : List Bytes}

/-- What a pull comes to that finds those lines: of what they come to the first, if there is
anything. -/
def progressOf (id : RequestId) (lines : List Bytes) : Progress :=
  match lines.findSome? fun line => (LineContent.ofLine line).pulled? id with
  | some got => .ready got
  | none => .waiting none

theorem Awaits.remains {bytes : Bytes} (awaits : Awaits r bytes) : Remains r.id none r bytes where
  own := rfl
  waits := awaits.waits
  bytes := awaits.bytes
  ends := awaits.goesOn
  phase := awaits.phase.imp_right .inr

theorem progressOf_eq (id : RequestId) (lines : List Bytes) :
    progressOf id lines = match (untilOver (resultsOf id lines)).head? with
      | some got => .ready got
      | none => .waiting none := by
  have first : (untilOver (resultsOf id lines)).head? = (resultsOf id lines).head? := by
    cases resultsOf id lines with
    | nil => rfl
    | cons got rest =>
      rw [untilOver]
      split <;> rfl
  rw [first, resultsOf, List.head?_filterMap, progressOf]

theorem resume_lines (awaits : Awaits r lines.flatten) (whole : ∀ line ∈ lines, IsLine line) :
    (r.resume none).1 = progressOf r.id lines := by
  have held : holds r.id none lines.flatten = untilOver (resultsOf r.id lines) := by
    have apart := linesIn_lines whole none []
    rw [List.append_nil, linesIn_nil, List.append_nil] at apart
    rw [holds, apart]
    exact congrArg untilOver (List.append_nil _)
  obtain ⟨brings, -⟩ := resume_brings awaits.remains
  rw [progressOf_eq, ← held]
  generalize r.resume none = pulled at brings
  cases brings with
  | item goesOn remains first =>
    have now := first [] none (.inl rfl)
    rw [List.append_nil] at now
    rw [now]
    rfl
  | closes ends last =>
    have now := last [] none (.inl rfl)
    rw [List.append_nil] at now
    rw [now]
    rfl
  | waits goesOn remains nothing same =>
    have now := same [] none
    rw [List.append_nil, List.append_nil, nothing] at now
    rw [now]
    rfl

/-- A pull ends with what the reply is. -/
def Replies.Obtains (r : Replies) (reply : Reply) : Prop :=
  (r.resume none).1 = .ready reply.pulled

theorem pulled?_eq_reply {id : RequestId} {content : LineContent} {reply : Reply} :
    content.pulled? id = some reply.pulled ↔ content = .reply reply := by
  rcases content with _ | (v | _ | message) | fault <;> rcases reply with w | _ | message' <;>
    simp [LineContent.pulled?, Reply.pulled]

/-- What the next line of a body holds is obtained. -/
theorem obtains_iff (awaits : Awaits r line) (whole : IsLine line) {reply : Reply} :
    r.Obtains reply ↔ LineContent.ofLine line = .reply reply := by
  have awaits : Awaits r [line].flatten := by simpa using awaits
  rw [Replies.Obtains, resume_lines awaits (by simpa using whole), progressOf,
    List.findSome?_singleton, ← @pulled?_eq_reply r.id]
  cases (LineContent.ofLine line).pulled? r.id <;> simp

/-- Of a text the response in it is obtained, plain or not. -/
theorem obtains_answer {cs : List Char} (oneLine : '\n' ∉ cs)
    (awaits : Awaits r (encode (cs ++ ['\n']))) (reply : Reply) :
    r.Obtains reply ↔ ∃ answer, answerIn? cs = some answer ∧ answer.reply = reply := by
  rw [obtains_iff awaits (Text.isLine_encode oneLine), LineContent.ofLine,
    Text.Utf8.decode_encode, ← answerIn?_lineFeed]
  exact LineContent.ofText_eq_reply

end Http

/-! ## What a reply does to a mailbox -/

/-- An item is put into the mailbox, anything else closes it. -/
def Reply.put : Reply → Mailbox → Mailbox
  | .item v => .push v
  | .finish => .close .finished
  | .failed message => .close (.failed (.application message))

section

variable {m : Mailbox} {reply reply' : Reply}

theorem Mailbox.push_ne (isOpen : m.closure = none) (v : Value) : m.push v ≠ m := by
  intro same
  by_cases fits : m.items.length < m.room
  · have items := congrArg (List.length ∘ Mailbox.items) same
    simp [push, isOpen, fits] at items
  · have dropped := congrArg Mailbox.dropped same
    simp [push, isOpen, fits] at dropped

theorem Mailbox.push_injective (isOpen : m.closure = none) {v w : Value}
    (same : m.push v = m.push w) : v = w := by
  obtain ⟨kept, -, items⟩ := push_items isOpen v
  obtain ⟨kept', -, items'⟩ := push_items isOpen w
  rw [same, items'] at items
  exact (List.singleton_inj.mp (List.append_inj_right' items rfl)).symm

theorem Reply.put_ne (isOpen : m.closure = none) (reply : Reply) : reply.put m ≠ m := by
  cases reply with
  | item v => exact m.push_ne isOpen v
  | finish | failed message =>
    intro same
    have closure := congrArg Mailbox.closure same
    simp [put, isOpen] at closure

/-- The mailbox shows which reply it was. -/
theorem Reply.put_injective (isOpen : m.closure = none) (same : reply.put m = reply'.put m) :
    reply = reply' := by
  have closure := congrArg Mailbox.closure same
  cases reply <;> cases reply' <;> simp [put, isOpen] at closure
  · exact congrArg Reply.item (Mailbox.push_injective isOpen same)
  · rfl
  · rw [closure]

end

/-! ## What a request gets -/

namespace Session

variable {s s' : Session} {id : RequestId} {reply : Reply}

/-- From `s` to `s'` a request that was outstanding got that reply: it is in its mailbox, and
unless it was an item the entry is gone. -/
structure Gets (id : RequestId) (reply : Reply) (s s' : Session) : Prop where
  waited : s.isOutstanding id = true
  mailbox : s'.mailboxOf? id = (s.mailboxOf? id).map reply.put
  entry : s'.isOutstanding id = (itemOf? reply).isSome

theorem put_of_open {t : Ticket} (isOpen : t.isOpen = true) (reply : Reply) :
    (Turn.ofReply reply).apply id (some t) = some { t with box := reply.put t.box } := by
  cases reply <;> simp [Turn.ofReply, Turn.apply, Ticket.put, Ticket.close, isOpen, Reply.put]

theorem isOpen_put {t : Ticket} (isOpen : t.isOpen = true) (reply : Reply) :
    Ticket.isOpen { t with box := reply.put t.box } = (itemOf? reply).isSome := by
  obtain ⟨waits, opened⟩ := Ticket.isOpen_iff.mp isOpen
  cases reply <;> simp [Ticket.isOpen, Reply.put, itemOf?, waits, opened]

/-- A request gets a reply from a notice if that is the response to it. -/
theorem Sound.gets_iff (h : Sound s) (n : Notice) :
    Gets id reply s (s.heed n) ↔ s.isOutstanding id = true ∧
      ∃ answer, n = .response answer ∧ answer.id = id ∧ answer.reply = reply := by
  have after := h.heed n
  have turned := after.ticket id
  constructor
  · rintro ⟨waited, mailbox, -⟩
    refine ⟨waited, ?_⟩
    obtain ⟨t, held, isOpen⟩ := h.isOutstanding_iff.mp waited
    obtain ⟨-, opened⟩ := Ticket.isOpen_iff.mp isOpen
    rw [mailboxOf?_eq, mailboxOf?_eq, turned, held] at mailbox
    cases n with
    | nothing | request f => exact absurd (Option.some.inj mailbox).symm (reply.put_ne opened)
    | response answer =>
      simp only [Turn.ofNotice] at mailbox
      split at mailbox
      · rename_i own
        rw [put_of_open isOpen] at mailbox
        exact ⟨answer, rfl, own, Reply.put_injective opened (Option.some.inj mailbox)⟩
      · exact absurd (Option.some.inj mailbox).symm (reply.put_ne opened)
    | malformed other how =>
      simp only [Turn.ofNotice] at mailbox
      split at mailbox
      · have closure := congrArg Mailbox.closure (Option.some.inj mailbox)
        cases reply <;> simp [Ticket.close, isOpen, Reply.put, opened] at closure
      · exact absurd (Option.some.inj mailbox).symm (reply.put_ne opened)
  · rintro ⟨waited, answer, rfl, rfl, rfl⟩
    obtain ⟨t, held, isOpen⟩ := h.isOutstanding_iff.mp waited
    simp only [Turn.ofNotice, if_true, held, put_of_open isOpen] at turned
    refine ⟨waited, ?_, ?_⟩
    · rw [mailboxOf?_eq, mailboxOf?_eq, turned, held]
      rfl
    · rw [Bool.eq_iff_iff, after.isOutstanding_iff, turned, ← isOpen_put isOpen answer.reply]
      simp

/-! ## Lines of a session -/

theorem readBytes_within {bytes : Bytes} (reads : s.reading = true) (within : lineFeed ∉ bytes) :
    s.readBytes bytes = { s with unread := bytes.reverse ++ s.unread } := by
  induction bytes generalizing s with
  | nil => rfl
  | cons b bytes ih =>
    obtain ⟨first, rest⟩ := List.ne_and_not_mem_of_not_mem_cons within
    have kept : s.readByte b = { s with unread := b :: s.unread } := by
      simp [readByte, reads, Ne.symm first]
    rw [readBytes, List.foldl_cons, kept]
    exact (ih (s := { s with unread := b :: s.unread }) reads rest).trans (by simp)

/-- Between two lines the reader acts on a line as soon as it has its bytes. -/
theorem readBytes_line {line : Bytes} (reads : s.reading = true) (fresh : s.unread = [])
    (whole : IsLine line) : s.readBytes line = s.readLine line := by
  obtain ⟨body, rfl, within⟩ := whole
  have before := readBytes_within reads within
  have ends : { s with unread := body.reverse }.readByte lineFeed =
      { s with unread := [] }.readLine (lineFeed :: body.reverse).reverse :=
    (if_pos reads).trans (if_pos rfl)
  have empty : { s with unread := [] } = s := by rw [← fresh]
  rw [fresh, List.append_nil] at before
  calc s.readBytes (body ++ [lineFeed])
    _ = (s.readBytes body).readByte lineFeed := List.foldl_append
    _ = s.readLine (lineFeed :: body.reverse).reverse := by rw [before, ends, empty]
    _ = s.readLine (body ++ [lineFeed]) := by rw [List.reverse_cons, List.reverse_reverse]

/-- So the text of one line is heeded. -/
theorem run_line {cs : List Char} (oneLine : '\n' ∉ cs) (reads : s.reading = true)
    (fresh : s.unread = []) :
    run ((encode (cs ++ ['\n'])).map .byte) s = s.heed (Notice.ofText (cs ++ ['\n'])) := by
  rw [run_bytes, readBytes_line reads fresh (Text.isLine_encode oneLine), readLine, Notice.ofLine,
    Text.Utf8.decode_encode]

/-- Of a text a request that is outstanding gets the response to it, if the text is plain. -/
theorem Sound.gets_answer (h : Sound s) (cs : List Char) :
    Gets id reply s (s.heed (Notice.ofText (cs ++ ['\n']))) ↔
      Plain cs ∧ s.isOutstanding id = true ∧
        ∃ answer, answerIn? cs = some answer ∧ answer.id = id ∧ answer.reply = reply := by
  rw [h.gets_iff]
  simp only [Notice.ofText_eq_response, plain_lineFeed, answerIn?_lineFeed, and_assoc,
    exists_and_left]
  exact and_left_comm

end Session

/-! ## Either backend -/

/-- What the text of a line comes to for a caller who pulls it out of a body, and for a session
that it brings from `s` to `s'`. -/
structure Interpreted (cs : List Char) (r : Http.Replies) (s s' : Session) : Prop where
  /-- The caller obtains the response in it. -/
  obtained : ∀ reply, r.Obtains reply ↔
    ∃ answer, answerIn? cs = some answer ∧ answer.reply = reply
  /-- Over the session the request gets it that it is for, if that is outstanding and the text
  is plain, -/
  got : ∀ id reply, s.Gets id reply s' ↔ Plain cs ∧ s.isOutstanding id = true ∧
    ∃ answer, answerIn? cs = some answer ∧ answer.id = id ∧ answer.reply = reply
  /-- and of a text that is not plain there is no trace. -/
  ignored : ¬ Plain cs → s' = s
  /-- So for a request that is outstanding the backends differ just in the responses whose text
  is not plain. -/
  alike : (∀ answer, answerIn? cs = some answer → s.isOutstanding answer.id = true) →
    ((∀ reply, r.Obtains reply ↔ ∃ id, s.Gets id reply s') ↔ Plain cs ∨ answerIn? cs = none)

/-- A text of one line means the same response to who reads it out of a body and to a session,
but that a session ignores the text if it is not plain. -/
theorem line_interpreted {settings : Settings} {ms : List Session.Move} {r : Http.Replies}
    {cs : List Char} (oneLine : '\n' ∉ cs)
    (awaits : Http.Awaits r (encode (cs ++ ['\n'])))
    (reads : (Session.run ms (Session.start settings)).reading = true)
    (fresh : (Session.run ms (Session.start settings)).unread = []) :
    Interpreted cs r (Session.run ms (Session.start settings))
      (Session.run ((encode (cs ++ ['\n'])).map .byte)
        (Session.run ms (Session.start settings))) := by
  have sound := Session.sound_run settings ms
  generalize Session.run ms (Session.start settings) = s at reads fresh sound
  rw [Session.run_line oneLine reads fresh]
  have obtained := Http.obtains_answer oneLine awaits
  have got := fun id reply => @Session.Sound.gets_answer s id reply sound cs
  refine ⟨obtained, got, fun other => ?_, fun outstanding => ?_⟩
  · rw [Notice.ofText_of_not_plain (mt plain_lineFeed.mp other)]
    rfl
  · constructor
    · intro alike
      cases held : answerIn? cs with
      | none => exact .inr rfl
      | some answer =>
        obtain ⟨id, gets⟩ := (alike answer.reply).mp ((obtained _).mpr ⟨answer, held, rfl⟩)
        exact .inl ((got id _).mp gets).1
    · rintro (plain | none) reply
      · rw [obtained]
        constructor
        · rintro ⟨answer, held, same⟩
          exact ⟨answer.id, (got _ _).mpr ⟨plain, outstanding answer held, answer, held, rfl, same⟩⟩
        · rintro ⟨id, gets⟩
          obtain ⟨-, -, answer, held, -, same⟩ := (got id reply).mp gets
          exact ⟨answer, held, same⟩
      · simp [obtained, got, none]

/-- An item behind a no-break space. -/
def spacedItem : List Char :=
  '\u00A0' :: (InboundFrame.ofResponse none (.item "a" (.bool true))).toLine.toList.dropLast

/-- Who pulls it out of a body, and the session over which it was asked for. -/
def spacedReplies : Http.Replies :=
  ⟨"a", .llm, .reading, [], 5, false, ⟨none, [encode (spacedItem ++ ['\n'])], none⟩⟩

def spacedSession : Session :=
  Session.run [.send "a" none .llm .null] (Session.start ⟨5, none, 1⟩)

/-- The caller obtains it, and the session leaves the request without it. -/
theorem spacedItem_interpreted :
    ('\n' ∉ spacedItem ∧ Http.Awaits spacedReplies (encode (spacedItem ++ ['\n'])) ∧
      spacedSession.reading = true ∧ spacedSession.unread = []) ∧
    answerIn? spacedItem = some (.item "a" (.bool true)) ∧
      spacedSession.isOutstanding "a" = true ∧ ¬ Plain spacedItem ∧
      spacedReplies.Obtains (.item (.bool true)) ∧
      Session.run ((encode (spacedItem ++ ['\n'])).map .byte) spacedSession = spacedSession ∧
      ¬ ∀ reply, spacedReplies.Obtains reply ↔ ∃ id, spacedSession.Gets id reply
        (Session.run ((encode (spacedItem ++ ['\n'])).map .byte) spacedSession) := by
  obtain ⟨oneLine, reads, fresh, held, asked, other⟩ : '\n' ∉ spacedItem ∧
      spacedSession.reading = true ∧ spacedSession.unread = [] ∧
      answerIn? spacedItem = some (.item "a" (.bool true)) ∧
      spacedSession.isOutstanding "a" = true ∧ ¬ Plain spacedItem := by
    decide +kernel
  have awaits : Http.Awaits spacedReplies (encode (spacedItem ++ ['\n'])) :=
    ⟨rfl, .inl rfl, by simp [spacedReplies], rfl⟩
  obtain ⟨obtained, -, ignored, alike⟩ := line_interpreted oneLine awaits reads fresh
  refine ⟨⟨oneLine, awaits, reads, fresh⟩, held, asked, other, ?_, ignored other, fun same => ?_⟩
  · exact (obtained _).mpr ⟨_, held, rfl⟩
  · have outstanding : ∀ answer, answerIn? spacedItem = some answer →
        spacedSession.isOutstanding answer.id = true := by
      intro answer found
      cases held.symm.trans found
      exact asked
    rcases (alike outstanding).mp same with plain | none
    · exact other plain
    · rw [held] at none
      cases none

end Backchannel
