/-
# Backchannel.Proofs.Backends -- the same replies over either backend

A request goes over a session, which routes each response to its caller as it comes, or is an
exchange of its own, whose body its caller reads line by line.  The two share no code behind
the lines, and yet a caller cannot tell them apart (`backends_agree`): given the same
responses, in time, both bring the same elements and the same errors, whatever was asked for,
but that an error names another request.

Both are sources of what the replies come to (`outcomes`): the session as its caller waits
(`OverSession.supplies`), the body as it is read (`Script.told_lines`).  All else is the same
for two sources that bring the same.
-/
import Backchannel.Plugin.Basic
import Backchannel.Proofs.Http.Body
import Backchannel.Proofs.Response
import Backchannel.Proofs.Session.Script

namespace Backchannel

set_option autoImplicit false

open Backchannel.Json (Decoder Value nestingLimit)
open Backchannel.Http (pullTimes)
open Backchannel.Session (Move awaitReply pullAwaiting linesFor itemOf? itemsOf run start steps)
open Backchannel.Text.Utf8 (Bytes bytesOf)

/-! ## Errors of another request -/

namespace CallError

/-- The error as it is told to who made the request of that id. -/
def readdress (id : RequestId) : CallError → CallError
  | .timeout _ after => .timeout id after
  | .decode _ source => .decode id source
  | .lagged _ skipped => .lagged id skipped
  | .connectionClosed (.exchange _ how) => .connectionClosed (.exchange id how)
  | .protocol (.badLine _ fault) => .protocol (.badLine id fault)
  | .protocol (.refused _ status body) => .protocol (.refused id status body)
  | e => e

end CallError

variable {α : Type} {id id' : RequestId}

def Pulled.readdress (id : RequestId) : Pulled α → Pulled α
  | .failed e => .failed (e.readdress id)
  | got => got

theorem Pulled.readdress_isOver (id : RequestId) (got : Pulled α) :
    (got.readdress id).isOver = got.isOver := by
  cases got <;> rfl

/-- What a stream makes of a reply differs only in the request that an error names. -/
theorem typed_readdress (id id' : RequestId) (shape : Decoder α) (r : Reply) :
    Stream.typed id' shape r.pulled = (Stream.typed id shape r.pulled).readdress id' := by
  cases r with
  | finish => rfl
  | failed message => rfl
  | item v =>
    simp only [Reply.pulled, Stream.typed]
    cases shape.ofValue v <;> rfl

theorem ahead_readdress (id : RequestId) (count : Nat) (results : List (Pulled α)) :
    ahead count (results.map (Pulled.readdress id)) =
      (ahead count results).map (Pulled.readdress id) := by
  induction count generalizing results with
  | zero => rfl
  | succ count ih =>
    cases results with
    | nil => exact congrArg (Pulled.finished :: ·) (ih [])
    | cons got rest => exact congrArg (got.readdress id :: ·) (ih rest)

theorem gather_readdress (id : RequestId) (results : List (Pulled α)) :
    Stream.gather (elements (results.map (Pulled.readdress id))) =
      (Stream.gather (elements results)).mapError (CallError.readdress id) := by
  induction results with
  | nil => rfl
  | cons got rest ih =>
    cases got with
    | pending | finished | failed => rfl
    | item a =>
      have same : (Pulled.item a).readdress id = .item a := rfl
      rw [List.map_cons, same, elements, elements, Stream.gather, Stream.gather, ih]
      cases Stream.gather (elements rest) <;> rfl

/-! ## Replies -/

section

variable {replies : List Reply}

/-- Whatever is pulled is a reply. -/
theorem pulled_of_outcomes {raw : Pulled Value} (among : raw ∈ outcomes replies) :
    ∃ r : Reply, raw = r.pulled := by
  obtain ⟨r, -, same⟩ := List.mem_map.mp ((untilOver_isPrefix _).subset among)
  exact ⟨r, same.symm⟩

/-- So is the first pull, where there may be none. -/
theorem pulled_first (replies : List Reply) :
    ∃ r : Reply, (outcomes replies).headD .finished = r.pulled := by
  cases all : outcomes replies with
  | nil => exact ⟨.finish, rfl⟩
  | cons raw rest => exact pulled_of_outcomes (by rw [all]; exact List.mem_cons_self ..)

theorem typedAll_readdress (id id' : RequestId) (shape : Decoder α) (replies : List Reply) :
    Stream.typedAll id' shape (outcomes replies) =
      (Stream.typedAll id shape (outcomes replies)).map (Pulled.readdress id') := by
  rw [Stream.typedAll, Stream.typedAll, ← untilOver_map (Pulled.readdress_isOver id'),
    List.map_map]
  refine congrArg untilOver (List.map_congr_left fun raw among => ?_)
  obtain ⟨r, rfl⟩ := pulled_of_outcomes among
  exact typed_readdress id id' shape r

/-- A stream does not keep its caller waiting if its source does not. -/
theorem typedAll_ready (id : RequestId) (shape : Decoder α) (replies : List Reply) :
    .pending ∉ Stream.typedAll id shape (outcomes replies) := by
  intro among
  obtain ⟨raw, listed, same⟩ := List.mem_map.mp ((untilOver_isPrefix _).subset among)
  obtain ⟨r, rfl⟩ := pulled_of_outcomes listed
  cases r with
  | finish => cases same
  | failed message => cases same
  | item v =>
    simp only [Reply.pulled, Stream.typed] at same
    split at same <;> cases same

theorem typedAll_length (id : RequestId) (shape : Decoder α) (replies : List Reply) :
    (Stream.typedAll id shape (outcomes replies)).length ≤ replies.length := by
  have typed := (untilOver_isPrefix ((outcomes replies).map (Stream.typed id shape))).length_le
  have raw := (untilOver_isPrefix (replies.map Reply.pulled)).length_le
  rw [List.length_map] at typed raw
  exact Nat.le_trans typed raw

/-- A call for one result gets it from a reply, and it differs only in the request that an
error names. -/
theorem single_readdress (id id' : RequestId) (shape : Decoder α) (r : Reply) :
    ∃ result, Stream.single id shape r.pulled = some result ∧
      Stream.single id' shape r.pulled = some (result.mapError (CallError.readdress id')) := by
  cases r with
  | finish => exact ⟨.ok none, rfl, rfl⟩
  | failed message => exact ⟨.error (.application message), rfl, rfl⟩
  | item v =>
    simp only [Stream.single, Reply.pulled, Stream.typed]
    cases shape.ofValue v with
    | ok a => exact ⟨.ok (some a), rfl, rfl⟩
    | error how => exact ⟨.error (.decode id (.value how)), rfl, rfl⟩

/-- No storage operation names its request by itself. -/
theorem conclude_readdress (op : Storage.Operation) (id : RequestId)
    (result : Except CallError (Option Value)) :
    op.conclude (result.mapError (CallError.readdress id)) =
      (op.conclude result).mapError (CallError.readdress id) := by
  have confirmed (data : Value) : Storage.confirmed data =
      (Storage.confirmed data).mapError (CallError.readdress id) := by
    unfold Storage.confirmed
    split
    · split <;> rfl
    · rfl
  cases result with
  | error e => rfl
  | ok first =>
    cases first with
    | none => cases op <;> rfl
    | some data =>
      change op.answer data = (op.answer data).mapError _
      cases op with
      | set key bytes => exact confirmed data
      | delete key => exact confirmed data
      | get key =>
        simp only [Storage.Operation.answer, Storage.stored]
        split
        · split <;> rfl
        · rfl
      | has key =>
        simp only [Storage.Operation.answer]
        split <;> rfl

end

/-! ## Scripts -/

/-- What a daemon answers to a request: its responses, each in a frame for some plugin session. -/
abbrev Script := List (Option String × Response)

/-- The response as one to the request of that id. -/
def Response.addressed (id : RequestId) (r : Response) : Response := { r with id := id }

namespace Script

variable {script : Script}

/-- The lines of the responses to a request. -/
def lines (id : RequestId) (script : Script) : List Bytes :=
  script.map fun x => bytesOf (InboundFrame.ofResponse x.1 (x.2.addressed id)).toLine

/-- How many responses are items. -/
def itemCount (script : Script) : Nat := (script.filter fun x => !x.2.isTerminal).length

/-- Each frame can be read for its depth, and a response ends the request. -/
structure Proper (script : Script) : Prop where
  fits : ∀ x ∈ script, (InboundFrame.ofResponse x.1 x.2).toJson.depth ≤ nestingLimit
  ends : ∃ x ∈ script, x.2.isTerminal = true

/-- The responses as they are read. -/
noncomputable def responses (id : RequestId) (script : Script) : List Response :=
  script.map fun x => x.2.readBack.addressed id

noncomputable def replies (script : Script) : List Reply := script.map fun x => x.2.readBack.reply

theorem responses_reply (id : RequestId) (script : Script) :
    (script.responses id).map Response.reply = script.replies := by
  rw [responses, List.map_map]
  rfl

/-- The depth of a frame does not depend on the request. -/
theorem depth_addressed (sessionId : Option String) (r : Response) :
    (InboundFrame.ofResponse sessionId (r.addressed id)).toJson.depth =
      (InboundFrame.ofResponse sessionId r).toJson.depth := by
  rw [InboundFrame.toJson, InboundFrame.toJson, depth_frame, depth_frame]
  refine congrArg (· + 1) ?_
  change (r.addressed id).toJson.depth = r.toJson.depth
  rw [Response.toJson_members, Response.toJson_members]
  rfl

/-- The lines of a script are read by a session and out of a body as the same responses. -/
theorem ofLine_line (proper : script.Proper) (id : RequestId) {x : Option String × Response}
    (among : x ∈ script) :
    Notice.ofLine (bytesOf (InboundFrame.ofResponse x.1 (x.2.addressed id)).toLine) =
        .response (x.2.readBack.addressed id) ∧
      Http.LineContent.ofLine (bytesOf (InboundFrame.ofResponse x.1 (x.2.addressed id)).toLine) =
        .reply x.2.readBack.reply :=
  (x.2.addressed id).ofLine_toLine x.1
    (Nat.le_trans (Nat.le_of_eq (depth_addressed x.1 x.2)) (proper.fits x among))

theorem notices_lines (proper : script.Proper) (id : RequestId) :
    (script.lines id).map Notice.ofLine = (script.responses id).map .response := by
  rw [lines, responses, List.map_map, List.map_map]
  exact List.map_congr_left fun x among => (ofLine_line proper id among).1

/-- What the lines of a script come to in a body. -/
theorem told_lines (proper : script.Proper) (id : RequestId) :
    Http.told id (script.lines id) = outcomes script.replies := by
  have contents : (script.lines id).map Http.LineContent.ofLine =
      script.replies.map Http.LineContent.reply := by
    rw [lines, replies, List.map_map, List.map_map]
    exact List.map_congr_left fun x among => (ofLine_line proper id among).2
  have pulled : Http.LineContent.pulled? id ∘ Http.LineContent.reply = some ∘ Reply.pulled :=
    funext fun r => by cases r <;> rfl
  have read : (script.lines id).filterMap
        (fun line => (Http.LineContent.ofLine line).pulled? id) =
      script.replies.map Reply.pulled := by
    calc (script.lines id).filterMap (fun line => (Http.LineContent.ofLine line).pulled? id)
      _ = ((script.lines id).map Http.LineContent.ofLine).filterMap
          (Http.LineContent.pulled? id) := by
        rw [List.filterMap_map]
        rfl
      _ = script.replies.filterMap (some ∘ Reply.pulled) := by
        rw [contents, List.filterMap_map, pulled]
      _ = script.replies.map Reply.pulled := congrFun List.filterMap_eq_map _
  rw [Http.told, outcomes, read]

theorem isLine_line (id : RequestId) : ∀ line ∈ script.lines id, Text.IsLine line := by
  intro line among
  obtain ⟨x, -, rfl⟩ := List.mem_map.mp among
  exact isLine_frameLine _ _ _

theorem itemOf?_of_terminal {r : Response} (terminal : r.isTerminal = true) :
    itemOf? r.reply = none := by
  obtain ⟨id, event, message, data⟩ := r
  cases event with
  | error | finish => rfl
  | response =>
    cases data with
    | none => rfl
    | some v => cases terminal

theorem responses_end (proper : script.Proper) (id : RequestId) :
    ∃ r ∈ script.responses id, itemOf? r.reply = none := by
  obtain ⟨x, among, terminal⟩ := proper.ends
  exact ⟨_, List.mem_map.mpr ⟨x, among, rfl⟩,
    itemOf?_of_terminal (Response.isTerminal_readBack terminal)⟩

/-- No more items are read than there are. -/
theorem items_responses (script : Script) (id : RequestId) :
    (itemsOf (script.responses id)).length ≤ script.itemCount := by
  induction script with
  | nil => exact Nat.le_refl 0
  | cons x script ih =>
    have split : itemsOf (responses id (x :: script)) =
        (itemOf? x.2.readBack.reply).toList ++ itemsOf (responses id script) := by
      have reply : (x.2.readBack.addressed id).reply = x.2.readBack.reply := rfl
      rw [responses, List.map_cons, itemsOf, List.filterMap_cons, reply]
      cases itemOf? x.2.readBack.reply <;> rfl
    rw [split, List.length_append]
    cases terminal : x.2.isTerminal with
    | true =>
      have none := itemOf?_of_terminal (Response.isTerminal_readBack terminal)
      have same : itemCount (x :: script) = itemCount script := by simp [itemCount, terminal]
      rw [none, same]
      simpa using ih
    | false =>
      have more : itemCount (x :: script) = itemCount script + 1 := by simp [itemCount, terminal]
      have one : (itemOf? x.2.readBack.reply).toList.length ≤ 1 := by
        cases itemOf? x.2.readBack.reply <;> simp
      omega

end Script

/-! ## Over a session -/

section

variable {settings : Settings} {before : List Move} {schedule : List (List Move)}
  {sessionId : Option String} {request : Request} {script : Script}

/-- The session that a run leads to and over which a request is then made. -/
def sentOver (settings : Settings) (before : List Move) (sessionId : Option String) (r : Request) :
    Session :=
  (run before (start settings)).step (.send r.id sessionId r.kind r.payload)

/-- The lines of a script come to a request while its caller, and nobody else in his place,
waits: the session stays open, the deadline does not pass, and there is room for all items. -/
structure OverSession (settings : Settings) (before : List Move) (schedule : List (List Move))
    (sessionId : Option String) (request : Request) (script : Script) : Prop where
  room : script.itemCount ≤ settings.queueCapacity
  others : ∀ m ∈ schedule.flatten, m.caller? ≠ some request.id
  arrived : ∃ upto rest, schedule.flatten = upto ++ rest ∧
    linesFor request.id (steps upto (sentOver settings before sessionId request)) =
        script.lines request.id ∧
      (run upto (sentOver settings before sessionId request)).status = .opened ∧
      (run upto (sentOver settings before sessionId request)).now <
        deadlineAfter (run before (start settings)).now settings.requestTimeout

/-- Of a session that is closed no response would come to a new request. -/
theorem OverSession.opened
    (session : OverSession settings before schedule sessionId request script) :
    (run before (start settings)).status.isClosed = false := by
  obtain ⟨-, -, upto, -, -, -, opened, -⟩ := session
  rw [sentOver, ← Session.run_cons] at opened
  exact (Session.sound_run settings before).opened_before opened

/-- The caller gets what the replies come to. -/
theorem OverSession.supplies
    (session : OverSession settings before schedule sessionId request script)
    (proper : script.Proper) :
    Supplies (pullAwaiting request.id) (schedule, sentOver settings before sessionId request)
      (outcomes script.replies) := by
  obtain ⟨room, others, upto, rest, split, lines, opened, early⟩ := session
  have sound := Session.sound_run settings before
  have same : (run before (start settings)).settings = settings :=
    (Session.sound_start settings).run_settings before
  have reaches : Session.Reaches request.id
      (deadlineAfter (run before (start settings)).now
        (run before (start settings)).settings.requestTimeout)
      (script.responses request.id) (sentOver settings before sessionId request) upto := by
    refine ⟨?_, opened, by rw [same]; exact early⟩
    rw [Session.notices_eq, lines, Script.notices_lines proper]
  have fits : (itemsOf (script.responses request.id)).length ≤
      (run before (start settings)).settings.queueCapacity := by
    rw [same]
    exact Nat.le_trans (script.items_responses request.id) room
  have promised := sound.promised_sent split others reaches fits (script.responses_end proper _)
  rw [Script.responses_reply] at promised
  exact promised.supplies

end

/-! ## Either backend -/

/-- What two sources of the replies to a request have in common: the request of `id` at a
caller who waits, and that of `id'` by an exchange. -/
structure SameReplies (c : Http.Client) (source : List (List Move) × Session)
    (sessionId : Option String) (kind : Kind) (payload : Value) (id id' : RequestId)
    (length : Nat) : Prop where
  /-- The replies themselves are the same, -/
  raw : ∀ count, (pullTimes Http.Replies.recv count (c.send id' sessionId kind payload)).1 =
    (pullTimes (pullAwaiting id) count source).1
  /-- and so are the elements of a typed stream, -/
  elements : ∀ {α : Type} (shape : Decoder α) (count : Nat),
    (pullTimes Http.ReplyStream.next count
        (.start shape (c.send id' sessionId kind payload))).1 =
      (pullTimes (Stream.ofSource (pullAwaiting id)) count
        (.ofRequest id shape, source)).1.map (Pulled.readdress id')
  /-- of a timed one, -/
  timed : ∀ {α κ : Type} [DecidableEq κ] (shape : Decoder α) (guard : κ) (timing : Timing κ)
      (count : Nat),
    (pullTimes (Http.ReplyStream.nextTimed guard) count
        (.start shape (c.send id' sessionId kind payload), timing)).1 =
      (pullTimes (guarded (Stream.ofSource (pullAwaiting id)) guard) count
        ((.ofRequest id shape, source), timing)).1.map (Pulled.readdress id')
  /-- and all elements together, once both streams were pulled to their end. -/
  collected : ∀ {α : Type} (shape : Decoder α) (fuel : Nat), length < fuel →
    ((Stream.ofRequest id' shape).drain Http.Replies.recv fuel
        (c.send id' sessionId kind payload)).2.1 = true ∧
      ((Stream.ofRequest id shape).drain (pullAwaiting id) fuel source).2.1 = true ∧
      Stream.gather ((Stream.ofRequest id' shape).drain Http.Replies.recv fuel
          (c.send id' sessionId kind payload)).1 =
        (Stream.gather ((Stream.ofRequest id shape).drain (pullAwaiting id) fuel
          source).1).mapError (CallError.readdress id')
  /-- A call for one result comes to the same, -/
  single : ∀ {α : Type} (shape : Decoder α), ∃ result,
    Stream.single id shape (pullAwaiting id source).1 = some result ∧
      c.single id' sessionId kind payload shape = result.mapError (CallError.readdress id')
  /-- a storage operation, -/
  storage : ∀ op : Storage.Operation, kind = .storage → payload = op.payload → ∃ result,
    (Job.storage op).conclude id (pullAwaiting id source).1 =
        some (Except.map .stored result) ∧
      c.storage id' sessionId op = result.mapError (CallError.readdress id')
  /-- and a completion that is not streamed. -/
  completion : ∀ (model : ModelName) (r : Completion.Request), kind = .llm →
    payload = r.payload false → ∃ result,
      (Job.completion model r).conclude id (pullAwaiting id source).1 =
          some (Except.map .completion result) ∧
        c.complete id' sessionId r = result.mapError (CallError.readdress id')

theorem Supplies.sameReplies {c : Http.Client} {source : List (List Move) × Session}
    {sessionId : Option String} {kind : Kind} {payload : Value} {replies : List Reply}
    (here : Supplies (pullAwaiting id) source (outcomes replies))
    (there : Supplies Http.Replies.recv (c.send id' sessionId kind payload) (outcomes replies)) :
    SameReplies c source sessionId kind payload id id' replies.length := by
  have typed {α : Type} (shape : Decoder α) :
      Supplies (Stream.ofSource (pullAwaiting id)) (.ofRequest id shape, source)
        (Stream.typedAll id shape (outcomes replies)) := here.typed
  have typed' {α : Type} (shape : Decoder α) :
      Supplies (Stream.ofSource Http.Replies.recv)
        (.ofRequest id' shape, c.send id' sessionId kind payload)
        ((Stream.typedAll id shape (outcomes replies)).map (Pulled.readdress id')) :=
    typedAll_readdress id id' shape replies ▸ there.typed
  have opened {α : Type} (shape : Decoder α) :
      Supplies Http.ReplyStream.next (.start shape (c.send id' sessionId kind payload))
        ((Stream.typedAll id shape (outcomes replies)).map (Pulled.readdress id')) :=
    Http.ReplyStream.supplies (typed' shape)
  -- Both sources bring the same reply first.
  obtain ⟨r, first⟩ := pulled_first replies
  have here₁ : (pullAwaiting id source).1 = r.pulled := here.first.trans first
  have there₁ : (c.send id' sessionId kind payload).recv.1 = r.pulled := there.first.trans first
  have single {α : Type} (shape : Decoder α) : ∃ result,
      Stream.single id shape (pullAwaiting id source).1 = some result ∧
        c.single id' sessionId kind payload shape = result.mapError (CallError.readdress id') := by
    obtain ⟨result, own, other⟩ := single_readdress id id' shape r
    refine ⟨result, by rw [here₁, own], ?_⟩
    rw [Http.Client.single, there₁, other]
  refine ⟨?_, ?_, ?_, ?_, single, ?_, ?_⟩
  · intro count
    rw [here count, there count]
  · intro α shape count
    rw [typed shape count, opened shape count, ahead_readdress]
  · intro α κ _ shape guard timing count
    rw [(typed shape).guarded guard timing count,
      Http.ReplyStream.supplies_timed (opened shape) guard timing count, ahead_readdress]
  · intro α shape fuel enough
    have ready := typedAll_ready id shape replies
    have ready' := typedAll_ready id' shape replies
    rw [typedAll_readdress id id'] at ready'
    have length := Nat.lt_of_le_of_lt (typedAll_length id shape replies) enough
    obtain ⟨all, ended⟩ := (typed shape).drain ready length
    obtain ⟨all', ended'⟩ := (typed' shape).drain ready' (by rwa [List.length_map])
    refine ⟨ended', ended, ?_⟩
    rw [all, all', gather_readdress]
  · rintro op rfl rfl
    obtain ⟨result, own, other⟩ := single Storage.replyDecoder
    refine ⟨op.conclude result, ?_, ?_⟩
    · rw [Job.conclude, own]
      rfl
    · rw [Http.Client.storage, other, conclude_readdress]
  · rintro model r rfl rfl
    obtain ⟨result, own, other⟩ := single Completion.Result.decoder
    rw [Http.Client.complete, other, Job.conclude, own]
    rcases result with e | _ | result
    · exact ⟨.error e, rfl, rfl⟩
    · exact ⟨.error (.noResponse .llm), rfl, rfl⟩
    · exact ⟨.ok result, rfl, rfl⟩

/-- A caller cannot tell the backends apart: with the same responses in time both bring the
same, up to the request that an error names, and the line that is posted is the line that
the session hands to its writer, up to the request that it names. -/
theorem backends_agree {settings : Settings} {before : List Move} {schedule : List (List Move)}
    {c : Http.Client} {sessionId : Option String} {kind : Kind} {payload : Value}
    {script : Script} (proper : script.Proper)
    (session : OverSession settings before schedule sessionId ⟨kind, id, payload⟩ script)
    (answered : Http.Answered c sessionId ⟨kind, id', payload⟩ (script.lines id').flatten) :
    SameReplies c (schedule, sentOver settings before sessionId ⟨kind, id, payload⟩) sessionId
        kind payload id id' script.length ∧
      (run before (start settings)).send id sessionId kind payload =
        (.ok (), sentOver settings before sessionId ⟨kind, id, payload⟩) ∧
      (sentOver settings before sessionId ⟨kind, id, payload⟩).outbox =
        (run before (start settings)).outbox ++
          [(OutboundFrame.invoke sessionId ⟨kind, id, payload⟩).toLine] ∧
      ∃ post, Http.Post.ofRequest c.endpoint sessionId ⟨kind, id', payload⟩ = .ok post ∧
        post.body = (OutboundFrame.invoke sessionId ⟨kind, id', payload⟩).toLine := by
  have here := session.supplies proper
  have there := answered.unread.supplies
  rw [Text.splitLines_flatten_lines (script.isLine_line id'), script.told_lines proper] at there
  have length : script.replies.length = script.length := List.length_map ..
  have same := here.sameReplies there
  rw [length] at same
  have governed := (Session.sound_run settings before).toGoverned
  have opened : (run before (start settings)).status.isClosed = false := session.opened
  have sent := governed.send_of_open opened id sessionId kind payload
  have after : sentOver settings before sessionId ⟨kind, id, payload⟩ =
      ((run before (start settings)).send id sessionId kind payload).2 := rfl
  refine ⟨same, ?_, ?_, _, answered.posted, rfl⟩
  · rw [after, sent]
  · rw [after, sent]

/-- An item that is no truth value, and the end. -/
def shortScript : Script := [(some "s", .item "" (.text "maybe")), (none, .finish "")]

/-- The session with the request for them. -/
def shortSession : Session := sentOver ⟨5, none, 2⟩ [] none ⟨.llm, "here", .null⟩

/-- They come while the caller waits, the second line with the first byte of its own. -/
def shortSchedule : List (List Move) :=
  let moves := (shortScript.lines "here").flatten.map Move.byte
  [[.write], moves.take 9, .sweep :: moves.drop 9]

/-- A daemon that answers with them, in two chunks. -/
def shortClient : Http.Client where
  endpoint := ⟨"http", "", none, some (.name "daemon"), none, .segments ["t"], none, none⟩
  timeout := 5
  network := fun _ =>
    let body := (shortScript.lines "there").flatten
    ⟨some (.ok 200), [body.take 100, body.drop 100], some .complete⟩

theorem shortScript_agrees :
    shortScript.Proper ∧
      OverSession ⟨5, none, 2⟩ [] shortSchedule none ⟨.llm, "here", .null⟩ shortScript ∧
      Http.Answered shortClient none ⟨.llm, "there", .null⟩ (shortScript.lines "there").flatten ∧
      (pullTimes Http.ReplyStream.next 3
          (.start .bool (shortClient.send "there" none .llm .null))).1 =
        (pullTimes (Stream.ofSource (pullAwaiting "here")) 3
          (.ofRequest "here" .bool, shortSchedule, shortSession)).1.map
            (Pulled.readdress "there") := by
  have proper : shortScript.Proper := ⟨by decide +kernel, by decide +kernel⟩
  obtain ⟨others, lines, opened, early⟩ : (∀ m ∈ shortSchedule.flatten, m.caller? ≠ some "here") ∧
      linesFor "here" (steps shortSchedule.flatten shortSession) = shortScript.lines "here" ∧
        (run shortSchedule.flatten shortSession).status = .opened ∧
        (run shortSchedule.flatten shortSession).now < 5 := by
    decide +kernel
  have session : OverSession ⟨5, none, 2⟩ [] shortSchedule none ⟨.llm, "here", .null⟩ shortScript :=
    ⟨by decide +kernel, others, shortSchedule.flatten, [], (List.append_nil _).symm, lines, opened,
      early⟩
  have answered : Http.Answered shortClient none ⟨.llm, "there", .null⟩
      (shortScript.lines "there").flatten := by
    refine ⟨rfl, .inl rfl, nofun, 200, _, rfl, rfl, ?_⟩
    simp
  exact ⟨proper, session, answered, (backends_agree proper session answered).1.elements .bool 3⟩

end Backchannel
