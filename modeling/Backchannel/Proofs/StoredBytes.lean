/-
# Backchannel.Proofs.StoredBytes -- what is put into the storage comes out of it

Bytes travel as digits: `set` writes them into its request, the daemon keeps that text and sends
it back as the data of its reply, and `get` reads it.  A `Keeper` is such a daemon.  It reads the
lines of the plugin and answers with lines of its own, so what it keeps has gone through the
writer and the reader of frames in both directions.
-/
import Backchannel.Proofs.CommandLine.OneCall
import Backchannel.Proofs.Config
import Backchannel.Proofs.Response

namespace Backchannel

set_option autoImplicit false

open Backchannel.Json (Value Members nestingLimit)
open Backchannel.Text (Hex.decode Hex.encode)
open Backchannel.Text.Utf8 (Bytes bytesOf)

namespace Storage

/-! ## Requests -/

/-- An object of texts. -/
inductive OfTexts : Value → Prop where
  | intro {members : Members} (ordered : (members.map Prod.fst).Pairwise (· < ·))
    (texts : ∀ m ∈ members, ∃ s, m.2 = .text s) : OfTexts (.object members)

theorem ofTexts_members {members : Members} (texts : ∀ m ∈ members, ∃ s, m.2 = .text s) :
    Value.OrderedMembers members ∧ Value.numbersMembers members = [] ∧
      Value.depthMembers members = 0 := by
  induction members with
  | nil => exact ⟨trivial, rfl, rfl⟩
  | cons m members ih =>
    obtain ⟨key, v⟩ := m
    obtain ⟨s, rfl : v = .text s⟩ := texts _ List.mem_cons_self
    obtain ⟨ordered, numbers, depth⟩ := ih fun m among => texts m (List.mem_cons_of_mem _ among)
    refine ⟨⟨trivial, ordered⟩, ?_, ?_⟩
    · simp [Value.numbersMembers, Value.numbers, numbers]
    · simp [Value.depthMembers, Value.depth, depth]

theorem OfTexts.exact {v : Value} (h : OfTexts v) : v.Exact ∧ v.depth = 1 := by
  obtain ⟨ordered, texts⟩ := h
  obtain ⟨inner, numbers, depth⟩ := ofTexts_members texts
  refine ⟨⟨⟨ordered, inner⟩, fun n among => ?_⟩, ?_⟩
  · rw [Value.numbers, numbers] at among
    exact absurd among List.not_mem_nil
  · rw [Value.depth, depth]

theorem payload_pair (word key : String) :
    Value.ofMembers [("opt", .text word), ("key", .text key)] =
      .object [("key", .text key), ("opt", .text word)] := by
  rw [Value.ofMembers, Members.ofList, List.foldl_cons, List.foldl_cons, List.foldl_nil,
    Members.insert_nil, Members.insert_before (show "key" < "opt" by decide)]

theorem payload_set (key : String) (bytes : Bytes) :
    (Operation.set key bytes).payload = .object
      [("key", .text key), ("opt", .text "set"), ("value", .text (Hex.encode bytes))] := by
  rw [Operation.payload, Value.ofMembers, Members.ofList, List.foldl_cons, List.foldl_cons,
    List.foldl_cons, List.foldl_nil, Members.insert_nil,
    Members.insert_before (show "key" < "opt" by decide),
    Members.insert_behind (show "key" < "value" by decide),
    Members.insert_behind (show "opt" < "value" by decide), Members.insert_nil]

theorem payload_ofTexts (op : Operation) : OfTexts op.payload := by
  have pair (word key : String) :
      OfTexts (Value.ofMembers [("opt", .text word), ("key", .text key)]) := by
    rw [payload_pair]
    have keys : ["key", "opt"].Pairwise (· < ·) := by decide
    exact .intro keys (by simp)
  cases op with
  | get key => exact pair "get" key
  | delete key => exact pair "del" key
  | has key => exact pair "exist" key
  | set key bytes =>
    rw [payload_set]
    have keys : ["key", "opt", "value"].Pairwise (· < ·) := by decide
    exact .intro keys (by simp)

/-- The line in which the plugin asks for an operation. -/
def Operation.line (op : Operation) (sessionId : Option String) (id : RequestId) : String :=
  (OutboundFrame.invoke sessionId ⟨.storage, id, op.payload⟩).toLine

theorem parse_line (op : Operation) (sessionId : Option String) (id : RequestId) :
    OutboundFrame.decoder.parse (op.line sessionId id) =
      .ok (.invoke sessionId ⟨.storage, id, op.payload⟩) := by
  obtain ⟨whole, depth⟩ := (payload_ofTexts op).exact
  refine (OutboundFrame.toLine_reads _ (OutboundFrame.invoke_exact whole)).result.mpr ?_
  rw [OutboundFrame.toJson, depth_frame, OutboundFrame.invoke, Envelope.toJson_members,
    Request.toJson_members]
  simp [Value.depth, Value.depthMembers, depth, Kind.toJson, nestingLimit]

/-! ## Replies -/

/-- The response of a daemon that has that to say. -/
def reply (id : RequestId) (data : Value) : Response := .item id (.object [("data", data)])

theorem readBack_reply (id : RequestId) (text : String) :
    (reply id (.text text)).readBack = reply id (.text text) := by
  have ofTexts : OfTexts (.object [("data", .text text)]) :=
    .intro (List.pairwise_singleton _ _) (by simp)
  have whole := ofTexts.exact.1
  have same : (Value.object [("data", .text text)]).readBack = .object [("data", .text text)] :=
    Value.reread_fixed _ whole.1 fun n among => absurd among List.not_mem_nil
  rw [Response.readBack]
  change { reply id (.text text) with
    data := Response.dataIn (Value.object [("data", .text text)]).readBack } = _
  rw [same]
  rfl

/-- The line of a reply with a text is read as that reply, by a session and out of a body. -/
theorem reads_reply (sessionId : Option String) (id : RequestId) (text : String) :
    Notice.ofLine (bytesOf (InboundFrame.ofResponse sessionId (reply id (.text text))).toLine) =
        .response (reply id (.text text)) ∧
      Http.LineContent.ofLine
          (bytesOf (InboundFrame.ofResponse sessionId (reply id (.text text))).toLine) =
        .reply (reply id (.text text)).reply := by
  have fits : (InboundFrame.ofResponse sessionId (reply id (.text text))).toJson.depth ≤
      nestingLimit := by
    rw [InboundFrame.toJson, depth_frame, InboundFrame.ofResponse, Response.toJson_members]
    simp [reply, Response.item, Value.ofOption, Value.depth, Value.depthMembers, nestingLimit]
  have read := (reply id (.text text)).ofLine_toLine sessionId fits
  rwa [readBack_reply] at read

/-! ## A daemon -/

/-- What a daemon keeps: texts by their keys. -/
abbrev Kept := Keyed String String

namespace Keeper

/-- What it keeps after a request, and what it has to say. -/
def answer (payload : Value) (kept : Kept) : Kept × Value :=
  match payload.member? "key" >>= Value.text? with
  | none => (kept, .null)
  | some key =>
    if payload.member? "opt" = some (.text "set") then
      match payload.member? "value" with
      | some (.text text) => (kept.insert key text, .text okWord)
      | _ => (kept, .null)
    else if payload.member? "opt" = some (.text "get") then
      (kept, .ofOption .text (kept.get? key))
    else (kept, .null)

/-- What it keeps after a line of the plugin, and what it writes. -/
def hear (line : String) (kept : Kept) : Kept × Bytes :=
  match OutboundFrame.decoder.parse line with
  | .error _ => (kept, [])
  | .ok f =>
    match f.request? with
    | none => (kept, [])
    | some r =>
      let (kept, data) := answer r.payload kept
      (kept, bytesOf (InboundFrame.ofResponse f.sessionId (reply r.id data)).toLine)

theorem hear_line (op : Operation) (sessionId : Option String) (id : RequestId) (kept : Kept) :
    hear (op.line sessionId id) kept = ((answer op.payload kept).1,
      bytesOf (InboundFrame.ofResponse sessionId (reply id (answer op.payload kept).2)).toLine) := by
  rw [hear, parse_line]
  dsimp only
  rw [OutboundFrame.request?_invoke]
  rfl

theorem answer_set (key : String) (bytes : Bytes) (kept : Kept) :
    answer (Operation.set key bytes).payload kept =
      (kept.insert key (Hex.encode bytes), .text okWord) := by
  rw [payload_set]
  simp [answer, Value.member?, Members.get?, Value.text?]

theorem answer_get {key text : String} {kept : Kept} (found : kept.get? key = some text) :
    answer (Operation.get key).payload kept = (kept, .text text) := by
  rw [Operation.payload, payload_pair]
  simp [answer, Value.member?, Members.get?, Value.text?, found, Value.ofOption]

end Keeper

theorem bears_reply (text : String) : Bears (.text text) (.object [("data", .text text)]) :=
  .member (by simp)

/-- What `get` makes of the digits of some bytes. -/
theorem verdict_encode {item : Value} {bytes : Bytes} (bears : Bears (.text (Hex.encode bytes)) item)
    (id : RequestId) (key : String) : Verdict id (.get key) (.item item) (.ok (.bytes bytes)) :=
  .bytes bears ((Text.Hex.decode_isOk _).mp ⟨bytes, Text.Hex.decode_encode bytes⟩)
    (Text.Hex.encode_decode (Text.Hex.decode_encode bytes))

/-- The line of an operation is handed to the writer of a session that is open. -/
theorem start_outbox {p : Plugin} (governed : p.session.Governed)
    (opened : p.session.status = .opened) (id : RequestId) (sessionId : Option String)
    (op : Operation) : (p.start id sessionId (.storage op)).session.outbox =
      p.session.outbox ++ [op.line sessionId id] := by
  have sent := governed.send_of_open (by rw [opened]; rfl) id sessionId .storage op.payload
  simp only [Plugin.start, Plugin.request, sent]
  rfl

end Storage

namespace CommandLine

open Storage (Kept Keeper.answer Keeper.hear)

/-! ## The program -/

/-- The first line of a body is pulled first. -/
theorem recv_line {r : Http.Replies} {id : RequestId} {line : Bytes} {v : Value}
    (unread : Http.Unread id r line) (whole : Text.IsLine line)
    (means : Http.LineContent.ofLine line = .reply (.item v)) : r.recv.1 = .item v := by
  have lines : Text.splitLines line = [line] := by
    have split := Text.splitLines_line whole []
    rwa [List.append_nil] at split
  have told : Http.told id [line] = [.item v] := by
    simp [Http.told, means, Http.LineContent.pulled?, untilOver, Pulled.isOver]
  have first := unread.supplies.first
  rwa [lines, told] at first

theorem load_ok {source : Option Config.EnvSource} {env : Environment} {c : Config}
    (loaded : (Config.load source env).1 = .ok c) : ∃ lookup, Config.ofLookup lookup = .ok c := by
  unfold Config.load at loaded
  split at loaded
  · exact ⟨_, loaded⟩
  · split at loaded
    · cases loaded
    · split at loaded
      · cases loaded
      · exact ⟨_, loaded⟩

theorem configure_timeout {options : CommonOptions} {s : Surroundings} {c : Config}
    (configured : configure options s = .ok c) : 0 < c.requestTimeout := by
  unfold configure at configured
  dsimp only at configured
  split at configured
  · cases configured
  · rename_i own loaded
    cases configured
    obtain ⟨lookup, accepted⟩ := load_ok loaded
    exact (Config.taken_of_ok accepted).timeout.1

/-- The program prints what the operation comes to that its arguments ask for. -/
theorem run_storage {args : List String} {s : Surroundings} {options : CommonOptions}
    {sessionId : Option String} {op : Storage.Operation} {c : Config} {text : String}
    (read : readArguments args = .ok (options, .storage sessionId op))
    (configured : configure options s = .ok c) (called : storage c sessionId op s = .ok text) :
    run args s = .success text := by
  rw [run, start, read]
  dsimp only
  rw [execute, configured]
  dsimp only [bind, Except.bind]
  rw [called]
  rfl

/-- The daemon that the program meets in one call is a keeper: `kept` is what it keeps before the
call, and `kept'` what it keeps afterwards. -/
inductive Meets (c : Config) (sessionId : Option String) (op : Storage.Operation)
    (s : Surroundings) (kept kept' : Kept) : Prop where
  /-- It is dialled, hears the line that the plugin writes, and answers. -/
  | remote {transport : Transport} {line : String} (install : c.install = .remote)
    (connected : connect c s = .ok transport)
    (written : ((Plugin.launch c.settings).act
      (.plugin (.start s.id sessionId (.storage op)))).2.session.written = [line])
    (hears : Keeper.hear line kept = (kept', s.daemon s.id))
  /-- It is posted to, and answers with success, in any chunks. -/
  | serverless {endpoint : Url} {post : Http.Post} {status : Http.Status} {chunks : List Bytes}
    (install : c.install = .serverless) (there : Endpoint.ofDaemon c.daemonUrl = .ok endpoint)
    (posted : Http.Post.ofRequest endpoint sessionId ⟨.storage, s.id, op.payload⟩ = .ok post)
    (answered : s.network post = ⟨some (.ok status), chunks, some .complete⟩)
    (success : status.isSuccess = true)
    (hears : Keeper.hear post.body kept = (kept', chunks.flatten))

/-- What the program prints of the result of a call. -/
def shown : Except CallError Storage.Answer → Except Failure String
  | .ok answer => .ok (printed answer)
  | .error e => .error (callFailure e)

theorem body_ofRequest {endpoint : Url} {sessionId : Option String} {r : Request}
    {post : Http.Post} (posted : Http.Post.ofRequest endpoint sessionId r = .ok post) :
    post.body = (OutboundFrame.invoke sessionId r).toLine := by
  unfold Http.Post.ofRequest at posted
  dsimp only at posted
  split at posted
  · cases posted
  split at posted
  · cases posted
  split at posted
  · cases posted
  · cases posted
    rfl

/-- An operation that a keeper answers with a text comes to the verdict on that. -/
theorem Meets.storage {c : Config} {sessionId : Option String} {op : Storage.Operation}
    {s : Surroundings} {kept kept' : Kept} {text : String}
    {result : Except CallError Storage.Answer} (h : Meets c sessionId op s kept kept')
    (positive : 0 < c.requestTimeout) (answers : (Keeper.answer op.payload kept).2 = .text text)
    (verdict : Storage.Verdict s.id op (.item (.object [("data", .text text)])) result) :
    storage c sessionId op s = shown result ∧ kept' = (Keeper.answer op.payload kept).1 := by
  obtain ⟨session, body⟩ := Storage.reads_reply sessionId s.id text
  cases h with
  | remote install connected written hears =>
    have own := (Plugin.launch_start c.settings positive s.id sessionId op).2
    obtain rfl : op.line sessionId s.id = _ := (List.cons.inj (own.symm.trans written)).1
    rw [Storage.Keeper.hear_line, answers] at hears
    obtain ⟨same, wrote⟩ := Prod.mk.inj hears
    have called : storageOverSession c sessionId op s = result := by
      refine storageOverSession_line positive sessionId op (wrote ▸ isLine_frameLine _ _ _)
        (r := Storage.reply s.id (.text text)) ?_ rfl verdict
      rw [← wrote]
      exact session
    refine ⟨?_, same.symm⟩
    simp only [CommandLine.storage, install, connected, called]
    cases result <;> rfl
  | serverless install there posted answered success hears =>
    rename_i endpoint post status chunks
    rw [body_ofRequest posted] at hears
    change Keeper.hear (op.line sessionId s.id) kept = _ at hears
    rw [Storage.Keeper.hear_line, answers] at hears
    obtain ⟨same, whole⟩ := Prod.mk.inj hears
    have unread : Http.Unread s.id ((Http.Client.mk endpoint c.requestTimeout s.network).send s.id
        sessionId .storage op.payload) chunks.flatten := by
      rw [Http.Client.send]
      dsimp only
      rw [posted]
      dsimp only
      rw [answered]
      exact ⟨rfl, rfl, rfl, rfl, .inr (.inr ⟨rfl, status, rfl, success⟩)⟩
    rw [← whole] at unread
    have pulled := recv_line unread (isLine_frameLine _ _ _) body
    have called := (Http.Client.mk endpoint c.requestTimeout s.network).verdict s.id sessionId op
      (by simp [pulled])
    rw [pulled] at called
    refine ⟨?_, same.symm⟩
    simp only [CommandLine.storage, install, there, verdict.unique called]
    cases result <;> rfl

/-- The program is called for an operation and meets a keeper. -/
inductive Calls (args : List String) (op : Storage.Operation) (s : Surroundings)
    (kept kept' : Kept) : Prop where
  | intro {options : CommonOptions} {sessionId : Option String} {c : Config}
    (read : readArguments args = .ok (options, .storage sessionId op))
    (configured : configure options s = .ok c) (meets : Meets c sessionId op s kept kept')

theorem Calls.run {args : List String} {op : Storage.Operation} {s : Surroundings}
    {kept kept' : Kept} {text : String} {answer : Storage.Answer} (h : Calls args op s kept kept')
    (answers : (Keeper.answer op.payload kept).2 = .text text)
    (verdict : ∀ id, Storage.Verdict id op (.item (.object [("data", .text text)])) (.ok answer)) :
    CommandLine.run args s = .success (printed answer) ∧
      kept' = (Keeper.answer op.payload kept).1 := by
  obtain ⟨read, configured, meets⟩ := h
  obtain ⟨called, after⟩ := meets.storage (configure_timeout configured) answers (verdict s.id)
  exact ⟨run_storage read configured called, after⟩

theorem Calls.set {args : List String} {key : String} {bytes : Bytes} {s : Surroundings}
    {kept kept' : Kept} (h : Calls args (.set key bytes) s kept kept') :
    CommandLine.run args s = .success "ok\n" ∧ kept'.get? key = some (Hex.encode bytes) := by
  have answer := Storage.Keeper.answer_set key bytes kept
  obtain ⟨printed, after⟩ := h.run (congrArg Prod.snd answer) fun id =>
    .done trivial (Storage.bears_reply _)
  refine ⟨printed, ?_⟩
  rw [after, answer]
  exact Keyed.get?_insert_self key _ kept

theorem Calls.get {args : List String} {key : String} {bytes : Bytes} {s : Surroundings}
    {kept kept' : Kept} (h : Calls args (.get key) s kept kept')
    (found : kept.get? key = some (Hex.encode bytes)) :
    CommandLine.run args s = .success (Text.Utf8.decodeLossy bytes ++ "\n") :=
  (h.run (congrArg Prod.snd (Storage.Keeper.answer_get found)) fun id =>
    Storage.verdict_encode (Storage.bears_reply _) id key).1

/-- The words behind an operation are all that counts, if no options stand before it. -/
theorem readArguments_operation {verb : String} (named : verb = "get" ∨ verb = "set")
    {rest : List String} {found : Found} {op : Storage.Operation}
    (read : readLevel (.operation verb) rest .empty = .ok (found, none))
    (asked : operation? verb found.words = some op) (bare : found.options = .empty) :
    readArguments ("storage" :: verb :: rest) = .ok (.empty, .storage none op) := by
  have top : readLevel .top ("storage" :: verb :: rest) .empty =
      .ok (.empty, some (.storage, verb :: rest)) := rfl
  have storage : readLevel .storage (verb :: rest) .empty =
      .ok (.empty, some (.operation verb, rest)) := by
    rcases named with rfl | rfl <;> rfl
  simp only [readArguments, top, storage, read, bind, Except.bind, asked, bare]
  rfl

/-- Behind two hyphens any words are taken for key and value. -/
theorem readArguments_divider (key value : String) :
    readArguments ["storage", "set", "--", key, value] =
        .ok (.empty, .storage none (.set key (bytesOf value))) ∧
      readArguments ["storage", "get", "--", key] = .ok (.empty, .storage none (.get key)) :=
  ⟨readArguments_operation (.inr rfl) rfl rfl rfl, readArguments_operation (.inl rfl) rfl rfl rfl⟩

/-- Words that look like no options need no hyphens before them. -/
theorem readArguments_words {key value : String} (plain : Shape.of key = .word)
    (plain' : Shape.of value = .word) :
    readArguments ["storage", "set", key, value] =
        .ok (.empty, .storage none (.set key (bytesOf value))) ∧
      readArguments ["storage", "get", key] = .ok (.empty, .storage none (.get key)) := by
  have two : readLevel (.operation "set") [key, value] .empty =
      .ok (⟨.empty, none, [key, value]⟩, none) := by
    simp [readLevel, plain, plain', Level.isInner, putWord, wordCount, Found.empty, Except.bind]
  have one : readLevel (.operation "get") [key] .empty = .ok (⟨.empty, none, [key]⟩, none) := by
    simp [readLevel, plain, Level.isInner, putWord, wordCount, Found.empty, Except.bind]
  exact ⟨readArguments_operation (.inr rfl) two rfl rfl,
    readArguments_operation (.inl rfl) one rfl rfl⟩

end CommandLine

/-! ## The round trip -/

/-- The text that a request to put bytes carries is made of digits in lower case; a daemon reads
it there, and `get` makes those bytes of a reply with it, whoever reads the reply. -/
structure Storage.Travels (key : String) (bytes : Bytes) (text : String) : Prop where
  digits : ∀ c ∈ text.toList, c ∈ Text.Hex.lowerDigits
  carried : ∀ sessionId id, ∃ f r,
    OutboundFrame.decoder.parse ((Operation.set key bytes).line sessionId id) = .ok f ∧
      f.request? = some r ∧ r.kind = .storage ∧ r.id = id ∧
      r.payload = .object [("key", .text key), ("opt", .text "set"), ("value", .text text)]
  returned : ∀ sessionId id, ∃ item,
    Notice.ofLine (bytesOf (InboundFrame.ofResponse sessionId (reply id (.text text))).toLine) =
        .response (.item id item) ∧
      Http.LineContent.ofLine
          (bytesOf (InboundFrame.ofResponse sessionId (reply id (.text text))).toLine) =
        .reply (.item item) ∧ Bears (.text text) item
  got : ∀ item, Bears (.text text) item → ∀ id,
    (Operation.get key).outcome? id (.item item) = some (.ok (.bytes bytes))

theorem Storage.travels_encode (key : String) (bytes : Bytes) :
    Travels key bytes (Hex.encode bytes) where
  digits := by
    have own : (Hex.encode bytes).toList = Text.Hex.encodeChars bytes := String.toList_ofList
    rw [own]
    exact Text.Hex.encodeChars_lower bytes
  carried sessionId id :=
    ⟨_, _, parse_line _ sessionId id, OutboundFrame.request?_invoke sessionId _, rfl, rfl,
      payload_set key bytes⟩
  returned sessionId id := by
    obtain ⟨session, body⟩ := reads_reply sessionId id (Hex.encode bytes)
    exact ⟨_, session, body, bears_reply _⟩
  got _ bears id := (verdict_encode bears id key).outcome

/-- What is put into the storage comes out of it.  Bytes travel as digits in lower case and are
read as those bytes.  Any text that is read as bytes is, but for the case of its letters, the one
that is written for them.  And the program prints the very text that it was given before for that
key, if the daemon keeps what it is told. -/
theorem stored_roundTrip :
    (∀ key bytes, ∃ text, Storage.Travels key bytes text ∧
      ∀ settings actions id sessionId, let p := Plugin.acts actions (Plugin.launch settings)
        p.session.status = .opened →
          (p.start id sessionId (.storage (.set key bytes))).session.outbox =
            p.session.outbox ++ [(Storage.Operation.set key bytes).line sessionId id]) ∧
    (∀ key text item id bytes, Storage.Bears (.text text) item →
      (Storage.Operation.get key).outcome? id (.item item) = some (.ok (.bytes bytes)) →
        Hex.encode bytes = String.ofList (text.toList.map Char.toLower)) ∧
    (∀ key value args args' s s' kept kept' kept'',
      CommandLine.Calls args (.set key (bytesOf value)) s kept kept' →
      CommandLine.Calls args' (.get key) s' kept' kept'' →
        CommandLine.run args s = .success "ok\n" ∧
        CommandLine.run args' s' = .success (value ++ "\n")) ∧
    (∀ key value, CommandLine.readArguments ["storage", "set", "--", key, value] =
        .ok (.empty, .storage none (.set key (bytesOf value))) ∧
      CommandLine.readArguments ["storage", "get", "--", key] =
        .ok (.empty, .storage none (.get key))) ∧
    ∀ key value, CommandLine.Shape.of key = .word → CommandLine.Shape.of value = .word →
      CommandLine.readArguments ["storage", "set", key, value] =
          .ok (.empty, .storage none (.set key (bytesOf value))) ∧
        CommandLine.readArguments ["storage", "get", key] =
          .ok (.empty, .storage none (.get key)) := by
  refine ⟨fun key bytes => ⟨_, Storage.travels_encode key bytes, ?_⟩, ?_, ?_,
    CommandLine.readArguments_divider, fun _ _ => CommandLine.readArguments_words⟩
  · intro settings actions id sessionId p opened
    obtain ⟨ms, run⟩ := Plugin.always_run settings actions
    have sound : p.session.Sound := run ▸ Session.sound_run settings ms
    exact Storage.start_outbox sound.toGoverned opened id sessionId _
  · intro key text item id bytes bears read
    rw [Storage.outcome?_of_bears bears, Storage.Operation.answer, Storage.stored] at read
    cases decoded : Hex.decode text with
    | ok own =>
      rw [decoded] at read
      cases read
      exact Text.Hex.encode_decode decoded
    | error how =>
      rw [decoded] at read
      cases read
  · intro key value args args' s s' kept kept' kept'' sets gets
    obtain ⟨done, found⟩ := sets.set
    have got := gets.get found
    rw [Text.Utf8.decodeLossy_bytesOf] at got
    exact ⟨done, got⟩

/-- A program that dials a keeper for one operation. -/
def Storage.Keeper.dialled (kept : Storage.Kept) (op : Storage.Operation) :
    CommandLine.Surroundings where
  env := [("INSTALL_METHOD", "remote"), ("REMOTE_INSTALL_KEY", "secret")]
  file _ := none
  stdin := []
  dial _ _ := .ok fun _ => .ok ()
  daemon id := (Storage.Keeper.hear (op.line none id) kept).2
  network := .unreachable
  id := "r"

theorem Storage.Keeper.calls {args : List String} {op : Storage.Operation}
    (read : CommandLine.readArguments args = .ok (.empty, .storage none op)) (kept : Storage.Kept) :
    CommandLine.Calls args op (dialled kept op) kept (hear (op.line none "r") kept).1 := by
  have configured : CommandLine.configure .empty (dialled kept op) =
      .ok { Config.defaults with install := .remote, remoteKey := some "secret" } := rfl
  have connected : CommandLine.connect
      { Config.defaults with install := .remote, remoteKey := some "secret" } (dialled kept op) =
        .ok ⟨"localhost:5003", "secret\n"⟩ := by rfl
  have hears : hear (op.line none "r") kept =
      ((hear (op.line none "r") kept).1, (dialled kept op).daemon "r") := by
    simp only [dialled, Prod.eta]
  exact .intro read configured
    (.remote rfl connected (Plugin.launch_start _ (by decide) "r" none op).2 hears)

theorem hyphens_roundTrip :
    ∃ kept kept', CommandLine.Calls ["storage", "set", "--", "-k", "-1"] (.set "-k" (bytesOf "-1"))
        (Storage.Keeper.dialled [] (.set "-k" (bytesOf "-1"))) [] kept ∧
      CommandLine.Calls ["storage", "get", "--", "-k"] (.get "-k")
        (Storage.Keeper.dialled kept (.get "-k")) kept kept' ∧
      CommandLine.run ["storage", "set", "--", "-k", "-1"]
        (Storage.Keeper.dialled [] (.set "-k" (bytesOf "-1"))) = .success "ok\n" ∧
      CommandLine.run ["storage", "get", "--", "-k"]
        (Storage.Keeper.dialled kept (.get "-k")) = .success "-1\n" := by
  obtain ⟨-, -, printed, read, -⟩ := stored_roundTrip
  obtain ⟨kept, own⟩ : ∃ kept, kept =
    (Storage.Keeper.hear ((Storage.Operation.set "-k" (bytesOf "-1")).line none "r") []).1 := ⟨_, rfl⟩
  have sets : CommandLine.Calls _ _ _ [] kept := own ▸ Storage.Keeper.calls (read "-k" "-1").1 []
  have gets := Storage.Keeper.calls (read "-k" "-1").2 kept
  obtain ⟨done, got⟩ := printed "-k" "-1" _ _ _ _ _ _ _ sets gets
  have same : "-1" ++ "\n" = "-1\n" := by decide
  rw [same] at got
  exact ⟨_, _, sets, gets, done, got⟩

end Backchannel
