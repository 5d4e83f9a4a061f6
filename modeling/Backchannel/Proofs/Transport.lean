/-
# Backchannel.Proofs.Transport -- what a remote daemon reads

A plugin that connects to its daemon says its install key, and then its session writes.  The
daemon takes what it reads for a line with the key and then a frame a line (`WellFramed`).

The session does its part whatever the key is: behind the key each line is one frame, and they
are the frames of its calls.  The key is said as it was configured.  It has no blanks at its
ends, but nobody looks for a line feed inside, and with one the daemon reads a part of the key
for the whole and the rest for a frame.  So the stream is well framed exactly if the key is of
one line (`remote_framed_iff`).
-/
import Backchannel.Transport
import Backchannel.Proofs.Config
import Backchannel.Proofs.Session.Outbound

namespace Backchannel

set_option autoImplicit false

open Backchannel.Text (lineFeed splitLines)
open Backchannel.Text.Utf8 (Bytes bytesOf encode)

namespace Transport

/-- All that the other end reads of a session: what was said before it, and what it wrote. -/
def stream (t : Transport) (s : Session) : Bytes := bytesOf t.hello ++ s.received

/-- A line with the key comes first, and then a frame a line. -/
def WellFramed (key : String) (stream : Bytes) : Prop :=
  ∃ frames : List OutboundFrame,
    splitLines stream = bytesOf (keyLine key) :: frames.map fun f => bytesOf f.toLine

/-! ## The key -/

theorem bytesOf_keyLine (key : String) : bytesOf (keyLine key) = bytesOf key ++ [lineFeed] := by
  simp only [keyLine, bytesOf, String.toList_append, Text.encode_append]
  rfl

/-- The line of a key is one line more than the key has line feeds. -/
theorem length_keyLine (key : String) :
    (splitLines (bytesOf (keyLine key))).length = key.toList.count '\n' + 1 := by
  rw [bytesOf_keyLine, Text.length_splitLines_lineFeed, bytesOf, Text.count_lineFeed_encode]

theorem isLine_keyLine {key : String} (plain : '\n' ∉ key.toList) :
    Text.IsLine (bytesOf (keyLine key)) := by
  rw [bytesOf_keyLine]
  exact ⟨_, rfl, fun among => plain (Text.lineFeed_mem_encode_iff.mp among)⟩

/-- Where a daemon finds the key in the first line there is no line feed in it. -/
theorem WellFramed.plain {key : String} {stream : Bytes} (framed : WellFramed key stream) :
    '\n' ∉ key.toList := by
  obtain ⟨frames, lines⟩ := framed
  have first : bytesOf (keyLine key) ∈ splitLines stream := by
    rw [lines]
    exact List.mem_cons_self
  have few := Text.count_lineFeed_le first
  rw [bytesOf_keyLine, List.count_append, bytesOf, Text.count_lineFeed_encode] at few
  have own : [lineFeed].count lineFeed = 1 := rfl
  exact List.count_eq_zero.mp (by omega)

/-! ## The connection -/

section Connection

variable {dial : Dial} {c : Config} {t : Transport} {key : String}

/-- An attempt that fails. -/
def Fails (dial : Dial) (address : String) (attempt : Nat) : Prop :=
  ∃ how, dial address attempt = .error how

/-- What dialling comes to, with attempts of these numbers. -/
inductive Dialled (dial : Dial) (address : String) (first last : Nat) :
    Except TransportError Wire → Prop where
  /-- One of them is the first that does not fail. -/
  | reached {n : Nat} {wire : Wire} (among : first ≤ n ∧ n ≤ last)
    (before : ∀ m, first ≤ m → m < n → Fails dial address m)
    (answered : dial address n = .ok wire) : Dialled dial address first last (.ok wire)
  /-- All fail, and how the last one did is told. -/
  | unreached {how : SystemFailure} (before : ∀ m, first ≤ m → m < last → Fails dial address m)
    (failed : dial address last = .error how) :
    Dialled dial address first last (.error (.connect address last how))

/-- An attempt that failed came before. -/
theorem Dialled.again {address : String} {first last : Nat} {r : Except TransportError Wire}
    (failed : Fails dial address first) (h : Dialled dial address (first + 1) last r) :
    Dialled dial address first last r := by
  have before {n : Nat} (later : ∀ m, first + 1 ≤ m → m < n → Fails dial address m) :
      ∀ m, first ≤ m → m < n → Fails dial address m := by
    intro m le lt
    by_cases own : m = first
    · rw [own]
      exact failed
    · exact later m (by omega) lt
  cases h with
  | reached among later answered => exact .reached (by omega) (before later) answered
  | unreached later failed => exact .unreached (before later) failed

theorem dialled (dial : Dial) (address : String) (first left : Nat) :
    Dialled dial address first (first + left) (dialFrom dial address first left) := by
  induction left generalizing first with
  | zero =>
    rw [dialFrom]
    cases tried : dial address first with
    | ok wire => exact .reached (by omega) (by omega) tried
    | error how => exact .unreached (by omega) tried
  | succ left ih =>
    rw [dialFrom]
    cases tried : dial address first with
    | ok wire => exact .reached (by omega) (by omega) tried
    | error how =>
      have rest := ih (first + 1)
      rw [show first + 1 + left = first + (left + 1) by omega] at rest
      exact rest.again ⟨how, tried⟩

/-- What connecting comes to, with so many attempts: one at least is made. -/
inductive Connects (dial : Dial) (address key : String) (attempts : Nat) :
    Except TransportError Transport → Prop where
  /-- The line of the key was said over the connection, and nothing else. -/
  | said {wire : Wire} (reached : Dialled dial address 1 (max attempts 1) (.ok wire))
    (heard : wire (keyLine key) = .ok ()) :
    Connects dial address key attempts (.ok ⟨address, keyLine key⟩)
  | unsaid {wire : Wire} {how : SystemFailure}
    (reached : Dialled dial address 1 (max attempts 1) (.ok wire))
    (lost : wire (keyLine key) = .error how) :
    Connects dial address key attempts (.error (.handshake address how))
  | unreached {e : TransportError} (failed : Dialled dial address 1 (max attempts 1) (.error e)) :
    Connects dial address key attempts (.error e)

theorem connects (dial : Dial) (host : String) (port : Nat) (key : String) (attempts : Nat) :
    Connects dial (address host port) key attempts (connect dial host port key attempts) := by
  have tried := dialled dial (address host port) 1 (attempts - 1)
  rw [show 1 + (attempts - 1) = max attempts 1 by omega] at tried
  rw [connect]
  cases dialling : dialFrom dial (address host port) 1 (attempts - 1) with
  | error e => exact .unreached (dialling ▸ tried)
  | ok wire =>
    rw [dialling] at tried
    dsimp only [bind, Except.bind]
    cases saying : wire (keyLine key) with
    | ok heard => exact .said tried saying
    | error how => exact .unsaid tried saying

/-- Once a connection is there, the line of the key was said over it and nothing else. -/
theorem connect_hello {host : String} {port attempts : Nat}
    (connected : connect dial host port key attempts = .ok t) : t.hello = keyLine key := by
  have how := connects dial host port key attempts
  rw [connected] at how
  cases how with
  | said => rfl

theorem ofConfig_hello (remote : c.install = .remote) (set : c.remoteKey = some key)
    (connected : ofConfig dial c = .ok t) : t.hello = keyLine key := by
  simp only [ofConfig, remote, set] at connected
  exact connect_hello connected

end Connection

/-! ## The stream -/

/-- What the other end reads of a session, `frames` being those of the calls that the session
took. -/
structure Carries (key : String) (frames : List OutboundFrame) (s : Session) (stream : Bytes) :
    Prop where
  /-- The line of the key falls into as many lines as its line feeds make of it; -/
  keyLines : (splitLines (bytesOf (keyLine key))).length = key.toList.count '\n' + 1
  /-- what was written comes behind, a line for each frame, -/
  lines : ∃ sent, sent <+: frames ∧ s.written = sent.map OutboundFrame.toLine ∧
    splitLines stream =
      splitLines (bytesOf (keyLine key)) ++ sent.map fun f => bytesOf f.toLine
  /-- and as long as the session is open only what waits for the writer is missing. -/
  whole : s.status = .opened → s.written ++ s.outbox = frames.map OutboundFrame.toLine
  /-- That is well framed if the key is of one line, and only then. -/
  framed : WellFramed key stream ↔ '\n' ∉ key.toList

/-- The lines that a session has written are those of its first frames. -/
theorem exists_sent {s : Session} {frames : List OutboundFrame}
    (accounts : s.backdrop.Accounts (frames.map OutboundFrame.toLine)) :
    ∃ sent, sent <+: frames ∧ s.written = sent.map OutboundFrame.toLine := by
  obtain ⟨lost, all, -⟩ := accounts
  have first : s.written <+: frames.map OutboundFrame.toLine := by
    rw [← all, List.append_assoc]
    exact List.prefix_append _ _
  refine ⟨frames.take s.written.length, List.take_prefix _ _, ?_⟩
  rw [List.map_take]
  exact List.prefix_iff_eq_take.mp first

/-- Whatever a session does over a connection on which the key was said. -/
theorem carries {t : Transport} {key : String} (said : t.hello = keyLine key)
    (settings : Settings) (ms : List Session.Move) :
    Carries key (Session.calledFrames (Session.steps ms (.start settings)))
      (Session.run ms (.start settings)) (t.stream (Session.run ms (.start settings))) := by
  have sound := Session.sound_run settings ms
  have accounts := (Session.sound_start settings).accounts_run (Session.accounts_start settings) ms
  rw [List.nil_append, Session.calledLines_eq] at accounts
  generalize Session.run ms (.start settings) = s at sound accounts ⊢
  generalize Session.calledFrames (Session.steps ms (.start settings)) = frames at accounts ⊢
  obtain ⟨sent, first, written⟩ := exists_sent accounts
  have behind : splitLines s.received = sent.map fun f => bytesOf f.toLine := by
    have whole : ∀ line ∈ s.written.map bytesOf, Text.IsLine line := by
      rw [written]
      simp only [List.mem_map]
      rintro line ⟨text, ⟨f, -, rfl⟩, rfl⟩
      exact f.isLine_toLine
    rw [Session.received, Text.splitLines_flatten_lines whole, written, List.map_map]
    rfl
  have lines : splitLines (t.stream s) =
      splitLines (bytesOf (keyLine key)) ++ sent.map fun f => bytesOf f.toLine := by
    rw [stream, said, bytesOf_keyLine, Text.splitLines_lineFeed, behind]
  refine ⟨length_keyLine key, ⟨sent, first, written, lines⟩, fun opened => ?_,
    WellFramed.plain, fun plain => ⟨sent, ?_⟩⟩
  · obtain ⟨lost, all, kept⟩ := accounts
    rw [← all, kept (sound.writing (by rw [opened]; rfl)), List.append_nil]
    rfl
  · have one := Text.splitLines_line (isLine_keyLine plain) []
    rw [List.append_nil] at one
    rw [lines, one]
    rfl

/-- A plugin of a configuration that was accepted has a key for a remote daemon.  What the
daemon reads, in any run of the session over a connection that was made for that, is well
framed exactly if there is no line feed in the key. -/
theorem remote_framed_iff {lookup : String → Option String} {c : Config} {dial : Dial}
    {t : Transport} (accepted : Config.ofLookup lookup = .ok c) (remote : c.install = .remote)
    (connected : ofConfig dial c = .ok t) :
    ∃ key, Config.get lookup .remoteKey = some key ∧ ∀ ms,
      Carries key (Session.calledFrames (Session.steps ms (.start c.settings)))
        (Session.run ms (.start c.settings)) (t.stream (Session.run ms (.start c.settings))) := by
  have taken := Config.taken_of_ok accepted
  obtain ⟨key, set⟩ := Option.ne_none_iff_exists'.mp (taken.keyed remote)
  exact ⟨key, taken.remoteKey.symm.trans set,
    carries (ofConfig_hello remote set connected) c.settings⟩

/-- A key of two lines. -/
def twoLines (name : String) : Option String :=
  if name = Variable.installMethod.name then some "remote"
  else if name = Variable.remoteKey.name then some "two\nlines"
  else none

/-- Anyone who is dialled answers, and hears what is said. -/
def answering : Dial := fun _ _ => .ok fun _ => .ok ()

/-- The configuration is accepted and the connection made; then a heartbeat is written.  The
daemon reads three lines, and the first is not the key. -/
theorem twoLines_not_framed :
    Config.ofLookup twoLines =
        .ok { Config.defaults with install := .remote, remoteKey := some "two\nlines" } ∧
      ofConfig answering
          { Config.defaults with install := .remote, remoteKey := some "two\nlines" } =
        .ok ⟨"localhost:5003", "two\nlines\n"⟩ ∧
      ∃ s, s = Session.run [.heartbeat, .write] (.start Config.defaults.settings) ∧
        (splitLines (stream ⟨"localhost:5003", "two\nlines\n"⟩ s)).length = 3 ∧
        ¬ WellFramed "two\nlines" (stream ⟨"localhost:5003", "two\nlines\n"⟩ s) := by
  have accepted : Config.ofLookup twoLines =
      .ok { Config.defaults with install := .remote, remoteKey := some "two\nlines" } := by
    have read : (Config.ofLookup twoLines).toOption =
        some { Config.defaults with install := .remote, remoteKey := some "two\nlines" } := by
      decide +kernel
    cases got : Config.ofLookup twoLines with
    | error why => simp [got, Except.toOption] at read
    | ok c => simpa [got, Except.toOption] using read
  have connected : ofConfig answering
      { Config.defaults with install := .remote, remoteKey := some "two\nlines" } =
        .ok ⟨"localhost:5003", "two\nlines\n"⟩ := by
    rfl
  refine ⟨accepted, connected, _, rfl, ?_, fun framed => ?_⟩
  · decide +kernel
  · obtain ⟨key, set, carries⟩ := remote_framed_iff accepted rfl connected
    obtain rfl : key = "two\nlines" := by
      rw [← (Config.taken_of_ok accepted).remoteKey] at set
      exact (Option.some.inj set).symm
    exact absurd ((carries [.heartbeat, .write]).framed.mp framed) (by decide)

end Transport

end Backchannel
