/-
# Backchannel.Proofs.Session.Inbound -- what the daemon says, line by line

The daemon's bytes come in pieces, and in between the plugin sends and pulls, sweeps look for
late requests, the writer writes.  A piece is no more than its bytes one after the other
(`run_bytes`), so a run says all about how they were cut.

`gather` takes the bytes of a run together: what is left of the run is its deeds, lines that
are dispatched whole and the other moves, in their order.  Sweeps that find nothing late are
no deeds.  A session that goes through the run comes out as one that does the deeds
(`run_gathered`), so it does not matter where in a line the other moves came.  The lines are
those of all bytes, each dispatched once (`cut_gathered`), and at the end of the stream what is
left of a line is dispatched as well, before the session is closed (`gather_hangUp`).
-/
import Backchannel.Proofs.Json.Local
import Backchannel.Proofs.Session.Backdrop
import Backchannel.Proofs.Session.Ear
import Backchannel.Proofs.Session.Parting
import Backchannel.Proofs.Text.Lines

namespace Backchannel

set_option autoImplicit false

open Backchannel.Json (Value)
open Backchannel.Text (IsLine lineFeed splitLines)
open Backchannel.Text.Utf8 (Bytes)

namespace Session

/-! ## Pieces -/

/-- A piece that the reader takes is its bytes, one by one. -/
theorem run_bytes (bytes : Bytes) (s : Session) : run (bytes.map .byte) s = s.readBytes bytes := by
  rw [run, readBytes, List.foldl_map]
  rfl

/-! ## Deeds -/

/-- What is done in a run whose bytes are gathered into lines. -/
inductive Deed where
  /-- A line is dispatched. -/
  | dispatch (line : Bytes)
  | other (m : Move)

def Deed.act (s : Session) : Deed → Session
  | .dispatch line => s.readLine line
  | .other m => s.step m

def Deed.line? : Deed → Option Bytes
  | .dispatch line => some line
  | .other _ => none

def Deed.move? : Deed → Option Move
  | .dispatch _ => none
  | .other m => some m

/-- The session after some deeds. -/
def act (ds : List Deed) (s : Session) : Session := ds.foldl Deed.act s

/-- The lines that are dispatched, in order. -/
def linesOf (ds : List Deed) : List Bytes := ds.filterMap Deed.line?

/-- The other moves, in order. -/
def movesOf (ds : List Deed) : List Move := ds.filterMap Deed.move?

/-- What is left of a line, last byte first, as a line of its own, if it is anything. -/
def restOf (held : Bytes) : List Bytes := if held = [] then [] else [held.reverse]

/-- The deeds of a move when those bytes of a line, last byte first, have been read, and the
bytes that are held then. -/
def gatherMove (held : Bytes) : Move → List Deed × Bytes
  | .byte b => if b = lineFeed then ([.dispatch (b :: held).reverse], []) else ([], b :: held)
  | .tail => ((restOf held).map .dispatch, [])
  | .sweep => ([], held)
  | m => ([.other m], held)

/-- The deeds of a run, and the bytes that are held at its end. -/
def gather (held : Bytes) : List Move → List Deed × Bytes
  | [] => ([], held)
  | m :: ms =>
    let first := gatherMove held m
    let rest := gather first.2 ms
    (first.1 ++ rest.1, rest.2)

/-- The move is the reader's. -/
def Move.isReader : Move → Bool
  | .byte _ | .tail | .endOfStream | .readError _ => true
  | _ => false

/-- The reader takes what comes, and no deadline passes. -/
structure Undisturbed (t : List Step) : Prop where
  taken : ∀ st ∈ t, st.move.isReader = true → st.before.reading = true
  inTime : ∀ st ∈ t, st.before.expired = []

theorem Undisturbed.head {st : Step} {t : List Step} (h : Undisturbed (st :: t)) :
    (st.move.isReader = true → st.before.reading = true) ∧ st.before.expired = [] :=
  ⟨h.taken st (by simp), h.inTime st (by simp)⟩

theorem Undisturbed.tail {st : Step} {t : List Step} (h : Undisturbed (st :: t)) :
    Undisturbed t :=
  ⟨fun later among => h.taken later (by simp [among]),
    fun later among => h.inTime later (by simp [among])⟩

theorem Undisturbed.before {t u : List Step} (h : Undisturbed (t ++ u)) : Undisturbed t :=
  ⟨fun st among => h.taken st (by simp [among]), fun st among => h.inTime st (by simp [among])⟩

variable {s : Session} {m : Move} {held : Bytes}

theorem act_append (ds es : List Deed) (s : Session) : act (ds ++ es) s = act es (act ds s) := by
  simp [act, List.foldl_append]

theorem gather_append (held : Bytes) (ms ns : List Move) :
    gather held (ms ++ ns) =
      ((gather held ms).1 ++ (gather (gather held ms).2 ns).1,
        (gather (gather held ms).2 ns).2) := by
  induction ms generalizing held with
  | nil => simp [gather]
  | cons m ms ih => simp [gather, ih]

/-! ## A run and its deeds -/

theorem sweep_of_inTime (inTime : s.expired = []) : s.sweep = s := by
  rw [sweep, sweepExpired, inTime]
  rfl

/-- A move does its deeds, and holds what it does not dispatch. -/
theorem step_gathered (taken : m.isReader = true → s.reading = true) (inTime : s.expired = []) :
    (s.holding held).step m = (act (gatherMove held m).1 s).holding (gatherMove held m).2 := by
  cases m with
  | byte b =>
    have reads : (s.holding held).reading = true := taken rfl
    change (s.holding held).readByte b = _
    rw [readByte, if_pos reads, gatherMove]
    split
    · exact heed_holding (.ofLine (b :: held).reverse) s
    · rfl
  | tail =>
    have reads : (s.holding held).reading = true := taken rfl
    change (s.holding held).readTail = _
    cases held with
    | nil => exact if_neg (by simp [holding])
    | cons b held =>
      have some : ((s.holding (b :: held)).reading && !(b :: held).isEmpty) = true := by
        rw [reads]
        rfl
      rw [readTail]
      exact (if_pos some).trans (heed_holding (.ofLine (b :: held).reverse) s)
  | sweep =>
    have same : (s.holding held).sweep = s.holding held := sweep_of_inTime inTime
    exact same
  | _ => exact step_holding (by simp) (by simp) s

/-- A run does its deeds. -/
theorem run_gathered (ms : List Move) (undisturbed : Undisturbed (steps ms (s.holding held))) :
    run ms (s.holding held) = (act (gather held ms).1 s).holding (gather held ms).2 := by
  induction ms generalizing s held with
  | nil => rfl
  | cons m ms ih =>
    rw [steps_cons] at undisturbed
    obtain ⟨taken, inTime⟩ := undisturbed.head
    have first : (s.holding held).step m =
        (act (gatherMove held m).1 s).holding (gatherMove held m).2 := step_gathered taken inTime
    have rest := undisturbed.tail
    rw [first] at rest
    rw [run_cons, first, ih rest, gather, act_append]

/-! ## Lines -/

/-- The byte that a move brings. -/
def Move.byte? : Move → Option UInt8
  | .byte b => some b
  | _ => none

/-- The bytes that the daemon wrote in a run. -/
def bytesIn (ms : List Move) : Bytes := ms.filterMap Move.byte?

/-- Bytes cut into complete lines, with what is left, last byte first. -/
structure Cut (bytes : Bytes) (lines : List Bytes) (left : Bytes) : Prop where
  whole : ∀ line ∈ lines, IsLine line
  plain : lineFeed ∉ left
  complete : lines.flatten ++ left.reverse = bytes

theorem splitLines_rest {left : Bytes} (plain : lineFeed ∉ left) :
    splitLines left.reverse = restOf left := by
  rw [restOf]
  split
  · rename_i nothing
    rw [nothing]
    rfl
  · rename_i some
    exact Text.splitLines_tail (by simpa using plain) (by simpa using some)

/-- Bytes can be cut into lines in one way only. -/
theorem Cut.eq_splitLines {bytes left : Bytes} {lines : List Bytes} (cut : Cut bytes lines left) :
    lines ++ restOf left = splitLines bytes := by
  rw [← cut.complete, Text.splitLines_lines cut.whole, splitLines_rest cut.plain]

theorem linesOf_append (ds es : List Deed) : linesOf (ds ++ es) = linesOf ds ++ linesOf es :=
  List.filterMap_append

theorem linesOf_dispatch (lines : List Bytes) : linesOf (lines.map .dispatch) = lines := by
  rw [linesOf, List.filterMap_map]
  exact List.filterMap_some

/-- A byte is put behind those that are held, and completes the line if it is a line feed. -/
theorem cut_byte {held : Bytes} (plain : lineFeed ∉ held) (b : UInt8) :
    Cut (held.reverse ++ [b]) (linesOf (gatherMove held (.byte b)).1)
      (gatherMove held (.byte b)).2 := by
  rw [gatherMove]
  split
  · rename_i ends
    subst ends
    refine ⟨fun line among => ?_, by simp, by simp [linesOf, Deed.line?]⟩
    obtain rfl : line = (lineFeed :: held).reverse := List.mem_singleton.mp among
    exact ⟨held.reverse, List.reverse_cons, by simpa using plain⟩
  · rename_i goesOn
    refine ⟨by simp [linesOf], ?_, by simp [linesOf]⟩
    intro among
    rcases List.mem_cons.mp among with same | before
    · exact goesOn same.symm
    · exact plain before

/-- Until the stream ends, the lines of a run are those that its bytes complete. -/
theorem cut_gathered (ms : List Move) (endless : .tail ∉ ms) (plain : lineFeed ∉ held) :
    Cut (held.reverse ++ bytesIn ms) (linesOf (gather held ms).1) (gather held ms).2 := by
  induction ms generalizing held with
  | nil => exact ⟨by simp [gather, linesOf], plain, by simp [gather, linesOf, bytesIn]⟩
  | cons m ms ih =>
    have later : .tail ∉ ms := fun among => endless (by simp [among])
    cases m with
    | tail => exact absurd (by simp) endless
    | byte b =>
      have first := cut_byte plain b
      have rest := ih later first.plain
      refine ⟨fun line among => ?_, rest.plain, ?_⟩
      · rw [gather, linesOf_append] at among
        rcases List.mem_append.mp among with now | after
        · exact first.whole line now
        · exact rest.whole line after
      · have bytes : bytesIn (.byte b :: ms) = [b] ++ bytesIn ms := rfl
        rw [gather, linesOf_append, List.flatten_append, List.append_assoc, rest.complete,
          ← List.append_assoc, first.complete, bytes, List.append_assoc]
    | _ => exact ih later plain

/-- The lines of the bytes that came, up to what is left of the last one. -/
theorem lines_gathered (ms : List Move) (endless : .tail ∉ ms) :
    linesOf (gather [] ms).1 ++ restOf (gather [] ms).2 = splitLines (bytesIn ms) := by
  have plain : lineFeed ∉ ([] : Bytes) := by simp
  exact (cut_gathered ms endless plain).eq_splitLines

/-! ## The other moves -/

/-- A move that is a deed by itself. -/
def Move.isDeed : Move → Bool
  | .byte _ | .tail | .sweep => false
  | _ => true

theorem movesOf_append (ds es : List Deed) : movesOf (ds ++ es) = movesOf ds ++ movesOf es :=
  List.filterMap_append

theorem movesOf_dispatch (lines : List Bytes) : movesOf (lines.map .dispatch) = [] := by
  rw [movesOf, List.filterMap_map]
  exact List.filterMap_eq_nil_iff.mpr fun _ _ => rfl

theorem movesOf_gatherMove (held : Bytes) (m : Move) :
    movesOf (gatherMove held m).1 = [m].filter Move.isDeed := by
  cases m with
  | byte b =>
    rw [gatherMove]
    split <;> rfl
  | tail => exact movesOf_dispatch (restOf held)
  | _ => rfl

/-- The moves that are deeds by themselves are done in their order. -/
theorem movesOf_gathered (held : Bytes) (ms : List Move) :
    movesOf (gather held ms).1 = ms.filter Move.isDeed := by
  induction ms generalizing held with
  | nil => rfl
  | cons m ms ih =>
    rw [gather, movesOf_append, movesOf_gatherMove, ih, ← List.filter_append]
    rfl

/-- Where the reader takes nothing, no line is dispatched. -/
theorem gather_idle {ms : List Move} (idle : ∀ m ∈ ms, m.isReader = false) :
    (gather held ms).2 = held ∧ linesOf (gather held ms).1 = [] := by
  induction ms with
  | nil => exact ⟨rfl, rfl⟩
  | cons m ms ih =>
    obtain ⟨same, none⟩ := ih fun m among => idle m (by simp [among])
    have idle := idle m (by simp)
    cases m with
    | byte | tail => cases idle
    | _ => exact ⟨same, none⟩

/-! ## Requests of the daemon -/

/-- A blank line is no frame. -/
theorem parse_blank {cs : List Char} (blank : cs.all Text.isBlank = true) :
    ∃ e, InboundFrame.decoder.parse (String.ofList cs) = .error e := by
  have dark : ∀ c ∈ Json.skipBlank cs, Text.isBlank c = true := fun c among =>
    List.all_eq_true.mp blank c ((List.dropWhile_suffix Json.isJsonBlank).subset among)
  obtain ⟨fault, fails⟩ : ∃ fault,
      InboundFrame.decoder.ofText Json.nestingLimit cs = .error fault := by
    simp only [InboundFrame.decoder, Json.Decoder.record]
    generalize Json.skipBlank cs = rest at dark
    split
    · exact absurd (dark '{' (by simp)) (by decide)
    · exact absurd (dark '[' (by simp)) (by decide)
    · exact Json.unexpected_fails _ _
  refine ⟨fault.inText cs, ?_⟩
  rw [Json.Decoder.parse, Json.readWhole, String.toList_ofList, fails]
  rfl

/-- The request of the daemon that a line is the text of, but for the ends of the line. -/
def requestIn? (line : Bytes) : Option InboundFrame := do
  let cs ← (Text.Utf8.decode line).toOption
  let frame ← (InboundFrame.decoder.parse
    (String.ofList (Text.trimRight Notice.isLineEnd cs))).toOption
  if frame.event = .request then some frame else none

theorem forwards_ofResponseData (data : Value) (s : Session) :
    s.forwards (Notice.ofResponseData data) = [] := by
  rw [Notice.ofResponseData]
  split
  · rfl
  · split <;> rfl

/-- Of a line that is a request the plugin is handed the frame as it was read. -/
theorem forwards_ofLine (listens : s.listening = true) (line : Bytes) :
    s.forwards (Notice.ofLine line) = (requestIn? line).toList := by
  rw [Notice.ofLine, requestIn?]
  cases Text.Utf8.decode line with
  | error how => rfl
  | ok cs =>
    change s.forwards (Notice.ofText cs) = _
    simp only [Except.toOption, Option.bind_eq_bind, Option.bind_some]
    rw [Notice.ofText]
    generalize Text.trimRight Notice.isLineEnd cs = trimmed
    split
    · rename_i blank
      obtain ⟨e, fails⟩ := parse_blank blank
      rw [fails]
      rfl
    · cases InboundFrame.decoder.parse (String.ofList trimmed) with
      | error e => rfl
      | ok f =>
        obtain ⟨sessionId, event, data⟩ := f
        cases event with
        | request => simp [Notice.ofFrame, forwards, listens]
        | response => exact forwards_ofResponseData data s
        | unknown => rfl

/-- The plugin is handed the requests among the lines, in their order. -/
theorem act_inbound (ds : List Deed) (listens : s.listening = true)
    (deaf : ∀ m ∈ movesOf ds, m.isDeaf = true) :
    (act ds s).inbound = s.inbound ++ (linesOf ds).filterMap requestIn? := by
  induction ds generalizing s with
  | nil => exact (List.append_nil _).symm
  | cons d ds ih =>
    cases d with
    | dispatch line =>
      have handed := (heed_leaves (.ofLine line) s).inbound
      have listens' : (s.readLine line).listening = true := (heed_listening _ s).trans listens
      have rest := ih listens' deaf
      have lines : linesOf (.dispatch line :: ds) = [line] ++ linesOf ds := rfl
      rw [forwards_ofLine listens] at handed
      change (act ds (s.readLine line)).inbound = _
      rw [rest, readLine, handed, lines, List.filterMap_append, List.append_assoc]
      cases request : requestIn? line <;> simp [request]
    | other m =>
      have moves : movesOf (.other m :: ds) = m :: movesOf ds := rfl
      rw [moves] at deaf
      have same := step_ear (deaf m (by simp)) s
      have listens' : (s.step m).listening = true := (congrArg Ear.listening same).trans listens
      have rest := ih listens' fun m among => deaf m (by simp [among])
      change (act ds (s.step m)).inbound = _
      rw [rest, show (s.step m).inbound = s.inbound from congrArg Ear.inbound same]
      rfl

/-! ## The end of the stream -/

/-- The daemon hangs up at the end of a run: the reader takes what is left of a line as one,
and then the end of the stream. -/
def HangsUp (ms : List Move) : Prop :=
  ∃ before between, ms = before ++ .tail :: (between ++ [.endOfStream]) ∧ .tail ∉ before ∧
    ∀ m ∈ between, m.isReader = false

/-- Every line is dispatched before the end of the stream is, also what is left of one. -/
theorem gather_hangUp {ms : List Move} (hangsUp : HangsUp ms) :
    ∃ ds, gather [] ms = (ds ++ [.other .endOfStream], []) ∧
      linesOf ds = splitLines (bytesIn ms) := by
  obtain ⟨before, between, rfl, endless, idle⟩ := hangsUp
  have lines := lines_gathered before endless
  generalize first : gather [] before = cut at lines
  obtain ⟨ds, left⟩ := cut
  obtain ⟨same, none⟩ : (gather [] between).2 = [] ∧ linesOf (gather [] between).1 = [] :=
    gather_idle idle
  refine ⟨ds ++ (restOf left).map .dispatch ++ (gather [] between).1, ?_, ?_⟩
  · rw [gather_append, first, gather, gatherMove, gather_append, same]
    simp [gather, gatherMove]
  · have bytes : bytesIn (before ++ .tail :: (between ++ [.endOfStream])) = bytesIn before := by
      have quiet : bytesIn between = [] := by
        refine List.filterMap_eq_nil_iff.mpr fun m among => ?_
        have idle := idle m among
        cases m with
        | byte => cases idle
        | _ => rfl
      have tail : bytesIn (.tail :: (between ++ [.endOfStream])) = bytesIn between ++ [] :=
        List.filterMap_append
      rw [bytesIn, List.filterMap_append]
      change bytesIn before ++ bytesIn (.tail :: (between ++ [.endOfStream])) = _
      rw [tail, quiet, List.append_nil, List.append_nil]
    rw [linesOf_append, linesOf_append, linesOf_dispatch, none, List.append_nil, bytes]
    exact lines

theorem Sound.endOfStream (h : Sound s) (reads : s.reading = true) (opened : s.status = .opened) :
    (s.step .endOfStream).status = .closed .endOfStream := by
  rw [(h.toGoverned.ticks .endOfStream).status]
  simp [nextStatus, opened, Move.closeReason?, reads]

/-! ## What the daemon says -/

/-- What the bytes of a run come to, which the deeds `ds` and the bytes `left` are gathered
from. -/
structure Dispatched (settings : Settings) (ms : List Move) (ds : List Deed) (left : Bytes) :
    Prop where
  /-- The run has done its deeds, and holds what is left of a line. -/
  effect : run ms (start settings) = (act ds (start settings)).holding left
  /-- All that is done besides the lines is what others do, in their order. -/
  others : movesOf ds = ms.filter Move.isDeed
  /-- The lines are those of the bytes that came, -/
  lines : .tail ∉ ms → linesOf ds ++ restOf left = splitLines (bytesIn ms)
  /-- and at the end of the stream also what is left; only then the session is closed. -/
  hangUp : HangsUp ms → ∃ es, ds = es ++ [.other .endOfStream] ∧ left = [] ∧
    linesOf es = splitLines (bytesIn ms) ∧
      ((act es (start settings)).status = .opened →
        (run ms (start settings)).status = .closed .endOfStream)
  /-- The plugin is handed the lines that are requests. -/
  inbound : .dropInbound ∉ ms →
    (run ms (start settings)).inbound = (linesOf ds).filterMap requestIn?
  /-- Who is told of a close has got every reply that came before it. -/
  delivered : Distinct ms → ∀ id reason given later,
    results id (steps ms (start settings)) =
        given ++ .failed (.connectionClosed reason) :: later →
      ∃ items : List Value, replies id (steps ms (start settings)) = items.map .item ∧
        given = items.map .item

/-- However the bytes of the daemon are cut, and whatever else is done in between, each line
is dispatched once and in order. -/
theorem inbound_dispatched (settings : Settings) (ms : List Move)
    (undisturbed : Undisturbed (steps ms (start settings))) :
    Dispatched settings ms (gather [] ms).1 (gather [] ms).2 := by
  have effect : ∀ ms, Undisturbed (steps ms (start settings)) →
      run ms (start settings) =
        (act (gather [] ms).1 (start settings)).holding (gather [] ms).2 :=
    fun ms undisturbed => run_gathered (s := start settings) ms undisturbed
  refine ⟨effect ms undisturbed, movesOf_gathered [] ms, lines_gathered ms, fun hangsUp => ?_,
    fun listens => ?_, fun distinct id reason given later told =>
      told_before_close settings distinct told⟩
  · obtain ⟨es, gathered, lines⟩ := gather_hangUp hangsUp
    refine ⟨es, congrArg Prod.fst gathered, congrArg Prod.snd gathered, lines, fun opened => ?_⟩
    obtain ⟨before, between, rfl, -, -⟩ := hangsUp
    -- The run up to the end of the stream has done all but the last deed.
    have split : before ++ .tail :: (between ++ [.endOfStream]) =
        (before ++ .tail :: between) ++ [.endOfStream] := by simp
    rw [split] at undisturbed gathered ⊢
    rw [steps_append] at undisturbed
    have first := effect _ undisturbed.before
    have deeds : (gather [] (before ++ .tail :: between)).1 = es := by
      rw [gather_append] at gathered
      exact List.append_cancel_right (congrArg Prod.fst gathered)
    rw [deeds] at first
    have reads := undisturbed.taken
      ⟨run (before ++ .tail :: between) (start settings), .endOfStream⟩ (by simp) rfl
    rw [run_snoc]
    exact (sound_run settings _).endOfStream reads (by rw [first]; exact opened)
  · have deaf : ∀ m ∈ movesOf (gather [] ms).1, m.isDeaf = true := by
      intro m among
      rw [movesOf_gathered] at among
      obtain ⟨made, deed⟩ := List.mem_filter.mp among
      cases m with
      | byte | tail => cases deed
      | dropInbound => exact absurd made listens
      | _ => rfl
    rw [effect ms undisturbed]
    exact act_inbound _ rfl deaf

/-! ## Who can disturb the reader -/

/-- The reader may stop with the move. -/
def Move.stopsReader : Move → Bool
  | .endOfStream | .readError _ | .leaveInput => true
  | _ => false

theorem Governed.step_reading (h : Governed s) (goesOn : m.stopsReader = false) :
    (s.step m).reading = s.reading := by
  have backdrop := congrArg Backdrop.reading (h.step_backdrop m)
  rw [show (s.step m).reading = (s.step m).backdrop.reading from rfl, backdrop]
  cases m with
  | endOfStream | readError | leaveInput => cases goesOn
  | _ =>
    simp only [Backdrop.after, Backdrop.request, Backdrop.enqueue, Backdrop.close,
      Backdrop.readByte, Backdrop.readTail, Backdrop.failOutput, Backdrop.writeNext,
      Backdrop.leaveOutput]
    repeat' split
    all_goals rfl

/-- A reader that has not stopped takes what comes, so that only deadlines disturb it. -/
theorem undisturbed_of_inTime {settings : Settings} {ms : List Move}
    (orderly : ms.Pairwise fun m n => m.stopsReader = true → n.isReader = false)
    (inTime : ∀ st ∈ steps ms (start settings), st.before.expired = []) :
    Undisturbed (steps ms (start settings)) := by
  refine ⟨?_, inTime⟩
  have sound := sound_start settings
  have reads : (start settings).reading = true ∨ ∀ m ∈ ms, m.isReader = false := .inl rfl
  clear inTime
  generalize start settings = s at sound reads
  induction ms generalizing s with
  | nil => simp [steps]
  | cons m ms ih =>
    obtain ⟨first, rest⟩ := List.pairwise_cons.mp orderly
    have next : (s.step m).reading = true ∨ ∀ n ∈ ms, n.isReader = false := by
      cases stops : m.stopsReader with
      | true => exact .inr fun n among => first n among stops
      | false =>
        rcases reads with reads | idle
        · exact .inl ((sound.toGoverned.step_reading stops).trans reads)
        · exact .inr fun n among => idle n (by simp [among])
    intro st among reader
    rcases List.mem_cons.mp among with rfl | later
    · rcases reads with reads | idle
      · exact reads
      · rw [idle m (by simp)] at reader
        cases reader
    · exact ih rest (s.step m) (sound.step m).toSound next st later reader

/-- A reply and, without a line feed, a request of the daemon, a sweep behind each byte.  Then
the daemon hangs up. -/
def choppy : List Move :=
  .send "cut" none .storage .null ::
    ((hears (.item "cut" (.bool true)) ++
      ((InboundFrame.ofRequest none .null).toLine.toUTF8.toList.dropLast.map Move.byte)).flatMap
        fun m => [m, .sweep]) ++ [.tail, .recv "cut", .endOfStream]

theorem choppy_dispatched :
    Undisturbed (steps choppy (start ⟨5, none, 1⟩)) ∧
      (run choppy (start ⟨5, none, 1⟩)).inbound = [.ofRequest none .null] ∧
      (run choppy (start ⟨5, none, 1⟩)).status = .closed .endOfStream ∧
      (linesOf (gather [] choppy).1).length = 2 ∧
      Dispatched ⟨5, none, 1⟩ choppy (gather [] choppy).1 (gather [] choppy).2 := by
  -- Nothing is read behind the end of the stream, and nothing expires.
  have undisturbed : Undisturbed (steps choppy (start ⟨5, none, 1⟩)) :=
    undisturbed_of_inTime (by decide +kernel) (by decide +kernel)
  obtain ⟨requests, status, lines⟩ :
      (run choppy (start ⟨5, none, 1⟩)).inbound = [.ofRequest none .null] ∧
        (run choppy (start ⟨5, none, 1⟩)).status = .closed .endOfStream ∧
        (linesOf (gather [] choppy).1).length = 2 := by
    decide +kernel
  exact ⟨undisturbed, requests, status, lines, inbound_dispatched ⟨5, none, 1⟩ choppy undisturbed⟩

end Session

end Backchannel
