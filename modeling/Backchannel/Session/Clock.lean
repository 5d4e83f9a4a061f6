/-
# Backchannel.Session.Clock -- what happens as time passes

Two timers belong to a session: the sweep for expired entries, which is due at once
and then every `sweepPeriod`, and the heartbeat, which is first due after one
interval.  A timer that is late fires once, and its next firing counts from then;
one that is in time keeps its beat.

`settle` is what needs no time: the writer writes what waits, and reader and writer
stop when the session is closed.
-/
import Backchannel.Session.Inbound

namespace Backchannel

set_option autoImplicit false

namespace Session

/-! ## The writer -/

/-- The writer gathers lines in a buffer of this many bytes; a line that is not
shorter goes past it. -/
def writeBuffer : Nat := 8192

/-- How the write of a line fails that the daemon does not take: a short line when
the buffer is flushed, a long one at once. -/
def writeFailure (line : String) : CloseReason :=
  if line.utf8ByteSize < writeBuffer then .flushFailed "broken pipe"
  else .writeFailed "broken pipe"

/-- The writer stops over a line that the daemon does not take, and closes the
session.  The lines that wait are lost. -/
def failOutput (reason : CloseReason) (s : Session) : Session :=
  if s.writing && !s.outbox.isEmpty then
    { s.shutDown reason with writing := false, outbox := [] }
  else s

/-- Writes the line that has waited longest. -/
def writeNext (s : Session) : Session :=
  match s.outbox with
  | [] => s
  | line :: rest =>
    if s.writing && s.accepting then { s with outbox := rest, written := s.written ++ [line] }
    else s.failOutput (writeFailure line)

/-- Writes what waits. -/
def writeAll (s : Session) : Session := Nat.repeat writeNext s.outbox.length s

/-- The reader stops when the session is closed. -/
def leaveInput (s : Session) : Session :=
  if s.status.isClosed then { s with reading := false } else s

/-- The writer stops when the session is closed, whatever still waits. -/
def leaveOutput (s : Session) : Session :=
  if s.status.isClosed then { s with writing := false, outbox := [] } else s

/-- Reader and writer stop when the session is closed. -/
def noticeClose (s : Session) : Session := s.leaveInput.leaveOutput

/-- All that can happen without time passing. -/
def settle (s : Session) : Session :=
  if s.status.isClosed then s.noticeClose else s.writeAll.noticeClose

/-! ## Timers -/

/-- The time between two sweeps: the timeout of requests, but no more than a second
and no less than ten milliseconds. -/
def sweepPeriod (s : Session) : Duration :=
  max (min s.settings.requestTimeout (Duration.ofSeconds 1)) (Duration.ofMillis 10)

/-- A timer is late if it fires more than this after its time. -/
def lateness : Duration := Duration.ofMillis 5

/-- When a timer fires again that was due at `due` and fires at `now`. -/
def nextFiring (due now : Instant) (period : Duration) : Instant :=
  if due + lateness < now then now + period else due + period

/-- The sweep, if it is due. -/
def fireSweep (s : Session) : Session :=
  if s.reading && s.sweepAt ≤ s.now then
    { s.sweep with sweepAt := nextFiring s.sweepAt s.now s.sweepPeriod }
  else s

/-- The heartbeats that are due.  They cease when the session is closed.  Timers go off at their
very moments; a runtime may round a moment up to the next whole millisecond, so that moments
between whole milliseconds are idealised here. -/
def fireBeats : Nat → Session → Session
  | 0, s => s
  | fuel + 1, s =>
    match s.beatAt, s.settings.heartbeatEvery with
    | some due, some every =>
      if due ≤ s.now then
        match s.heartbeat with
        | (.ok (), s) =>
          fireBeats fuel { s with beatAt := some (nextFiring due s.now (min every maxWait)) }
        | (.error _, s) => { s with beatAt := none }
      else s
    | _, _ => s

/-- Fires every timer that is due; what it hands to the writer waits.  After one round
of heartbeats the next is at most `lateness` behind, which bounds their number. -/
def ring (s : Session) : Session := fireBeats (lateness + 2) s.fireSweep

/-- The moments at which something may become due. -/
def dueTimes (s : Session) : List Instant :=
  if s.status.isClosed then []
  else s.sweepAt :: s.beatAt.toList ++ s.subscriptions.map fun e => e.2.deadline

/-- The first moment after now at which something may be due, but no later than
`target`. -/
def nextStop (target : Instant) (s : Session) : Instant :=
  (s.dueTimes.filter (s.now < ·)).foldl min target

end Session

end Backchannel
