/-
# Backchannel.Proofs.Config -- what accepted settings are good for

A session needs a timeout that is positive and at most a year, room for an item, and,
where it is to send heartbeats, an interval between them that is positive and at most a
year.  Settings that were accepted have all of this but for one case
(`accepted_runnable_iff`): an interval that is written as zero means no heartbeats, but
one that only rounds to zero is taken as it is.

`Taken` is what `Config.ofLookup` accepts, a field at a time; what holds of one setting is
told of its reader (`timeout_ok`, `interval_ok`, `capacity_ok`).
-/
import Backchannel.Config
import Backchannel.Proofs.Except
import Backchannel.Proofs.Numeric.Rounding

namespace Backchannel

set_option autoImplicit false

open Backchannel.Except (bind_eq_ok)
open Backchannel.Numeric

namespace Config

variable {lookup : String → Option String} {c : Config}

/-! ## What is accepted -/

/-- A setting is what is read from its variable, or its default. -/
theorem setting_ok {α : Type} {var : Variable} {default a : α}
    {read : String → Except Refusal α} (h : setting lookup var default read = .ok a) :
    (get lookup var = none ∧ a = default) ∨
      ∃ value, get lookup var = some value ∧ read value = .ok a := by
  unfold setting at h
  cases found : get lookup var with
  | none =>
    simp only [found, Except.ok.injEq] at h
    exact .inl ⟨rfl, h.symm⟩
  | some value =>
    simp only [found] at h
    cases got : read value with
    | error why => simp [got] at h
    | ok b =>
      simp only [got, Except.ok.injEq] at h
      exact .inr ⟨value, rfl, got.trans (congrArg _ h)⟩

/-- A configuration that was accepted is what its variables say. -/
structure Taken (lookup : String → Option String) (c : Config) : Prop where
  requestTimeout :
    setting lookup .requestTimeout defaults.requestTimeout timeout = .ok c.requestTimeout
  maxWorkers :
    setting lookup .maxWorkers defaults.maxWorkers (whole (wordValues 64)) = .ok c.maxWorkers
  heartbeatEvery :
    setting lookup .heartbeatEvery defaults.heartbeatEvery interval = .ok c.heartbeatEvery
  install : setting lookup .installMethod defaults.install method = .ok c.install
  remoteHost : setting lookup .remoteHost defaults.remoteHost .ok = .ok c.remoteHost
  remotePort :
    setting lookup .remotePort defaults.remotePort (whole (wordValues 16)) = .ok c.remotePort
  daemonUrl : setting lookup .daemonUrl defaults.daemonUrl .ok = .ok c.daemonUrl
  queueCapacity :
    setting lookup .queueCapacity defaults.queueCapacity capacity = .ok c.queueCapacity
  logLevel : setting lookup .logLevel defaults.logLevel .ok = .ok c.logLevel
  remoteKey : c.remoteKey = get lookup .remoteKey
  logDir : c.logDir = get lookup .logDir
  /-- A remote daemon is never joined without a key. -/
  keyed : c.install = .remote → c.remoteKey ≠ none

theorem taken_of_ok (h : ofLookup lookup = .ok c) : Taken lookup c := by
  simp only [ofLookup, bind_eq_ok] at h
  obtain ⟨requestTimeout, h₁, maxWorkers, h₂, heartbeatEvery, h₃, install, h₄, remoteHost, h₅,
    remotePort, h₆, daemonUrl, h₇, queueCapacity, h₈, logLevel, h₉, last⟩ := h
  split at last
  · cases last
  · rename_i keyed
    cases last
    exact ⟨h₁, h₂, h₃, h₄, h₅, h₆, h₇, h₈, h₉, rfl, rfl, fun remote none => keyed ⟨remote, none⟩⟩

/-! ## Each reader -/

theorem positive_ok {n m : Nat} (h : positive n = .ok m) : 0 < m := by
  unfold positive at h
  split at h
  · cases h
  · cases h
    omega

theorem bounded_ok {wait got : Duration} (h : bounded wait = .ok got) :
    got = wait ∧ got ≤ maxConfiguredWait := by
  unfold bounded at h
  split at h
  · cases h
  · rename_i within
    cases h
    exact ⟨rfl, Nat.le_of_not_lt within⟩

theorem timeout_ok {value : String} {wait : Duration} (h : timeout value = .ok wait) :
    0 < wait ∧ wait ≤ maxConfiguredWait := by
  simp only [timeout, bind_eq_ok] at h
  obtain ⟨written, -, seconds, pos, limit⟩ := h
  obtain ⟨rfl, most⟩ := bounded_ok limit
  exact ⟨Nat.mul_pos (positive_ok pos) (by decide), most⟩

theorem capacity_ok {value : String} {room : Nat} (h : capacity value = .ok room) :
    0 < room := by
  simp only [capacity, bind_eq_ok] at h
  obtain ⟨written, -, pos⟩ := h
  exact positive_ok pos

/-- Only a finite number that is not negative has a span. -/
theorem span_ok {x : Extended} {every : Duration} (h : span x = .ok every) :
    ∃ y, x = .finite y ∧ every = roundDiv (y.num * 1000000000) y.den := by
  cases x with
  | notANumber => cases h
  | infinite negative => cases negative <;> cases h
  | finite y =>
    simp only [span] at h
    split at h
    · cases h
    · split at h
      · cases h
      · cases h
        exact ⟨y, rfl, rfl⟩

/-- Half a nanosecond is the most that rounds to no time at all. -/
def Vanishing (x : Binary64) : Prop := x.isZero = false ∧ 2 * (x.num * 1000000000) ≤ x.den

/-- An interval is at most a year.  It is zero only where a number is written that is not
zero, but rounds to it. -/
theorem interval_ok {value : String} {beat : Option Duration} (h : interval value = .ok beat) :
    (∀ every, beat = some every → every ≤ maxConfiguredWait) ∧
      (beat = some 0 ↔ ∃ x, readReal value = some (.finite x) ∧ Vanishing x) := by
  have spans : ∀ x, (do let every ← span x; let every ← bounded every; return some every) =
      Except.ok beat → ∃ y every, x = .finite y ∧ beat = some every ∧
        every ≤ maxConfiguredWait ∧ every = roundDiv (y.num * 1000000000) y.den := by
    intro x accepted
    simp only [bind_eq_ok] at accepted
    obtain ⟨every, rounds, bound, limit, same⟩ := accepted
    cases same
    obtain ⟨rfl, most⟩ := bounded_ok limit
    obtain ⟨y, rfl, rounded⟩ := span_ok rounds
    exact ⟨y, bound, rfl, rfl, most, rounded⟩
  unfold interval at h
  split at h
  · cases h
  · rename_i x real
    split at h
    · rename_i zero
      cases h
      simp [real, Vanishing, zero]
    · rename_i other
      obtain ⟨y, every, same, rfl, most, rounded⟩ := spans _ h
      cases same
      have rounds : every = 0 ↔ Vanishing x := by
        rw [rounded, roundDiv_eq_zero_iff x.den_pos]
        simp [Vanishing, other]
      simpa [real, most] using rounds
  · rename_i x finite real
    obtain ⟨y, every, rfl, -⟩ := spans _ h
    exact absurd rfl (finite y)

end Config

/-! ## What a session needs -/

namespace Settings

/-- The waits are at most a year, there is time for a request, and room for an item. -/
structure Bounded (s : Settings) : Prop where
  timeout_pos : 0 < s.requestTimeout
  timeout_le : s.requestTimeout ≤ maxConfiguredWait
  capacity_pos : 0 < s.queueCapacity
  beat_le : ∀ every, s.heartbeatEvery = some every → every ≤ maxConfiguredWait

/-- What a session needs: a timer whose interval is zero cannot run. -/
structure Runnable (s : Settings) : Prop extends Bounded s where
  beat_pos : ∀ every, s.heartbeatEvery = some every → 0 < every

end Settings

namespace Config

variable {lookup : String → Option String} {c : Config}

/-- The heartbeat interval is set to a number that is not zero, but too small to count. -/
def BeatVanishes (lookup : String → Option String) : Prop :=
  ∃ value x, get lookup .heartbeatEvery = some value ∧ readReal value = some (.finite x) ∧
    Vanishing x

theorem Taken.timeout (h : Taken lookup c) :
    0 < c.requestTimeout ∧ c.requestTimeout ≤ maxConfiguredWait := by
  rcases setting_ok h.requestTimeout with ⟨-, unset⟩ | ⟨value, -, read⟩
  · rw [unset]
    decide
  · exact timeout_ok read

theorem Taken.capacity_pos (h : Taken lookup c) : 0 < c.queueCapacity := by
  rcases setting_ok h.queueCapacity with ⟨-, unset⟩ | ⟨value, -, read⟩
  · rw [unset]
    decide
  · exact capacity_ok read

theorem Taken.beat (h : Taken lookup c) :
    (∀ every, c.heartbeatEvery = some every → every ≤ maxConfiguredWait) ∧
      (c.heartbeatEvery = some 0 ↔ BeatVanishes lookup) := by
  rcases setting_ok h.heartbeatEvery with ⟨found, unset⟩ | ⟨value, found, read⟩
  · rw [unset]
    refine ⟨?_, ?_⟩
    · rintro every rfl'
      cases rfl'
      decide
    · simp [BeatVanishes, found, defaults, Settings.defaultHeartbeat, Duration.ofSeconds]
  · obtain ⟨most, zero⟩ := interval_ok read
    refine ⟨most, zero.trans ⟨?_, ?_⟩⟩
    · rintro ⟨x, real, vanishes⟩
      exact ⟨value, x, found, real, vanishes⟩
    · rintro ⟨other, x, found', real, vanishes⟩
      cases found.symm.trans found'
      exact ⟨x, real, vanishes⟩

/-- A session can run with settings that were accepted, but for one case: the heartbeat
interval is not zero, but at most half a nanosecond, and rounds to zero. -/
theorem accepted_runnable_iff (h : ofLookup lookup = .ok c) :
    c.settings.Bounded ∧ (c.settings.Runnable ↔ ¬ BeatVanishes lookup) := by
  have taken := taken_of_ok h
  obtain ⟨most, zero⟩ := taken.beat
  have bounded : c.settings.Bounded :=
    ⟨taken.timeout.1, taken.timeout.2, taken.capacity_pos, most⟩
  refine ⟨bounded, ?_, ?_⟩
  · intro runs vanishes
    exact absurd (runs.beat_pos 0 (zero.mpr vanishes)) (Nat.lt_irrefl 0)
  · intro counts
    refine ⟨bounded, fun every set => Nat.pos_of_ne_zero ?_⟩
    rintro rfl
    exact counts (zero.mp set)

/-- Four tenths of a nanosecond between heartbeats. -/
def hasty (name : String) : Option String :=
  if name = Variable.heartbeatEvery.name then some "4e-10" else none

theorem hasty_not_runnable :
    ofLookup hasty = .ok { defaults with heartbeatEvery := some 0 } ∧ BeatVanishes hasty ∧
      ¬ { defaults with heartbeatEvery := some 0 }.settings.Runnable := by
  have accepted : ofLookup hasty = .ok { defaults with heartbeatEvery := some 0 } := by
    have read : (ofLookup hasty).toOption = some { defaults with heartbeatEvery := some 0 } := by
      decide +kernel
    cases got : ofLookup hasty with
    | error why => simp [got, Except.toOption] at read
    | ok c => simpa [got, Except.toOption] using read
  have vanishes : BeatVanishes hasty := by
    refine ⟨"4e-10", ⟨false, 4466300756342324667, by decide⟩, ?_, ?_, ?_, ?_⟩ <;> decide +kernel
  exact ⟨accepted, vanishes, fun runs => (accepted_runnable_iff accepted).2.mp runs vanishes⟩

end Config

end Backchannel
