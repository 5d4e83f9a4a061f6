/-
# Backchannel.Timing.Run -- the runs of timing contexts

`Op` lists what can be done with timing contexts and their guards, `perform` does it, and a run
is a list of operations.
-/
import Backchannel.Timing

namespace Backchannel.Timing

set_option autoImplicit false

variable {κ : Type} [DecidableEq κ]

/-- Contexts and guards are called by names. -/
inductive Op (κ : Type) where
  | create (context : κ)
  | clone (copy context : κ)
  | enter (guard context : κ) (now : Instant)
  | finish (guard : κ) (now : Instant)
  /-- A guard is dropped. -/
  | release (guard : κ)
  /-- A context is dropped. -/
  | forget (context : κ)

/-- What an operation answers. -/
inductive Report where
  | done
  /-- Nothing of that name is there. -/
  | gone
  | entered (result : Except CallError Unit)
  | finished (elapsed : Duration)

def perform (op : Op κ) (t : Timing κ) : Report × Timing κ :=
  match op with
  | .create context => (.done, t.create context)
  | .clone copy context =>
    if t.contexts.contains context then (.done, t.clone copy context) else (.gone, t)
  | .enter guard context now =>
    if t.contexts.contains context then
      match t.enter guard context now with
      | .error e => (.entered (.error e), t)
      | .ok t => (.entered (.ok ()), t)
    else (.gone, t)
  | .finish guard now =>
    match t.finish guard now with
    | (none, t) => (.gone, t)
    | (some elapsed, t) => (.finished elapsed, t)
  | .release guard =>
    if t.guards.contains guard then (.done, t.release guard) else (.gone, t)
  | .forget context =>
    if t.contexts.contains context then (.done, t.forget context) else (.gone, t)

/-- The contexts and guards after a step. -/
def step (t : Timing κ) (op : Op κ) : Timing κ := (t.perform op).2

/-- The contexts and guards after a run. -/
def run (ops : List (Op κ)) (t : Timing κ) : Timing κ := ops.foldl step t

/-- A step and what it finds. -/
structure Step (κ : Type) where
  before : Timing κ
  op : Op κ

/-- A run, step by step. -/
def steps : List (Op κ) → Timing κ → List (Step κ)
  | [], _ => []
  | op :: ops, t => ⟨t, op⟩ :: steps ops (t.step op)

def Step.report (st : Step κ) : Report := (st.before.perform st.op).1

end Backchannel.Timing
