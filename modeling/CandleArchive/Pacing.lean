/-!
# Pacing — a pause between calls

A provider limits how often it may be asked. A gate lets a call start once a pause has gone by since
the call before it finished; without a pause it never waits. Times are milliseconds.

* `Gate`, `Gate.acquire`, `Gate.release`: the gate, the start of a call and its end;
* `GateStep`, `Gate.times`: a gate on a clock, step by step.
-/

namespace CandleArchive

/-- A gate with its pause and the end of the call before. -/
structure Gate where
  pause : Nat
  lastFinished : Option Nat := none
  deriving DecidableEq, Repr

namespace Gate

/-- When a call that arrives at the time `now` may start. -/
def acquire (gate : Gate) (now : Nat) : Nat :=
  if gate.pause = 0 then now
  else
    match gate.lastFinished with
    | none => now
    | some finished => max now (finished + gate.pause)

/-- The gate after a call that finishes at the time `now`. -/
def release (gate : Gate) (now : Nat) : Gate :=
  if gate.pause = 0 then gate else { gate with lastFinished := some now }

end Gate

/-- What happens at a gate. -/
inductive GateStep where
  | acquire
  | release
  | pass (duration : Nat)
  deriving DecidableEq, Repr

namespace Gate

/-- The gate and the clock after a step. -/
def step (gate : Gate) (clock : Nat) : GateStep → Gate × Nat
  | .acquire => (gate, gate.acquire clock)
  | .release => (gate.release clock, clock)
  | .pass duration => (gate, clock + duration)

/-- The clock after each of the steps. -/
def times (gate : Gate) (clock : Nat) : List GateStep → List Nat
  | [] => []
  | s :: steps =>
    let (gate, clock) := gate.step clock s
    clock :: gate.times clock steps

end Gate

end CandleArchive
