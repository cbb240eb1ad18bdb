/-! The throttle: one slot for all routes and clients. A call is accepted if nothing was accepted
before or at least the interval has passed since; only an accepted call moves the slot. Times are
nanoseconds, and a clock that went back counts as one that stood still. -/

namespace NoteBoard

structure Throttle where
  interval : Nat
  accepted : Option Nat := none
  deriving DecidableEq, Repr

namespace Throttle

def accepts (throttle : Throttle) (now : Nat) : Bool :=
  match throttle.accepted with
  | some previous => throttle.interval ≤ now - previous
  | none => true

def acquire (throttle : Throttle) (now : Nat) : Bool × Throttle :=
  if throttle.accepts now then (true, { throttle with accepted := some now })
  else (false, throttle)

def run (throttle : Throttle) : List Nat → List Bool
  | [] => []
  | now :: later =>
    let (accepted, throttle) := throttle.acquire now
    accepted :: throttle.run later

end Throttle

end NoteBoard
