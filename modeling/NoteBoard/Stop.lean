/-! The stop signal: one sender, any number of receivers, and a channel that keeps the last
message only. A receiver that missed older messages is told once how many, then gets the last. -/

namespace NoteBoard

/-- How many messages were sent, and whether the sender is gone. Each receiver is the number of
messages it has behind it. -/
structure StopSignal where
  sent : Nat := 0
  closed : Bool := false
  receivers : Array Nat := #[]
  deriving DecidableEq, Repr

namespace StopSignal

inductive Receipt where
  | stop
  | empty
  | closed
  | lagged (missed : Nat)
  deriving DecidableEq, Repr

def subscribe (signal : StopSignal) : Nat × StopSignal :=
  (signal.receivers.size, { signal with receivers := signal.receivers.push signal.sent })

def trigger (signal : StopSignal) : StopSignal :=
  if signal.closed then signal else { signal with sent := signal.sent + 1 }

/-- The sender triggers once more when it goes. -/
def drop (signal : StopSignal) : StopSignal :=
  if signal.closed then signal else { signal.trigger with closed := true }

/-- What a receiver with so many messages behind it answers, and how many it then has. -/
def receiveAt (signal : StopSignal) (seen : Nat) : Receipt × Nat :=
  if signal.sent ≤ seen then (if signal.closed then .closed else .empty, seen)
  else if seen + 1 < signal.sent then (.lagged (signal.sent - 1 - seen), signal.sent - 1)
  else (.stop, seen + 1)

/-- Asks a receiver without waiting; there is no answer for one that does not exist. -/
def receive (signal : StopSignal) (receiver : Nat) : Option (Receipt × StopSignal) :=
  signal.receivers[receiver]?.map fun seen =>
    let (receipt, seen) := signal.receiveAt seen
    (receipt, { signal with receivers := signal.receivers.setIfInBounds receiver seen })

end StopSignal

end NoteBoard
