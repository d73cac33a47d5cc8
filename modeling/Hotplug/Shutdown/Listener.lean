import Hotplug.Chronicle.Basic

/-!
# Listening for signals

How signals of the operating system get into a buffer.  One that finds the buffer full is
coalesced with those that wait there, which is worth a word in the log.

This file models the signal listener of the lifecycle component, from the operating system to
the coordinator.

* `SignalBuffer.forward` — puts a signal of the operating system into the buffer.
* `SignalBuffer.room` — how many more signals the buffer takes.
-/

namespace Hotplug.SignalBuffer

/-- What is said about a signal that was offered. -/
def remark? (s : Signal) : Offered → Option Message
  | .coalesced => some (.signalCoalesced s)
  | _ => none

/-- Puts a signal into the buffer, and says so if it was coalesced. -/
def forward (b : SignalBuffer) (c : Chronicle) (s : Signal) :
    Offered × SignalBuffer × Chronicle :=
  let (r, b) := b.offer s
  (r, b, (remark? s r).elim c c.log)

/-- How many more signals the buffer takes. -/
def room (b : SignalBuffer) : Nat :=
  b.capacity - b.waiting.length

end Hotplug.SignalBuffer
