import GpuCounters.LibraryCall
import GpuCounters.Log

/-!
# Exchanges

The engine depends on parties of which it knows only how they answer. An answer comes with the
party's new state and with notes on how it came about.
-/

namespace GpuCounters

/-- What a party notes on the way to an answer. -/
inductive Note
  /-- A call of a library -/
  | call (call : LibraryCall)
  /-- An event for the log -/
  | log (event : Log.Event)

/-- The answer of a party. -/
structure Exchange (σ α : Type) where
  result : α
  /-- The state of the party behind the answer -/
  state : σ
  notes : List Note := []

end GpuCounters
