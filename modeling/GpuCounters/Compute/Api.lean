import GpuCounters.Exchange

/-!
# Compute APIs

Of the compute API the engine needs three things: the platform of a device, the extension that
creates queues with counters, and the report that comes with a completed event.
-/

namespace GpuCounters

/-- What a query of an event's report found. -/
structure ProfilingInfo where
  /-- The bytes that were handed over -/
  bytes : ByteArray
  /-- The size that the API states for the report -/
  size : Nat

/-- A party that creates queues and knows the reports of events. -/
structure Compute where
  State : Type
  EntryPoint : Type
  /-- The platform of a device -/
  devicePlatform : Device → State → Exchange State (Except Status Platform)
  /-- The entry point of an extension of a platform -/
  resolve : Platform → String → State → Exchange State (Option EntryPoint)
  /-- Create a queue with counters -/
  create : EntryPoint → Context → Device → Queue.Bits → UInt32 → State →
    Exchange State (Except Status Queue)
  /-- The report of an event, of which up to the given number of bytes are handed over -/
  profilingInfo : Event → Nat → State → Exchange State (Except Status ProfilingInfo)

/-- A buffer of the given size with bytes at its start and zeros behind them. -/
def ProfilingInfo.buffer (size : Nat) (info : ProfilingInfo) : ByteArray :=
  let bytes := info.bytes.extract 0 size
  bytes ++ ⟨Array.replicate (size - bytes.size) 0⟩

end GpuCounters
