import GpuCounters.Exchange

/-!
# Providers of drivers

A provider makes connections to a driver. What a connection was made with stays; all that changes
is in the provider's state.
-/

namespace GpuCounters.Driver

/-- A party that connects to a driver and passes on what the driver answers. -/
structure Provider where
  State : Type
  Connection : Type
  /-- Connect to a driver -/
  connect : Request → State → Exchange State (Except Error Connection)
  /-- Give a connection up -/
  disconnect : Connection → State → Exchange State Unit
  /-- The metrics of the metric set -/
  metrics : Connection → List Descriptor
  /-- The further information that comes with the reports of a stream -/
  information : Connection → List Descriptor
  /-- Whether decoded metrics have their greatest values -/
  includesMax : Connection → Bool
  /-- Open the stream -/
  openStream : StreamParameters → Connection → State → Exchange State (Except Error Unit)
  /-- Make the metric set current for queues that are created next -/
  activate : Connection → State → Exchange State (Except Error Unit)
  /-- The token of the metric set that is current -/
  configuration : Connection → State → UInt32
  /-- Move what the stream has into the driver's store; whether it had anything -/
  poll : Connection → State → Exchange State Bool
  /-- Decode the reports in the driver's store -/
  savedReports : Connection → State → Exchange State (List Report)
  /-- The further information of the last poll -/
  informationValues : Connection → State → Exchange State (List Value)
  /-- Empty the driver's store -/
  reset : Connection → State → Exchange State Unit
  /-- The size in bytes of the report of an event -/
  reportSize : Connection → State → Nat
  /-- Decode the report of an event -/
  decode : ByteArray → Connection → State → Exchange State Report
  /-- A bound on how often the stream still has something -/
  backlog : Connection → State → Nat
  /-- The bound sinks with every round of a poll that finds something, and what is done with it. -/
  backlog_round : ∀ (connection : Connection) (state : State),
    (poll connection state).result = true →
      backlog connection
        (reset connection
          (informationValues connection
            (savedReports connection (poll connection state).state).state).state).state <
        backlog connection state

end GpuCounters.Driver
