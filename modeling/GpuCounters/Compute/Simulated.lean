import GpuCounters.Compute.Api

/-!
# Simulated compute APIs

A compute API in memory: it knows the devices and events it was told of, and numbers the queues it
creates.
-/

namespace GpuCounters.Compute

/-- The reports of events, or why a query of one fails. -/
abbrev Events := List (Event × Except Status ByteArray)

/-- What a query finds among the events that were told, the latest first. -/
def Events.query (events : Events) (event : Event) (size : Nat) : Except Status ProfilingInfo :=
  match events.lookup event with
  | some (.ok bytes) => .ok ⟨bytes.extract 0 size, bytes.size⟩
  | some (.error status) => .error status
  | none => .error .invalidEvent

namespace Simulated

/-- What the API was told, and the number of queues it created. -/
structure State where
  devices : List (Device × Platform) := []
  /-- The platforms that have the extension -/
  platforms : List Platform := []
  /-- The status by which every creation fails, if there is one -/
  refusal? : Option Status := none
  events : Events := []
  created : Nat := 0

/-- The platform of a device; of two that were told the later one counts. -/
def devicePlatform (state : State) (device : Device) : Except Status Platform :=
  match state.devices.reverse.lookup device with
  | some platform => .ok platform
  | none => .error .invalidValue

def queue (number : Nat) : Queue := ⟨.ofNat (0x5000 + number)⟩

def create (state : State) : Exchange State (Except Status Queue) :=
  match state.refusal? with
  | some status => { result := .error status, state }
  | none =>
    { result := .ok (queue (state.created + 1)),
      state := { state with created := state.created + 1 } }

def tell (event : Event) (outcome : Except Status ByteArray) (state : State) : State :=
  { state with events := (event, outcome) :: state.events }

end Simulated

/-- The compute API in memory. -/
def simulated : Compute where
  State := Simulated.State
  EntryPoint := Unit
  devicePlatform device state := { result := Simulated.devicePlatform state device, state }
  resolve platform _ state :=
    { result := if platform ∈ state.platforms then some () else none, state }
  create _ _ _ _ _ state := Simulated.create state
  profilingInfo event size state := { result := state.events.query event size, state }

end GpuCounters.Compute
