import GpuCounters.Compute.Simulated

/-!
# Compute APIs behind a library

A compute library answers every query by a status, and a creation by a status and a queue. A
creation that has success but no queue has failed.
-/

namespace GpuCounters.Compute

structure Library where
  State : Type
  /-- The platform of a device -/
  devicePlatform : Device → State → Status × Platform
  /-- Whether a platform has an extension -/
  hasExtension : Platform → String → State → Bool
  create : Context → Device → Queue.Bits → UInt32 → State → (Status × Queue) × State
  profilingInfo : Event → Nat → State → Status × ProfilingInfo

namespace Library

def outcome (status : Status) (queue : Queue) : Except Status Queue :=
  if status = .success then if queue.isNull then .error .invalidOperation else .ok queue
  else .error status

/-- An answer, if the status that came with it is success. -/
def answer {α : Type} (status : Status) (result : α) : Except Status α :=
  if status = .success then .ok result else .error status

end Library

def loaded (library : Library) : Compute where
  State := library.State
  EntryPoint := Unit
  devicePlatform device state :=
    let (status, platform) := library.devicePlatform device state
    { result := Library.answer status platform, state, notes := [.call (.devicePlatform device)] }
  resolve platform name state :=
    { result := if library.hasExtension platform name state then some () else none, state,
      notes := [.call (.resolve platform name)] }
  create _ context device bits configuration state :=
    match library.create context device bits configuration state with
    | ((status, queue), state) =>
      { result := Library.outcome status queue, state,
        notes := [.call (.create context device bits configuration)] }
  profilingInfo event size state :=
    let (status, info) := library.profilingInfo event size state
    { result := Library.answer status info, state, notes := [.call (.profilingInfo event size)] }

/-! ## Finding a library -/

/-- What is behind the name of a library. -/
inductive Presence
  /-- A library with every query -/
  | complete
  /-- A library that does not have the queries -/
  | incomplete
  /-- Nothing that can be loaded -/
  | absent
  deriving DecidableEq, Repr

/-- Why a library of the given name cannot be used, if it cannot; the first query that is looked
for is that for a device's platform. -/
def Presence.failure? (name : String) : Presence → Option String
  | .complete => none
  | .incomplete => some "failed to load clGetDeviceInfo"
  | .absent => some ("failed to load " ++ name)

/-! ## Scripted libraries -/

/-- What a compute library answers. -/
structure LibraryScript where
  /-- The platform of each device, or the status by which its query fails -/
  devices : List (Device × Except Status Platform) := []
  /-- The platforms that have the extension -/
  platforms : List Platform := []
  /-- The status and the queue of each creation -/
  creations : List (Status × Queue) := []

/-- What a compute library remembers. -/
structure LibraryScript.State where
  /-- The number of creations -/
  created : Nat := 0
  events : Events := []

def LibraryScript.tell (event : Event) (outcome : Except Status ByteArray)
    (state : LibraryScript.State) : LibraryScript.State :=
  { state with events := (event, outcome) :: state.events }

def scriptedLibrary (script : LibraryScript) : Library where
  State := LibraryScript.State
  devicePlatform device _ :=
    match script.devices.lookup device with
    | some (.ok platform) => (.success, platform)
    | some (.error status) => (status, ⟨0⟩)
    | none => (.invalidDevice, ⟨0⟩)
  hasExtension platform _ _ := script.platforms.contains platform
  create _ _ _ _ state :=
    ((script.creations[state.created]?).getD (.success, ⟨0⟩),
      { state with created := state.created + 1 })
  profilingInfo event size state :=
    match state.events.query event size with
    | .ok info => (.success, info)
    | .error status => (status, ⟨.empty, 0⟩)

end GpuCounters.Compute
