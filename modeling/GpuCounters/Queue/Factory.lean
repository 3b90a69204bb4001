import GpuCounters.Session.Lifecycle

/-!
# Creating queues

A queue with counters is created for the metric set of the live driver, which is made current just
before. Whether a platform has the extension is asked once.
-/

namespace GpuCounters

/-- A queue with counters and the token of the metric set it was created for. -/
structure CounterQueue where
  handle : Queue
  configuration : UInt32
  deriving DecidableEq, Repr

namespace Queue

variable {P : Driver.Provider} {C : Compute}

/-- The entry point of a platform, looked for if it was not before. -/
def resolve (platform : Platform) : Run P C (Option C.EntryPoint) := do
  match (← get).entryPoints.lookup platform with
  | some found => return found
  | none =>
    Run.note (.resolve platform)
    let found ← Run.askCompute (C.resolve platform extensionName)
    modify fun system ↦ { system with entryPoints := system.entryPoints ++ [(platform, found)] }
    return found

def platformOf (device : Device) : Run P C (Except Status Platform) := do
  Run.note (.platformQuery device)
  Run.askCompute (C.devicePlatform device)

/-- Make the metric set of a live driver current; the token of it. -/
def activate (active : Active P) : Run P C (Except Error UInt32) := do
  Run.note .activate
  match ← Run.askDriver (P.activate active.connection) with
  | .error cause => return .error (.activationFailed cause)
  | .ok () => return .ok (P.configuration active.connection (← get).driver)

/-- Make the metric set of the live driver current, if there is one. -/
def activateLive : Run P C (Except Error UInt32) := do
  let result := (← Run.withDriver activate).getD (.error .uninitialized)
  match result with
  | .error cause => Run.log (.notActivated cause)
  | .ok _ => pure ()
  return result

def call (entry : C.EntryPoint) (context : Context) (device : Device) (bits : Bits)
    (configuration : UInt32) : Run P C (Except Error CounterQueue) := do
  Run.log (.creating configuration)
  let result ← Run.askCompute (C.create entry context device bits configuration)
  Run.note (.create context device bits configuration result)
  match result with
  | .ok handle =>
    Run.log .created
    return .ok ⟨handle, configuration⟩
  | .error status =>
    Run.log (.creationFailed status)
    return .error (.driver status)

def createOn (platform : Platform) (context : Context) (device : Device) (bits : Bits) :
    Run P C (Except Error CounterQueue) := do
  match ← resolve platform with
  | none =>
    Run.log (.entryPointMissing platform)
    return .error (.entryPointMissing platform)
  | some entry =>
    match ← activateLive with
    | .error cause => return .error cause
    | .ok configuration => call entry context device bits configuration

def countOutcome (counts : Telemetry) : Except Error CounterQueue → Telemetry
  | .ok _ => { counts with created := counts.created + 1 }
  | .error (.driver _) => { counts with driverErrors := counts.driverErrors + 1 }
  | .error (.activationFailed _) =>
    { counts with activationFailures := counts.activationFailures + 1 }
  | .error _ => { counts with unavailable := counts.unavailable + 1 }

def create (context : Context) (device : Device) (bits : Bits) :
    Run P C (Except Error CounterQueue) := do
  let result ← do
    match ← platformOf device with
    | .error status => pure (.error (.platformQuery device status))
    | .ok platform => createOn platform context device bits
  Run.count fun counts ↦ countOutcome counts result
  return result

/-- Create a queue with a property list. A list that cannot be expressed as a bit field creates
none. -/
def createWithProperties (context : Context) (device : Device)
    (properties : Option (List UInt64)) : Run P C (Except Error CounterQueue) := do
  match bitsOf properties with
  | .error refusal =>
    Run.log (.propertiesRejected refusal)
    Run.count fun counts ↦ { counts with rejected := counts.rejected + 1 }
    return .error (.rejected refusal)
  | .ok bits => create context device bits

end Queue

end GpuCounters
