import GpuCounters.Compute.Status
import GpuCounters.Driver.Basic
import GpuCounters.Handle
import GpuCounters.Queue.Properties

/-!
# What can go wrong with a queue
-/

namespace GpuCounters.Queue

def extensionName : String := "clCreatePerfCountersCommandQueueINTEL"

/-- Why no queue was created. -/
inductive Error
  /-- The properties cannot be expressed as a bit field. -/
  | rejected (refusal : Refusal)
  /-- The platform of the device is not known. -/
  | platformQuery (device : Device) (status : Status)
  /-- The platform does not have the extension. -/
  | entryPointMissing (platform : Platform)
  /-- No driver is connected. -/
  | uninitialized
  /-- The metric set could not be made current. -/
  | activationFailed (cause : Driver.Error)
  /-- The compute API refused. -/
  | driver (status : Status)
  deriving DecidableEq, Repr

namespace Error

def message : Error → String
  | .rejected refusal => "queue properties rejected: " ++ refusal.message
  | .platformQuery device status =>
    "device " ++ device.toText ++ " platform query failed: " ++ status.name
  | .entryPointMissing platform =>
    "couldn't get pointer to " ++ extensionName ++ " on platform " ++ platform.toText
  | .uninitialized => "metrics discovery is not initialized"
  | .activationFailed cause => "couldn't activate metric set: " ++ cause.message
  | .driver status => "queue creation returned " ++ status.name ++ " (" ++ status.toText ++ ")"

/-- The status that the compute API's caller is given. -/
def code : Error → Status
  | .rejected _ => .invalidValue
  | .platformQuery _ status => status
  | .driver status => status
  | .entryPointMissing _ => .invalidOperation
  | .uninitialized => .invalidOperation
  | .activationFailed _ => .invalidOperation

end Error

end GpuCounters.Queue
