/-!
# Status codes of the compute API
-/

namespace GpuCounters

/-- A status code; zero is success. -/
abbrev Status := Int32

namespace Status

def success : Status := 0
def invalidValue : Status := -30
def invalidDevice : Status := -33
def invalidEvent : Status := -58
def invalidOperation : Status := -59

def name (status : Status) : String :=
  match status.toInt with
  | 0 => "CL_SUCCESS"
  | -1 => "CL_DEVICE_NOT_FOUND"
  | -2 => "CL_DEVICE_NOT_AVAILABLE"
  | -5 => "CL_OUT_OF_RESOURCES"
  | -6 => "CL_OUT_OF_HOST_MEMORY"
  | -7 => "CL_PROFILING_INFO_NOT_AVAILABLE"
  | -30 => "CL_INVALID_VALUE"
  | -32 => "CL_INVALID_PLATFORM"
  | -33 => "CL_INVALID_DEVICE"
  | -34 => "CL_INVALID_CONTEXT"
  | -35 => "CL_INVALID_QUEUE_PROPERTIES"
  | -36 => "CL_INVALID_COMMAND_QUEUE"
  | -58 => "CL_INVALID_EVENT"
  | -59 => "CL_INVALID_OPERATION"
  | -1001 => "CL_PLATFORM_NOT_FOUND_KHR"
  | _ => "<unknown>"

def toText (status : Status) : String :=
  let digits := String.ofList (Nat.toDigits 10 status.toInt.natAbs)
  if status.toInt < 0 then "-" ++ digits else digits

/-- The bits of a status code in eight upper-case digits of base sixteen. -/
def toHex (status : Status) : String :=
  let digits := (Nat.toDigits 16 status.toUInt32.toNat).map Char.toUpper
  String.ofList (List.replicate (8 - digits.length) '0' ++ digits)

end Status

end GpuCounters
