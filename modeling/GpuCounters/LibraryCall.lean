import GpuCounters.Driver.Basic
import GpuCounters.Handle
import GpuCounters.Queue.Properties

/-!
# Calls of libraries

The calls that change something in a library, or ask the compute API something.
-/

namespace GpuCounters

/-- A call of a driver library or of a compute library. -/
inductive LibraryCall
  | openDriver (request : Driver.Request)
  | close
  | openStream (parameters : Driver.StreamParameters)
  | activate
  | save
  | information
  | reset
  | decode (bytes : ByteArray)
  | devicePlatform (device : Device)
  | resolve (platform : Platform) (name : String)
  | create (context : Context) (device : Device) (bits : Queue.Bits) (configuration : UInt32)
  | profilingInfo (event : Event) (size : Nat)

namespace LibraryCall

/-- The number by which a driver library knows a sampling mode. -/
def modeNumber : Mode → Nat
  | .event => 0
  | .time => 1

def byteText (byte : UInt8) : List Char :=
  [Nat.digitChar (byte.toNat / 16), Nat.digitChar (byte.toNat % 16)]

def number (n : Nat) : String := String.ofList (Nat.toDigits 10 n)

def line : LibraryCall → String
  | .openDriver request =>
    "open mode=" ++ number (modeNumber request.mode) ++ " set=" ++ request.metricSet ++ " file=" ++
      request.metricsFile?.getD "null" ++ " max=" ++ number request.includeMax.toNat
  | .close => "close"
  | .openStream parameters =>
    "open_stream period=" ++ number parameters.period.toNat ++ " buffer=" ++
      number parameters.bufferSize.toNat ++ " pid=" ++ number parameters.process.toNat
  | .activate => "activate"
  | .save => "save"
  | .information => "io_info"
  | .reset => "reset"
  | .decode bytes => "decode " ++ String.ofList (bytes.toList.flatMap byteText)
  | .devicePlatform device => "device_info " ++ number device.address.toNat ++ " 0x1031 8"
  | .resolve platform name => "extension " ++ number platform.address.toNat ++ " " ++ name
  | .create context device bits configuration =>
    "create " ++ number context.address.toNat ++ " " ++ number device.address.toNat ++ " " ++
      number bits.toNat ++ " " ++ number configuration.toNat
  | .profilingInfo event size =>
    "profiling_info " ++ number event.address.toNat ++ " 0x407f " ++ number size

end LibraryCall

end GpuCounters
