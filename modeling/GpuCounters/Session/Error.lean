import GpuCounters.Driver.Basic

/-!
# What can go wrong with a session
-/

namespace GpuCounters.Session

/-- Why a session was not started as asked. -/
inductive Error
  /-- No driver can be connected to. -/
  | driverUnavailable (cause : Driver.Error)
  /-- The session is live with another mode or metric set. -/
  | reconfigured (activeMode : Mode) (activeSet : String) (requestedMode : Mode)
      (requestedSet : String)
  deriving DecidableEq, Repr

def Error.message : Error → String
  | .driverUnavailable cause => "counter driver unavailable: " ++ cause.message
  | .reconfigured activeMode activeSet requestedMode requestedSet =>
    "session is running " ++ activeMode.name ++ " sampling of " ++ activeSet ++
      "; refusing to switch to " ++ requestedMode.name ++ " sampling of " ++ requestedSet

end GpuCounters.Session
