import GpuCounters.Compute.Api
import GpuCounters.Driver.Provider
import GpuCounters.Dump.Location
import GpuCounters.Dump.Writer
import GpuCounters.Summary.Aggregator
import GpuCounters.Telemetry

/-!
# The engine's state

A session holds the live driver, the open dump and what was summed up. Around it are the parties
it depends on, the disk, the entry points that were found, and what was counted, logged and done.
-/

namespace GpuCounters

open Storage

/-- A live driver and what it was connected for. -/
structure Active (P : Driver.Provider) where
  mode : Mode
  metricSet : String
  connection : P.Connection

structure Session (P : Driver.Provider) where
  active? : Option (Active P) := none
  dump? : Option Dump.Writer := none
  /-- Whether it was said since the last close that there is no dump -/
  missingReported : Bool := false
  /-- Failed connections since the last one that did not fail -/
  connectFailures : Nat := 0
  /-- The dumps that this session made -/
  openedDumps : List Path := []
  /-- Whether it was said since the last connection that there is no driver -/
  uninitializedReported : Bool := false
  aggregator : Summary.Aggregator := .empty

/-- What was asked of the driver and of the compute API. -/
inductive Activity
  | connect (request : Driver.Request)
  | disconnect
  | openStream (parameters : Driver.StreamParameters)
  | activate
  | poll
  | reset
  | decode
  | platformQuery (device : Device)
  | resolve (platform : Platform)
  | create (context : Context) (device : Device) (bits : Queue.Bits) (configuration : UInt32)
      (result : Except Status Queue)
  | profilingQuery (event : Event)

/-- A session and all that is around it. -/
structure System (P : Driver.Provider) (C : Compute) where
  driver : P.State
  compute : C.State
  disk : Disk
  /-- Where the directory of dumps is -/
  dumpRoot : Path
  /-- The name of the process, after which its dumps' directory is named -/
  process : String
  session : Session P := {}
  /-- The entry points that were looked for, and found or not -/
  entryPoints : List (Platform × Option C.EntryPoint) := []
  telemetry : Telemetry := {}
  /-- The log, oldest event first -/
  log : Array Log.Event := #[]
  /-- The calls of libraries, oldest first -/
  calls : Array LibraryCall := #[]
  /-- What was asked of the other parties, oldest first -/
  activities : Array Activity := #[]

/-- Work on a system. -/
abbrev Run (P : Driver.Provider) (C : Compute) := StateM (System P C)

namespace System

variable {P : Driver.Provider} {C : Compute}

/-- The system with a note taken down. -/
def take (system : System P C) : Note → System P C
  | .call call => { system with calls := system.calls.push call }
  | .log event => { system with log := system.log.push event }

def dumpPath? (system : System P C) : Option Path := system.session.dump?.map (·.path)

def mode? (system : System P C) : Option Mode := system.session.active?.map (·.mode)

def dumpFile (system : System P C) (metricSet : String) : Path :=
  Dump.file (Dump.directory system.dumpRoot system.process) metricSet

end System

namespace Run

variable {P : Driver.Provider} {C : Compute} {α : Type}

def log (event : Log.Event) : Run P C Unit :=
  modify fun system ↦ system.take (.log event)

/-- Remember what was asked of another party. -/
def note (activity : Activity) : Run P C Unit :=
  modify fun system ↦ { system with activities := system.activities.push activity }

def count (change : Telemetry → Telemetry) : Run P C Unit :=
  modify fun system ↦ { system with telemetry := change system.telemetry }

def modifySession (change : Session P → Session P) : Run P C Unit :=
  modify fun system ↦ { system with session := change system.session }

def session : Run P C (Session P) := do return (← get).session

def askDriver (ask : P.State → Exchange P.State α) : Run P C α :=
  modifyGet fun system ↦
    let exchange := ask system.driver
    (exchange.result, exchange.notes.foldl System.take { system with driver := exchange.state })

def askCompute (ask : C.State → Exchange C.State α) : Run P C α :=
  modifyGet fun system ↦
    let exchange := ask system.compute
    (exchange.result, exchange.notes.foldl System.take { system with compute := exchange.state })

def onDisk (act : Disk → α × Disk) : Run P C α :=
  modifyGet fun system ↦
    let (result, disk) := act system.disk
    (result, { system with disk })

/-- Do something with the live driver. Without one nothing is done, and the first time since the
last connection this is logged. -/
def withDriver (act : Active P → Run P C α) : Run P C (Option α) := do
  let session ← session
  match session.active? with
  | some active => return some (← act active)
  | none =>
    if !session.uninitializedReported then
      modifySession fun session ↦ { session with uninitializedReported := true }
      log .uninitialized
    return none

end Run

end GpuCounters
