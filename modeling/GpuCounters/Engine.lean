import GpuCounters.Queue.Factory
import GpuCounters.Session.EventSampling
import GpuCounters.Session.StreamSampling
import GpuCounters.Settings.Basic

/-!
# Engines

An engine runs one session by its settings. It starts the session when a queue is to be created,
samples completed work by the sampling mode of its settings, and has a summary in the end.
-/

namespace GpuCounters.Engine

variable {P : Driver.Provider} {C : Compute}

def start (settings : Settings) : Run P C (Except Session.Error Unit) :=
  Session.ensureInitialized settings.request

/-- Start the session before a queue is created. A failure is left to the creation to report. -/
def prepareQueue (settings : Settings) : Run P C Unit := do
  match ← start settings with
  | .ok () => pure ()
  | .error cause => Run.log (.sessionNotStarted cause)

def createQueue (settings : Settings) (context : Context) (device : Device) (bits : Queue.Bits) :
    Run P C (Except Queue.Error CounterQueue) := do
  prepareQueue settings
  Queue.create context device bits

def createQueueWithProperties (settings : Settings) (context : Context) (device : Device)
    (properties : Option (List UInt64)) : Run P C (Except Queue.Error CounterQueue) := do
  prepareQueue settings
  Queue.createWithProperties context device properties

/-- Sample a completed piece of work: its event, or whatever the stream has. -/
def completeWork (settings : Settings) (operation : String) (event : Event) : Run P C Unit := do
  match settings.sampling with
  | .event => let _ ← Session.sampleEvent operation event
  | .time => let _ ← Session.drainStream

/-- The summary, if the settings want one and there is anything to sum up. -/
def report? (settings : Settings) : Run P C (Option String) := do
  return settings.summary? (← Run.session).aggregator

def finalDrain : Run P C Unit := do
  if (← get).mode? = some .time then
    let drained ← Session.drainStream
    Run.log (.finalDrain drained)

def shutdown (settings : Settings) : Run P C (Option String) := do
  finalDrain
  let dump? := (← get).dumpPath?
  Session.close
  match dump? with
  | some path => Run.log (.dumpComplete path)
  | none => pure ()
  report? settings

end GpuCounters.Engine
