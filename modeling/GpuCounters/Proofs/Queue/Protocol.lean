import GpuCounters.Proofs.Host.Operations
import GpuCounters.Proofs.Session.Activities

/-!
# The protocol of queue creation

A queue is created in steps: the platform of the device, the entry point of the platform, a live
session, the activation of its metric set, and the call itself. The first step that fails ends the
creation, and nothing behind it is asked. An entry point is looked for once for each platform in
the whole run, and what was found is known from then on, also if it was nothing.
-/

namespace GpuCounters

variable {P : Driver.Provider} {C : Compute}

namespace Queue

open GpuCounters.System GpuCounters.Run

/-! ## Steps -/

/-- What looking for an entry point comes to. -/
structure Lookup (C : Compute) where
  point? : Option C.EntryPoint
  asked : List Activity
  entryPoints : List (Platform × Option C.EntryPoint)
  compute : C.State

/-- The entry point of a platform, which is asked for only if it is not known. -/
def lookUp (platform : Platform) (known : List (Platform × Option C.EntryPoint))
    (compute : C.State) : Lookup C :=
  match known.lookup platform with
  | some point? => ⟨point?, [], known, compute⟩
  | none =>
    let found := C.resolve platform extensionName compute
    ⟨found.result, [.resolve platform], known ++ [(platform, found.result)], found.state⟩

/-- What a creation comes to. -/
structure Outcome (P : Driver.Provider) (C : Compute) where
  result : Except Error CounterQueue
  asked : List Activity
  entryPoints : List (Platform × Option C.EntryPoint)
  driver : P.State
  compute : C.State

/-- What a call of the extension comes to. -/
def resultOf (configuration : UInt32) : Except Status Queue → Except Error CounterQueue
  | .ok handle => .ok ⟨handle, configuration⟩
  | .error status => .error (.driver status)

/-- Whether the platform of a device is known, and what looking for its entry point comes to. -/
def LooksUp (device : Device) (before : System P C) (platform : Platform) (found : Lookup C) :
    Prop :=
  (C.devicePlatform device before.compute).result = .ok platform ∧
    lookUp platform before.entryPoints (C.devicePlatform device before.compute).state = found

/-- The outcomes that a creation may come to, one for each step that can fail and one for the
call. -/
inductive Protocol (context : Context) (device : Device) (bits : Bits) (before : System P C) :
    Outcome P C → Prop
  /-- Without a platform nothing is looked for. -/
  | unknownPlatform (status : Status)
      (answer : (C.devicePlatform device before.compute).result = .error status) :
      Protocol context device bits before
        { result := .error (.platformQuery device status)
          asked := [.platformQuery device]
          entryPoints := before.entryPoints
          driver := before.driver
          compute := (C.devicePlatform device before.compute).state }
  /-- Without an entry point nothing is activated. -/
  | missing (platform : Platform) (found : Lookup C)
      (looks : LooksUp device before platform found)
      (lacks : found.point? = none) :
      Protocol context device bits before
        { result := .error (.entryPointMissing platform)
          asked := .platformQuery device :: found.asked
          entryPoints := found.entryPoints
          driver := before.driver
          compute := found.compute }
  /-- Without a live session nothing is activated either. -/
  | uninitialized (platform : Platform) (found : Lookup C) (entry : C.EntryPoint)
      (looks : LooksUp device before platform found)
      (has : found.point? = some entry)
      (idle : before.session.active? = none) :
      Protocol context device bits before
        { result := .error .uninitialized
          asked := .platformQuery device :: found.asked
          entryPoints := found.entryPoints
          driver := before.driver
          compute := found.compute }
  /-- Without an activation nothing is called. -/
  | notActivated (platform : Platform) (found : Lookup C) (entry : C.EntryPoint)
      (active : Active P) (cause : Driver.Error)
      (looks : LooksUp device before platform found)
      (has : found.point? = some entry)
      (live : before.session.active? = some active)
      (answer : (P.activate active.connection before.driver).result = .error cause) :
      Protocol context device bits before
        { result := .error (.activationFailed cause)
          asked := .platformQuery device :: found.asked ++ [.activate]
          entryPoints := found.entryPoints
          driver := (P.activate active.connection before.driver).state
          compute := found.compute }
  /-- The call is made with what was given, for the metric set that was just made current. -/
  | called (platform : Platform) (found : Lookup C) (entry : C.EntryPoint)
      (active : Active P) (configuration : UInt32) (made : Exchange C.State (Except Status Queue))
      (looks : LooksUp device before platform found)
      (has : found.point? = some entry)
      (live : before.session.active? = some active)
      (answer : (P.activate active.connection before.driver).result = .ok ())
      (current : P.configuration active.connection
        (P.activate active.connection before.driver).state = configuration)
      (call : C.create entry context device bits configuration found.compute = made) :
      Protocol context device bits before
        { result := resultOf configuration made.result
          asked := .platformQuery device :: found.asked ++
            [.activate, .create context device bits configuration made.result]
          entryPoints := found.entryPoints
          driver := (P.activate active.connection before.driver).state
          compute := made.state }

/-- Whether what was found is all that has changed, apart from the log and the calls of
libraries. -/
def Lookup.Leaves (found : Lookup C) (before after : System P C) : Prop :=
  ∃ activities log calls, after =
    { before with
      compute := found.compute
      entryPoints := found.entryPoints
      activities, log, calls }

/-- Whether an outcome is all that has changed, apart from the log, the calls of libraries, and
whether it was said that there is no driver. -/
def Outcome.Leaves (outcome : Outcome P C) (before after : System P C) : Prop :=
  Asks outcome.asked before after ∧ ∃ uninitializedReported activities log calls, after =
    { before with
      driver := outcome.driver
      compute := outcome.compute
      session := { before.session with uninitializedReported }
      entryPoints := outcome.entryPoints
      telemetry := countOutcome before.telemetry outcome.result
      activities, log, calls }

section Steps

variable {system : System P C}

theorem platformOf_apply (device : Device) (system : System P C) :
    ∃ log calls, platformOf device system =
      ((C.devicePlatform device system.compute).result,
        { system with
          compute := (C.devicePlatform device system.compute).state
          activities := system.activities.push (.platformQuery device)
          log, calls }) :=
  askCompute_apply (C.devicePlatform device) (note (.platformQuery device) system).2

theorem resolve_apply (platform : Platform) (system : System P C) :
    ∃ log calls, resolve platform system =
      ((lookUp platform system.entryPoints system.compute).point?,
        { system with
          compute := (lookUp platform system.entryPoints system.compute).compute
          entryPoints := (lookUp platform system.entryPoints system.compute).entryPoints
          activities := system.activities ++
            (lookUp platform system.entryPoints system.compute).asked.toArray
          log, calls }) := by
  rw [resolve, bind_apply, get_apply, lookUp]
  cases hknown : system.entryPoints.lookup platform with
  | some point? =>
    refine ⟨system.log, system.calls, ?_⟩
    dsimp only
    rw [pure_apply, Array.append_empty]
  | none =>
    obtain ⟨log, calls, hask⟩ := askCompute_apply (C.resolve platform extensionName)
      (note (.resolve platform) system).2
    refine ⟨log, calls, ?_⟩
    dsimp only
    rw [bind_apply, bind_apply, hask]
    simp
    rfl

/-- Without a live session nothing is asked. -/
theorem activateLive_of_none (hactive : system.session.active? = none) :
    ∃ uninitializedReported log, activateLive system =
      (.error .uninitialized,
        { system with session := { system.session with uninitializedReported }, log }) := by
  rw [activateLive, bind_apply, withDriver, bind_apply, session_apply, hactive]
  dsimp only
  by_cases hreported : (!system.session.uninitializedReported) = true
  · rw [if_pos hreported]
    exact ⟨true, _, rfl⟩
  · rw [if_neg hreported]
    exact ⟨system.session.uninitializedReported, _, rfl⟩

/-- With a live session its metric set is made current, or the driver says why not. -/
theorem activateLive_of_some {active : Active P}
    (hactive : system.session.active? = some active) :
    ∃ log calls, activateLive system =
      (match (P.activate active.connection system.driver).result with
        | .error cause => .error (.activationFailed cause)
        | .ok () => .ok (P.configuration active.connection
            (P.activate active.connection system.driver).state),
        { system with
          driver := (P.activate active.connection system.driver).state
          activities := system.activities.push .activate
          log, calls }) := by
  obtain ⟨log, calls, hask⟩ :=
    askDriver_apply (P.activate active.connection) (note .activate system).2
  have hdriver : (note .activate system).2.driver = system.driver := rfl
  rw [hdriver] at hask
  rw [activateLive, bind_apply, withDriver_of_active hactive, activate, bind_apply, bind_apply,
    hask]
  cases (P.activate active.connection system.driver).result with
  | error cause => exact ⟨log.push (.notActivated (.activationFailed cause)), calls, rfl⟩
  | ok _ => exact ⟨log, calls, rfl⟩

theorem call_apply (entry : C.EntryPoint) (context : Context) (device : Device) (bits : Bits)
    (configuration : UInt32) (system : System P C) :
    ∃ log calls, call entry context device bits configuration system =
      (resultOf configuration
          (C.create entry context device bits configuration system.compute).result,
        { system with
          compute := (C.create entry context device bits configuration system.compute).state
          activities := system.activities.push (.create context device bits configuration
            (C.create entry context device bits configuration system.compute).result)
          log, calls }) := by
  obtain ⟨log, calls, hask⟩ := askCompute_apply
    (C.create entry context device bits configuration) (Run.log (.creating configuration) system).2
  have hcompute : (Run.log (.creating configuration) system).2.compute = system.compute := rfl
  rw [hcompute] at hask
  rw [call, bind_apply, bind_apply, hask, bind_apply]
  cases (C.create entry context device bits configuration system.compute).result with
  | error status => exact ⟨log.push (.creationFailed status), calls, rfl⟩
  | ok handle => exact ⟨log.push .created, calls, rfl⟩

theorem createOn_of_missing {platform : Platform} {resolved : System P C}
    (hresolve : resolve platform system = (none, resolved)) (context : Context) (device : Device)
    (bits : Bits) :
    createOn platform context device bits system =
      (.error (.entryPointMissing platform),
        resolved.take (.log (.entryPointMissing platform))) := by
  rw [createOn, bind_apply, hresolve]
  rfl

theorem createOn_of_error {platform : Platform} {resolved after : System P C}
    {entry : C.EntryPoint} {cause : Error}
    (hresolve : resolve platform system = (some entry, resolved))
    (hactivate : activateLive resolved = (.error cause, after)) (context : Context)
    (device : Device) (bits : Bits) :
    createOn platform context device bits system = (.error cause, after) := by
  rw [createOn, bind_apply, hresolve]
  dsimp only
  rw [bind_apply, hactivate]
  rfl

theorem createOn_of_ok {platform : Platform} {resolved after : System P C} {entry : C.EntryPoint}
    {configuration : UInt32} (hresolve : resolve platform system = (some entry, resolved))
    (hactivate : activateLive resolved = (.ok configuration, after)) (context : Context)
    (device : Device) (bits : Bits) :
    createOn platform context device bits system =
      call entry context device bits configuration after := by
  rw [createOn, bind_apply, hresolve]
  dsimp only
  rw [bind_apply, hactivate]

/-- A creation whose platform is known looks for the entry point, goes on from there and counts
what it comes to. -/
theorem create_of_looksUp {device : Device} {platform : Platform} {found : Lookup C}
    (hlooks : LooksUp device system platform found) (context : Context) (bits : Bits) :
    ∃ asked resolved, resolve platform asked = (found.point?, resolved) ∧
      Asks (.platformQuery device :: found.asked) system resolved ∧
      found.Leaves system resolved ∧
      create context device bits system =
        ((createOn platform context device bits asked).1,
          (count (fun counts ↦ countOutcome counts
            (createOn platform context device bits asked).1)
            (createOn platform context device bits asked).2).2) := by
  obtain ⟨hanswer, hfound⟩ := hlooks
  obtain ⟨log, calls, hplatform⟩ := platformOf_apply device system
  rw [hanswer] at hplatform
  let asked : System P C :=
    { system with
      compute := (C.devicePlatform device system.compute).state
      activities := system.activities.push (.platformQuery device)
      log, calls }
  obtain ⟨log, calls, hresolve⟩ := resolve_apply platform asked
  have hlook : lookUp platform asked.entryPoints asked.compute = found := hfound
  rw [hlook] at hresolve
  refine ⟨asked, _, hresolve, ?_, ⟨asked.activities ++ found.asked.toArray, log, calls, rfl⟩, ?_⟩
  · simp [Asks, asked]
  · rw [create, bind_apply, hplatform]
    rfl

end Steps

/-! ## Creations -/

/-- Whether a creation has one of the outcomes of the protocol, which is all that it leaves
behind. -/
def Follows (context : Context) (device : Device) (bits : Bits) (system : System P C) : Prop :=
  ∃ outcome, Protocol context device bits system outcome ∧
    (create context device bits system).1 = outcome.result ∧
    outcome.Leaves system (create context device bits system).2

section Follows

variable {context : Context} {device : Device} {bits : Bits} {system : System P C}
  {platform : Platform} {found : Lookup C} {entry : C.EntryPoint}

theorem follows_of_unknown {status : Status}
    (hanswer : (C.devicePlatform device system.compute).result = .error status) :
    Follows context device bits system := by
  obtain ⟨log, calls, hplatform⟩ := platformOf_apply device system
  rw [hanswer] at hplatform
  rw [Follows, create, bind_apply, hplatform]
  exact ⟨_, .unknownPlatform status hanswer, rfl, Array.toList_push,
    system.session.uninitializedReported, _, log, calls, rfl⟩

theorem follows_of_missing (hlooks : LooksUp device system platform found)
    (hentry : found.point? = none) : Follows context device bits system := by
  obtain ⟨asked, resolved, hresolve, hasks, hleaves, hcreate⟩ :=
    create_of_looksUp hlooks context bits
  obtain ⟨activities, log, calls, rfl⟩ := hleaves
  rw [hentry] at hresolve
  rw [Follows, hcreate, createOn_of_missing hresolve context device bits]
  exact ⟨_, .missing platform found hlooks hentry, rfl, hasks,
    system.session.uninitializedReported, activities, _, calls, rfl⟩

theorem follows_of_idle (hlooks : LooksUp device system platform found)
    (hentry : found.point? = some entry) (hidle : system.session.active? = none) :
    Follows context device bits system := by
  obtain ⟨asked, resolved, hresolve, hasks, hleaves, hcreate⟩ :=
    create_of_looksUp hlooks context bits
  have hnone : resolved.session.active? = none := by
    obtain ⟨activities, log, calls, rfl⟩ := hleaves
    exact hidle
  obtain ⟨uninitializedReported, log, hactivate⟩ := activateLive_of_none hnone
  obtain ⟨activities, logged, calls, rfl⟩ := hleaves
  rw [hentry] at hresolve
  rw [Follows, hcreate, createOn_of_error hresolve hactivate context device bits]
  exact ⟨_, .uninitialized platform found entry hlooks hentry hidle, rfl, hasks,
    uninitializedReported, activities, log, calls, rfl⟩

/-- With a live session the creation ends with the activation, or with the call. -/
theorem follows_of_live {active : Active P} (hlooks : LooksUp device system platform found)
    (hentry : found.point? = some entry) (hlive : system.session.active? = some active) :
    Follows context device bits system := by
  obtain ⟨asked, resolved, hresolve, hasks, hleaves, hcreate⟩ :=
    create_of_looksUp hlooks context bits
  have hsome : resolved.session.active? = some active := by
    obtain ⟨activities, log, calls, rfl⟩ := hleaves
    exact hlive
  obtain ⟨log, calls, hactivate⟩ := activateLive_of_some hsome
  obtain ⟨activities, former, made, rfl⟩ := hleaves
  let activated : System P C :=
    { system with
      driver := (P.activate active.connection system.driver).state
      compute := found.compute
      entryPoints := found.entryPoints
      activities := activities.push .activate
      log, calls }
  have hactivated : Asks (.platformQuery device :: found.asked ++ [.activate]) system activated :=
    hasks.trans Array.toList_push
  rw [hentry] at hresolve
  dsimp only at hactivate
  rw [Follows, hcreate]
  cases hanswer : (P.activate active.connection system.driver).result with
  | error cause =>
    rw [hanswer] at hactivate
    rw [createOn_of_error hresolve hactivate context device bits]
    exact ⟨_, .notActivated platform found entry active cause hlooks hentry hlive hanswer, rfl,
      hactivated, system.session.uninitializedReported, _, log, calls, rfl⟩
  | ok _ =>
    rw [hanswer] at hactivate
    let configuration :=
      P.configuration active.connection (P.activate active.connection system.driver).state
    obtain ⟨log, calls, hcall⟩ := call_apply entry context device bits configuration activated
    have hcalled := hactivated.trans (asks_note (.create context device bits configuration
      (C.create entry context device bits configuration found.compute).result) activated)
    rw [List.append_assoc] at hcalled
    rw [createOn_of_ok hresolve hactivate context device bits, hcall]
    exact ⟨_, .called platform found entry active configuration _ hlooks hentry hlive hanswer rfl
      rfl, rfl, hcalled, system.session.uninitializedReported, _, log, calls, rfl⟩

end Follows

/-- Every creation follows the protocol. -/
theorem create_follows (context : Context) (device : Device) (bits : Bits) (system : System P C) :
    Follows context device bits system := by
  cases hanswer : (C.devicePlatform device system.compute).result with
  | error status => exact follows_of_unknown hanswer
  | ok platform =>
    let found := lookUp platform system.entryPoints (C.devicePlatform device system.compute).state
    have hlooks : LooksUp device system platform found := ⟨hanswer, rfl⟩
    cases hentry : found.point? with
    | none => exact follows_of_missing hlooks hentry
    | some entry =>
      cases hlive : system.session.active? with
      | none => exact follows_of_idle hlooks hentry hlive
      | some active => exact follows_of_live hlooks hentry hlive

end Queue

/-! ## Entry points of a run -/

/-- The platform whose entry point was looked for. -/
def Activity.resolved? : Activity → Option Platform
  | .resolve platform => some platform
  | _ => none

/-- The concern for queues alone. -/
def ofQueues (concern : Concern) : Bool := concern = .queues

namespace System

/-- Whether the entry points that are known are those that were asked for, each once. -/
structure Resolves (system : System P C) : Prop where
  line : system.activities.toList.filterMap Activity.resolved? = system.entryPoints.map Prod.fst
  nodup : (system.entryPoints.map Prod.fst).Nodup

/-- Whether what is known of entry points stays known. -/
structure Remembers (before after : System P C) : Prop where
  known : before.entryPoints <+: after.entryPoints
  resolves : before.Resolves → after.Resolves

instance : IsPreorder (System P C) Remembers where
  refl _ := ⟨List.prefix_refl _, id⟩
  trans _ _ _ h hlast :=
    ⟨h.known.trans hlast.known, fun hfirst ↦ hlast.resolves (h.resolves hfirst)⟩

section Remembers

variable {before after : System P C}

/-- Work that asks nothing about queues leaves the entry points alone. -/
theorem remembers_of_spares (h : Spares ofQueues before after) : Remembers before after := by
  have hentryPoints : after.entryPoints = before.entryPoints := h.entryPoints rfl
  have hother : ∀ activity : Activity, ofQueues activity.concern = false →
      activity.resolved? = none := by
    intro activity hactivity
    cases activity <;> first | rfl | cases hactivity
  constructor
  · exact hentryPoints ▸ List.prefix_refl before.entryPoints
  · intro hbefore
    refine ⟨?_, hentryPoints ▸ hbefore.nodup⟩
    rw [← filterMap_asked hother, h.asked, filterMap_asked hother, hbefore.line, hentryPoints]

theorem remembers_of_sameLife (h : SameLife ofQueues before after) : Remembers before after :=
  remembers_of_spares h.toSpares

end Remembers

end System

namespace Queue

open GpuCounters.System GpuCounters.Run

/-- Whether exactly what was asked for is learned, and nothing that was known. -/
def Learns (known : List (Platform × Option C.EntryPoint)) (asked : List Activity)
    (later : List (Platform × Option C.EntryPoint)) : Prop :=
  ∃ learned, later = known ++ learned ∧
    asked.filterMap Activity.resolved? = learned.map Prod.fst ∧
    ((known.map Prod.fst).Nodup → (later.map Prod.fst).Nodup)

theorem learns_nothing (known : List (Platform × Option C.EntryPoint)) {asked : List Activity}
    (h : asked.filterMap Activity.resolved? = []) : Learns known asked known :=
  ⟨[], (List.append_nil known).symm, h, id⟩

theorem lookUp_learns (platform : Platform) (known : List (Platform × Option C.EntryPoint))
    (compute : C.State) :
    Learns known (lookUp platform known compute).asked
      (lookUp platform known compute).entryPoints := by
  rw [lookUp]
  cases hknown : known.lookup platform with
  | some point? => exact learns_nothing known rfl
  | none =>
    refine ⟨_, rfl, rfl, fun hnodup ↦ ?_⟩
    have hnew : platform ∉ known.map Prod.fst := by
      intro hmem
      obtain ⟨entry, hentry, rfl⟩ := List.mem_map.1 hmem
      exact absurd (List.lookup_eq_none_iff.1 hknown entry hentry) (by simp)
    rw [List.map_append, List.map_singleton]
    exact hnodup.append (List.nodup_singleton platform) (by simpa using hnew)

/-- The other steps of a creation learn nothing. -/
theorem Protocol.learns {context : Context} {device : Device} {bits : Bits} {before : System P C}
    {outcome : Outcome P C} (h : Protocol context device bits before outcome) :
    Learns before.entryPoints outcome.asked outcome.entryPoints := by
  have hlooks : ∀ {platform : Platform} {found : Lookup C},
      LooksUp device before platform found → ∀ rest : List Activity,
        rest.filterMap Activity.resolved? = [] →
          Learns before.entryPoints (.platformQuery device :: found.asked ++ rest)
            found.entryPoints := by
    intro platform found hlooks rest hrest
    obtain ⟨-, rfl⟩ := hlooks
    obtain ⟨learned, hlater, hasked, hnodup⟩ := lookUp_learns platform before.entryPoints
      (C.devicePlatform device before.compute).state
    refine ⟨learned, hlater, ?_, hnodup⟩
    rw [List.cons_append, List.filterMap_cons, List.filterMap_append, hrest, hasked,
      List.append_nil]
    rfl
  cases h with
  | unknownPlatform status answer => exact learns_nothing before.entryPoints rfl
  | missing platform found looks lacks =>
    have hlearns := hlooks looks [] rfl
    rwa [List.append_nil] at hlearns
  | uninitialized platform found entry looks has idle =>
    have hlearns := hlooks looks [] rfl
    rwa [List.append_nil] at hlearns
  | notActivated platform found entry active cause looks has live answer =>
    exact hlooks looks [.activate] rfl
  | called platform found entry active configuration made looks has live answer current call =>
    exact hlooks looks _ rfl

theorem remembers_create (context : Context) (device : Device) (bits : Bits) :
    Keeps Remembers (create context device bits :
      Run P C (Except Error CounterQueue)) := by
  intro system
  obtain ⟨outcome, hprotocol, -, hasks, hleaves⟩ := create_follows context device bits system
  obtain ⟨learned, hlater, hasked, hnodup⟩ := hprotocol.learns
  have hentryPoints : (create context device bits system).2.entryPoints = outcome.entryPoints := by
    obtain ⟨uninitializedReported, activities, log, calls, hafter⟩ := hleaves
    rw [hafter]
  constructor
  · rw [hentryPoints, hlater]
    exact List.prefix_append _ _
  · intro hbefore
    refine ⟨?_, ?_⟩
    · rw [hasks, hentryPoints, List.filterMap_append, hbefore.line, hasked, hlater,
        List.map_append]
    · rw [hentryPoints]
      exact hnodup hbefore.nodup

theorem remembers_createWithProperties (context : Context) (device : Device)
    (properties : Option (List UInt64)) :
    Keeps Remembers (createWithProperties context device properties :
      Run P C (Except Error CounterQueue)) := by
  unfold createWithProperties
  cases bitsOf properties with
  | error refusal =>
    exact fun system ↦ remembers_of_sameLife (sameLife_of_eq rfl rfl rfl rfl)
  | ok bits => exact remembers_create context device bits

end Queue

/-! ## Runs -/

namespace Host

open GpuCounters.System GpuCounters.Run

/-- Whatever is asked for, what is known of entry points stays known. -/
theorem keepsParts_remembers (settings : Settings) :
    KeepsParts settings (Remembers (P := P) (C := C)) where
  start := (Session.spares_ensureInitialized rfl _).mono fun _ _ ↦ remembers_of_spares
  ensureInitialized request :=
    (Session.spares_ensureInitialized rfl request).mono fun _ _ ↦ remembers_of_spares
  write label report := (Session.sameLife_write label report).mono fun _ _ ↦ remembers_of_sameLife
  create := Queue.remembers_create
  createWithProperties := Queue.remembers_createWithProperties
  sample operation event :=
    (Session.sameLife_sampleEvent rfl operation event).mono fun _ _ ↦ remembers_of_sameLife
  drain := (Session.sameLife_drainStream rfl).mono fun _ _ ↦ remembers_of_sameLife
  close := (Session.spares_close rfl).mono fun _ _ ↦ remembers_of_spares
  log event := (sameLife_log event).mono fun _ _ ↦ remembers_of_sameLife
  outside _ _ _ := remembers_of_sameLife (sameLife_of_eq rfl rfl rfl rfl)

/-- The induction is on the operations. -/
theorem remembers_runAll (settings : Settings) (ops : List (Op P C)) (system : System P C) :
    Remembers system (runAll settings ops system) := by
  induction ops generalizing system with
  | nil => exact refl_of Remembers system
  | cons op ops ih =>
    exact trans_of Remembers ((keepsParts_remembers settings).ask op system) (ih _)

/-- What is known is found, however much is learned later. -/
theorem lookup_of_remembers {before after : System P C} (h : Remembers before after)
    {platform : Platform} {point? : Option C.EntryPoint}
    (hknown : before.entryPoints.lookup platform = some point?) :
    after.entryPoints.lookup platform = some point? := by
  obtain ⟨learned, hlearned⟩ := h.known
  rw [← hlearned, List.lookup_append, hknown, Option.some_or]

/-- A platform that is known to have no entry point is not asked again. -/
theorem create_of_known_none {system : System P C} {platform : Platform} {device : Device}
    (hknown : system.entryPoints.lookup platform = some none)
    (hanswer : (C.devicePlatform device system.compute).result = .ok platform) (context : Context)
    (bits : Queue.Bits) :
    (Queue.create context device bits system).1 = .error (.entryPointMissing platform) ∧
      Asks [.platformQuery device] system (Queue.create context device bits system).2 := by
  obtain ⟨outcome, hprotocol, hresult, hasks, -⟩ := Queue.create_follows context device bits system
  have hfound : ∀ {other : Platform} {found : Queue.Lookup C},
      Queue.LooksUp device system other found →
        platform = other ∧ found.point? = none ∧ found.asked = [] := by
    rintro other found ⟨hother, rfl⟩
    obtain rfl : platform = other := Except.ok.inj (hanswer.symm.trans hother)
    rw [Queue.lookUp, hknown]
    exact ⟨rfl, rfl, rfl⟩
  rw [hresult]
  cases hprotocol with
  | unknownPlatform status answer =>
    rw [hanswer] at answer
    cases answer
  | missing other found looks lacks =>
    obtain ⟨rfl, -, hasked⟩ := hfound looks
    rw [hasked] at hasks
    exact ⟨rfl, hasks⟩
  | uninitialized other found entry looks has idle =>
    rw [(hfound looks).2.1] at has
    cases has
  | notActivated other found entry active cause looks has live answer =>
    rw [(hfound looks).2.1] at has
    cases has
  | called other found entry active configuration made looks has live answer current call =>
    rw [(hfound looks).2.1] at has
    cases has

/-- In every run queues are created by the protocol, a property list that is rejected asks nobody,
an entry point is looked for at most once for each platform, and what was found stays known, also
if it was nothing. -/
theorem creations_runAll {system : System P C} (hentryPoints : system.entryPoints = [])
    (hactivities : system.activities = #[]) (settings : Settings) (ops more : List (Op P C)) :
    let now := runAll settings ops system
    let later := runAll settings (ops ++ more) system
    (∀ context device bits, Queue.Follows context device bits now) ∧
      (∀ context device properties,
        Queue.createWithProperties context device properties now =
          match Queue.bitsOf properties with
          | .ok bits => Queue.create context device bits now
          | .error refusal =>
            (.error (.rejected refusal),
              { now.take (.log (.propertiesRejected refusal)) with
                telemetry := { now.telemetry with rejected := now.telemetry.rejected + 1 } })) ∧
      (now.activities.toList.filterMap Activity.resolved?).Nodup ∧
      (∀ platform ∈ now.activities.toList.filterMap Activity.resolved?, ∃ point?,
        now.entryPoints.lookup platform = some point? ∧
          later.entryPoints.lookup platform = some point?) ∧
      ∀ context device bits platform, now.entryPoints.lookup platform = some none →
        (C.devicePlatform device later.compute).result = .ok platform →
          (Queue.create context device bits later).1 = .error (.entryPointMissing platform) ∧
            Asks [.platformQuery device] later (Queue.create context device bits later).2 := by
  intro now later
  have hfresh : system.Resolves := by
    constructor
    · rw [hentryPoints, hactivities]
      rfl
    · rw [hentryPoints]
      exact List.nodup_nil
  have hresolves : now.Resolves := (remembers_runAll settings ops system).resolves hfresh
  have hremembers : Remembers now later := by
    show Remembers now (runAll settings (ops ++ more) system)
    rw [runAll_append]
    exact remembers_runAll settings more now
  refine ⟨fun context device bits ↦ Queue.create_follows context device bits now, ?_, ?_, ?_, ?_⟩
  · intro context device properties
    rw [Queue.createWithProperties]
    cases Queue.bitsOf properties <;> rfl
  · rw [hresolves.line]
    exact hresolves.nodup
  · intro platform hplatform
    rw [hresolves.line] at hplatform
    obtain ⟨point?, hknown⟩ : ∃ point?, now.entryPoints.lookup platform = some point? := by
      apply Option.ne_none_iff_exists'.1
      intro hnone
      obtain ⟨entry, hentry, rfl⟩ := List.mem_map.1 hplatform
      exact absurd (List.lookup_eq_none_iff.1 hnone entry hentry) (by simp)
    exact ⟨point?, hknown, lookup_of_remembers hremembers hknown⟩
  · intro context device bits platform hknown hanswer
    exact create_of_known_none (lookup_of_remembers hremembers hknown) hanswer context bits

instance : DecidableEq Compute.simulated.EntryPoint := inferInstanceAs (DecidableEq Unit)

/-- Two devices on two platforms, of which the first has the extension. -/
def twoPlatforms : Compute.simulated.State where
  devices := [(⟨1⟩, ⟨10⟩), (⟨2⟩, ⟨20⟩)]
  platforms := [⟨10⟩]

/-- Creations that fail at each step but the activation and the call, and one that succeeds. -/
def queueOps : List (Op (Driver.scripted (some Engine.kernelScript)) Compute.simulated) :=
  [.session (.outside id fun _ ↦ twoPlatforms), .createQueue ⟨1⟩ ⟨3⟩ 0, .createQueue ⟨1⟩ ⟨1⟩ 0,
    .createQueue ⟨1⟩ ⟨2⟩ 0, .engine (.createQueue ⟨1⟩ ⟨1⟩ 2), .session (.sample "copy" ⟨1⟩),
    .createQueueWithProperties ⟨1⟩ ⟨1⟩ (some [5]), .createQueueWithProperties ⟨1⟩ ⟨2⟩ none,
    .session .close]

/-- Two platforms are asked once each, in six creations of which one succeeds; and after another
life the second one still has no entry point. -/
theorem creations_runAll_twoPlatforms :
    let system := Session.scripted Engine.kernelScript
    let now := runAll {} queueOps system
    let later := runAll {} (queueOps ++ [.engine (.createQueue ⟨1⟩ ⟨1⟩ 0)]) system
    system.entryPoints = [] ∧ system.activities = #[] ∧
      now.activities.toList.filterMap Activity.resolved? = [⟨10⟩, ⟨20⟩] ∧
      now.telemetry.created = 1 ∧ now.telemetry.unavailable = 4 ∧ now.telemetry.rejected = 1 ∧
      later.telemetry.created = 2 ∧
      (Queue.create ⟨1⟩ ⟨2⟩ 0 later).1 = .error (.entryPointMissing ⟨20⟩) := by
  intro system now later
  have hentryPoints : system.entryPoints = [] := rfl
  have hactivities : system.activities = #[] := rfl
  have hknown : now.entryPoints.lookup ⟨20⟩ = some none := by decide +kernel
  have hanswer : (Compute.simulated.devicePlatform ⟨2⟩ later.compute).result = .ok ⟨20⟩ := by
    decide +kernel
  have hresolved : now.activities.toList.filterMap Activity.resolved? = [⟨10⟩, ⟨20⟩] := by
    decide +kernel
  have hcounts : now.telemetry.created = 1 ∧ now.telemetry.unavailable = 4 ∧
      now.telemetry.rejected = 1 ∧ later.telemetry.created = 2 := by
    decide +kernel
  obtain ⟨hcreated, hunavailable, hrejected, hagain⟩ := hcounts
  obtain ⟨-, -, -, -, hmissing⟩ := creations_runAll hentryPoints hactivities {} queueOps
    [.engine (.createQueue ⟨1⟩ ⟨1⟩ 0)]
  exact ⟨hentryPoints, hactivities, hresolved, hcreated, hunavailable, hrejected, hagain,
    (hmissing ⟨1⟩ ⟨2⟩ 0 ⟨20⟩ hknown hanswer).1⟩

end Host

end GpuCounters
