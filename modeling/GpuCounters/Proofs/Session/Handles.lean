import GpuCounters.Proofs.Session.Tracking

/-!
# Handles of sessions

Between requests to a session, the handle that is held is that of its live driver. A request uses
this handle, opens one where none is held, or closes it.
-/

namespace GpuCounters

open Driver GpuCounters.Run GpuCounters.System

variable {refusal : String → Option String} {library : Library} {C : Compute} {α β : Type}

namespace System

variable {held? : Option Nat} {before between after : System (loaded refusal library.tracked) C}

/-- Whether the handle that is held is that of the live driver. -/
def Settled (system : System (loaded refusal library.tracked) C) : Prop :=
  Follows none system.uses system.handle?

theorem Settled.holdsOnly (h : Settled before) : HoldsOnly before.handle? before where
  follows := h
  live active hactive := by rw [handle?, Option.mem_def.1 hactive, Option.map_some]

theorem Calls.handle? (h : Calls held? before after) : after.handle? = before.handle? :=
  congrArg (Option.map Active.handle) h.active

/-- Whether a system is reached by an episode. -/
def Passes (connects gives : Bool) (before after : System (loaded refusal library.tracked) C) :
    Prop :=
  ∃ uses, after.uses = before.uses ++ uses ∧
    Episode connects gives before.handle? uses after.handle?

variable {connects gives : Bool}

theorem Settled.of_passes (hbefore : Settled before) (h : Passes connects gives before after) :
    Settled after := by
  obtain ⟨uses, huses, hepisode⟩ := h
  rw [Settled, huses]
  exact Follows.trans hbefore hepisode.follows

theorem Passes.of_calls (h : Calls before.handle? before after) :
    Passes connects false before after := by
  obtain ⟨uses, huses, hcalls⟩ := h.uses
  refine ⟨uses, huses, ?_⟩
  rw [h.handle?]
  exact .calls (by simp) hcalls

theorem Passes.calls_append (h : Calls before.handle? before between)
    (hmore : Passes connects gives between after) : Passes connects gives before after := by
  obtain ⟨uses, huses, hcalls⟩ := h.uses
  obtain ⟨more, hafter, hepisode⟩ := hmore
  refine ⟨uses ++ more, by rw [hafter, huses, List.append_assoc], ?_⟩
  rw [h.handle?] at hepisode
  exact hepisode.of_calls hcalls

theorem Passes.append_calls (h : Passes connects gives before between)
    (hmore : Calls between.handle? between after) : Passes connects gives before after := by
  obtain ⟨uses, huses, hepisode⟩ := h
  obtain ⟨more, hafter, hcalls⟩ := hmore.uses
  refine ⟨uses ++ more, by rw [hafter, huses, List.append_assoc], ?_⟩
  rw [hmore.handle?]
  exact hepisode.append_calls hcalls

end System

/-! ## Requests -/

/-- Whether a request comes to the same with and without tracking, and is an episode. -/
def Turns (connects gives : Bool) (run : Run (loaded refusal library.tracked) C α)
    (plain : Run (loaded refusal library) C α) : Prop :=
  Mirrors Settled (fun _ ↦ Passes connects gives) run plain

section Turns

variable {connects gives : Bool} {run : Run (loaded refusal library.tracked) C α}
  {plain : Run (loaded refusal library) C α}
  {next : α → Run (loaded refusal library.tracked) C β}
  {plainNext : α → Run (loaded refusal library) C β}

theorem Quiet.turns (h : ∀ held?, Quiet held? run plain) : Turns connects false run plain := by
  intro system hsettled
  obtain ⟨hplain, hcalls⟩ := h system.handle? system hsettled.holdsOnly
  exact ⟨hplain, .of_calls hcalls⟩

theorem Turns.bind (h : Turns connects gives run plain)
    (hnext : ∀ value held?, Quiet held? (next value) (plainNext value)) :
    Turns connects gives (run >>= next) (plain >>= plainNext) := by
  refine Mirrors.bind h fun before hsettled value between hpasses ↦ ?_
  have hholds := (hsettled.of_passes hpasses).holdsOnly
  obtain ⟨hplain, hcalls⟩ := hnext value between.handle? between hholds
  exact ⟨hplain, hpasses.append_calls hcalls⟩

theorem Turns.bind_get {next : System (loaded refusal library.tracked) C →
      Run (loaded refusal library.tracked) C α}
    {plainNext : System (loaded refusal library) C → Run (loaded refusal library) C α}
    (hnext : ∀ system, Turns connects gives (next system) (plainNext system.untracked)) :
    Turns connects gives (get >>= next) (get >>= plainNext) :=
  fun system hsettled ↦ hnext system system hsettled

theorem Quiet.bind_turns (h : ∀ held?, Quiet held? run plain)
    (hnext : ∀ value, Turns connects gives (next value) (plainNext value)) :
    Turns connects gives (run >>= next) (plain >>= plainNext) := by
  intro system hsettled
  obtain ⟨hplain, hcalls⟩ := h system.handle? system hsettled.holdsOnly
  have hbetween : Passes connects false system (run system).2 := .of_calls hcalls
  obtain ⟨hplainNext, hpasses⟩ :=
    hnext (run system).1 (run system).2 (hsettled.of_passes hbetween)
  rw [bind_apply, bind_apply, hplain]
  exact ⟨hplainNext, .calls_append hcalls hpasses⟩

end Turns

namespace Session

/-! ## Starting -/

/-- Whether no handle is held and no driver is live. -/
def Free (system : System (loaded refusal library.tracked) C) : Prop :=
  Settled system ∧ system.session.active? = none

/-- Whether a system in which nothing was held or live was connected, or not. -/
def Connected (result : Except Driver.Error Loaded.Connection)
    (before after : System (loaded refusal library.tracked) C) : Prop :=
  Follows none before.uses none ∧ after.session.active? = none ∧
    ∃ uses, after.uses = before.uses ++ uses ∧ Episode true false none uses (heldAfter? result)

section Connected

variable {result : Except Driver.Error Loaded.Connection}
  {before between after : System (loaded refusal library.tracked) C}

theorem Connected.holdsOnly (h : Connected result before after) :
    HoldsOnly (heldAfter? result) after where
  follows := by
    obtain ⟨hbefore, -, uses, huses, hepisode⟩ := h
    rw [huses]
    exact hbefore.trans hepisode.follows
  live active hactive := by
    rw [h.2.1] at hactive
    cases hactive

theorem Connected.append_calls (h : Connected result before between)
    (hmore : Calls (heldAfter? result) between after) : Connected result before after := by
  obtain ⟨hbefore, hactive, uses, huses, hepisode⟩ := h
  obtain ⟨more, hafter, hcalls⟩ := hmore.uses
  exact ⟨hbefore, hmore.active.trans hactive, uses ++ more,
    by rw [hafter, huses, List.append_assoc], hepisode.append_calls hcalls⟩

end Connected

theorem mirrors_askDriver_connect (request : Request)
    (before : System (loaded refusal library.tracked) C) :
    Mirrors
      (fun noted ↦ Free before ∧ noted.session.active? = before.session.active? ∧
        noted.uses = before.uses)
      (fun result _ asked ↦ Connected result before asked)
      (askDriver ((loaded refusal library.tracked).connect request) :
        Run (loaded refusal library.tracked) C (Except Driver.Error Loaded.Connection))
      (askDriver ((loaded refusal library).connect request)) := by
  rintro noted ⟨⟨hsettled, hactive⟩, hsame, hnoted⟩
  have hnone : Follows none before.uses none := by
    rwa [Settled, handle?, hactive] at hsettled
  have hnoneNoted : Follows none noted.uses none := hnoted ▸ hnone
  obtain ⟨hplain, uses, huses, hepisode⟩ :=
    @connect_tracked refusal library noted.driver hnoneNoted request
  have hidle : Idle noted (askDriver ((loaded refusal library.tracked).connect request)
    noted).2 := idle_askDriver _ noted
  have hdriver := driver_askDriver ((loaded refusal library.tracked).connect request) noted
  refine ⟨askDriver_untracked hplain, hnone, hidle.active.trans (hsame.trans hactive), uses, ?_,
    hepisode⟩
  rw [← hnoted]
  exact (congrArg Tracked.uses hdriver).trans huses

/-- Whatever is said of a result on the way, it is the answer. -/
theorem mirrors_said {result : Except Driver.Error Loaded.Connection}
    {said : Run (loaded refusal library.tracked) C Unit}
    {plainSaid : Run (loaded refusal library) C Unit}
    (h : Quiet (heldAfter? result) said plainSaid)
    (before : System (loaded refusal library.tracked) C) :
    Mirrors (Connected result before) (fun answer _ after ↦ Connected answer before after)
      (do said; return result) (do plainSaid; return result) := by
  intro between hbetween
  obtain ⟨hplain, hcalls⟩ := h between hbetween.holdsOnly
  rw [bind_apply, bind_apply, hplain]
  exact ⟨rfl, hbetween.append_calls hcalls⟩

theorem mirrors_connect (request : Request) :
    Mirrors Free (fun result ↦ Connected result)
      (connect request : Run (loaded refusal library.tracked) C
        (Except Driver.Error Loaded.Connection))
      (connect request) := by
  have hnote : Mirrors Free (fun _ before noted ↦ Free before ∧
        noted.session.active? = before.session.active? ∧ noted.uses = before.uses)
      (note (.connect request) : Run (loaded refusal library.tracked) C Unit)
      (note (.connect request)) :=
    fun _ hfree ↦ ⟨rfl, hfree, rfl, rfl⟩
  unfold connect
  refine Mirrors.bind hnote fun before _ _ ↦
    Mirrors.bind (mirrors_askDriver_connect request before) fun noted _ result ↦ ?_
  cases result with
  | ok connection => exact mirrors_said (Quiet.log _) before
  | error cause =>
    have hfailed : Quiet (heldAfter? (.error cause))
        (do
          let failures := (← Run.session).connectFailures
          Run.log (if failures = 0 then .connectFailed cause else .stillUnavailable cause)
          modifySession fun session ↦
            { session with connectFailures := session.connectFailures + 1 } :
          Run (loaded refusal library.tracked) C Unit)
        (do
          let failures := (← Run.session).connectFailures
          Run.log (if failures = 0 then .connectFailed cause else .stillUnavailable cause)
          modifySession fun session ↦
            { session with connectFailures := session.connectFailures + 1 }) :=
      Quiet.bind_session fun _ ↦ Quiet.bind (Quiet.log _) fun _ ↦
        Quiet.modifySession (fun _ ↦ rfl) fun _ ↦ rfl
    exact mirrors_said hfailed before

/-- Whether a handle has become that of the live driver, and was only used since. -/
def GoesLive (handle : Nat) (before after : System (loaded refusal library.tracked) C) : Prop :=
  after.handle? = some handle ∧ ∃ calls, after.uses = before.uses ++ calls ∧
    ∀ use ∈ calls, use.IsCall (some handle)

/-- Quiet work in front of going live belongs to it. -/
theorem bind_goesLive {handle : Nat} {run : Run (loaded refusal library.tracked) C α}
    {plain : Run (loaded refusal library) C α}
    {next : α → Run (loaded refusal library.tracked) C β}
    {plainNext : α → Run (loaded refusal library) C β} (h : Quiet (some handle) run plain)
    (hnext : ∀ value, Mirrors (HoldsOnly (some handle)) (fun _ ↦ GoesLive handle) (next value)
      (plainNext value)) :
    Mirrors (HoldsOnly (some handle)) (fun _ ↦ GoesLive handle) (run >>= next)
      (plain >>= plainNext) := by
  refine Mirrors.bind h fun before hholds value ↦ (hnext value).mono
    (fun _ hcalls ↦ hholds.of_calls hcalls) fun _ between after hcalls hlive ↦ ?_
  obtain ⟨calls, hbetween, hall⟩ := hcalls.uses
  obtain ⟨hhandle, more, hafter, hmore⟩ := hlive
  exact ⟨hhandle, calls ++ more, by rw [hafter, hbetween, List.append_assoc],
    List.forall_mem_append.2 ⟨hall, hmore⟩⟩

theorem mirrors_goLive (request : Request) (connection : Loaded.Connection) :
    Mirrors (HoldsOnly (some connection.handle)) (fun _ ↦ GoesLive connection.handle)
      (goLive (P := loaded refusal library.tracked) (C := C) request connection)
      (goLive (P := loaded refusal library) request connection) := by
  have hlive : Mirrors (HoldsOnly (some connection.handle)) (fun _ ↦ GoesLive connection.handle)
      (do
        modifySession (activated (P := loaded refusal library.tracked) request connection)
        return .ok () : Run (loaded refusal library.tracked) C (Except Error Unit))
      (do
        modifySession (activated (P := loaded refusal library) request connection)
        return .ok ()) :=
    fun _ _ ↦ ⟨rfl, rfl, [], (List.append_nil _).symm, by simp⟩
  intro system hholds
  unfold goLive
  rw [bind_apply, bind_apply, session_apply, session_apply]
  rw [session_untracked, dump?_untracked]
  dsimp only
  split
  · exact bind_goesLive (quiet_openDump _ _ connection) (fun _ ↦ hlive) system hholds
  · exact hlive system hholds

theorem mirrors_start (request : Request) :
    Mirrors Free (fun _ ↦ Passes true false)
      (start request : Run (loaded refusal library.tracked) C (Except Error Unit))
      (start request) := by
  have hlive (connection : Loaded.Connection) :
      Mirrors (HoldsOnly (some connection.handle)) (fun _ ↦ GoesLive connection.handle)
        (if request.mode = .time then
          openStream (P := loaded refusal library.tracked) (C := C) connection >>= fun _ ↦
            goLive (P := loaded refusal library.tracked) request connection
        else goLive (P := loaded refusal library.tracked) request connection)
        (if request.mode = .time then
          openStream (P := loaded refusal library) (C := C) connection >>= fun _ ↦
            goLive (P := loaded refusal library) request connection
        else goLive (P := loaded refusal library) request connection) := by
    split
    · exact bind_goesLive (quiet_openStream rfl) fun _ ↦ mirrors_goLive request connection
    · exact mirrors_goLive request connection
  unfold start
  refine Mirrors.bind (mirrors_connect request) fun before hfree result ↦ ?_
  have hhandle : before.handle? = none := by rw [handle?, hfree.2, Option.map_none]
  cases result with
  | error cause =>
    rintro between ⟨-, hactive, uses, huses, hepisode⟩
    have hafter : between.handle? = none := by rw [handle?, hactive, Option.map_none]
    have hpasses : Episode true false before.handle? uses between.handle? := by
      rw [hhandle, hafter]
      exact hepisode
    exact ⟨rfl, uses, huses, hpasses⟩
  | ok connection =>
    refine (hlive connection).mono (fun _ hconnected ↦ hconnected.holdsOnly)
      fun _ between after hconnected hgoes ↦ ?_
    obtain ⟨-, -, uses, huses, hepisode⟩ := hconnected
    obtain ⟨hafter, calls, hcalls, hall⟩ := hgoes
    refine ⟨uses ++ calls, by rw [hcalls, huses, List.append_assoc], ?_⟩
    rw [hhandle, hafter]
    exact hepisode.append_calls hall

theorem turns_ensureInitialized (request : Request) :
    Turns true false
      (ensureInitialized request : Run (loaded refusal library.tracked) C (Except Error Unit))
      (ensureInitialized request) := by
  intro system hsettled
  rw [ensureInitialized, ensureInitialized, bind_apply, bind_apply, session_apply, session_apply,
    session_untracked, active?_untracked]
  cases hactive : system.session.active? with
  | none => exact mirrors_start request system ⟨hsettled, hactive⟩
  | some active =>
    have hset : active.untracked.metricSet = active.metricSet := rfl
    have hpure (result : Except Error Unit) : Turns true false
        (pure result : Run (loaded refusal library.tracked) C (Except Error Unit)) (pure result) :=
      Quiet.turns fun _ ↦ Quiet.pure result
    rw [Option.map_some]
    dsimp only
    rw [Active.mode_untracked, hset]
    split
    · exact hpure _ system hsettled
    · exact hpure _ system hsettled

/-! ## Closing -/

theorem turns_disconnect :
    Turns false true (disconnect : Run (loaded refusal library.tracked) C Unit) disconnect := by
  intro system hsettled
  rw [disconnect, disconnect, bind_apply, bind_apply, session_apply, session_apply,
    session_untracked, active?_untracked]
  cases hactive : system.session.active? with
  | none =>
    have hhandle : system.handle? = none := by rw [handle?, hactive, Option.map_none]
    exact ⟨rfl, [], (List.append_nil _).symm, .calls (fun _ ↦ hhandle) (by simp)⟩
  | some active =>
    have hhandle : system.handle? = some active.handle := by
      rw [handle?, hactive, Option.map_some]
    have hgiven : Episode false true system.handle? ([] ++ [.closed active.handle]) none := by
      rw [hhandle]
      exact .givenUp rfl (by simp)
    exact ⟨rfl, _, rfl, hgiven⟩

theorem turns_close :
    Turns false true (Session.close : Run (loaded refusal library.tracked) C Unit)
      Session.close :=
  Quiet.bind_turns (fun _ ↦ quiet_closeDump) fun _ ↦ Turns.bind turns_disconnect fun _ _ ↦
    Quiet.modifySession (fun _ ↦ rfl) fun _ ↦ rfl

theorem turns_drop :
    Turns false true (drop : Run (loaded refusal library.tracked) C Unit) drop := by
  refine Turns.bind turns_disconnect fun _ _ ↦ Quiet.bind_session fun session ↦ ?_
  rw [dump?_untracked]
  cases session.dump? with
  | none => exact Quiet.pure _
  | some writer =>
    exact Quiet.bind (Quiet.modifySession (fun _ ↦ rfl) fun _ ↦ rfl) fun _ ↦ Quiet.onDisk _

end Session

end GpuCounters
