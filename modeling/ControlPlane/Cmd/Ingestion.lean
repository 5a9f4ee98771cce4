import ControlPlane.Api.Servers
import ControlPlane.Cmd.Lifecycle
import ControlPlane.Effect.Layers
import ControlPlane.Ingestion.Kafka.Partitioner
import ControlPlane.Ingestion.Publishing

/-! The life of the ingestion process (`cmd/ingestion/main.go`): `run` and the goroutines that it
starts, with `Close` and the reloader of the publisher. The requests publish through the Kafka
client while the process is being shut down. -/
namespace ControlPlane.Cmd.Ingestion
open Go Effect Effect.Program Effect.Protocol Effect.Interleaving
open Api (Transport)
open ControlPlane.Ingestion (PublishCall publish sampleEvent)
open ControlPlane.Ingestion.Kafka (TenantPartitionConfig)

instance : Fintype Transport := ⟨{.rest,.grpc},by rintro (_ | _) <;> decide⟩

/-- The calls of the handlers and of the reloader. -/
inductive Work where
  | publish (op : PublishCall)
  | load
  | countReloadError
  | updateReservations (reserved : TenantPartitionConfig)

def Work.Reply : Work → Type
  | .publish op => op.Reply
  | .load => Except Error TenantPartitionConfig
  | .countReloadError => Unit
  | .updateReservations _ => Unit

def Work.usesClient : Work → Bool
  | .publish (.publish _ _) => true
  | _ => false

theorem Work.answerable (work : Work) : Nonempty work.Reply := by
  cases work with
  | publish op =>
    cases op <;>
      first | exact ⟨()⟩ | exact ⟨true⟩ | exact ⟨none⟩ | exact ⟨(true,true)⟩ | exact ⟨Corebreaker.State.closed⟩
  | load => exact ⟨.error (.new "no such file or directory")⟩
  | countReloadError => exact ⟨()⟩
  | updateReservations reserved => exact ⟨()⟩

def app : App Transport where
  Work := Work
  Reply := Work.Reply
  usesClient := Work.usesClient
  usesPool := fun _ => false
  blocks := fun _ => false
  answers := fun _ _ _ => True
  total := fun _ work _ => ⟨work.answerable.some,trivial⟩
  handlers := true
  closedErr
    | .rest => .new "http: Server closed"
    | .grpc => .new "grpc: the server has been stopped"
  startFormat
    | .rest => "ingestion HTTP server: %w"
    | .grpc => "ingestion gRPC server: %w"
  shutdownFormat
    | .rest => "shutdown ingestion HTTP server: %w"
    | .grpc => "shutdown ingestion gRPC server: %w"

/-- `reloadOnce` of the publisher's reloader. -/
def reloadOnce (_ : Unit) : Program Work.Reply Unit := do
  let loaded : Except Error TenantPartitionConfig ← perform Work.load
  match loaded with
  | .error _ => perform Work.countReloadError
  | .ok reserved => perform (Work.updateReservations reserved)

/-- What a handler does with an event that it accepts. -/
def handle (event : Ingestion.Event) : Program Work.Reply Unit := do
  let _ : Option Error ← (publish false event).interpret fun op => perform (Work.publish op)
  return ()

/-- The cases of the last `switch`. -/
def result : Option Error → List Error → Option Error → Option Error → Outcome
  | some startErr,_,_,_ => .returned (some startErr)
  | none,err::shutdownErr,_,_ => .joined (err::shutdownErr)
  | none,[],some httpErr,_ => .returned (some httpErr)
  | none,[],none,some grpcErr => .returned (some grpcErr)
  | none,[],none,none => .returned none

def startServers : Routine app Unit := do
  request (.go (.server .rest))
  request (.go (.server .grpc))

def drainServers : Routine app Unit := do
  request (.addDrains 2)
  request (.go (.drainer .rest))
  request (.go (.drainer .grpc))
  request .drainWait

def collect (hotReload : Bool) : Routine app Outcome := do
  let httpErr : Option Error ← request (.recvErr .rest)
  let grpcErr : Option Error ← request (.recvErr .grpc)
  let startErr : Option Error ← request .startErr
  let shutdownErr : List Error ← request .shutdownErr
  request .cancelRun
  closeRoutine hotReload
  return result startErr shutdownErr httpErr grpcErr

/-- `run`, once everything is constructed. -/
def serve (hotReload : Bool) : Routine app Outcome := do
  startServers
  request .runDone
  -- this reading of `startErr` only chooses what is logged
  let _ : Option Error ← request .startErr
  drainServers
  collect hotReload

def run (hotReload : Bool) : Routine app Outcome :=
  constructing "resolve API key config: %w" (pure ()) <|
  constructing "resolve rate limit config: %w" (pure ()) <|
  constructing "resolve kafka config: %w" (pure ()) <|
  creatingClient hotReload "create kafka publisher: %w" (pure ()) <|
  constructing "resolve circuit breaker config: %w" (closeRoutine hotReload) <|
  constructing "create publish circuit breaker: %w" (closeRoutine hotReload) <|
  constructing "resolve backpressure config: %w" (closeRoutine hotReload) <|
  constructing "create publish backpressure limiter: %w" (closeRoutine hotReload) <|
  constructing "create ingestion metrics: %w" (closeRoutine hotReload) <|
  constructing "create instrumented publisher: %w" (closeRoutine hotReload) <|
  constructing "create ingestion HTTP server: %w" (closeRoutine hotReload) <|
  constructing "create ingestion gRPC server: %w" (closeRoutine hotReload) <|
  serve hotReload

/-- All goroutines of the process; the reloader polls a number of times, and each request to one of
the servers brings an event. -/
def goroutines (hotReload : Bool) (ticks : Nat) (requests : Request Transport → Ingestion.Event) :
    Goroutine Transport → Routine app Outcome
  | .main => run hotReload
  | .server server => serverRoutine server
  | .drainer server => drainRoutine server
  | .reload => reloadRoutine reloadOnce ticks ()
  | .handler request => handlerRoutine request (handle (requests request))

section obeying
variable {hotReload : Bool}

/-- How `run` ends: before any server was started, or with what the servers and their drainers left
behind. -/
def Final (phase : MainPhase app) (outcome : Outcome) : Prop := phase.Done ∧
  ((∀ server, phase.server server = .absent) ∧ (∃ err, outcome = .returned (some err)) ∨
    (∀ server, ∃ err, phase.server server = .reported err) ∧ ∃ start failures, phase.start = some start ∧
      phase.failures = some failures ∧ outcome = result start failures none none)

def opened (hotReload : Bool) : MainPhase app :=
  {MainPhase.initial with
    client := .opened
    reload := if hotReload then .running else .absent}

/-- A server's own error is never what `run` returns: it has been recorded before. -/
theorem result_recorded {startErr httpErr grpcErr : Option Error} (shutdownErr : List Error)
    (http : httpErr.isSome → startErr.isSome) (grpc : grpcErr.isSome → startErr.isSome) :
    result startErr shutdownErr httpErr grpcErr = result startErr shutdownErr none none := by
  cases startErr with
  | some err => rfl
  | none =>
    cases httpErr with
    | some err => cases http rfl
    | none =>
      cases grpcErr with
      | some err => cases grpc rfl
      | none => rfl

/-- Both servers run, and none was shut down yet. -/
structure Serving (hotReload : Bool) (phase : MainPhase app) : Prop where
  client : phase.client = .opened
  pool : phase.pool = .absent
  reload : phase.reload = if hotReload then .running else .absent
  servers : ∀ server, phase.server server = .running
  draining : phase.draining = false
  early : ∀ server, phase.drained server = false

theorem startServers_obeys : (protocol app .main).Obeys
    (fun after _ => ∃ phase, after = .main phase ∧ Serving hotReload phase) (.main (opened hotReload))
      startServers := by
  refine ⟨⟨rfl,rfl,rfl⟩,fun _ _ => ⟨⟨rfl,rfl,rfl⟩,fun _ _ => ⟨_,rfl,?_⟩⟩⟩
  exact ⟨rfl,rfl,rfl,by rintro (_ | _) <;> rfl,rfl,fun _ => rfl⟩

/-- Both servers were shut down, and have not been heard yet. -/
structure Drained (hotReload : Bool) (phase : MainPhase app) : Prop where
  client : phase.client = .opened
  pool : phase.pool = .absent
  reload : phase.reload = if hotReload then .running else .absent
  servers : ∀ server, phase.server server = .running
  closing : ∀ server, phase.closing server = true
  drained : ∀ server, phase.drained server = true
  waited : phase.waited = true

theorem drainServers_obeys {phase : MainPhase app} (serving : Serving hotReload phase) :
    (protocol app .main).Obeys (fun after _ => ∃ phase, after = .main phase ∧ Drained hotReload phase) (.main phase)
      drainServers := by
  refine ⟨⟨serving.draining,serving.early,rfl⟩,fun _ _ => ⟨rfl,fun _ _ => ⟨rfl,fun _ _ => ⟨⟨rfl,?_⟩,?_⟩⟩⟩⟩
  · rintro (_ | _) <;> rfl
  · intro _ _
    exact ⟨_,rfl,serving.client,serving.pool,serving.reload,serving.servers,fun _ => rfl,fun _ => rfl,rfl⟩

theorem collect_obeys {phase : MainPhase app} (drained : Drained hotReload phase) :
    (protocol app .main).Obeys (Ends Final .main) (.main phase) (collect hotReload) := by
  have heard (server : Transport) := And.intro (drained.servers server) (drained.closing server)
  refine ⟨heard .rest,fun httpErr _ => ⟨heard .grpc,fun grpcErr _ => ?_⟩⟩
  apply startErr_late (by rintro (_ | _) <;> nofun)
  intro startErr recorded
  refine ⟨drained.waited,fun shutdownErr _ => ⟨trivial,fun _ _ => ?_⟩⟩
  let reports := Function.update (Function.update phase.server .rest (.reported httpErr)) .grpc (.reported grpcErr)
  have closes : (protocol app .main).Obeys _ (.main
      {phase with
        server := reports
        start := some startErr
        failures := some shutdownErr}) (closeRoutine hotReload) :=
    closeRoutine_obeys drained.client drained.reload fun server => Or.inr (drained.drained server)
  apply closes.sequence
  rintro _ _ rfl
  have reported : ∀ server, ∃ err, reports server = .reported err := by
    rintro (_ | _)
    · exact ⟨httpErr,rfl⟩
    · exact ⟨grpcErr,rfl⟩
  refine ⟨⟨nofun,by simp [Phase.toMain,drained.pool],?_,fun server => Or.inr ⟨reported server,drained.drained server⟩⟩,
    Or.inr ⟨reported,startErr,shutdownErr,rfl,rfl,?_⟩⟩
  · cases hotReload <;> simp [Phase.toMain]
  · apply result_recorded
    · intro failed
      obtain ⟨failure,rfl⟩ := Option.isSome_iff_exists.mp failed
      exact recorded .rest failure rfl
    · intro failed
      obtain ⟨failure,rfl⟩ := Option.isSome_iff_exists.mp failed
      exact recorded .grpc failure rfl

theorem serve_obeys : (protocol app .main).Obeys (Ends Final .main) (.main (opened hotReload)) (serve hotReload) := by
  apply startServers_obeys.sequence
  rintro _ _ ⟨phase,rfl,serving⟩
  refine ⟨trivial,fun _ _ => ?_⟩
  apply startErr_early (serving.servers .rest)
  intro _
  apply (drainServers_obeys serving).sequence
  rintro _ _ ⟨phase,rfl,drained⟩
  exact collect_obeys drained

theorem opened_cleans : Cleans app (Ends Final .main) (.main (opened hotReload)) (closeRoutine hotReload) := by
  have closes : (protocol app .main).Obeys _ (.main (opened hotReload)) (closeRoutine hotReload) :=
    closeRoutine_obeys rfl rfl fun _ => Or.inl rfl
  apply closes.mono
  rintro _ _ rfl err
  refine ⟨⟨nofun,nofun,?_,fun _ => Or.inl rfl⟩,Or.inl ⟨fun _ => rfl,err,rfl⟩⟩
  cases hotReload <;> simp [Phase.toMain]

theorem initial_cleans : Cleans app (Ends Final .main) (.main .initial) (pure ()) :=
  fun err => ⟨⟨nofun,nofun,Or.inl rfl,fun _ => Or.inl rfl⟩,Or.inl ⟨fun _ => rfl,err,rfl⟩⟩

theorem run_obeys : (protocol app .main).Obeys (Ends Final .main) (.main .initial) (run hotReload) := by
  iterate 3 apply constructing_obeys initial_cleans
  refine creatingClient_obeys rfl initial_cleans ?_
  change (protocol app .main).Obeys _ (.main (opened hotReload)) _
  iterate 8 apply constructing_obeys opened_cleans
  exact serve_obeys

theorem reloadOnce_reloads (kept : Unit) : app.Reloads (reloadOnce kept) := by
  refine ⟨⟨rfl,rfl⟩,fun loaded => ?_⟩
  cases loaded with
  | error err => exact ⟨⟨rfl,rfl⟩,fun _ => trivial⟩
  | ok reserved => exact ⟨⟨rfl,rfl⟩,fun _ => trivial⟩

theorem goroutines_obey (ticks : Nat) (requests : Request Transport → Ingestion.Event) (routine : Goroutine Transport) :
    (protocol app routine).Obeys (Ends Final routine) (idle routine) (goroutines hotReload ticks requests routine) := by
  cases routine with
  | main => exact run_obeys
  | server server => exact serverRoutine_obeys server
  | drainer server => exact drainRoutine_obeys server
  | reload => exact reloadRoutine_obeys reloadOnce_reloads ticks ()
  | handler request =>
    apply handlerRoutine_obeys request rfl
    generalize handle (requests request) = program
    induction program with
    | done value => exact trivial
    | call op next ih => exact ⟨rfl,ih⟩

end obeying

/-- What the value of `run` says of the servers. -/
inductive Concluded (world : World Transport) : Outcome → Prop
  | failed {server : Transport} {cause err : Error} (exit : world.exit server = some cause)
      (failure : verdict app server cause = some err) : Concluded world (.returned (some err))
  | undrained {errs : List Error}
      (closed : ∀ server, ∃ cause, world.exit server = some cause ∧ verdict app server cause = none)
      (some' : errs ≠ []) (all : ∀ err, err ∈ errs ↔
        ∃ server cause, world.drained server = some (some cause) ∧ err = shutdownFailure app server cause) :
      Concluded world (.joined errs)
  | clean (closed : ∀ server, ∃ cause, world.exit server = some cause ∧ verdict app server cause = none)
      (drained : ∀ server, world.drained server = some none) : Concluded world (.returned none)

section sample

abbrev Execution (hotReload : Bool) (ticks : Nat) (requests : Request Transport → Ingestion.Event)
    (history : List (Event (Goroutine Transport) (Call.Reply app) Outcome))
    (system : System (World Transport) (Goroutine Transport) (Call.Reply app) Outcome) : Prop :=
  Run (Answers app) Signalled (goroutines hotReload ticks requests) (.initial .initial) history system

abbrev SampleExecution := Execution true 1 fun _ => sampleEvent

/-- `run`, after its context is cancelled. -/
abbrev shutDown : Routine app Outcome := do
  let _ : Option Error ← request .startErr
  drainServers
  collect true

def sampleServing : World Transport :=
  {World.initial with
    client := .opened
    started := Function.update (Function.update (Function.update (fun _ => false) .reload true) (.server .rest) true)
      (.server .grpc) true}

theorem sample_starts :
    ∃ calls, Advances (Answers app) .initial (run true) calls sampleServing (.call .runDone fun _ => shutDown) :=
  ⟨_,.call (.construct _ none) <| .call (.construct _ none) <| .call (.construct _ none) <| .call (.newClient _ _) <|
    .call (.construct _ none) <| .call (.construct _ none) <| .call (.construct _ none) <| .call (.construct _ none) <|
    .call (.construct _ none) <| .call (.construct _ none) <| .call (.construct _ none) <| .call (.construct _ none) <|
    .call (.go _ _) <| .call (.go _ _) <| .start _ _⟩

/-- The REST server has accepted a request. -/
def sampleAccepted : World Transport :=
  {sampleServing with inFlight := Function.update (fun _ => false) (.rest,0) true}

/-- A request that publishes after the client was closed. -/
theorem sample_request : ∃ accepting held,
    Advances (Answers app) sampleServing (handlerRoutine (.rest,0) (handle sampleEvent)) accepting sampleAccepted held ∧
    ∀ world : World Transport, world.client = .closed → ∃ publishing after,
      Advances (Answers app) world held publishing after (.done .ended) ∧
      after.misused (.handler (.rest,0)) = true := by
  refine ⟨_,_,.call (.accept _ _ rfl nofun) (.start _ _),fun world closed => ?_⟩
  refine ⟨_,_,.call (.work _ _ _ true trivial) <| .call (.work _ _ _ (true,false) trivial) <|
    .call (.work _ _ _ (some (.new "client closed") : Option Error) trivial) <| .call (.work _ _ _ () trivial) <|
    .call (.work _ _ _ () trivial) <| .call (.work _ _ _ () trivial) <|
    .call (.work _ _ _ Corebreaker.State.closed trivial) <| .call (.work _ _ _ () trivial) <| .call (.respond _ _) <|
    .start _ _,?_⟩
  simp [World.misuse,app,Work.usesClient,closed]

def sampleDraining : World Transport :=
  {sampleAccepted with
    cancelled := true
    drains := 2
    started := Function.update (Function.update sampleAccepted.started (.drainer .rest) true) (.drainer .grpc) true}

theorem sample_drains : ∃ calls, Advances (Answers app) {sampleAccepted with cancelled := true}
    (.call .runDone fun _ => shutDown) calls sampleDraining (.call .drainWait fun _ => collect true) :=
  ⟨_,.call (.runDone _ rfl) <| .call (.startErr _) <| .call (.addDrains _ _) <| .call (.go _ _) <| .call (.go _ _) <|
    .start _ _⟩

def deadline : Error := .new "context deadline exceeded"

/-- The drain of the REST server was given up. -/
def sampleGivenUp : World Transport := drainedBy app sampleDraining .rest (some deadline)

def sampleDrained : World Transport := drainedBy app sampleGivenUp .grpc none

def sampleOutcome : Outcome := .joined [shutdownFailure app .rest deadline]

/-- The servers are started, a request and then a signal come, and the servers are told to drain. -/
theorem sample_draining {held : Routine app Outcome} {accepting : List (Σ call : Call app, call.Reply)}
    (accepts : Advances (Answers app) sampleServing (handlerRoutine (.rest,0) (handle sampleEvent)) accepting
      sampleAccepted held) : ∃ history system, SampleExecution history system ∧ system.shared = sampleDraining ∧
      system.threads .main = .running (.call .drainWait fun _ => collect true) ∧
      system.threads (.handler (.rest,0)) = .running held ∧
      ∀ routine, routine ≠ .main → routine ≠ .handler (.rest,0) → system.threads routine = .waiting := by
  have begun : SampleExecution [] (.initial .initial) := .start
  obtain ⟨_,starts⟩ := sample_starts
  obtain ⟨_,drains⟩ := sample_drains
  obtain ⟨_,run,shared,main,others⟩ := begun.invoke .main rfl
  obtain ⟨_,run,shared,main,others1⟩ := run.advances .main starts shared main
  obtain ⟨_,run,shared2,handler,others2⟩ := run.invoke (.handler (.rest,0)) (by simp [others1,others,System.initial])
  obtain ⟨_,run,shared,handler,others3⟩ := run.advances (.handler (.rest,0)) accepts (shared2.trans shared) handler
  have signalled := run.step (.outside _ {sampleAccepted with cancelled := true} (by rw [shared]; rfl))
  obtain ⟨system,run,shared,main,others4⟩ := signalled.advances .main drains rfl (by simp [others3,others2,main])
  refine ⟨_,system,run,shared,main,by simp [others4,handler],fun routine other apart => ?_⟩
  simp [others4,others3,others2,others1,others,other,apart,System.initial]

end sample

/-- The process never hangs: until main has returned, one of its goroutines goes on, requests
apart, or main waits for a signal or a server that fails. -/
theorem ingestion_goes_on (hotReload : Bool) (ticks : Nat) (requests : Request Transport → Ingestion.Event)
    {history : List (Event (Goroutine Transport) (Call.Reply app) Outcome)}
    {system : System (World Transport) (Goroutine Transport) (Call.Reply app) Outcome}
    (run : Run (Answers app) Signalled (goroutines hotReload ticks requests) (.initial .initial) history system) :
    (∃ outcome, system.threads .main = .returned outcome) ∨ Waiting app system ∨
      ∃ routine event next, (∀ request, routine ≠ .handler request) ∧
        Ready (Due app) system.shared (system.threads routine) ∧
        Step (Answers app) Signalled (goroutines hotReload ticks requests) system event next :=
  goes_on (run_reached (goroutines_obey ticks requests) run) _

/-- While the servers drain and a request is in flight, main waits for the drainers, which go on. -/
theorem sample_ingestion_goes_on : ∃ history system, SampleExecution history system ∧ system.shared = sampleDraining ∧
    (∃ rest, system.threads .main = .running (.call .drainWait rest)) ∧
    ∃ routine event next, (∀ request, routine ≠ .handler request) ∧
      Ready (Due app) system.shared (system.threads routine) ∧
      Step (Answers app) Signalled (goroutines true 1 fun _ => sampleEvent) system event next := by
  obtain ⟨_,_,accepts,_⟩ := sample_request
  obtain ⟨history,system,run,shared,main,_⟩ := sample_draining accepts
  refine ⟨history,system,run,shared,⟨_,main⟩,?_⟩
  rcases ingestion_goes_on true 1 _ run with ⟨_,returned⟩ | ⟨waiting,_⟩ | goesOn
  · cases main.symm.trans returned
  · rw [shared] at waiting
    cases waiting
  · exact goesOn

end ControlPlane.Cmd.Ingestion
