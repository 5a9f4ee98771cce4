import ControlPlane.Cmd.Lifecycle
import ControlPlane.Effect.Layers
import ControlPlane.Processor.Kafka.Consumer
import ControlPlane.Processor.Kafka.Reload

/-! The life of the processor (`cmd/processor/main.go`): `run` and the goroutines that it starts,
with `Close` and the reloader of the consumer. The consumer runs in the main goroutine; it and the
reloader share the Kafka client. The handlers of the metrics server use neither client nor pool. -/
namespace ControlPlane.Cmd.Processor
open Go Effect Effect.Program Effect.Protocol Effect.Interleaving
open ControlPlane.Processor.Kafka

/-- The calls of the consumer and of the reloader. -/
inductive Work where
  | consume (op : ConsumerCall)
  | load
  | countReloadError
  | client (op : ClientCall)

def Work.Reply : Work → Type
  | .consume op => op.Reply
  | .load => Except Error TenantPartitionMap
  | .countReloadError => Unit
  | .client _ => Unit

def Work.usesClient : Work → Bool
  | .consume (.pollRecords _) => true
  | .consume (.produceSync _) => true
  | .client _ => true
  | _ => false

def Work.usesPool : Work → Bool
  | .consume (.reconcile _) => true
  | _ => false

def Work.blocks : Work → Bool
  | .consume (.pollRecords _) => true
  | _ => false

/-- The context has an error once it is cancelled. -/
def Work.answers (cancelled : Bool) : (work : Work) → work.Reply → Prop
  | .consume .ctxErr,err => (err : Option Error).isSome = cancelled
  | _,_ => True

theorem Work.answerable (cancelled : Bool) (work : Work) : ∃ reply, work.answers cancelled reply := by
  cases work with
  | consume op =>
    cases op with
    | pollRecords maxPollRecords => exact ⟨⟨[],[]⟩,trivial⟩
    | ctxErr =>
      cases cancelled with
      | true => exact ⟨some (.new "context canceled"),rfl⟩
      | false => exact ⟨none,rfl⟩
    | reconcile txn => exact ⟨.ok (),trivial⟩
    | now => exact ⟨⟨0,0⟩,trivial⟩
    | produceSync record => exact ⟨none,trivial⟩
    | observeLag tenantID lag => exact ⟨(),trivial⟩
    | observeActiveConsumers counts => exact ⟨(),trivial⟩
  | load => exact ⟨.error (.new "no such file or directory"),trivial⟩
  | countReloadError => exact ⟨(),trivial⟩
  | client op => exact ⟨(),trivial⟩

/-- The one server is that of the metrics. -/
def app : App Unit where
  Work := Work
  Reply := Work.Reply
  usesClient := Work.usesClient
  usesPool := Work.usesPool
  blocks := Work.blocks
  answers := Work.answers
  total := fun cancelled work _ => work.answerable cancelled
  handlers := false
  closedErr := fun _ => .new "http: Server closed"
  startFormat := fun _ => "processor metrics server: %w"
  shutdownFormat := fun _ => "shutdown processor metrics server: %w"

/-- `reloadOnce` of the consumer's reloader, with the assignment that it changes. -/
def reloadOnce (reloader : TenantPartitionReloader) (assignment : Finset Int32) :
    Program Work.Reply (Finset Int32) := do
  let loaded : Except Error TenantPartitionMap ← perform Work.load
  match loadTarget reloader loaded with
  | .error _ =>
    let _ : Unit ← perform Work.countReloadError
    return assignment
  | .ok target =>
    let (calls,next) := applyAssignment reloader.topic assignment target
    calls.forM fun op => perform (Work.client op)
    return next

/-- The consumer's `Run`, for a number of rounds of its loops. -/
def consume (con : Consumer) (fuel : Nat) : Program Work.Reply (Option (Option Error)) :=
  (con.run fuel).run.interpret fun op => perform (Work.consume op)

/-- The cases of the last `switch`. -/
def result : Option Error → Option Error → Option Error → Option Error → Outcome
  | some startErr,_,_,_ => .returned (some startErr)
  | none,some consumeErr,_,_ => .returned (some (.wrap "processor consumer: %w" [] consumeErr))
  | none,none,some shutdownErr,_ => .returned (some (.wrap "shutdown processor metrics server: %w" [] shutdownErr))
  | none,none,none,some metricsErr => .returned (some metricsErr)
  | none,none,none,none => .returned none

/-- `run`, once the consumer has returned. -/
def shutDown (hotReload : Bool) (consumeErr : Option Error) : Routine app Outcome := do
  request (.beginShutdown ())
  let shutdownErr : Option Error ← request (.endShutdown ())
  let metricsErr : Option Error ← request (.recvErr ())
  let startErr : Option Error ← request .startErr
  request .cancelRun
  closeRoutine hotReload
  request .closePool
  return result startErr consumeErr shutdownErr metricsErr

/-- `run`, once everything is constructed; it is cut where the consumer is. -/
def serve (hotReload : Bool) (con : Consumer) (fuel : Nat) : Routine app Outcome := do
  request (.go (.server ()))
  match ← working .main (consume con fuel) with
  | none => return .cut
  | some consumeErr => shutDown hotReload consumeErr

def run (hotReload : Bool) (con : Consumer) (fuel : Nat) : Routine app Outcome :=
  constructing "resolve postgres pool config: %w" (pure ()) <|
  openingPool "create postgres pool: %w" <|
  constructing "resolve circuit breaker config: %w" (request .closePool) <|
  constructing "create transaction repository circuit breaker: %w" (request .closePool) <|
  constructing "create reconciled state repository circuit breaker: %w" (request .closePool) <|
  constructing "create processor metrics: %w" (request .closePool) <|
  constructing "create instrumented reconciler: %w" (request .closePool) <|
  constructing "resolve kafka config: %w" (request .closePool) <|
  creatingClient hotReload "create kafka consumer: %w" (request .closePool) <|
  serve hotReload con fuel

/-- All goroutines of the process; the reloader polls a number of times. -/
def goroutines (hotReload : Bool) (con : Consumer) (fuel : Nat) (reloader : TenantPartitionReloader) (ticks : Nat)
    (manualPartitions : List Int32) : Goroutine Unit → Routine app Outcome
  | .main => run hotReload con fuel
  | .server server => serverRoutine server
  | .drainer server => drainRoutine server
  | .reload => reloadRoutine (reloadOnce reloader) ticks (newConsumer manualPartitions).assignment
  | .handler _ => .done .ended

section obeying
variable {hotReload : Bool} (con : Consumer) (fuel : Nat)

/-- How `run` ends: before the server was started, or with what the consumer and the server left
behind. -/
def Final (phase : MainPhase app) (outcome : Outcome) : Prop := outcome = .cut ∨ phase.Done ∧
  (phase.server () = .absent ∧ (∃ err, outcome = .returned (some err)) ∨
    (∃ err, phase.server () = .reported err) ∧ ∃ start consumeErr shutdownErr, phase.start = some start ∧
      Trace (consume con fuel) phase.worked (some consumeErr) ∧ phase.shutdown () = some shutdownErr ∧
      outcome = result start consumeErr shutdownErr none)

def pooled : MainPhase app := {MainPhase.initial with pool := .opened}

def opened (hotReload : Bool) : MainPhase app :=
  {pooled with
    client := .opened
    reload := if hotReload then .running else .absent}

def serving (hotReload : Bool) : MainPhase app := {opened hotReload with server := fun _ => .running}

/-- The metrics server's own error is never what `run` returns: it has been recorded before. -/
theorem result_recorded {startErr metricsErr : Option Error} (consumeErr shutdownErr : Option Error)
    (recorded : metricsErr.isSome → startErr.isSome) :
    result startErr consumeErr shutdownErr metricsErr = result startErr consumeErr shutdownErr none := by
  cases startErr with
  | some err => rfl
  | none =>
    cases metricsErr with
    | some err => cases recorded rfl
    | none => rfl

theorem shutDown_obeys {consumeErr : Option Error} {calls : List ((work : Work) × work.Reply)}
    (consumed : Trace (consume con fuel) calls (some consumeErr)) :
    (protocol app .main).Obeys (Ends (Final con fuel) .main) (.main {serving hotReload with worked := calls})
      (shutDown hotReload consumeErr) := by
  refine ⟨trivial,fun _ _ => ⟨⟨rfl,rfl,rfl⟩,fun shutdownErr _ => ⟨⟨rfl,rfl⟩,fun metricsErr _ => ?_⟩⟩⟩
  apply startErr_late (by rintro _; nofun)
  intro startErr recorded
  refine ⟨trivial,fun _ _ => ?_⟩
  have closes : (protocol app .main).Obeys _ (.main
      {serving hotReload with
        server := fun _ => .reported metricsErr
        closing := fun _ => true
        drained := fun _ => true
        shutdown := fun _ => some shutdownErr
        start := some startErr
        worked := calls}) (closeRoutine hotReload) :=
    closeRoutine_obeys rfl rfl fun _ => Or.inr rfl
  apply closes.sequence
  rintro _ _ rfl
  have reported : ∃ err, Stage.reported metricsErr = .reported err := ⟨metricsErr,rfl⟩
  refine ⟨rfl,fun _ _ => Or.inr ⟨⟨nofun,nofun,?_,fun _ => Or.inr ⟨reported,rfl⟩⟩,Or.inr ⟨reported,?_⟩⟩⟩
  · cases hotReload
    · exact Or.inl rfl
    · exact Or.inr rfl
  · refine ⟨startErr,consumeErr,shutdownErr,rfl,consumed,rfl,result_recorded consumeErr shutdownErr ?_⟩
    intro failed
    obtain ⟨failure,rfl⟩ := Option.isSome_iff_exists.mp failed
    exact recorded () failure rfl

theorem serve_obeys : (protocol app .main).Obeys (Ends (Final con fuel) .main) (.main (opened hotReload))
    (serve hotReload con fuel) := by
  refine ⟨⟨rfl,rfl,rfl⟩,fun _ _ => ?_⟩
  have consumes : (protocol app .main).Obeys _ (.main (serving hotReload)) (working .main (consume con fuel)) :=
    mainWork_obeys rfl rfl _
  apply consumes.sequence
  rintro _ value ⟨calls,consumed,rfl⟩
  cases value with
  | none => exact Or.inl rfl
  | some consumeErr => exact shutDown_obeys con fuel consumed

theorem initial_cleans : Cleans app (Ends (Final con fuel) .main) (.main .initial) (pure ()) :=
  fun err => Or.inr ⟨⟨nofun,nofun,Or.inl rfl,fun _ => Or.inl rfl⟩,Or.inl ⟨rfl,err,rfl⟩⟩

theorem pooled_cleans : Cleans app (Ends (Final con fuel) .main) (.main pooled) (request .closePool) :=
  ⟨rfl,fun _ _ err => Or.inr ⟨⟨nofun,nofun,Or.inl rfl,fun _ => Or.inl rfl⟩,Or.inl ⟨rfl,err,rfl⟩⟩⟩

theorem run_obeys :
    (protocol app .main).Obeys (Ends (Final con fuel) .main) (.main .initial) (run hotReload con fuel) := by
  refine constructing_obeys (initial_cleans con fuel) (openingPool_obeys rfl (initial_cleans con fuel) ?_)
  change (protocol app .main).Obeys _ (.main pooled) _
  iterate 6 apply constructing_obeys (pooled_cleans con fuel)
  exact creatingClient_obeys rfl (pooled_cleans con fuel) (serve_obeys con fuel)

theorem clientCalls_reload (calls : List ClientCall) : app.Reloads (calls.forM fun op => perform (Work.client op)) := by
  induction calls with
  | nil => exact trivial
  | cons op calls ih => exact ⟨⟨rfl,rfl⟩,fun _ => ih⟩

theorem reloadOnce_reloads (reloader : TenantPartitionReloader) (assignment : Finset Int32) :
    app.Reloads (reloadOnce reloader assignment) := by
  refine ⟨⟨rfl,rfl⟩,fun loaded => ?_⟩
  change app.Reloads (match loadTarget reloader loaded with | .error _ => _ | .ok target => _)
  cases loadTarget reloader loaded with
  | error err => exact ⟨⟨rfl,rfl⟩,fun _ => trivial⟩
  | ok target => exact Calls.sequence _ _ (clientCalls_reload _) fun _ => trivial

theorem goroutines_obey (reloader : TenantPartitionReloader) (ticks : Nat) (manualPartitions : List Int32)
    (routine : Goroutine Unit) : (protocol app routine).Obeys (Ends (Final con fuel) routine) (idle routine)
      (goroutines hotReload con fuel reloader ticks manualPartitions routine) := by
  cases routine with
  | main => exact run_obeys con fuel
  | server server => exact serverRoutine_obeys server
  | drainer server => exact drainRoutine_obeys server
  | reload => exact reloadRoutine_obeys (reloadOnce_reloads reloader) ticks _
  | handler request => exact nofun

end obeying

/-- What the value of `run` says of what the consumer returned and of the metrics server. -/
inductive Concluded (world : World Unit) : Option Error → Outcome → Prop
  | failed {cause err : Error} (consumeErr : Option Error) (exit : world.exit () = some cause)
      (failure : verdict app () cause = some err) : Concluded world consumeErr (.returned (some err))
  | consumer {cause err : Error} (exit : world.exit () = some cause) (closed : verdict app () cause = none) :
      Concluded world (some err) (.returned (some (.wrap "processor consumer: %w" [] err)))
  | undrained {cause err : Error} (exit : world.exit () = some cause) (closed : verdict app () cause = none)
      (drained : world.drained () = some (some err)) :
      Concluded world none (.returned (some (shutdownFailure app () err)))
  | clean {cause : Error} (exit : world.exit () = some cause) (closed : verdict app () cause = none)
      (drained : world.drained () = some none) : Concluded world none (.returned none)

/-- The calls that the consumer has made in a history. -/
def consumed (history : List (Event (Goroutine Unit) (Call.Reply app) Outcome)) : List ((work : Work) × work.Reply) :=
  (ownCalls .main history).filterMap workOf

section sample

def quietConsumer : Consumer where
  dlqTopic := text "transactions-dlq"
  maxRetries := 3
  maxPollRecords := 100
  metrics := false
  decode := fun _ => .error (.new "unexpected end of JSON input")
  marshal := fun _ => .ok []
  errorText := fun _ => []
  formatTime := fun _ => []

def brokenFetch : Fetches := ⟨[⟨text "transactions",0,.new "unable to dial"⟩],[]⟩

def sampleFailure : Error :=
  .wrap "consume transaction events from kafka topic %q partition %d: %w" [.bytes (text "transactions"),.int 0]
    (.new "unable to dial")

def sampleOutcome : Outcome := .returned (some (.wrap "processor consumer: %w" [] sampleFailure))

/-- The metrics server was drained, and main waits for it. -/
def sampleDrained : World Unit :=
  {World.initial with
    client := .opened
    pool := .opened
    started := Function.update (Function.update (fun _ => false) .reload false) (.server ()) true
    closing := Function.update (fun _ => false) () true
    drained := Function.update (fun _ => none) () (some none)
    misused := Function.update (Function.update (fun _ => false) .main false) .main false}

/-- The first poll fails, which ends the consumer. -/
theorem sample_consumes : ∃ calls rest, Advances (Answers app) .initial (run false quietConsumer 1) calls
      sampleDrained (.call (.recvErr ()) rest) ∧
    ∃ calls world, Advances (Answers app) (closedBy app sampleDrained ()) (.call (.recvErr ()) rest) calls world
      (.done sampleOutcome) ∧ world.started (.server ()) = true :=
  ⟨_,_,.call (.construct _ none) <| .call (.openPool _) <| .call (.construct _ none) <| .call (.construct _ none) <|
    .call (.construct _ none) <| .call (.construct _ none) <| .call (.construct _ none) <| .call (.construct _ none) <|
    .call (.newClient _ _) <| .call (.go _ _) <| .call (.work _ _ _ brokenFetch trivial) <|
    .call (.work _ _ _ (none : Option Error) (by rfl)) <| .call (.beginShutdown _ _) <|
    .call (.endShutdown _ _ none fun _ _ => rfl) <| .start _ _,
    _,_,.call (.recvErr _ _ none rfl) <| .call (.startErr _) <| .call (.cancelRun _) <| .call (.closeClient _) <|
    .call (.closePool _) <| .start _ _,rfl⟩

end sample

section runs
variable (hotReload : Bool) (con : Consumer) (fuel : Nat) (reloader : TenantPartitionReloader) (ticks : Nat)
  (manualPartitions : List Int32)

abbrev Execution (history : List (Event (Goroutine Unit) (Call.Reply app) Outcome))
    (system : System (World Unit) (Goroutine Unit) (Call.Reply app) Outcome) : Prop :=
  Run (Answers app) Signalled (goroutines hotReload con fuel reloader ticks manualPartitions)
    (.initial .initial) history
    system

abbrev SampleExecution := Execution false quietConsumer 1 ⟨[],[]⟩ 0 []

theorem sample_waits {rest : Option Error → Routine app Outcome} {calls : List (Σ call : Call app, call.Reply)}
    (consumes : Advances (Answers app) .initial (run false quietConsumer 1) calls sampleDrained
      (.call (.recvErr ()) rest)) : ∃ history system, SampleExecution history system ∧ system.shared = sampleDrained ∧
      system.threads .main = .running (.call (.recvErr ()) rest) ∧ system.threads (.server ()) = .waiting := by
  have begun : SampleExecution [] (.initial .initial) := .start
  obtain ⟨_,run,shared,main,others⟩ := begun.invoke .main rfl
  obtain ⟨system,run,shared,main,others1⟩ := run.advances .main consumes shared main
  exact ⟨_,system,run,shared,main,by simp [others1,others,System.initial]⟩

variable {history : List (Event (Goroutine Unit) (Call.Reply app) Outcome)}
  {system : System (World Unit) (Goroutine Unit) (Call.Reply app) Outcome}

/-- The process never hangs: until main has returned, one of its goroutines goes on, or main waits
for records. -/
theorem processor_goes_on (run : Execution hotReload con fuel reloader ticks manualPartitions history system) :
    (∃ outcome, system.threads .main = .returned outcome) ∨ Waiting app system ∨
      ∃ routine event next, (∀ request, routine ≠ .handler request) ∧
        Ready (Due app) system.shared (system.threads routine) ∧
        Step (Answers app) Signalled (goroutines hotReload con fuel reloader ticks manualPartitions) system
        event next :=
  goes_on (run_reached (goroutines_obey con fuel reloader ticks manualPartitions) run) _

theorem sample_processor_goes_on : ∃ history system, SampleExecution history system ∧ system.shared = sampleDrained ∧
    ∃ routine event next, (∀ request, routine ≠ .handler request) ∧
      Ready (Due app) system.shared (system.threads routine) ∧
      Step (Answers app) Signalled (goroutines false quietConsumer 1 ⟨[],[]⟩ 0 []) system event next := by
  obtain ⟨_,rest,consumes,_⟩ := sample_consumes
  obtain ⟨_,system,run,shared,main,_⟩ := sample_waits consumes
  refine ⟨_,system,run,shared,?_⟩
  rcases processor_goes_on _ _ _ _ _ _ run with ⟨_,returned⟩ | ⟨_,call,_,running,waiting⟩ | goesOn
  · cases main.symm.trans returned
  · obtain ⟨⟩ := main.symm.trans running
    rcases waiting with other | ⟨_,other,_⟩ <;> cases other
  · exact goesOn

end runs

end ControlPlane.Cmd.Processor
