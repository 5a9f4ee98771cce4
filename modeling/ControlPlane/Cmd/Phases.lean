import ControlPlane.Cmd.Process

/-! What the goroutines of a process may do, by the phase that each of them is in, and what is then
known of the process at any moment: a client that is in use is open, a server that has reported has
exited, and a start error that was reported is recorded. -/
namespace ControlPlane.Cmd
open Go Effect Effect.Program

inductive Stage where
  | absent
  | running
  | reported (err : Option Error)
  deriving DecidableEq

inductive ReloadStage where
  | absent
  | running
  | stopping
  | over
  deriving DecidableEq

/-- What the main goroutine has done and learnt, with the calls of its own work. -/
structure MainPhase {S : Type} (app : App S) where
  client : Handle
  pool : Handle
  server : S → Stage
  closing : S → Bool
  drained : S → Bool
  shutdown : S → Option (Option Error)
  draining : Bool
  drainer : S → Bool
  waited : Bool
  reload : ReloadStage
  start : Option (Option Error)
  failures : Option (List Error)
  worked : List ((item : app.Work) × app.Reply item)

def MainPhase.initial {S : Type} {app : App S} : MainPhase app where
  client := .absent
  pool := .absent
  server := fun _ => .absent
  closing := fun _ => false
  drained := fun _ => false
  shutdown := fun _ => none
  draining := false
  drainer := fun _ => false
  waited := false
  reload := .absent
  start := none
  failures := none
  worked := []

inductive ServerPhase where
  | idle
  | serving
  | exited (err : Error)
  | recorded (err : Error)
  | reported (err : Option Error)

inductive DrainPhase where
  | idle
  | begun
  | closing
  | drained (result : Option Error)
  | recorded (result : Option Error)
  | finished (result : Option Error)

inductive ReloadPhase where
  | idle
  | active
  | finished

inductive HandlerPhase where
  | idle
  | serving
  | finished

inductive Phase {S : Type} (app : App S) where
  | main (phase : MainPhase app)
  | server (phase : ServerPhase)
  | drainer (phase : DrainPhase)
  | reload (phase : ReloadPhase)
  | handler (phase : HandlerPhase)

namespace Phase
variable {S : Type} {app : App S}

def toMain : Phase app → MainPhase app
  | .main phase => phase
  | _ => .initial

def toServer : Phase app → ServerPhase
  | .server phase => phase
  | _ => .idle

def toDrainer : Phase app → DrainPhase
  | .drainer phase => phase
  | _ => .idle

def toReload : Phase app → ReloadPhase
  | .reload phase => phase
  | _ => .idle

def toHandler : Phase app → HandlerPhase
  | .handler phase => phase
  | _ => .idle

end Phase

/-- The phases of all goroutines. -/
structure View {S : Type} (app : App S) where
  main : MainPhase app
  server : S → ServerPhase
  drainer : S → DrainPhase
  reload : ReloadPhase
  handler : Request S → HandlerPhase

def View.of {S : Type} {app : App S} (phases : Goroutine S → Phase app) : View app where
  main := (phases .main).toMain
  server := fun server => (phases (.server server)).toServer
  drainer := fun server => (phases (.drainer server)).toDrainer
  reload := (phases .reload).toReload
  handler := fun request => (phases (.handler request)).toHandler

section protocols
variable {S : Type} (app : App S) [DecidableEq S] [Fintype S]

/-- All servers that were started have reported. -/
def MainPhase.Collected {app : App S} (phase : MainPhase app) : Prop := ∀ server, phase.server server ≠ .running

instance {app : App S} (phase : MainPhase app) : Decidable phase.Collected := inferInstanceAs (Decidable (∀ _, _))

def mainAllows (phase : MainPhase app) : Call app → Prop
  | .construct => True
  | .openPool => phase.pool = .absent
  | .closePool => phase.pool = .opened
  | .newClient _ => phase.client = .absent
  | .closeClient => phase.client = .opened ∧ (phase.reload = .absent ∨ phase.reload = .over) ∧
      ∀ server, phase.server server = .absent ∨ phase.drained server = true
  | .go (.server server) => phase.client = .opened ∧ phase.server server = .absent ∧ phase.start = none
  | .go (.drainer _) => phase.draining = true
  | .recvErr server => phase.server server = .running ∧ phase.closing server = true
  | .runDone => True
  | .startErr => True
  | .cancelRun => True
  | .beginShutdown _ => True
  | .endShutdown server => phase.closing server = true ∧ phase.draining = false ∧ phase.drained server = false
  | .addDrains count => phase.draining = false ∧ (∀ server, phase.drained server = false) ∧ count = Fintype.card S
  | .drainWait => phase.draining = true ∧ ∀ server, phase.drainer server = true
  | .shutdownErr => phase.waited = true
  | .stopReload => phase.reload = .running
  | .reloadWait => phase.reload = .stopping
  | .work routine item => routine = .main ∧ (app.usesClient item = true → phase.client = .opened) ∧
      (app.usesPool item = true → phase.pool = .opened)
  | _ => False

def mainNext (phase : MainPhase app) : (call : Call app) → call.Reply → MainPhase app
  | .openPool,(none : Option Error) => {phase with pool := .opened}
  | .closePool,_ => {phase with pool := .closed}
  | .newClient hotReload,(none : Option Error) =>
    {phase with
      client := .opened
      reload := if hotReload then .running else .absent}
  | .closeClient,_ => {phase with client := .closed}
  | .go (.server server),_ => {phase with server := Function.update phase.server server .running}
  | .go (.drainer server),_ => {phase with drainer := Function.update phase.drainer server true}
  | .recvErr server,err => {phase with server := Function.update phase.server server (.reported err)}
  | .startErr,err => if phase.Collected then {phase with start := some err} else phase
  | .beginShutdown server,_ => {phase with closing := Function.update phase.closing server true}
  | .endShutdown server,err =>
    {phase with
      drained := Function.update phase.drained server true
      shutdown := Function.update phase.shutdown server (some err)}
  | .addDrains _,_ => {phase with draining := true}
  | .drainWait,_ =>
    {phase with
      closing := fun _ => true
      drained := fun _ => true
      waited := true}
  | .shutdownErr,errs => {phase with failures := some errs}
  | .stopReload,_ => {phase with reload := .stopping}
  | .reloadWait,_ => {phase with reload := .over}
  | .work _ item,reply => {phase with worked := phase.worked ++ [⟨item,reply⟩]}
  | _,_ => phase

def serverAllows (server : S) : ServerPhase → Call app → Prop
  | .idle,.begin routine => routine = .server server
  | .serving,.start name => name = server
  | .exited err,.recordStartErr wrapped => err.is (app.closedErr server) = false ∧ wrapped = startFailure app server err
  | .exited err,.sendErr name sent => name = server ∧ err.is (app.closedErr server) = true ∧ sent = none
  | .recorded err,.sendErr name sent => name = server ∧ sent = some (startFailure app server err)
  | _,_ => False

def serverNext : ServerPhase → (call : Call app) → call.Reply → ServerPhase
  | _,.begin _,_ => .serving
  | _,.start _,err => .exited err
  | .exited err,.recordStartErr _,_ => .recorded err
  | _,.sendErr _ sent,_ => .reported sent
  | phase,_,_ => phase

def drainAllows (server : S) : DrainPhase → Call app → Prop
  | .idle,.begin routine => routine = .drainer server
  | .begun,.beginShutdown name => name = server
  | .closing,.endShutdown name => name = server
  | .drained result,.recordShutdownErr wrapped => ∃ err, result = some err ∧ wrapped = shutdownFailure app server err
  | .drained result,.drainDone => result = none
  | .recorded _,.drainDone => True
  | _,_ => False

def drainNext : DrainPhase → (call : Call app) → call.Reply → DrainPhase
  | _,.begin _,_ => .begun
  | _,.beginShutdown _,_ => .closing
  | _,.endShutdown _,result => .drained result
  | .drained result,.recordShutdownErr _,_ => .recorded result
  | .drained result,.drainDone,_ => .finished result
  | .recorded result,.drainDone,_ => .finished result
  | phase,_,_ => phase

def reloadAllows : ReloadPhase → Call app → Prop
  | .idle,.begin routine => routine = .reload
  | .active,.selectReload => True
  | .active,.awaitStop => True
  | .active,.work routine item => routine = .reload ∧ app.usesPool item = false ∧ app.blocks item = false
  | .active,.reloadDone => True
  | _,_ => False

def reloadNext : ReloadPhase → (call : Call app) → call.Reply → ReloadPhase
  | _,.begin _,_ => .active
  | _,.reloadDone,_ => .finished
  | phase,_,_ => phase

def handlerAllows (request : Request S) : HandlerPhase → Call app → Prop
  | .idle,.accept name => name = request ∧ app.handlers = true
  | .serving,.work routine item => routine = .handler request ∧ app.usesPool item = false
  | .serving,.respond name => name = request
  | _,_ => False

def handlerNext : HandlerPhase → (call : Call app) → call.Reply → HandlerPhase
  | _,.accept _,_ => .serving
  | _,.respond _,_ => .finished
  | phase,_,_ => phase

/-- What the main goroutine counts on: a server that reports a failure has recorded one. -/
def mainExpects (phase : MainPhase app) : (call : Call app) → call.Reply → Prop
  | .startErr,err => phase.Collected → ∀ server failure, phase.server server = .reported (some failure) →
      (err : Option Error).isSome
  | _,_ => True

def protocol : Goroutine S → Protocol (Phase app) (Call.Reply app)
  | .main => ⟨fun phase => mainAllows app phase.toMain,fun phase => mainExpects app phase.toMain,
      fun phase call reply => .main (mainNext app phase.toMain call reply)⟩
  | .server server => ⟨fun phase => serverAllows app server phase.toServer,fun _ _ _ => True,
      fun phase call reply => .server (serverNext app phase.toServer call reply)⟩
  | .drainer server => ⟨fun phase => drainAllows app server phase.toDrainer,fun _ _ _ => True,
      fun phase call reply => .drainer (drainNext app phase.toDrainer call reply)⟩
  | .reload => ⟨fun phase => reloadAllows app phase.toReload,fun _ _ _ => True,
      fun phase call reply => .reload (reloadNext app phase.toReload call reply)⟩
  | .handler request => ⟨fun phase => handlerAllows app request phase.toHandler,fun _ _ _ => True,
      fun phase call reply => .handler (handlerNext app phase.toHandler call reply)⟩

end protocols

section consistency
variable {S : Type} (app : App S) [DecidableEq S] [Fintype S]

/-- Where a server is, by the phase of its goroutine. -/
def ServerAt (world : World S) (server : S) (stage : Stage) : ServerPhase → Prop
  | .idle => world.exit server = none ∧ world.errors server = none ∧
      (stage = .absent ∧ world.started (.server server) = false ∨ stage = .running ∧
        world.started (.server server) = true)
  | .serving => stage = .running ∧ world.started (.server server) = true ∧ world.exit server = none ∧
      world.errors server = none
  | .exited err => stage = .running ∧ world.started (.server server) = true ∧ world.exit server = some err ∧
      world.errors server = none
  | .recorded err => (stage = .running ∧ world.started (.server server) = true ∧ world.exit server = some err ∧
      world.errors server = none) ∧ err.is (app.closedErr server) = false ∧ world.startErr.isSome
  | .reported sent => world.started (.server server) = true ∧
      (∃ err, world.exit server = some err ∧ sent = verdict app server err) ∧ (sent.isSome → world.startErr.isSome) ∧
      (stage = .running ∧ world.errors server = some sent ∨ stage = .reported sent ∧ world.errors server = none)

def ReloadStage.Live (stage : ReloadStage) : Prop := stage = .running ∨ stage = .stopping

/-- Where the reload goroutine is: while it runs, the client is open. -/
def ReloadAt (world : World S) (client : Handle) (stage : ReloadStage) : ReloadPhase → Prop
  | .idle => world.reloadEnded = false ∧
      (stage = .absent ∧ world.started .reload = false ∨ stage.Live ∧ client = .opened ∧ world.started .reload = true)
  | .active => world.reloadEnded = false ∧ stage.Live ∧ client = .opened
  | .finished => world.reloadEnded = true ∧ stage ≠ .absent ∧ client ≠ .absent

def DrainPhase.pending : DrainPhase → Nat
  | .finished _ => 0
  | _ => 1

/-- What a drainer has seen of its server. -/
def DrainAt (world : World S) (server : S) (known : Bool) : DrainPhase → Prop
  | .idle => known = false → world.drained server = none
  | .begun => world.drained server = none
  | .closing => world.closing server = true ∧ world.drained server = none
  | .drained result => world.drained server = some result
  | .recorded result => world.drained server = some result ∧ result.isSome
  | .finished result => world.drained server = some result

/-- The failures that the drainers have recorded. -/
def DrainPhase.failure : DrainPhase → Option Error
  | .recorded result => result
  | .finished result => result
  | _ => none

structure DrainsAt (world : World S) (main : MainPhase app) (drainer : S → DrainPhase) : Prop where
  phases : ∀ server, DrainAt world server (main.drained server) (drainer server)
  closed : ∀ server, world.drained server ≠ none → world.closing server = true
  known : ∀ server, (main.closing server = true → world.closing server = true) ∧
    (main.drained server = true → world.drained server ≠ none)
  told : ∀ server err, main.shutdown server = some err → main.drained server = true ∧ world.drained server = some err
  spawned : ∀ server, main.drainer server = true → world.started (.drainer server) = true
  alone : main.draining = false → ∀ server, drainer server = .idle ∧ world.started (.drainer server) = false
  apart : main.draining = true → main.waited = false → ∀ server, main.drained server = false
  waited : main.waited = true → main.draining = true ∧ ∀ server, ∃ result, drainer server = .finished result
  counted : world.drains = if main.draining then ∑ server, (drainer server).pending else 0
  failures : ∀ err, err ∈ world.shutdownErr ↔
    ∃ server cause, (drainer server).failure = some cause ∧ err = shutdownFailure app server cause
  read : ∀ errs, main.failures = some errs → main.waited = true ∧ errs = world.shutdownErr

structure HandlersAt (world : World S) (main : MainPhase app) (handler : Request S → HandlerPhase) : Prop where
  inFlight : ∀ request, world.inFlight request = true ↔ handler request = .serving
  served : ∀ request, handler request = .serving → main.server request.1 ≠ .absent ∧ app.handlers = true
  present : ∀ server, main.server server ≠ .absent → main.client ≠ .absent
  closed : main.client = .closed → ∀ server, main.server server = .absent ∨ main.drained server = true
  idle : ∀ server, world.drained server = some none → ∀ number, world.inFlight (server,number) = false
  misused : ∀ routine, world.misused routine = true → ∃ request err, routine = .handler request ∧ app.handlers = true ∧
    world.drained request.1 = some (some err)

structure Consistent (world : World S) (view : View app) : Prop where
  client : world.client = view.main.client
  pool : world.pool = view.main.pool
  servers : ∀ server, ServerAt app world server (view.main.server server) (view.server server)
  recorded : ∀ err, world.startErr = some err → world.cancelled = true ∧
    ∃ server cause, world.exit server = some cause ∧ verdict app server cause = some err
  start : ∀ err, view.main.start = some err → view.main.Collected ∧ err = world.startErr
  reload : ReloadAt world view.main.client view.main.reload view.reload
  stopping : view.main.reload = .stopping ∨ view.main.reload = .over → world.reloadStopped = true
  drains : DrainsAt app world view.main view.drainer
  handlers : HandlersAt app world view.main view.handler

end consistency

end ControlPlane.Cmd
