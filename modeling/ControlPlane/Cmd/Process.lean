import ControlPlane.Effect.Protocols
import ControlPlane.Go.Values
import Mathlib.Algebra.BigOperators.Group.Finset.Basic
import Mathlib.Algebra.Order.BigOperators.Group.Finset

/-! The goroutines of a service process (`cmd/ingestion`, `cmd/processor`): the main one, one for
each server that it starts, one for each server that it drains, the reload goroutine of the Kafka
client and the handlers of the requests. A call that blocks is one that has no answer yet. -/
namespace ControlPlane.Cmd
open Go Effect Effect.Program

/-- The Kafka client or the connection pool. -/
inductive Handle where
  | absent
  | opened
  | closed
  deriving DecidableEq

/-- The requests of each server are numbered. -/
abbrev Request (S : Type) := S × Nat

inductive Goroutine (S : Type) where
  | main
  | server (server : S)
  | drainer (server : S)
  | reload
  | handler (request : Request S)
  deriving DecidableEq

/-- What a process does besides starting and stopping: the calls of its consumer, its handlers and
its reloader, which of them use the Kafka client or the pool, and what they are answered when the
run's context is cancelled or not. A call that blocks may wait until it is. -/
structure App (S : Type) where
  Work : Type
  Reply : Work → Type
  usesClient : Work → Bool
  usesPool : Work → Bool
  blocks : Work → Bool
  answers : Bool → (work : Work) → Reply work → Prop
  total : ∀ cancelled work, cancelled = true ∨ blocks work = false → ∃ reply, answers cancelled work reply
  handlers : Bool
  closedErr : S → Error
  startFormat : S → String
  shutdownFormat : S → String

variable {S : Type} (app : App S)

inductive Call where
  | construct
  | openPool
  | closePool
  | newClient (hotReload : Bool)
  | closeClient
  | go (routine : Goroutine S)
  | begin (routine : Goroutine S)
  | start (server : S)
  | recordStartErr (err : Error)
  | sendErr (server : S) (err : Option Error)
  | recvErr (server : S)
  | runDone
  | startErr
  | cancelRun
  | beginShutdown (server : S)
  | endShutdown (server : S)
  | addDrains (count : Nat)
  | recordShutdownErr (err : Error)
  | drainDone
  | drainWait
  | shutdownErr
  | stopReload
  | selectReload
  | awaitStop
  | reloadDone
  | reloadWait
  | accept (request : Request S)
  | respond (request : Request S)
  | work (routine : Goroutine S) (item : app.Work)

def Call.Reply : Call app → Type
  | .construct => Option Error
  | .openPool => Option Error
  | .newClient _ => Option Error
  | .start _ => Error
  | .recvErr _ => Option Error
  | .startErr => Option Error
  | .endShutdown _ => Option Error
  | .shutdownErr => List Error
  | .selectReload => Bool
  | .work _ item => app.Reply item
  | _ => Unit

structure World (S : Type) where
  client : Handle
  pool : Handle
  started : Goroutine S → Bool
  cancelled : Bool
  startErr : Option Error
  exit : S → Option Error
  errors : S → Option (Option Error)
  closing : S → Bool
  drained : S → Option (Option Error)
  shutdownErr : List Error
  drains : Nat
  reloadStopped : Bool
  reloadEnded : Bool
  inFlight : Request S → Bool
  misused : Goroutine S → Bool

def World.initial : World S where
  client := .absent
  pool := .absent
  started := fun _ => false
  cancelled := false
  startErr := none
  exit := fun _ => none
  errors := fun _ => none
  closing := fun _ => false
  drained := fun _ => none
  shutdownErr := []
  drains := 0
  reloadStopped := false
  reloadEnded := false
  inFlight := fun _ => false
  misused := fun _ => false

section environment
variable [DecidableEq S]

/-- A goroutine that uses the client or the pool while it is not open. -/
def World.misuse (world : World S) (routine : Goroutine S) (wrong : Bool) : World S :=
  {world with misused := Function.update world.misused routine (world.misused routine || wrong)}

/-- The process around its goroutines. `Start` returns the error of a closed server only once
`Shutdown` was called, and `Shutdown` returns no error only once no request is in flight. Until it
does, a request may come, on a connection that is still open if on no other. -/
inductive Answers : World S → (call : Call app) → call.Reply → World S → Prop
  | construct (world : World S) (err : Option Error) : Answers world .construct err world
  | poolFailed (world : World S) (err : Error) : Answers world .openPool (some err) world
  | openPool (world : World S) : Answers world .openPool none {world with pool := .opened}
  | closePool (world : World S) : Answers world .closePool ()
      {world.misuse .main (world.pool ≠ .opened) with pool := .closed}
  | clientFailed (world : World S) (hotReload : Bool) (err : Error) : Answers world (.newClient hotReload)
      (some err) world
  | newClient (world : World S) (hotReload : Bool) : Answers world (.newClient hotReload) none
      {world with
        client := .opened
        started := Function.update world.started .reload hotReload}
  | closeClient (world : World S) : Answers world .closeClient ()
      {world.misuse .main (world.client ≠ .opened) with client := .closed}
  | go (world : World S) (routine : Goroutine S) : Answers world (.go routine) ()
      {world with started := Function.update world.started routine true}
  | begin (world : World S) (routine : Goroutine S) (started : world.started routine = true) :
      Answers world (.begin routine) () world
  | start (world : World S) (server : S) (err : Error)
      (closed : err.is (app.closedErr server) = true → world.closing server = true) :
      Answers world (.start server) err {world with exit := Function.update world.exit server (some err)}
  | recordStartErr (world : World S) (err : Error) : Answers world (.recordStartErr err) ()
      {world with
        startErr := world.startErr.or (some err)
        cancelled := true}
  | sendErr (world : World S) (server : S) (err : Option Error) (room : world.errors server = none) :
      Answers world (.sendErr server err) () {world with errors := Function.update world.errors server (some err)}
  | recvErr (world : World S) (server : S) (err : Option Error) (sent : world.errors server = some err) :
      Answers world (.recvErr server) err {world with errors := Function.update world.errors server none}
  | runDone (world : World S) (cancelled : world.cancelled = true) : Answers world .runDone () world
  | startErr (world : World S) : Answers world .startErr world.startErr world
  | cancelRun (world : World S) : Answers world .cancelRun () {world with cancelled := true}
  | beginShutdown (world : World S) (server : S) : Answers world (.beginShutdown server) ()
      {world with closing := Function.update world.closing server true}
  | endShutdown (world : World S) (server : S) (err : Option Error)
      (idle : err = none → ∀ number, world.inFlight (server,number) = false) :
      Answers world (.endShutdown server) err {world with drained := Function.update world.drained server (some err)}
  | addDrains (world : World S) (count : Nat) : Answers world (.addDrains count) ()
      {world with drains := world.drains + count}
  | recordShutdownErr (world : World S) (err : Error) : Answers world (.recordShutdownErr err) ()
      {world with shutdownErr := world.shutdownErr ++ [err]}
  | drainDone (world : World S) : Answers world .drainDone () {world with drains := world.drains - 1}
  | drainWait (world : World S) (all : world.drains = 0) : Answers world .drainWait () world
  | shutdownErr (world : World S) : Answers world .shutdownErr world.shutdownErr world
  | stopReload (world : World S) : Answers world .stopReload () {world with reloadStopped := true}
  | selectReload (world : World S) (stop : Bool) (stopped : stop = true → world.reloadStopped = true) :
      Answers world .selectReload stop world
  | awaitStop (world : World S) (stopped : world.reloadStopped = true) : Answers world .awaitStop () world
  | reloadDone (world : World S) : Answers world .reloadDone () {world with reloadEnded := true}
  | reloadWait (world : World S) (ended : world.reloadEnded = true) : Answers world .reloadWait () world
  | accept (world : World S) (request : Request S) (started : world.started (.server request.1) = true)
      (connected : world.drained request.1 ≠ some none) :
      Answers world (.accept request) () {world with inFlight := Function.update world.inFlight request true}
  | respond (world : World S) (request : Request S) : Answers world (.respond request) ()
      {world with inFlight := Function.update world.inFlight request false}
  | work (world : World S) (routine : Goroutine S) (item : app.Work) (reply : app.Reply item)
      (answered : app.answers world.cancelled item reply) : Answers world (.work routine item) reply
      (world.misuse routine
        ((app.usesClient item && world.client ≠ .opened) || (app.usesPool item && world.pool ≠ .opened)))

/-- The answers that the runtime and the libraries owe: a server has to return once it is shut down,
and a poll once the run's context is cancelled, but no request ever has to come. -/
def Due (world : World S) : Call app → Prop
  | .begin routine => world.started routine = true
  | .start server => world.closing server = true
  | .sendErr server _ => world.errors server = none
  | .recvErr server => (world.errors server).isSome
  | .runDone => world.cancelled = true
  | .drainWait => world.drains = 0
  | .awaitStop => world.reloadStopped = true
  | .reloadWait => world.reloadEnded = true
  | .accept _ => False
  | .work _ item => world.cancelled = true ∨ app.blocks item = false
  | _ => True

theorem due_answered {app : App S} (world : World S) (call : Call app) (due : Due app world call) :
    ∃ reply after, Answers app world call reply after := by
  cases call with
  | construct => exact ⟨_,_,.construct world none⟩
  | openPool => exact ⟨_,_,.openPool world⟩
  | closePool => exact ⟨_,_,.closePool world⟩
  | newClient hotReload => exact ⟨_,_,.newClient world hotReload⟩
  | closeClient => exact ⟨_,_,.closeClient world⟩
  | go routine => exact ⟨_,_,.go world routine⟩
  | begin routine => exact ⟨_,_,.begin world routine due⟩
  | start server => exact ⟨_,_,.start world server (app.closedErr server) fun _ => due⟩
  | recordStartErr err => exact ⟨_,_,.recordStartErr world err⟩
  | sendErr server err => exact ⟨_,_,.sendErr world server err due⟩
  | recvErr server =>
    obtain ⟨err,sent⟩ := Option.isSome_iff_exists.mp due
    exact ⟨_,_,.recvErr world server err sent⟩
  | runDone => exact ⟨_,_,.runDone world due⟩
  | startErr => exact ⟨_,_,.startErr world⟩
  | cancelRun => exact ⟨_,_,.cancelRun world⟩
  | beginShutdown server => exact ⟨_,_,.beginShutdown world server⟩
  | endShutdown server => exact ⟨_,_,.endShutdown world server (some (.new "context deadline exceeded")) nofun⟩
  | addDrains count => exact ⟨_,_,.addDrains world count⟩
  | recordShutdownErr err => exact ⟨_,_,.recordShutdownErr world err⟩
  | drainDone => exact ⟨_,_,.drainDone world⟩
  | drainWait => exact ⟨_,_,.drainWait world due⟩
  | shutdownErr => exact ⟨_,_,.shutdownErr world⟩
  | stopReload => exact ⟨_,_,.stopReload world⟩
  | selectReload => exact ⟨_,_,.selectReload world false nofun⟩
  | awaitStop => exact ⟨_,_,.awaitStop world due⟩
  | reloadDone => exact ⟨_,_,.reloadDone world⟩
  | reloadWait => exact ⟨_,_,.reloadWait world due⟩
  | accept request => exact due.elim
  | respond request => exact ⟨_,_,.respond world request⟩
  | work routine item =>
    obtain ⟨reply,answered⟩ := app.total world.cancelled item due
    exact ⟨_,_,.work world routine item reply answered⟩

/-- A signal cancels the run's context. -/
def Signalled (world after : World S) : Prop := after = {world with cancelled := true}

end environment

section routines
variable {app}

inductive Outcome where
  | ended
  | cut
  | returned (err : Option Error)
  | joined (errs : List Error)

def startFailure (app : App S) (server : S) (err : Error) : Error := .wrap (app.startFormat server) [] err

/-- What a server's goroutine reports: nothing for a server that was closed. -/
def verdict (app : App S) (server : S) (err : Error) : Option Error :=
  if err.is (app.closedErr server) then none else some (startFailure app server err)

def shutdownFailure (app : App S) (server : S) (err : Error) : Error := .wrap (app.shutdownFormat server) [] err

abbrev Routine (app : App S) (α : Type) := Program (Call.Reply app) α

def request (call : Call app) : Routine app call.Reply := perform call

/-- The goroutine that starts a server. -/
def serverRoutine (server : S) : Routine app Outcome := do
  request (.begin (.server server))
  let err : Error ← request (.start server)
  if err.is (app.closedErr server) then
    request (.sendErr server none)
    return .ended
  else
    let wrapped := startFailure app server err
    request (.recordStartErr wrapped)
    request (.sendErr server (some wrapped))
    return .ended

/-- The goroutine that shuts a server down. -/
def drainRoutine (server : S) : Routine app Outcome := do
  request (.begin (.drainer server))
  request (.beginShutdown server)
  let result : Option Error ← request (.endShutdown server)
  match result with
  | some err => request (.recordShutdownErr (shutdownFailure app server err))
  | none => pure ()
  request .drainDone
  return .ended

/-- The calls of a routine's own work. -/
def working {α : Type} (routine : Goroutine S) : Program app.Reply α → Routine app α
  | .done value => .done value
  | .call item next => .call (.work routine item) fun reply => working routine (next reply)

/-- `Run` of a reloader, for a number of ticks; `reloadOnce` passes on what it keeps. -/
def reloadLoop {τ : Type} (reloadOnce : τ → Program app.Reply τ) : Nat → τ → Routine app Unit
  | 0,_ => request .awaitStop
  | ticks+1,kept => do
    let stop : Bool ← request .selectReload
    if stop then return ()
    else reloadLoop reloadOnce ticks (← working .reload (reloadOnce kept))

def reloadRoutine {τ : Type} (reloadOnce : τ → Program app.Reply τ) (ticks : Nat) (kept : τ) : Routine app Outcome := do
  request (.begin .reload)
  reloadLoop reloadOnce ticks kept
  request .reloadDone
  return .ended

/-- A request that a server has accepted. -/
def handlerRoutine (number : Request S) (handle : Program app.Reply Unit) : Routine app Outcome := do
  request (.accept number)
  working (.handler number) handle
  request (.respond number)
  return .ended

/-- A step of `run` that may fail; what `run` has deferred by then is then run. -/
def constructing (format : String) (deferred : Routine app Unit) (next : Routine app Outcome) :
    Routine app Outcome := do
  let result : Option Error ← request .construct
  match result with
  | some err =>
    deferred
    return .returned (some (.wrap format [] err))
  | none => next

def openingPool (format : String) (next : Routine app Outcome) : Routine app Outcome := do
  let result : Option Error ← request .openPool
  match result with
  | some err => return .returned (some (.wrap format [] err))
  | none => next

def creatingClient (hotReload : Bool) (format : String) (deferred : Routine app Unit) (next : Routine app Outcome) :
    Routine app Outcome := do
  let result : Option Error ← request (.newClient hotReload)
  match result with
  | some err =>
    deferred
    return .returned (some (.wrap format [] err))
  | none => next

/-- `Close` of the publisher or the consumer. -/
def closeRoutine (hotReload : Bool) : Routine app Unit := do
  if hotReload then
    request .stopReload
    request .reloadWait
  request .closeClient

end routines

end ControlPlane.Cmd
