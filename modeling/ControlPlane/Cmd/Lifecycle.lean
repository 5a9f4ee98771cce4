import ControlPlane.Cmd.Kept

/-! The goroutines keep to their protocols, so what is known of a process holds in every
interleaving of them. Whatever main waits for at its end, it gets: none of the goroutines that it
waits for can be held up for good. -/
namespace ControlPlane.Cmd
open Go Effect Effect.Program Effect.Protocol Effect.Interleaving

variable {S : Type} {app : App S}

def idle : Goroutine S → Phase app
  | .main => .main .initial
  | .server _ => .server .idle
  | .drainer _ => .drainer .idle
  | .reload => .reload .idle
  | .handler _ => .handler .idle

theorem initial_consistent [Fintype S] : Consistent app .initial (View.of idle) where
  client := rfl
  pool := rfl
  servers := fun _ => ⟨rfl,rfl,Or.inl ⟨rfl,rfl⟩⟩
  recorded := nofun
  start := nofun
  reload := ⟨rfl,Or.inl ⟨rfl,rfl⟩⟩
  stopping := by rintro (stage | stage) <;> cases stage
  drains :=
    { phases := fun _ _ => rfl
      closed := fun _ drained => (drained rfl).elim
      known := fun _ => ⟨nofun,nofun⟩
      told := nofun
      spawned := nofun
      alone := fun _ _ => ⟨rfl,rfl⟩
      apart := nofun
      waited := nofun
      counted := rfl
      failures := fun err => ⟨nofun,by rintro ⟨server,cause,failed,-⟩; cases failed⟩
      read := nofun }
  handlers :=
    { inFlight := fun _ => ⟨nofun,nofun⟩
      served := nofun
      present := fun _ present => (present rfl).elim
      closed := nofun
      idle := nofun
      misused := nofun }

section conclusions
variable [Fintype S] {world : World S} {view : View app}

/-- The same, as main knows it. -/
structure MainPhase.Done (phase : MainPhase app) : Prop where
  client : phase.client ≠ .opened
  pool : phase.pool ≠ .opened
  reload : phase.reload = .absent ∨ phase.reload = .over
  servers : ∀ server, phase.server server = .absent ∨
    (∃ err, phase.server server = .reported err) ∧ phase.drained server = true

end conclusions

variable [DecidableEq S]

section views
variable (phases : Goroutine S → Phase app)

theorem of_main (phase : MainPhase app) :
    View.of (Function.update phases .main (.main phase)) = {View.of phases with main := phase} := by
  simp [View.of,Phase.toMain]

theorem of_server (server : S) (phase : ServerPhase) :
    View.of (Function.update phases (.server server) (.server phase)) =
      {View.of phases with server := Function.update (View.of phases).server server phase} := by
  simp only [View.of,View.mk.injEq]
  refine ⟨by simp,?_,by simp,by simp,by simp⟩
  funext other
  by_cases same : other = server <;> simp [same,Phase.toServer]

theorem of_drainer (server : S) (phase : DrainPhase) :
    View.of (Function.update phases (.drainer server) (.drainer phase)) =
      {View.of phases with drainer := Function.update (View.of phases).drainer server phase} := by
  simp only [View.of,View.mk.injEq]
  refine ⟨by simp,by simp,?_,by simp,by simp⟩
  funext other
  by_cases same : other = server <;> simp [same,Phase.toDrainer]

theorem of_reload (phase : ReloadPhase) :
    View.of (Function.update phases .reload (.reload phase)) = {View.of phases with reload := phase} := by
  simp [View.of,Phase.toReload]

theorem of_handler (request : Request S) (phase : HandlerPhase) :
    View.of (Function.update phases (.handler request) (.handler phase)) =
      {View.of phases with handler := Function.update (View.of phases).handler request phase} := by
  simp only [View.of,View.mk.injEq]
  refine ⟨by simp,by simp,by simp,by simp,?_⟩
  funext other
  by_cases same : other = request <;> simp [same,Phase.toHandler]

end views

/-- A server that returns since it was shut down. -/
def closedBy (app : App S) (world : World S) (server : S) : World S :=
  {world with
    exit := Function.update world.exit server (some (app.closedErr server))
    errors := Function.update world.errors server (some none)}

/-- A server that is drained, or that its drainer gives up on. -/
def drainedBy (app : App S) (world : World S) (server : S) (result : Option Error) : World S :=
  {world with
    closing := Function.update world.closing server true
    drained := Function.update world.drained server (some result)
    shutdownErr := match result with
      | some err => world.shutdownErr ++ [shutdownFailure app server err]
      | none => world.shutdownErr
    drains := world.drains - 1}

variable [Fintype S]

theorem process_guarantees :
    Guarantees (Answers app) Signalled (protocol app) fun world phases => Consistent app world (View.of phases) where
  called := by
    intro world phases routine call reply after known allowed answered
    cases routine with
    | main =>
      obtain ⟨expected,kept⟩ := main_kept known allowed answered
      refine ⟨expected,?_⟩
      rw [← of_main] at kept
      exact kept
    | server server =>
      have kept := server_kept known allowed answered
      rw [← of_server] at kept
      exact ⟨trivial,kept⟩
    | drainer server =>
      have kept := drain_kept known allowed answered
      rw [← of_drainer] at kept
      exact ⟨trivial,kept⟩
    | reload =>
      have kept := reload_kept known allowed answered
      rw [← of_reload] at kept
      exact ⟨trivial,kept⟩
    | handler request =>
      have kept := handler_kept known allowed answered
      rw [← of_handler] at kept
      exact ⟨trivial,kept⟩
  kept := by
    rintro world phases after known rfl
    exact {known with
      recorded := fun err some' => ⟨rfl,(known.recorded err some').2⟩
      servers := fun server => (known.servers server).frame rfl rfl rfl rfl rfl id
      drains := {known.drains with}
      handlers := {known.handlers with}}

/-- Where the goroutines end; `final` is where main does. -/
def Ends (final : MainPhase app → Outcome → Prop) : Goroutine S → Phase app → Outcome → Prop
  | .main,phase,outcome => final phase.toMain outcome
  | .server _,phase,_ => ∃ sent, phase.toServer = .reported sent
  | .drainer _,phase,_ => ∃ result, phase.toDrainer = .finished result
  | .reload,phase,_ => phase.toReload = .finished
  | .handler _,phase,_ => phase.toHandler ≠ .serving

/-- What is known at any moment of a run. -/
structure Reached (app : App S) (final : MainPhase app → Outcome → Prop)
    (system : System (World S) (Goroutine S) (Call.Reply app) Outcome) (phases : Goroutine S → Phase app) : Prop where
  known : Consistent app system.shared (View.of phases)
  threads : ∀ routine,
    InPhase (protocol app routine) (Ends final routine) (idle routine) (phases routine) (system.threads routine)

/-- Where all goroutines keep to their protocols, what they know of each other holds in every interleaving. -/
theorem run_reached {final : MainPhase app → Outcome → Prop} {programs : Goroutine S → Routine app Outcome}
    (obeys : ∀ routine, (protocol app routine).Obeys (Ends final routine) (idle routine) (programs routine))
    {history : List (Event (Goroutine S) (Call.Reply app) Outcome)}
    {system : System (World S) (Goroutine S) (Call.Reply app) Outcome}
    (run : Run (Answers app) Signalled programs (.initial .initial) history system) :
    Reached app final system (phasesAt (protocol app) idle history) := by
  obtain ⟨known,threads⟩ := run_obeys process_guarantees obeys initial_consistent run
  exact ⟨known,threads⟩

/-- The work that a goroutine has done, with what it was answered. -/
def workOf : (Σ call : Call app, call.Reply) → Option ((item : app.Work) × app.Reply item)
  | ⟨.work _ item,reply⟩ => some ⟨item,reply⟩
  | _ => none

section routines
variable {final : MainPhase app → Outcome → Prop}

theorem serverRoutine_obeys (server : S) :
    (protocol app (.server server)).Obeys (Ends final (.server server)) (.server .idle) (serverRoutine server) := by
  refine ⟨rfl,fun _ _ => ⟨rfl,fun err _ => ?_⟩⟩
  change (protocol app (.server server)).Obeys _ (.server (.exited err)) (if _ then _ else _)
  split_ifs with closed
  · exact ⟨⟨rfl,closed,rfl⟩,fun _ _ => ⟨none,rfl⟩⟩
  · exact ⟨⟨by simpa using closed,rfl⟩,fun _ _ => ⟨⟨rfl,rfl⟩,fun _ _ => ⟨_,rfl⟩⟩⟩

theorem drainRoutine_obeys (server : S) :
    (protocol app (.drainer server)).Obeys (Ends final (.drainer server)) (.drainer .idle) (drainRoutine server) := by
  refine ⟨rfl,fun _ _ => ⟨rfl,fun _ _ => ⟨rfl,fun result _ => ?_⟩⟩⟩
  cases result with
  | none => exact ⟨rfl,fun _ _ => ⟨none,rfl⟩⟩
  | some err => exact ⟨⟨err,rfl,rfl⟩,fun _ _ => ⟨trivial,fun _ _ => ⟨some err,rfl⟩⟩⟩

/-- Work of a routine whose phase allows it and does not change by it. -/
theorem working_obeys {α : Type} {routine : Goroutine S} {phase : Phase app} {allowed : app.Work → Prop}
    {ends : Phase app → α → Prop} {work : Program app.Reply α}
    (allows : ∀ item, allowed item → (protocol app routine).allows phase (.work routine item))
    (stays : ∀ item reply, (protocol app routine).next phase (.work routine item) reply = phase)
    (calls : work.Calls allowed) (ended : ∀ value, ends phase value) :
    (protocol app routine).Obeys ends phase (working routine work) := by
  induction work with
  | done value => exact ended value
  | call item next ih =>
    refine ⟨allows item calls.1,fun reply _ => ?_⟩
    rw [stays]
    exact ih reply (calls.2 reply)

/-- The work of main, which keeps what it was answered. -/
theorem mainWork_obeys {α : Type} {phase : MainPhase app} (client : phase.client = .opened)
    (pool : phase.pool = .opened) (work : Program app.Reply α) : (protocol app .main).Obeys
      (fun after value => ∃ calls, Trace work calls value ∧ after = .main {phase with worked := phase.worked ++ calls})
      (.main phase) (working .main work) := by
  induction work generalizing phase with
  | done value => exact ⟨[],.done value,by rw [List.append_nil]⟩
  | call item next ih =>
    refine ⟨⟨rfl,fun _ => client,fun _ => pool⟩,fun (reply : app.Reply item) _ => ?_⟩
    have rest : (protocol app .main).Obeys _ (.main {phase with worked := phase.worked ++ [⟨item,reply⟩]}) _ :=
      ih reply client pool
    apply rest.mono
    rintro _ value ⟨calls,trace,rfl⟩
    exact ⟨⟨item,reply⟩::calls,.call reply trace,by simp⟩

/-- The work of a reloader. -/
def App.Reloads {τ : Type} (app : App S) (work : Program app.Reply τ) : Prop :=
  work.Calls fun item => app.usesPool item = false ∧ app.blocks item = false

theorem reloadLoop_obeys {τ : Type} {reloadOnce : τ → Program app.Reply τ}
    (reloads : ∀ kept, app.Reloads (reloadOnce kept)) (ticks : Nat) (kept : τ) :
    (protocol app .reload).Obeys (fun phase _ => phase = .reload .active) (.reload .active)
      (reloadLoop reloadOnce ticks kept) := by
  induction ticks generalizing kept with
  | zero => exact ⟨trivial,fun _ _ => rfl⟩
  | succ ticks ih =>
    refine ⟨trivial,fun stop _ => ?_⟩
    cases stop with
    | true => exact rfl
    | false =>
      have work : (protocol app .reload).Obeys (fun phase _ => phase = .reload .active) (.reload .active)
          (working .reload (reloadOnce kept)) := by
        refine working_obeys ?_ (fun _ _ => rfl) (reloads kept) fun _ => rfl
        exact fun item permitted => ⟨rfl,permitted⟩
      apply work.sequence
      rintro _ later rfl
      exact ih later

theorem reloadRoutine_obeys {τ : Type} {reloadOnce : τ → Program app.Reply τ}
    (reloads : ∀ kept, app.Reloads (reloadOnce kept)) (ticks : Nat) (kept : τ) :
    (protocol app .reload).Obeys (Ends final .reload) (.reload .idle) (reloadRoutine reloadOnce ticks kept) := by
  refine ⟨rfl,fun _ _ => ?_⟩
  apply (reloadLoop_obeys reloads ticks kept).sequence
  rintro _ _ rfl
  exact ⟨trivial,fun _ _ => rfl⟩

theorem handlerRoutine_obeys (number : Request S) (served : app.handlers = true) {handle : Program app.Reply Unit}
    (calls : handle.Calls fun item => app.usesPool item = false) :
    (protocol app (.handler number)).Obeys (Ends final (.handler number)) (.handler .idle)
      (handlerRoutine number handle) := by
  refine ⟨⟨rfl,served⟩,fun _ _ => ?_⟩
  have work : (protocol app (.handler number)).Obeys (fun phase _ => phase = .handler .serving)
      (.handler .serving) (working (.handler number) handle) := by
    refine working_obeys ?_ (fun _ _ => rfl) calls fun _ => rfl
    exact fun item permitted => ⟨rfl,permitted⟩
  apply work.sequence
  rintro _ _ rfl
  exact ⟨rfl,fun _ _ => nofun⟩

theorem closeRoutine_obeys {phase : MainPhase app} {hotReload : Bool} (opened : phase.client = .opened)
    (reload : phase.reload = if hotReload then .running else .absent)
    (drained : ∀ server, phase.server server = .absent ∨ phase.drained server = true) :
    (protocol app .main).Obeys (fun after _ => after = .main {phase with
      client := .closed
      reload := if hotReload then .over else .absent}) (.main phase) (closeRoutine hotReload) := by
  cases hotReload with
  | true =>
    refine ⟨reload,fun _ _ => ⟨rfl,fun _ _ => ⟨⟨opened,Or.inr rfl,drained⟩,fun _ _ => rfl⟩⟩⟩
  | false =>
    refine ⟨⟨opened,Or.inl reload,drained⟩,fun _ _ => ?_⟩
    change _ = _
    rw [show (if false = true then ReloadStage.over else .absent) = phase.reload from reload.symm]
    rfl

section reading
variable {α : Type} {phase : MainPhase app} {ends : Phase app → α → Prop} {next : Option Error → Routine app α}

/-- While a server runs, the start error that main reads says nothing yet. -/
theorem startErr_early {server : S} (running : phase.server server = .running)
    (goesOn : ∀ err, (protocol app .main).Obeys ends (.main phase) (next err)) :
    (protocol app .main).Obeys ends (.main phase) (request .startErr >>= next) := by
  refine ⟨trivial,fun err _ => ?_⟩
  have same : mainNext app phase .startErr err = phase := if_neg fun collected => collected server running
  exact (congrArg (fun phase => (protocol app .main).Obeys ends (.main phase) (next err)) same).mpr (goesOn err)

/-- Once all servers have reported, it tells whether one of them has failed. -/
theorem startErr_late (collected : phase.Collected)
    (goesOn : ∀ err, (∀ server failure, phase.server server = .reported (some failure) → err.isSome) →
      (protocol app .main).Obeys ends (.main {phase with start := some err}) (next err)) :
    (protocol app .main).Obeys ends (.main phase) (request .startErr >>= next) := by
  refine ⟨trivial,fun err recorded => ?_⟩
  have same : mainNext app phase .startErr err = {phase with start := some err} := if_pos collected
  have rest := goesOn err (recorded collected)
  exact (congrArg (fun phase => (protocol app .main).Obeys ends (.main phase) (next err)) same).mpr rest

end reading

section constructors
variable {phase : MainPhase app} {ends : Phase app → Outcome → Prop} {format : String} {deferred : Routine app Unit}
  {next : Routine app Outcome}

/-- What was deferred leaves a phase in which `run` may return any error. -/
abbrev Cleans (app : App S) (ends : Phase app → Outcome → Prop) (phase : Phase app) (deferred : Routine app Unit) :
    Prop := (protocol app .main).Obeys (fun after _ => ∀ err, ends after (.returned (some err))) phase deferred

theorem constructing_obeys (cleans : Cleans app ends (.main phase) deferred)
    (goesOn : (protocol app .main).Obeys ends (.main phase) next) : (protocol app .main).Obeys ends (.main phase)
      (constructing format deferred next) := by
  refine ⟨trivial,fun result _ => ?_⟩
  cases result with
  | none => exact goesOn
  | some err => exact cleans.sequence fun _ _ ended => ended _

theorem openingPool_obeys (absent : phase.pool = .absent) (failing : ∀ err, ends (.main phase) (.returned (some err)))
    (goesOn : (protocol app .main).Obeys ends (.main {phase with pool := .opened}) next) :
    (protocol app .main).Obeys ends (.main phase) (openingPool format next) := by
  refine ⟨absent,fun result _ => ?_⟩
  cases result with
  | none => exact goesOn
  | some err => exact failing _

theorem creatingClient_obeys {hotReload : Bool} (absent : phase.client = .absent)
    (cleans : Cleans app ends (.main phase) deferred)
    (goesOn : (protocol app .main).Obeys ends
      (.main {phase with client := .opened,reload := if hotReload then .running else .absent}) next) :
    (protocol app .main).Obeys ends (.main phase) (creatingClient hotReload format deferred next) := by
  refine ⟨absent,fun result _ => ?_⟩
  cases result with
  | none => exact goesOn
  | some err => exact cleans.sequence fun _ _ ended => ended _

end constructors

end routines

section waiting
variable {final : MainPhase app → Outcome → Prop} {system : System (World S) (Goroutine S) (Call.Reply app) Outcome}
  {phases : Goroutine S → Phase app} (reached : Reached app final system phases)
include reached

/-- A server that was told to close and cannot go on has reported. -/
theorem server_reports {server : S} (running : (View.of phases).main.server server = .running)
    (closing : system.shared.closing server = true)
    (held : ¬Ready (Due app) system.shared (system.threads (.server server))) :
    (system.shared.errors server).isSome := by
  have here := reached.known.servers server
  rw [running] at here
  rcases (reached.threads (.server server)).held held with ⟨_,_,sent,reported⟩ | ⟨call,_,_,allowed,blocked⟩
  · change (View.of phases).server server = _ at reported
    rw [reported] at here
    obtain ⟨_,_,_,⟨_,errors⟩ | ⟨stage,_⟩⟩ := here
    · simp [errors]
    · cases stage
  · change serverAllows app server ((View.of phases).server server) call at allowed
    exfalso
    cases phase : (View.of phases).server server with
    | idle =>
      rw [phase] at allowed here
      obtain ⟨_,_,⟨stage,_⟩ | ⟨_,started⟩⟩ := here
      · cases stage
      cases call with
      | begin routine =>
        cases allowed
        exact blocked started
      | _ => exact allowed
    | serving =>
      rw [phase] at allowed
      cases call with
      | start name =>
        cases allowed
        exact blocked closing
      | _ => exact allowed
    | exited err =>
      rw [phase] at allowed here
      cases call with
      | recordStartErr wrapped => exact blocked trivial
      | sendErr name sent =>
        cases allowed.1
        exact blocked here.2.2.2
      | _ => exact allowed
    | recorded err =>
      rw [phase] at allowed here
      cases call with
      | sendErr name sent =>
        cases allowed.1
        exact blocked here.1.2.2.2
      | _ => exact allowed
    | reported sent =>
      rw [phase] at allowed
      cases call <;> exact allowed

/-- A drainer that main waits for and that cannot go on has finished. -/
theorem drainer_finishes {server : S} (spawned : (View.of phases).main.drainer server = true)
    (held : ¬Ready (Due app) system.shared (system.threads (.drainer server))) :
    ∃ result, (View.of phases).drainer server = .finished result := by
  rcases (reached.threads (.drainer server)).held held with ⟨_,_,finished⟩ | ⟨call,_,_,allowed,blocked⟩
  · exact finished
  · change drainAllows app server ((View.of phases).drainer server) call at allowed
    exfalso
    cases phase : (View.of phases).drainer server with
    | idle =>
      rw [phase] at allowed
      cases call with
      | begin routine =>
        cases allowed
        exact blocked (reached.known.drains.spawned server spawned)
      | _ => exact allowed
    | drained result =>
      rw [phase] at allowed
      cases call with
      | recordShutdownErr wrapped => exact blocked trivial
      | drainDone => exact blocked trivial
      | _ => exact allowed
    | _ =>
      rw [phase] at allowed
      cases call <;> first | exact allowed | exact blocked trivial

/-- A reload goroutine that was told to stop and cannot go on has ended. -/
theorem reload_ends (stopping : (View.of phases).main.reload = .stopping)
    (held : ¬Ready (Due app) system.shared (system.threads .reload)) : system.shared.reloadEnded = true := by
  have here := reached.known.reload
  have stopped := reached.known.stopping (Or.inl stopping)
  rcases (reached.threads .reload).held held with ⟨_,_,finished⟩ | ⟨call,_,_,allowed,blocked⟩
  · change (View.of phases).reload = _ at finished
    rw [finished] at here
    exact here.1
  · change reloadAllows app (View.of phases).reload call at allowed
    exfalso
    cases phase : (View.of phases).reload with
    | idle =>
      rw [phase] at allowed here
      obtain ⟨_,⟨absent,_⟩ | ⟨_,_,started⟩⟩ := here
      · cases absent.symm.trans stopping
      cases call with
      | begin routine =>
        cases allowed
        exact blocked started
      | _ => exact allowed
    | active =>
      rw [phase] at allowed
      cases call with
      | selectReload => exact blocked trivial
      | awaitStop => exact blocked stopped
      | work routine item => exact blocked (Or.inr allowed.2.2)
      | reloadDone => exact blocked trivial
      | _ => exact allowed
    | finished =>
      rw [phase] at allowed
      cases call <;> exact allowed

/-- Main waits for the run's context, which was not cancelled yet. -/
def Waiting (app : App S) (system : System (World S) (Goroutine S) (Call.Reply app) Outcome) : Prop :=
  system.shared.cancelled = false ∧ ∃ call rest, system.threads .main = .running (.call call rest) ∧
    (call = .runDone ∨ ∃ item, call = .work .main item ∧ app.blocks item = true)

/-- When no goroutine but those of the handlers can go on, main has returned or it waits for the
run's context, which was not cancelled yet. -/
theorem main_returns (held : ∀ routine, (∀ request, routine ≠ .handler request) →
      ¬Ready (Due app) system.shared (system.threads routine)) :
    (∃ outcome, system.threads .main = .returned outcome) ∨ Waiting app system := by
  have known := reached.known
  rcases (reached.threads .main).held (held .main nofun) with ⟨outcome,returned,_⟩ | ⟨call,rest,running,allowed,blocked⟩
  · exact Or.inl ⟨outcome,returned⟩
  change mainAllows app (View.of phases).main call at allowed
  cases call with
  | runDone => exact Or.inr ⟨by simpa [Due] using blocked,_,rest,running,Or.inl rfl⟩
  | work routine item =>
    obtain ⟨waiting,blocks⟩ := not_or.mp blocked
    cases allowed.1
    exact Or.inr ⟨by simpa using waiting,_,rest,running,Or.inr ⟨item,rfl,by simpa using blocks⟩⟩
  | recvErr server =>
    have closing := (known.drains.known server).1 allowed.2
    exact (blocked (server_reports reached allowed.1 closing (held _ nofun))).elim
  | drainWait =>
    have finished (server : S) : ((View.of phases).drainer server).pending = 0 := by
      obtain ⟨result,finished⟩ := drainer_finishes reached (allowed.2 server) (held _ nofun)
      rw [finished]
      rfl
    have all : system.shared.drains = 0 := by
      rw [known.drains.counted,if_pos allowed.1]
      exact Finset.sum_eq_zero fun server _ => finished server
    exact (blocked all).elim
  | reloadWait => exact (blocked (reload_ends reached allowed (held _ nofun))).elim
  | _ => first | exact allowed.elim | exact (blocked trivial).elim

/-- Until main has returned, some goroutine goes on, or main waits for the run's context. -/
theorem goes_on (programs : Goroutine S → Routine app Outcome) :
    (∃ outcome, system.threads .main = .returned outcome) ∨ Waiting app system ∨
      ∃ routine event next, (∀ request, routine ≠ .handler request) ∧
        Ready (Due app) system.shared (system.threads routine) ∧
        Step (Answers app) Signalled programs system event next := by
  by_cases moving : ∃ routine, (∀ request, routine ≠ .handler request) ∧
    Ready (Due app) system.shared (system.threads routine)
  · obtain ⟨routine,other,ready⟩ := moving
    obtain ⟨event,next,step⟩ := ready.steps due_answered
    exact Or.inr (Or.inr ⟨routine,event,next,other,ready,step⟩)
  · rw [← or_assoc]
    exact Or.inl (main_returns reached fun routine other ready => moving ⟨routine,other,ready⟩)

end waiting

end ControlPlane.Cmd
