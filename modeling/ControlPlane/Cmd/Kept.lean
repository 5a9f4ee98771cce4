import ControlPlane.Cmd.Phases

/-! What the goroutines know of each other is kept by every call that their phases allow. -/
namespace ControlPlane.Cmd
open Go Effect Effect.Program

variable {S : Type} {app : App S} {world after : World S} {view : View app}

section servers
variable {server : S} {stage : Stage} {phase : ServerPhase}

theorem ServerAt.frame {stage' : Stage} {phase' : ServerPhase} (here : ServerAt app world server stage phase)
    (stages : stage' = stage) (phases : phase' = phase) (exit : after.exit server = world.exit server)
    (errors : after.errors server = world.errors server)
    (started : after.started (.server server) = world.started (.server server))
    (recorded : world.startErr.isSome → after.startErr.isSome) : ServerAt app after server stage' phase' := by
  subst stages phases
  cases phase' <;> simp_all [ServerAt]

theorem ServerAt.absent (here : ServerAt app world server .absent phase) :
    phase = .idle ∧ world.exit server = none ∧ world.errors server = none ∧ world.started (.server server) = false := by
  cases phase <;> simp_all [ServerAt]

theorem ServerAt.sent {err : Option Error} (here : ServerAt app world server stage phase)
    (sent : world.errors server = some err) : phase = .reported err ∧ stage = .running := by
  cases phase <;> simp_all [ServerAt]

/-- A server that has reported has exited, and a failure that it reported has been recorded. -/
theorem ServerAt.collected {err : Option Error} (here : ServerAt app world server (.reported err) phase) :
    (∃ cause, world.exit server = some cause ∧ err = verdict app server cause) ∧ (err.isSome → world.startErr.isSome) ∧
      world.errors server = none := by
  cases phase with
  | reported sent =>
    obtain ⟨-,exit,recorded,⟨impossible,-⟩ | ⟨same,errors⟩⟩ := here
    · cases impossible
    · cases same
      exact ⟨exit,recorded,errors⟩
  | _ => simp [ServerAt] at here

end servers

section reloading
variable {client : Handle} {stage : ReloadStage} {phase : ReloadPhase}

theorem ReloadAt.absent (here : ReloadAt world .absent stage phase) :
    phase = .idle ∧ stage = .absent ∧ world.reloadEnded = false ∧ world.started .reload = false := by
  cases phase <;> simp_all [ReloadAt]

/-- A reload goroutine that is over or was never started does not need the client. -/
theorem ReloadAt.close (here : ReloadAt world client stage phase) (settled : stage = .absent ∨ stage = .over) :
    ReloadAt world .closed stage phase := by
  cases phase <;> rcases settled with rfl | rfl <;> simp_all [ReloadAt,ReloadStage.Live]

theorem ReloadAt.ended (here : ReloadAt world client stage phase) (ended : world.reloadEnded = true) :
    phase = .finished ∧ client ≠ .absent := by
  cases phase <;> simp_all [ReloadAt]

theorem ReloadAt.stop (here : ReloadAt world client .running phase) :
    ReloadAt {world with reloadStopped := true} client .stopping phase := by
  cases phase <;> simp_all [ReloadAt,ReloadStage.Live]

end reloading

section draining
variable {server : S} {flag : Bool} {phase : DrainPhase}

theorem DrainAt.frame {flag' : Bool} {phase' : DrainPhase} (here : DrainAt world server flag phase)
    (flags : flag' = flag) (phases : phase' = phase)
    (closing : world.closing server = true → after.closing server = true)
    (drained : after.drained server = world.drained server) : DrainAt after server flag' phase' := by
  subst flags phases
  cases phase' <;> simp_all [DrainAt]

theorem pending_zero (none : phase.pending = 0) : ∃ result, phase = .finished result := by
  cases phase <;> simp_all [DrainPhase.pending]

end draining

theorem misuse_right [DecidableEq S] {routine : Goroutine S} {wrong : Bool} (right : wrong = false) :
    world.misuse routine wrong = world := by simp [World.misuse,right]

/-- The end of a shutdown tells whether requests are left. -/
theorem HandlersAt.drain [DecidableEq S] {main : MainPhase app} {handler : Request S → HandlerPhase}
    (handlers : HandlersAt app world main handler) {server : S} {err : Option Error}
    (fresh : world.drained server = none) (idle : err = none → ∀ number, world.inFlight (server,number) = false) :
    HandlersAt app {world with drained := Function.update world.drained server (some err)} main handler := by
  refine {handlers with idle := ?_,misused := ?_}
  · intro other drained
    by_cases same : other = server
    · subst same
      exact idle (by simpa using drained)
    · exact handlers.idle other (by simpa [same] using drained)
  · intro routine misused
    obtain ⟨request,cause,named,served,drained⟩ := handlers.misused routine misused
    have different : request.1 ≠ server := by
      rintro rfl
      cases fresh.symm.trans drained
    exact ⟨request,cause,named,served,by simpa [different] using drained⟩

section main
variable [Fintype S]

theorem closeClient_kept (known : Consistent app world view)
    (settled : view.main.reload = .absent ∨ view.main.reload = .over)
    (drained : ∀ server, view.main.server server = .absent ∨ view.main.drained server = true) :
    Consistent app {world with client := .closed} {view with main := {view.main with client := .closed}} :=
  {known with
    client := rfl
    reload := known.reload.close settled
    drains := {known.drains with}
    handlers := {known.handlers with present := fun _ _ => nofun,closed := fun _ => drained}}

theorem startErr_kept (known : Consistent app world view) : Consistent app world
    {view with main := if view.main.Collected then {view.main with start := some world.startErr} else view.main} := by
  split
  next collected =>
    exact {known with
      start := fun err read => ⟨collected,(Option.some.inj read).symm⟩
      drains := {known.drains with}
      handlers := {known.handlers with}}
  next => exact known

theorem addDrains_kept (known : Consistent app world view) (alone : view.main.draining = false)
    (early : ∀ server, view.main.drained server = false) :
    Consistent app {world with drains := world.drains + Fintype.card S}
      {view with main := {view.main with draining := true}} := by
  have none : world.drains = 0 := by simpa [alone] using known.drains.counted
  refine {known with
    drains := {known.drains with alone := nofun,apart := fun _ _ => early,waited := ?_,counted := ?_}
    handlers := {known.handlers with}}
  · intro waited
    cases alone.symm.trans (known.drains.waited waited).1
  · simp [none,(known.drains.alone alone _).1,DrainPhase.pending]

theorem drainWait_kept (known : Consistent app world view) (draining : view.main.draining = true)
    (all : world.drains = 0) :
    Consistent app world
      {view with main := {view.main with closing := fun _ => true,drained := fun _ => true,waited := true}} := by
  have finished : ∀ server, ∃ result, view.drainer server = .finished result := by
    intro server
    have counted := known.drains.counted
    rw [all,if_pos draining] at counted
    exact pending_zero (Finset.sum_eq_zero_iff.mp counted.symm server (Finset.mem_univ server))
  have drained : ∀ server, world.drained server ≠ none := by
    intro server
    obtain ⟨result,phase⟩ := finished server
    have here := known.drains.phases server
    rw [phase] at here
    rw [show world.drained server = some result from here]
    exact Option.some_ne_none result
  refine {known with
    drains := {known.drains with
      phases := ?_,known := ?_,told := ?_,apart := nofun,waited := fun _ => ⟨draining,finished⟩,read := ?_}
    handlers := {known.handlers with closed := fun _ _ => Or.inr rfl}}
  · intro server
    obtain ⟨result,phase⟩ := finished server
    have here := known.drains.phases server
    rw [phase] at here
    simpa [phase,DrainAt] using here
  · exact fun server => ⟨fun _ => known.drains.closed server (drained server),fun _ => drained server⟩
  · exact fun server err told => ⟨rfl,(known.drains.told server err told).2⟩
  · exact fun errs read => ⟨rfl,(known.drains.read errs read).2⟩

theorem shutdownErr_kept (known : Consistent app world view) (waited : view.main.waited = true) :
    Consistent app world {view with main := {view.main with failures := some world.shutdownErr}} :=
  {known with
    drains := {known.drains with read := fun _ read => ⟨waited,(Option.some.inj read).symm⟩}
    handlers := {known.handlers with}}

theorem stopReload_kept (known : Consistent app world view) (running : view.main.reload = .running) :
    Consistent app {world with reloadStopped := true} {view with main := {view.main with reload := .stopping}} := by
  have here := known.reload
  rw [running] at here
  exact {known with
    reload := here.stop
    stopping := fun _ => rfl
    drains := {known.drains with}
    handlers := {known.handlers with}}

theorem reloadWait_kept (known : Consistent app world view) (stopping : view.main.reload = .stopping)
    (ended : world.reloadEnded = true) : Consistent app world {view with main := {view.main with reload := .over}} := by
  obtain ⟨finished,present⟩ := known.reload.ended ended
  refine {known with
    reload := ?_
    stopping := fun _ => known.stopping (Or.inl stopping)
    drains := {known.drains with}
    handlers := {known.handlers with}}
  simp [finished,ReloadAt,ended,present]

variable [DecidableEq S]

theorem newClient_kept (known : Consistent app world view) (absent : view.main.client = .absent) (hotReload : Bool) :
    Consistent app {world with client := .opened, started := Function.update world.started .reload hotReload}
      {view with main := {view.main with client := .opened, reload := if hotReload then .running else .absent}} := by
  have reload := known.reload
  rw [absent] at reload
  obtain ⟨idle,-,ended,-⟩ := reload.absent
  refine {known with
    client := rfl
    servers := fun server => (known.servers server).frame rfl rfl rfl rfl (by simp) id
    reload := ?_
    stopping := ?_
    drains := {known.drains with
      spawned := fun server => by simpa using known.drains.spawned server
      alone := fun alone server => by simpa using known.drains.alone alone server}
    handlers := {known.handlers with present := fun _ _ => nofun,closed := nofun}}
  · cases hotReload <;> simp [idle,ReloadAt,ended,ReloadStage.Live]
  · cases hotReload <;> simp

theorem startServer_kept (known : Consistent app world view) {server : S} (opened : view.main.client = .opened)
    (absent : view.main.server server = .absent) (early : view.main.start = none) :
    Consistent app {world with started := Function.update world.started (.server server) true}
      {view with main := {view.main with server := Function.update view.main.server server .running}} := by
  refine {known with
    servers := ?_
    start := fun err read => by simp [early] at read
    reload := by simpa [ReloadAt] using known.reload
    drains := {known.drains with
      spawned := fun server => by simpa using known.drains.spawned server
      alone := fun alone server => by simpa using known.drains.alone alone server}
    handlers := {known.handlers with served := ?_,present := ?_,closed := ?_}}
  · intro other
    by_cases same : other = server
    · subst same
      have here := known.servers other
      rw [absent] at here
      obtain ⟨idle,exit,errors,_⟩ := here.absent
      simp [idle,ServerAt,exit,errors]
    · exact (known.servers other).frame (by simp [same]) rfl rfl rfl (by simp [same]) id
  · intro request serving
    have before := known.handlers.served request serving
    by_cases same : request.1 = server
    · simp [same,before.2]
    · simpa [same] using before
  · intro _ _
    change view.main.client ≠ .absent
    simp [opened]
  · intro closed
    cases opened.symm.trans closed

theorem startDrainer_kept (known : Consistent app world view) {server : S} (draining : view.main.draining = true) :
    Consistent app {world with started := Function.update world.started (.drainer server) true}
      {view with main := {view.main with drainer := Function.update view.main.drainer server true}} := by
  refine {known with
    servers := fun server => (known.servers server).frame rfl rfl rfl rfl (by simp) id
    reload := by simpa [ReloadAt] using known.reload
    drains := {known.drains with spawned := ?_,alone := fun alone => by cases draining.symm.trans alone}
    handlers := {known.handlers with}}
  intro other
  by_cases same : other = server
  · simp [same]
  · simpa [same] using known.drains.spawned other

theorem recvErr_kept (known : Consistent app world view) {server : S} {err : Option Error}
    (sent : world.errors server = some err) : Consistent app
      {world with errors := Function.update world.errors server none}
      {view with main := {view.main with server := Function.update view.main.server server (.reported err)}} := by
  obtain ⟨phase,running⟩ := (known.servers server).sent sent
  refine {known with
    servers := ?_
    start := ?_
    drains := {known.drains with}
    handlers := {known.handlers with served := ?_,present := ?_,closed := ?_}}
  · intro other
    by_cases same : other = server
    · subst same
      have here := known.servers other
      rw [phase] at here
      obtain ⟨started,exit,recorded,-⟩ := here
      simp only [phase,Function.update_self]
      exact ⟨started,exit,recorded,Or.inr ⟨rfl,by simp⟩⟩
    · exact (known.servers other).frame (by simp [same]) rfl rfl (by simp [same]) rfl id
  · intro err read
    exact absurd running ((known.start err read).1 server)
  · intro request serving
    have before := known.handlers.served request serving
    by_cases same : request.1 = server
    · simp [same,before.2]
    · simpa [same] using before
  · intro other present
    apply known.handlers.present other
    by_cases same : other = server
    · simp [same,running]
    · simpa [same] using present
  · intro closed other
    have before := known.handlers.closed closed other
    by_cases same : other = server
    · subst same
      simpa [running] using before
    · simpa [same] using before

theorem beginShutdown_kept (known : Consistent app world view) (server : S) :
    Consistent app {world with closing := Function.update world.closing server true}
      {view with main := {view.main with closing := Function.update view.main.closing server true}} := by
  have later (other : S) (closing : world.closing other = true) : Function.update world.closing server true
    other = true := by
    by_cases same : other = server <;> simp [same,closing]
  refine {known with
    drains := {known.drains with phases := ?_,closed := ?_,known := ?_}
    handlers := {known.handlers with}}
  · exact fun other => (known.drains.phases other).frame rfl rfl (later other) rfl
  · exact fun other drained => later other (known.drains.closed other drained)
  · intro other
    refine ⟨?_,(known.drains.known other).2⟩
    by_cases same : other = server
    · simp [same]
    · simpa [same] using (known.drains.known other).1

theorem endShutdown_kept (known : Consistent app world view) {server : S} {err : Option Error}
    (closing : view.main.closing server = true) (alone : view.main.draining = false)
    (early : view.main.drained server = false)
    (idle : err = none → ∀ number, world.inFlight (server,number) = false) :
    Consistent app {world with drained := Function.update world.drained server (some err)}
      {view with main := {view.main with
        drained := Function.update view.main.drained server true
        shutdown := Function.update view.main.shutdown server (some err)}} := by
  have fresh : world.drained server = none := by
    have here := known.drains.phases server
    rw [(known.drains.alone alone server).1] at here
    exact here early
  have handlers := known.handlers.drain fresh idle
  refine {known with
    drains := {known.drains with phases := ?_,closed := ?_,known := ?_,told := ?_,apart := ?_}
    handlers := {handlers with closed := ?_}}
  · intro other
    by_cases same : other = server
    · simp [same,(known.drains.alone alone server).1,DrainAt]
    · exact (known.drains.phases other).frame (by simp [same]) rfl id (by simp [same])
  · intro other drained
    by_cases same : other = server
    · subst same
      exact (known.drains.known other).1 closing
    · exact known.drains.closed other (by simpa [same] using drained)
  · intro other
    refine ⟨(known.drains.known other).1,?_⟩
    by_cases same : other = server
    · simp [same]
    · simpa [same] using (known.drains.known other).2
  · intro other result
    by_cases same : other = server
    · simp [same]
    · simpa [same] using known.drains.told other result
  · intro draining
    cases alone.symm.trans draining
  · intro closed other
    have before := known.handlers.closed closed other
    by_cases same : other = server
    · simp [same]
    · simpa [same] using before

theorem main_kept {call : Call app} {reply : call.Reply} (known : Consistent app world view)
    (allowed : mainAllows app view.main call) (answered : Answers app world call reply after) :
    mainExpects app view.main call reply ∧ Consistent app after
      {view with main := mainNext app view.main call reply} := by
  cases answered with
  | construct err => exact ⟨trivial,known⟩
  | poolFailed err => exact ⟨trivial,known⟩
  | openPool => exact ⟨trivial,{known with pool := rfl,drains := {known.drains with},handlers := {known.handlers with}}⟩
  | closePool =>
    have opened : view.main.pool = .opened := allowed
    rw [misuse_right (by simp [known.pool,opened])]
    exact ⟨trivial,{known with pool := rfl,drains := {known.drains with},handlers := {known.handlers with}}⟩
  | clientFailed hotReload err => exact ⟨trivial,known⟩
  | newClient hotReload => exact ⟨trivial,newClient_kept known allowed hotReload⟩
  | closeClient =>
    obtain ⟨opened,settled,drained⟩ := allowed
    rw [misuse_right (by simp [known.client,opened])]
    exact ⟨trivial,closeClient_kept known settled drained⟩
  | go routine =>
    cases routine with
    | server server => exact ⟨trivial,startServer_kept known allowed.1 allowed.2.1 allowed.2.2⟩
    | drainer server => exact ⟨trivial,startDrainer_kept known allowed⟩
    | _ => exact allowed.elim
  | recvErr server err sent => exact ⟨trivial,recvErr_kept known sent⟩
  | runDone => exact ⟨trivial,known⟩
  | startErr =>
    refine ⟨?_,startErr_kept known⟩
    intro _ server failure reported
    have here := known.servers server
    rw [reported] at here
    exact here.collected.2.1 rfl
  | cancelRun =>
    refine ⟨trivial,{known with recorded := ?_,drains := {known.drains with},handlers := {known.handlers with}}⟩
    exact fun err recorded => ⟨rfl,(known.recorded err recorded).2⟩
  | beginShutdown server => exact ⟨trivial,beginShutdown_kept known server⟩
  | endShutdown server err idle => exact ⟨trivial,endShutdown_kept known allowed.1 allowed.2.1 allowed.2.2 idle⟩
  | addDrains count =>
    obtain ⟨alone,early,rfl⟩ := allowed
    exact ⟨trivial,addDrains_kept known alone early⟩
  | drainWait all => exact ⟨trivial,drainWait_kept known allowed.1 all⟩
  | shutdownErr => exact ⟨trivial,shutdownErr_kept known allowed⟩
  | stopReload => exact ⟨trivial,stopReload_kept known allowed⟩
  | reloadWait ended => exact ⟨trivial,reloadWait_kept known allowed ended⟩
  | work routine item reply answered =>
    obtain ⟨rfl,client,pool⟩ := allowed
    rw [misuse_right ?_]
    · exact ⟨trivial,{known with drains := {known.drains with},handlers := {known.handlers with}}⟩
    · rw [known.client,known.pool]
      cases usesClient : app.usesClient item <;> cases usesPool : app.usesPool item <;> simp_all
  | _ => exact allowed.elim

end main

section server
variable [DecidableEq S] [Fintype S] {server : S}

theorem begin_server_kept (known : Consistent app world view) (idle : view.server server = .idle)
    (started : world.started (.server server) = true) :
    Consistent app world {view with server := Function.update view.server server .serving} := by
  refine {known with
    servers := ?_
    drains := {known.drains with}
    handlers := {known.handlers with}}
  intro other
  by_cases same : other = server
  · subst same
    have here := known.servers other
    rw [idle] at here
    obtain ⟨exit,errors,⟨-,stopped⟩ | ⟨stage,-⟩⟩ := here
    · cases started.symm.trans stopped
    · simp [ServerAt,stage,started,exit,errors]
  · exact (known.servers other).frame rfl (by simp [same]) rfl rfl rfl id

theorem start_kept (known : Consistent app world view) (serving : view.server server = .serving) (err : Error) :
    Consistent app {world with exit := Function.update world.exit server (some err)}
      {view with server := Function.update view.server server (.exited err)} := by
  have here := known.servers server
  rw [serving] at here
  obtain ⟨stage,started,running,errors⟩ := here
  refine {known with
    servers := ?_
    recorded := ?_
    drains := {known.drains with}
    handlers := {known.handlers with}}
  · intro other
    by_cases same : other = server
    · subst same
      simp [ServerAt,stage,started,errors]
    · exact (known.servers other).frame rfl (by simp [same]) (by simp [same]) rfl rfl id
  · intro failure recorded
    obtain ⟨cancelled,other,cause,exit,same⟩ := known.recorded failure recorded
    have different : other ≠ server := by
      rintro rfl
      cases running.symm.trans exit
    exact ⟨cancelled,other,cause,by simpa [different] using exit,same⟩

theorem recordStartErr_kept (known : Consistent app world view) {err : Error}
    (exited : view.server server = .exited err) (failed : err.is (app.closedErr server) = false) :
    Consistent app {world with startErr := world.startErr.or (some (startFailure app server err)),cancelled := true}
      {view with server := Function.update view.server server (.recorded err)} := by
  have here := known.servers server
  rw [exited] at here
  refine {known with
    servers := ?_
    recorded := ?_
    start := ?_
    drains := {known.drains with}
    handlers := {known.handlers with}}
  · intro other
    by_cases same : other = server
    · subst same
      simp only [Function.update_self]
      exact ⟨here,failed,by simp⟩
    · exact (known.servers other).frame rfl (by simp [same]) rfl rfl rfl (by simp)
  · intro failure recorded
    cases earlier : world.startErr with
    | none =>
      rw [show failure = startFailure app server err by simpa [earlier] using recorded.symm]
      exact ⟨rfl,server,err,here.2.2.1,by simp [verdict,failed]⟩
    | some first =>
      rw [show failure = first by simpa [earlier] using recorded.symm]
      exact ⟨rfl,(known.recorded first earlier).2⟩
  · intro read collected
    exact absurd here.1 ((known.start read collected).1 server)

theorem sendErr_kept (known : Consistent app world view) {sent : Option Error} {err : Error}
    (here : view.main.server server = .running ∧ world.started (.server server) = true ∧ world.exit server = some err)
    (judged : sent = verdict app server err) (recorded : sent.isSome → world.startErr.isSome) :
    Consistent app {world with errors := Function.update world.errors server (some sent)}
      {view with server := Function.update view.server server (.reported sent)} := by
  obtain ⟨stage,started,exit⟩ := here
  refine {known with
    servers := ?_
    drains := {known.drains with}
    handlers := {known.handlers with}}
  intro other
  by_cases same : other = server
  · subst same
    simp only [Function.update_self]
    exact ⟨started,⟨err,exit,judged⟩,recorded,Or.inl ⟨stage,by simp⟩⟩
  · exact (known.servers other).frame rfl (by simp [same]) rfl (by simp [same]) rfl id

theorem server_kept {call : Call app} {reply : call.Reply} (known : Consistent app world view)
    (allowed : serverAllows app server (view.server server) call) (answered : Answers app world call reply after) :
    Consistent app after
      {view with server := Function.update view.server server (serverNext app (view.server server) call reply)} := by
  have here := known.servers server
  cases phase : view.server server with
  | idle =>
    rw [phase] at allowed
    cases answered with
    | begin routine started =>
      cases allowed
      exact begin_server_kept known phase started
    | _ => exact allowed.elim
  | serving =>
    rw [phase] at allowed
    cases answered with
    | start name err closed =>
      cases allowed
      exact start_kept known phase err
    | _ => exact allowed.elim
  | exited err =>
    rw [phase] at allowed here
    cases answered with
    | recordStartErr wrapped =>
      obtain ⟨failed,rfl⟩ := allowed
      exact recordStartErr_kept known phase failed
    | sendErr name sent room =>
      obtain ⟨rfl,closed,rfl⟩ := allowed
      exact sendErr_kept known ⟨here.1,here.2.1,here.2.2.1⟩ (by simp [verdict,closed]) nofun
    | _ => exact allowed.elim
  | recorded err =>
    rw [phase] at allowed here
    cases answered with
    | sendErr name sent room =>
      obtain ⟨rfl,rfl⟩ := allowed
      obtain ⟨⟨stage,started,exit,-⟩,failed,recorded⟩ := here
      exact sendErr_kept known ⟨stage,started,exit⟩ (by simp [verdict,failed]) fun _ => recorded
    | _ => exact allowed.elim
  | reported sent =>
    rw [phase] at allowed
    cases call <;> exact allowed.elim

end server

section drainer
variable [Fintype S] {server : S}

/-- A drainer that has begun is one of those that main waits for. -/
theorem draining_of_begun (known : Consistent app world view) (server : S)
    (begun : view.drainer server ≠ .idle ∨ world.started (.drainer server) = true) : view.main.draining = true := by
  by_contra alone
  obtain ⟨idle,stopped⟩ := known.drains.alone (by simpa using alone) server
  rcases begun with busy | started
  · exact busy idle
  · cases started.symm.trans stopped

theorem DrainsAt.unwaited {main : MainPhase app} {drainer : S → DrainPhase} (drains : DrainsAt app world main drainer)
    (busy : (drainer server).pending = 1) : main.waited = false := by
  by_contra waited
  obtain ⟨result,finished⟩ := (drains.waited (by simpa using waited)).2 server
  simp [finished,DrainPhase.pending] at busy

theorem DrainsAt.positive {main : MainPhase app} {drainer : S → DrainPhase} (drains : DrainsAt app world main drainer)
    (begun : main.draining = true) (busy : (drainer server).pending = 1) : 1 ≤ world.drains := by
  rw [drains.counted,if_pos begun,← busy]
  exact Finset.single_le_sum (fun other _ => Nat.zero_le (drainer other).pending) (Finset.mem_univ server)

variable [DecidableEq S]

theorem pending_update (drainer : S → DrainPhase) (server : S) (phase : DrainPhase) :
    ∑ other, (Function.update drainer server phase other).pending + (drainer server).pending =
      ∑ other, (drainer other).pending + phase.pending := by
  have before := Finset.add_sum_erase Finset.univ (fun other => (drainer other).pending) (Finset.mem_univ server)
  have later := Finset.add_sum_erase Finset.univ (fun other => (Function.update drainer server phase other).pending)
    (Finset.mem_univ server)
  have rest : ∑ other ∈ Finset.univ.erase server, (Function.update drainer server phase other).pending =
      ∑ other ∈ Finset.univ.erase server, (drainer other).pending := by
    apply Finset.sum_congr rfl
    intro other member
    rw [Function.update_of_ne (Finset.ne_of_mem_erase member)]
  rw [rest] at later
  simp only [Function.update_self] at later
  omega

/-- What one step of a drainer has to leave behind. -/
structure DrainStep (app : App S) (world after : World S) (known : Bool) (server : S) (old new : DrainPhase) :
    Prop where
  busy : old.pending = 1
  here : DrainAt after server known new
  others : ∀ other, other ≠ server → after.drained other = world.drained other
  closing : ∀ other, world.closing other = true → after.closing other = true
  started : after.started = world.started
  closed : after.drained server ≠ none → after.closing server = true
  counted : after.drains + 1 = world.drains + new.pending
  failures : ∀ err, err ∈ after.shutdownErr ↔ err ∈ world.shutdownErr ∨
    ∃ cause, new.failure = some cause ∧ err = shutdownFailure app server cause
  kept : ∀ cause, old.failure = some cause → new.failure = some cause

theorem DrainsAt.step {main : MainPhase app} {drainer : S → DrainPhase} {phase : DrainPhase}
    (drains : DrainsAt app world main drainer) (begun : main.draining = true)
    (step : DrainStep app world after (main.drained server) server (drainer server) phase) :
    DrainsAt app after main (Function.update drainer server phase) := by
  have unwaited := drains.unwaited step.busy
  exact {
    phases := by
      intro other
      by_cases same : other = server
      · subst same
        simpa using step.here
      · exact (drains.phases other).frame rfl (by simp [same]) (step.closing other) (step.others other same)
    closed := by
      intro other drained
      by_cases same : other = server
      · subst same
        exact step.closed drained
      · rw [step.others other same] at drained
        exact step.closing other (drains.closed other drained)
    known := by
      intro other
      refine ⟨fun closing => step.closing other ((drains.known other).1 closing),?_⟩
      intro drained
      cases (drains.apart begun unwaited other).symm.trans drained
    told := by
      intro other err told
      cases (drains.apart begun unwaited other).symm.trans (drains.told other err told).1
    spawned := fun other spawned => by rw [step.started,drains.spawned other spawned]
    alone := fun alone => by cases begun.symm.trans alone
    apart := drains.apart
    waited := fun waited => by cases unwaited.symm.trans waited
    counted := by
      have before := drains.counted
      have later := pending_update drainer server phase
      have counts := step.counted
      rw [if_pos begun] at before ⊢
      rw [step.busy] at later
      omega
    failures := by
      intro err
      rw [step.failures,drains.failures]
      constructor
      · rintro (⟨other,cause,failed,same⟩ | ⟨cause,failed,same⟩)
        · refine ⟨other,cause,?_,same⟩
          by_cases here : other = server
          · subst here
            simpa using step.kept cause failed
          · simpa [here] using failed
        · exact ⟨server,cause,by simpa using failed,same⟩
      · rintro ⟨other,cause,failed,same⟩
        by_cases here : other = server
        · subst here
          exact Or.inr ⟨cause,by simpa using failed,same⟩
        · exact Or.inl ⟨other,cause,by simpa [here] using failed,same⟩
    read := fun errs read => by cases unwaited.symm.trans (drains.read errs read).1 }

theorem drainBegin_kept (known : Consistent app world view) (idle : view.drainer server = .idle)
    (started : world.started (.drainer server) = true) :
    Consistent app world {view with drainer := Function.update view.drainer server .begun} := by
  have begun := draining_of_begun known server (Or.inr started)
  have unwaited := known.drains.unwaited (show (view.drainer server).pending = 1 by rw [idle]; rfl)
  have here := known.drains.phases server
  rw [idle] at here
  have fresh : world.drained server = none := here (known.drains.apart begun unwaited server)
  refine {known with drains := known.drains.step begun ?_,handlers := {known.handlers with}}
  rw [idle]
  exact ⟨rfl,fresh,fun _ _ => rfl,fun _ => id,rfl,known.drains.closed server,rfl,by simp [DrainPhase.failure],nofun⟩

theorem drainClosing_kept (known : Consistent app world view) (begun : view.drainer server = .begun) :
    Consistent app {world with closing := Function.update world.closing server true}
      {view with drainer := Function.update view.drainer server .closing} := by
  have draining := draining_of_begun known server (Or.inl (by simp [begun]))
  have here := known.drains.phases server
  rw [begun] at here
  have later (other : S) (closing : world.closing other = true) :
      Function.update world.closing server true other = true := by
    by_cases same : other = server <;> simp [same,closing]
  refine {known with drains := known.drains.step draining ?_,handlers := {known.handlers with}}
  rw [begun]
  exact ⟨rfl,⟨by simp,here⟩,fun _ _ => rfl,later,rfl,fun _ => by simp,rfl,by simp [DrainPhase.failure],nofun⟩

theorem drainEnded_kept (known : Consistent app world view) (closing : view.drainer server = .closing)
    {err : Option Error} (idle : err = none → ∀ number, world.inFlight (server,number) = false) :
    Consistent app {world with drained := Function.update world.drained server (some err)}
      {view with drainer := Function.update view.drainer server (.drained err)} := by
  have draining := draining_of_begun known server (Or.inl (by simp [closing]))
  have here := known.drains.phases server
  rw [closing] at here
  refine {known with drains := known.drains.step draining ?_,handlers := known.handlers.drain here.2 idle}
  rw [closing]
  exact ⟨rfl,by simp [DrainAt],fun other different => by simp [different],fun _ => id,rfl,fun _ => here.1,rfl,
    by simp [DrainPhase.failure],nofun⟩

theorem drainFailed_kept (known : Consistent app world view) {err : Error}
    (drained : view.drainer server = .drained (some err)) :
    Consistent app {world with shutdownErr := world.shutdownErr ++ [shutdownFailure app server err]}
      {view with drainer := Function.update view.drainer server (.recorded (some err))} := by
  have draining := draining_of_begun known server (Or.inl (by simp [drained]))
  have here := known.drains.phases server
  rw [drained] at here
  refine {known with drains := known.drains.step draining ?_,handlers := {known.handlers with}}
  rw [drained]
  exact ⟨rfl,⟨here,rfl⟩,fun _ _ => rfl,fun _ => id,rfl,known.drains.closed server,rfl,by simp [DrainPhase.failure],nofun⟩

/-- A drainer that has recorded its failure, if there was one, is done. -/
theorem drainDone_kept (known : Consistent app world view) {result : Option Error}
    (pending : (view.drainer server).pending = 1) (recorded : (view.drainer server).failure = result)
    (drained : world.drained server = some result) (started : view.drainer server ≠ .idle) :
    Consistent app {world with drains := world.drains - 1}
      {view with drainer := Function.update view.drainer server (.finished result)} := by
  have draining := draining_of_begun known server (Or.inl started)
  have positive := known.drains.positive draining pending
  refine {known with drains := known.drains.step draining ?_,handlers := {known.handlers with}}
  refine ⟨pending,drained,fun _ _ => rfl,fun _ => id,rfl,known.drains.closed server,Nat.sub_add_cancel positive,
    fun err => ⟨Or.inl,?_⟩,fun cause failed => recorded.symm.trans failed⟩
  rintro (member | ⟨cause,failed,same⟩)
  · exact member
  · exact (known.drains.failures err).mpr ⟨server,cause,recorded.trans failed,same⟩

theorem drain_kept {call : Call app} {reply : call.Reply} (known : Consistent app world view)
    (allowed : drainAllows app server (view.drainer server) call) (answered : Answers app world call reply after) :
    Consistent app after
      {view with drainer := Function.update view.drainer server (drainNext app (view.drainer server) call reply)} := by
  have here := known.drains.phases server
  cases phase : view.drainer server with
  | idle =>
    rw [phase] at allowed
    cases answered with
    | begin routine started =>
      cases allowed
      exact drainBegin_kept known phase started
    | _ => exact allowed.elim
  | begun =>
    rw [phase] at allowed
    cases answered with
    | beginShutdown name =>
      cases allowed
      exact drainClosing_kept known phase
    | _ => exact allowed.elim
  | closing =>
    rw [phase] at allowed
    cases answered with
    | endShutdown name err idle =>
      cases allowed
      exact drainEnded_kept known phase idle
    | _ => exact allowed.elim
  | drained result =>
    rw [phase] at allowed here
    cases answered with
    | recordShutdownErr wrapped =>
      obtain ⟨err,rfl,rfl⟩ := allowed
      exact drainFailed_kept known phase
    | drainDone =>
      cases allowed
      exact drainDone_kept known (by rw [phase]; rfl) (by rw [phase]; rfl) here (by simp [phase])
    | _ => exact allowed.elim
  | recorded result =>
    rw [phase] at allowed here
    cases answered with
    | drainDone => exact drainDone_kept known (by rw [phase]; rfl) (by rw [phase]; rfl) here.1 (by simp [phase])
    | _ => exact allowed.elim
  | finished result =>
    rw [phase] at allowed
    cases call <;> exact allowed.elim

end drainer

section reload
variable [DecidableEq S] [Fintype S]

theorem reload_kept {call : Call app} {reply : call.Reply} (known : Consistent app world view)
    (allowed : reloadAllows app view.reload call) (answered : Answers app world call reply after) :
    Consistent app after {view with reload := reloadNext app view.reload call reply} := by
  have here := known.reload
  cases phase : view.reload with
  | idle =>
    rw [phase] at allowed here
    cases answered with
    | begin routine started =>
      cases allowed
      obtain ⟨ended,⟨-,stopped⟩ | ⟨live,opened,-⟩⟩ := here
      · cases started.symm.trans stopped
      · exact {known with
          reload := ⟨ended,live,opened⟩
          drains := {known.drains with}
          handlers := {known.handlers with}}
    | _ => exact allowed.elim
  | active =>
    rw [phase] at allowed here
    cases answered with
    | selectReload stop stopped =>
      exact {known with reload := here,drains := {known.drains with},handlers := {known.handlers with}}
    | awaitStop stopped =>
      exact {known with reload := here,drains := {known.drains with},handlers := {known.handlers with}}
    | work routine item reply answered =>
      obtain ⟨rfl,pool,-⟩ := allowed
      rw [misuse_right (by simp [known.client,here.2.2,pool])]
      exact {known with reload := here,drains := {known.drains with},handlers := {known.handlers with}}
    | reloadDone =>
      obtain ⟨-,live,opened⟩ := here
      refine {known with reload := ⟨rfl,?_,?_⟩,drains := {known.drains with},handlers := {known.handlers with}}
      · rcases live with running | stopping
        · simp [running]
        · simp [stopping]
      · simp [opened]
    | _ => exact allowed.elim
  | finished =>
    rw [phase] at allowed
    cases call <;> exact allowed.elim

end reload

section handler
variable [Fintype S] {request : Request S}

/-- A handler that uses a closed client belongs to a server whose shutdown has failed. -/
theorem late_use (known : Consistent app world view) (serving : view.handler request = .serving)
    (late : world.client ≠ .opened) : app.handlers = true ∧ ∃ err, world.drained request.1 = some (some err) := by
  obtain ⟨present,handlers⟩ := known.handlers.served request serving
  have closed : view.main.client = .closed := by
    have made := known.handlers.present request.1 present
    rw [known.client] at late
    cases client : view.main.client <;> simp_all
  have drained : view.main.drained request.1 = true := (known.handlers.closed closed request.1).resolve_left present
  have ended := (known.drains.known request.1).2 drained
  refine ⟨handlers,?_⟩
  cases result : world.drained request.1 with
  | none => exact absurd result ended
  | some failure =>
    cases failure with
    | none =>
      have idle := known.handlers.idle request.1 result request.2
      cases idle.symm.trans ((known.handlers.inFlight request).mpr serving)
    | some err => exact ⟨err,rfl⟩

variable [DecidableEq S]

theorem accept_kept (known : Consistent app world view) (handlers : app.handlers = true)
    (started : world.started (.server request.1) = true) (connected : world.drained request.1 ≠ some none) :
    Consistent app {world with inFlight := Function.update world.inFlight request true}
      {view with handler := Function.update view.handler request .serving} := by
  have present : view.main.server request.1 ≠ .absent := by
    intro absent
    have here := known.servers request.1
    rw [absent] at here
    cases started.symm.trans here.absent.2.2.2
  refine {known with
    drains := {known.drains with}
    handlers := {known.handlers with inFlight := ?_,served := ?_,idle := ?_}}
  · intro other
    by_cases same : other = request
    · simp [same]
    · simpa [same] using known.handlers.inFlight other
  · intro other serving
    by_cases same : other = request
    · subst same
      exact ⟨present,handlers⟩
    · exact known.handlers.served other (by simpa [same] using serving)
  · intro server drained number
    have different : (server,number) ≠ request := by
      rintro rfl
      exact connected drained
    simpa [different] using known.handlers.idle server drained number

theorem respond_kept (known : Consistent app world view) :
    Consistent app {world with inFlight := Function.update world.inFlight request false}
      {view with handler := Function.update view.handler request .finished} := by
  refine {known with
    drains := {known.drains with}
    handlers := {known.handlers with inFlight := ?_,served := ?_,idle := ?_}}
  · intro other
    by_cases same : other = request
    · simp [same]
    · simpa [same] using known.handlers.inFlight other
  · intro other serving
    by_cases same : other = request
    · simp [same] at serving
    · exact known.handlers.served other (by simpa [same] using serving)
  · intro server drained number
    by_cases same : (server,number) = request
    · simp [same]
    · simpa [same] using known.handlers.idle server drained number

theorem handler_kept {call : Call app} {reply : call.Reply} (known : Consistent app world view)
    (allowed : handlerAllows app request (view.handler request) call) (answered : Answers app world call reply after) :
    Consistent app after {view with
      handler := Function.update view.handler request (handlerNext app (view.handler request) call reply)} := by
  cases phase : view.handler request with
  | idle =>
    rw [phase] at allowed
    cases answered with
    | accept name started connected =>
      obtain ⟨rfl,handlers⟩ := allowed
      exact accept_kept known handlers started connected
    | _ => exact allowed.elim
  | serving =>
    rw [phase] at allowed
    cases answered with
    | work routine item reply answered =>
      obtain ⟨rfl,pool⟩ := allowed
      have same : Function.update view.handler request .serving = view.handler := by
        rw [← phase,Function.update_eq_self]
      change Consistent app _ {view with handler := Function.update view.handler request .serving}
      rw [same]
      by_cases opened : world.client = .opened
      · rw [misuse_right (by simp [opened,pool])]
        exact known
      · refine {known with drains := {known.drains with},handlers := {known.handlers with misused := ?_}}
        intro routine misused
        by_cases mine : routine = .handler request
        · obtain ⟨handlers,err,drained⟩ := late_use known phase opened
          exact ⟨request,err,mine,handlers,drained⟩
        · exact known.handlers.misused routine (by simpa [World.misuse,mine] using misused)
    | respond name =>
      cases allowed
      exact respond_kept known
    | _ => exact allowed.elim
  | finished =>
    rw [phase] at allowed
    cases call <;> exact allowed.elim

end handler

end ControlPlane.Cmd
