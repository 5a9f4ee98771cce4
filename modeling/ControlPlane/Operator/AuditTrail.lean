import ControlPlane.Operator.Workers

/-! The audit trail of the operator (`recordTransition`, `operator/internal/controller/metrics.go`).
A report names the state a tenant leaves and the state it enters, so the reports about a tenant
can be read back as a chain; it leads to the state that is stored, also where calls fail and
passes are retried, and no report is missing from the counters. -/
namespace ControlPlane.Operator
open Go Effect Effect.Protocol Effect.Interleaving

def TradingTenantState.all : List TradingTenantState := [.stable,.scaling,.isolated,.degraded]

def isolationTransitionReasons : List String := TradingTenantState.all.map TradingTenantState.name ++ poolReasons

abbrev TransitionCounters := Finmap fun _ : String => Nat

def newTransitionCounters : TransitionCounters :=
  isolationTransitionReasons.foldl (fun counters reason => counters.insert reason 0) ∅

-- A reason without a counter is dropped.
def observeIsolationTransition (counters : TransitionCounters) (reason : String) : TransitionCounters :=
  match counters.lookup reason with
  | none => counters
  | some count => counters.insert reason (count + 1)

/-- The counters after the signals of a cluster. -/
def transitionCounters (signals : List Signal) : TransitionCounters :=
  signals.foldl (fun counters signal => observeIsolationTransition counters signal.reason) newTransitionCounters

theorem zeroed_lookup {reason : String} (reasons : List String) (counters : TransitionCounters)
    (zero : reason ∈ reasons ∨ counters.lookup reason = some 0) :
    (reasons.foldl (fun counters reason => counters.insert reason 0) counters).lookup reason = some 0 := by
  induction reasons generalizing counters with
  | nil => simpa using zero
  | cons first rest ih =>
    apply ih
    by_cases same : reason = first
    · subst same
      exact Or.inr (Finmap.lookup_insert counters)
    · rw [Finmap.lookup_insert_of_ne counters same]
      simpa [same] using zero

theorem transitionCounters_counts (signals : List Signal) {reason : String}
    (known : reason ∈ isolationTransitionReasons) :
    (transitionCounters signals).lookup reason = some (signals.countP fun signal => signal.reason = reason) := by
  induction signals using List.reverseRecOn with
  | nil => exact zeroed_lookup _ ∅ (Or.inl known)
  | append_singleton signals signal ih =>
    have step : transitionCounters (signals ++ [signal]) =
        observeIsolationTransition (transitionCounters signals) signal.reason := by
      simp [transitionCounters]
    rw [step]
    unfold observeIsolationTransition
    by_cases same : signal.reason = reason
    · subst same
      simp [ih]
    · split
      · simp [ih,same]
      · rw [Finmap.lookup_insert_of_ne _ (Ne.symm same),ih]
        simp [same]

/-- Whether the signal reports a new state of the tenant with this name. -/
def reportsOn (key : NamespacedName) (signal : Signal) : Bool :=
  signal.tenant = key && TradingTenantState.all.any fun state => state.name = signal.reason

def reports (key : NamespacedName) (signals : List Signal) : List Signal := signals.filter (reportsOn key)

/-- Reports that lead from no state to the given one, each from where the one before it led to
and to a different state. -/
inductive Trail (key : NamespacedName) : List Signal → Option TradingTenantState → Prop
  | start : Trail key [] none
  | moved (signals : List Signal) (old : Option TradingTenantState) (new : TradingTenantState) (tenant : TradingTenant)
      (trail : Trail key signals old) (own : tenant.key = key) (different : some new ≠ old) :
      Trail key (signals ++ [stateSignal tenant old new]) (some new)

/-- The state that is stored for a name, where there is an object. -/
def stateAt (cluster : Cluster) (key : NamespacedName) : Option (Option TradingTenantState) :=
  (cluster.tenants key).map fun tenant => tenant.status.state

section signals
variable {key : NamespacedName}

theorem reports_other {signals : List Signal} {signal : Signal} (other : reportsOn key signal = false) :
    reports key (signals ++ [signal]) = reports key signals := by
  simp [reports,other]

theorem reportsOn_pool {signal : Signal} (pool : signal.reason ∈ poolReasons) : reportsOn key signal = false := by
  have names : (TradingTenantState.all.any fun state => state.name = signal.reason) = false := by
    simp only [poolReasons,List.mem_cons,List.not_mem_nil,or_false] at pool
    rcases pool with same | same | same <;> rw [same] <;> rfl
  simp [reportsOn,names]

theorem reportsOn_state (tenant : TradingTenant) (old : Option TradingTenantState) (new : TradingTenantState) :
    reportsOn key (stateSignal tenant old new) = decide (tenant.key = key) := by
  have names : (TradingTenantState.all.any fun state => state.name = new.name) = true := by cases new <;> rfl
  change (decide (tenant.key = key) && TradingTenantState.all.any fun state => state.name = new.name) = _
  rw [names,Bool.and_true]

end signals

section states
variable {cluster : Cluster} {key : NamespacedName}

theorem stateAt_putTenant (tenant : TradingTenant) (key : NamespacedName) :
    stateAt (cluster.putTenant tenant) key = if key = tenant.key then some tenant.status.state else
      stateAt cluster key := by
  split
  · rename_i same
    simp [stateAt,same,Cluster.putTenant_self]
  · rename_i different
    simp [stateAt,Cluster.putTenant_other different]

theorem stateAt_updateTenant (tenant : TradingTenant) (key : NamespacedName) :
    stateAt (cluster.updateTenant tenant).2 key = stateAt cluster key := by
  unfold Cluster.updateTenant
  cases found : cluster.tenants tenant.key with
  | none => rfl
  | some current =>
    have keys : current.key = tenant.key := cluster.named _ _ found
    rw [stateAt_putTenant]
    split
    · rename_i same
      simp [stateAt,same,keys,found]
    · rfl

theorem stateAt_updateStatus {tenant : TradingTenant} {old : Option TradingTenantState}
    (stored : stateAt cluster tenant.key = some old) :
    (cluster.updateStatus tenant).1 = .ok () ∧
      stateAt (cluster.updateStatus tenant).2 tenant.key = some tenant.status.state := by
  obtain ⟨current,found,_⟩ := Option.map_eq_some_iff.mp stored
  have keys : current.key = tenant.key := cluster.named _ _ found
  simp [Cluster.updateStatus,found,stateAt_putTenant,keys]

theorem stateAt_updateStatus_other {tenant : TradingTenant} (different : key ≠ tenant.key) :
    stateAt (cluster.updateStatus tenant).2 key = stateAt cluster key := by
  unfold Cluster.updateStatus
  cases found : cluster.tenants tenant.key with
  | none => rfl
  | some current =>
    have keys : current.key = tenant.key := cluster.named _ _ found
    simp [stateAt_putTenant,keys,different]

theorem updateStatus_signals (cluster : Cluster) (tenant : TradingTenant) :
    (cluster.updateStatus tenant).2.signals = cluster.signals := by
  unfold Cluster.updateStatus
  split <;> rfl

end states

/-- A call that writes no status and reports nothing. -/
def ApiCall.Quiet : ApiCall → Prop
  | .updateStatus _ | .record _ => False
  | _ => True

/-- What is known of the reports and of the stored state while a worker is in a phase. -/
def Audited (cluster : Cluster) (key : NamespacedName) : PassPhase → Prop
  | .idle => Trail key (reports key cluster.signals) (stateAt cluster key).join
  | .holding state => Trail key (reports key cluster.signals) state ∧ stateAt cluster key = some state
  | .owing old new =>
    Trail key (reports key cluster.signals) old ∧ some new ≠ old ∧ stateAt cluster key = some (some new)

section audited
variable {ids : NamespacedName → String} {cluster after : Cluster} {key : NamespacedName} {phase : PassPhase}

theorem Audited.kept (audited : Audited cluster key phase) (states : stateAt after key = stateAt cluster key)
    (signals : reports key after.signals = reports key cluster.signals) : Audited after key phase := by
  cases phase <;> simpa only [Audited,states,signals] using audited

theorem Audited.got {tenant : TradingTenant} (audited : Audited cluster key phase) (settled : phase.Settled)
    (found : cluster.tenants key = some tenant) : Audited cluster key (.holding tenant.status.state) := by
  have stored : stateAt cluster key = some tenant.status.state := by simp [stateAt,found]
  cases phase with
  | idle =>
    refine ⟨?_,stored⟩
    simpa [stored] using show Trail key _ (stateAt cluster key).join from audited
  | holding state =>
    obtain ⟨trail,same⟩ := audited
    cases same.symm.trans stored
    exact ⟨trail,stored⟩
  | owing => exact settled.elim

theorem Audited.wrote {old : Option TradingTenantState} {new : TradingTenantState} {tenant : TradingTenant}
    (audited : Audited cluster key (.holding old)) (own : tenant.key = key) (decided : tenant.status.state = some new) :
    Audited (cluster.updateStatus tenant).2 key (PassPhase.wrote (.holding old) tenant.status.state) := by
  subst own
  obtain ⟨trail,stored⟩ := audited
  have signals := updateStatus_signals cluster tenant
  have written := (stateAt_updateStatus stored).2
  rw [decided] at written ⊢
  simp only [PassPhase.wrote]
  split
  · rename_i same
    refine ⟨signals ▸ trail,?_⟩
    rw [written,same]
  · rename_i different
    exact ⟨signals ▸ trail,different,written⟩

theorem Audited.reported {old : Option TradingTenantState} {new : TradingTenantState} {tenant : TradingTenant}
    (audited : Audited cluster key (.owing old new)) (own : tenant.key = key) :
    Audited (cluster.emit (stateSignal tenant old new)) key (.holding (some new)) := by
  obtain ⟨trail,different,stored⟩ := audited
  refine ⟨?_,stored⟩
  have grown : reports key (cluster.emit (stateSignal tenant old new)).signals =
      reports key cluster.signals ++ [stateSignal tenant old new] := by
    simp [Cluster.emit,reports,reportsOn_state,own]
  rw [grown]
  exact .moved _ old new tenant trail own different

theorem Audited.onObjects {op : ApiCall} (audited : Audited cluster key phase) (obs : Observation)
    (objects : op.OnObjects) : Audited (cluster.serve obs op).2 key phase := by
  obtain ⟨tenants,signals⟩ := serve_onObjects cluster obs objects
  exact audited.kept (by simp [stateAt,tenants]) (by rw [signals])

/-- What such a call does to the cluster, whoever makes it and whatever it is answered. -/
theorem Audited.quiet {op : ApiCall} (audited : Audited cluster key phase) (obs : Observation) (quiet : op.Quiet) :
    Audited (cluster.serve obs op).2 key phase := by
  cases op with
  | updateStatus | record => exact quiet.elim
  | updateTenant tenant =>
    apply audited.kept (stateAt_updateTenant tenant key)
    simp only [Cluster.updateTenant]
    split <;> rfl
  | _ => exact audited.onObjects obs trivial

/-- A call of the pass over the name itself. -/
theorem Audited.served {op : ApiCall} (audited : Audited cluster key phase) (obs : Observation)
    (permitted : Permitted ids key phase op) :
    Audited (cluster.serve obs op).2 key (phase.next op (cluster.serve obs op).1) := by
  cases permitted with
  | getTenant _ settled =>
    simp only [Cluster.serve,Cluster.found]
    cases found : cluster.tenants key with
    | none => exact audited
    | some tenant => exact audited.got settled found
  | updateStatus state new tenant own decided =>
    have accepted : (cluster.updateStatus tenant).1 = .ok () := (stateAt_updateStatus (own ▸ audited.2)).1
    simp only [Cluster.serve,accepted,PassPhase.next]
    exact audited.wrote own decided
  | announce state signal pool => exact audited.kept rfl (reports_other (reportsOn_pool pool))
  | report old new tenant own => exact audited.reported own
  | reads state op reads => cases op <;> first | exact reads.elim | exact audited
  | _ => exact audited.quiet obs trivial

/-- A call of the pass over another name. -/
theorem Audited.beside {op : ApiCall} {other : NamespacedName} {own : PassPhase} (audited : Audited cluster key phase)
    (obs : Observation) (permitted : Permitted ids other own op) (different : key ≠ other) :
    Audited (cluster.serve obs op).2 key phase := by
  cases permitted with
  | updateStatus state new tenant same =>
    exact audited.kept (stateAt_updateStatus_other (same ▸ different))
      (congrArg (reports key) (updateStatus_signals cluster tenant))
  | announce state signal pool => exact audited.kept rfl (reports_other (reportsOn_pool pool))
  | report old new tenant same =>
    refine audited.kept rfl (reports_other ?_)
    rw [reportsOn_state,same]
    exact decide_eq_false different.symm
  | reads state op reads => cases op <;> first | exact reads.elim | exact audited
  | _ => exact audited.quiet obs trivial

theorem Audited.administered (audited : Audited cluster key phase) (changed : Administered ids False cluster after) :
    Audited after key phase := by
  cases changed with
  | created tenant fresh named unreported =>
    by_cases same : key = tenant.key
    · -- Only a worker that has not read the object yet can see it appear.
      subst same
      have absent : stateAt cluster tenant.key = none := by simp [stateAt,fresh]
      cases phase with
      | idle =>
        have trail : Trail tenant.key (reports tenant.key cluster.signals) (stateAt cluster tenant.key).join := audited
        change Trail tenant.key (reports tenant.key cluster.signals)
          (stateAt (cluster.putTenant tenant) tenant.key).join
        simpa [stateAt_putTenant,unreported,absent] using trail
      | holding state => cases absent.symm.trans audited.2
      | owing old new => cases absent.symm.trans audited.2.2
    · exact audited.kept (by simp [stateAt_putTenant,same]) rfl
  | edited tenant spec found =>
    refine audited.kept ?_ rfl
    rw [stateAt_putTenant]
    split
    · rename_i same
      simp [stateAt,same,found]
    · rfl
  | deleted _ impossible => exact impossible.elim
  | removed => exact audited.kept rfl rfl

end audited

/-- The reason of a report is one that has a counter. -/
theorem permitted_reason {ids : NamespacedName → String} {key : NamespacedName} {phase : PassPhase} {signal : Signal}
    (permitted : Permitted ids key phase (.record signal)) : signal.reason ∈ isolationTransitionReasons := by
  cases permitted with
  | reads _ _ reads => exact reads.elim
  | announce state signal pool => exact List.mem_append_right _ pool
  | report old new tenant =>
    refine List.mem_append_left _ (List.mem_map_of_mem ?_)
    cases new <;> decide

/-- What is known while the workers are at their passes. -/
structure AuditedRun {ι : Type} (ids : NamespacedName → String) (keys : ι → NamespacedName) (cluster : Cluster)
    (phases : ι → PassPhase) : Prop where
  named : Named ids cluster
  counted : ∀ signal ∈ cluster.signals, signal.reason ∈ isolationTransitionReasons
  audited : ∀ i, Audited cluster (keys i) (phases i)

theorem serve_counted {ids : NamespacedName → String} {key : NamespacedName} {phase : PassPhase} {cluster : Cluster}
    {op : ApiCall} (obs : Observation) (permitted : Permitted ids key phase op)
    (counted : ∀ signal ∈ cluster.signals, signal.reason ∈ isolationTransitionReasons) :
    ∀ signal ∈ (cluster.serve obs op).2.signals, signal.reason ∈ isolationTransitionReasons := by
  cases op with
  | record signal =>
    intro reported member
    rcases List.mem_append.mp member with before | last
    · exact counted reported before
    · rw [List.mem_singleton.mp last]
      exact permitted_reason permitted
  | updateTenant tenant =>
    simp only [Cluster.serve,Cluster.updateTenant]
    split <;> exact counted
  | updateStatus tenant =>
    simp only [Cluster.serve,updateStatus_signals]
    exact counted
  | _ =>
    rw [(serve_onObjects cluster obs (by trivial)).2]
    exact counted

theorem audit_guaranteed {ι : Type} [DecidableEq ι] (ids : NamespacedName → String) (keys : ι → NamespacedName)
    (apart : Function.Injective keys) :
    Guarantees (Serves ApiCall.Quiet) (Administered ids False) (fun i => passProtocol ids (keys i))
      (AuditedRun ids keys) := by
  constructor
  · intro cluster phases i op reply after known permitted served
    -- An answer that is an error leaves the worker in its phase.
    have unmoved (err : Error) (fallible : op.Fallible) :
        Function.update phases i ((passProtocol ids (keys i)).next (phases i) op (.error err)) = phases := by
      rw [show (passProtocol ids (keys i)).next _ _ _ = _ from next_error (phases i) fallible err,
        Function.update_eq_self]
    cases served with
    | answered obs _ _ _ answered =>
      cases answered with
      | served =>
        refine ⟨known.named.expected obs op,known.named.served obs permitted,
          serve_counted obs permitted known.counted,?_⟩
        intro k
        by_cases same : k = i
        · subst same
          rw [Function.update_self]
          exact (known.audited k).served obs permitted
        · rw [Function.update_of_ne same]
          exact (known.audited k).beside obs permitted (apart.ne same)
      | failed err _ fallible =>
        rw [unmoved err fallible]
        exact ⟨expected_error op err,known⟩
    | lost obs _ err quiet fallible =>
      rw [unmoved err fallible]
      exact ⟨expected_error op err,known.named.served obs permitted,serve_counted obs permitted known.counted,
        fun k => (known.audited k).quiet obs quiet⟩
  · intro cluster phases after known changed
    refine ⟨known.named.administered changed,?_,fun i => (known.audited i).administered changed⟩
    cases changed <;> exact known.counted

theorem AuditedRun.trail {ι : Type} {ids : NamespacedName → String} {keys : ι → NamespacedName} {cluster : Cluster}
    {phases : ι → PassPhase} (known : AuditedRun ids keys cluster phases) {i : ι} (settled : (phases i).Settled) :
    Trail (keys i) (reports (keys i) cluster.signals) (stateAt cluster (keys i)).join := by
  have audited := known.audited i
  revert audited settled
  cases phases i with
  | idle => exact fun _ trail => trail
  | holding state =>
    rintro _ ⟨trail,stored⟩
    simpa [stored] using trail
  | owing => exact fun impossible => impossible.elim

/-- A worker that has stored a new state and is about to report it. -/
def ReportDue (cluster : Cluster) (key : NamespacedName)
    (thread : Thread (fun op : ApiCall => Except Error op.Value) Unit) : Prop :=
  ∃ tenant old new rest, thread = .running (.call (.record (stateSignal tenant old new)) rest) ∧ tenant.key = key ∧
    Trail key (reports key cluster.signals) old ∧ some new ≠ old ∧ stateAt cluster key = some (some new)

-- A worker that owes a report may do nothing else, and is not done.
theorem Audited.due {ids : NamespacedName → String} {cluster : Cluster} {key : NamespacedName}
    {old : Option TradingTenantState} {new : TradingTenantState}
    {thread : Thread (fun op : ApiCall => Except Error op.Value) Unit} (audited : Audited cluster key (.owing old new))
    (inPhase : InPhase (passProtocol ids key) (fun phase _ => phase.Settled) .idle (.owing old new) thread) :
    ReportDue cluster key thread := by
  cases thread with
  | waiting => cases inPhase
  | returned value => exact inPhase.elim
  | running program =>
    cases program with
    | done value => exact inPhase.elim
    | call op rest =>
      obtain ⟨permitted,_⟩ := inPhase
      cases permitted with
      | getTenant _ settled => exact settled.elim
      | report _ _ tenant own => exact ⟨tenant,old,new,rest,rfl,own,audited⟩

/-- In every interleaving of the workers' passes, whichever calls fail, the reports about a tenant
lead to the state that is stored for it, unless its worker has just stored another one and reports
it next; none is left when the worker is done; and every report is counted. A call that fails may
have been carried out, but for that which writes the status. -/
theorem transitions_audited {ι : Type} [DecidableEq ι] (json : MappingJson) (rec : TradingTenantReconciler)
    (keys : ι → NamespacedName) (apart : Function.Injective keys) (times : ι → List PassTime)
    (ids : NamespacedName → String) (initial : Cluster) (named : Named ids initial)
    (counted : ∀ signal ∈ initial.signals, signal.reason ∈ isolationTransitionReasons)
    (audited : ∀ i, Trail (keys i) (reports (keys i) initial.signals) (stateAt initial (keys i)).join)
    (history : List (Event ι (fun op : ApiCall => Except Error op.Value) Unit))
    (system : System Cluster ι (fun op : ApiCall => Except Error op.Value) Unit)
    (run : Run (Serves ApiCall.Quiet) (Administered ids False) (fun i => passesOver json rec (keys i) (times i))
      (.initial initial) history system) :
    (∀ i, Trail (keys i) (reports (keys i) system.shared.signals) (stateAt system.shared (keys i)).join ∨
      ReportDue system.shared (keys i) (system.threads i)) ∧
    (∀ i, system.threads i = .returned () →
      Trail (keys i) (reports (keys i) system.shared.signals) (stateAt system.shared (keys i)).join) ∧
    ∀ signal ∈ system.shared.signals, (transitionCounters system.shared.signals).lookup signal.reason =
      some (system.shared.signals.countP fun other => other.reason = signal.reason) := by
  have obeys (i : ι) : (passProtocol ids (keys i)).Obeys _ .idle (passesOver json rec (keys i) (times i)) :=
    passesOver_obeys json rec (times i) trivial
  obtain ⟨known,threads⟩ := run_obeys (audit_guaranteed ids keys apart) obeys ⟨named,counted,audited⟩ run
  refine ⟨?_,?_,fun signal member => transitionCounters_counts _ (known.counted signal member)⟩
  · intro i
    cases phase : phasesAt (fun i => passProtocol ids (keys i)) (fun _ => .idle) history i with
    | owing old new =>
      have owed := known.audited i
      have here := threads i
      rw [phase] at owed here
      exact Or.inr (owed.due here)
    | idle => exact Or.inl (known.trail (by rw [phase]; trivial))
    | holding state => exact Or.inl (known.trail (by rw [phase]; trivial))
  · intro i returned
    have settled := threads i
    rw [returned] at settled
    exact known.trail settled

theorem pair_audited : ∃ history system,
    Run (Serves ApiCall.Quiet) (Administered NamespacedName.name False)
      (fun i => passesOver MappingText.json sampleReconciler (pairKeys i) (pairTimes i)) (.initial pairCluster) history
      system ∧
    (∀ i, Trail (pairKeys i) (reports (pairKeys i) system.shared.signals) (some .isolated)) ∧
    (reports (pairKeys false) system.shared.signals).map Signal.reason = ["Scaling","Isolated"] ∧
    (transitionCounters system.shared.signals).lookup "Isolated" = some 2 := by
  obtain ⟨history,system,run,returned,settled,signals⟩ :=
    pair_run ApiCall.Quiet (Administered NamespacedName.name False)
  obtain ⟨_,trails,counted⟩ := transitions_audited _ _ _ pairKeys_injective _ _ pairCluster pair_named nofun
    (by rintro (_ | _) <;> exact .start) history system run
  refine ⟨history,system,run,?_,?_,?_⟩
  · intro i
    have stored : stateAt system.shared (pairKeys i) = some (some .isolated) := (settled i).1
    have trail := trails i (returned i)
    rwa [stored] at trail
  · have listed := congrArg (fun told => (told.filter fun report : NamespacedName × String =>
      report.1 = pairKeys false && TradingTenantState.all.any (·.name = report.2)).map Prod.snd) signals
    rw [List.filter_map,List.map_map] at listed
    exact listed
  · have isolated : (pairKeys false,"Isolated") ∈ system.shared.signals.map fun signal =>
      (signal.tenant,signal.reason) := by
      rw [signals]
      decide
    obtain ⟨signal,member,same⟩ := List.mem_map.mp isolated
    have count := congrArg (List.countP fun report => report.2 = "Isolated") signals
    rw [List.countP_map] at count
    have reason : signal.reason = "Isolated" := congrArg Prod.snd same
    have found := counted signal member
    rw [reason] at found
    exact found.trans (congrArg some count)

end ControlPlane.Operator
