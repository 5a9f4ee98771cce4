import ControlPlane.Data.Selection
import ControlPlane.Ledger.Breaker
import ControlPlane.Processor.ExactlyOnce

/-! The processors as `cmd/processor` builds them: each consumes one partition, whose records
belong to many keys, and reaches the repositories through two circuit breakers of its own. Seen
from one (tenant, instrument), such a processor is a consumer of the log of that key: it stands
still while a record of another key is handled, and while a breaker is asked or told. -/
namespace ControlPlane.Processor
open Go Ledger Corebreaker Effect Effect.Program Distinct Relation Data.Selection

/-- `Reconcile` over the two decorated repositories. -/
def guardedReconcile (txn : Transaction) : Guarding (Except Error Unit) := (reconcile txn).interpret guard

structure Worker where
  position : Nat
  breakers : Breaker → Machine
  call : Option (Guarding (Except Error Unit))

structure Deployment where
  db : Database
  workers : Nat → Option Worker
  completed : Set Nat

def Deployment.set (d : Deployment) (c : Nat) (worker : Worker) : Deployment :=
  {d with workers := Function.update d.workers c (some worker)}

section
variable (config : Config) (log : List Transaction)

/-- A call made elsewhere, for keys and events that the partition does not have. -/
def Outside : RepositoryCall → Prop
  | .insert txn => (∀ other ∈ log, ¬(txn.tenantID = other.tenantID ∧ txn.instrument = other.instrument)) ∧
      txn.eventID ∉ log.map (·.eventID)
  | .upsert state => ∀ other ∈ log, ¬(state.tenantID = other.tenantID ∧ state.instrument = other.instrument)
  | .getByEventID _ => True
  | .getState _ _ => True

/-- Both breakers as `corebreaker.New` makes them. -/
def Fresh (breakers : Breaker → Machine) : Prop := ∀ breaker, Machine.new config = .ok (breakers breaker)

/-- The processors while no record is given up: one whose `Reconcile` has failed begins with the same
record again, and does not move on to the next before it succeeds. The consumer keeps to this for
`MaxRetries + 1` attempts; what becomes of a record that it dead-letters then and skips is another
matter, which `AbandonedRecords` is about. -/
inductive WorkerStep : Deployment → Deployment → Prop
  | start (d : Deployment) (c p : Nat) (breakers : Breaker → Machine) (absent : d.workers c = none)
      (fresh : Fresh config breakers) (ready : ∀ q < p, q ∈ d.completed) : WorkerStep d (d.set c ⟨p,breakers,none⟩)
  | begin (d : Deployment) (c p : Nat) (breakers : Breaker → Machine) (txn : Transaction)
      (idle : d.workers c = some ⟨p,breakers,none⟩) (record : log[p]? = some txn) :
      WorkerStep d (d.set c ⟨p,breakers,some (guardedReconcile txn)⟩)
  | answer (d : Deployment) (c p : Nat) (breakers : Breaker → Machine) (op : RepositoryCall)
      (next : op.Reply → Guarding (Except Error Unit)) (reply : op.Reply) (db : Database)
      (busy : d.workers c = some ⟨p,breakers,some (.call (.inl op) next)⟩) (answered : Answers d.db op reply db) :
      WorkerStep d {d.set c ⟨p,breakers,some (next reply)⟩ with db}
  | allow (d : Deployment) (c p : Nat) (breakers : Breaker → Machine) (breaker : Breaker) (now : Int)
      (next : Bool × Bool → Guarding (Except Error Unit))
      (busy : d.workers c = some ⟨p,breakers,some (.call (.inr (.allow breaker)) next)⟩) :
      WorkerStep d (d.set c ⟨p,Function.update breakers breaker ((breakers breaker).allow now).2,
        some (next ((breakers breaker).allow now).1)⟩)
  | record (d : Deployment) (c p : Nat) (breakers : Breaker → Machine) (breaker : Breaker)
      (err : Option Error) (now : Int)
      (next : Unit → Guarding (Except Error Unit))
      (busy : d.workers c = some ⟨p,breakers,some (.call (.inr (.record breaker err)) next)⟩) :
      WorkerStep d (d.set c ⟨p,Function.update breakers breaker ((breakers breaker).record err now),some (next ())⟩)
  | succeed (d : Deployment) (c p : Nat) (breakers : Breaker → Machine)
      (returned : d.workers c = some ⟨p,breakers,some (.done (.ok ()))⟩) :
      WorkerStep d {d.set c ⟨p+1,breakers,none⟩ with completed := insert p d.completed}
  | retry (d : Deployment) (c p : Nat) (breakers : Breaker → Machine) (err : Error)
      (returned : d.workers c = some ⟨p,breakers,some (.done (.error err))⟩) : WorkerStep d (d.set c ⟨p,breakers,none⟩)
  -- A new process has new breakers, a rebalance keeps them.
  | crash (d : Deployment) (c p q : Nat) (breakers after : Breaker → Machine)
      (call : Option (Guarding (Except Error Unit)))
      (running : d.workers c = some ⟨p,breakers,call⟩) (back : q ≤ p)
        (restarted : Fresh config after ∨ after = breakers) :
      WorkerStep d (d.set c ⟨q,after,none⟩)
  | elsewhere (d : Deployment) (op : RepositoryCall) (reply : op.Reply) (db : Database) (outside : Outside log op)
      (answered : Answers d.db op reply db) : WorkerStep d {d with db}

/-- Nothing of the partition has been processed. -/
structure Unused (d : Deployment) : Prop where
  idle : ∀ c, d.workers c = none
  untouched : d.completed = ∅
  noState : ∀ txn ∈ log, d.db.reconciledState txn.tenantID txn.instrument = none
  noRows : ∀ txn ∈ log, keyRows txn.tenantID txn.instrument d.db = []
  noEvents : ∀ row ∈ d.db.transactions.rows, row.eventID ∉ log.map (·.eventID)

end

section key
variable (tenantID instrument : Bytes) (log : List Transaction)

def keyed (txn : Transaction) : Bool := txn.tenantID = tenantID ∧ txn.instrument = instrument

/-- The records of one key, in the order of the partition. -/
def keyLog : List Transaction := log.filter (keyed tenantID instrument)

/-- How a worker is seen from the key. -/
inductive SeenAs : Option Worker → Option Consumer → Prop
  | absent : SeenAs none none
  | idle (p : Nat) (breakers : Breaker → Machine) :
      SeenAs (some ⟨p,breakers,none⟩) (some ⟨place (keyed tenantID instrument) log p,none⟩)
  | own (p : Nat) (breakers : Breaker → Machine) (txn : Transaction) (record : log[p]? = some txn)
      (mine : keyed tenantID instrument txn = true) (lower : Guarding (Except Error Unit)) (upper : Reconciling)
      (shadow : Shadow Refusal guard upper lower) :
      SeenAs (some ⟨p,breakers,some lower⟩) (some ⟨place (keyed tenantID instrument) log p,some upper⟩)
  | other (p : Nat) (breakers : Breaker → Machine) (txn : Transaction) (record : log[p]? = some txn)
      (theirs : keyed tenantID instrument txn = false) (lower : Guarding (Except Error Unit)) :
      SeenAs (some ⟨p,breakers,some lower⟩) (some ⟨place (keyed tenantID instrument) log p,none⟩)

/-- The positions of the key's own records, as places in its log. -/
def completedPlaces (completed : Set Nat) : Set Nat :=
  {q | ∃ p ∈ completed, ∃ txn, log[p]? = some txn ∧ keyed tenantID instrument txn = true ∧
    place (keyed tenantID instrument) log p = q}

structure Seen (d : Deployment) (s : System) : Prop where
  db : s.db = d.db
  workers : ∀ c, SeenAs tenantID instrument log (d.workers c) (s.consumers c)
  completed : s.completed = completedPlaces tenantID instrument log d.completed

/-- Seen from each key of the partition, the deployment is in order. -/
def Observed (d : Deployment) : Prop :=
  ∀ txn ∈ log, ∃ s, Seen txn.tenantID txn.instrument log d s ∧
    Inv txn.tenantID txn.instrument (keyLog txn.tenantID txn.instrument log) s

end key

section seen
variable {config : Config} {tenantID instrument : Bytes} {log : List Transaction} {d next : Deployment} {s : System}
  {c : Nat}

theorem keyed_iff {txn : Transaction} :
    keyed tenantID instrument txn = true ↔ txn.tenantID = tenantID ∧ txn.instrument = instrument := by simp [keyed]

theorem keyLog_keyed (txn : Transaction) (member : txn ∈ keyLog tenantID instrument log) :
    txn.tenantID = tenantID ∧ txn.instrument = instrument := keyed_iff.mp (List.mem_filter.mp member).2

theorem Seen.set (seen : Seen tenantID instrument log d s) {worker : Worker} {consumer : Consumer}
    (same : SeenAs tenantID instrument log (some worker) (some consumer)) :
    Seen tenantID instrument log (d.set c worker) (s.set c consumer) := by
  refine ⟨seen.db,?_,seen.completed⟩
  intro other
  by_cases itself : other = c
  · subst itself
    simpa [Deployment.set,System.set] using same
  · simpa [Deployment.set,System.set,itself] using seen.workers other

/-- A step of a worker that its consumer does not see. -/
theorem Seen.stay (seen : Seen tenantID instrument log d s) {worker : Worker}
    (same : SeenAs tenantID instrument log (some worker) (s.consumers c)) :
    Seen tenantID instrument log (d.set c worker) s := by
  refine ⟨seen.db,?_,seen.completed⟩
  intro other
  by_cases itself : other = c
  · subst itself
    simpa [Deployment.set] using same
  · simpa [Deployment.set,itself] using seen.workers other

theorem SeenAs.position {worker : Worker} {seen : Option Consumer}
    (same : SeenAs tenantID instrument log (some worker) seen) :
    ∃ call, seen = some ⟨place (keyed tenantID instrument) log worker.position,call⟩ := by
  cases same with
  | idle p breakers => exact ⟨none,rfl⟩
  | own p breakers txn record mine lower upper shadow => exact ⟨some upper,rfl⟩
  | other p breakers txn record theirs lower => exact ⟨none,rfl⟩

theorem completedPlaces_insert {txn : Transaction} {p : Nat} (record : log[p]? = some txn) (completed : Set Nat) :
    completedPlaces tenantID instrument log (insert p completed) =
      if keyed tenantID instrument txn then
        insert (place (keyed tenantID instrument) log p) (completedPlaces tenantID instrument log completed)
      else completedPlaces tenantID instrument log completed := by
  ext q
  by_cases mine : keyed tenantID instrument txn = true
  · rw [if_pos mine]
    constructor
    · rintro ⟨r,rfl | before,other,found,selected,rfl⟩
      · exact Or.inl rfl
      · exact Or.inr ⟨r,before,other,found,selected,rfl⟩
    · rintro (rfl | ⟨r,before,rest⟩)
      · exact ⟨p,Or.inl rfl,txn,record,mine,rfl⟩
      · exact ⟨r,Or.inr before,rest⟩
  · rw [if_neg mine]
    constructor
    · rintro ⟨r,rfl | before,other,found,selected,rfl⟩
      · cases record.symm.trans found
        exact absurd selected mine
      · exact ⟨r,before,other,found,selected,rfl⟩
    · rintro ⟨r,before,rest⟩
      exact ⟨r,Or.inr before,rest⟩

variable (disjoint : ∀ one ∈ log, ∀ other ∈ log, one.eventID = other.eventID →
  one.tenantID = other.tenantID ∧ one.instrument = other.instrument)

include disjoint in
/-- What a worker asks of the repositories for a record of another key does not touch this one. -/
theorem worker_foreign (observed : Observed log d) {p : Nat} {breakers : Breaker → Machine} {op : RepositoryCall}
    {rest : op.Reply → Guarding (Except Error Unit)}
    (busy : d.workers c = some ⟨p,breakers,some (.call (.inl op) rest)⟩)
    {txn : Transaction} (record : log[p]? = some txn) (theirs : keyed tenantID instrument txn = false) :
    Foreign tenantID instrument (keyLog tenantID instrument log) op := by
  have member := List.mem_of_getElem? record
  have mine : keyed txn.tenantID txn.instrument txn = true := keyed_iff.mpr ⟨rfl,rfl⟩
  have different : ¬(txn.tenantID = tenantID ∧ txn.instrument = instrument) := by
    rw [← keyed_iff,theirs]
    exact nofun
  obtain ⟨s,seen,inv⟩ := observed txn member
  have same := seen.workers c
  rw [busy] at same
  generalize found : s.consumers c = consumer at same
  cases same with
  | other _ _ other recorded away lower =>
    cases record.symm.trans recorded
    rw [mine] at away
    cases away
  | own _ _ other recorded _ lower upper shadow =>
    obtain ⟨next,rfl,_⟩ := shadow.pass guard_layered
    obtain ⟨logged,located,ok⟩ := inv.calls c _ found _ rfl
    cases (getElem?_place record mine).symm.trans located
    generalize shape : (Program.call op next : Reconciling) = call at ok
    cases ok with
    | fresh =>
      rw [reconcile_eq] at shape
      cases shape
      refine ⟨different,?_⟩
      intro event
      obtain ⟨row,inside,event⟩ := List.mem_map.mp event
      obtain ⟨present,same⟩ := List.mem_filter.mp inside
      have shared := disjoint row present txn member event
      rw [keyed_iff,shared.1,shared.2] at same
      exact different same
    | duplicate =>
      rw [reconcileDuplicate_eq] at shape
      cases shape
      exact trivial
    | inserted row _ _ =>
      rw [reconcileInserted_eq] at shape
      cases shape
      exact trivial
    | folded row updated _ _ fold _ =>
      rw [upsertFolded_eq] at shape
      cases shape
      obtain ⟨tenant,name,_⟩ := foldAll_fields _ _ fold
      change ¬(updated.tenantID = tenantID ∧ updated.instrument = instrument)
      rw [tenant,name]
      exact different
    | returned => cases shape
    | failed => cases shape

theorem outside_foreign (present : ∃ txn ∈ log, txn.tenantID = tenantID ∧ txn.instrument = instrument)
    {op : RepositoryCall} (outside : Outside log op) : Foreign tenantID instrument
      (keyLog tenantID instrument log) op := by
  obtain ⟨txn,member,rfl,rfl⟩ := present
  cases op with
  | insert other =>
    refine ⟨outside.1 txn member,?_⟩
    intro event
    obtain ⟨row,inside,same⟩ := List.mem_map.mp event
    exact outside.2 (List.mem_map.mpr ⟨row,(List.mem_filter.mp inside).1,same⟩)
  | upsert state => exact outside txn member
  | getByEventID => exact trivial
  | getState => exact trivial

/-- A breaker that is asked or told: its consumer does not move, or gets the refusal. -/
theorem own_seen (seen : Seen tenantID instrument log d s) {p : Nat} {breakers : Breaker → Machine} {call : BreakerOp}
    {rest : call.Reply → Guarding (Except Error Unit)}
    (busy : d.workers c = some ⟨p,breakers,some (.call (.inr call) rest)⟩)
    (after : Breaker → Machine) (answer : call.Reply) :
    ∃ t, ReflTransGen (Step tenantID instrument (keyLog tenantID instrument log)) s t ∧
      Seen tenantID instrument log (d.set c ⟨p,after,some (rest answer)⟩) t := by
  have same := seen.workers c
  rw [busy] at same
  generalize found : s.consumers c = consumer at same
  cases same with
  | own _ _ txn record mine lower upper shadow =>
    rcases shadow.own guard_layered answer with still | ⟨op,more,reply,rfl,rfl,goesOn⟩
    · exact ⟨s,.refl,seen.stay (found ▸ .own p after txn record mine _ _ still)⟩
    · exact ⟨_,.single (.answer s c _ op more _ s.db found (.failed op _ errCircuitOpen_infrastructure)),
        seen.set (.own p after txn record mine _ _ goesOn)⟩
  | other _ _ txn record theirs lower => exact ⟨s,.refl,seen.stay (found ▸ .other p after txn record theirs _)⟩

include disjoint in
/-- Step lemma: seen from a key, a step of the deployment is a step of the consumers of its log,
or none. -/
theorem step_seen (present : ∃ txn ∈ log, txn.tenantID = tenantID ∧ txn.instrument = instrument)
    (observed : Observed log d) (seen : Seen tenantID instrument log d s) (step : WorkerStep config log d next) :
    ∃ t, ReflTransGen (Step tenantID instrument (keyLog tenantID instrument log)) s t ∧
      Seen tenantID instrument log next t := by
  cases step with
  | start c p breakers absent fresh ready =>
    have same := seen.workers c
    rw [absent] at same
    generalize found : s.consumers c = consumer at same
    cases same
    refine ⟨_,.single (.start s c (place (keyed tenantID instrument) log p) found ?_),seen.set (.idle p breakers)⟩
    intro q below
    obtain ⟨r,before,txn,located,selected,rfl⟩ := exists_of_lt_place below
    rw [seen.completed]
    exact ⟨r,ready r before,txn,located,selected,rfl⟩
  | begin c p breakers txn idle record =>
    have same := seen.workers c
    rw [idle] at same
    generalize found : s.consumers c = consumer at same
    cases same
    cases mine : keyed tenantID instrument txn with
    | true =>
      exact ⟨_,.single (.begin s c _ txn found (getElem?_place record mine)),
        seen.set (.own p breakers txn record mine _ _ (.start guard_layered (reconcile txn)))⟩
    | false => exact ⟨s,.refl,seen.stay (found ▸ .other p breakers txn record mine _)⟩
  | answer c p breakers op rest reply db busy answered =>
    have same := seen.workers c
    rw [busy] at same
    generalize found : s.consumers c = consumer at same
    cases same with
    | own _ _ txn record mine lower upper shadow =>
      obtain ⟨more,rfl,following⟩ := shadow.pass guard_layered
      have moved := seen.set (c := c) (.own p breakers txn record mine _ _ (following reply))
      exact ⟨_,.single (.answer s c _ op more reply db found (seen.db ▸ answered)),rfl,moved.workers,moved.completed⟩
    | other _ _ txn record theirs lower =>
      have foreign := worker_foreign disjoint observed busy record theirs
      have moved : Seen tenantID instrument log (d.set c ⟨p,breakers,some (rest reply)⟩) s :=
        seen.stay (found ▸ .other p breakers txn record theirs _)
      exact ⟨_,.single (.elsewhere s op reply db foreign (seen.db ▸ answered)),rfl,moved.workers,moved.completed⟩
  | allow c p breakers breaker now rest busy =>
    exact own_seen seen busy _ _
  | record c p breakers breaker err now rest busy =>
    exact own_seen seen busy _ _
  | succeed c p breakers returned =>
    have same := seen.workers c
    rw [returned] at same
    generalize found : s.consumers c = consumer at same
    cases same with
    | own _ _ txn record mine lower upper shadow =>
      cases shadow.ended
      have after : place (keyed tenantID instrument) log (p+1) = place (keyed tenantID instrument) log p + 1 := by
        rw [place_succ record,if_pos mine]
      have moved := seen.set (c := c) (.idle (p+1) breakers)
      rw [after] at moved
      refine ⟨_,.single (.succeed s c _ found),seen.db,moved.workers,?_⟩
      change insert _ s.completed = completedPlaces tenantID instrument log (insert p d.completed)
      rw [completedPlaces_insert record,if_pos mine,seen.completed]
    | other _ _ txn record theirs lower =>
      have after : place (keyed tenantID instrument) log (p+1) = place (keyed tenantID instrument) log p := by
        rw [place_succ record,theirs]
        simp
      have moved : Seen tenantID instrument log (d.set c ⟨p+1,breakers,none⟩) s :=
        seen.stay (found ▸ after ▸ .idle (p+1) breakers)
      refine ⟨s,.refl,seen.db,moved.workers,?_⟩
      change s.completed = completedPlaces tenantID instrument log (insert p d.completed)
      rw [completedPlaces_insert record,theirs,seen.completed]
      simp
  | retry c p breakers err returned =>
    have same := seen.workers c
    rw [returned] at same
    generalize found : s.consumers c = consumer at same
    cases same with
    | own _ _ txn record mine lower upper shadow =>
      cases shadow.ended
      exact ⟨_,.single (.retry s c _ err found),seen.set (.idle p breakers)⟩
    | other _ _ txn record theirs lower => exact ⟨s,.refl,seen.stay (found ▸ .idle p breakers)⟩
  | crash c p q breakers after call running back restarted =>
    have same := seen.workers c
    rw [running] at same
    obtain ⟨pending,found⟩ := same.position
    exact ⟨_,.single (.crash s c _ _ pending found (place_mono back)),seen.set (.idle q after)⟩
  | elsewhere op reply db outside answered =>
    exact ⟨_,.single (.elsewhere s op reply db (outside_foreign present outside) (seen.db ▸ answered)),rfl,
      seen.workers,seen.completed⟩

theorem unused_observed (unused : Unused log d) : Observed log d := by
  intro txn member
  refine ⟨⟨d.db,fun _ => none,∅⟩,⟨rfl,?_,?_⟩,initial_inv _ ?_⟩
  · intro c
    rw [unused.idle c]
    exact .absent
  · rw [unused.untouched]
    ext q
    simp [completedPlaces]
  · refine ⟨fun _ => rfl,rfl,unused.noState txn member,unused.noRows txn member,?_⟩
    intro row stored event
    obtain ⟨logged,inside,same⟩ := List.mem_map.mp event
    exact unused.noEvents row stored (List.mem_map.mpr ⟨logged,(List.mem_filter.mp inside).1,same⟩)

include disjoint in
theorem step_observed (observed : Observed log d) (step : WorkerStep config log d next) : Observed log next := by
  intro txn member
  obtain ⟨s,seen,inv⟩ := observed txn member
  obtain ⟨t,reached,after⟩ := step_seen disjoint ⟨txn,member,rfl,rfl⟩ observed seen step
  exact ⟨t,after,(run_inv keyLog_keyed s t inv reached).1⟩

include disjoint in
/-- Run lemma: seen from a key, a run of the deployment is one of the consumers of its log. -/
theorem run_seen (present : ∃ txn ∈ log, txn.tenantID = tenantID ∧ txn.instrument = instrument)
    (observed : Observed log d) (seen : Seen tenantID instrument log d s)
    (reached : ReflTransGen (WorkerStep config log) d next) :
    Observed log next ∧ ∃ t, ReflTransGen (Step tenantID instrument (keyLog tenantID instrument log)) s t ∧
      Seen tenantID instrument log next t := by
  induction reached with
  | refl => exact ⟨observed,s,.refl,seen⟩
  | tail _ step ih =>
    obtain ⟨before,t,run,between⟩ := ih
    obtain ⟨u,more,after⟩ := step_seen disjoint present before between step
    exact ⟨step_observed disjoint before step,u,run.trans more,after⟩

end seen

/-- Exactly-once folding as deployed: processors that share a partition of many keys, each behind
circuit breakers of its own, and each at a record until it has completed it. For every key of the
partition, in every reachable state, the stored state is the fold of the first occurrences of a
prefix of the key's records, its watermark is the id of the last of them and never goes back, and
every record of the key that some processor completed is among them. -/
theorem partition_exactly_once (config : Config) (log : List Transaction)
    (disjoint : ∀ one ∈ log, ∀ other ∈ log, one.eventID = other.eventID →
      one.tenantID = other.tenantID ∧ one.instrument = other.instrument)
    (d₀ d : Deployment) (unused : Unused log d₀) (reached : ReflTransGen (WorkerStep config log) d₀ d)
    (tenantID instrument : Bytes) (present : ∃ txn ∈ log, txn.tenantID = tenantID ∧ txn.instrument = instrument) :
    ∃ n ≤ (keyLog tenantID instrument log).length, ∃ rows : List Transaction,
      rows <+: keyRows tenantID instrument d.db ∧
      rows.map withoutID = (firsts (·.eventID) ((keyLog tenantID instrument log).take n)).map withoutID ∧
      rows.foldlM applyTransaction (.zero tenantID instrument) = .ok (stored tenantID instrument d.db) ∧
      (stored tenantID instrument d.db).lastTransactionID = rows.getLast?.map (·.id) ∧
      (∀ p ∈ d.completed, ∀ txn, log[p]? = some txn → keyed tenantID instrument txn = true →
        txn.eventID ∈ rows.map (·.eventID)) ∧
      ∀ later, ReflTransGen (WorkerStep config log) d later →
        ∀ last, (stored tenantID instrument d.db).lastTransactionID = some last →
          ∃ next, (stored tenantID instrument later.db).lastTransactionID = some next ∧ last.toInt ≤ next.toInt := by
  have observed : Observed log d := by
    induction reached with
    | refl => exact unused_observed unused
    | tail _ step ih => exact step_observed disjoint ih step
  obtain ⟨owner,member,rfl,rfl⟩ := present
  obtain ⟨s,seen,inv⟩ := observed owner member
  have consistent := inv.key.consistent
  obtain ⟨n,bound,occurrences⟩ := folded_firsts s.db inv.key
  have completed := inv.completed
  rw [seen.completed] at completed
  rw [seen.db] at consistent occurrences completed
  refine ⟨n,bound,foldedRows owner.tenantID owner.instrument d.db,foldedRows_initial _ _ d.db,occurrences,consistent,
    (foldAll_fields _ _ consistent).2.2,?_,?_⟩
  · intro p done txn record mine
    obtain ⟨logged,located,folded⟩ := completed _ ⟨p,done,txn,record,mine,rfl⟩
    cases (getElem?_place record mine).symm.trans located
    exact folded
  · intro later more last watermark
    obtain ⟨_,t,run,after⟩ := run_seen disjoint ⟨owner,member,rfl,rfl⟩ observed seen more
    have grows := (run_inv keyLog_keyed s t inv run).2
    rw [seen.db,after.db] at grows
    exact watermark_grows consistent grows last watermark

/-- The pending call of a worker, answered by its breaker or by the database. -/
def Deployment.advance (d : Deployment) (c : Nat) (now : Int) : Deployment :=
  match d.workers c with
  | some ⟨p,breakers,some (.call (.inl op) next)⟩ =>
    {d.set c ⟨p,breakers,some (next (op.execute d.db).1)⟩ with db := (op.execute d.db).2}
  | some ⟨p,breakers,some (.call (.inr (.allow breaker)) next)⟩ =>
    d.set c ⟨p,Function.update breakers breaker ((breakers breaker).allow now).2,
      some (next ((breakers breaker).allow now).1)⟩
  | some ⟨p,breakers,some (.call (.inr (.record breaker err)) next)⟩ =>
    d.set c ⟨p,Function.update breakers breaker ((breakers breaker).record err now),some (next ())⟩
  | _ => d

theorem advance_reached (config : Config) (log : List Transaction) (d : Deployment) (c : Nat) (now : Int) :
    ReflTransGen (WorkerStep config log) d (d.advance c now) := by
  unfold Deployment.advance
  split
  · rename_i p breakers op next busy
    exact .single (.answer d c p breakers op next _ _ busy (.served op))
  · rename_i p breakers breaker next busy
    exact .single (.allow d c p breakers breaker now next busy)
  · rename_i p breakers breaker err next busy
    exact .single (.record d c p breakers breaker err now next busy)
  · exact .refl

def sampleBreakers : Breaker → Machine := fun _ => ⟨⟨5,30000000000,30000000000⟩,.closed,0,zeroTime⟩

def neighbourRecord : Transaction := sampleTrade "tenant-a" 2 sideBuy 100000000 200000000

def mixedLog : List Transaction := [neighbourRecord,sampleRecord]

def emptyDeployment : Deployment := ⟨.empty,fun _ => none,∅⟩

def begun : Deployment :=
  (emptyDeployment.set 0 ⟨0,sampleBreakers,none⟩).set 0 ⟨0,sampleBreakers,some (guardedReconcile neighbourRecord)⟩

-- Three calls, each between the two steps of its breaker.
def handled : Deployment := (List.range 9).foldl (fun d now => d.advance 0 now) begun

theorem handled_reached : ReflTransGen (WorkerStep ⟨5,30000000000,30000000000⟩ mixedLog) emptyDeployment handled := by
  have started : ReflTransGen (WorkerStep ⟨5,30000000000,30000000000⟩ mixedLog) emptyDeployment begun :=
    (ReflTransGen.single (.start emptyDeployment 0 0 sampleBreakers rfl (fun _ => rfl) (by simp))).tail
      (.begin _ 0 0 sampleBreakers neighbourRecord rfl rfl)
  unfold handled
  generalize List.range 9 = times
  generalize begun = d at started
  induction times generalizing d with
  | nil => exact started
  | cons now times ih => exact ih _ (started.trans (advance_reached _ _ d 0 now))

theorem partition_exactly_once_after_one :
    ∃ d, ReflTransGen (WorkerStep ⟨5,30000000000,30000000000⟩ mixedLog) emptyDeployment d ∧ 0 ∈ d.completed ∧
      ∃ n ≤ 1, ∃ rows : List Transaction,
        rows.map withoutID = (firsts (·.eventID) ([neighbourRecord].take n)).map withoutID ∧
        rows.foldlM applyTransaction (.zero (text "tenant-a") (text "BTC-USD")) =
          .ok ⟨text "tenant-a",text "BTC-USD",100000000,200000000,0,some 1⟩ := by
  have finished := handled_reached.tail (.succeed handled 0 0 _ rfl)
  refine ⟨_,finished,Or.inl rfl,?_⟩
  obtain ⟨n,bound,rows,_,occurrences,fold,_⟩ := partition_exactly_once _ mixedLog (by decide +kernel) emptyDeployment _
    ⟨fun _ => rfl,rfl,fun _ _ => rfl,fun _ _ => rfl,by simp [emptyDeployment,Database.empty,TransactionTable.empty]⟩
    finished (text "tenant-a") (text "BTC-USD") ⟨neighbourRecord,by simp [mixedLog],rfl,rfl⟩
  exact ⟨n,bound,rows,occurrences,fold⟩

end ControlPlane.Processor
