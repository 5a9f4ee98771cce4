import ControlPlane.Processor.Kafka.Consumer
import ControlPlane.Processor.StoredState

/-! One consumer that may give records up. Its record callback runs `reconcileWithRetry` on
each record of a key's log in order, with any repository failures between; a record whose
retries are exhausted is dead-lettered and skipped, and any record may come again later.
`Reconcile` answers nil as soon as the watermark has passed a transaction, so the state
includes every transaction so answered only while no unfolded one is passed over. -/
namespace ControlPlane.Processor
open Go Ledger Effect Effect.Program Kafka Relation

structure Progress where
  db : Database
  returned : List Transaction

def Progress.noted (s : Progress) (txn : Transaction) : Except Error Unit → List Transaction
  | .ok () => txn::s.returned
  | .error _ => s.returned

section
variable (tenantID instrument : Bytes) (log : List Transaction)

def Elsewhere (db next : Database) : Prop :=
  ∃ op reply, Foreign tenantID instrument log op ∧ Answers db op reply next

def repositories (allowed : Database → RepositoryCall → Prop) : Environment Database RepositoryCall.Reply :=
  fun db op reply next => ∃ current, ReflTransGen (Elsewhere tenantID instrument log) db current ∧
    allowed current op ∧ Answers current op reply next

/-- A `Reconcile` call of the consumer is a complete run of `Reconcile`; the list keeps the
transactions for which one has returned nil. -/
def services (allowed : Database → RepositoryCall → Prop) : Environment Progress ConsumerCall.Reply
  | s,.reconcile txn,result,t =>
    Runs (repositories tenantID instrument log allowed) s.db (reconcile txn) result t.db ∧
      t.returned = s.noted txn result
  | s,_,_,t => t = s

/-- Deliveries in log order, with redeliveries of any record already reached. -/
inductive Delivery (con : Consumer) (allowed : Database → RepositoryCall → Prop) :
    Nat × Progress → Nat × Progress → Prop
  | next (n fuel : Nat) (s t : Progress) (record : Record) (txn : Transaction) (batch : BatchState)
      (result : Option BatchState) (entry : log[n]? = some txn) (decoded : con.decode record.value = .ok txn)
      (handled : Runs (services tenantID instrument log allowed) s (con.eachRecord fuel batch record).run result t) :
      Delivery con allowed (n,s) (n+1,t)
  | again (n i fuel : Nat) (s t : Progress) (record : Record) (txn : Transaction) (batch : BatchState)
      (result : Option BatchState) (earlier : i < n) (entry : log[i]? = some txn)
      (decoded : con.decode record.value = .ok txn)
      (handled : Runs (services tenantID instrument log allowed) s (con.eachRecord fuel batch record).run result t) :
      Delivery con allowed (n,s) (n,t)

/-- The stored state is the fold of one list of stored transactions of the key, which holds no
event twice and each of the returned transactions once. -/
structure Includes (db : Database) (rows returned : List Transaction) : Prop where
  stored : ∀ row ∈ rows, row ∈ keyRows tenantID instrument db
  distinct : (rows.map (·.eventID)).Nodup
  once : ∀ txn ∈ returned, (rows.filter (·.eventID = txn.eventID)).map withoutID = [withoutID txn]
  folds : foldAll tenantID instrument rows = .ok (Processor.stored tenantID instrument db)

structure Sound (db : Database) : Prop where
  consistent : Consistent tenantID instrument db
  owned : ∀ row ∈ db.transactions.rows, row.eventID ∈ log.map (·.eventID) →
    row ∈ keyRows tenantID instrument db ∧ ∃ txn ∈ log, withoutID row = withoutID txn

structure Accounted (s : Progress) : Prop where
  sound : Sound tenantID instrument log s.db
  folded : ∀ txn ∈ s.returned, txn ∈ log ∧ ∃ row ∈ foldedRows tenantID instrument s.db, row.eventID = txn.eventID

structure Untouched (db : Database) : Prop where
  noState : db.reconciledState tenantID instrument = none
  noRows : keyRows tenantID instrument db = []
  noEvents : ∀ row ∈ db.transactions.rows, row.eventID ∉ log.map (·.eventID)

inductive Stage (db : Database) (txn : Transaction) : Reconciling → Prop
  | fresh : Stage db txn (reconcile txn)
  | duplicate : Stage db txn (reconcileDuplicate txn)
  | inserted (row : Transaction) (member : row ∈ keyRows tenantID instrument db)
      (same : row.eventID = txn.eventID) : Stage db txn (reconcileInserted row)
  | applied (row : Transaction) (updated : ReconciledState) (member : row ∈ keyRows tenantID instrument db)
      (same : row.eventID = txn.eventID) (unfolded : alreadyFolded (stored tenantID instrument db) row = false)
      (apply : applyTransaction (stored tenantID instrument db) row = .ok updated) :
      Stage db txn (upsertFolded updated)
  | returned (row : Transaction) (member : row ∈ foldedRows tenantID instrument db)
      (same : row.eventID = txn.eventID) : Stage db txn (.done (.ok ()))
  | failed (err : Error) : Stage db txn (.done (.error err))

end

/-- No stored transaction of the state's key below the id that is being written is still
unfolded. -/
def NoGap (db : Database) : RepositoryCall → Prop
  | .upsert state => ∀ id, state.lastTransactionID = some id →
    ∀ row ∈ keyRows state.tenantID state.instrument db, row.id.toInt < id.toInt →
      alreadyFolded (stored state.tenantID state.instrument db) row = true
  | _ => True

theorem noGap_upsert {db : Database} {state : ReconciledState} {id : Int64} (last : state.lastTransactionID = some id)
    (passed : ∀ row ∈ keyRows state.tenantID state.instrument db, row.id.toInt < id.toInt →
      alreadyFolded (stored state.tenantID state.instrument db) row = true) : NoGap db (.upsert state) := by
  intro other written
  rw [last] at written
  cases written
  exact passed

section
variable {tenantID instrument : Bytes} {log : List Transaction}

theorem Sound.frame {db next : Database} (sound : Sound tenantID instrument log db)
    (frame : Frame tenantID instrument log db next) : Sound tenantID instrument log next := by
  refine ⟨frame.consistent sound.consistent,?_⟩
  intro row member event
  rw [frame.rows]
  exact sound.owned row (frame.events row member event) event

theorem Stage.frame {db next : Database} {txn : Transaction} {call : Reconciling}
    (stage : Stage tenantID instrument db txn call) (frame : Frame tenantID instrument log db next) :
    Stage tenantID instrument next txn call := by
  cases stage with
  | fresh => exact .fresh
  | duplicate => exact .duplicate
  | inserted row member same => exact .inserted row (frame.grows.mem_rows member) same
  | applied row updated member same unfolded apply =>
    refine .applied row updated (frame.grows.mem_rows member) same ?_ ?_
    · rw [frame.state]
      exact unfolded
    · rw [frame.state]
      exact apply
  | returned row member same => exact .returned row (frame.grows.mem_folded member) same
  | failed err => exact .failed err

theorem elsewhere_frame (db next : Database) (others : ReflTransGen (Elsewhere tenantID instrument log) db next) :
    Frame tenantID instrument log db next := by
  induction others with
  | refl => exact .refl db
  | tail _ step ih =>
    obtain ⟨op,reply,foreign,answered⟩ := step
    exact ih.trans (answers_frame _ _ op reply foreign answered)

theorem insert_sound (db : Database) (sound : Sound tenantID instrument log db) (txn : Transaction)
    (keyed : txn.tenantID = tenantID ∧ txn.instrument = instrument) (logged : txn ∈ log) :
    Sound tenantID instrument log ((RepositoryCall.insert txn).execute db).2 := by
  obtain ⟨consistent,_,cases⟩ := insert_key_cases db txn keyed sound.consistent
  refine ⟨consistent,?_⟩
  intro other member event
  change other ∈ (db.transactions.insert txn).2.rows at member
  rcases cases with ⟨row,_,shape,_,rows,grown⟩ | ⟨_,_,rows,kept⟩
  · rw [rows] at member
    rw [grown]
    rcases List.mem_append.mp member with old | new
    · exact ⟨List.mem_append_left _ (sound.owned other old event).1,(sound.owned other old event).2⟩
    · refine ⟨List.mem_append_right _ new,txn,logged,?_⟩
      rw [List.mem_singleton.mp new,shape]
      rfl
  · rw [rows] at member
    rw [kept]
    exact sound.owned other member event

/-- Writing over no gap makes the transaction the last of the folded rows. -/
theorem applied_fold (db : Database) (consistent : Consistent tenantID instrument db) (row : Transaction)
    (updated : ReconciledState) (member : row ∈ keyRows tenantID instrument db)
    (unfolded : alreadyFolded (stored tenantID instrument db) row = false)
    (apply : applyTransaction (stored tenantID instrument db) row = .ok updated) (gap : NoGap db (.upsert updated)) :
    updated.tenantID = tenantID ∧ updated.instrument = instrument ∧ updated.lastTransactionID = some row.id ∧
      foldAll tenantID instrument (rowsThrough tenantID instrument db row.id) = .ok updated := by
  obtain ⟨tenant,name,last,_⟩ := applyTransaction_fields _ _ _ apply
  rw [(stored_key db consistent).1] at tenant
  rw [(stored_key db consistent).2] at name
  have passed := gap row.id last
  rw [tenant,name] at passed
  refine ⟨tenant,name,last,?_⟩
  rw [rowsThrough_eq db row member unfolded passed,foldAll_snoc _ row _ consistent]
  exact apply

theorem Stage.of_failed {db : Database} {txn : Transaction} {call : Reconciling} (failed : Failed call) :
    Stage tenantID instrument db txn call := by
  obtain ⟨err,rfl⟩ := failed
  exact .failed err

theorem foldInserted_stage (db : Database) (txn row : Transaction) (member : row ∈ keyRows tenantID instrument db)
    (same : row.eventID = txn.eventID) :
    Stage tenantID instrument db txn (foldInserted row (stored tenantID instrument db)) := by
  rcases foldInserted_cases row (stored tenantID instrument db) with
    ⟨folded,after⟩ | ⟨unfolded,⟨updated,applied,after⟩ | ⟨_,_,failed⟩⟩
  · exact after ▸ .returned row (List.mem_filter.mpr ⟨member,folded⟩) same
  · exact after ▸ .applied row updated member same unfolded applied
  · exact .of_failed failed

theorem upsert_stage (db next : Database) (sound : Sound tenantID instrument log db) (txn row : Transaction)
    (updated : ReconciledState) (member : row ∈ keyRows tenantID instrument db) (same : row.eventID = txn.eventID)
    (unfolded : alreadyFolded (stored tenantID instrument db) row = false)
    (apply : applyTransaction (stored tenantID instrument db) row = .ok updated) (gap : NoGap db (.upsert updated))
    (reply : (RepositoryCall.upsert updated).Reply) (answered : Answers db (.upsert updated) reply next) :
    Sound tenantID instrument log next ∧ Grows tenantID instrument db next ∧
      Stage tenantID instrument next txn (afterUpsert reply) := by
  obtain ⟨tenant,name,last,fold⟩ := applied_fold db sound.consistent row updated member unfolded apply gap
  have written : Sound tenantID instrument log (db.write updated) :=
    ⟨write_consistent db updated row.id fold last,sound.owned⟩
  rcases upsert_answer answered with ⟨rfl,advancing,after⟩ | ⟨rfl,failed | ⟨_,stale⟩⟩
  · refine ⟨written,write_grows db updated row.id tenant name last advancing,?_⟩
    rcases after with after | failed
    · exact after ▸ .returned row (mem_foldedRows_write updated tenant name last member) same
    · exact .of_failed failed
  · exact ⟨sound,.refl next,.of_failed failed⟩
  · -- A stale write would mean that the watermark has already reached the row.
    rw [folded_of_stale tenant name last stale] at unfolded
    contradiction

/-- Step lemma: one answered call of `Reconcile`. -/
theorem stage_answer (db next : Database) (sound : Sound tenantID instrument log db) (txn : Transaction)
    (keyed : txn.tenantID = tenantID ∧ txn.instrument = instrument) (logged : txn ∈ log) (call : Reconciling)
    (stage : Stage tenantID instrument db txn call) (op : RepositoryCall) (rest : op.Reply → Reconciling)
    (reply : op.Reply) (shape : call = .call op rest) (gap : NoGap db op) (answered : Answers db op reply next) :
    Sound tenantID instrument log next ∧ Grows tenantID instrument db next ∧
      Stage tenantID instrument next txn (rest reply) := by
  cases stage with
  | fresh =>
    rw [reconcile_eq] at shape
    cases shape
    have inserted := insert_sound db sound txn keyed logged
    have grows := (insert_key_cases db txn keyed sound.consistent).2.1
    rcases insert_answer answered keyed with ⟨rfl,after⟩ | ⟨rfl,failed⟩
    · refine ⟨inserted,grows,?_⟩
      rcases after with ⟨row,member,same,after⟩ | after | failed
      · exact after ▸ .inserted row member same
      · exact after ▸ .duplicate
      · exact .of_failed failed
    · exact ⟨sound,.refl next,.of_failed failed⟩
  | duplicate =>
    rw [reconcileDuplicate_eq] at shape
    cases shape
    obtain ⟨rfl,⟨row,present,same,after⟩ | failed⟩ := getByEventID_answer answered
    · have event : row.eventID ∈ log.map (·.eventID) := same ▸ List.mem_map_of_mem logged
      exact ⟨sound,.refl next,after ▸ .inserted row (sound.owned row present event).1 same⟩
    · exact ⟨sound,.refl next,.of_failed failed⟩
  | inserted row member same =>
    rw [reconcileInserted_eq] at shape
    cases shape
    have folding := foldInserted_stage db txn row member same
    obtain ⟨_,rfl,rfl⟩ := mem_keyRows.mp member
    obtain ⟨rfl,after | failed⟩ := getState_answer answered
    · exact ⟨sound,.refl next,after ▸ folding⟩
    · exact ⟨sound,.refl next,.of_failed failed⟩
  | applied row updated member same unfolded apply =>
    rw [upsertFolded_eq] at shape
    cases shape
    exact upsert_stage db next sound txn row updated member same unfolded apply gap reply answered
  | returned row member same => contradiction
  | failed err => contradiction

theorem stage_returned {db : Database} {txn : Transaction} (stage : Stage tenantID instrument db txn (.done (.ok ()))) :
    ∃ row ∈ foldedRows tenantID instrument db, row.eventID = txn.eventID := by
  generalize shape : (Program.done (.ok ()) : Reconciling) = call at stage
  cases stage with
  | returned row member same => exact ⟨row,member,same⟩
  | fresh => contradiction
  | duplicate => contradiction
  | inserted => contradiction
  | applied => contradiction
  | failed err => cases shape

/-- Run lemma: a complete `Reconcile` without a gap. -/
theorem reconcile_sound (db final : Database) (sound : Sound tenantID instrument log db) (txn : Transaction)
    (keyed : txn.tenantID = tenantID ∧ txn.instrument = instrument) (logged : txn ∈ log) (result : Except Error Unit)
    (runs : Runs (repositories tenantID instrument log NoGap) db (reconcile txn) result final) :
    Sound tenantID instrument log final ∧ Grows tenantID instrument db final ∧
      Stage tenantID instrument final txn (.done result) := by
  refine runs.preserves (fun current call => Sound tenantID instrument log current ∧
    Grows tenantID instrument db current ∧ Stage tenantID instrument current txn call) ?_ db final _ result
    ⟨sound,.refl db,.fresh⟩
  rintro state op next reply middle ⟨sound,grows,stage⟩ ⟨current,others,gap,answered⟩
  have frame := elsewhere_frame state current others
  obtain ⟨after,further,stage⟩ := stage_answer current middle (sound.frame frame) txn keyed logged _
    (stage.frame frame) op next reply rfl gap answered
  exact ⟨after,(grows.trans frame.grows).trans further,stage⟩

end

section
variable {con : Consumer} {record : Record} {txn : Transaction}

def OnlyReconciles (txn : Transaction) (op : ConsumerCall) : Prop := ∀ other, op = .reconcile other → other = txn

theorem publishToDLQ_calls (failureErr : Error) (attempts : Int64) :
    (con.publishToDLQ record failureErr attempts).run.Calls (OnlyReconciles txn) := by
  refine Calls.unrolled_ask ConsumerCall.now _ nofun ?_
  intro failedAt
  cases con.marshal (con.dlqEvent record failureErr attempts failedAt) with
  | error err => exact trivial
  | ok payload =>
    refine Calls.unrolled_ask (ConsumerCall.produceSync _) _ nofun ?_
    intro result
    cases result with
    | some err => exact trivial
    | none => exact trivial

theorem reconcileWithRetry_calls (fuel : Nat) :
    (con.reconcileWithRetry fuel txn).run.Calls (OnlyReconciles txn) := by
  refine Calls.unrolled_loop _ ?_ fuel _
  rintro ⟨attempt,lastErr⟩
  by_cases within : attempt ≤ con.maxRetries+1
  · rw [Consumer.retryRound,if_pos within]
    refine Calls.unrolled_ask (ConsumerCall.reconcile txn) _ (fun _ same => (ConsumerCall.reconcile.inj same).symm) ?_
    intro result
    cases result with
    | ok => exact trivial
    | error err =>
      refine Calls.unrolled_ask ConsumerCall.ctxErr _ nofun ?_
      intro canceled
      cases canceled with
      | some err => exact trivial
      | none => exact trivial
  · rw [Consumer.retryRound,if_neg within]
    exact trivial

theorem eachRecord_calls (fuel : Nat) (batch : BatchState) (decoded : con.decode record.value = .ok txn) :
    (con.eachRecord fuel batch record).run.Calls (OnlyReconciles txn) := by
  unfold Consumer.eachRecord
  split
  · exact trivial
  · simp only [decoded]
    refine Calls.unrolled_bind _ _ (reconcileWithRetry_calls fuel) ?_
    rintro ⟨attempts,outcome⟩
    cases outcome with
    | none => exact trivial
    | some reconcileErr =>
      refine Calls.unrolled_bind _ _ (publishToDLQ_calls reconcileErr attempts) ?_
      intro published
      cases published with
      | some err => exact trivial
      | none => exact trivial

end

section
variable {tenantID instrument : Bytes} {log : List Transaction}

theorem service_accounted (keyed : ∀ txn ∈ log, txn.tenantID = tenantID ∧ txn.instrument = instrument)
    (txn : Transaction) (logged : txn ∈ log) (s : Progress) (op : ConsumerCall) (reply : op.Reply) (t : Progress)
    (only : OnlyReconciles txn op) (accounted : Accounted tenantID instrument log s)
    (answered : services tenantID instrument log NoGap s op reply t) : Accounted tenantID instrument log t := by
  cases op with
  | reconcile other =>
    obtain rfl := only other rfl
    obtain ⟨runs,returned⟩ := answered
    obtain ⟨sound,grows,stage⟩ := reconcile_sound s.db t.db accounted.sound other (keyed other logged) logged reply runs
    have kept : ∀ earlier ∈ s.returned,
        earlier ∈ log ∧ ∃ row ∈ foldedRows tenantID instrument t.db, row.eventID = earlier.eventID := by
      intro earlier member
      obtain ⟨inLog,row,folded,same⟩ := accounted.folded earlier member
      exact ⟨inLog,row,grows.mem_folded folded,same⟩
    refine ⟨sound,?_⟩
    rw [returned]
    cases reply with
    | error err => exact kept
    | ok =>
      intro earlier member
      rcases List.mem_cons.mp member with rfl | old
      · exact ⟨logged,stage_returned stage⟩
      · exact kept earlier old
  | pollRecords => exact answered ▸ accounted
  | ctxErr => exact answered ▸ accounted
  | now => exact answered ▸ accounted
  | produceSync => exact answered ▸ accounted
  | observeLag => exact answered ▸ accounted
  | observeActiveConsumers => exact answered ▸ accounted

theorem delivery_accounted (keyed : ∀ txn ∈ log, txn.tenantID = tenantID ∧ txn.instrument = instrument)
    (con : Consumer) (s t : Nat × Progress) (accounted : Accounted tenantID instrument log s.2)
    (delivery : Delivery tenantID instrument log con NoGap s t) : Accounted tenantID instrument log t.2 := by
  have handled : ∀ (fuel i : Nat) record txn batch result s t, log[i]? = some txn → con.decode record.value = .ok txn →
      Runs (services tenantID instrument log NoGap) s (con.eachRecord fuel batch record).run result t →
      Accounted tenantID instrument log s → Accounted tenantID instrument log t := by
    intro fuel i record txn batch result s t entry decoded runs accounted
    exact runs.invariant _ (service_accounted keyed txn (List.mem_of_getElem? entry)) s t _ result
      (eachRecord_calls fuel batch decoded) accounted
  cases delivery with
  | next n fuel s t record txn batch result entry decoded runs =>
    exact handled fuel n record txn batch result s t entry decoded runs accounted
  | again n i fuel s t record txn batch result earlier entry decoded runs =>
    exact handled fuel i record txn batch result s t entry decoded runs accounted

theorem untouched_sound (db : Database) (untouched : Untouched tenantID instrument log db) :
    Sound tenantID instrument log db := by
  refine ⟨?_,fun row member event => absurd event (untouched.noEvents row member)⟩
  unfold Consistent foldedRows stored
  rw [untouched.noRows,untouched.noState]
  rfl

theorem folded_distinct (db : Database) : ((foldedRows tenantID instrument db).map (·.eventID)).Nodup :=
  (keyRows_unique _ _ db).sublist (List.filter_sublist.map _)

/-- The folded rows hold a stored event once. -/
theorem folded_once (db : Database) (row : Transaction) (member : row ∈ foldedRows tenantID instrument db) :
    (foldedRows tenantID instrument db).filter (·.eventID = row.eventID) = [row] := by
  have unique : ((foldedRows tenantID instrument db).map (·.eventID)).Nodup := folded_distinct db
  obtain ⟨before,after,split⟩ := List.append_of_mem member
  rw [split,List.map_append,List.map_cons] at unique
  obtain ⟨_,tail,apart⟩ := List.nodup_append.mp unique
  have none : ∀ rows : List Transaction, row.eventID ∉ rows.map (·.eventID) →
      rows.filter (·.eventID = row.eventID) = [] := by
    intro rows absent
    apply List.filter_eq_nil_iff.mpr
    intro other inside same
    exact absent (List.mem_map.mpr ⟨other,inside,by simpa using same⟩)
  rw [split,List.filter_append,List.filter_cons_of_pos (by simp),
    none before (fun inside => apart _ inside _ List.mem_cons_self rfl),none after (List.nodup_cons.mp tail).1]
  rfl

/-- The rows up to the watermark hold every transaction that was answered nil, and the state is
their fold. -/
theorem Accounted.includes {s : Progress} (accounted : Accounted tenantID instrument log s)
    (faithful : ∀ txn ∈ log, ∀ other ∈ log, txn.eventID = other.eventID → txn = other) :
    Includes tenantID instrument s.db (foldedRows tenantID instrument s.db) s.returned := by
  refine ⟨fun other inside => (List.mem_filter.mp inside).1,folded_distinct s.db,?_,accounted.sound.consistent⟩
  intro txn member
  obtain ⟨logged,row,folded,same⟩ := accounted.folded txn member
  have present := (List.mem_filter.mp folded).1
  obtain ⟨_,original,inLog,plain⟩ := accounted.sound.owned row (mem_keyRows.mp present).1
    (same ▸ List.mem_map_of_mem logged)
  have event : row.eventID = original.eventID := congrArg (·.eventID) plain
  rw [← same,folded_once s.db row folded,List.map_singleton,plain,
    faithful original inLog txn logged (event.symm.trans same)]

end

/-- In every run of deliveries, redeliveries and skipped records whose upserts pass over no
unfolded transaction, the stored state is the fold of the rows up to its watermark, and every
transaction for which a `Reconcile` has returned nil is among them once. -/
theorem returned_included (tenantID instrument : Bytes) (log : List Transaction)
    (keyed : ∀ txn ∈ log, txn.tenantID = tenantID ∧ txn.instrument = instrument)
    (faithful : ∀ txn ∈ log, ∀ other ∈ log, txn.eventID = other.eventID → txn = other)
    (con : Consumer) (db : Database) (untouched : Untouched tenantID instrument log db) (n : Nat) (s : Progress)
    (run : ReflTransGen (Delivery tenantID instrument log con NoGap) (0,⟨db,[]⟩) (n,s)) :
    Includes tenantID instrument s.db (foldedRows tenantID instrument s.db) s.returned := by
  generalize target : (n,s) = final at run
  have reached : Accounted tenantID instrument log final.2 := by
    clear target
    induction run with
    | refl => exact ⟨untouched_sound db untouched,nofun⟩
    | tail _ delivery ih => exact delivery_accounted keyed con _ _ ih delivery
  rw [← target] at reached
  exact reached.includes faithful

/-- The consumer's calls against given repositories; every other call succeeds. -/
def serve (repository : Database → (op : RepositoryCall) → op.Reply × Database) (s : Progress) :
    (op : ConsumerCall) → op.Reply × Progress
  | .reconcile txn =>
    let (result,db) := (reconcile txn).execute repository s.db
    (result,⟨db,s.noted txn result⟩)
  | .pollRecords _ => (⟨[],[]⟩,s)
  | .ctxErr => (none,s)
  | .now => (⟨0,0⟩,s)
  | .produceSync _ => (none,s)
  | .observeLag _ _ => ((),s)
  | .observeActiveConsumers _ => ((),s)

theorem serve_services (tenantID instrument : Bytes) (log : List Transaction)
    (allowed : Database → RepositoryCall → Prop) (repository : Database → (op : RepositoryCall) → op.Reply × Database)
    (answers : ∀ db op, allowed db op ∧ Answers db op (repository db op).1 (repository db op).2) (s : Progress)
    (op : ConsumerCall) :
    services tenantID instrument log allowed s op (serve repository s op).1 (serve repository s op).2 := by
  cases op with
  | reconcile txn =>
    exact ⟨Runs.of_execute repository (fun db op => ⟨db,.refl,answers db op⟩) (reconcile txn) s.db,rfl⟩
  | pollRecords => rfl
  | ctxErr => rfl
  | now => rfl
  | produceSync => rfl
  | observeLag => rfl
  | observeActiveConsumers => rfl

def connectionLost : Error := .new "connection lost"

theorem connectionLost_infrastructure : Infrastructure connectionLost := by
  unfold Infrastructure
  decide

/-- The database answers every call but the reads of the reconciled state. -/
def withoutStates (db : Database) : (op : RepositoryCall) → op.Reply × Database
  | .getState _ _ => (.error connectionLost,db)
  | op => op.execute db

theorem withoutStates_answers (db : Database) (op : RepositoryCall) :
    True ∧ Answers db op (withoutStates db op).1 (withoutStates db op).2 := by
  refine ⟨trivial,?_⟩
  cases op with
  | getState tenant name => exact .failed _ connectionLost connectionLost_infrastructure
  | insert txn => exact .served _
  | getByEventID eventID => exact .served _
  | upsert state => exact .served _

def firstBuy : Transaction := sampleTrade "acme" 1 sideBuy 1 100000000

def secondBuy : Transaction := sampleTrade "acme" 2 sideBuy 2 100000000

def twoBuys : List Transaction := [firstBuy,secondBuy]

/-- A consumer without retries, whose payloads are single bytes. -/
def plainConsumer : Consumer where
  dlqTopic := text "transaction-events-dlq"
  maxRetries := 0
  maxPollRecords := 0
  metrics := false
  decode := fun value => if value = [1] then .ok firstBuy else .ok secondBuy
  marshal := fun event => .ok event.payload
  errorText := fun _ => []
  formatTime := fun _ => []

def recordOf (tag : UInt8) : Record := ⟨text "transaction-events",0,0,[],[tag]⟩

def deliver (repository : Database → (op : RepositoryCall) → op.Reply × Database) (s : Progress) (tag : UInt8) :
    Progress :=
  ((plainConsumer.eachRecord 2 ⟨none,[],0,false⟩ (recordOf tag)).run.execute (serve repository) s).2

def givenUp : Progress := deliver withoutStates ⟨.empty,[]⟩ 1

def redelivered : Progress := deliver (fun db op => op.execute db) givenUp 1

def followed : Progress := deliver (fun db op => op.execute db) redelivered 2

theorem givenUp_delivery : Delivery (text "acme") (text "BTC-USD") twoBuys plainConsumer NoGap
    (0,⟨.empty,[]⟩) (1,givenUp) := by
  have run : Runs (repositories (text "acme") (text "BTC-USD") twoBuys NoGap) Database.empty
      (reconcile firstBuy) (.error (.wrap "reconcile: get reconciled state: %w" [] connectionLost)) givenUp.db :=
    .call _ ⟨_,.refl,trivial,.served _⟩
      (.call _ ⟨_,.refl,trivial,.failed _ connectionLost connectionLost_infrastructure⟩
      (.done _ _))
  exact .next 0 2 _ _ (recordOf 1) firstBuy ⟨none,[],0,false⟩ _ rfl rfl
    (.call _ ⟨run,rfl⟩ (.call none rfl (.call ⟨0,0⟩ rfl (.call none rfl (.done _ _)))))

theorem redelivered_delivery : Delivery (text "acme") (text "BTC-USD") twoBuys plainConsumer NoGap
    (1,givenUp) (1,redelivered) := by
  have run : Runs (repositories (text "acme") (text "BTC-USD") twoBuys NoGap) givenUp.db
      (reconcile firstBuy) (.ok ()) redelivered.db :=
    .call _ ⟨_,.refl,trivial,.served _⟩ (.call _ ⟨_,.refl,trivial,.served _⟩ (.call _ ⟨_,.refl,trivial,.served _⟩
      (.call _ ⟨_,.refl,noGap_upsert rfl (by decide),.served _⟩ (.done _ _))))
  exact .again 1 0 2 _ _ (recordOf 1) firstBuy ⟨none,[],0,false⟩ _ (by decide) rfl rfl
    (.call _ ⟨run,rfl⟩ (.done _ _))

theorem followed_delivery : Delivery (text "acme") (text "BTC-USD") twoBuys plainConsumer NoGap
    (1,redelivered) (2,followed) := by
  have run : Runs (repositories (text "acme") (text "BTC-USD") twoBuys NoGap) redelivered.db
      (reconcile secondBuy) (.ok ()) followed.db :=
    .call _ ⟨_,.refl,trivial,.served _⟩ (.call _ ⟨_,.refl,trivial,.served _⟩
      (.call _ ⟨_,.refl,noGap_upsert rfl (by decide),.served _⟩ (.done _ _)))
  exact .next 1 2 _ _ (recordOf 2) secondBuy ⟨none,[],0,false⟩ _ rfl rfl (.call _ ⟨run,rfl⟩ (.done _ _))

/-- A record that is given up, redelivered before the next one and folded then, and the next one;
the redelivery has used up an id. -/
theorem returned_included_after_redelivery :
    followed.returned = [secondBuy,firstBuy] ∧ Includes (text "acme") (text "BTC-USD") followed.db
      [{firstBuy with id := 1},{secondBuy with id := 3}] [secondBuy,firstBuy] := by
  have returned : followed.returned = [secondBuy,firstBuy] := by decide
  have rows : foldedRows (text "acme") (text "BTC-USD") followed.db =
      [{firstBuy with id := 1},{secondBuy with id := 3}] := by decide
  have included := returned_included (text "acme") (text "BTC-USD") twoBuys (by decide) (by decide) plainConsumer .empty
    ⟨rfl,rfl,nofun⟩ 2 followed
    (((ReflTransGen.single givenUp_delivery).tail redelivered_delivery).tail followed_delivery)
  rw [rows,returned] at included
  exact ⟨returned,included⟩

/-- The first buy is stored but its state cannot be read, so it is given up; the second is
folded; the first comes again. -/
def abandoned : Progress :=
  deliver (fun db op => op.execute db) (deliver (fun db op => op.execute db) (deliver withoutStates ⟨.empty,[]⟩ 1) 2) 1

theorem executed_delivery (repository : Database → (op : RepositoryCall) → op.Reply × Database)
    (answers : ∀ db op, True ∧ Answers db op (repository db op).1 (repository db op).2) (s : Progress) (tag : UInt8) :
    ∃ result, Runs (services (text "acme") (text "BTC-USD") twoBuys (fun _ _ => True)) s
      (plainConsumer.eachRecord 2 ⟨none,[],0,false⟩ (recordOf tag)).run result (deliver repository s tag) :=
  ⟨_,Runs.of_execute (serve repository) (serve_services _ _ _ _ repository answers) _ s⟩

theorem abandoned_run : ReflTransGen (Delivery (text "acme") (text "BTC-USD") twoBuys plainConsumer (fun _ _ => True))
    (0,⟨.empty,[]⟩) (2,abandoned) := by
  obtain ⟨_,first⟩ := executed_delivery withoutStates withoutStates_answers ⟨.empty,[]⟩ 1
  obtain ⟨_,second⟩ := executed_delivery _ (fun _ op => ⟨trivial,.served op⟩) (deliver withoutStates ⟨.empty,[]⟩ 1) 2
  obtain ⟨_,third⟩ := executed_delivery _ (fun _ op => ⟨trivial,.served op⟩)
    (deliver (fun db op => op.execute db) (deliver withoutStates ⟨.empty,[]⟩ 1) 2) 1
  exact ((ReflTransGen.single (.next 0 2 _ _ (recordOf 1) firstBuy _ _ rfl rfl first)).tail
    (.next 1 2 _ _ (recordOf 2) secondBuy _ _ rfl rfl second)).tail
    (.again 2 0 2 _ _ (recordOf 1) firstBuy _ _ (by decide) rfl rfl third)

/-- Of the two buys only the first has an odd quantity, so the parity of the position
counts it. -/
theorem twoBuys_parity (rows : List Transaction) (state final : ReconciledState)
    (members : ∀ row ∈ rows, row ∈ keyRows (text "acme") (text "BTC-USD") abandoned.db)
    (fold : rows.foldlM applyTransaction state = .ok final) :
    final.position.toInt % 2 =
      (state.position.toInt + (rows.filter (·.eventID = firstBuy.eventID)).length) % 2 := by
  induction rows generalizing state with
  | nil => rw [← Except.ok.inj fold,List.filter_nil,List.length_nil,Int.natCast_zero,Int.add_zero]
  | cons row rows ih =>
    rw [List.foldlM_cons] at fold
    obtain ⟨next,applied,rest⟩ := bind_success _ _ _ fold
    have position := (applyTransaction_fields state next row applied).2.2.2
    have tail := ih next (fun other inside => members other (List.mem_cons_of_mem _ inside)) rest
    have known : row ∈ [{firstBuy with id := 1},{secondBuy with id := 2}] := members row List.mem_cons_self
    rcases List.mem_cons.mp known with rfl | known
    · rw [List.filter_cons_of_pos rfl,List.length_cons]
      have odd : next.position = state.position + 1 := position
      have step := parity_add state.position 1
      rw [← odd,show (1 : Int64).toInt = 1 from rfl] at step
      omega
    · rw [List.mem_singleton.mp known] at position ⊢
      rw [List.filter_cons_of_neg (by decide)]
      have even : next.position = state.position + 2 := position
      have step := parity_add state.position 2
      rw [← even,show (2 : Int64).toInt = 2 from rfl] at step
      omega

/-- Where a gap is passed over the property fails: the `Reconcile` of both buys has returned nil,
and no list of stored rows that holds each of them once folds to the stored state. -/
theorem abandoned_record_not_included :
    ¬∀ (tenantID instrument : Bytes) (log : List Transaction),
      (∀ txn ∈ log, txn.tenantID = tenantID ∧ txn.instrument = instrument) →
      (∀ txn ∈ log, ∀ other ∈ log, txn.eventID = other.eventID → txn = other) →
      ∀ (con : Consumer) (db : Database), Untouched tenantID instrument log db → ∀ (n : Nat) (s : Progress),
        ReflTransGen (Delivery tenantID instrument log con (fun _ _ => True)) (0,⟨db,[]⟩) (n,s) →
        ∃ rows, Includes tenantID instrument s.db rows s.returned := by
  intro claimed
  have returned : firstBuy ∈ abandoned.returned := by decide
  obtain ⟨rows,included⟩ := claimed (text "acme") (text "BTC-USD") twoBuys (by decide) (by decide)
    plainConsumer .empty ⟨rfl,rfl,nofun⟩ 2 abandoned abandoned_run
  have parity := twoBuys_parity rows _ _ included.stored included.folds
  have counted := congrArg List.length (included.once firstBuy returned)
  rw [List.length_map,List.length_singleton] at counted
  rw [counted,show (stored (text "acme") (text "BTC-USD") abandoned.db).position = 2 by decide] at parity
  exact absurd parity (by decide)

end ControlPlane.Processor
