import ControlPlane.Data.Distinct
import ControlPlane.Processor.StoredState
import Mathlib.Data.Set.Insert

/-! Overlapping consumers. Any number of consumers run `Reconcile` over the log of one
(tenant, instrument); a step is one repository call of one consumer, the start, crash or
restart of a consumer, or a call made for another key. The invariant ties the stored rows
to the first occurrences of a prefix of the log, the watermark to the rows it covers, and
the pending call of every consumer to its record. -/
namespace ControlPlane.Processor
open Go Ledger Effect Effect.Program Distinct

structure Consumer where
  position : Nat
  call : Option Reconciling

structure System where
  db : Database
  consumers : Nat → Option Consumer
  completed : Set Nat

def System.set (s : System) (c : Nat) (consumer : Consumer) : System :=
  {s with consumers := Function.update s.consumers c (some consumer)}

section
variable (tenantID instrument : Bytes) (log : List Transaction)

inductive Step : System → System → Prop
  | start (s : System) (c p : Nat) (absent : s.consumers c = none) (ready : ∀ q < p, q ∈ s.completed) :
      Step s (s.set c ⟨p,none⟩)
  | begin (s : System) (c p : Nat) (txn : Transaction) (idle : s.consumers c = some ⟨p,none⟩)
      (record : log[p]? = some txn) : Step s (s.set c ⟨p,some (reconcile txn)⟩)
  | answer (s : System) (c p : Nat) (op : RepositoryCall) (next : op.Reply → Reconciling) (reply : op.Reply)
      (db : Database) (busy : s.consumers c = some ⟨p,some (.call op next)⟩)
      (answered : Answers s.db op reply db) : Step s {s.set c ⟨p,some (next reply)⟩ with db}
  | succeed (s : System) (c p : Nat) (returned : s.consumers c = some ⟨p,some (.done (.ok ()))⟩) :
      Step s {s.set c ⟨p+1,none⟩ with completed := insert p s.completed}
  | retry (s : System) (c p : Nat) (err : Error)
      (returned : s.consumers c = some ⟨p,some (.done (.error err))⟩) : Step s (s.set c ⟨p,none⟩)
  | crash (s : System) (c p q : Nat) (call : Option Reconciling) (running : s.consumers c = some ⟨p,call⟩)
      (back : q ≤ p) : Step s (s.set c ⟨q,none⟩)
  | elsewhere (s : System) (op : RepositoryCall) (reply : op.Reply) (db : Database)
      (foreign : Foreign tenantID instrument log op) (answered : Answers s.db op reply db) :
      Step s {s with db}

structure Initial (s : System) : Prop where
  idle : ∀ c, s.consumers c = none
  untouched : s.completed = ∅
  noState : s.db.reconciledState tenantID instrument = none
  noRows : keyRows tenantID instrument s.db = []
  noEvents : ∀ row ∈ s.db.transactions.rows, row.eventID ∉ log.map (·.eventID)

structure KeyInv (db : Database) : Prop where
  inserted : ∃ m, (keyRows tenantID instrument db).map withoutID =
    (firsts (·.eventID) (log.take m)).map withoutID
  owned : ∀ row ∈ db.transactions.rows, row.eventID ∈ log.map (·.eventID) → row ∈ keyRows tenantID instrument db
  consistent : Consistent tenantID instrument db

inductive CallOK (db : Database) (txn : Transaction) : Reconciling → Prop
  | fresh : CallOK db txn (reconcile txn)
  | duplicate : CallOK db txn (reconcileDuplicate txn)
  | inserted (row : Transaction) (member : row ∈ keyRows tenantID instrument db)
      (same : row.eventID = txn.eventID) : CallOK db txn (reconcileInserted row)
  | folded (row : Transaction) (updated : ReconciledState) (member : row ∈ keyRows tenantID instrument db)
      (same : row.eventID = txn.eventID)
      (fold : foldAll tenantID instrument (rowsThrough tenantID instrument db row.id) = .ok updated)
      (last : updated.lastTransactionID = some row.id) : CallOK db txn (upsertFolded updated)
  | returned (row : Transaction) (member : row ∈ foldedRows tenantID instrument db)
      (same : row.eventID = txn.eventID) : CallOK db txn (.done (.ok ()))
  | failed (err : Error) : CallOK db txn (.done (.error err))

def EventFolded (db : Database) (p : Nat) : Prop :=
  ∃ txn, log[p]? = some txn ∧ txn.eventID ∈ (foldedRows tenantID instrument db).map (·.eventID)

structure Inv (s : System) : Prop where
  key : KeyInv tenantID instrument log s.db
  completed : ∀ p ∈ s.completed, EventFolded tenantID instrument log s.db p
  behind : ∀ c consumer, s.consumers c = some consumer → ∀ q < consumer.position, q ∈ s.completed
  calls : ∀ c consumer, s.consumers c = some consumer → ∀ call, consumer.call = some call →
    ∃ txn, log[consumer.position]? = some txn ∧ CallOK tenantID instrument s.db txn call

end

section
variable {tenantID instrument : Bytes} {log : List Transaction}

theorem CallOK.mono {db next : Database} {txn : Transaction} {call : Reconciling}
    (ok : CallOK tenantID instrument db txn call) (grows : Grows tenantID instrument db next) :
    CallOK tenantID instrument next txn call := by
  cases ok with
  | fresh => exact .fresh
  | duplicate => exact .duplicate
  | inserted row member same => exact .inserted row (grows.mem_rows member) same
  | folded row updated member same fold last =>
    refine .folded row updated (grows.mem_rows member) same ?_ last
    rw [grows.rowsThrough row member]
    exact fold
  | returned row member same => exact .returned row (grows.mem_folded member) same
  | failed err => exact .failed err

theorem EventFolded.mono {db next : Database} {p : Nat} (folded : EventFolded tenantID instrument log db p)
    (grows : Grows tenantID instrument db next) : EventFolded tenantID instrument log next p := by
  obtain ⟨txn,record,member⟩ := folded
  obtain ⟨row,inside,same⟩ := List.mem_map.mp member
  exact ⟨txn,record,List.mem_map.mpr ⟨row,grows.mem_folded inside,same⟩⟩

theorem rows_events (db : Database) (m : Nat)
    (inserted : (keyRows tenantID instrument db).map withoutID = (firsts (·.eventID) (log.take m)).map withoutID) :
    (keyRows tenantID instrument db).map (·.eventID) = (firsts (·.eventID) (log.take m)).map (·.eventID) := by
  have mapped := congrArg (List.map (·.eventID)) inserted
  simpa [List.map_map,Function.comp_def,withoutID] using mapped

theorem folded_of_event (db : Database) (row : Transaction) (member : row ∈ keyRows tenantID instrument db)
    (folded : row.eventID ∈ (foldedRows tenantID instrument db).map (·.eventID)) :
    alreadyFolded (stored tenantID instrument db) row = true := by
  obtain ⟨other,inside,same⟩ := List.mem_map.mp folded
  obtain ⟨present,reached⟩ := List.mem_filter.mp inside
  have equal : other = row := List.inj_on_of_nodup_map (keyRows_unique _ _ db) present member same
  exact equal ▸ reached

theorem take_events (db : Database) (p : Nat) (ready : ∀ q < p, EventFolded tenantID instrument log db q) (event : UUID)
    (member : event ∈ (log.take p).map (·.eventID)) :
    event ∈ (foldedRows tenantID instrument db).map (·.eventID) := by
  obtain ⟨txn,inside,rfl⟩ := List.mem_map.mp member
  obtain ⟨q,bound,found⟩ := List.mem_iff_getElem.mp inside
  rw [List.length_take] at bound
  obtain ⟨record,located,folded⟩ := ready q (by omega)
  rw [List.getElem_take] at found
  rw [List.getElem?_eq_getElem (by omega),Option.some.injEq,found] at located
  exact located ▸ folded

/-- A consumer that works on a record finds every row before it already folded. -/
theorem no_gap (db : Database) (inv : KeyInv tenantID instrument log db) (p : Nat) (txn row : Transaction)
    (record : log[p]? = some txn) (ready : ∀ q < p, EventFolded tenantID instrument log db q)
    (member : row ∈ keyRows tenantID instrument db) (same : row.eventID = txn.eventID) :
    ∀ other ∈ keyRows tenantID instrument db, other.id.toInt < row.id.toInt →
      alreadyFolded (stored tenantID instrument db) other = true := by
  intro other present earlier
  apply folded_of_event db other present
  obtain ⟨m,inserted⟩ := inv.inserted
  have events := rows_events db m inserted
  have unique := keyRows_unique tenantID instrument db
  have increasing := keyRows_increasing tenantID instrument db
  obtain ⟨before,after,split⟩ := List.append_of_mem member
  rw [split] at events unique increasing present
  -- The rows before it are the first occurrences of some prefix that cannot reach past `p`.
  have start : (firsts (·.eventID) (log.take m)).take before.length <+: firsts (·.eventID) (log.take m) :=
    List.take_prefix _ _
  obtain ⟨n,_,initial⟩ := prefix_firsts (·.eventID) log _ m start
  have beforeEvents : before.map (·.eventID) = (firsts (·.eventID) (log.take n)).map (·.eventID) := by
    rw [← initial,List.map_take,← events,List.map_append]
    simp
  have inBefore : other ∈ before := by
    rcases List.mem_append.mp present with inside | outside
    · exact inside
    · have order := (List.pairwise_append.mp increasing).2.1
      rcases List.mem_cons.mp outside with equal | later
      · rw [equal] at earlier
        omega
      · have := List.rel_of_pairwise_cons order later
        omega
  have reach : n ≤ p := by
    by_contra beyond
    have taken : txn ∈ log.take n := by
      apply List.mem_of_getElem? (i := p)
      rw [List.getElem?_take_of_lt (by omega)]
      exact record
    have repeated : row.eventID ∈ before.map (·.eventID) := by
      rw [beforeEvents,mem_firsts_keys,same]
      exact List.mem_map_of_mem taken
    rw [List.map_append,List.nodup_append] at unique
    exact unique.2.2 _ repeated _ (by simp) rfl
  apply take_events db p ready
  have counted : other.eventID ∈ before.map (·.eventID) := List.mem_map_of_mem inBefore
  rw [beforeEvents,mem_firsts_keys] at counted
  exact List.map_subset _ (List.take_subset_take_left log reach) counted

theorem KeyInv.frame {db next : Database} (inv : KeyInv tenantID instrument log db)
    (frame : Frame tenantID instrument log db next) : KeyInv tenantID instrument log next := by
  refine ⟨by rw [frame.rows]; exact inv.inserted,?_,frame.consistent inv.consistent⟩
  intro row member event
  rw [frame.rows]
  exact inv.owned row (frame.events row member event) event

/-- A row for a record that a consumer has reached, all of whose predecessors are folded,
is the next first occurrence of the log. -/
theorem inserted_next (db : Database) (inv : KeyInv tenantID instrument log db) (p : Nat) (txn : Transaction)
    (record : log[p]? = some txn) (ready : ∀ q < p, EventFolded tenantID instrument log db q)
    (absent : txn.eventID ∉ (keyRows tenantID instrument db).map (·.eventID)) :
    (keyRows tenantID instrument db ++ [txn]).map withoutID =
      (firsts (·.eventID) (log.take (p+1))).map withoutID := by
  obtain ⟨m,inserted⟩ := inv.inserted
  have events := rows_events db m inserted
  have reach : m ≤ p := by
    by_contra beyond
    have taken : txn ∈ log.take m := by
      apply List.mem_of_getElem? (i := p)
      rw [List.getElem?_take_of_lt (by omega)]
      exact record
    apply absent
    rw [events,mem_firsts_keys]
    exact List.mem_map_of_mem taken
  have covered : ∀ event ∈ (log.take p).map (·.eventID), event ∈ (keyRows tenantID instrument db).map (·.eventID) := by
    intro event member
    obtain ⟨old,inside,same⟩ := List.mem_map.mp (take_events db p ready event member)
    exact List.mem_map.mpr ⟨old,(List.mem_filter.mp inside).1,same⟩
  have stable : firsts (·.eventID) (log.take p) = firsts (·.eventID) (log.take m) := by
    apply firsts_take_eq _ _ _ _ reach
    intro event member
    have old := covered event member
    rw [events,mem_firsts_keys] at old
    exact old
  rw [firsts_take_succ _ _ _ _ record,if_neg (fun member => absent (covered _ member)),stable,
    List.map_append,List.map_append,inserted]

theorem insert_key (db : Database) (inv : KeyInv tenantID instrument log db) (p : Nat) (txn : Transaction)
    (keyed : txn.tenantID = tenantID ∧ txn.instrument = instrument) (record : log[p]? = some txn)
    (ready : ∀ q < p, EventFolded tenantID instrument log db q) :
    KeyInv tenantID instrument log ((RepositoryCall.insert txn).execute db).2 := by
  obtain ⟨consistent,_,cases⟩ := insert_key_cases db txn keyed inv.consistent
  rcases cases with ⟨row,_,shape,fresh,rows,grown⟩ | ⟨_,_,rows,kept⟩
  · have absent : txn.eventID ∉ (keyRows tenantID instrument db).map (·.eventID) := by
      intro member
      obtain ⟨old,present,same⟩ := List.mem_map.mp member
      exact fresh (List.mem_map.mpr ⟨old,(mem_keyRows.mp present).1,same⟩)
    have plain : withoutID row = withoutID txn := by
      rw [shape]
      rfl
    refine ⟨⟨p+1,?_⟩,?_,consistent⟩
    · rw [grown,← inserted_next db inv p txn record ready absent,List.map_append,List.map_append,List.map_singleton,
        List.map_singleton,plain]
    · intro other member event
      rw [grown]
      change other ∈ (db.transactions.insert txn).2.rows at member
      rw [rows] at member
      rcases List.mem_append.mp member with old | new
      · exact List.mem_append_left _ (inv.owned other old event)
      · exact List.mem_append_right _ new
  · refine ⟨by rw [kept]; exact inv.inserted,?_,consistent⟩
    intro row member event
    change row ∈ (db.transactions.insert txn).2.rows at member
    rw [rows] at member
    rw [kept]
    exact inv.owned row member event

theorem write_key (db : Database) (inv : KeyInv tenantID instrument log db) (updated : ReconciledState) (id : Int64)
    (fold : foldAll tenantID instrument (rowsThrough tenantID instrument db id) = .ok updated)
    (last : updated.lastTransactionID = some id) : KeyInv tenantID instrument log (db.write updated) :=
  ⟨inv.inserted,inv.owned,write_consistent db updated id fold last⟩

theorem CallOK.of_failed {db : Database} {txn : Transaction} {call : Reconciling} (failed : Failed call) :
    CallOK tenantID instrument db txn call := by
  obtain ⟨err,rfl⟩ := failed
  exact .failed err

theorem foldInserted_ok (db : Database) (inv : KeyInv tenantID instrument log db) (p : Nat) (txn row : Transaction)
    (record : log[p]? = some txn) (ready : ∀ q < p, EventFolded tenantID instrument log db q)
    (member : row ∈ keyRows tenantID instrument db) (same : row.eventID = txn.eventID) :
    CallOK tenantID instrument db txn (foldInserted row (stored tenantID instrument db)) := by
  rcases foldInserted_cases row (stored tenantID instrument db) with
    ⟨folded,after⟩ | ⟨unfolded,⟨updated,applied,after⟩ | ⟨_,_,failed⟩⟩
  · exact after ▸ .returned row (List.mem_filter.mpr ⟨member,folded⟩) same
  · refine after ▸ .folded row updated member same ?_ (applyTransaction_fields _ _ _ applied).2.2.1
    rw [rowsThrough_eq db row member unfolded (no_gap db inv p txn row record ready member same),
      foldAll_snoc _ row _ inv.consistent]
    exact applied
  · exact .of_failed failed

/-- Step lemma: an answered call leaves the key in order and the caller at a point of
`Reconcile` that its record and the tables justify. -/
theorem answer_ok (db next : Database) (inv : KeyInv tenantID instrument log db) (p : Nat) (txn : Transaction)
    (keyed : txn.tenantID = tenantID ∧ txn.instrument = instrument) (record : log[p]? = some txn)
    (ready : ∀ q < p, EventFolded tenantID instrument log db q) (call : Reconciling)
    (ok : CallOK tenantID instrument db txn call) (op : RepositoryCall) (rest : op.Reply → Reconciling)
    (reply : op.Reply) (shape : call = .call op rest) (answered : Answers db op reply next) :
    KeyInv tenantID instrument log next ∧ Grows tenantID instrument db next ∧
      CallOK tenantID instrument next txn (rest reply) := by
  have logged : txn.eventID ∈ log.map (·.eventID) := List.mem_map_of_mem (List.mem_of_getElem? record)
  cases ok with
  | fresh =>
    rw [reconcile_eq] at shape
    cases shape
    have inserted := insert_key db inv p txn keyed record ready
    have grows := (insert_key_cases db txn keyed inv.consistent).2.1
    rcases insert_answer answered keyed with ⟨rfl,after⟩ | ⟨rfl,failed⟩
    · refine ⟨inserted,grows,?_⟩
      rcases after with ⟨row,member,same,after⟩ | after | failed
      · exact after ▸ .inserted row member same
      · exact after ▸ .duplicate
      · exact .of_failed failed
    · exact ⟨inv,.refl next,.of_failed failed⟩
  | duplicate =>
    rw [reconcileDuplicate_eq] at shape
    cases shape
    obtain ⟨rfl,⟨row,present,same,after⟩ | failed⟩ := getByEventID_answer answered
    · exact ⟨inv,.refl next,after ▸ .inserted row (inv.owned row present (same ▸ logged)) same⟩
    · exact ⟨inv,.refl next,.of_failed failed⟩
  | inserted row member same =>
    rw [reconcileInserted_eq] at shape
    cases shape
    have folding := foldInserted_ok db inv p txn row record ready member same
    obtain ⟨_,rfl,rfl⟩ := mem_keyRows.mp member
    obtain ⟨rfl,after | failed⟩ := getState_answer answered
    · exact ⟨inv,.refl next,after ▸ folding⟩
    · exact ⟨inv,.refl next,.of_failed failed⟩
  | folded row updated member same fold last =>
    rw [upsertFolded_eq] at shape
    cases shape
    obtain ⟨tenant,name,_⟩ := foldAll_fields _ _ fold
    rcases upsert_answer answered with ⟨rfl,advancing,after⟩ | ⟨rfl,failed | ⟨after,stale⟩⟩
    · refine ⟨write_key db inv updated row.id fold last,write_grows db updated row.id tenant name last advancing,?_⟩
      rcases after with after | failed
      · exact after ▸ .returned row (mem_foldedRows_write updated tenant name last member) same
      · exact .of_failed failed
    · exact ⟨inv,.refl next,.of_failed failed⟩
    · -- The compare-and-swap failed: the watermark has reached this row already.
      have folded := folded_of_stale tenant name last stale
      exact ⟨inv,.refl next,after ▸ .returned row (List.mem_filter.mpr ⟨member,folded⟩) same⟩
  | returned row member same => contradiction
  | failed err => contradiction

end

end ControlPlane.Processor
