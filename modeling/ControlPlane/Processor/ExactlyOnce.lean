import ControlPlane.Processor.OverlappingConsumers

/-! Exactly-once folding. However the repository calls of the consumers interleave, crash
and fail, the stored state is the fold of the first occurrences of a prefix of the log. -/
namespace ControlPlane.Processor
open Go Ledger Effect Effect.Program Distinct Relation

section
variable {tenantID instrument : Bytes} {log : List Transaction}

theorem Inv.grow {s : System} {next : Database} (inv : Inv tenantID instrument log s)
    (key : KeyInv tenantID instrument log next) (grows : Grows tenantID instrument s.db next) :
    Inv tenantID instrument log {s with db := next} := by
  refine ⟨key,fun p member => (inv.completed p member).mono grows,inv.behind,?_⟩
  intro c consumer running call pending
  obtain ⟨txn,record,ok⟩ := inv.calls c consumer running call pending
  exact ⟨txn,record,ok.mono grows⟩

theorem System.set_cases {s : System} {c d : Nat} {consumer found : Consumer}
    (running : (s.set c consumer).consumers d = some found) : found = consumer ∨ s.consumers d = some found := by
  unfold System.set at running
  by_cases same : d = c
  · subst same
    exact Or.inl (by simpa using running.symm)
  · exact Or.inr (by simpa [same] using running)

theorem Inv.set {s : System} (inv : Inv tenantID instrument log s) (c : Nat) (consumer : Consumer)
    (behind : ∀ q < consumer.position, q ∈ s.completed)
    (ok : ∀ call, consumer.call = some call →
      ∃ txn, log[consumer.position]? = some txn ∧ CallOK tenantID instrument s.db txn call) :
    Inv tenantID instrument log (s.set c consumer) := by
  refine ⟨inv.key,inv.completed,?_,?_⟩
  · intro d found running
    rcases System.set_cases running with rfl | other
    · exact behind
    · exact inv.behind d found other
  · intro d found running
    rcases System.set_cases running with rfl | other
    · exact ok
    · exact inv.calls d found other

theorem Inv.complete {s : System} (inv : Inv tenantID instrument log s) (p : Nat)
    (folded : EventFolded tenantID instrument log s.db p) :
    Inv tenantID instrument log {s with completed := insert p s.completed} := by
  refine ⟨inv.key,?_,fun c consumer running q before => Or.inr (inv.behind c consumer running q before),inv.calls⟩
  rintro q (rfl | earlier)
  · exact folded
  · exact inv.completed q earlier

theorem returned_folded {db : Database} {txn : Transaction} {p : Nat} (record : log[p]? = some txn)
    (ok : CallOK tenantID instrument db txn (.done (.ok ()))) : EventFolded tenantID instrument log db p := by
  generalize shape : (Program.done (.ok ()) : Reconciling) = call at ok
  cases ok with
  | returned row member same => exact ⟨txn,record,List.mem_map.mpr ⟨row,member,same⟩⟩
  | fresh => contradiction
  | duplicate => contradiction
  | inserted => contradiction
  | folded => contradiction
  | failed err => cases shape

theorem initial_inv (s : System) (initial : Initial tenantID instrument log s) : Inv tenantID instrument log s := by
  have empty : stored tenantID instrument s.db = .zero tenantID instrument := by
    unfold stored
    rw [initial.noState]
    rfl
  refine ⟨⟨⟨0,?_⟩,?_,?_⟩,?_,?_,?_⟩
  · rw [initial.noRows]
    rfl
  · intro row member event
    exact absurd event (initial.noEvents row member)
  · unfold Consistent foldedRows
    rw [initial.noRows,empty]
    rfl
  · intro p member
    rw [initial.untouched] at member
    contradiction
  · intro c consumer running
    rw [initial.idle c] at running
    contradiction
  · intro c consumer running
    rw [initial.idle c] at running
    contradiction

/-- Step lemma: every step keeps the invariant, and the key's rows and watermark only grow. -/
theorem step_inv (keyed : ∀ txn ∈ log, txn.tenantID = tenantID ∧ txn.instrument = instrument)
    (s t : System) (inv : Inv tenantID instrument log s) (step : Step tenantID instrument log s t) :
    Inv tenantID instrument log t ∧ Grows tenantID instrument s.db t.db := by
  cases step with
  | start c p absent ready => exact ⟨inv.set c ⟨p,none⟩ ready (by simp),.refl s.db⟩
  | begin c p txn idle record =>
    have before : ∀ q < p, q ∈ s.completed := inv.behind c _ idle
    refine ⟨inv.set c ⟨p,some (reconcile txn)⟩ before ?_,.refl s.db⟩
    rintro call ⟨⟩
    exact ⟨txn,record,.fresh⟩
  | answer c p op next reply db busy answered =>
    obtain ⟨txn,record,ok⟩ := inv.calls c _ busy _ rfl
    have before : ∀ q < p, q ∈ s.completed := inv.behind c _ busy
    obtain ⟨key,grows,following⟩ := answer_ok s.db db inv.key p txn (keyed txn (List.mem_of_getElem? record)) record
      (fun q earlier => inv.completed q (before q earlier)) _ ok op next reply rfl answered
    refine ⟨(inv.grow key grows).set c ⟨p,some (next reply)⟩ before ?_,grows⟩
    rintro call ⟨⟩
    exact ⟨txn,record,following⟩
  | succeed c p returned =>
    obtain ⟨txn,record,ok⟩ := inv.calls c _ returned _ rfl
    refine ⟨(inv.complete p (returned_folded record ok)).set c ⟨p+1,none⟩ ?_ (by simp),.refl s.db⟩
    intro q before
    rcases Nat.lt_succ_iff_lt_or_eq.mp before with earlier | rfl
    · exact Or.inr (inv.behind c _ returned q earlier)
    · exact Or.inl rfl
  | retry c p err returned =>
    have before : ∀ q < p, q ∈ s.completed := inv.behind c _ returned
    exact ⟨inv.set c ⟨p,none⟩ before (by simp),.refl s.db⟩
  | crash c p q call running back =>
    refine ⟨inv.set c ⟨q,none⟩ ?_ (by simp),.refl s.db⟩
    intro r before
    exact inv.behind c _ running r (Nat.lt_of_lt_of_le before back)
  | elsewhere op reply db foreign answered =>
    have frame := answers_frame s.db db op reply foreign answered
    exact ⟨inv.grow (inv.key.frame frame) frame.grows,frame.grows⟩

/-- Run lemma: the same of any number of steps. -/
theorem run_inv (keyed : ∀ txn ∈ log, txn.tenantID = tenantID ∧ txn.instrument = instrument)
    (s t : System) (inv : Inv tenantID instrument log s)
    (reached : ReflTransGen (Step tenantID instrument log) s t) :
    Inv tenantID instrument log t ∧ Grows tenantID instrument s.db t.db := by
  induction reached with
  | refl => exact ⟨inv,.refl s.db⟩
  | tail _ step ih =>
    obtain ⟨next,grows⟩ := step_inv keyed _ _ ih.1 step
    exact ⟨next,ih.2.trans grows⟩

theorem folded_firsts (db : Database) (inv : KeyInv tenantID instrument log db) :
    ∃ n ≤ log.length, (foldedRows tenantID instrument db).map withoutID =
      (firsts (·.eventID) (log.take n)).map withoutID := by
  obtain ⟨m,inserted⟩ := inv.inserted
  have start := foldedRows_initial tenantID instrument db
  have shape : (foldedRows tenantID instrument db).map withoutID =
      ((firsts (·.eventID) (log.take m)).take (foldedRows tenantID instrument db).length).map withoutID := by
    rw [List.map_take,← inserted,← List.map_take,← List.prefix_iff_eq_take.mp start]
  obtain ⟨n,_,initial⟩ := prefix_firsts (·.eventID) log _ m (List.take_prefix _ _)
  rw [initial] at shape
  refine ⟨min n log.length,Nat.min_le_right _ _,?_⟩
  rw [shape]
  rcases Nat.le_total n log.length with within | beyond
  · rw [Nat.min_eq_left within]
  · rw [Nat.min_eq_right beyond,List.take_of_length_le beyond,List.take_length]

theorem watermark_grows {db next : Database} (consistent : Consistent tenantID instrument db)
    (grows : Grows tenantID instrument db next) (last : Int64)
    (watermark : (stored tenantID instrument db).lastTransactionID = some last) :
    ∃ later, (stored tenantID instrument next).lastTransactionID = some later ∧ last.toInt ≤ later.toInt := by
  obtain ⟨row,_,rfl⟩ := watermark_row db consistent last watermark
  exact (alreadyFolded_iff _ _).mp (grows.folded row ((alreadyFolded_iff _ _).mpr ⟨_,watermark,Int.le_refl _⟩))

end

/-- Exactly-once folding under overlapping consumers: in every reachable state the stored
state is the fold of the first occurrences of a prefix of the log, its watermark is the id
of the last of them and never goes back, and every record that some consumer completed is
among them. -/
theorem exactly_once (tenantID instrument : Bytes) (log : List Transaction)
    (keyed : ∀ txn ∈ log, txn.tenantID = tenantID ∧ txn.instrument = instrument)
    (s₀ s : System) (initial : Initial tenantID instrument log s₀)
    (reached : ReflTransGen (Step tenantID instrument log) s₀ s) :
    ∃ n ≤ log.length, ∃ rows : List Transaction,
      rows <+: keyRows tenantID instrument s.db ∧
      rows.map withoutID = (firsts (·.eventID) (log.take n)).map withoutID ∧
      rows.foldlM applyTransaction (.zero tenantID instrument) = .ok (stored tenantID instrument s.db) ∧
      (stored tenantID instrument s.db).lastTransactionID = rows.getLast?.map (·.id) ∧
      (∀ p ∈ s.completed, ∃ txn, log[p]? = some txn ∧ txn.eventID ∈ rows.map (·.eventID)) ∧
      ∀ t, ReflTransGen (Step tenantID instrument log) s t →
        ∀ last, (stored tenantID instrument s.db).lastTransactionID = some last →
          ∃ later, (stored tenantID instrument t.db).lastTransactionID = some later ∧ last.toInt ≤ later.toInt := by
  have inv := (run_inv keyed s₀ s (initial_inv s₀ initial) reached).1
  have consistent := inv.key.consistent
  obtain ⟨n,bound,occurrences⟩ := folded_firsts s.db inv.key
  refine ⟨n,bound,foldedRows tenantID instrument s.db,foldedRows_initial _ _ s.db,occurrences,consistent,
    (foldAll_fields _ _ consistent).2.2,inv.completed,?_⟩
  intro t later last watermark
  exact watermark_grows consistent (run_inv keyed s t inv later).2 last watermark

def sampleRecord : Transaction := sampleTrade "acme" 1 sideBuy 100000000 200000000

def emptySystem : System := ⟨.empty,fun _ => none,∅⟩

/-- The pending call of a consumer, served by the database. -/
def System.serve (s : System) (c : Nat) : System :=
  match s.consumers c with
  | some ⟨p,some (.call op next)⟩ => {s.set c ⟨p,some (next (op.execute s.db).1)⟩ with db := (op.execute s.db).2}
  | _ => s

theorem serve_reached (tenantID instrument : Bytes) (log : List Transaction) (s : System) (c : Nat) :
    ReflTransGen (Step tenantID instrument log) s (s.serve c) := by
  unfold System.serve
  split
  · rename_i p op next busy
    exact .single (.answer s c p op next _ _ busy (.served op))
  · exact .refl

def bothBegun : System :=
  (((emptySystem.set 0 ⟨0,none⟩).set 1 ⟨0,none⟩).set 0 ⟨0,some (reconcile sampleRecord)⟩).set 1
    ⟨0,some (reconcile sampleRecord)⟩

/-- Consumer 0 inserts and reads; consumer 1 meets the duplicate and folds it; consumer 0
then loses the compare-and-swap. -/
def raced : System := [0,0,1,1,1,1,0].foldl System.serve bothBegun

theorem raced_reached : ReflTransGen (Step (text "acme") (text "BTC-USD") [sampleRecord]) emptySystem raced := by
  have started : ReflTransGen (Step (text "acme") (text "BTC-USD") [sampleRecord]) emptySystem bothBegun :=
    (((ReflTransGen.single (.start emptySystem 0 0 rfl (by simp))).tail (.start _ 1 0 rfl (by simp))).tail
      (.begin _ 0 0 sampleRecord rfl rfl)).tail (.begin _ 1 0 sampleRecord rfl rfl)
  unfold raced
  generalize [0,0,1,1,1,1,0] = schedule
  generalize bothBegun = s at started
  induction schedule generalizing s with
  | nil => exact started
  | cons c schedule ih => exact ih _ (started.trans (serve_reached _ _ _ s c))

theorem exactly_once_after_race :
    ∃ s, ReflTransGen (Step (text "acme") (text "BTC-USD") [sampleRecord]) emptySystem s ∧ 0 ∈ s.completed ∧
      ∃ n ≤ 1, ∃ rows : List Transaction, rows.map withoutID = (firsts (·.eventID) ([sampleRecord].take n)).map
      withoutID ∧
        rows.foldlM applyTransaction (.zero (text "acme") (text "BTC-USD")) =
          .ok ⟨text "acme",text "BTC-USD",100000000,200000000,0,some 1⟩ := by
  have finished := (raced_reached.tail (.succeed raced 0 0 rfl)).tail (.succeed _ 1 0 rfl)
  refine ⟨_,finished,Or.inl rfl,?_⟩
  obtain ⟨n,bound,rows,_,occurrences,fold,_⟩ := exactly_once (text "acme") (text "BTC-USD") [sampleRecord]
    (by decide) emptySystem _ ⟨fun _ => rfl,rfl,rfl,rfl,by simp [emptySystem,Database.empty,TransactionTable.empty]⟩
    finished
  exact ⟨n,bound,rows,occurrences,fold⟩

end ControlPlane.Processor
