import ControlPlane.Data.Distinct
import ControlPlane.Effect.Transitions
import ControlPlane.Processor.StoredState

/-! Runs of `Reconcile` over the transactions of many tenants, every repository call served.
The event id, the transaction ids and the look-up of duplicates are shared by all tenants;
what is stored for a key is nevertheless a function of the first accepted transaction of each
event, so a tenant whose events nobody else has used first is not affected by the others. -/
namespace ControlPlane.Processor
open Go Ledger Effect Effect.Program Distinct

/-- One call of `Reconcile`, with the database answering every call. -/
def reconciled (db : Database) (txn : Transaction) : Database :=
  ((reconcile txn).execute RepositoryCall.execute db).2

def reconcileAll (txns : List Transaction) : Database := Transitions.run reconciled .empty txns

/-- Of each event the first transaction that passes the CHECK constraints. -/
def acceptedFirsts (txns : List Transaction) : List Transaction :=
  firsts (·.eventID) (txns.filter (CheckConstraints ·))

/-- No other tenant has used one of the tenant's events first. -/
def OwnEvents (tenantID : Bytes) (txns : List Transaction) : Prop :=
  ∀ txn ∈ txns, CheckConstraints txn → txn.tenantID = tenantID →
    ∀ first ∈ acceptedFirsts txns, first.eventID = txn.eventID → first.tenantID = tenantID

instance (tenantID : Bytes) (txns : List Transaction) : Decidable (OwnEvents tenantID txns) :=
  inferInstanceAs (Decidable (∀ txn ∈ txns, _))

section
variable (tenantID instrument : Bytes)

def ofKey (rows : List Transaction) : List Transaction :=
  rows.filter (fun row => row.tenantID = tenantID ∧ row.instrument = instrument)

-- A row that cannot be folded leaves the state as it was.
def foldRow (state : Option ReconciledState) (row : Transaction) : Option ReconciledState :=
  (applyTransaction (state.getD (.zero tenantID instrument)) row).toOption.or state

def foldRows (rows : List Transaction) : Option ReconciledState :=
  rows.foldl (foldRow tenantID instrument) none

end

/-- What the tables hold after a run. -/
structure Reconciled (txns : List Transaction) (db : Database) : Prop where
  sequence : db.transactions.sequence = txns.length
  rows : db.transactions.rows.map withoutID = (acceptedFirsts txns).map withoutID
  states : ∀ tenantID instrument, db.reconciledState tenantID instrument =
    foldRows tenantID instrument (keyRows tenantID instrument db)

section
variable {tenantID instrument : Bytes}

theorem foldRows_snoc (rows : List Transaction) (row : Transaction) :
    foldRows tenantID instrument (rows ++ [row]) =
      foldRow tenantID instrument (foldRows tenantID instrument rows) row := List.foldl_append

theorem foldRow_ok {state : Option ReconciledState} {row : Transaction} {updated : ReconciledState}
    (applied : applyTransaction (state.getD (.zero tenantID instrument)) row = .ok updated) :
    foldRow tenantID instrument state row = some updated := by
  rw [foldRow,applied]
  rfl

theorem foldRow_error {state : Option ReconciledState} {row : Transaction} {err : Error}
    (refused : applyTransaction (state.getD (.zero tenantID instrument)) row = .error err) :
    foldRow tenantID instrument state row = state := by
  rw [foldRow,refused]
  rfl

/-- The folded state is the key's, and its watermark is the id of a row. -/
theorem foldRows_fields (tenantID instrument : Bytes) (rows : List Transaction) :
    ((foldRows tenantID instrument rows).getD (.zero tenantID instrument)).tenantID = tenantID ∧
      ((foldRows tenantID instrument rows).getD (.zero tenantID instrument)).instrument = instrument ∧
      ∀ last, ((foldRows tenantID instrument rows).getD (.zero tenantID instrument)).lastTransactionID = some last →
        ∃ row ∈ rows, row.id = last := by
  induction rows using List.reverseRecOn with
  | nil => exact ⟨rfl,rfl,nofun⟩
  | append_singleton rows row ih =>
    rw [foldRows_snoc]
    cases applied : applyTransaction ((foldRows tenantID instrument rows).getD (.zero tenantID instrument)) row with
    | error err =>
      rw [foldRow_error applied]
      refine ⟨ih.1,ih.2.1,?_⟩
      intro last watermark
      obtain ⟨earlier,member,same⟩ := ih.2.2 last watermark
      exact ⟨earlier,List.mem_append_left _ member,same⟩
    | ok updated =>
      rw [foldRow_ok applied]
      obtain ⟨tenant,name,watermark,_⟩ := applyTransaction_fields _ _ _ applied
      refine ⟨tenant.trans ih.1,name.trans ih.2.1,?_⟩
      intro last reached
      exact ⟨row,List.mem_append_right _ List.mem_cons_self,Option.some.inj (watermark.symm.trans reached)⟩

/-- Every row is behind the watermark or cannot be folded into the state as it is. -/
theorem foldRows_settled (rows : List Transaction)
    (increasing : rows.Pairwise (fun earlier later => earlier.id.toInt < later.id.toInt)) (row : Transaction)
    (member : row ∈ rows) :
    alreadyFolded ((foldRows tenantID instrument rows).getD (.zero tenantID instrument)) row = true ∨
      ∃ err, applyTransaction ((foldRows tenantID instrument rows).getD (.zero tenantID instrument)) row =
      .error err := by
  induction rows using List.reverseRecOn with
  | nil => cases member
  | append_singleton rows latest ih =>
    obtain ⟨before,_,order⟩ := List.pairwise_append.mp increasing
    rw [foldRows_snoc]
    cases applied : applyTransaction ((foldRows tenantID instrument rows).getD (.zero tenantID instrument)) latest with
    | error err =>
      rw [foldRow_error applied]
      rcases List.mem_append.mp member with old | new
      · exact ih before old
      · rw [List.mem_singleton.mp new]
        exact Or.inr ⟨err,applied⟩
    | ok updated =>
      rw [foldRow_ok applied]
      obtain ⟨_,_,watermark,_⟩ := applyTransaction_fields _ _ _ applied
      refine Or.inl ((alreadyFolded_iff _ _).mpr ⟨latest.id,watermark,?_⟩)
      rcases List.mem_append.mp member with old | new
      · exact (order row old latest List.mem_cons_self).le
      · rw [List.mem_singleton.mp new]

end

section served
variable {txns : List Transaction} {db : Database}

theorem reconcileInserted_served (db : Database) (row : Transaction) :
    (reconcileInserted row).execute RepositoryCall.execute db =
      (foldInserted row (stored row.tenantID row.instrument db)).execute RepositoryCall.execute db := by
  rw [reconcileInserted_eq]
  change (afterGetState row (db.get row.tenantID row.instrument)).execute _ db = _
  rcases get_cases db row.tenantID row.instrument with ⟨state,present,found⟩ | ⟨absent,missing⟩
  · rw [found,stored,present]
    rfl
  · rw [missing,stored,absent]
    rfl

/-- `Reconcile` of a row that is settled changes nothing. -/
theorem settled_unchanged (row : Transaction)
    (settled : alreadyFolded (stored row.tenantID row.instrument db) row = true ∨
      ∃ err, applyTransaction (stored row.tenantID row.instrument db) row = .error err) :
    ((reconcileInserted row).execute RepositoryCall.execute db).2 = db := by
  rw [reconcileInserted_served]
  rcases foldInserted_cases row (stored row.tenantID row.instrument db) with
    ⟨_,after⟩ | ⟨unfolded,⟨updated,applied,_⟩ | ⟨_,_,_,after⟩⟩
  · rw [after]
    rfl
  · rw [unfolded,applied] at settled
    rcases settled with impossible | ⟨_,impossible⟩
    · cases impossible
    · cases impossible
  · rw [after]
    rfl

/-- The watermark of a key has not reached a row that was just inserted. -/
theorem watermark_below {row : Transaction} {earlier : List Transaction}
    (rows : keyRows row.tenantID row.instrument db = earlier ++ [row])
    (state : db.reconciledState row.tenantID row.instrument = foldRows row.tenantID row.instrument earlier)
    (last : Int64) (watermark : (stored row.tenantID row.instrument db).lastTransactionID = some last) :
    last.toInt < row.id.toInt := by
  rw [stored,state] at watermark
  obtain ⟨_,_,watermarked⟩ := foldRows_fields row.tenantID row.instrument earlier
  obtain ⟨folded,member,rfl⟩ := watermarked last watermark
  have increasing := keyRows_increasing row.tenantID row.instrument db
  rw [rows] at increasing
  exact (List.pairwise_append.mp increasing).2.2 folded member row List.mem_cons_self

theorem upsert_served {row : Transaction} {updated : ReconciledState} (tenant : updated.tenantID = row.tenantID)
    (name : updated.instrument = row.instrument) (watermark : updated.lastTransactionID = some row.id)
    (member : row ∈ db.transactions.rows)
    (below : ∀ last, (stored row.tenantID row.instrument db).lastTransactionID = some last →
      last.toInt < row.id.toInt) :
    db.upsert updated = (.ok (),db.write updated) := by
  have advancing : advances (db.reconciledState updated.tenantID updated.instrument) updated.lastTransactionID =
    true := by
    rw [tenant,name,watermark]
    exact (advances_iff db row.id).mpr below
  have referenced : references db.transactions updated.lastTransactionID = true := by
    rw [watermark]
    exact List.any_eq_true.mpr ⟨row,member,decide_eq_true rfl⟩
  rw [Database.upsert,if_pos advancing,if_pos referenced]

/-- The row is folded into its key, and no other key is touched. -/
structure FoldedInto (row : Transaction) (earlier : List Transaction) (db next : Database) : Prop where
  table : next.transactions = db.transactions
  state : next.reconciledState row.tenantID row.instrument = foldRows row.tenantID row.instrument (earlier ++ [row])
  others : ∀ tenantID instrument, ¬(tenantID = row.tenantID ∧ instrument = row.instrument) →
    next.reconciledState tenantID instrument = db.reconciledState tenantID instrument

theorem FoldedInto.written {row : Transaction} {earlier : List Transaction} {updated : ReconciledState}
    (tenant : updated.tenantID = row.tenantID) (name : updated.instrument = row.instrument)
    (folded : foldRows row.tenantID row.instrument (earlier ++ [row]) = some updated) :
    FoldedInto row earlier db (db.write updated) := by
  refine ⟨rfl,?_,?_⟩
  · rw [folded,← tenant,← name]
    exact db.write_self updated
  · intro tenantID instrument other
    rw [← tenant,← name] at other
    exact db.write_other other

theorem inserted_folded (db : Database) (row : Transaction) {earlier : List Transaction}
    (rows : keyRows row.tenantID row.instrument db = earlier ++ [row])
    (state : db.reconciledState row.tenantID row.instrument = foldRows row.tenantID row.instrument earlier) :
    FoldedInto row earlier db ((reconcileInserted row).execute RepositoryCall.execute db).2 := by
  have below := watermark_below rows state
  rw [reconcileInserted_served]
  rcases foldInserted_cases row (stored row.tenantID row.instrument db) with
    ⟨folded,_⟩ | ⟨_,⟨updated,applied,after⟩ | ⟨err,refused,_,after⟩⟩
  · obtain ⟨last,watermark,reached⟩ := (alreadyFolded_iff _ _).mp folded
    have := below last watermark
    omega
  · have member : row ∈ keyRows row.tenantID row.instrument db := by
      rw [rows]
      exact List.mem_append_right _ List.mem_cons_self
    rw [after]
    rw [stored,state] at applied
    obtain ⟨tenant,name,watermark,_⟩ := applyTransaction_fields _ _ _ applied
    obtain ⟨keyTenant,keyName,_⟩ := foldRows_fields row.tenantID row.instrument earlier
    rw [keyTenant] at tenant
    rw [keyName] at name
    change FoldedInto row earlier db ((afterUpsert (db.upsert updated).1).execute _ (db.upsert updated).2).2
    rw [upsert_served tenant name watermark (mem_keyRows.mp member).1 below]
    refine .written tenant name ?_
    rw [foldRows_snoc,foldRow_ok applied]
  · rw [after]
    refine ⟨rfl,?_,fun _ _ _ => rfl⟩
    rw [stored,state] at refused
    rw [foldRows_snoc,foldRow_error refused]
    exact state

/-- An insert while the id sequence lasts: a constraint refuses the transaction, its event is
stored already, or it becomes the last row. -/
theorem insert_served (table : TransactionTable) (txn : Transaction) (room : table.sequence + 1 < 2^63) :
    (¬CheckConstraints txn ∧
        table.insert txn = (.error (.wrap "insert transaction: %w" [] pgCheckViolation),table.advance)) ∨
      (CheckConstraints txn ∧ txn.eventID ∈ table.rows.map (·.eventID) ∧
        table.insert txn = (.error errDuplicateEvent,table.advance)) ∨
      ∃ fresh : txn.eventID ∉ table.rows.map (·.eventID), CheckConstraints txn ∧
        table.insert txn = (.ok {txn with id := table.nextID},table.append txn room fresh) := by
  rw [TransactionTable.insert,dif_pos room]
  by_cases passes : CheckConstraints txn
  · rw [if_pos passes]
    by_cases fresh : txn.eventID ∉ table.rows.map (·.eventID)
    · rw [dif_pos fresh]
      exact Or.inr (Or.inr ⟨fresh,passes,rfl⟩)
    · rw [dif_neg fresh]
      exact Or.inr (Or.inl ⟨passes,not_not.mp fresh,rfl⟩)
  · rw [if_neg passes]
    exact Or.inl ⟨passes,rfl⟩

theorem acceptedFirsts_refused {txn : Transaction} (refused : ¬CheckConstraints txn) :
    acceptedFirsts (txns ++ [txn]) = acceptedFirsts txns := by
  unfold acceptedFirsts
  rw [List.filter_append,List.filter_cons_of_neg (by simpa using refused),List.filter_nil,List.append_nil]

theorem acceptedFirsts_seen {txn : Transaction} (passes : CheckConstraints txn)
    (seen : txn.eventID ∈ (acceptedFirsts txns).map (·.eventID)) :
    acceptedFirsts (txns ++ [txn]) = acceptedFirsts txns := by
  unfold acceptedFirsts at seen ⊢
  rw [List.filter_append,List.filter_cons_of_pos (by simpa using passes),List.filter_nil,firsts_append_singleton,
    if_pos seen]

theorem acceptedFirsts_fresh {txn : Transaction} (passes : CheckConstraints txn)
    (fresh : txn.eventID ∉ (acceptedFirsts txns).map (·.eventID)) :
    acceptedFirsts (txns ++ [txn]) = acceptedFirsts txns ++ [txn] := by
  unfold acceptedFirsts at fresh ⊢
  rw [List.filter_append,List.filter_cons_of_pos (by simpa using passes),List.filter_nil,firsts_append_singleton,
    if_neg fresh]

theorem events_withoutID (rows : List Transaction) :
    rows.map (·.eventID) = (rows.map withoutID).map (·.eventID) := by
  rw [List.map_map]
  rfl

theorem Reconciled.events (held : Reconciled txns db) :
    db.transactions.rows.map (·.eventID) = (acceptedFirsts txns).map (·.eventID) := by
  rw [events_withoutID,held.rows,← events_withoutID]

theorem Reconciled.stored (held : Reconciled txns db) (tenantID instrument : Bytes) :
    stored tenantID instrument db =
      (foldRows tenantID instrument (keyRows tenantID instrument db)).getD (.zero tenantID instrument) := by
  rw [Processor.stored,held.states]

theorem Reconciled.settled (held : Reconciled txns db) (row : Transaction) (member : row ∈ db.transactions.rows) :
    alreadyFolded (Processor.stored row.tenantID row.instrument db) row = true ∨
      ∃ err, applyTransaction (Processor.stored row.tenantID row.instrument db) row = .error err := by
  rw [held.stored]
  exact foldRows_settled _ (keyRows_increasing _ _ db) row (mem_keyRows.mpr ⟨member,rfl,rfl⟩)

theorem Reconciled.refused (held : Reconciled txns db) {txn : Transaction}
    (unchanged : acceptedFirsts (txns ++ [txn]) = acceptedFirsts txns) :
    Reconciled (txns ++ [txn]) {db with transactions := db.transactions.advance} where
  sequence := by
    change db.transactions.sequence + 1 = _
    rw [held.sequence,List.length_append,List.length_singleton]
  rows := by
    rw [unchanged]
    exact held.rows
  states := held.states

theorem getByEventID_stored (table : TransactionTable) (eventID : UUID)
    (present : eventID ∈ table.rows.map (·.eventID)) :
    ∃ row ∈ table.rows, table.getByEventID eventID = .ok row := by
  obtain ⟨row,member,same⟩ := List.mem_map.mp present
  cases found : table.rows.find? (fun row => row.eventID = eventID) with
  | none => exact absurd (decide_eq_true same) (List.find?_eq_none.mp found row member)
  | some row =>
    refine ⟨row,List.mem_of_find?_eq_some found,?_⟩
    rw [TransactionTable.getByEventID,found]

theorem Reconciled.accepted (held : Reconciled txns db) {txn : Transaction} (passes : CheckConstraints txn)
    (room : db.transactions.sequence + 1 < 2^63) (fresh : txn.eventID ∉ db.transactions.rows.map (·.eventID)) :
    Reconciled (txns ++ [txn]) ((reconcileInserted {txn with id := db.transactions.nextID}).execute
      RepositoryCall.execute {db with transactions := db.transactions.append txn room fresh}).2 := by
  generalize final : ((reconcileInserted {txn with id := db.transactions.nextID}).execute
    RepositoryCall.execute {db with transactions := db.transactions.append txn room fresh}).2 = next
  have own : keyRows txn.tenantID txn.instrument {db with transactions := db.transactions.append txn room fresh} =
      keyRows txn.tenantID txn.instrument db ++ [{txn with id := db.transactions.nextID}] := by
    unfold keyRows
    change (db.transactions.rows ++ [_]).filter _ = _
    rw [List.filter_append,List.filter_cons_of_pos (by simp),List.filter_nil]
  obtain ⟨table,state,others⟩ := inserted_folded {db with transactions := db.transactions.append txn room fresh}
    {txn with id := db.transactions.nextID} own (held.states txn.tenantID txn.instrument)
  rw [final] at table state others
  refine ⟨?_,?_,?_⟩
  · rw [table,List.length_append,List.length_singleton,← held.sequence]
    rfl
  · rw [table,acceptedFirsts_fresh passes (held.events ▸ fresh),List.map_append,← held.rows]
    exact List.map_append
  · intro tenantID instrument
    by_cases same : tenantID = txn.tenantID ∧ instrument = txn.instrument
    · obtain ⟨rfl,rfl⟩ := same
      have rows : keyRows txn.tenantID txn.instrument next =
          keyRows txn.tenantID txn.instrument db ++ [{txn with id := db.transactions.nextID}] := by
        rw [← own,keyRows,table,keyRows]
      rw [rows]
      exact state
    · have rows : keyRows tenantID instrument next = keyRows tenantID instrument db := by
        rw [keyRows,table]
        change (db.transactions.rows ++ [_]).filter _ = _
        rw [List.filter_append,List.filter_cons_of_neg
          (fun kept => same ((of_decide_eq_true kept).imp Eq.symm Eq.symm)),
          List.filter_nil,List.append_nil]
        rfl
      rw [others tenantID instrument same,rows]
      exact held.states tenantID instrument

/-- Step lemma: one more call of `Reconcile`, while the id sequence lasts. -/
theorem Reconciled.step (held : Reconciled txns db) (txn : Transaction) (room : txns.length + 1 < 2^63) :
    Reconciled (txns ++ [txn]) (reconciled db txn) := by
  have shape : reconciled db txn = ((afterInsert txn (db.transactions.insert txn).1).execute RepositoryCall.execute
      {db with transactions := (db.transactions.insert txn).2}).2 := rfl
  rw [shape]
  have within : db.transactions.sequence + 1 < 2^63 := held.sequence ▸ room
  rcases insert_served db.transactions txn within with
    ⟨fails,inserted⟩ | ⟨passes,present,inserted⟩ | ⟨fresh,passes,inserted⟩
  · rw [inserted]
    exact held.refused (acceptedFirsts_refused fails)
  · rw [inserted]
    have advanced := held.refused (acceptedFirsts_seen passes (held.events ▸ present))
    obtain ⟨row,member,found⟩ := getByEventID_stored db.transactions.advance txn.eventID present
    change Reconciled _ ((afterGetByEventID (db.transactions.advance.getByEventID txn.eventID)).execute _ _).2
    rw [found]
    exact (settled_unchanged row (advanced.settled row member)).symm ▸ advanced
  · rw [inserted]
    exact held.accepted passes within fresh

/-- Run lemma. -/
theorem reconcileAll_reconciled (txns : List Transaction) (room : txns.length < 2^63) :
    Reconciled txns (reconcileAll txns) := by
  induction txns using List.reverseRecOn with
  | nil => exact ⟨rfl,rfl,fun _ _ => rfl⟩
  | append_singleton txns txn ih =>
    rw [List.length_append,List.length_singleton] at room
    rw [reconcileAll,Transitions.run_snoc]
    exact (ih (by omega)).step txn room

end served

section books
variable {state other : ReconciledState}

theorem books_eq_iff : books state = books other ↔
    state.position = other.position ∧ state.averageCost = other.averageCost ∧ state.realizedPnL =
      other.realizedPnL := by
  simp only [books,Books.mk.injEq,Int64.toInt_inj]

theorem bind_books {α : Type} (first : Except Error α) {next next' : α → Except Error ReconciledState}
    (same : ∀ value, (next value).toOption.map books = (next' value).toOption.map books) :
    (first >>= next).toOption.map books = (first >>= next').toOption.map books := by
  cases first with
  | error err => rfl
  | ok value => exact same value

/-- A trade reads nothing of the state but its amounts. -/
theorem applyTrade_books (same : books state = books other) (q p : Int64) :
    (applyTrade state q p).toOption.map books = (applyTrade other q p).toOption.map books := by
  obtain ⟨position,cost,pnl⟩ := books_eq_iff.mp same
  unfold applyTrade
  rw [position]
  split
  · unfold extendPosition
    rw [position,cost]
    refine bind_books _ fun existing => bind_books _ fun added => bind_books _ fun average => ?_
    exact congrArg some (books_eq_iff.mpr ⟨rfl,rfl,pnl⟩)
  · unfold closePosition
    rw [position,cost,pnl]
    exact bind_books _ fun realized => rfl

theorem applyTransaction_books (same : books state = books other) {row row' : Transaction}
    (alike : withoutID row = withoutID row') :
    (applyTransaction state row).toOption.map books = (applyTransaction other row').toOption.map books := by
  have side : row.side = row'.side := (congrArg (·.side) alike :)
  have quantity : row.quantity = row'.quantity := (congrArg (·.quantity) alike :)
  have price : row.price = row'.price := (congrArg (·.price) alike :)
  have marked : ∀ (state : ReconciledState) (row : Transaction),
      (applyTransaction state row).toOption.map books = (applySide state row).toOption.map books := by
    intro state row
    unfold applyTransaction
    cases applySide state row <;> rfl
  rw [marked,marked]
  unfold applySide applyBuy applySell
  rw [side,quantity,price]
  split
  · exact applyTrade_books same _ _
  · split
    · exact applyTrade_books same _ _
    · rfl

theorem foldRow_books (tenantID instrument : Bytes) {state other : Option ReconciledState}
    (same : state.map books = other.map books) {row row' : Transaction} (alike : withoutID row = withoutID row') :
    (foldRow tenantID instrument state row).map books = (foldRow tenantID instrument other row').map books := by
  have current : books (state.getD (.zero tenantID instrument)) = books (other.getD (.zero tenantID instrument)) := by
    have := congrArg (·.getD (books (.zero tenantID instrument))) same
    simpa only [Option.getD_map] using this
  unfold foldRow
  rw [Option.map_or,Option.map_or,applyTransaction_books current alike,same]

theorem foldRows_books (tenantID instrument : Bytes) {rows rows' : List Transaction}
    (alike : rows.map withoutID = rows'.map withoutID) :
    (foldRows tenantID instrument rows).map books = (foldRows tenantID instrument rows').map books := by
  induction rows using List.reverseRecOn generalizing rows' with
  | nil =>
    rw [List.map_nil] at alike
    rw [List.map_eq_nil_iff.mp alike.symm]
  | append_singleton rows row ih =>
    rw [List.map_append,List.map_singleton] at alike
    obtain ⟨before,last,rfl,earlier,latest⟩ := List.map_eq_append_iff.mp alike.symm
    obtain ⟨row',rest,rfl,single,none⟩ := List.map_eq_cons_iff.mp latest
    rw [List.map_eq_nil_iff.mp none,foldRows_snoc,foldRows_snoc]
    exact foldRow_books tenantID instrument (ih earlier.symm) single.symm

end books

theorem acceptedFirsts_own {tenantID : Bytes} {txns : List Transaction} (own : OwnEvents tenantID txns) :
    (acceptedFirsts txns).filter (·.tenantID = tenantID) = acceptedFirsts (txns.filter (·.tenantID = tenantID)) := by
  unfold acceptedFirsts
  rw [firsts_filter,List.filter_filter,List.filter_filter]
  · simp only [Bool.and_comm]
  · intro txn member mine first found event
    obtain ⟨inside,passes⟩ := List.mem_filter.mp member
    exact decide_eq_true (own txn inside (of_decide_eq_true passes) (of_decide_eq_true mine) first found event)

theorem ofKey_own (tenantID instrument : Bytes) (rows : List Transaction) :
    ofKey tenantID instrument (rows.filter (·.tenantID = tenantID)) = ofKey tenantID instrument rows := by
  unfold ofKey
  rw [List.filter_filter]
  apply List.filter_congr
  intro row _
  simp +contextual

theorem ofKey_withoutID (tenantID instrument : Bytes) (rows : List Transaction) :
    (ofKey tenantID instrument rows).map withoutID = ofKey tenantID instrument (rows.map withoutID) := by
  unfold ofKey
  rw [List.filter_map]
  rfl

/-- What a run leaves for a tenant is determined by the tenant's own transactions. -/
theorem reconcileAll_own {tenantID : Bytes} {txns : List Transaction} (room : txns.length < 2^63)
    (own : OwnEvents tenantID txns) (instrument : Bytes) :
    ((reconcileAll txns).reconciledState tenantID instrument).map books =
      (foldRows tenantID instrument (ofKey tenantID instrument
        (acceptedFirsts (txns.filter (·.tenantID = tenantID))))).map books := by
  have held := reconcileAll_reconciled txns room
  rw [held.states,← acceptedFirsts_own own,ofKey_own]
  apply foldRows_books
  change (ofKey tenantID instrument _).map withoutID = _
  rw [ofKey_withoutID,ofKey_withoutID,held.rows]

/-- Tenants do not influence each other's profit and loss where no other tenant has used one of
the tenant's events first: two runs with the same transactions of the tenant, in the same order,
leave the same amounts for each of its instruments. -/
theorem tenants_separate (tenantID : Bytes) (first second : List Transaction)
    (same : first.filter (·.tenantID = tenantID) = second.filter (·.tenantID = tenantID))
    (roomFirst : first.length < 2^63) (roomSecond : second.length < 2^63)
    (ownFirst : OwnEvents tenantID first) (ownSecond : OwnEvents tenantID second) (instrument : Bytes) :
    ((reconcileAll first).reconciledState tenantID instrument).map books =
      ((reconcileAll second).reconciledState tenantID instrument).map books := by
  rw [reconcileAll_own roomFirst ownFirst,reconcileAll_own roomSecond ownSecond,same]

def acmeAlone : List Transaction :=
  [sampleTrade "acme" 1 sideBuy 3 100000000,sampleTrade "acme" 2 sideSell 1 100000000]

-- The other tenant trades in between and, later, reuses an event.
def acmeAmongOthers : List Transaction :=
  [sampleTrade "tenant-b" 3 sideBuy 7 100000000,sampleTrade "acme" 1 sideBuy 3 100000000,
    sampleTrade "tenant-b" 1 sideSell 5 100000000,sampleTrade "acme" 2 sideSell 1 100000000]

theorem acme_unaffected :
    ((reconcileAll acmeAlone).reconciledState (text "acme") (text "BTC-USD")).map books = some ⟨2,100000000,0⟩ ∧
      ((reconcileAll acmeAmongOthers).reconciledState (text "acme") (text "BTC-USD")).map books =
        some ⟨2,100000000,0⟩ := by
  have alone : ((reconcileAll acmeAlone).reconciledState (text "acme") (text "BTC-USD")).map books =
      some ⟨2,100000000,0⟩ := by decide
  refine ⟨alone,?_⟩
  rw [← tenants_separate (text "acme") acmeAlone acmeAmongOthers (by decide) (by decide) (by decide) (by decide)
    (by decide)]
  exact alone

/-- Where another tenant has used the event first, the buy is taken for a redelivery, and lost. -/
theorem acme_affected :
    ¬∀ (tenantID : Bytes) (first second : List Transaction),
      first.filter (·.tenantID = tenantID) = second.filter (·.tenantID = tenantID) →
      first.length < 2^63 → second.length < 2^63 → ∀ instrument,
        ((reconcileAll first).reconciledState tenantID instrument).map books =
          ((reconcileAll second).reconciledState tenantID instrument).map books := by
  intro separate
  have lost := separate (text "acme") [sampleTrade "acme" 1 sideBuy 3 100000000]
    [sampleTrade "tenant-b" 1 sideBuy 7 100000000,sampleTrade "acme" 1 sideBuy 3 100000000]
    (by decide) (by decide) (by decide) (text "BTC-USD")
  revert lost
  decide

end ControlPlane.Processor
