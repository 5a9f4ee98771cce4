import ControlPlane.Processor.Reconciler
import Mathlib.Data.List.Induction

/-! What the two tables say about one (tenant, instrument). A stored transaction is folded
when the watermark of the stored state has reached its id; the state is consistent when
it is the fold of exactly these transactions, in id order. -/
namespace ControlPlane.Processor
open Go Ledger

section
variable (tenantID instrument : Bytes)

def keyRows (db : Database) : List Transaction :=
  db.transactions.rows.filter (fun row => row.tenantID = tenantID ∧ row.instrument = instrument)

def stored (db : Database) : ReconciledState :=
  (db.reconciledState tenantID instrument).getD (.zero tenantID instrument)

def foldedRows (db : Database) : List Transaction :=
  (keyRows tenantID instrument db).filter (alreadyFolded (stored tenantID instrument db))

def rowsThrough (db : Database) (id : Int64) : List Transaction :=
  (keyRows tenantID instrument db).filter (fun row => row.id ≤ id)

def foldAll (rows : List Transaction) : Except Error ReconciledState :=
  rows.foldlM applyTransaction (.zero tenantID instrument)

def Consistent (db : Database) : Prop :=
  foldAll tenantID instrument (foldedRows tenantID instrument db) = .ok (stored tenantID instrument db)

/-- The key's rows and watermark only grow. -/
structure Grows (db next : Database) : Prop where
  rows : keyRows tenantID instrument db <+: keyRows tenantID instrument next
  folded : ∀ row, alreadyFolded (stored tenantID instrument db) row = true →
    alreadyFolded (stored tenantID instrument next) row = true

def Foreign (log : List Transaction) : RepositoryCall → Prop
  | .insert txn => ¬(txn.tenantID = tenantID ∧ txn.instrument = instrument) ∧ txn.eventID ∉ log.map (·.eventID)
  | .upsert state => ¬(state.tenantID = tenantID ∧ state.instrument = instrument)
  | .getByEventID _ => True
  | .getState _ _ => True

/-- Nothing of the key changes, and no row of one of its events appears. -/
structure Frame (log : List Transaction) (db next : Database) : Prop where
  rows : keyRows tenantID instrument next = keyRows tenantID instrument db
  state : stored tenantID instrument next = stored tenantID instrument db
  events : ∀ row ∈ next.transactions.rows, row.eventID ∈ log.map (·.eventID) → row ∈ db.transactions.rows

end

def withoutID (txn : Transaction) : Transaction := {txn with id := 0}

section
variable {tenantID instrument : Bytes} {log : List Transaction}

theorem mem_keyRows {db : Database} {row : Transaction} : row ∈ keyRows tenantID instrument db ↔
    row ∈ db.transactions.rows ∧ row.tenantID = tenantID ∧ row.instrument = instrument := by
  simp [keyRows]

theorem keyRows_increasing (tenantID instrument : Bytes) (db : Database) :
    (keyRows tenantID instrument db).Pairwise (fun earlier later => earlier.id.toInt < later.id.toInt) :=
  db.transactions.increasing.sublist List.filter_sublist

theorem keyRows_unique (tenantID instrument : Bytes) (db : Database) :
    ((keyRows tenantID instrument db).map (·.eventID)).Nodup :=
  db.transactions.unique.sublist (List.filter_sublist.map _)

theorem alreadyFolded_iff (state : ReconciledState) (row : Transaction) :
    alreadyFolded state row = true ↔ ∃ last, state.lastTransactionID = some last ∧ row.id.toInt ≤ last.toInt := by
  unfold alreadyFolded
  cases state.lastTransactionID with
  | none => simp
  | some last => simp [Int64.le_iff_toInt_le]

theorem applyTrade_fields (state result : ReconciledState) (q p : Int64) (ok : applyTrade state q p = .ok result) :
    result.tenantID = state.tenantID ∧ result.instrument = state.instrument ∧
      result.position = state.position + q := by
  unfold applyTrade at ok
  split at ok
  · obtain ⟨_,_,ok⟩ := bind_success _ _ _ ok
    obtain ⟨_,_,ok⟩ := bind_success _ _ _ ok
    obtain ⟨_,_,ok⟩ := bind_success _ _ _ ok
    rw [← Except.ok.inj ok]
    exact ⟨rfl,rfl,rfl⟩
  · obtain ⟨_,_,ok⟩ := bind_success _ _ _ ok
    rw [← Except.ok.inj ok]
    exact ⟨rfl,rfl,rfl⟩

theorem applyTransaction_fields (state result : ReconciledState) (txn : Transaction)
    (ok : applyTransaction state txn = .ok result) :
    result.tenantID = state.tenantID ∧ result.instrument = state.instrument ∧
      result.lastTransactionID = some txn.id ∧
      result.position = state.position + (if txn.side = sideBuy then txn.quantity else -txn.quantity) := by
  obtain ⟨folded,side,ok⟩ := bind_success _ _ _ ok
  have traded : applyTrade state (if txn.side = sideBuy then txn.quantity else -txn.quantity) txn.price =
    .ok folded := by
    unfold applySide at side
    split at side
    · rename_i buys
      rw [if_pos buys]
      exact side
    · rename_i other
      rw [if_neg other]
      split at side
      · exact side
      · contradiction
  obtain ⟨tenant,name,position⟩ := applyTrade_fields _ _ _ _ traded
  rw [← Except.ok.inj ok]
  exact ⟨tenant,name,rfl,position⟩

theorem foldAll_snoc (rows : List Transaction) (row : Transaction) (state : ReconciledState)
    (folded : foldAll tenantID instrument rows = .ok state) :
    foldAll tenantID instrument (rows ++ [row]) = applyTransaction state row := by
  unfold foldAll at folded ⊢
  rw [List.foldlM_append,folded]
  cases applied : applyTransaction state row <;> simp [bind,Except.bind,applied,pure,Except.pure]

theorem foldAll_fields (rows : List Transaction) (state : ReconciledState)
    (folded : foldAll tenantID instrument rows = .ok state) :
    state.tenantID = tenantID ∧ state.instrument = instrument ∧
      state.lastTransactionID = rows.getLast?.map (·.id) := by
  induction rows using List.reverseRecOn generalizing state with
  | nil =>
    rw [← Except.ok.inj folded]
    exact ⟨rfl,rfl,rfl⟩
  | append_singleton rows row ih =>
    cases earlier : foldAll tenantID instrument rows with
    | error err =>
      unfold foldAll at earlier folded
      rw [List.foldlM_append,earlier] at folded
      contradiction
    | ok before =>
      rw [foldAll_snoc rows row before earlier] at folded
      obtain ⟨tenant,name,last,_⟩ := applyTransaction_fields before state row folded
      obtain ⟨tenantBefore,nameBefore,_⟩ := ih before earlier
      exact ⟨tenant.trans tenantBefore,name.trans nameBefore,by simp [last]⟩

theorem stored_key (db : Database) (consistent : Consistent tenantID instrument db) :
    (stored tenantID instrument db).tenantID = tenantID ∧
      (stored tenantID instrument db).instrument = instrument :=
  ⟨(foldAll_fields _ _ consistent).1,(foldAll_fields _ _ consistent).2.1⟩

theorem watermark_row (db : Database) (consistent : Consistent tenantID instrument db) (last : Int64)
    (watermark : (stored tenantID instrument db).lastTransactionID = some last) :
    ∃ row ∈ keyRows tenantID instrument db, row.id = last := by
  have fields := (foldAll_fields _ _ consistent).2.2
  rw [watermark,eq_comm,Option.map_eq_some_iff] at fields
  obtain ⟨row,final,same⟩ := fields
  exact ⟨row,(List.mem_filter.mp (List.mem_of_getLast? final)).1,same⟩

/-- With nothing left unfolded before it, the rows up to an unfolded row are the folded
rows and that row. -/
theorem rowsThrough_eq (db : Database) (inserted : Transaction)
    (member : inserted ∈ keyRows tenantID instrument db)
    (unfolded : alreadyFolded (stored tenantID instrument db) inserted = false)
    (noGap : ∀ row ∈ keyRows tenantID instrument db, row.id.toInt < inserted.id.toInt →
      alreadyFolded (stored tenantID instrument db) row = true) :
    rowsThrough tenantID instrument db inserted.id = foldedRows tenantID instrument db ++ [inserted] := by
  obtain ⟨before,after,split⟩ := List.append_of_mem member
  have increasing := keyRows_increasing tenantID instrument db
  unfold rowsThrough foldedRows
  rw [split,List.pairwise_append,List.pairwise_cons] at increasing
  obtain ⟨_,⟨following,_⟩,preceding⟩ := increasing
  rw [split] at noGap ⊢
  have beforeLess : ∀ row ∈ before, row.id.toInt < inserted.id.toInt :=
    fun row inside => preceding row inside inserted (by simp)
  have beforeThrough : before.filter (fun row => row.id ≤ inserted.id) = before := by
    apply List.filter_eq_self.mpr
    intro row inside
    simpa [Int64.le_iff_toInt_le] using (beforeLess row inside).le
  have afterThrough : after.filter (fun row => row.id ≤ inserted.id) = [] := by
    apply List.filter_eq_nil_iff.mpr
    intro row inside
    simpa [Int64.le_iff_toInt_le] using following row inside
  have beforeFolded : before.filter (alreadyFolded (stored tenantID instrument db)) = before := by
    apply List.filter_eq_self.mpr
    intro row inside
    exact noGap row (by simp [inside]) (beforeLess row inside)
  have afterFolded : after.filter (alreadyFolded (stored tenantID instrument db)) = [] := by
    apply List.filter_eq_nil_iff.mpr
    intro row inside folded
    obtain ⟨last,watermark,reached⟩ := (alreadyFolded_iff _ _).mp folded
    have earlier : alreadyFolded (stored tenantID instrument db) inserted = true :=
      (alreadyFolded_iff _ _).mpr ⟨last,watermark,(following row inside).le.trans reached⟩
    rw [unfolded] at earlier
    contradiction
  simp [List.filter_append,beforeThrough,afterThrough,beforeFolded,afterFolded,unfolded]

theorem stored_write (db : Database) (state : ReconciledState) (tenant : state.tenantID = tenantID)
    (name : state.instrument = instrument) : stored tenantID instrument (db.write state) = state := by
  subst tenant name
  rw [stored,db.write_self]
  rfl

theorem foldedRows_write (db : Database) (updated : ReconciledState) (id : Int64)
    (tenant : updated.tenantID = tenantID) (name : updated.instrument = instrument)
    (last : updated.lastTransactionID = some id) :
    foldedRows tenantID instrument (db.write updated) = rowsThrough tenantID instrument db id := by
  unfold foldedRows rowsThrough
  rw [stored_write db updated tenant name]
  apply List.filter_congr
  intro row _
  simp [alreadyFolded,last]

/-- Writing the fold of the rows up to an id makes these the folded rows. -/
theorem mem_foldedRows_write {db : Database} {row : Transaction} (updated : ReconciledState)
    (tenant : updated.tenantID = tenantID) (name : updated.instrument = instrument)
    (last : updated.lastTransactionID = some row.id) (member : row ∈ keyRows tenantID instrument db) :
    row ∈ foldedRows tenantID instrument (db.write updated) := by
  rw [foldedRows_write db updated row.id tenant name last]
  exact List.mem_filter.mpr ⟨member,by simp⟩

theorem write_consistent (db : Database) (updated : ReconciledState) (id : Int64)
    (folded : foldAll tenantID instrument (rowsThrough tenantID instrument db id) = .ok updated)
    (last : updated.lastTransactionID = some id) :
    Consistent tenantID instrument (db.write updated) := by
  obtain ⟨tenant,name,_⟩ := foldAll_fields _ _ folded
  unfold Consistent
  rw [foldedRows_write db updated id tenant name last,stored_write db updated tenant name]
  exact folded

theorem foldedRows_append (db next : Database) (row : Transaction) (consistent : Consistent tenantID instrument db)
    (rows : keyRows tenantID instrument next = keyRows tenantID instrument db ++ [row])
    (state : stored tenantID instrument next = stored tenantID instrument db) :
    foldedRows tenantID instrument next = foldedRows tenantID instrument db := by
  have increasing := keyRows_increasing tenantID instrument next
  have beyond : alreadyFolded (stored tenantID instrument db) row = false := by
    by_contra folded
    obtain ⟨last,watermark,reached⟩ := (alreadyFolded_iff _ _).mp (by simpa using folded)
    obtain ⟨marked,present,same⟩ := watermark_row db consistent last watermark
    rw [rows] at increasing
    have later := (List.pairwise_append.mp increasing).2.2 marked present row (by simp)
    rw [same] at later
    omega
  unfold foldedRows
  rw [rows,state,List.filter_append]
  simp [beyond]

theorem foldedRows_initial (tenantID instrument : Bytes) (db : Database) :
    foldedRows tenantID instrument db <+: keyRows tenantID instrument db := by
  unfold foldedRows
  have increasing := keyRows_increasing tenantID instrument db
  generalize keyRows tenantID instrument db = rows at increasing
  induction rows with
  | nil => exact List.prefix_rfl
  | cons row rows ih =>
    obtain ⟨following,ordered⟩ := List.pairwise_cons.mp increasing
    by_cases folded : alreadyFolded (stored tenantID instrument db) row = true
    · rw [List.filter_cons_of_pos folded]
      exact (List.prefix_cons_inj row).mpr (ih ordered)
    · have none : rows.filter (alreadyFolded (stored tenantID instrument db)) = [] := by
        apply List.filter_eq_nil_iff.mpr
        intro later inside reached
        obtain ⟨last,watermark,bound⟩ := (alreadyFolded_iff _ _).mp reached
        exact folded ((alreadyFolded_iff _ _).mpr ⟨last,watermark,(following later inside).le.trans bound⟩)
      rw [List.filter_cons_of_neg folded,none]
      exact List.nil_prefix

theorem Grows.refl (db : Database) : Grows tenantID instrument db db := ⟨List.prefix_rfl,fun _ folded => folded⟩

theorem Grows.trans {first second third : Database} (left : Grows tenantID instrument first second)
    (right : Grows tenantID instrument second third) : Grows tenantID instrument first third :=
  ⟨left.rows.trans right.rows,fun row folded => right.folded row (left.folded row folded)⟩

theorem Grows.mem_rows {db next : Database} (grows : Grows tenantID instrument db next) {row : Transaction}
    (member : row ∈ keyRows tenantID instrument db) : row ∈ keyRows tenantID instrument next :=
  grows.rows.subset member

theorem Grows.mem_folded {db next : Database} (grows : Grows tenantID instrument db next) {row : Transaction}
    (member : row ∈ foldedRows tenantID instrument db) : row ∈ foldedRows tenantID instrument next := by
  obtain ⟨present,folded⟩ := List.mem_filter.mp member
  exact List.mem_filter.mpr ⟨grows.mem_rows present,grows.folded row folded⟩

/-- Later rows have larger ids, so the rows up to a stored row never change. -/
theorem Grows.rowsThrough {db next : Database} (grows : Grows tenantID instrument db next) (row : Transaction)
    (member : row ∈ keyRows tenantID instrument db) :
    rowsThrough tenantID instrument next row.id = rowsThrough tenantID instrument db row.id := by
  obtain ⟨added,split⟩ := grows.rows
  have increasing := keyRows_increasing tenantID instrument next
  unfold Processor.rowsThrough
  rw [← split] at increasing ⊢
  have later : added.filter (fun other => other.id ≤ row.id) = [] := by
    apply List.filter_eq_nil_iff.mpr
    intro other inside
    simpa [Int64.le_iff_toInt_le] using (List.pairwise_append.mp increasing).2.2 row member other inside
  rw [List.filter_append,later,List.append_nil]

theorem advances_iff (db : Database) (id : Int64) :
    advances (db.reconciledState tenantID instrument) (some id) = true ↔
      ∀ last, (stored tenantID instrument db).lastTransactionID = some last → last.toInt < id.toInt := by
  unfold advances stored
  cases db.reconciledState tenantID instrument with
  | none => simp [ReconciledState.zero]
  | some row => cases watermark : row.lastTransactionID <;> simp [watermark,Int64.lt_iff_toInt_lt]

theorem write_grows (db : Database) (updated : ReconciledState) (id : Int64) (tenant : updated.tenantID = tenantID)
    (name : updated.instrument = instrument) (last : updated.lastTransactionID = some id)
    (advancing : advances (db.reconciledState updated.tenantID updated.instrument) updated.lastTransactionID = true) :
    Grows tenantID instrument db (db.write updated) := by
  rw [tenant,name,last,advances_iff] at advancing
  refine ⟨List.prefix_rfl,?_⟩
  intro row folded
  obtain ⟨old,watermark,reached⟩ := (alreadyFolded_iff _ _).mp folded
  rw [stored_write db updated tenant name]
  exact (alreadyFolded_iff _ _).mpr ⟨id,last,reached.trans (advancing old watermark).le⟩

/-- An insert for the key appends the row it returns, or fails and changes no row. -/
theorem insert_key_cases (db : Database) (txn : Transaction)
    (keyed : txn.tenantID = tenantID ∧ txn.instrument = instrument) (consistent : Consistent tenantID instrument db) :
    Consistent tenantID instrument ((RepositoryCall.insert txn).execute db).2 ∧
      Grows tenantID instrument db ((RepositoryCall.insert txn).execute db).2 ∧
      ((∃ row, (db.transactions.insert txn).1 = .ok row ∧ row = {txn with id := row.id} ∧
          txn.eventID ∉ db.transactions.rows.map (·.eventID) ∧
          (db.transactions.insert txn).2.rows = db.transactions.rows ++ [row] ∧
          keyRows tenantID instrument ((RepositoryCall.insert txn).execute db).2 =
            keyRows tenantID instrument db ++ [row]) ∨
        (∃ err, (db.transactions.insert txn).1 = .error err ∧
          (db.transactions.insert txn).2.rows = db.transactions.rows ∧
          keyRows tenantID instrument ((RepositoryCall.insert txn).execute db).2 =
            keyRows tenantID instrument db)) := by
  rcases insert_cases db.transactions txn with ⟨row,result,shape,rows,fresh⟩ | ⟨err,result,rows,_⟩
  · have newKeyed : row.tenantID = tenantID ∧ row.instrument = instrument := by
      rw [shape]
      exact keyed
    have grown : keyRows tenantID instrument ((RepositoryCall.insert txn).execute db).2 =
        keyRows tenantID instrument db ++ [row] := by
      unfold keyRows
      change (db.transactions.insert txn).2.rows.filter _ = _
      rw [rows,List.filter_append]
      simp [newKeyed]
    refine ⟨?_,⟨?_,fun _ folded => folded⟩,Or.inl ⟨row,result,shape,fresh,rows,grown⟩⟩
    · unfold Consistent
      rw [foldedRows_append db _ row consistent grown rfl]
      exact consistent
    · rw [grown]
      exact List.prefix_append _ _
  · have kept : keyRows tenantID instrument ((RepositoryCall.insert txn).execute db).2 =
        keyRows tenantID instrument db := by
      change (db.transactions.insert txn).2.rows.filter _ = _
      rw [rows]
      rfl
    refine ⟨?_,⟨?_,fun _ folded => folded⟩,Or.inr ⟨err,result,rows,kept⟩⟩
    · unfold Consistent foldedRows
      rw [kept]
      exact consistent
    · exact kept ▸ List.prefix_rfl

theorem Frame.refl (db : Database) : Frame tenantID instrument log db db := ⟨rfl,rfl,fun _ member _ => member⟩

theorem Frame.trans {first second third : Database} (left : Frame tenantID instrument log first second)
    (right : Frame tenantID instrument log second third) : Frame tenantID instrument log first third :=
  ⟨right.rows.trans left.rows,right.state.trans left.state,
    fun row member event => left.events row (right.events row member event) event⟩

theorem Frame.grows {db next : Database} (frame : Frame tenantID instrument log db next) :
    Grows tenantID instrument db next :=
  ⟨frame.rows ▸ List.prefix_rfl,fun _ folded => frame.state ▸ folded⟩

theorem Frame.consistent {db next : Database} (frame : Frame tenantID instrument log db next)
    (consistent : Consistent tenantID instrument db) : Consistent tenantID instrument next := by
  unfold Consistent foldedRows
  rw [frame.rows,frame.state]
  exact consistent

theorem insert_frame (db : Database) (txn : Transaction)
    (foreign : Foreign tenantID instrument log (.insert txn)) :
    Frame tenantID instrument log db ((RepositoryCall.insert txn).execute db).2 := by
  rcases insert_cases db.transactions txn with ⟨row,_,shape,rows,_⟩ | ⟨_,_,rows,_⟩
  · have other : ¬(row.tenantID = tenantID ∧ row.instrument = instrument) := by
      rw [shape]
      exact foreign.1
    refine ⟨?_,rfl,?_⟩
    · change (db.transactions.insert txn).2.rows.filter _ = _
      rw [rows,List.filter_append,List.filter_cons_of_neg (by simpa using other)]
      simp [keyRows]
    · intro candidate member event
      change candidate ∈ (db.transactions.insert txn).2.rows at member
      rw [rows] at member
      rcases List.mem_append.mp member with old | new
      · exact old
      · rw [List.mem_singleton.mp new,shape] at event
        exact absurd event foreign.2
  · refine ⟨?_,rfl,?_⟩
    · change (db.transactions.insert txn).2.rows.filter _ = _
      rw [rows]
      rfl
    · intro row member _
      change row ∈ (db.transactions.insert txn).2.rows at member
      exact rows ▸ member

theorem execute_frame (db : Database) (op : RepositoryCall) (foreign : Foreign tenantID instrument log op) :
    Frame tenantID instrument log db (op.execute db).2 := by
  cases op with
  | insert txn => exact insert_frame db txn foreign
  | upsert state =>
    change Frame tenantID instrument log db (db.upsert state).2
    rcases upsert_cases db state with ⟨written,_⟩ | ⟨err,unchanged,_⟩
    · have other : ¬(tenantID = state.tenantID ∧ instrument = state.instrument) :=
        fun ⟨tenant,name⟩ => foreign ⟨tenant.symm,name.symm⟩
      rw [written]
      refine ⟨rfl,?_,fun _ member _ => member⟩
      rw [stored,db.write_other other,stored]
    · rw [unchanged]
      exact .refl db
  | getByEventID eventID => exact .refl db
  | getState tenant name => exact .refl db

theorem answers_frame (db next : Database) (op : RepositoryCall) (reply : op.Reply)
    (foreign : Foreign tenantID instrument log op) (answered : Answers db op reply next) :
    Frame tenantID instrument log db next := by
  cases answered with
  | served => exact execute_frame db op foreign
  | failed => exact .refl db
  | lost => exact execute_frame db op foreign

/-- `Reconcile` has returned an error. -/
def Failed (call : Reconciling) : Prop := ∃ err, call = .done (.error err)

/-- A row is folded already, is written back with the state it makes, or cannot be folded. -/
theorem foldInserted_cases (row : Transaction) (state : ReconciledState) :
    (alreadyFolded state row = true ∧ foldInserted row state = .done (.ok ())) ∨
      (alreadyFolded state row = false ∧ ((∃ updated, applyTransaction state row = .ok updated ∧
          foldInserted row state = upsertFolded updated) ∨
        ∃ err, applyTransaction state row = .error err ∧ Failed (foldInserted row state))) := by
  unfold foldInserted
  cases folded : alreadyFolded state row with
  | true => exact Or.inl ⟨rfl,rfl⟩
  | false =>
    refine Or.inr ⟨rfl,?_⟩
    cases applied : applyTransaction state row with
    | ok updated => exact Or.inl ⟨updated,rfl,rfl⟩
    | error err => exact Or.inr ⟨err,rfl,_,rfl⟩

section answers
variable {db next : Database} {txn row : Transaction} {updated : ReconciledState} {err : Error}

theorem afterInsert_failed (infrastructure : Infrastructure err) : Failed (afterInsert txn (.error err)) := by
  rw [afterInsert,infrastructure.2.1]
  exact ⟨_,rfl⟩

theorem afterGetState_failed (infrastructure : Infrastructure err) : Failed (afterGetState row (.error err)) := by
  rw [afterGetState,infrastructure.1]
  exact ⟨_,rfl⟩

theorem afterUpsert_failed (infrastructure : Infrastructure err) : Failed (afterUpsert (.error err)) := by
  rw [afterUpsert,infrastructure.2.2]
  exact ⟨_,rfl⟩

-- What `Reconcile` goes on with after each of its calls, and the database it finds then.

theorem insert_answer {reply : (RepositoryCall.insert txn).Reply} (answered : Answers db (.insert txn) reply next)
    (keyed : txn.tenantID = tenantID ∧ txn.instrument = instrument) :
    (next = ((RepositoryCall.insert txn).execute db).2 ∧
      ((∃ row ∈ keyRows tenantID instrument next, row.eventID = txn.eventID ∧
          afterInsert txn reply = reconcileInserted row) ∨
        afterInsert txn reply = reconcileDuplicate txn ∨ Failed (afterInsert txn reply))) ∨
      (next = db ∧ Failed (afterInsert txn reply)) := by
  cases answered with
  | served =>
    refine Or.inl ⟨rfl,?_⟩
    rcases insert_cases db.transactions txn with ⟨row,result,form,rows,_⟩ | ⟨err,result,_,_⟩
    · refine Or.inl ⟨row,mem_keyRows.mpr ⟨?_,?_⟩,by rw [form],?_⟩
      · change row ∈ (db.transactions.insert txn).2.rows
        simp [rows]
      · rw [form]
        exact keyed
      · simp only [RepositoryCall.execute,result,afterInsert]
    · simp only [RepositoryCall.execute,result,afterInsert]
      split
      · exact Or.inr (Or.inl rfl)
      · exact Or.inr (Or.inr ⟨_,rfl⟩)
  | failed err infrastructure => exact Or.inr ⟨rfl,afterInsert_failed infrastructure⟩
  | lost err infrastructure => exact Or.inl ⟨rfl,Or.inr (Or.inr (afterInsert_failed infrastructure))⟩

theorem getByEventID_answer {eventID : UUID} {reply : (RepositoryCall.getByEventID eventID).Reply}
    (answered : Answers db (.getByEventID eventID) reply next) :
    next = db ∧ ((∃ row ∈ db.transactions.rows, row.eventID = eventID ∧
      afterGetByEventID reply = reconcileInserted row) ∨ Failed (afterGetByEventID reply)) := by
  cases answered with
  | served =>
    refine ⟨rfl,?_⟩
    cases found : db.transactions.getByEventID eventID with
    | error err =>
      simp only [RepositoryCall.execute,found,afterGetByEventID]
      exact Or.inr ⟨_,rfl⟩
    | ok row =>
      obtain ⟨present,same⟩ := getByEventID_found _ _ _ found
      simp only [RepositoryCall.execute,found,afterGetByEventID]
      exact Or.inl ⟨row,present,same,rfl⟩
  | failed => exact ⟨rfl,Or.inr ⟨_,rfl⟩⟩
  | lost => exact ⟨rfl,Or.inr ⟨_,rfl⟩⟩

theorem getState_answer {reply : (RepositoryCall.getState row.tenantID row.instrument).Reply}
    (answered : Answers db (.getState row.tenantID row.instrument) reply next) :
    next = db ∧ (afterGetState row reply = foldInserted row (stored row.tenantID row.instrument db) ∨
      Failed (afterGetState row reply)) := by
  cases answered with
  | served =>
    refine ⟨rfl,Or.inl ?_⟩
    rcases get_cases db row.tenantID row.instrument with ⟨state,present,result⟩ | ⟨absent,result⟩
    · simp only [RepositoryCall.execute,result,afterGetState,stored,present,Option.getD_some]
    · simp only [RepositoryCall.execute,result,afterGetState,Error.is_self,if_true,stored,absent,Option.getD_none]
  | failed err infrastructure => exact ⟨rfl,Or.inr (afterGetState_failed infrastructure)⟩
  | lost err infrastructure => exact ⟨rfl,Or.inr (afterGetState_failed infrastructure)⟩

/-- A write that is refused as stale counts as done. -/
theorem upsert_answer {reply : (RepositoryCall.upsert updated).Reply}
    (answered : Answers db (.upsert updated) reply next) :
    (next = db.write updated ∧
      advances (db.reconciledState updated.tenantID updated.instrument) updated.lastTransactionID = true ∧
      (afterUpsert reply = .done (.ok ()) ∨ Failed (afterUpsert reply))) ∨
    (next = db ∧ (Failed (afterUpsert reply) ∨ afterUpsert reply = .done (.ok ()) ∧
      advances (db.reconciledState updated.tenantID updated.instrument) updated.lastTransactionID = false)) := by
  rcases upsert_cases db updated with ⟨written,advancing⟩ | ⟨err,unchanged,stale⟩
  · have left : ((RepositoryCall.upsert updated).execute db).2 = db.write updated := congrArg Prod.snd written
    cases answered with
    | served =>
      refine Or.inl ⟨left,advancing,Or.inl ?_⟩
      simp only [RepositoryCall.execute,written,afterUpsert]
      rfl
    | failed err infrastructure => exact Or.inr ⟨rfl,Or.inl (afterUpsert_failed infrastructure)⟩
    | lost err infrastructure => exact Or.inl ⟨left,advancing,Or.inr (afterUpsert_failed infrastructure)⟩
  · have left : ((RepositoryCall.upsert updated).execute db).2 = db := congrArg Prod.snd unchanged
    cases answered with
    | served =>
      refine Or.inr ⟨left,?_⟩
      simp only [RepositoryCall.execute,unchanged,afterUpsert]
      split
      · rename_i lostRace
        exact Or.inr ⟨rfl,stale lostRace⟩
      · exact Or.inl ⟨_,rfl⟩
    | failed err infrastructure => exact Or.inr ⟨rfl,Or.inl (afterUpsert_failed infrastructure)⟩
    | lost err infrastructure => exact Or.inr ⟨left,Or.inl (afterUpsert_failed infrastructure)⟩

/-- A write that does not advance the watermark finds it at the row already. -/
theorem folded_of_stale {db : Database} {row : Transaction} {updated : ReconciledState}
    (tenant : updated.tenantID = tenantID) (name : updated.instrument = instrument)
    (last : updated.lastTransactionID = some row.id)
    (stale : advances (db.reconciledState updated.tenantID updated.instrument) updated.lastTransactionID = false) :
    alreadyFolded (stored tenantID instrument db) row = true := by
  rw [tenant,name,last,← Bool.not_eq_true,advances_iff] at stale
  push Not at stale
  obtain ⟨reached,watermark,order⟩ := stale
  exact (alreadyFolded_iff _ _).mpr ⟨reached,watermark,order⟩

end answers

end

end ControlPlane.Processor
