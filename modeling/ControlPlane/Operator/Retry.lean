import ControlPlane.Operator.Idempotence

/-! Passes that are interrupted and tried again. What a pass writes can be written again: each
write finds its own part of the footprint as it left it. So after any number of passes that
stopped early, a pass that succeeds ends where a single one does, and announces what is still
to be announced. -/
namespace ControlPlane.Operator
open Go Effect Effect.Script

section mutations
variable {tenant : TradingTenant}

theorem ownedBy_again {rec : TradingTenantReconciler} {controller next : Option OwnerReference}
    (made : ownedBy tenant rec controller = .ok next) : ownedBy tenant rec next = .ok next := by
  unfold ownedBy at made ⊢
  cases set : rec.scheme.setControllerReference tenant.key tenant.uid controller with
  | error err =>
    rw [set] at made
    cases made
  | ok reference =>
    rw [set] at made
    cases made
    rw [rec.scheme.again _ _ _ _ set]
    rfl

theorem dedicated_again {rec : TradingTenantReconciler} {obs : Observation} {replicas : Int32} {slot : Slot}
    {object next : slot.kind.Object} (made : dedicated rec tenant obs replicas slot object = .ok next) :
    dedicated rec tenant obs replicas slot next = .ok next := by
  cases slot with
  | configMap =>
    obtain ⟨controller,owned,same⟩ := bind_success _ _ _ made
    cases same
    simp only [dedicated,dedicatedConfigMap,ownedBy_again owned]
    rfl
  | ingestion =>
    obtain ⟨controller,owned,same⟩ := bind_success _ _ _ made
    cases same
    simp only [dedicated,dedicatedIngestionDeployment,dedicatedDeployment,ownedBy_again owned]
    rfl
  | processor =>
    obtain ⟨controller,owned,same⟩ := bind_success _ _ _ made
    cases same
    simp only [dedicated,dedicatedProcessorDeployment,dedicatedDeployment,ownedBy_again owned]
    rfl
  | service =>
    obtain ⟨controller,owned,same⟩ := bind_success _ _ _ made
    cases same
    simp only [dedicated,dedicatedService,ownedBy_again owned]
    rfl

end mutations

section writes
variable (rec : TradingTenantReconciler) (obs : Observation) (tenant : TradingTenant)

/-- The writes of a pass before that of the status. -/
def passWrites : List (Write Error Footprint) :=
  let decision := tenant.decision obs
  let isolating := tenant.settlesIsolated decision
  flagWrite decision :: ((slotOrder isolating).map (slotWrite rec tenant obs decision.replicas isolating) ++
    [entryWrite (settleMapping tenant obs isolating)])

theorem writes_passScript (now : Int) (v : Footprint) :
    writes (passScript rec obs now v) = passWrites rec obs v.tenant ++
      [statusWrite (settledStatus (v.tenant.decision obs) obs.lag obs.p99Ms obs.partitionCount now)] := by
  simp only [passScript,writes_append,writes_resourceScript,flagScript,statusScript,writes,writes_announceIf,passWrites,
    List.cons_append,List.nil_append]

/-- The tenant once the isolation flag is written. -/
def TradingTenant.flagged : TradingTenant := tenant.withIsolation (tenant.settlesIsolated (tenant.decision obs))

variable {rec obs tenant}

theorem classify_of_set {spec : TradingTenantSpec} {baseline : Int32} {isolated : Bool} {lag : Int64}
    {p99Ms partitionCount : Int32}
    (set : (classify spec baseline isolated lag p99Ms partitionCount).setDedicatedNodePool = true) (flag : Bool) :
    classify spec baseline flag lag p99Ms partitionCount = classify spec baseline isolated lag p99Ms
      partitionCount := by
  unfold classify at set ⊢
  split_ifs at set ⊢
  all_goals simp_all

theorem decision_flagged : (tenant.flagged obs).decision obs = tenant.decision obs := by
  cases set : (tenant.decision obs).setDedicatedNodePool with
  | false =>
    have same : tenant.flagged obs = tenant := by
      unfold TradingTenant.flagged TradingTenant.settlesIsolated
      rw [set,Bool.or_false]
      rfl
    rw [same]
  | true => exact classify_of_set set _

theorem settlesIsolated_flagged (decision : ReconcileDecision) (same : tenant.decision obs = decision) :
    (tenant.flagged obs).settlesIsolated decision = tenant.settlesIsolated decision := by
  subst same
  change ((tenant.isolated || (tenant.decision obs).setDedicatedNodePool) ||
    (tenant.decision obs).setDedicatedNodePool) = (tenant.isolated || (tenant.decision obs).setDedicatedNodePool)
  rw [Bool.or_assoc,Bool.or_self]

theorem passWrites_flagged : passWrites rec obs (tenant.flagged obs) = passWrites rec obs tenant := by
  unfold passWrites
  simp only [decision_flagged,settlesIsolated_flagged _ rfl]
  rfl

theorem settleSlot_isolating {replicas : Int32} {slot : Slot} {object next : Option slot.kind.Object}
    (made : settleSlot rec tenant obs replicas true slot object = .ok next) :
    ∃ written, dedicated rec tenant obs replicas slot (object.getD slot.kind.blank) = .ok written ∧
      next = some written := by
  change some <$> dedicated rec tenant obs replicas slot (object.getD slot.kind.blank) = .ok next at made
  cases first : dedicated rec tenant obs replicas slot (object.getD slot.kind.blank) with
  | error err =>
    rw [first] at made
    cases made
  | ok written =>
    rw [first] at made
    cases made
    exact ⟨written,rfl,rfl⟩

theorem settleSlot_again {replicas : Int32} {isolating : Bool} {slot : Slot} (object next : Option slot.kind.Object)
    (made : settleSlot rec tenant obs replicas isolating slot object = .ok next) :
    settleSlot rec tenant obs replicas isolating slot next = .ok next := by
  cases isolating with
  | false =>
    cases made
    rfl
  | true =>
    obtain ⟨written,first,rfl⟩ := settleSlot_isolating made
    change some <$> dedicated rec tenant obs replicas slot written = _
    rw [dedicated_again first]
    rfl

theorem settleMapping_again (isolating : Bool) (mapping : Mapping) :
    settleMapping tenant obs isolating (settleMapping tenant obs isolating mapping) =
      settleMapping tenant obs isolating mapping := by
  cases isolating with
  | false =>
    apply Finmap.ext_lookup
    intro id
    by_cases same : id = tenant.spec.tenantID
    · subst same
      simp only [settleMapping,Finmap.lookup_erase]
    · simp only [settleMapping,Finmap.lookup_erase_ne same]
  | true => exact Finmap.insert_insert _

theorem slotOrder_nodup (isolating : Bool) : (slotOrder isolating).Nodup := by
  cases isolating <;> decide

theorem passWrites_repeatable : Repeatable (passWrites rec obs tenant) := by
  constructor
  · intro change member
    simp only [passWrites,List.mem_cons,List.mem_append,List.mem_map,List.not_mem_nil,or_false] at member
    rcases member with rfl | ⟨slot,_,rfl⟩ | rfl
    · apply Cell.modify_idempotent
      intro flag next made
      cases made
      rw [Bool.or_assoc,Bool.or_self]
    · exact Cell.modify_idempotent settleSlot_again
    · exact Cell.modify_idempotent (changeMapping_idempotent (settleMapping_again _))
  · refine List.pairwise_cons.mpr ⟨?_,List.pairwise_append.mpr ⟨?_,List.pairwise_singleton _ _,?_⟩⟩
    · intro change member
      simp only [List.mem_append,List.mem_map,List.mem_singleton] at member
      rcases member with ⟨slot,_,rfl⟩ | rfl
      · exact (flag_apart_slot slot).leaves _ _
      · exact flag_apart_entry.leaves _ _
    · refine List.pairwise_map.mpr ((slotOrder_nodup _).imp ?_)
      intro slot other different
      exact (slot_apart_slot different).leaves _ _
    · intro change member last same
      obtain ⟨slot,_,rfl⟩ := List.mem_map.mp member
      cases List.mem_singleton.mp same
      exact (slot_apart_entry slot).leaves _ _

end writes

section stops
variable {Γ : Type} {represents : Γ → Footprint → List Signal → Prop} {faults : Prop} {rec : TradingTenantReconciler}
  {obs : Observation} {now : Int} {v : Footprint} {announced : List Signal} {final : Γ}

/-- Where a pass can stop: before it wrote anything, among the dedicated resources, or once they are settled. -/
theorem pass_stops (stopped : Stopped represents faults (passScript rec obs now v) v announced final)
    {decision : ReconcileDecision} {isolating : Bool} (decided : v.tenant.decision obs = decision)
    (settles : v.tenant.settlesIsolated decision = isolating) :
    represents final v announced ∨
      (∃ done slot todo reached, slotOrder isolating = done ++ slot::todo ∧
        applyAll (done.map (slotWrite rec v.tenant obs decision.replicas isolating)) (flagCell.set isolating v) =
          .ok reached ∧
        represents final reached (announced ++ signals (flagScript v.tenant decision))) ∨
      ∃ reached last,
        applyAll ((slotOrder isolating).map (slotWrite rec v.tenant obs decision.replicas isolating))
          (flagCell.set isolating v) = .ok reached ∧
        (last = reached ∨ entryWrite (settleMapping v.tenant obs isolating) reached = .ok last) ∧
        represents final last (announced ++ signals (flagScript v.tenant decision) ++
          signals (announceIf (v.pending isolating) (settleSignal v.tenant isolating))) := by
  subst decided settles
  unfold passScript at stopped
  rcases stopped.append_cases with first | ⟨flagged,flag,stopped⟩
  · exact Or.inl (first.of_write (writes_announceIf _ _)).1
  cases flag_applied flag
  rcases stopped.append_cases with resources | ⟨settled,applied,status⟩
  · unfold resourceScript at resources
    rcases resources.append_cases with among | ⟨reached,slots,after⟩
    · obtain ⟨done,slot,todo,reached,parts,applied,represented⟩ := among.of_map
      exact Or.inr (Or.inl ⟨done,slot,todo,reached,parts,applied,represented⟩)
    · rcases after.append_cases with impossible | ⟨same,none,last⟩
      · exact absurd impossible (not_stopped (writes_announceIf _ _))
      · rw [writes_announceIf] at none
        cases none
        rw [writes_slotScript] at slots
        rw [slotScript,signals_map,List.append_nil] at last
        exact Or.inr (Or.inr ⟨reached,reached,slots,Or.inl rfl,(last.of_write rfl).1⟩)
  · have written := (status.of_write (writes_announceIf _ _)).1
    rw [writes_resourceScript] at applied
    obtain ⟨reached,slots,entry⟩ := applyAll_append_ok.mp applied
    obtain ⟨last,changed,same⟩ := applyAll_cons_ok.mp entry
    cases same
    refine Or.inr (Or.inr ⟨reached,settled,slots,Or.inr changed,?_⟩)
    simpa [resourceScript,slotScript,signals] using written

end stops

section pending
variable {rec : TradingTenantReconciler} {tenant : TradingTenant} {obs : Observation} {replicas : Int32}
  {isolating : Bool}
  {v reached : Footprint}

theorem settleSlot_settled {slot : Slot} {object next : Option slot.kind.Object}
    (made : settleSlot rec tenant obs replicas isolating slot object = .ok next) :
    unsettled isolating next = false := by
  cases isolating with
  | false =>
    cases made
    rfl
  | true =>
    obtain ⟨written,_,rfl⟩ := settleSlot_isolating made
    rfl

/-- Every resource that was written is what its own write made of it; the others are as they were. -/
theorem slots_written {slots : List Slot}
    (applied : applyAll (slots.map (slotWrite rec tenant obs replicas isolating)) v = .ok reached) (slot : Slot) :
    if slot ∈ slots then ∃ object, settleSlot rec tenant obs replicas isolating slot object = .ok (reached.objects slot)
    else reached.objects slot = v.objects slot := by
  induction slots generalizing v with
  | nil =>
    cases applied
    simp
  | cons first slots ih =>
    obtain ⟨middle,changed,rest⟩ := applyAll_cons_ok.mp applied
    obtain ⟨value,made,rfl⟩ := Cell.modify_ok.mp changed
    have later := ih rest
    by_cases member : slot ∈ slots
    · rw [if_pos member] at later
      rwa [if_pos (List.mem_cons_of_mem _ member)]
    rw [if_neg member] at later
    by_cases same : slot = first
    · subst same
      rw [if_pos List.mem_cons_self,later]
      simp only [slotCell,Function.update_self]
      exact ⟨_,made⟩
    · rw [if_neg (by simp [same,member]),later]
      exact Function.update_of_ne same _ _

theorem slots_settled {slots : List Slot}
    (applied : applyAll (slots.map (slotWrite rec tenant obs replicas isolating)) v = .ok reached) (slot : Slot) :
    if slot ∈ slots then unsettled isolating (reached.objects slot) = false
    else reached.objects slot = v.objects slot := by
  have written := slots_written applied slot
  split at written
  · rename_i member
    obtain ⟨object,made⟩ := written
    rw [if_pos member]
    exact settleSlot_settled made
  · rename_i other
    rwa [if_neg other]

/-- The resource that is settled last. -/
def lastSlot : Bool → Slot
  | true => .service
  | false => .configMap

theorem lastSlot_not_done {done todo : List Slot} {slot : Slot} (parts : slotOrder isolating = done ++ slot::todo) :
    lastSlot isolating ∉ done := by
  have last : (slotOrder isolating).getLast? = some (lastSlot isolating) := by cases isolating <;> rfl
  have nodup := slotOrder_nodup isolating
  rw [parts] at last nodup
  rw [List.getLast?_append_of_ne_nil _ (List.cons_ne_nil _ _)] at last
  intro member
  exact (List.nodup_append.mp nodup).2.2 _ member _ (List.mem_of_getLast? last) rfl

/-- While the resource that is settled last is as it was, so is what is pending. -/
theorem pending_kept {done todo : List Slot} {slot : Slot} (parts : slotOrder isolating = done ++ slot::todo)
    (applied : applyAll (done.map (slotWrite rec tenant obs replicas isolating)) v = .ok reached)
    (owing : v.pending isolating = unsettled isolating (v.objects (lastSlot isolating))) :
    reached.pending isolating = v.pending isolating ∧
      reached.pending isolating = unsettled isolating (reached.objects (lastSlot isolating)) := by
  have after := slots_settled applied
  have untouched := after (lastSlot isolating)
  rw [if_neg (lastSlot_not_done parts)] at untouched
  have member : lastSlot isolating ∈ slotOrder isolating := by cases isolating <;> decide
  have kept : reached.pending isolating = v.pending isolating := by
    cases pending : v.pending isolating with
    | true =>
      rw [pending,← untouched] at owing
      exact List.any_eq_true.mpr ⟨_,member,owing.symm⟩
    | false =>
      refine List.any_eq_false.mpr ?_
      intro other among
      have settled := after other
      split at settled
      · simp [settled]
      · rw [settled]
        exact List.any_eq_false.mp pending other among
  exact ⟨kept,by rw [kept,owing,untouched]⟩

theorem pending_settled
    (applied : applyAll ((slotOrder isolating).map (slotWrite rec tenant obs replicas isolating)) v = .ok reached) :
    reached.pending isolating = false ∧ unsettled isolating (reached.objects (lastSlot isolating)) = false := by
  have after := slots_settled applied
  have member : lastSlot isolating ∈ slotOrder isolating := by cases isolating <;> decide
  constructor
  · refine List.any_eq_false.mpr ?_
    intro slot among
    have settled := after slot
    rw [if_pos among] at settled
    simp [settled]
  · have settled := after (lastSlot isolating)
    rwa [if_pos member] at settled

end pending

section resuming
variable (rec : TradingTenantReconciler) (obs : Observation)

/-- What a pass from here announces before it writes the status. -/
def Footprint.owed (v : Footprint) : List Signal :=
  let decision := v.tenant.decision obs
  let isolating := v.tenant.settlesIsolated decision
  signals (flagScript v.tenant decision) ++ signals (announceIf (v.pending isolating) (settleSignal v.tenant isolating))

/-- Something is pending exactly when the resource that is settled last is. -/
def Footprint.Ordered (v : Footprint) : Prop :=
  let isolating := v.tenant.settlesIsolated (v.tenant.decision obs)
  v.pending isolating = unsettled isolating (v.objects (lastSlot isolating))

/-- Passes that stopped early have led from one footprint to the other. -/
structure Resumes (origin v : Footprint) (announced : List Signal) : Prop where
  tenant : v.tenant = origin.tenant ∨ v.tenant = origin.tenant.flagged obs
  writes : ∀ final, applyAll (passWrites rec obs origin.tenant) v = .ok final →
    applyAll (passWrites rec obs origin.tenant) origin = .ok final
  signals : origin.Ordered obs → v.Ordered obs ∧ announced ++ v.owed obs = origin.owed obs

theorem Resumes.refl (v : Footprint) : Resumes rec obs v v [] :=
  ⟨Or.inl rfl,fun _ same => same,fun ordered => ⟨ordered,rfl⟩⟩

variable {rec obs} {origin v last : Footprint} {announced more : List Signal}

theorem flagged_flagged (tenant : TradingTenant) : (tenant.flagged obs).flagged obs = tenant.flagged obs := by
  change (tenant.flagged obs).withIsolation
    ((tenant.flagged obs).settlesIsolated ((tenant.flagged obs).decision obs)) = _
  rw [decision_flagged,settlesIsolated_flagged _ rfl]
  rfl

theorem Resumes.decision (resumes : Resumes rec obs origin v announced) :
    v.tenant.decision obs = origin.tenant.decision obs := by
  rcases resumes.tenant with same | same
  · rw [same]
  · rw [same,decision_flagged]

theorem Resumes.passWrites (resumes : Resumes rec obs origin v announced) :
    passWrites rec obs v.tenant = passWrites rec obs origin.tenant := by
  rcases resumes.tenant with same | same
  · rw [same]
  · rw [same,passWrites_flagged]

theorem Resumes.trans (first : Resumes rec obs origin v announced) (second : Resumes rec obs v last more) :
    Resumes rec obs origin last (announced ++ more) := by
  refine ⟨?_,?_,?_⟩
  · rcases second.tenant with same | same
    · rw [same]
      exact first.tenant
    · rcases first.tenant with before | before
      · exact Or.inr (by rw [same,before])
      · exact Or.inr (by rw [same,before,flagged_flagged])
  · intro final applied
    rw [← first.passWrites] at applied
    exact first.writes final (by rw [← first.passWrites]; exact second.writes final applied)
  · intro ordered
    obtain ⟨still,emitted⟩ := first.signals ordered
    obtain ⟨after,others⟩ := second.signals still
    exact ⟨after,by rw [List.append_assoc,others,emitted]⟩

theorem flagWrite_settles (v : Footprint) (decision : ReconcileDecision) :
    flagWrite decision v = .ok (flagCell.set (v.tenant.settlesIsolated decision) v) := rfl

theorem signals_flagged (tenant : TradingTenant) : signals (flagScript (tenant.flagged obs) (tenant.decision obs)) =
    [] := by
  have quiet : ((tenant.decision obs).setDedicatedNodePool && !(tenant.flagged obs).isolated) = false := by
    change (_ && !(tenant.isolated || (tenant.decision obs).setDedicatedNodePool)) = false
    cases (tenant.decision obs).setDedicatedNodePool <;> simp
  rw [flagScript,quiet]
  rfl

theorem owed_flagged {reached : Footprint} (own : reached.tenant = v.tenant.flagged obs) :
    reached.owed obs = signals (announceIf (reached.pending (v.tenant.settlesIsolated (v.tenant.decision obs)))
      (settleSignal v.tenant (v.tenant.settlesIsolated (v.tenant.decision obs)))) := by
  unfold Footprint.owed
  simp only [own,decision_flagged,settlesIsolated_flagged _ rfl,signals_flagged,List.nil_append]
  cases v.tenant.settlesIsolated (v.tenant.decision obs) <;> rfl

theorem ordered_flagged {reached : Footprint} (own : reached.tenant = v.tenant.flagged obs) :
    reached.Ordered obs ↔ reached.pending (v.tenant.settlesIsolated (v.tenant.decision obs)) =
      unsettled (v.tenant.settlesIsolated (v.tenant.decision obs))
        (reached.objects (lastSlot (v.tenant.settlesIsolated (v.tenant.decision obs)))) := by
  have same : reached.tenant.settlesIsolated (reached.tenant.decision obs) =
      v.tenant.settlesIsolated (v.tenant.decision obs) := by
    rw [own,decision_flagged,settlesIsolated_flagged _ rfl]
  simp only [Footprint.Ordered]
  rw [same]

theorem resumed_writes {before : List (Write Error Footprint)} {reached final : Footprint}
    (begins : ∃ rest, passWrites rec obs v.tenant = flagWrite (v.tenant.decision obs)::(before ++ rest))
    (first : applyAll before (flagCell.set (v.tenant.settlesIsolated (v.tenant.decision obs)) v) = .ok reached)
    (again : applyAll (passWrites rec obs v.tenant) reached = .ok final) :
    applyAll (passWrites rec obs v.tenant) v = .ok final := by
  have repeatable : Repeatable (passWrites rec obs v.tenant) := passWrites_repeatable
  obtain ⟨rest,parts⟩ := begins
  rw [parts,← List.cons_append] at again repeatable ⊢
  exact repeatable.resumed (applyAll_cons_ok.mpr ⟨_,flagWrite_settles v _,first⟩) again

theorem resumes_of_stop {Γ : Type} {represents : Γ → Footprint → List Signal → Prop} {faults : Prop}
    {now : Int} {final : Γ} (stopped : Stopped represents faults (passScript rec obs now v) v announced final) :
    ∃ reached emitted, Resumes rec obs v reached emitted ∧ represents final reached (announced ++ emitted) := by
  rcases pass_stops stopped rfl rfl with nothing | ⟨done,slot,todo,reached,parts,applied,represented⟩ |
    ⟨reached,last,applied,entry,represented⟩
  · exact ⟨v,[],Resumes.refl rec obs v,by rwa [List.append_nil]⟩
  · have own : reached.tenant = v.tenant.flagged obs := slots_keep_tenant applied
    refine ⟨reached,_,⟨Or.inr own,?_,?_⟩,represented⟩
    · intro final again
      refine resumed_writes ?_ applied again
      rw [passWrites,parts,List.map_append,List.append_assoc]
      exact ⟨_,rfl⟩
    · intro ordered
      obtain ⟨kept,still⟩ := pending_kept parts applied ordered
      rw [owed_flagged own,kept]
      exact ⟨(ordered_flagged own).mpr still,rfl⟩
  · have own : last.tenant = v.tenant.flagged obs := by
      rcases entry with rfl | changed
      · exact slots_keep_tenant applied
      · exact (entry_keeps_tenant changed).trans (slots_keep_tenant applied)
    have objects : last.objects = reached.objects := by
      rcases entry with rfl | changed
      · rfl
      · obtain ⟨value,_,rfl⟩ := Cell.modify_ok.mp changed
        rfl
    obtain ⟨settled,lastSettled⟩ := pending_settled applied
    refine ⟨last,_,⟨Or.inr own,?_,?_⟩,by rwa [List.append_assoc] at represented⟩
    · intro final again
      rcases entry with rfl | changed
      · exact resumed_writes ⟨_,rfl⟩ applied again
      · refine resumed_writes ⟨[],by rw [List.append_nil]; rfl⟩ ?_ again
        exact applyAll_append_ok.mpr ⟨reached,applied,applyAll_cons_ok.mpr ⟨last,changed,rfl⟩⟩
    · intro ordered
      have quiet : last.pending _ = false := (by unfold Footprint.pending; rw [objects]; exact settled)
      rw [owed_flagged own,quiet]
      refine ⟨(ordered_flagged own).mpr ?_,List.append_nil _⟩
      rw [quiet,objects,lastSettled]

end resuming

section passes
variable {json : MappingJson} {rec : TradingTenantReconciler} {obs : Observation}
  {origin cluster stopped final : Cluster}
  {key : NamespacedName} {v : Footprint} {announced : List Signal}

/-- Passes for one name that fail one after another. -/
inductive FailedPasses (json : MappingJson) (rec : TradingTenantReconciler) (obs : Observation) (key : NamespacedName) :
    Cluster → Cluster → Prop
  | none (cluster : Cluster) : FailedPasses json rec obs key cluster cluster
  | pass {cluster middle final : Cluster} (rounds : Nat) (now : Int) (err : Error)
      (run : Yields obs True cluster (reconcile json rec rounds now key) (.error err) middle)
      (rest : FailedPasses json rec obs key middle final) : FailedPasses json rec obs key cluster final

theorem Resumes.same_key {initial : Footprint} (resumes : Resumes rec obs initial v announced) :
    v.tenant.key = initial.tenant.key := by
  rcases resumes.tenant with same | same
  · rw [same]
  · rw [same]
    rfl

theorem FailedPasses.resumes {initial : Footprint} (failures : FailedPasses json rec obs key cluster stopped)
    (named : initial.tenant.key = key) (represented : Represents json origin cluster v announced)
    (resumes : Resumes rec obs initial v announced) :
    ∃ v announced, Represents json origin stopped v announced ∧ Resumes rec obs initial v announced := by
  induction failures generalizing v announced with
  | none => exact ⟨v,announced,represented,resumes⟩
  | pass rounds now err run rest ih =>
    rw [← named,← resumes.same_key] at run
    have halted := (reconcile_follows rec rounds now (Or.inl trivial)).stopped represented run
    obtain ⟨reached,emitted,more,shown⟩ := resumes_of_stop halted
    exact ih shown (resumes.trans more)

theorem signals_passScript (now : Int) : signals (passScript rec obs now v) =
    v.owed obs ++ signals (statusScript v.tenant obs (v.tenant.decision obs) now) := by
  simp only [passScript,resourceScript,slotScript,Footprint.owed,signals_append,signals_map,List.append_assoc,
    List.nil_append]
  rfl

/-- The writes of a pass: the flag, the dedicated resources, the entry of the map. -/
theorem passWrites_parts {settled : Footprint} (applied : applyAll (passWrites rec obs v.tenant) v = .ok settled) :
    let isolating := v.tenant.settlesIsolated (v.tenant.decision obs)
    ∃ reached, applyAll ((slotOrder isolating).map
      (slotWrite rec v.tenant obs (v.tenant.decision obs).replicas isolating))
        (flagCell.set isolating v) = .ok reached ∧
      entryWrite (settleMapping v.tenant obs isolating) reached = .ok settled := by
  obtain ⟨flagged,flag,rest⟩ := applyAll_cons_ok.mp applied
  cases flag
  obtain ⟨reached,slots,entry⟩ := applyAll_append_ok.mp rest
  obtain ⟨last,changed,same⟩ := applyAll_cons_ok.mp entry
  cases same
  exact ⟨reached,slots,changed⟩

theorem passWrites_settle {settled : Footprint} (applied : applyAll (passWrites rec obs v.tenant) v = .ok settled) :
    settled.tenant = v.tenant.flagged obs := by
  obtain ⟨reached,slots,changed⟩ := passWrites_parts applied
  exact (entry_keeps_tenant changed).trans (slots_keep_tenant slots)

theorem signals_statusScript_resumed {initial : Footprint} (resumes : Resumes rec obs initial v announced)
    (decision : ReconcileDecision) (now later : Int) :
    signals (statusScript v.tenant obs decision now) = signals (statusScript initial.tenant obs decision later) := by
  rcases resumes.tenant with same | same
  · rw [same]
    rfl
  · rw [same]
    rfl

/-- What a pass that goes through leaves, from a footprint that passes which stopped early have led to. -/
theorem pass_completes {initial : Footprint} {rounds : Nat} {now : Int} {faults : Prop} (enough : faults ∨ 0 < rounds)
    {result : Result} (represented : Represents json origin cluster v announced)
    (resumes : Resumes rec obs initial v announced)
    (run : Yields obs faults cluster (reconcile json rec rounds now initial.tenant.key) (.ok result) final) :
    ∃ settled emitted, applyAll (passWrites rec obs initial.tenant) initial = .ok settled ∧
      Represents json origin final (statusCell.set
        (settledStatus (initial.tenant.decision obs) obs.lag obs.p99Ms obs.partitionCount now) settled) emitted ∧
      (initial.Ordered obs → emitted = initial.owed obs ++
        signals (statusScript initial.tenant obs (initial.tenant.decision obs) 0)) := by
  rw [← resumes.same_key] at run
  obtain ⟨reached,applied,shown⟩ := (reconcile_follows rec rounds now enough).completed represented run
  rw [writes_passScript,resumes.passWrites,resumes.decision] at applied
  obtain ⟨settled,made,status⟩ := applyAll_append_ok.mp applied
  obtain ⟨last,written,same⟩ := applyAll_cons_ok.mp status
  cases same
  cases written
  refine ⟨settled,_,resumes.writes settled made,shown,?_⟩
  intro ordered
  rw [signals_passScript,← List.append_assoc,(resumes.signals ordered).2,resumes.decision,
    signals_statusScript_resumed resumes _ now 0]

/-- Nothing that a pass for the tenant writes tells the two clusters apart, but for the time of the pass. -/
structure SameOutcome (json : MappingJson) (tenant : TradingTenant) (cluster other : Cluster) : Prop where
  object : (cluster.tenants tenant.key).map TradingTenant.outcome = (other.tenants tenant.key).map TradingTenant.outcome
  resources : ∀ slot : Slot, (cluster.objects slot.kind (slot.key tenant)).map Stored.object =
    (other.objects slot.kind (slot.key tenant)).map Stored.object
  mapping : sharedMapping json cluster tenant.key.ns = sharedMapping json other tenant.key.ns

theorem sameOutcome_of_settled {other origin' : Cluster} {tenant : TradingTenant} {settled : Footprint}
    {emitted emitted' : List Signal} {decision : ReconcileDecision} {now later : Int}
    (own : settled.tenant.key = tenant.key)
    (one : Represents json origin cluster (statusCell.set
      (settledStatus decision obs.lag obs.p99Ms obs.partitionCount now) settled) emitted)
    (two : Represents json origin' other (statusCell.set
      (settledStatus decision obs.lag obs.p99Ms obs.partitionCount later) settled) emitted') :
    SameOutcome json tenant cluster other := by
  refine ⟨?_,?_,?_⟩
  · rw [← own]
    have first := one.tenant
    have second := two.tenant
    change cluster.tenants settled.tenant.key = _ at first
    change other.tenants settled.tenant.key = _ at second
    rw [first,second]
    rfl
  · intro slot
    rw [← Slot.key_congr own]
    exact (one.objects slot).trans (two.objects slot).symm
  · rw [← own]
    exact one.mapping.trans two.mapping.symm

/-- The dedicated resources of the tenant are all there, or none of them is. -/
def AllOrNone (cluster : Cluster) (tenant : TradingTenant) : Prop :=
  (∀ slot : Slot, (cluster.objects slot.kind (slot.key tenant)).isSome = true) ∨
    ∀ slot : Slot, cluster.objects slot.kind (slot.key tenant) = none

theorem ordered_of_allOrNone (json : MappingJson) (obs : Observation) {tenant : TradingTenant}
    (initially : AllOrNone cluster tenant) : (footprint json cluster tenant).Ordered obs := by
  simp only [Footprint.Ordered]
  rcases initially with present | absent
  · have there (slot : Slot) : (cluster.objects slot.kind (slot.key tenant)).isNone = false := by
      rw [← Option.not_isSome,present slot]
      rfl
    cases (footprint json cluster tenant).tenant.settlesIsolated
      ((footprint json cluster tenant).tenant.decision obs) <;>
      simp [Footprint.pending,slotOrder,lastSlot,unsettled,footprint,present,there]
  · cases (footprint json cluster tenant).tenant.settlesIsolated
      ((footprint json cluster tenant).tenant.decision obs) <;>
      simp [Footprint.pending,slotOrder,lastSlot,unsettled,footprint,absent]

end passes

/-- Any number of passes that failed at some call, and then one that succeeds, end where a single
pass without faults ends, and with the same signals if the resources were all there or all absent. -/
theorem interrupted_passes_converge (json : MappingJson) (rec : TradingTenantReconciler) (obs : Observation)
    (initial stopped final : Cluster) (tenant : TradingTenant) (found : initial.tenants tenant.key = some tenant)
    (failures : FailedPasses json rec obs tenant.key initial stopped) (rounds : Nat) (now : Int) (result : Result)
    (last : Yields obs True stopped (reconcile json rec rounds now tenant.key) (.ok result) final)
    (rounds' : Nat) (enough : 0 < rounds') (later : Int) :
    (∃ result' single, Yields obs False initial (reconcile json rec rounds' later tenant.key) result' single) ∧
    ∀ result' single, Yields obs False initial (reconcile json rec rounds' later tenant.key) result' single →
      (∃ value, result' = .ok value) ∧ SameOutcome json tenant final single ∧
        (AllOrNone initial tenant → final.signals = single.signals) := by
  refine ⟨served_run obs initial _,?_⟩
  intro result' single uninterrupted
  have start := represents_footprint json found
  obtain ⟨v,announced,represented,resumes⟩ := failures.resumes rfl start (Resumes.refl rec obs _)
  obtain ⟨settled,emitted,applied,shown,told⟩ := pass_completes (Or.inl trivial) represented resumes last
  have whole : applyAll (writes (passScript rec obs later (footprint json initial tenant)))
      (footprint json initial tenant) = .ok (statusCell.set
        (settledStatus (tenant.decision obs) obs.lag obs.p99Ms obs.partitionCount later) settled) := by
    rw [writes_passScript]
    exact applyAll_append_ok.mpr ⟨settled,applied,rfl⟩
  obtain ⟨value,rfl⟩ := served_pass_succeeds enough start whole uninterrupted
  obtain ⟨same,emitted',applied',shown',told'⟩ :=
    pass_completes (Or.inr enough) start (Resumes.refl rec obs _) uninterrupted
  rw [applied] at applied'
  cases applied'
  have own : settled.tenant.key = tenant.key := by
    rw [passWrites_settle applied]
    rfl
  refine ⟨⟨value,rfl⟩,sameOutcome_of_settled own shown shown',?_⟩
  intro initially
  have ordered := ordered_of_allOrNone json obs initially
  rw [shown.signals,shown'.signals,told ordered,told' ordered]

section sample

def backlog : Observation := ⟨500,10,1,2⟩

-- The metrics store stops answering once the isolation flag is written.
def outage (cluster : Cluster) : (op : ApiCall) → Except Error op.Value × Cluster
  | .observedPartitionStart _ => (.error (.new "query timed out"),cluster)
  | op => cluster.serve backlog op

theorem outage_answers (cluster : Cluster) (op : ApiCall) :
    Answers backlog True cluster op (outage cluster op).1 (outage cluster op).2 := by
  cases op with
  | observedPartitionStart label => exact .failed _ _ trivial trivial ⟨by decide,by decide⟩
  | _ => exact .served _

def halted : Cluster :=
  ((reconcile MappingText.json sampleReconciler 1 0 sampleTenant.key).run.execute outage sampleCluster).2

theorem outage_halts :
    FailedPasses MappingText.json sampleReconciler backlog sampleTenant.key sampleCluster halted := by
  refine .pass 1 0 (.wrap ("reconciling tradingtenant %s: " ++ "observed partition start" ++ ": %w")
    [sampleTenant.key.operand] (.new "query timed out")) ?_ (.none _)
  exact Program.Runs.of_execute outage outage_answers
    (reconcile MappingText.json sampleReconciler 1 0 sampleTenant.key).run sampleCluster

theorem halted_flagged : halted.tenants sampleTenant.key = some (sampleTenant.withIsolation true) := rfl

theorem outage_recovers : ∃ final single result result',
    FailedPasses MappingText.json sampleReconciler backlog sampleTenant.key sampleCluster halted ∧
    halted.tenants sampleTenant.key = some (sampleTenant.withIsolation true) ∧
    Yields backlog True halted (reconcile MappingText.json sampleReconciler 1 0 sampleTenant.key) (.ok result) final ∧
    Yields backlog False sampleCluster (reconcile MappingText.json sampleReconciler 1 30 sampleTenant.key) (.ok result')
      single ∧
    SameOutcome MappingText.json sampleTenant final single ∧ final.signals = single.signals := by
  have represented : Represents MappingText.json halted halted
      ⟨sampleTenant.withIsolation true,fun _ => none,none⟩ [] := represents_footprint MappingText.json halted_flagged
  obtain ⟨result,final,last,_⟩ := pass_exists sampleReconciler backlog 0 True represented rfl
  obtain ⟨⟨result',single,uninterrupted⟩,agree⟩ := interrupted_passes_converge _ _ _ _ _ _ sampleTenant sample_found
    outage_halts 1 0 result last 1 Nat.one_pos 30
  obtain ⟨⟨value,rfl⟩,same,signals⟩ := agree _ _ uninterrupted
  exact ⟨final,single,result,value,outage_halts,halted_flagged,last,uninterrupted,same,signals (Or.inr fun _ => rfl)⟩

end sample

end ControlPlane.Operator
