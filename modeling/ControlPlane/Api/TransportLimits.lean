import ControlPlane.Api.Servers
import Mathlib.Data.Fintype.Prod

/-! The rate limit of an API key over the transports of a process. Each server has a limiter of
its own, so a key is held to its rate over either transport alone, and not over both: a burst
over each passes at one time. -/
namespace ControlPlane.Api
open Go Effect Effect.Program Effect.Interleaving Data.TokenBucket

section passed
variable {ι : Type} (arrivals : ι → Arrival) (made : List (ι × Bool)) (key : Bytes)

/-- The number of requests with the key that pass a limiter in a window of time. -/
def passed (start length : ℚ) : Nat :=
  made.countP fun update => update.2 = true ∧ (arrivals update.1).request.key = some key ∧
    start ≤ (arrivals update.1).time ∧ (arrivals update.1).time ≤ start + length

/-- The requests with the key come in the order of their times. -/
def InOrder : Prop :=
  (made.filter fun update => (arrivals update.1).request.key = some key).Pairwise fun one other =>
    (arrivals one.1).time ≤ (arrivals other.1).time

variable {arrivals made key} {rate burst : ℚ} {transport : Transport}

theorem Conforms.limited {verdicts : List Verdict} (conforms : Conforms rate burst verdicts) :
    Limited rate burst (verdicts.map Verdict.draw) := by
  rintro before draw ⟨rest,parts⟩ positive
  obtain ⟨begins,after,rfl,same,_⟩ := List.map_eq_append_iff.mp parts.symm
  obtain ⟨earlier,last,rfl,rfl,single⟩ := List.map_eq_append_iff.mp same
  obtain ⟨verdict,rfl,rfl⟩ := List.map_eq_singleton_iff.mp single
  have verdict_of := conforms earlier verdict (List.prefix_append _ _)
  cases shown : verdict.allowed with
  | false => simp [Verdict.draw,shown] at positive
  | true =>
    have affords := verdict_of.mp shown
    simpa [Verdict.draw,shown] using affords

theorem tally_of_only (nonempty : key ≠ [])
    (only : ∀ i, (arrivals i).request.key = some key → (arrivals i).request.transport = transport) :
    tally (fun i => (arrivals i).call) made transport key =
      (made.filter fun update => (arrivals update.1).request.key = some key).map fun update =>
        ⟨(arrivals update.1).time,update.2⟩ := by
  unfold tally
  congr 1
  refine List.filter_congr fun update _ => decide_eq_decide.mpr ?_
  constructor
  · rintro ⟨_,own⟩
    change (arrivals update.1).request.key.getD [] = key at own
    cases shown : (arrivals update.1).request.key with
    | none =>
      rw [shown] at own
      exact absurd own.symm nonempty
    | some other =>
      rw [shown] at own
      exact congrArg some own
  · intro own
    refine ⟨only update.1 own,?_⟩
    change (arrivals update.1).request.key.getD [] = key
    rw [own]
    rfl

theorem passed_of_only (nonempty : key ≠ [])
    (only : ∀ i, (arrivals i).request.key = some key → (arrivals i).request.transport = transport) (start length : ℚ) :
    passed arrivals made key start length =
      ((tally (fun i => (arrivals i).call) made transport key).filter fun verdict =>
      start ≤ verdict.time ∧ verdict.time ≤ start + length).countP Verdict.allowed := by
  rw [tally_of_only nonempty only,List.filter_map,List.countP_map,List.countP_filter,List.countP_filter]
  refine List.countP_congr fun update _ => ?_
  simp only [Function.comp_apply,Bool.and_eq_true,decide_eq_true_eq]
  tauto

theorem passed_bounded (refills : 0 ≤ rate) (full : 0 ≤ burst) (nonempty : key ≠ [])
    (only : ∀ i, (arrivals i).request.key = some key → (arrivals i).request.transport = transport)
    (conforms : Conforms rate burst (tally (fun i => (arrivals i).call) made transport key))
    (ordered : InOrder arrivals made key) (start length : ℚ) (forward : 0 ≤ length) :
    (passed arrivals made key start length : ℚ) ≤ burst + rate * length := by
  have sorted : Sorted ((tally (fun i => (arrivals i).call) made transport key).map Verdict.draw) := by
    rw [tally_of_only nonempty only,List.map_map]
    exact List.pairwise_map.mpr ordered
  have bound := window_bounded refills full conforms.limited sorted start length forward
  rw [List.filter_map,drawn_verdicts] at bound
  rw [passed_of_only nonempty only]
  exact bound

end passed

section limit
variable (process : IngestionProcess) (rateLimit : RateLimitConfig) (key : Bytes)

/-- Concurrent requests to the servers of a process, each with the time that it reads. -/
abbrev Serving {ι : Type} [DecidableEq ι] (arrivals : ι → Arrival)
    (history : List (Event ι (LimiterOp.Reply : LimiterOp Transport → Type) Answer))
    (system : System (Transport → RateLimiter) ι (LimiterOp.Reply : LimiterOp Transport → Type) Answer) : Prop :=
  Run Served (fun _ _ => False) (fun i => process.handle (arrivals i).time (arrivals i).request)
    (.initial process.memory)
    history system

/-- The key is held to its rate in every run in which requests with it use these transports only. -/
def RateLimited (used : Transport → Prop) : Prop :=
  ∀ (ι : Type) [DecidableEq ι] (arrivals : ι → Arrival) history system, Serving process arrivals history system →
    (∀ i, (arrivals i).request.key = some key → used (arrivals i).request.transport) →
    InOrder arrivals (updates history) key → ∀ start length : ℚ, 0 ≤ length →
      (passed arrivals (updates history) key start length : ℚ) ≤
        rateLimit.burst + rateLimit.requestsPerSecond * length

variable {process rateLimit key} {apiKeys : List Bytes} {ι : Type} [DecidableEq ι] {arrivals : ι → Arrival}
  {history : List (Event ι (LimiterOp.Reply : LimiterOp Transport → Type) Answer)}
  {system : System (Transport → RateLimiter) ι (LimiterOp.Reply : LimiterOp Transport → Type) Answer}

theorem serving_orderly (built : newIngestion apiKeys rateLimit = .ok process)
    (run : Serving process arrivals history system) :
    Orderly rateLimit.requestsPerSecond rateLimit.burst (fun i => (arrivals i).call)
      (fun i => (arrivals i).request.answer)
      (fun i => process.handle (arrivals i).time (arrivals i).request) history system := by
  obtain ⟨⟨_,positive,_⟩,_,_,blank⟩ := newIngestion_ok built
  exact run_orderly (handle_limits process arrivals) (by exact_mod_cast positive) blank run

theorem rateLimited_of_one (built : newIngestion apiKeys rateLimit = .ok process) (known : key ∈ apiKeys)
    {used : Transport → Prop} (transport : Transport) (one : ∀ other, used other → other = transport) :
    RateLimited process rateLimit key used := by
  intro ι _ arrivals history system run only ordered start length forward
  obtain ⟨⟨refills,positive,nonempty⟩,_⟩ := newIngestion_ok built
  have orderly := serving_orderly built run
  have full : (0 : ℚ) ≤ rateLimit.burst := by exact_mod_cast le_of_lt positive
  refine passed_bounded (le_of_lt refills) full ?_ (fun i own => one _ (only i own))
    (orderly.balanced.conforms transport key)
    ordered start length forward
  rintro rfl
  exact nonempty known

end limit

section salvo

theorem every_transport (transport : Transport) : transport ∈ ({.rest,.grpc} : Finset Transport) := by
  cases transport <;> decide

instance : Fintype Transport := ⟨{.rest,.grpc},every_transport⟩

def ingestTransaction : Bytes := text "/ingestion.v1.TransactionIngestionService/IngestTransaction"

/-- As many requests over each transport, all at one time. -/
def salvo (key : Bytes) (count : Nat) : Transport × Fin count → Arrival
  | (.rest,_) => ⟨.transactions (text "Bearer " ++ key),0⟩
  | (.grpc,_) => ⟨.unary ⟨ingestTransaction,some [text "Bearer " ++ key]⟩,0⟩

variable {process : IngestionProcess} {rateLimit : RateLimitConfig} {apiKeys : List Bytes} {key : Bytes} {count : Nat}
  {history : List (Event (Transport × Fin count) (LimiterOp.Reply : LimiterOp Transport → Type) Answer)}
  {system : System (Transport → RateLimiter) (Transport × Fin count)
    (LimiterOp.Reply : LimiterOp Transport → Type) Answer}

theorem salvo_parts (key : Bytes) (i : Transport × Fin count) : (salvo key count i).request.transport = i.1 ∧
    (salvo key count i).request.key = some key ∧ (salvo key count i).time = 0 := by
  obtain ⟨transport,number⟩ := i
  cases transport
  · exact ⟨rfl,bearerToken_bearer key,rfl⟩
  · exact ⟨rfl,bearerToken_bearer key,rfl⟩

theorem salvo_tally (made : List ((Transport × Fin count) × Bool)) (transport : Transport) :
    tally (fun i => (salvo key count i).call) made transport key =
      (made.filter fun update => update.1.1 = transport).map fun update => ⟨0,update.2⟩ := by
  have calls : (fun i => (salvo key count i).call) = fun i => ⟨i.1,key,0⟩ := by
    funext i
    obtain ⟨transport,own,time⟩ := salvo_parts key i
    unfold Arrival.call
    rw [transport,own,time]
    rfl
  rw [calls]
  simp [tally]

theorem salvo_waits (built : newIngestion apiKeys rateLimit = .ok process) (known : key ∈ apiKeys)
    (i : Transport × Fin count) (value : Answer) :
    process.handle (salvo key count i).time (salvo key count i).request ≠ .done value := by
  obtain ⟨_,rest,grpc,_⟩ := newIngestion_ok built
  have valid : ApiKeyAuthenticator.validate ⟨apiKeys⟩ key = true := (validate_iff ⟨apiKeys⟩ key).mpr known
  obtain ⟨transport,number⟩ := i
  cases transport with
  | rest =>
    simp only [salvo,IngestionProcess.handle,ApiKeyAuthenticator.middleware,RateLimiter.middleware,
      bearerToken_bearer,rest,
      Option.any_some,valid,if_true]
    exact nofun
  | grpc =>
    have served : healthCheckServicePrefix.isPrefixOf ingestTransaction = false := by decide
    simp only [salvo,IngestionProcess.handle,ApiKeyAuthenticator.unaryInterceptor,ApiKeyAuthenticator.authenticate,
      RateLimiter.unaryInterceptor,UnaryRequest.healthCheck,served,bearerTokenFromContext,bearerToken_bearer,grpc,
      Option.any_some,valid,if_true]
    exact nofun

theorem salvo_tally_length {made : List ((Transport × Fin count) × Bool)} (once : (made.map Prod.fst).Nodup)
    (transport : Transport) : (made.filter fun update => update.1.1 = transport).length ≤ count := by
  have distinct : ((made.filter fun update => update.1.1 = transport).map Prod.fst).Nodup :=
    once.sublist (List.filter_sublist.map _)
  have numbers : (((made.filter fun update => update.1.1 = transport).map Prod.fst).map Prod.snd).Nodup := by
    refine distinct.map_on ?_
    intro one member other member' same
    obtain ⟨update,there,rfl⟩ := List.mem_map.mp member
    obtain ⟨update',there',rfl⟩ := List.mem_map.mp member'
    have first := of_decide_eq_true (List.mem_filter.mp there).2
    have second := of_decide_eq_true (List.mem_filter.mp there').2
    exact Prod.ext (first.trans second.symm) same
  have short := numbers.length_le_card
  rwa [List.length_map,List.length_map,Fintype.card_fin] at short

/-- A salvo of no more requests over each transport than the burst passes as a whole. -/
theorem salvo_allowed (built : newIngestion apiKeys rateLimit = .ok process) (fits : (count : Int) ≤ rateLimit.burst)
    (run : Serving process (salvo key count) history system) {i : Transport × Fin count} {allowed : Bool}
    (update : (i,allowed) ∈ updates history) : allowed = true := by
  have orderly := serving_orderly built run
  have conforms := orderly.balanced.conforms i.1 key
  have short := salvo_tally_length orderly.once i.1
  rw [salvo_tally] at conforms
  have member : (⟨0,allowed⟩ : Verdict) ∈
      ((updates history).filter fun update => update.1.1 = i.1).map fun update => ⟨0,update.2⟩ :=
    List.mem_map.mpr ⟨(i,allowed),List.mem_filter.mpr ⟨update,decide_eq_true rfl⟩,rfl⟩
  obtain ⟨n,last⟩ := List.mem_iff_getElem?.mp member
  refine (conforms.allowed_iff last).mpr ?_
  intro k first within opens
  obtain ⟨_,_,rfl⟩ := List.mem_map.mp (List.mem_of_getElem? opens)
  obtain ⟨inside,_⟩ := List.getElem?_eq_some_iff.mp last
  rw [List.length_map] at inside
  rw [sub_self,mul_zero,add_zero]
  have before := allowed_before_le (((updates history).filter fun update => update.1.1 = i.1).map
    fun update => ⟨0,update.2⟩) k n
  have enough := Int.le_trans (Int.ofNat_le.mpr (Nat.succ_le_of_lt (before.trans_lt (inside.trans_le short)))) fits
  exact_mod_cast enough

theorem salvo_passes (built : newIngestion apiKeys rateLimit = .ok process) (known : key ∈ apiKeys)
    (fits : (count : Int) ≤ rateLimit.burst) : ∃ history system, Serving process (salvo key count) history system ∧
      InOrder (salvo key count) (updates history) key ∧ passed (salvo key count) (updates history) key 0 0 =
      2 * count := by
  have total (memory : Transport → RateLimiter) (op : LimiterOp Transport) :
    ∃ reply next, Served memory op reply next :=
    ⟨_,_,rfl⟩
  have begun : Serving process (salvo key count) [] (.initial process.memory) := .start
  obtain ⟨history,system,run,returned⟩ := begun.completes_all total (Finset.nodup_toList Finset.univ) fun _ _ => rfl
  rw [List.nil_append] at run
  have orderly := serving_orderly built run
  have answered (i : Transport × Fin count) : (i,true) ∈ updates history := by
    obtain ⟨value,ended⟩ := returned i (Finset.mem_toList.mpr (Finset.mem_univ i))
    rcases orderly.answered ended with ⟨allowed,_,update⟩ | immediate
    · rwa [salvo_allowed built fits run update] at update
    · exact absurd immediate (salvo_waits built known i value)
  refine ⟨history,system,run,?_,?_⟩
  · refine List.pairwise_of_forall fun one other => ?_
    rw [(salvo_parts key one.1).2.2,(salvo_parts key other.1).2.2]
  · have all : passed (salvo key count) (updates history) key 0 0 = (updates history).length := by
      refine List.countP_eq_length.mpr ?_
      rintro ⟨i,allowed⟩ update
      obtain ⟨_,own,time⟩ := salvo_parts key i
      simp [salvo_allowed built fits run update,own,time]
    have everyone : ((updates history).map Prod.fst).toFinset = Finset.univ := by
      ext i
      simp only [List.mem_toFinset,Finset.mem_univ,iff_true]
      exact List.mem_map.mpr ⟨_,answered i,rfl⟩
    have number := List.toFinset_card_of_nodup orderly.once
    rw [everyone,Finset.card_univ,Fintype.card_prod,Fintype.card_fin,List.length_map] at number
    rw [all,← number]
    rfl

end salvo

/-- A key of the process is held to its rate in every run over the given transports exactly if
they are not both. -/
theorem rate_limit_across_transports_iff (apiKeys : List Bytes) (rateLimit : RateLimitConfig)
    (process : IngestionProcess) (built : newIngestion apiKeys rateLimit = .ok process) (key : Bytes)
    (known : key ∈ apiKeys) (used : Transport → Prop) :
    RateLimited process rateLimit key used ↔ ¬(used .rest ∧ used .grpc) := by
  obtain ⟨⟨_,positive,_⟩,_⟩ := newIngestion_ok built
  constructor
  · rintro limited ⟨rest,grpc⟩
    have burst : (rateLimit.burst.toNat : Int) = rateLimit.burst := Int.toNat_of_nonneg (le_of_lt positive)
    obtain ⟨history,system,run,ordered,both⟩ := salvo_passes built known (le_of_eq burst)
    have bound := limited _ _ history system run ?_ ordered 0 0 (le_refl 0)
    · rw [both,mul_zero,add_zero,← burst] at bound
      have small : 2 * rateLimit.burst.toNat ≤ rateLimit.burst.toNat := by exact_mod_cast bound
      omega
    · intro i _
      rw [(salvo_parts key i).1]
      cases i.1
      · exact rest
      · exact grpc
  · intro notBoth
    by_cases rest : used .rest
    · refine rateLimited_of_one built known .rest ?_
      intro other there
      cases other with
      | rest => rfl
      | grpc => exact absurd ⟨rest,there⟩ notBoth
    · refine rateLimited_of_one built known .grpc ?_
      intro other there
      cases other with
      | rest => exact absurd there rest
      | grpc => rfl

theorem rate_limit_over_rest_alone : ∃ process, newIngestion [[107]] ⟨5,2⟩ = .ok process ∧
    RateLimited process ⟨5,2⟩ [107] (· = .rest) ∧ ¬RateLimited process ⟨5,2⟩ [107] fun _ => True := by
  obtain ⟨process,built⟩ : ∃ process, newIngestion [[107]] ⟨5,2⟩ = .ok process := ⟨_,rfl⟩
  have decides := rate_limit_across_transports_iff [[107]] ⟨5,2⟩ process built [107] List.mem_cons_self
  refine ⟨process,built,(decides _).mpr nofun,fun limited => (decides _).mp limited ⟨trivial,trivial⟩⟩

/-- Two requests over each transport at one time, where the burst is two: all four pass. -/
theorem burst_passes_twice : ∃ process history system, newIngestion [[107]] ⟨5,2⟩ = .ok process ∧
    Serving process (salvo [107] 2) history system ∧ InOrder (salvo [107] 2) (updates history) [107] ∧
    passed (salvo [107] 2) (updates history) [107] 0 0 = 4 ∧ ¬(4 : ℚ) ≤ 2 + 5 * 0 := by
  obtain ⟨process,built⟩ : ∃ process, newIngestion [[107]] ⟨5,2⟩ = .ok process := ⟨_,rfl⟩
  obtain ⟨history,system,run,ordered,both⟩ := salvo_passes built List.mem_cons_self (le_refl (2 : Int))
  exact ⟨process,history,system,built,run,ordered,both,by norm_num⟩

end ControlPlane.Api
