import ControlPlane.Api.LimiterRuns
import ControlPlane.Go.Strings

/-! The servers of the ingestion service, from the API key of a request to its handler: the
authenticator first, then the rate limiter. The REST server and the gRPC server of a process are
built from the same keys and the same rate limit. Of a request the parts that the two read are
kept; the routes and calls that need no key do not reach the limiter. -/
namespace ControlPlane.Api
open Go Effect Effect.Program

inductive Transport where
  | rest
  | grpc
  deriving DecidableEq, Repr

inductive Code where
  | unauthenticated
  | resourceExhausted
  deriving DecidableEq, Repr

/-- A request is handed on, or answered with a JSON error or a gRPC status. -/
inductive Answer where
  | forwarded
  | jsonError (status : Nat) (message : String)
  | status (code : Code) (message : String)
  deriving DecidableEq, Repr

def bearerToken (header : Bytes) : Option Bytes := cutPrefix header (text "Bearer ")

theorem bearerToken_bearer (key : Bytes) : bearerToken (text "Bearer " ++ key) = some key := cutPrefix_append _ key

-- The values of the "authorization" metadata, where there is incoming metadata.
def bearerTokenFromContext : Option (List Bytes) → Option Bytes
  | some (value::_) => bearerToken value
  | _ => none

section authenticator

structure ApiKeyAuthenticator where
  validKeys : List Bytes
  deriving DecidableEq, Repr

def newAPIKeyAuthenticator (keys : List Bytes) : Except Error ApiKeyAuthenticator :=
  if keys = [] then .error (.errorf "at least one API key is required" [])
  else if [] ∈ keys then .error (.errorf "API key must not be empty" [])
  else .ok ⟨keys⟩

def constantTimeCompare (x y : Bytes) : Nat := if x = y then 1 else 0

def ApiKeyAuthenticator.validate (auth : ApiKeyAuthenticator) (token : Bytes) : Bool :=
  auth.validKeys.foldl (fun found key => found ||| constantTimeCompare token key) 0 == 1

theorem newAPIKeyAuthenticator_ok {keys : List Bytes} {auth : ApiKeyAuthenticator}
    (built : newAPIKeyAuthenticator keys = .ok auth) : auth.validKeys = keys ∧ [] ∉ keys := by
  unfold newAPIKeyAuthenticator at built
  split_ifs at built with none empty
  cases built
  exact ⟨rfl,empty⟩

theorem compared_iff (keys : List Bytes) (token : Bytes) {found : Nat} (bit : found = 0 ∨ found = 1) :
    keys.foldl (fun found key => found ||| constantTimeCompare token key) found = 1 ↔ found = 1 ∨ token ∈ keys := by
  induction keys generalizing found with
  | nil => simp
  | cons key keys ih =>
    have next : found ||| constantTimeCompare token key = 0 ∨ found ||| constantTimeCompare token key = 1 := by
      unfold constantTimeCompare
      rcases bit with rfl | rfl <;> split <;> simp
    rw [List.foldl_cons,ih next,List.mem_cons]
    by_cases same : token = key
    · rcases bit with rfl | rfl <;> simp [constantTimeCompare,same]
    · rcases bit with rfl | rfl <;> simp [constantTimeCompare,same]

theorem validate_iff (auth : ApiKeyAuthenticator) (token : Bytes) : auth.validate token = true ↔
    token ∈ auth.validKeys := by
  unfold ApiKeyAuthenticator.validate
  rw [beq_iff_eq,compared_iff _ _ (Or.inl rfl),or_iff_right Nat.zero_ne_one]

end authenticator

section handlers

structure UnaryRequest where
  fullMethod : Bytes
  authorization : Option (List Bytes)
  deriving DecidableEq, Repr

-- From the Authorization header of a request.
abbrev HttpHandler := Bytes → Limiting Transport Answer

abbrev UnaryHandler := UnaryRequest → Limiting Transport Answer

def healthCheckServicePrefix : Bytes := text "/grpc.health.v1.Health/"

def UnaryRequest.healthCheck (request : UnaryRequest) : Bool := healthCheckServicePrefix.isPrefixOf request.fullMethod

namespace ApiKeyAuthenticator

def middleware (auth : ApiKeyAuthenticator) (next : HttpHandler) : HttpHandler := fun authorization =>
  if (bearerToken authorization).any auth.validate then next authorization
  else return .jsonError 401 "missing or invalid bearer token"

def authenticate (auth : ApiKeyAuthenticator) (metaData : Option (List Bytes)) : Bool :=
  (bearerTokenFromContext metaData).any auth.validate

def unaryInterceptor (auth : ApiKeyAuthenticator) (handler : UnaryHandler) : UnaryHandler := fun request =>
  if request.healthCheck then handler request
  else if auth.authenticate request.authorization then handler request
  else return .status .unauthenticated "missing or invalid bearer token"

end ApiKeyAuthenticator

namespace RateLimiter

def middleware (limiter : Transport) (now : ℚ) (next : HttpHandler) : HttpHandler := fun authorization =>
  match bearerToken authorization with
  | none => return .jsonError 429 "rate limit exceeded"
  | some key => do
    if ← allow limiter key now then next authorization
    else return .jsonError 429 "rate limit exceeded"

def unaryInterceptor (limiter : Transport) (now : ℚ) (handler : UnaryHandler) : UnaryHandler := fun request =>
  if request.healthCheck then handler request
  else match bearerTokenFromContext request.authorization with
    | none => return .status .resourceExhausted "rate limit exceeded"
    | some key => do
      if ← allow limiter key now then handler request
      else return .status .resourceExhausted "rate limit exceeded"

end RateLimiter

end handlers

section process

/-- What a server is built with. -/
structure Server where
  authenticator : ApiKeyAuthenticator
  limiter : RateLimiter

def configure (apiKeys : List Bytes) (rateLimit : RateLimitConfig) : Except Error Server := do
  let authenticator ← wrapping "configure API key authenticator: %w" (newAPIKeyAuthenticator apiKeys)
  let limiter ← wrapping "configure rate limiter: %w" (newRateLimiter rateLimit)
  return ⟨authenticator,limiter⟩

def newServer (apiKeys : List Bytes) (rateLimit : RateLimitConfig) : Except Error Server := configure apiKeys rateLimit

def newGRPCServer (apiKeys : List Bytes) (rateLimit : RateLimitConfig) : Except Error Server :=
  configure apiKeys rateLimit

structure IngestionProcess where
  server : Server
  grpcServer : Server

-- The servers of `run` in `cmd/ingestion`.
def newIngestion (apiKeys : List Bytes) (rateLimit : RateLimitConfig) : Except Error IngestionProcess := do
  let server ← wrapping "create ingestion HTTP server: %w" (newServer apiKeys rateLimit)
  let grpcServer ← wrapping "create ingestion gRPC server: %w" (newGRPCServer apiKeys rateLimit)
  return ⟨server,grpcServer⟩

inductive Request where
  | transactions (authorization : Bytes)
  | unary (request : UnaryRequest)
  deriving DecidableEq, Repr

namespace Request

def transport : Request → Transport
  | .transactions _ => .rest
  | .unary _ => .grpc

def key : Request → Option Bytes
  | .transactions authorization => bearerToken authorization
  | .unary request => bearerTokenFromContext request.authorization

/-- The answer to a request that has reached the limiter. -/
def answer : Request → Bool → Answer
  | _,true => .forwarded
  | .transactions _,false => .jsonError 429 "rate limit exceeded"
  | .unary _,false => .status .resourceExhausted "rate limit exceeded"

end Request

namespace IngestionProcess

def memory (process : IngestionProcess) : Transport → RateLimiter
  | .rest => process.server.limiter
  | .grpc => process.grpcServer.limiter

def handle (process : IngestionProcess) (now : ℚ) : Request → Limiting Transport Answer
  | .transactions authorization =>
    process.server.authenticator.middleware (RateLimiter.middleware .rest now fun _ => return .forwarded) authorization
  | .unary request =>
    process.grpcServer.authenticator.unaryInterceptor
      (RateLimiter.unaryInterceptor .grpc now fun _ => return .forwarded)
      request

end IngestionProcess

structure Arrival where
  request : Request
  time : ℚ
  deriving DecidableEq, Repr

/-- The call of the limiter that a request leads to, if it leads to one. -/
def Arrival.call (arrival : Arrival) : Call Transport :=
  ⟨arrival.request.transport,arrival.request.key.getD [],arrival.time⟩

theorem limited_program {limiter : Transport} {key : Bytes} {now : ℚ} {answer : Bool → Answer} {refusal : Answer}
    (passes : answer true = .forwarded) (refuses : answer false = refusal) :
    (do if ← allow limiter key now then return .forwarded else return refusal : Limiting Transport Answer) =
      Call.program ⟨limiter,key,now⟩ answer := by
  unfold Call.program
  congr 1
  funext allowed
  cases allowed
  · rw [refuses]
    rfl
  · rw [passes]
    rfl

variable {apiKeys : List Bytes} {rateLimit : RateLimitConfig} {process : IngestionProcess}

/-- A request is answered at once, or goes through the limiter of its server. -/
theorem handle_cases (process : IngestionProcess) (arrival : Arrival) :
    (∃ value, process.handle arrival.time arrival.request = .done value) ∨
      process.handle arrival.time arrival.request = arrival.call.program arrival.request.answer := by
  obtain ⟨request,time⟩ := arrival
  cases request with
  | transactions authorization =>
    change (∃ value, ApiKeyAuthenticator.middleware _ _ authorization = _) ∨
      ApiKeyAuthenticator.middleware _ _ authorization = Call.program ⟨.rest,(bearerToken authorization).getD [],time⟩ _
    unfold ApiKeyAuthenticator.middleware RateLimiter.middleware
    cases bearerToken authorization with
    | none => exact Or.inl ⟨_,rfl⟩
    | some key =>
      cases valid : process.server.authenticator.validate key with
      | false => exact Or.inl ⟨_,by simp only [Option.any_some,valid]; rfl⟩
      | true =>
        simp only [Option.any_some,valid,if_true]
        exact Or.inr (limited_program rfl rfl)
  | unary request =>
    change (∃ value, ApiKeyAuthenticator.unaryInterceptor _ _ request = _) ∨
      ApiKeyAuthenticator.unaryInterceptor _ _ request =
        Call.program ⟨.grpc,(bearerTokenFromContext request.authorization).getD [],time⟩ _
    unfold ApiKeyAuthenticator.unaryInterceptor RateLimiter.unaryInterceptor ApiKeyAuthenticator.authenticate
    cases request.healthCheck with
    | true => exact Or.inl ⟨_,rfl⟩
    | false =>
      cases bearerTokenFromContext request.authorization with
      | none => exact Or.inl ⟨_,rfl⟩
      | some key =>
        cases valid : process.grpcServer.authenticator.validate key with
        | false => exact Or.inl ⟨_,by simp only [Option.any_some,valid]; rfl⟩
        | true =>
          simp only [Option.any_some,valid,if_true]
          exact Or.inr (limited_program rfl rfl)

theorem handle_limits {ι : Type} (process : IngestionProcess) (arrivals : ι → Arrival) :
    Limits (fun i => (arrivals i).call) (fun i => (arrivals i).request.answer)
      fun i => process.handle (arrivals i).time (arrivals i).request := fun i => handle_cases process (arrivals i)

theorem configure_ok {server : Server} (built : configure apiKeys rateLimit = .ok server) :
    (0 < rateLimit.requestsPerSecond ∧ 0 < rateLimit.burst ∧ [] ∉ apiKeys) ∧
      server = ⟨⟨apiKeys⟩,⟨rateLimit.requestsPerSecond,rateLimit.burst,fun _ => ∅,[]⟩⟩ := by
  obtain ⟨authenticator,keys,rest⟩ := bind_success _ _ _ built
  obtain ⟨limiter,limits,same⟩ := bind_success _ _ _ rest
  cases same
  obtain ⟨valid,nonempty⟩ := newAPIKeyAuthenticator_ok ((wrapping_ok _ _ _).mp keys)
  obtain ⟨refills,burst,rfl⟩ := newRateLimiter_ok.mp ((wrapping_ok _ _ _).mp limits)
  exact ⟨⟨refills,burst,nonempty⟩,by rw [← valid]⟩

/-- Each server of a process has the same keys and a rate limiter of its own. -/
theorem newIngestion_ok (built : newIngestion apiKeys rateLimit = .ok process) :
    (0 < rateLimit.requestsPerSecond ∧ 0 < rateLimit.burst ∧ [] ∉ apiKeys) ∧
      process.server.authenticator = ⟨apiKeys⟩ ∧ process.grpcServer.authenticator = ⟨apiKeys⟩ ∧
      ∀ transport, process.memory transport = ⟨rateLimit.requestsPerSecond,rateLimit.burst,fun _ => ∅,[]⟩ := by
  obtain ⟨server,first,rest⟩ := bind_success _ _ _ built
  obtain ⟨grpcServer,second,same⟩ := bind_success _ _ _ rest
  cases same
  obtain ⟨valid,rfl⟩ := configure_ok ((wrapping_ok _ _ _).mp first)
  obtain ⟨_,rfl⟩ := configure_ok ((wrapping_ok _ _ _).mp second)
  refine ⟨valid,rfl,rfl,?_⟩
  intro transport
  cases transport <;> rfl

end process

end ControlPlane.Api
