import ControlPlane.Effect.Pools
import ControlPlane.Effect.Protocols
import ControlPlane.Wire.Agreement

/-! The REST handler with its four pools (`internal/api/transaction_handler.go`): the buffer of the
request body, the reader over it, the event that is decoded into and the buffer of the response.
`Decode` keeps what the text does not name, so a value that came back from a pool with the fields of
another request would give them to this one. The reader is put back as it is, and goes on referring
to a body that another request may have by then. Log lines and headers are left out. -/
namespace ControlPlane.Api
open Go Ingestion Wire Effect Effect.Program Effect.Pools

inductive Pooled where
  | body
  | reader
  | event
  | response
  deriving DecidableEq, Repr

/-- A reader refers to the body whose bytes it reads. -/
def Content : Pooled → Type
  | .body => Bytes
  | .reader => Option Nat
  | .event => TransactionEventRequest
  | .response => Bytes

def TransactionEventRequest.zero : TransactionEventRequest := ⟨[],[],[],[],[],[],[],[]⟩

-- What `New` makes.
def newObject : (kind : Pooled) → Content kind
  | .body => ([] : Bytes)
  | .reader => (none : Option Nat)
  | .event => TransactionEventRequest.zero
  | .response => ([] : Bytes)

/-- What is encoded into a response. -/
inductive ResponseValue where
  | event (event : TransactionEventRequest)
  | error (message : Error)
  deriving DecidableEq

/-- `json.Decoder.Decode` into a value that may already have fields, with the offset it has read up
to, and `json.Encoder.Encode`. -/
structure JsonCodec where
  decode : TransactionEventRequest → Bytes → TransactionEventRequest × Except Error Nat
  encode : ResponseValue → Except Error Bytes

inductive HandlerCall where
  | readBody
  | publish (event : Event)
  | respond (status : Nat) (body : Bytes)

/-- The bytes that could be read of the body, with the error that ended the reading. -/
def HandlerCall.Reply : HandlerCall → Type
  | .readBody => Bytes × Option Error
  | .publish _ => Option Error
  | .respond _ _ => Unit

abbrev Handling := Borrowing Content HandlerCall.Reply

def isJSONWhitespace (data : Bytes) : Bool := data.all fun char => char = 32 || char = 9 || char = 13 || char = 10

def invalidBody : Error := .errorf "invalid request body" []

def trailingData : Error := .errorf "invalid request body: trailing data" []

def notPublished : Error := .errorf "failed to publish transaction event" []

section handler
variable (libs : Libraries) (codec : JsonCodec)

def loadBody (ref : Nat) : Handling Bytes := load (Pooled.body,ref)

def storeBody (ref : Nat) (bytes : Bytes) : Handling Unit := store (Pooled.body,ref) bytes

def loadReader (ref : Nat) : Handling (Option Nat) := load (Pooled.reader,ref)

def storeReader (ref : Nat) (body : Option Nat) : Handling Unit := store (Pooled.reader,ref) body

def loadEvent (ref : Nat) : Handling TransactionEventRequest := load (Pooled.event,ref)

def storeEvent (ref : Nat) (event : TransactionEventRequest) : Handling Unit := store (Pooled.event,ref) event

def loadResponse (ref : Nat) : Handling Bytes := load (Pooled.response,ref)

def storeResponse (ref : Nat) (bytes : Bytes) : Handling Unit := store (Pooled.response,ref) bytes

def readBody : Handling (Bytes × Option Error) := pass HandlerCall.readBody

def publishEvent (event : Event) : Handling (Option Error) := pass (HandlerCall.publish event)

def respond (status : Nat) (body : Bytes) : Handling Unit := pass (HandlerCall.respond status body)

def writeJSON (status : Nat) (value : ResponseValue) : Handling Unit :=
  borrow .response (fun _ => ([] : Bytes)) fun response => do
    match codec.encode value with
    | .error _ => respond 500 (text "internal server error\n")
    | .ok encoded =>
      storeResponse response ((← loadResponse response) ++ encoded)
      respond status (← loadResponse response)

def writeJSONError (status : Nat) (message : Error) : Handling Unit := writeJSON codec status (.error message)

def readAll : Option Nat → Handling Bytes
  | some body => loadBody body
  | none => return []

-- `Decode` through the reader.
def decodeFrom (reader event : Nat) : Handling (Except Error Nat) := do
  let bytes ← readAll (← loadReader reader)
  let (decoded,result) := codec.decode (← loadEvent event) bytes
  storeEvent event decoded
  return result

def acknowledge (event : Nat) : Option Error → Handling Unit
  | some _ => writeJSONError codec 503 notPublished
  | none => do writeJSON codec 202 (.event (← loadEvent event))

def publishRequest (event : Nat) (request : TransactionEventRequest) : Handling Unit :=
  match request.validate libs with
  | .error err => writeJSONError codec 400 err
  | .ok () =>
    match request.toIngestionEvent libs with
    | .error err => writeJSONError codec 400 err
    | .ok ingestionEvent => do acknowledge codec event (← publishEvent ingestionEvent)

def afterDecode (body event : Nat) : Except Error Nat → Handling Unit
  | .error _ => writeJSONError codec 400 invalidBody
  | .ok offset => do
    if isJSONWhitespace ((← loadBody body).drop offset) then publishRequest libs codec event (← loadEvent event)
    else writeJSONError codec 400 trailingData

def afterRead (body : Nat) : Option Error → Handling Unit
  | some _ => writeJSONError codec 400 invalidBody
  | none =>
    borrowAsIs .reader fun reader => do
      storeReader reader (some body)
      borrow .event (fun _ => TransactionEventRequest.zero) fun event => do
        afterDecode libs codec body event (← decodeFrom codec reader event)

def transactionHandler : Handling Unit :=
  borrow .body (fun _ => ([] : Bytes)) fun body => do
    let (read,failure) ← readBody
    storeBody body ((← loadBody body) ++ read)
    afterRead libs codec body failure

end handler

section plain
variable (libs : Libraries) (codec : JsonCodec)

abbrev PlainHandling := Program HandlerCall.Reply

/-- The same responses, from buffers of their own. -/
def plainJSON (status : Nat) (value : ResponseValue) : PlainHandling Unit :=
  match codec.encode value with
  | .error _ => perform (HandlerCall.respond 500 (text "internal server error\n"))
  | .ok encoded => perform (HandlerCall.respond status encoded)

def plainDecoded (request : TransactionEventRequest) : PlainHandling Unit :=
  match request.validate libs with
  | .error err => plainJSON codec 400 (.error err)
  | .ok () =>
    match request.toIngestionEvent libs with
    | .error err => plainJSON codec 400 (.error err)
    | .ok ingestionEvent => .call (.publish ingestionEvent) fun failure =>
      match failure with
      | some _ => plainJSON codec 503 (.error notPublished)
      | none => plainJSON codec 202 (.event request)

def plainBody (read : Bytes) : PlainHandling Unit :=
  match (codec.decode .zero read).2 with
  | .error _ => plainJSON codec 400 (.error invalidBody)
  | .ok offset =>
    if isJSONWhitespace (read.drop offset) then plainDecoded libs codec (codec.decode .zero read).1
    else plainJSON codec 400 (.error trailingData)

/-- What the handler is to do: nothing in it is shared with another request. -/
def plainHandler : PlainHandling Unit := .call .readBody fun answer =>
  match answer.2 with
  | some _ => plainJSON codec 400 (.error invalidBody)
  | none => plainBody libs codec answer.1

end plain

section refinement
variable {libs : Libraries} {codec : JsonCodec} {borrowed : Borrowed Content}

def Cleaned : (kind : Pooled) → Content kind → Prop
  | .body,bytes => bytes = ([] : Bytes)
  | .reader,_ => True
  | .event,event => event = TransactionEventRequest.zero
  | .response,bytes => bytes = ([] : Bytes)

theorem writeJSON_simulates (status : Nat) (value : ResponseValue) :
    Simulates Cleaned (· = borrowed) borrowed (writeJSON codec status value) (plainJSON codec status value) := by
  refine Simulates.borrow (fun _ => rfl) ?_
  intro ref old none clean
  cases clean
  have own (bytes : Bytes) : Function.update borrowed (Pooled.response,ref) (some bytes) (Pooled.response,ref) =
    some bytes :=
    Function.update_self _ _ _
  unfold plainJSON
  cases codec.encode value with
  | error err => exact .passed _ _ _ fun _ => .done () ⟨_,rfl⟩
  | ok encoded =>
    refine .load _ _ _ (own []) ?_
    refine .store _ encoded _ _ (own []) ?_
    rw [Function.update_idem]
    refine .load _ _ _ (own encoded) ?_
    exact .passed _ _ _ fun _ => .done () ⟨_,rfl⟩

theorem publishRequest_simulates {event : Nat} {request : TransactionEventRequest}
    (own : borrowed (Pooled.event,event) = some request) :
    Simulates Cleaned (· = borrowed) borrowed (publishRequest libs codec event request)
      (plainDecoded libs codec request) := by
  unfold publishRequest plainDecoded
  cases request.validate libs with
  | error err => exact writeJSON_simulates 400 _
  | ok value =>
    cases request.toIngestionEvent libs with
    | error err => exact writeJSON_simulates 400 _
    | ok ingestionEvent =>
      refine .passed _ _ _ fun failure => ?_
      cases failure with
      | some err => exact writeJSON_simulates 503 _
      | none => exact .load _ _ _ own (writeJSON_simulates 202 _)

theorem afterDecode_simulates {body event : Nat} {read : Bytes} (ownBody : borrowed (Pooled.body,body) = some read)
    (ownEvent : borrowed (Pooled.event,event) = some (codec.decode .zero read).1) :
    Simulates Cleaned (· = borrowed) borrowed (afterDecode libs codec body event (codec.decode .zero read).2)
      (plainBody libs codec read) := by
  unfold plainBody
  cases (codec.decode .zero read).2 with
  | error err => exact writeJSON_simulates 400 _
  | ok offset =>
    refine .load _ read _ ownBody ?_
    change Simulates _ _ _ (if isJSONWhitespace (read.drop offset) = true then _ else _)
      (if isJSONWhitespace (read.drop offset) = true then _ else _)
    split_ifs
    · exact .load _ _ _ ownEvent (publishRequest_simulates ownEvent)
    · exact writeJSON_simulates 400 _

/-- With the body read, the event is decoded and published as without pools. -/
theorem afterRead_simulates {body : Nat} {read : Bytes} (ownBody : borrowed (Pooled.body,body) = some read) :
    Simulates Cleaned (· = borrowed) borrowed (afterRead libs codec body none) (plainBody libs codec read) := by
  refine Simulates.borrowAsIs (fun _ => trivial) ?_
  intro reader old _
  refine .store _ _ _ _ (Function.update_self _ _ _) ?_
  rw [Function.update_idem]
  refine Simulates.weaken (Simulates.borrow (fun _ => rfl) ?_) fun after same => ⟨some body,same⟩
  intro event value _ clean
  cases clean
  have own (kind : Pooled) (ref : Nat) (differs : kind ≠ .event) (request : TransactionEventRequest) :
      Function.update (Function.update borrowed (Pooled.reader,reader) (some (some body))) (Pooled.event,event)
        (some request)
        (kind,ref) = Function.update borrowed (Pooled.reader,reader) (some (some body)) (kind,ref) :=
    Function.update_of_ne (fun same => differs (congrArg Prod.fst same)) _ _
  have distinct : (Pooled.body,body) ≠ (Pooled.reader,reader) := by simp
  have keptBody : Function.update borrowed (Pooled.reader,reader) (some (some body)) (Pooled.body,body) = some read :=
    (Function.update_of_ne distinct _ _).trans ownBody
  refine .load _ (some body) _ ((own .reader reader nofun _).trans (Function.update_self _ _ _)) ?_
  refine .load _ read _ ((own .body body nofun _).trans keptBody) ?_
  refine .load _ _ _ (Function.update_self _ _ _) ?_
  refine .store _ _ _ _ (Function.update_self _ _ _) ?_
  rw [Function.update_idem]
  refine Simulates.weaken (afterDecode_simulates ((own .body body nofun _).trans keptBody)
    (Function.update_self _ _ _)) ?_
  exact fun after same => ⟨_,same⟩

theorem transactionHandler_simulates :
    Simulates Cleaned (· = borrowed) borrowed (transactionHandler libs codec) (plainHandler libs codec) := by
  refine Simulates.borrow (fun _ => rfl) ?_
  intro body old _ clean
  cases clean
  refine .passed _ _ _ ?_
  rintro ⟨read,failure⟩
  refine .load _ _ _ (Function.update_self _ _ _) ?_
  refine .store _ _ _ _ (Function.update_self _ _ _) ?_
  rw [Function.update_idem]
  cases failure with
  | some err => exact Simulates.weaken (writeJSON_simulates 400 _) fun after same => ⟨_,same⟩
  | none => exact Simulates.weaken (afterRead_simulates (Function.update_self _ _ _)) fun after same => ⟨_,same⟩

theorem newObject_cleaned (kind : Pooled) : Cleaned kind (newObject kind) := by
  cases kind <;> trivial

end refinement

section runs
variable {σ ι : Type} [DecidableEq ι] {libs : Libraries} {codec : JsonCodec} {env : Environment σ HandlerCall.Reply}
  {initial : σ × Heap Content}
    {history : List (Interleaving.Event ι (Extended HandlerCall.Reply (PoolReply Content)) Unit)}
  {system : Interleaving.System (σ × Heap Content) ι (Extended HandlerCall.Reply (PoolReply Content)) Unit} {i : ι}

/-- A run of the handler for any number of requests at once, with the collector at work. -/
abbrev HandlerRun (libs : Libraries) (codec : JsonCodec) (env : Environment σ HandlerCall.Reply)
    (initial : σ × Heap Content)
    (history : List (Interleaving.Event ι (Extended HandlerCall.Reply (PoolReply Content)) Unit))
    (system : Interleaving.System (σ × Heap Content) ι (Extended HandlerCall.Reply (PoolReply Content)) Unit) : Prop :=
  Interleaving.Run (Pools.Answers newObject env) Collects (fun _ => transactionHandler libs codec) (.initial initial)
    history system

/-- What the pools may hold when a run begins. -/
def CleanPools (heap : Heap Content) : Prop :=
  ∀ object ∈ heap.free, object ∈ heap.used ∧ Cleaned object.1 (heap.contents object)

/-- What one request reads, publishes and answers. -/
abbrev requestCalls (i : ι)
    (history : List (Interleaving.Event ι (Extended HandlerCall.Reply (PoolReply Content)) Unit)) :
    List ((op : HandlerCall) × op.Reply) := visible (Interleaving.ownCalls i history)

/-- The pools cannot be noticed: whatever requests are handled at the same time, each of them
behaves as the handler that shares nothing. -/
theorem pooled_handler_plain (pools : CleanPools initial.2) (run : HandlerRun libs codec env initial history system)
    (returned : system.threads i = .returned ()) : Trace (plainHandler libs codec) (requestCalls i history) () :=
  run_plain newObject_cleaned (fun _ => transactionHandler_simulates) pools run returned

section sample

/-- A body that names every field of the sample request, and one that leaves out the currency. -/
def wholeBody : Bytes := text "whole"

def partBody : Bytes := text "part"

-- As `Decode` does, it leaves alone what the body does not name.
def sampleCodec : JsonCodec where
  decode event body :=
    ({sampleRequest with currency := if body = wholeBody then sampleRequest.currency else event.currency},
      .ok body.length)
  encode
    | .event event => .ok event.eventID
    | .error _ => .ok (text "missing required fields")

def sampleIngested : Event where
  eventID := #v[0x6b,0xa7,0xb8,0x10,0x9d,0xad,0x11,0xd1,0x80,0xb4,0x00,0xc0,0x4f,0xd4,0x30,0xc8]
  tenantID := text "acme"
  schemaVersion := 1
  instrument := text "AAPL"
  side := Ledger.sideBuy
  quantity := 150000000
  price := 1234500000
  currency := text "USD"
  occurredAt := ⟨1704164645000000000,0⟩

def wholeCalls : List ((op : HandlerCall) × op.Reply) :=
  [⟨.readBody,(wholeBody,none)⟩,⟨.publish sampleIngested,none⟩,⟨.respond 202 sampleRequest.eventID,()⟩]

-- Had the currency of the other request shown, this one would have been accepted.
def partCalls : List ((op : HandlerCall) × op.Reply) :=
  [⟨.readBody,(partBody,none)⟩,⟨.respond 400 (text "missing required fields"),()⟩]

def anything : Environment Unit HandlerCall.Reply := fun _ _ _ _ => True

def emptyPools : Heap Content := ⟨fun object => newObject object.1,∅,∅⟩

theorem emptyPools_clean : CleanPools emptyPools := fun _ member => member.elim

abbrev Handled (s : Unit × Heap Content) (calls : List ((op : _) × Extended HandlerCall.Reply (PoolReply Content) op))
    (t : Unit × Heap Content) : Prop :=
  Advances (Pools.Answers newObject anything) s (transactionHandler standard sampleCodec) calls t (.done ())

def TakesFirst (calls : List ((op : _) × Extended HandlerCall.Reply (PoolReply Content) op)) : Prop :=
  ∀ kind, ⟨.inr (.get kind),(0 : Nat)⟩ ∈ calls

/-- What the first request leaves in the pools. -/
def FirstBack (heap : Heap Content) : Prop := ∀ kind, (kind,0) ∈ heap.free ∧ Cleaned kind (heap.contents (kind,0))

theorem whole_request_handled : ∃ calls final, Handled ((),emptyPools) calls final ∧ FirstBack final.2 ∧
    TakesFirst calls ∧ visible calls = wholeCalls := by
  -- The pools are empty: what the request borrows is made, and put back cleared.
  have accepted : Handled ((),emptyPools) _ _ :=
    .call (Answers.made Pooled.body 0 id) <|
    .call (Answers.passed HandlerCall.readBody (wholeBody,none) () trivial) <|
    .call (Answers.loaded (Pooled.body,0)) <| .call (Answers.stored (Pooled.body,0) _) <|
    .call (Answers.made Pooled.reader 0 (by simp [emptyPools])) <| .call (Answers.stored (Pooled.reader,0) _) <|
    .call (Answers.made Pooled.event 0 (by simp [emptyPools])) <| .call (Answers.loaded (Pooled.reader,0)) <|
    .call (Answers.loaded (Pooled.body,0)) <| .call (Answers.loaded (Pooled.event,0)) <|
    .call (Answers.stored (Pooled.event,0) _) <| .call (Answers.loaded (Pooled.body,0)) <|
    .call (Answers.loaded (Pooled.event,0)) <|
    .call (Answers.passed (HandlerCall.publish sampleIngested) none () trivial) <|
    .call (Answers.loaded (Pooled.event,0)) <| .call (Answers.made Pooled.response 0 (by simp [emptyPools])) <|
    .call (Answers.loaded (Pooled.response,0)) <| .call (Answers.stored (Pooled.response,0) _) <|
    .call (Answers.loaded (Pooled.response,0)) <|
    .call (Answers.passed (HandlerCall.respond 202 sampleRequest.eventID) () () trivial) <|
    .call (Answers.loaded (Pooled.response,0)) <| .call (Answers.stored (Pooled.response,0) _) <|
    .call (Answers.put (Pooled.response,0)) <| .call (Answers.loaded (Pooled.event,0)) <|
    .call (Answers.stored (Pooled.event,0) _) <| .call (Answers.put (Pooled.event,0)) <|
    .call (Answers.put (Pooled.reader,0)) <| .call (Answers.loaded (Pooled.body,0)) <|
    .call (Answers.stored (Pooled.body,0) _) <| .call (Answers.put (Pooled.body,0)) <| .start _ _
  refine ⟨_,_,accepted,fun kind => ⟨?_,?_⟩,fun kind => ?_,rfl⟩
  · cases kind <;> simp
  · cases kind <;> first | rfl | trivial
  · cases kind <;> simp

theorem loaded_as {s : Unit × Heap Content} (object : Pooled × Nat) (value : Content object.1)
    (same : s.2.contents object = value) : Answers newObject anything s (.inr (.load object)) value s :=
  same ▸ .loaded object

theorem part_request_handled {heap : Heap Content} (back : FirstBack heap) :
    ∃ calls final, Handled ((),heap) calls final ∧ TakesFirst calls ∧ visible calls = partCalls := by
  have free (kind : Pooled) : (kind,0) ∈ heap.free := (back kind).1
  have clean (kind : Pooled) : Cleaned kind (heap.contents (kind,0)) := (back kind).2
  -- Each object is the one that was put back; the event comes without the currency it had.
  have rejected : Handled ((),heap) _ _ :=
    .call (Answers.reused Pooled.body 0 (by simp [free])) <|
    .call (Answers.passed HandlerCall.readBody (partBody,none) () trivial) <|
    .call (loaded_as (Pooled.body,0) ([] : Bytes) (by exact clean .body)) <|
    .call (Answers.stored (Pooled.body,0) _) <| .call (Answers.reused Pooled.reader 0 (by simp [free])) <|
    .call (Answers.stored (Pooled.reader,0) _) <| .call (Answers.reused Pooled.event 0 (by simp [free])) <|
    .call (Answers.loaded (Pooled.reader,0)) <| .call (Answers.loaded (Pooled.body,0)) <|
    .call (loaded_as (Pooled.event,0) TransactionEventRequest.zero (by exact clean .event)) <|
    .call (Answers.stored (Pooled.event,0) _) <| .call (Answers.loaded (Pooled.body,0)) <|
    .call (Answers.loaded (Pooled.event,0)) <| .call (Answers.reused Pooled.response 0 (by simp [free])) <|
    .call (loaded_as (Pooled.response,0) ([] : Bytes) (by exact clean .response)) <|
    .call (Answers.stored (Pooled.response,0) _) <| .call (Answers.loaded (Pooled.response,0)) <|
    .call (Answers.passed (HandlerCall.respond 400 (text "missing required fields")) () () trivial) <|
    .call (Answers.loaded (Pooled.response,0)) <| .call (Answers.stored (Pooled.response,0) _) <|
    .call (Answers.put (Pooled.response,0)) <| .call (Answers.loaded (Pooled.event,0)) <|
    .call (Answers.stored (Pooled.event,0) _) <| .call (Answers.put (Pooled.event,0)) <|
    .call (Answers.put (Pooled.reader,0)) <| .call (Answers.loaded (Pooled.body,0)) <|
    .call (Answers.stored (Pooled.body,0) _) <| .call (Answers.put (Pooled.body,0)) <| .start _ _
  refine ⟨_,_,rejected,fun kind => ?_,rfl⟩
  cases kind <;> simp

/-- One request after the other, the second with the objects that the first has put back. -/
theorem two_requests_run : ∃ history system, HandlerRun standard sampleCodec anything ((),emptyPools) history system ∧
    (∀ i : Bool, system.threads i = .returned () ∧ TakesFirst (Interleaving.ownCalls i history)) ∧
    requestCalls false history = wholeCalls ∧ requestCalls true history = partCalls := by
  obtain ⟨calls,⟨⟨⟩,middle⟩,accepted,back,taken,whole⟩ := whole_request_handled
  obtain ⟨later,final,rejected,again,part⟩ := part_request_handled back
  have empty : HandlerRun (ι := Bool) standard sampleCodec anything ((),emptyPools) [] _ := .start
  obtain ⟨next,first,shared,done,others⟩ := empty.whole false accepted rfl rfl
  obtain ⟨last,run,_,second,kept⟩ := first.whole true rejected shared ((others true nofun).trans rfl)
  refine ⟨_,last,run,?_,?_,?_⟩
  · intro i
    rw [Interleaving.ownCalls_whole,Interleaving.ownCalls_whole]
    cases i
    · exact ⟨(kept false nofun).trans done,by simpa [Interleaving.ownCalls] using taken⟩
    · exact ⟨second,again⟩
  · rw [requestCalls,Interleaving.ownCalls_whole,Interleaving.ownCalls_whole]
    simpa [Interleaving.ownCalls] using whole
  · rw [requestCalls,Interleaving.ownCalls_whole,Interleaving.ownCalls_whole]
    exact part

theorem two_requests_plain : CleanPools emptyPools ∧
    ∃ history system, HandlerRun standard sampleCodec anything ((),emptyPools) history system ∧
      (∀ i : Bool, TakesFirst (Interleaving.ownCalls i history) ∧
        Trace (plainHandler standard sampleCodec) (requestCalls i history) ()) ∧
      requestCalls false history = wholeCalls ∧ requestCalls true history = partCalls := by
  obtain ⟨history,system,run,each,calls⟩ := two_requests_run
  exact ⟨emptyPools_clean,history,system,run,
    fun i => ⟨(each i).2,pooled_handler_plain emptyPools_clean run (each i).1⟩,calls⟩

end sample

/-- The body of a request is read, decodes to one event with nothing but white space after it, and
passes the checks. -/
def Accepts (libs : Libraries) (codec : JsonCodec) (answer : Bytes × Option Error) (request : TransactionEventRequest)
    (event : Event) : Prop :=
  answer.2 = none ∧ ∃ offset, codec.decode .zero answer.1 = (request,.ok offset) ∧
    isJSONWhitespace (answer.1.drop offset) = true ∧ request.validate libs = .ok () ∧
    request.toIngestionEvent libs = .ok event

/-- What is sent for a value that is written with a status: 500 if it cannot be encoded. -/
inductive Shown (codec : JsonCodec) (status : Nat) (value : ResponseValue) : Nat → Bytes → Prop
  | encoded (body : Bytes) (encodes : codec.encode value = .ok body) : Shown codec status value status body
  | failed (err : Error) (fails : codec.encode value = .error err) :
      Shown codec status value 500 (text "internal server error\n")

/-- The ways a request can go. -/
inductive Answered (libs : Libraries) (codec : JsonCodec) : List ((op : HandlerCall) × op.Reply) → Prop
  | rejected (answer : Bytes × Option Error) (message : Error) (status : Nat) (body : Bytes)
      (unacceptable : ∀ request event, ¬Accepts libs codec answer request event)
      (told : Shown codec 400 (.error message) status body) :
      Answered libs codec [⟨.readBody,answer⟩,⟨.respond status body,()⟩]
  | published (answer : Bytes × Option Error) (request : TransactionEventRequest) (event : Event) (status : Nat)
      (body : Bytes) (acceptable : Accepts libs codec answer request event)
      (told : Shown codec 202 (.event request) status body) :
      Answered libs codec [⟨.readBody,answer⟩,⟨.publish event,none⟩,⟨.respond status body,()⟩]
  | unpublished (answer : Bytes × Option Error) (request : TransactionEventRequest) (event : Event) (err : Error)
      (status : Nat) (body : Bytes) (acceptable : Accepts libs codec answer request event)
      (told : Shown codec 503 (.error notPublished) status body) :
      Answered libs codec [⟨.readBody,answer⟩,⟨.publish event,some err⟩,⟨.respond status body,()⟩]

theorem plainJSON_trace {status : Nat} {value : ResponseValue} {calls : List ((op : HandlerCall) × op.Reply)}
    (trace : Trace (plainJSON codec status value) calls ()) :
    ∃ shown body, calls = [⟨.respond shown body,()⟩] ∧ Shown codec status value shown body := by
  unfold plainJSON at trace
  cases encoded : codec.encode value with
  | error err =>
    rw [encoded] at trace
    cases trace with
    | call _ rest =>
      cases rest
      exact ⟨500,_,rfl,.failed err encoded⟩
  | ok body =>
    rw [encoded] at trace
    cases trace with
    | call _ rest =>
      cases rest
      exact ⟨status,body,rfl,.encoded body encoded⟩

theorem rejected_trace {answer : Bytes × Option Error} {message : Error} {calls : List ((op : HandlerCall) × op.Reply)}
    (trace : Trace (plainJSON codec 400 (.error message)) calls ())
    (unacceptable : ∀ request event, ¬Accepts libs codec answer request event) :
    Answered libs codec (⟨.readBody,answer⟩::calls) := by
  obtain ⟨shown,body,rfl,told⟩ := plainJSON_trace trace
  exact .rejected answer message shown body unacceptable told

/-- A body that decodes to a request is accepted only as that request. -/
theorem Accepts.decoded {read : Bytes} {request other : TransactionEventRequest} {event : Event}
    {result : Except Error Nat} (accepted : Accepts libs codec (read,none) other event)
    (decoded : codec.decode .zero read = (request,result)) :
    other = request ∧ ∃ offset, result = .ok offset ∧ isJSONWhitespace (read.drop offset) = true := by
  obtain ⟨_,offset,same,only,_⟩ := accepted
  rw [decoded] at same
  cases same
  exact ⟨rfl,offset,rfl,only⟩

theorem plainDecoded_answers {read : Bytes} {request : TransactionEventRequest} {offset : Nat}
    {calls : List ((op : HandlerCall) × op.Reply)} (decoded : codec.decode .zero read = (request,.ok offset))
    (only : isJSONWhitespace (read.drop offset) = true) (trace : Trace (plainDecoded libs codec request) calls ()) :
    Answered libs codec (⟨.readBody,(read,none)⟩::calls) := by
  unfold plainDecoded at trace
  cases valid : request.validate libs with
  | error err =>
    rw [valid] at trace
    refine rejected_trace trace ?_
    intro other event accepted
    obtain ⟨rfl,_⟩ := accepted.decoded decoded
    obtain ⟨_,_,_,_,passes,_⟩ := accepted
    rw [valid] at passes
    cases passes
  | ok value =>
    cases converted : request.toIngestionEvent libs with
    | error err =>
      rw [valid,converted] at trace
      refine rejected_trace trace ?_
      intro other event accepted
      obtain ⟨rfl,_⟩ := accepted.decoded decoded
      obtain ⟨_,_,_,_,_,converts⟩ := accepted
      rw [converted] at converts
      cases converts
    | ok event =>
      rw [valid,converted] at trace
      have acceptable : Accepts libs codec (read,none) request event := ⟨rfl,offset,decoded,only,valid,converted⟩
      cases trace with
      | call failure rest =>
        cases failure with
        | some err =>
          obtain ⟨shown,body,rfl,told⟩ := plainJSON_trace rest
          exact .unpublished _ _ _ _ _ _ acceptable told
        | none =>
          obtain ⟨shown,body,rfl,told⟩ := plainJSON_trace rest
          exact .published _ _ _ _ _ acceptable told

theorem plainHandler_answers {calls : List ((op : HandlerCall) × op.Reply)}
    (trace : Trace (plainHandler libs codec) calls ()) :
    Answered libs codec calls := by
  cases trace with
  | call answer rest =>
    obtain ⟨read,failure⟩ := answer
    cases failure with
    | some err => exact rejected_trace rest fun _ _ accepted => nomatch accepted.1
    | none =>
      change Trace (plainBody libs codec read) _ _ at rest
      unfold plainBody at rest
      rcases decoded : codec.decode .zero read with ⟨request,result⟩
      rw [decoded] at rest
      cases result with
      | error err =>
        refine rejected_trace rest ?_
        intro other event accepted
        obtain ⟨_,_,impossible,_⟩ := accepted.decoded decoded
        cases impossible
      | ok offset =>
        change Trace (if isJSONWhitespace (read.drop offset) = true then plainDecoded libs codec request
          else plainJSON codec 400 (.error trailingData)) _ _ at rest
        by_cases only : isJSONWhitespace (read.drop offset) = true
        · rw [if_pos only] at rest
          exact plainDecoded_answers decoded only rest
        · rw [if_neg only] at rest
          refine rejected_trace rest ?_
          intro other event accepted
          obtain ⟨_,_,same,white⟩ := accepted.decoded decoded
          cases same
          exact only white

/-- In any interleaving, a request publishes at most one event, the one that its own body decodes
to, and does so exactly when that body passes the checks; it is answered once, and told 202 only
after the publisher has taken the event. -/
theorem rest_answers_own_body (pools : CleanPools initial.2) (run : HandlerRun libs codec env initial history system)
    (returned : system.threads i = .returned ()) : Answered libs codec (requestCalls i history) :=
  plainHandler_answers (run_plain newObject_cleaned (fun _ => transactionHandler_simulates) pools run returned)

theorem two_requests_answered : CleanPools emptyPools ∧
    ∃ history system, HandlerRun standard sampleCodec anything ((),emptyPools) history system ∧
      (∀ i : Bool, TakesFirst (Interleaving.ownCalls i history) ∧ Answered standard sampleCodec
        (requestCalls i history)) ∧
      requestCalls false history = wholeCalls ∧ requestCalls true history = partCalls := by
  obtain ⟨history,system,run,each,calls⟩ := two_requests_run
  exact ⟨emptyPools_clean,history,system,run,
    fun i => ⟨(each i).2,rest_answers_own_body emptyPools_clean run (each i).1⟩,calls⟩

end runs

end ControlPlane.Api
