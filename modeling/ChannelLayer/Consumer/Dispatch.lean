/-
**Dispatching one raw message: `BaseConsumer.handle_message` and the standard stages.**

`handle_message` hands the raw text to `json.loads`, a library function; the model starts from
the document it returned, `none` when it raised `JSONDecodeError`. `parseEnvelope` is the code
from there to the `Message`, `Stage.process` the `process` methods of `AuthenticationMiddleware`,
`RateLimitMiddleware`, `ValidationMiddleware` and `LoggingMiddleware`, and `runStages` the loop
over them of core `handle_message`. `fastapi_channel` links the same stages into
`middleware_stack` and calls its head (`Stage.chain`, `callStack`). A stage's own state, the rate
limiter's buckets, is passed on explicitly, also past an exception, as Python's mutation is.
`Message(...)` reads `time.time()` for its `created_at` (`Context.created`); the stages read the
clock again, later (`Context.now`).

* `parseEnvelope_eq_error_iff`: parsing raises `ValidationError` with code `INVALID_JSON` exactly
  when `json.loads` failed, `AttributeError` exactly when the document is not an object, and
  `TypeError` exactly when an object that is not a pong has a list or a dict as its priority;
* `Stage.process_error`, `runStages_error`: a stage raises `TypeError` (hashing a list or a dict
  type, comparing a non-number TTL), `ZeroDivisionError`, `OverflowError` or `ValueError` (the
  limiter's and the expiry test's `float` arithmetic), or one of `AuthenticationError`,
  `RateLimitError` and a `ValidationError` with its default code;
* `handleMessage_array_raises_attributeError`: the JSON text `[]` makes both versions of
  `handle_message` raise `AttributeError`, and a list as priority or, before
  `AuthenticationMiddleware`, as type makes them raise `TypeError`; what it raises otherwise
  (`handleMessage_error`), and that `INVALID_JSON` is raised exactly for text that is not JSON;
* `Stage.process_result`, `Stage.process_passes`, `runStages_passes`: a stage returns its input,
  `None`, or raises, so a message leaving the stages is the one that entered them, passed by
  every stage;
* `Stage.chain_call`, `handleMessage_eq_runStages`: the chain `middleware_stack` computes what
  `runStages` returns, so the two versions run the same stages;
* `anonymous_receives_only_ping_or_connect`: on a connection with no user, with
  `AuthenticationMiddleware` anywhere among the stages, `receive` gets only `ping` and `connect`;
* `received_within_validation`: with `ValidationMiddleware` anywhere among the stages, `receive`
  gets only messages within its size limit and not expired at the dispatch's clock reading;
* `handleMessageCore_eq_catch`: the two versions differ only in the errors core answers.
-/

import ChannelLayer.Middleware.Chain
import ChannelLayer.Middleware.RateLimit

namespace ChannelLayer

/-! ## Connections and stages -/

/-- The attributes of a `Connection` that the dispatch reads. -/
structure Connection where
  userId : Option String
  channelName : Option String
  id : String

/-- A string attribute read through `getattr(..., None)`, when it is truthy. -/
def truthy (field : Option String) : Option String :=
  field.filter fun value => value != ""

/-- `value in {...}` for a set literal of strings. The set hashes `value`, so a list or a dict
raises `TypeError`; any other value is in the set exactly when it is one of its strings. -/
def memStrings (names : List String) : Value → Except PyError Bool
  | .list _ => .error .typeError
  | .dict _ => .error .typeError
  | .str s => .ok (names.contains s)
  | _ => .ok false

theorem memStrings_eq_error_iff (names : List String) (value : Value) (error : PyError) :
    memStrings names value = .error error ↔ value.hashable = false ∧ error = .typeError := by
  unfold memStrings
  split <;> simp [Value.hashable, eq_comm]

/-- `AuthenticationMiddleware.process`: heartbeats and `connect` pass, any other message needs a
truthy `user_id`. -/
def AuthenticationMiddleware.process (connection : Connection) (message : Message) :
    Except PyError (Option Message) :=
  match memStrings ["ping", "pong", "connect"] message.type with
  | .error error => .error error
  | .ok true => .ok (some message)
  | .ok false =>
    if (truthy connection.userId).isNone then .error .authenticationError else .ok (some message)

/-- A `RateLimitMiddleware`: whether it is enabled, and its limiter. -/
structure RateLimitMiddleware where
  enabled : Bool
  limiter : TokenBucketRateLimiter

/-- `getattr(connection, "channel_name", None) or getattr(connection, "id", "unknown")`. -/
def rateLimitKey (connection : Connection) : String :=
  (truthy connection.channelName).getD connection.id

/-- `RateLimitMiddleware.process`, with the middleware after it: a denied call has already stored
its bucket when `RateLimitError` is raised. -/
def RateLimitMiddleware.process (self : RateLimitMiddleware) (connection : Connection) (now : ℚ)
    (message : Message) : Except PyError (Option Message) × RateLimitMiddleware :=
  if !self.enabled then (.ok (some message), self)
  else
    match memStrings ["ping", "pong"] message.type with
    | .error error => (.error error, self)
    | .ok true => (.ok (some message), self)
    | .ok false =>
      match self.limiter.allow (rateLimitKey connection) now with
      | .error error => (.error error, self)
      | .ok (true, limiter) => (.ok (some message), { self with limiter })
      | .ok (false, limiter) => (.error .rateLimitError, { self with limiter })

/-- A `ValidationMiddleware`. -/
structure ValidationMiddleware where
  maxMessageSize : ℕ

/-- `ValidationMiddleware.process`, with `size` the length of `json.dumps(message.to_dict())`.
Whatever `json.dumps` raises, the `try` turns it into a `ValidationError`; the expiry test comes
after the `try`. -/
def ValidationMiddleware.process (self : ValidationMiddleware) (size : ℕ) (now : ℚ)
    (message : Message) : Except PyError (Option Message) :=
  if self.maxMessageSize < size then .error (.validationError none)
  else
    match message.isExpired now with
    | .error error => .error error
    | .ok true => .ok none
    | .ok false => .ok (some message)

/-- The standard stages. `LoggingMiddleware` only logs. -/
inductive Stage where
  | authentication
  | rateLimit (middleware : RateLimitMiddleware)
  | validation (middleware : ValidationMiddleware)
  | logging

/-- What one dispatch reads besides the message: the connection; `created`, the `time.time()`
reading `Message(...)` stores as `created_at`; `now`, the later reading at which the stages call
`time.time()` (in `is_expired` and in `allow`); and the length of
`json.dumps(message.to_dict())`. -/
structure Context where
  connection : Connection
  created : ℚ
  now : ℚ
  encodedLength : Message → ℕ

/-- A stage's `process`, with the stage after it. -/
def Stage.process (context : Context) :
    Stage → Message → Except PyError (Option Message) × Stage
  | .authentication, message => (AuthenticationMiddleware.process context.connection message,
      .authentication)
  | .rateLimit middleware, message =>
    ((middleware.process context.connection context.now message).1,
      .rateLimit (middleware.process context.connection context.now message).2)
  | .validation middleware, message =>
    (middleware.process (context.encodedLength message) context.now message, .validation middleware)
  | .logging, message => (.ok (some message), .logging)

/-- The stages in turn, each on what the one before returned, until one returns `None` or raises;
with the stages after. -/
def runStages (context : Context) :
    List Stage → Message → Except PyError (Option Message) × List Stage
  | [], message => (.ok (some message), [])
  | stage :: rest, message =>
    match (stage.process context message).1 with
    | .ok (some processed) =>
      ((runStages context rest processed).1,
        (stage.process context message).2 :: (runStages context rest processed).2)
    | result => (result, (stage.process context message).2 :: rest)

/-- The chain `middleware_stack` of `fastapi_channel` over the stages: each stage's
`next_middleware` is the stage after it. -/
def Stage.chain (context : Context) : Stage → List Stage → Middleware (Except PyError)
  | stage, [] => .mk (fun message => (stage.process context message).1) none
  | stage, next :: rest =>
    .mk (fun message => (stage.process context message).1) (some (next.chain context rest))

/-- `self.middleware_stack` of `fastapi_channel` over the stages: the head of their chain, `None`
when there are none. -/
def middlewareStack (context : Context) : List Stage → Option (Middleware (Except PyError))
  | [] => none
  | stage :: rest => some (stage.chain context rest)

/-- `if self.middleware_stack: message = await self.middleware_stack(message, ...)`: the message
itself when there is no stack. -/
def callStack (context : Context) (stages : List Stage) (message : Message) :
    Except PyError (Option Message) :=
  match middlewareStack context stages with
  | none => .ok (some message)
  | some chain => chain.call message

/-! ## `handle_message` -/

/-- What `handle_message` makes of a parsed document before the stages. -/
inductive Envelope where
  | pong
  | message (message : Message)

/-- `handle_message` from `data = json.loads(raw_message)` to the `Message`, for the document
`json.loads` returned (`none` when it raised `JSONDecodeError`, which is re-raised as a
`ValidationError` with code `INVALID_JSON`), and the clock reading `created` that `created_at`'s
`default_factory=time.time` takes. `data.get` exists only on a dict. -/
def parseEnvelope (senderId : Value) (created : ℚ) : Option Value → Except PyError Envelope
  | none => .error (.validationError (some "INVALID_JSON"))
  | some (.dict data) =>
    match get data "type" (.str "message") with
    | .str "pong" => .ok .pong
    | messageType =>
      (lookupPriority (get data "priority" (.str MessagePriority.normal.value))).map fun priority =>
        .message
        { type := messageType
          data := get data "data" .null
          senderId := senderId
          group := .null
          metadata := get data "metadata" .null
          priority := priority.getD .normal
          ttlSeconds := get data "ttl_seconds" .null
          createdAt := .num created }
  | some _ => .error .attributeError

/-- What a dispatch ends with, when it raises nothing. -/
inductive Handled where
  | pong
  | dropped
  | received (message : Message)
  | errorResponse (error : PyError)

/-- `self.connection.channel_name`, the sender of the messages a connection sends. -/
def Connection.senderId (connection : Connection) : Value :=
  match connection.channelName with
  | some name => .str name
  | none => .null

/-- The result of the stages: `receive` on a message, nothing on `None`. -/
def finish : Option Message → Handled
  | none => .dropped
  | some message => .received message

/-- `BaseConsumer.handle_message` of `fastapi_channel`, for the document `json.loads` returned:
the parsed message goes through `middleware_stack`, and the stages are left as their `process`
methods left them. -/
def handleMessage (context : Context) (stages : List Stage) (document : Option Value) :
    Except PyError Handled × List Stage :=
  match parseEnvelope context.connection.senderId context.created document with
  | .error error => (.error error, stages)
  | .ok .pong => (.ok .pong, stages)
  | .ok (.message message) =>
    ((callStack context stages message).map finish, (runStages context stages message).2)

/-- The exceptions core `BaseConsumer.handle_message` answers with an error response. -/
def caughtByCore : PyError → Bool
  | .authenticationError => true
  | .validationError _ => true
  | .messageError => true
  | _ => false

/-- Core `BaseConsumer.handle_message`: the same, except that an `AuthenticationError`,
`ValidationError` or `MessageError` raised by a stage is sent back as an error response. The
`ValidationError` its `except json.JSONDecodeError` clause raises is not caught by the clause
after it. -/
def handleMessageCore (context : Context) (stages : List Stage) (document : Option Value) :
    Except PyError Handled × List Stage :=
  match parseEnvelope context.connection.senderId context.created document with
  | .error error => (.error error, stages)
  | .ok .pong => (.ok .pong, stages)
  | .ok (.message message) =>
    (match (runStages context stages message).1 with
      | .error error => if caughtByCore error then .ok (.errorResponse error) else .error error
      | .ok result => .ok (finish result),
      (runStages context stages message).2)

/-! ## The chain and the loop -/

/-- The stages' result is their Option-Kleisli composition. -/
theorem runStages_fst_eq_kleisli (context : Context) :
    ∀ (stages : List Stage) (message : Message),
      (runStages context stages message).1 =
        kleisli (stages.map fun stage message => (stage.process context message).1) message
  | [], _ => rfl
  | stage :: rest, message => by
    simp only [runStages, List.map_cons, kleisli]
    cases (stage.process context message).1 with
    | error _ => rfl
    | ok result =>
      cases result with
      | none => rfl
      | some processed => exact runStages_fst_eq_kleisli context rest processed

theorem Stage.chain_stages (context : Context) :
    ∀ (stage : Stage) (rest : List Stage),
      (stage.chain context rest).stages =
        (stage :: rest).map fun stage message => (stage.process context message).1
  | _, [] => rfl
  | _, next :: rest => by
    simp only [Stage.chain, Middleware.stages, Stage.chain_stages context next rest,
      List.map_cons]

/-- **The linked chain computes what the stages return**: `middleware_stack(message, ...)` of
`fastapi_channel` over a chain of the stages is `runStages`. -/
theorem Stage.chain_call (context : Context) (stage : Stage) (rest : List Stage)
    (message : Message) :
    (stage.chain context rest).call message = (runStages context (stage :: rest) message).1 := by
  rw [call_eq_kleisli, Stage.chain_stages, runStages_fst_eq_kleisli]

theorem callStack_eq_runStages (context : Context) (stages : List Stage) (message : Message) :
    callStack context stages message = (runStages context stages message).1 := by
  cases stages with
  | nil => rfl
  | cons stage rest => exact Stage.chain_call context stage rest message

/-- **`handle_message` of `fastapi_channel` computes what core's loop over the stages computes**:
its `middleware_stack` returns what `runStages` returns. -/
theorem handleMessage_eq_runStages (context : Context) (stages : List Stage)
    (document : Option Value) :
    handleMessage context stages document =
      match parseEnvelope context.connection.senderId context.created document with
      | .error error => (.error error, stages)
      | .ok .pong => (.ok .pong, stages)
      | .ok (.message message) =>
        ((runStages context stages message).1.map finish, (runStages context stages message).2) := by
  unfold handleMessage
  cases parseEnvelope context.connection.senderId context.created document with
  | error error => rfl
  | ok envelope =>
    cases envelope with
    | pong => rfl
    | message message => simp only [callStack_eq_runStages]

/-! ## What a dispatch raises -/

/-- The exceptions a standard stage can raise. -/
def StageError (error : PyError) : Prop :=
  error = .typeError ∨ error = .authenticationError ∨ error = .rateLimitError ∨
    error = .zeroDivisionError ∨ error = .overflowError ∨ error = .valueError ∨
    error = .validationError none

theorem isExpired_eq_error {now : ℚ} {message : Message} {error : PyError}
    (raised : message.isExpired now = .error error) :
    error = .typeError ∨ error = .overflowError := by
  unfold Message.isExpired at raised
  repeat' split at raised
  all_goals cases raised <;> simp

theorem allow_eq_error {limiter : TokenBucketRateLimiter} {key : String} {now : ℚ}
    {error : PyError} (raised : limiter.allow key now = .error error) :
    error = .zeroDivisionError ∨ error = .overflowError ∨ error = .valueError := by
  unfold TokenBucketRateLimiter.allow at raised
  cases step : bucketStep limiter.rate limiter.window limiter.burst now (limiter.buckets key) with
  | error stepError =>
    rw [step] at raised
    cases raised
    exact bucketStep_eq_error step
  | ok result =>
    rw [step] at raised
    cases raised

/-- What a standard stage may end with: its input unchanged, `None`, or an exception a stage can
raise. -/
def StageResult (message : Message) : Except PyError (Option Message) → Prop
  | .ok (some processed) => processed = message
  | .ok none => True
  | .error error => StageError error

/-- **What one stage returns.** -/
theorem Stage.process_result (context : Context) (stage : Stage) (message : Message) :
    StageResult message (stage.process context message).1 := by
  cases stage with
  | authentication =>
    simp only [Stage.process, AuthenticationMiddleware.process]
    split
    · next found => exact Or.inl ((memStrings_eq_error_iff _ _ _).mp found).2
    · exact rfl
    · split_ifs
      · exact Or.inr (Or.inl rfl)
      · exact rfl
  | rateLimit middleware =>
    simp only [Stage.process, RateLimitMiddleware.process]
    split_ifs
    · exact rfl
    · split
      · next found => exact Or.inl ((memStrings_eq_error_iff _ _ _).mp found).2
      · exact rfl
      · split
        · next found =>
          rcases allow_eq_error found with rfl | rfl | rfl <;> simp [StageResult, StageError]
        · exact rfl
        · exact Or.inr (Or.inr (Or.inl rfl))
  | validation middleware =>
    simp only [Stage.process, ValidationMiddleware.process]
    split_ifs
    · simp [StageResult, StageError]
    · split
      · next found =>
        rcases isExpired_eq_error found with rfl | rfl <;> simp [StageResult, StageError]
      · trivial
      · exact rfl
  | logging => exact rfl

/-- **What one stage raises.** -/
theorem Stage.process_error (context : Context) (stage : Stage) (message : Message)
    {error : PyError} (raised : (stage.process context message).1 = .error error) :
    StageError error := by
  have result := stage.process_result context message
  rw [raised] at result
  exact result

/-- **What the stages raise**: what one of them raised. -/
theorem runStages_error (context : Context) :
    ∀ (stages : List Stage) (message : Message) {error : PyError},
      (runStages context stages message).1 = .error error → StageError error
  | [], _, _, raised => by cases raised
  | stage :: rest, message, error, raised => by
    simp only [runStages] at raised
    split at raised
    · exact runStages_error context rest _ raised
    · exact stage.process_error context message raised

/-- Whether a value is a dict. -/
def Value.isDict : Value → Bool
  | .dict _ => true
  | _ => false

/-- **What parsing raises**: `ValidationError` with code `INVALID_JSON` exactly when `json.loads`
failed, `AttributeError` exactly for a document that is not an object, and `TypeError` exactly
for an object that is not a pong and whose priority cannot be hashed. -/
theorem parseEnvelope_eq_error_iff (senderId : Value) (now : ℚ) (document : Option Value)
    (error : PyError) :
    parseEnvelope senderId now document = .error error ↔
      (document = none ∧ error = .validationError (some "INVALID_JSON")) ∨
      (∃ value, document = some value ∧ value.isDict = false ∧ error = .attributeError) ∨
      (∃ data, document = some (.dict data) ∧
        get data "type" (.str "message") ≠ .str "pong" ∧
        (get data "priority" (.str MessagePriority.normal.value)).hashable = false ∧
        error = .typeError) := by
  rcases document with _ | value
  · constructor
    · rintro ⟨⟩
      exact .inl ⟨rfl, rfl⟩
    · rintro (⟨-, rfl⟩ | ⟨_, ⟨⟩, _⟩ | ⟨_, ⟨⟩, _⟩)
      rfl
  cases value
  case dict data =>
    simp only [parseEnvelope]
    split
    · next pong =>
      constructor
      · rintro ⟨⟩
      · rintro (⟨⟨⟩, _⟩ | ⟨_, ⟨⟩, ⟨⟩, _⟩ | ⟨_, ⟨⟩, notPong, _⟩)
        exact absurd pong notPong
    · next notPong =>
      cases found : lookupPriority (get data "priority" (.str MessagePriority.normal.value)) with
      | error priorityError =>
        obtain ⟨unhashable, rfl⟩ := (lookupPriority_eq_error_iff _ _).mp found
        constructor
        · rintro ⟨⟩
          exact .inr (.inr ⟨data, rfl, notPong, unhashable, rfl⟩)
        · rintro (⟨⟨⟩, _⟩ | ⟨_, ⟨⟩, ⟨⟩, _⟩ | ⟨_, ⟨⟩, -, -, rfl⟩)
          rfl
      | ok priority =>
        constructor
        · rintro ⟨⟩
        · rintro (⟨⟨⟩, _⟩ | ⟨_, ⟨⟩, ⟨⟩, _⟩ | ⟨_, ⟨⟩, -, unhashable, -⟩)
          have raised := (lookupPriority_eq_error_iff _ .typeError).mpr ⟨unhashable, rfl⟩
          rw [found] at raised
          cases raised
  all_goals
    constructor
    · rintro ⟨⟩
      exact .inr (.inl ⟨_, rfl, rfl, rfl⟩)
    · rintro (⟨⟨⟩, _⟩ | ⟨_, ⟨⟩, _, rfl⟩ | ⟨_, ⟨⟩, _⟩)
      rfl

/-- **What `handle_message` raises**: the `INVALID_JSON` error for text that is not JSON,
`AttributeError` for a document that is not an object, or an exception a stage can raise. -/
theorem handleMessage_error (context : Context) (stages : List Stage) (document : Option Value)
    {error : PyError} (raised : (handleMessage context stages document).1 = .error error) :
    (document = none ∧ error = .validationError (some "INVALID_JSON")) ∨
      (∃ value, document = some value ∧ value.isDict = false ∧ error = .attributeError) ∨
      StageError error := by
  rw [handleMessage_eq_runStages] at raised
  split at raised
  · next parsed =>
    cases raised
    rcases (parseEnvelope_eq_error_iff _ _ _ _).mp parsed with
      invalid | notObject | ⟨-, -, -, -, rfl⟩
    exacts [.inl invalid, .inr (.inl notObject), .inr (.inr (.inl rfl))]
  · cases raised
  · next message _ =>
    cases found : (runStages context stages message).1 with
    | error stageError =>
      rw [found] at raised
      cases raised
      exact .inr (.inr (runStages_error context stages message found))
    | ok result =>
      rw [found] at raised
      cases raised

/-- **`INVALID_JSON` is raised exactly for text that is not JSON.** -/
theorem handleMessage_invalidJson_iff (context : Context) (stages : List Stage)
    (document : Option Value) :
    (handleMessage context stages document).1 = .error (.validationError (some "INVALID_JSON")) ↔
      document = none := by
  refine ⟨fun raised => ?_, fun absent => absent ▸ rfl⟩
  rcases handleMessage_error context stages document raised with
    ⟨absent, -⟩ | ⟨-, -, -, ⟨⟩⟩ | (⟨⟨⟩⟩ | ⟨⟨⟩⟩ | ⟨⟨⟩⟩ | ⟨⟨⟩⟩ | ⟨⟨⟩⟩ | ⟨⟨⟩⟩ | ⟨⟨⟩⟩)
  exact absent

/-- **The JSON text `[]` makes `handle_message` raise `AttributeError`**: `json.loads("[]")` is a
list, which has no `get`, and neither version catches the exception. A list as priority, or as
type in front of `AuthenticationMiddleware`, makes it raise `TypeError` in the same way. What
`handle_message` raises is the `INVALID_JSON` error, raised exactly for text that is not JSON,
`AttributeError` for a document that is not an object, or an exception a stage can raise. -/
theorem handleMessage_array_raises_attributeError (context : Context) (stages : List Stage) :
    handleMessage context stages (some (.list [])) = (.error .attributeError, stages) ∧
      handleMessageCore context stages (some (.list [])) = (.error .attributeError, stages) ∧
      handleMessage context stages (some (.dict [("priority", .list [])])) =
        (.error .typeError, stages) ∧
      (handleMessage context [.authentication] (some (.dict [("type", .list [])]))).1 =
        .error .typeError ∧
      (∀ (document : Option Value) (error : PyError),
        (handleMessage context stages document).1 = .error error →
          (document = none ∧ error = .validationError (some "INVALID_JSON")) ∨
          (∃ value, document = some value ∧ value.isDict = false ∧ error = .attributeError) ∨
          StageError error) ∧
      ∀ document : Option Value,
        (handleMessage context stages document).1 =
            .error (.validationError (some "INVALID_JSON")) ↔ document = none :=
  ⟨rfl, rfl, rfl, rfl, fun document _ => handleMessage_error context stages document,
    handleMessage_invalidJson_iff context stages⟩

/-! ## What reaches `receive` -/

theorem memStrings_eq_ok_true {names : List String} {value : Value}
    (found : memStrings names value = .ok true) : ∃ name ∈ names, value = .str name := by
  cases value with
  | str name => exact ⟨name, by simpa [memStrings] using found, rfl⟩
  | _ => simp [memStrings] at found

/-- **A stage returns its input, returns `None`, or raises**: no standard stage changes a
message. -/
theorem Stage.process_passes {context : Context} {stage : Stage} {message passed : Message}
    (ok : (stage.process context message).1 = .ok (some passed)) : passed = message := by
  have result := stage.process_result context message
  rw [ok] at result
  exact result

/-- **On a connection with no user, authentication passes only heartbeats and `connect`.** -/
theorem AuthenticationMiddleware.process_anonymous {connection : Connection}
    {message passed : Message} (anonymous : truthy connection.userId = none)
    (ok : AuthenticationMiddleware.process connection message = .ok (some passed)) :
    ∃ name ∈ ["ping", "pong", "connect"], message.type = .str name := by
  unfold AuthenticationMiddleware.process at ok
  split at ok
  · cases ok
  · next found => exact memStrings_eq_ok_true found
  · simp [anonymous] at ok

/-- **A message that leaves the stages is the one that entered them, and every stage passed
it.** -/
theorem runStages_passes (context : Context) :
    ∀ (stages : List Stage) (message : Message) {passed : Message},
      (runStages context stages message).1 = .ok (some passed) →
      passed = message ∧ ∀ stage ∈ stages, (stage.process context message).1 = .ok (some message)
  | [], message, passed, ok => by
    cases ok
    exact ⟨rfl, by simp⟩
  | stage :: rest, message, passed, ok => by
    simp only [runStages] at ok
    split at ok
    · next processed found =>
      obtain rfl := Stage.process_passes found
      obtain ⟨rfl, later⟩ := runStages_passes context rest processed ok
      exact ⟨rfl, List.forall_mem_cons.mpr ⟨found, later⟩⟩
    · next notPassed => exact absurd ok (notPassed passed)

/-- Parsing never makes a `Message` of type `pong`: a pong returns before the stages. -/
theorem parseEnvelope_message_type {senderId : Value} {created : ℚ} {document : Option Value}
    {message : Message} (parsed : parseEnvelope senderId created document = .ok (.message message)) :
    message.type ≠ .str "pong" := by
  unfold parseEnvelope at parsed
  split at parsed <;> try cases parsed
  split at parsed
  · cases parsed
  · next notPong =>
    cases found : lookupPriority (get _ "priority" (.str MessagePriority.normal.value)) <;>
      rw [found] at parsed <;> cases parsed
    exact notPong

theorem handleMessage_received {context : Context} {stages : List Stage}
    {document : Option Value} {message : Message}
    (received : (handleMessage context stages document).1 = .ok (.received message)) :
    ∃ parsed, parseEnvelope context.connection.senderId context.created document =
      .ok (.message parsed) ∧ (runStages context stages parsed).1 = .ok (some message) := by
  rw [handleMessage_eq_runStages] at received
  split at received <;> try cases received
  next parsed parsing =>
    refine ⟨parsed, parsing, ?_⟩
    rcases result : (runStages context stages parsed).1 with _ | _ | passed <;>
      rw [result] at received <;> cases received
    rfl

theorem handleMessageCore_received {context : Context} {stages : List Stage}
    {document : Option Value} {message : Message}
    (received : (handleMessageCore context stages document).1 = .ok (.received message)) :
    ∃ parsed, parseEnvelope context.connection.senderId context.created document =
      .ok (.message parsed) ∧ (runStages context stages parsed).1 = .ok (some message) := by
  unfold handleMessageCore at received
  split at received <;> try cases received
  next parsed parsing =>
    refine ⟨parsed, parsing, ?_⟩
    rcases result : (runStages context stages parsed).1 with _ | _ | passed <;>
      simp only [result] at received
    · split_ifs at received
      cases received
    · cases received
    · cases received
      rfl

/-- **A connection with no user gets only `ping` and `connect` to `receive`**, in both versions
of `handle_message`, whatever the document and wherever `AuthenticationMiddleware` stands among
the stages (linked as `middleware_stack` in `fastapi_channel`, `handleMessage_eq_runStages`): no stage
changes a message, so the message authentication passed is the one `receive` gets, and a pong
returns before the stages. -/
theorem anonymous_receives_only_ping_or_connect (context : Context) (stages : List Stage)
    (document : Option Value) (guarded : Stage.authentication ∈ stages)
    (anonymous : truthy context.connection.userId = none) (message : Message)
    (received : (handleMessage context stages document).1 = .ok (.received message) ∨
      (handleMessageCore context stages document).1 = .ok (.received message)) :
    message.type = .str "ping" ∨ message.type = .str "connect" := by
  obtain ⟨parsed, parsing, passed⟩ :=
    received.elim handleMessage_received handleMessageCore_received
  obtain ⟨rfl, all⟩ := runStages_passes context stages parsed passed
  obtain ⟨name, listed, typed⟩ :=
    AuthenticationMiddleware.process_anonymous anonymous (all .authentication guarded)
  simp only [List.mem_cons, List.mem_singleton, List.not_mem_nil, or_false] at listed
  rcases listed with rfl | rfl | rfl
  · exact .inl typed
  · exact absurd typed (parseEnvelope_message_type parsing)
  · exact .inr typed

theorem anonymous_ping_is_received :
    let context : Context := ⟨⟨none, none, "c"⟩, 0, 0, fun _ => 0⟩
    let ping : Message :=
      { type := .str "ping", data := .null, senderId := .null, group := .null, metadata := .null,
        priority := .normal, ttlSeconds := .null, createdAt := .num 0 }
    Stage.authentication ∈ [Stage.authentication] ∧ truthy context.connection.userId = none ∧
      (handleMessage context [.authentication] (some (.dict [("type", .str "ping")]))).1 =
        .ok (.received ping) ∧
      (ping.type = .str "ping" ∨ ping.type = .str "connect") := by
  intro context ping
  exact ⟨.head _, rfl, rfl, anonymous_receives_only_ping_or_connect context [.authentication]
    (some (.dict [("type", .str "ping")])) (.head _) rfl ping (.inl rfl)⟩

/-- **`receive` never gets a message a validation stage would refuse.** With a
`ValidationMiddleware` anywhere among the stages, a message either version of `handle_message`
hands to `receive` is no longer than its `max_message_size` once encoded, and is not expired at
the clock reading the stages run at (`created_at` is the earlier reading the message was built
at). -/
theorem received_within_validation {context : Context} {stages : List Stage}
    {document : Option Value} {message : Message} {middleware : ValidationMiddleware}
    (validates : Stage.validation middleware ∈ stages)
    (received : (handleMessage context stages document).1 = .ok (.received message) ∨
      (handleMessageCore context stages document).1 = .ok (.received message)) :
    context.encodedLength message ≤ middleware.maxMessageSize ∧
      message.isExpired context.now = .ok false := by
  obtain ⟨parsed, -, passed⟩ := received.elim handleMessage_received handleMessageCore_received
  obtain ⟨rfl, all⟩ := runStages_passes context stages parsed passed
  have accepted := all _ validates
  simp only [Stage.process, ValidationMiddleware.process] at accepted
  split_ifs at accepted with oversize
  refine ⟨Nat.le_of_not_lt oversize, ?_⟩
  split at accepted <;> first | assumption | cases accepted

theorem chat_within_validation :
    let context : Context :=
      ⟨⟨some "alice", some "c", "c"⟩, 1700000000, 1700000001, fun _ => 152⟩
    let chat : Message :=
      { type := .str "chat", data := .null, senderId := .str "c", group := .null,
        metadata := .null, priority := .normal, ttlSeconds := .null,
        createdAt := .num 1700000000 }
    let stages : List Stage := [.authentication, .validation ⟨1024⟩]
    (handleMessage context stages (some (.dict [("type", .str "chat")]))).1 =
        .ok (.received chat) ∧
      context.encodedLength chat ≤ 1024 ∧ chat.isExpired context.now = .ok false := by
  intro context chat stages
  have received : (handleMessage context stages (some (.dict [("type", .str "chat")]))).1 =
      .ok (.received chat) := rfl
  exact ⟨received, @received_within_validation context stages _ chat ⟨1024⟩
    (.tail _ (.head _)) (.inl received)⟩

/-! ## The two versions -/

/-- **The two versions of `handle_message` differ only in the errors core answers.** They parse
alike, run the same stages on the same message and leave the stages in the same state; where
`fastapi_channel`'s raises an `AuthenticationError`, `ValidationError` or `MessageError`, core's
sends it back as an error response, unless the text was not JSON; otherwise they return or raise
the same. -/
theorem handleMessageCore_eq_catch (context : Context) (stages : List Stage)
    (document : Option Value) :
    handleMessageCore context stages document =
      (match (handleMessage context stages document).1 with
        | .error error =>
          if caughtByCore error && document.isSome then .ok (.errorResponse error)
          else .error error
        | .ok handled => .ok handled,
        (handleMessage context stages document).2) := by
  rcases document with _ | value
  · rfl
  simp only [handleMessageCore, handleMessage_eq_runStages, Option.isSome_some, Bool.and_true]
  cases parsing : parseEnvelope context.connection.senderId context.created (some value) with
  | error error =>
    rcases (parseEnvelope_eq_error_iff _ _ _ _).mp parsing with
      ⟨⟨⟩, -⟩ | ⟨-, -, -, rfl⟩ | ⟨-, -, -, -, rfl⟩ <;> rfl
  | ok envelope =>
    cases envelope with
    | pong => rfl
    | message message =>
      simp only
      cases (runStages context stages message).1 <;> rfl

end ChannelLayer
