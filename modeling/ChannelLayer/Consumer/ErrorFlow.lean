/-
**Core `handle_message` with `receive`: what escapes, and the error responses it sends.**

Core `BaseConsumer.handle_message` runs the parsing, the stages and `self.receive(message)` in one
`try` with two clauses. `except json.JSONDecodeError` raises a `ValidationError` with code
`INVALID_JSON`; an exception raised inside an `except` clause is not seen by the clauses after it,
so that error leaves the method. `except (AuthenticationError, ValidationError, MessageError) as e`
sends `e.to_response().to_dict()` on `self.connection.websocket` and returns; every other exception
propagates, `RateLimitError` among them (the classes are the spec's four kinds: the module that
defines them is not in the repository). `handleMessageCoreReceiving` is `handleMessageCore` with
`receive` inside the same `try`.

* `exceptCaught_settled`: the clause returns having sent nothing, returns having sent the response
  of one caught exception, or lets an uncaught exception through having sent nothing;
* `handleMessageCoreReceiving_of_message`: once a message is parsed, what the stages or `receive`
  raise goes to the clause, as one `try` block does;
* `handleMessageCoreReceiving_answers`, `handleMessageCoreReceiving_settled`: a caught exception
  is answered with exactly one response, and every dispatch ends as the clause allows, except the
  one for text that is not JSON;
* `core_invalid_json_escapes`: for that text the `INVALID_JSON` error escapes and nothing is sent,
  whatever the stages and `receive`; a `RateLimitError` from `receive` escapes in the same way.
-/

import ChannelLayer.Consumer.Dispatch

namespace ChannelLayer

/-- The clause `except (AuthenticationError, ValidationError, MessageError) as e` of core
`handle_message`, on what the `try` ended with: a caught exception is answered with
`e.to_response().to_dict()` on the connection's websocket and the method returns; any other
propagates. -/
def exceptCaught : Except PyError Unit → Except PyError Unit × List PyError
  | .ok () => (.ok (), [])
  | .error error => if caughtByCore error then (.ok (), [error]) else (.error error, [])

/-- Core `BaseConsumer.handle_message` with the consumer's `receive`, for the document
`json.loads` returned (`none` when it raised `JSONDecodeError`): `handleMessageCore`, then
`await self.receive(message)` on the message the stages passed, inside the same `try`. Whether it
returns or raises and the error responses it sends, with the stages after. -/
def handleMessageCoreReceiving (receive : Message → Except PyError Unit) (context : Context)
    (stages : List Stage) (document : Option Value) :
    (Except PyError Unit × List PyError) × List Stage :=
  (match (handleMessageCore context stages document).1 with
    | .ok (.received message) => exceptCaught (receive message)
    | .ok (.errorResponse error) => (.ok (), [error])
    | .ok _ => (.ok (), [])
    | .error error => (.error error, []),
    (handleMessageCore context stages document).2)

/-! ## The clause -/

/-- How the clause lets a dispatch end: it returns having sent nothing, returns having sent the
response of one caught exception, or lets an uncaught exception through having sent nothing. -/
def Settled (outcome : Except PyError Unit × List PyError) : Prop :=
  outcome = (.ok (), []) ∨ (∃ error, caughtByCore error = true ∧ outcome = (.ok (), [error])) ∨
    ∃ error, caughtByCore error = false ∧ outcome = (.error error, [])

theorem exceptCaught_settled (result : Except PyError Unit) : Settled (exceptCaught result) := by
  rcases result with error | ⟨⟩
  · cases caught : caughtByCore error
    · exact .inr (.inr ⟨error, caught, by simp [exceptCaught, caught]⟩)
    · exact .inr (.inl ⟨error, caught, by simp [exceptCaught, caught]⟩)
  · exact .inl rfl

/-! ## The dispatch -/

/-- **Once a message is parsed, what the stages or `receive` raise goes to the clause**, as in one
`try` block around the stages and `receive`. -/
theorem handleMessageCoreReceiving_of_message {receive : Message → Except PyError Unit}
    {context : Context} {stages : List Stage} {document : Option Value} {message : Message}
    (parsing : parseEnvelope context.connection.senderId context.created document =
      .ok (.message message)) :
    (handleMessageCoreReceiving receive context stages document).1 =
      exceptCaught ((runStages context stages message).1 >>= deliver receive) := by
  simp only [handleMessageCoreReceiving, handleMessageCore, parsing]
  cases (runStages context stages message).1 with
  | error error =>
    cases caught : caughtByCore error <;> simp [bind, Except.bind, exceptCaught, caught]
  | ok result => cases result <;> rfl

/-- **An `AuthenticationError`, `ValidationError` or `MessageError` raised by a stage or by
`receive` is answered with exactly one error response, and the method returns.** -/
theorem handleMessageCoreReceiving_answers {receive : Message → Except PyError Unit}
    {context : Context} {stages : List Stage} {document : Option Value} {message : Message}
    {error : PyError}
    (parsing : parseEnvelope context.connection.senderId context.created document =
      .ok (.message message))
    (raised : (runStages context stages message).1 >>= deliver receive = .error error)
    (caught : caughtByCore error = true) :
    (handleMessageCoreReceiving receive context stages document).1 = (.ok (), [error]) := by
  rw [handleMessageCoreReceiving_of_message parsing, raised]
  simp [exceptCaught, caught]

/-- **Every dispatch ends as the clause allows, except for text that is not JSON**, where the
`INVALID_JSON` error leaves the method. -/
theorem handleMessageCoreReceiving_settled (receive : Message → Except PyError Unit)
    (context : Context) (stages : List Stage) (document : Option Value) :
    Settled (handleMessageCoreReceiving receive context stages document).1 ∨
      document = none ∧ (handleMessageCoreReceiving receive context stages document).1 =
        (.error (.validationError (some "INVALID_JSON")), []) := by
  rcases document with _ | value
  · exact .inr ⟨rfl, rfl⟩
  refine .inl ?_
  cases parsing : parseEnvelope context.connection.senderId context.created (some value) with
  | error error =>
    simp only [handleMessageCoreReceiving, handleMessageCore, parsing]
    rcases (parseEnvelope_eq_error_iff _ _ _ _).mp parsing with
      ⟨⟨⟩, -⟩ | ⟨-, -, -, rfl⟩ | ⟨-, -, -, -, rfl⟩
    exacts [.inr (.inr ⟨.attributeError, rfl, rfl⟩), .inr (.inr ⟨.typeError, rfl, rfl⟩)]
  | ok envelope =>
    cases envelope with
    | pong =>
      simp only [handleMessageCoreReceiving, handleMessageCore, parsing]
      exact .inl rfl
    | message message =>
      rw [handleMessageCoreReceiving_of_message parsing]
      exact exceptCaught_settled _

/-- **Core `handle_message` lets the `INVALID_JSON` error escape and sends nothing** for text that
is not JSON, whatever the stages and `receive`, although its class is one the clause after
`except json.JSONDecodeError` catches; and a `RateLimitError` that `receive` raises escapes in the
same way. Every other dispatch ends as the clause allows, and a caught exception raised by a stage
or by `receive` is answered with exactly one response. -/
theorem core_invalid_json_escapes (receive : Message → Except PyError Unit) (context : Context)
    (stages : List Stage) :
    handleMessageCoreReceiving receive context stages none =
        ((.error (.validationError (some "INVALID_JSON")), []), stages) ∧
      caughtByCore (.validationError (some "INVALID_JSON")) = true ∧
      (handleMessageCoreReceiving (fun _ => .error .rateLimitError) context [] (some (.dict []))).1 =
        (.error .rateLimitError, []) ∧
      (∀ document : Option Value,
        Settled (handleMessageCoreReceiving receive context stages document).1 ∨
          document = none ∧ (handleMessageCoreReceiving receive context stages document).1 =
            (.error (.validationError (some "INVALID_JSON")), [])) ∧
      ∀ (document : Option Value) (message : Message) (error : PyError),
        parseEnvelope context.connection.senderId context.created document =
          .ok (.message message) →
        (runStages context stages message).1 >>= deliver receive = .error error →
        caughtByCore error = true →
        (handleMessageCoreReceiving receive context stages document).1 = (.ok (), [error]) :=
  ⟨rfl, rfl, rfl, handleMessageCoreReceiving_settled receive context stages,
    fun _ _ _ parsing raised caught => handleMessageCoreReceiving_answers parsing raised caught⟩

end ChannelLayer
