/-
**The middleware chain is the Option-Kleisli composition of its stages.**

A `Middleware` object holds its `process` method and the stage `next_middleware` names; a chain is
a `Middleware` value, so every chain is finite. `process` is an `async` method that may raise and
may change state, so it is modelled in an arbitrary monad `m`; `connection` and `consumer` are the
same for every stage of one dispatch, and `process` closes over them. Equalities of programs in
every lawful monad say at once which stages run, in what order, on which message, and that an
exception of any stage propagates unchanged.

* `call_eq_kleisli`: `Middleware.__call__` on a chain is `kleisli` of its stages;
* `runStacks_eq_kleisli`: the loop of core `BaseConsumer.handle_message` over a list of unlinked
  stages runs the same composition, calls `receive` with its result and drops the message
  exactly when the result is `None`;
* `middleware_chain_is_kleisli`: both.
-/

import ChannelLayer.Typed

namespace ChannelLayer

/-- A `Middleware` object: its `process` method, and the stage `next_middleware` hands on to. -/
inductive Middleware (m : Type → Type) where
  | mk (process : Message → m (Option Message)) (nextMiddleware : Option (Middleware m))

section Chain

variable {m : Type → Type} [Monad m]

/-- `Middleware.__call__`: `process`, then, when there is a next stage (a `Middleware` object is
always truthy) and the message is not `None`, the next stage on it. -/
def Middleware.call : Middleware m → Message → m (Option Message)
  | .mk process none, message => do
    let processed ← process message
    pure processed
  | .mk process (some next), message => do
    let processed ← process message
    match processed with
    | some processed => next.call processed
    | none => pure none

/-- The `process` methods along a chain, first stage first. -/
def Middleware.stages : Middleware m → List (Message → m (Option Message))
  | .mk process none => [process]
  | .mk process (some next) => process :: next.stages

/-- The Option-Kleisli composition of stages: each runs on what the one before returned, and the
first `None` ends the pipeline. -/
def kleisli : List (Message → m (Option Message)) → Message → m (Option Message)
  | [], message => pure (some message)
  | process :: rest, message => do
    match ← process message with
    | none => pure none
    | some processed => kleisli rest processed

/-- Core `BaseConsumer.handle_message` from its middleware loop on: `message = await
middleware(message, ...)` for each stage of `middleware_stacks`, `return` when `not message`,
then `await self.receive(message)`. A `Message` is always truthy, so `not message` holds exactly
for `None`; an empty list skips the loop. -/
def runStacks (receive : Message → m Unit) : List (Middleware m) → Message → m Unit
  | [], message => receive message
  | middleware :: rest, message => do
    match ← middleware.call message with
    | none => pure ()
    | some processed => runStacks receive rest processed

/-- What the dispatch does with the pipeline's result: `receive` on a message, nothing on `None`. -/
def deliver (receive : Message → m Unit) : Option Message → m Unit
  | none => pure ()
  | some message => receive message

variable [LawfulMonad m]

theorem kleisli_singleton (process : Message → m (Option Message)) (message : Message) :
    kleisli [process] message = process message := by
  simp only [kleisli]
  conv_rhs => rw [← bind_pure (process message)]
  congr 1
  funext processed
  cases processed <;> rfl

/-- **`__call__` on a chain is the Kleisli composition of its stages.** -/
theorem call_eq_kleisli : (chain : Middleware m) → (message : Message) →
    chain.call message = kleisli chain.stages message
  | .mk process none, message => by
    simp only [Middleware.call, Middleware.stages, kleisli_singleton, bind_pure]
  | .mk process (some next), message => by
    simp only [Middleware.call, Middleware.stages, kleisli]
    congr 1
    funext processed
    cases processed with
    | none => rfl
    | some processed => exact call_eq_kleisli next processed

/-- **The consumer's loop over unlinked stages delivers the Kleisli composition.** -/
theorem runStacks_eq_kleisli (receive : Message → m Unit) :
    (stages : List (Message → m (Option Message))) → (message : Message) →
      runStacks receive (stages.map fun process => .mk process none) message =
        kleisli stages message >>= deliver receive
  | [], message => by simp [runStacks, kleisli, deliver]
  | process :: rest, message => by
    simp only [List.map_cons, runStacks, call_eq_kleisli, Middleware.stages, kleisli_singleton,
      kleisli, bind_assoc]
    congr 1
    funext processed
    cases processed with
    | none => simp [deliver]
    | some processed => simpa using runStacks_eq_kleisli receive rest processed

/-- **The middleware chain and the consumer's loop are the Option-Kleisli composition.** -/
theorem middleware_chain_is_kleisli :
    (∀ (chain : Middleware m) (message : Message),
      chain.call message = kleisli chain.stages message) ∧
    ∀ (stages : List (Message → m (Option Message))) (receive : Message → m Unit)
      (message : Message),
      runStacks receive (stages.map fun process => .mk process none) message =
        kleisli stages message >>= deliver receive :=
  ⟨call_eq_kleisli, fun stages receive => runStacks_eq_kleisli receive stages⟩

end Chain

theorem middleware_chain_is_kleisli_in_except :
    (∀ (chain : Middleware (Except PyError)) (message : Message),
      chain.call message = kleisli chain.stages message) ∧
    ∀ (stages : List (Message → Except PyError (Option Message)))
      (receive : Message → Except PyError Unit) (message : Message),
      runStacks receive (stages.map fun process => .mk process none) message =
        kleisli stages message >>= deliver receive :=
  middleware_chain_is_kleisli

end ChannelLayer
