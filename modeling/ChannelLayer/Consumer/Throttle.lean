/-
**The rate limit over a stream of dispatches.**

A consumer calls `handle_message` once per raw message, and the middleware objects keep their
state from one call to the next: the rate limiter's buckets, which every connection whose
messages pass the middleware shares. `dispatchRun` is that sequence of calls, each with its own
connection and clock reading.

* `runStages_limiter`, `handleMessage_limiter`: one dispatch leaves an enabled rate-limit stage as
  it was and lets only heartbeats through it, or makes one `allow` call on the connection's key
  at the dispatch's clock reading, leaves the limiter as that call left it, and lets the message
  through only when the call returned `True`;
* `dispatchRun_trace`: so over a stream the stage's limiter runs the `allow` calls of a
  subsequence of the dispatches, and every non-heartbeat message that reaches `receive` is
  matched by one of those calls that answered `True`, on the same key;
* `anonymous_spares_limiters`: with no rate-limit stage in front of `AuthenticationMiddleware`, a
  message from a connection with no user that is not a heartbeat or `connect` leaves every stage,
  and every limiter's buckets, as they were;
* `dispatchRun_rate_bound`: with the per-key isolation of the limiter (`allowCalls_isolated`) and
  the bucket's credit bound (`bucketRun_sublist_credit`), a stream at non-decreasing
  `time.time()` readings from `t_first` to `t_last` delivers to `receive` at most
  `burst + (t_last - t_first) * rate / window * (1 + 2 ^ -51)` non-heartbeat messages of
  connections with one rate-limit key, whatever the other connections send, wherever the stage
  stands among the stages, and whatever state the stages start in.
-/

import ChannelLayer.Consumer.Dispatch

namespace ChannelLayer

/-! ## A stream of dispatches -/

/-- `handle_message` of `fastapi_channel` on each raw message in turn, each with its own connection
and clock reading. The stages are the same objects from one call to the next, so their state
carries over, also past a call that raised. What each call returned or raised, and the stages
after. -/
def dispatchRun (stages : List Stage) :
    List (Context × Option Value) → List (Except PyError Handled) × List Stage
  | [] => ([], stages)
  | (context, document) :: rest =>
    ((handleMessage context stages document).1 ::
        (dispatchRun (handleMessage context stages document).2 rest).1,
      (dispatchRun (handleMessage context stages document).2 rest).2)

/-- Whether a dispatch ended in `receive` on a message the rate limit does not exempt: one whose
type is not `ping` or `pong`. -/
def throttledDelivery : Except PyError Handled → Bool
  | .ok (.received message) =>
    match memStrings ["ping", "pong"] message.type with
    | .ok false => true
    | _ => false
  | _ => false

/-- How many dispatches of a stream delivered a non-exempt message of a connection whose rate-limit
key is `key`. -/
def deliveredFor (key : String) (inputs : List (Context × Option Value))
    (results : List (Except PyError Handled)) : ℕ :=
  ((inputs.zip results).filter fun entry =>
    decide (rateLimitKey entry.1.1.connection = key) && throttledDelivery entry.2).length

/-! ## One dispatch -/

/-- **What one pass of the stages does to an enabled rate-limit stage**: it is left as it was and
passes only heartbeats, or it makes one `allow` call on the connection's key at the dispatch's
clock reading, is left as that call left it, and passes the message only when the call returned
`True`. -/
theorem runStages_limiter (context : Context) {limiter : TokenBucketRateLimiter} :
    ∀ (stages : List Stage) (position : ℕ) (message : Message),
      stages[position]? = some (.rateLimit ⟨true, limiter⟩) →
      ((runStages context stages message).2[position]? = some (.rateLimit ⟨true, limiter⟩) ∧
        ((runStages context stages message).1 = .ok (some message) →
          memStrings ["ping", "pong"] message.type = .ok true)) ∨
      ((runStages context stages message).2[position]? = some (.rateLimit
          ⟨true, limiter.afterAllow (rateLimitKey context.connection) context.now⟩) ∧
        ((runStages context stages message).1 = .ok (some message) →
          Prod.fst <$> limiter.allow (rateLimitKey context.connection) context.now = .ok true))
  | [], _, _, placed => by cases placed
  | stage :: rest, 0, message, placed => by
    obtain rfl : stage = .rateLimit ⟨true, limiter⟩ := by simpa using placed
    cases exempt : memStrings ["ping", "pong"] message.type with
    | error error =>
      left
      simp [runStages, Stage.process, RateLimitMiddleware.process, exempt]
    | ok heartbeat =>
      cases heartbeat
      · right
        cases allowed : limiter.allow (rateLimitKey context.connection) context.now with
        | error error =>
          simp [runStages, Stage.process, RateLimitMiddleware.process, exempt, allowed,
            TokenBucketRateLimiter.afterAllow]
        | ok result =>
          obtain ⟨answer, next⟩ := result
          cases answer <;> simp [runStages, Stage.process, RateLimitMiddleware.process, exempt,
            allowed, TokenBucketRateLimiter.afterAllow, Functor.map, Except.map]
      · left
        simp [runStages, Stage.process, RateLimitMiddleware.process, exempt]
  | stage :: rest, position + 1, message, placed => by
    simp only [List.getElem?_cons_succ] at placed
    simp only [runStages]
    split
    · next processed passed =>
      obtain rfl := Stage.process_passes passed
      simpa using runStages_limiter context rest position processed placed
    · next stopped =>
      exact .inl ⟨by simpa using placed, fun delivered => absurd delivered (stopped message)⟩

/-- **What one dispatch does to an enabled rate-limit stage**, in the terms of what it
delivers. -/
theorem handleMessage_limiter (context : Context) {limiter : TokenBucketRateLimiter}
    (stages : List Stage) (position : ℕ) (document : Option Value)
    (placed : stages[position]? = some (.rateLimit ⟨true, limiter⟩)) :
    ((handleMessage context stages document).2[position]? = some (.rateLimit ⟨true, limiter⟩) ∧
      throttledDelivery (handleMessage context stages document).1 = false) ∨
    ((handleMessage context stages document).2[position]? = some (.rateLimit
        ⟨true, limiter.afterAllow (rateLimitKey context.connection) context.now⟩) ∧
      (throttledDelivery (handleMessage context stages document).1 = true →
        Prod.fst <$> limiter.allow (rateLimitKey context.connection) context.now = .ok true)) := by
  rw [handleMessage_eq_runStages]
  split
  · exact .inl ⟨placed, rfl⟩
  · exact .inl ⟨placed, rfl⟩
  · next message _ =>
    have throttled : throttledDelivery ((runStages context stages message).1.map finish) = true →
        (runStages context stages message).1 = .ok (some message) ∧
          memStrings ["ping", "pong"] message.type = .ok false := fun delivered => by
      rcases result : (runStages context stages message).1 with _ | _ | passed <;>
        simp only [result, throttledDelivery, Except.map, finish, Bool.false_eq_true] at delivered
      obtain rfl := (runStages_passes context stages message result).1
      split at delivered
      · next exempt => exact ⟨rfl, exempt⟩
      · cases delivered
    rcases runStages_limiter context stages position message placed with
      ⟨kept, heartbeat⟩ | ⟨changed, passes⟩
    · refine .inl ⟨kept, Bool.eq_false_iff.mpr fun delivered => ?_⟩
      obtain ⟨delivered, exempt⟩ := throttled delivered
      rw [heartbeat delivered] at exempt
      cases exempt
    · exact .inr ⟨changed, fun delivered => passes (throttled delivered).1⟩

/-! ## A stream -/

theorem deliveredFor_cons (key : String) (input : Context × Option Value)
    (inputs : List (Context × Option Value)) (result : Except PyError Handled)
    (results : List (Except PyError Handled)) :
    deliveredFor key (input :: inputs) (result :: results) =
      (decide (rateLimitKey input.1.connection = key) && throttledDelivery result).toNat +
        deliveredFor key inputs results := by
  simp only [deliveredFor, List.zip_cons_cons, List.filter_cons]
  cases decide (rateLimitKey input.1.connection = key) && throttledDelivery result <;>
    simp [Nat.add_comm]

/-- **The calls a stream makes on an enabled rate-limit stage.** Along any stream the stage's
limiter runs the `allow` calls of a subsequence of the dispatches, each on its connection's key at
its clock reading, and the non-exempt messages of one key that reach `receive` are at most the
calls on that key that returned `True`. -/
theorem dispatchRun_trace :
    ∀ (inputs : List (Context × Option Value)) {limiter : TokenBucketRateLimiter}
      (stages : List Stage) (position : ℕ),
      stages[position]? = some (.rateLimit ⟨true, limiter⟩) →
      ∃ calls : List ((String × ℚ) × Except PyError Bool),
        (calls.map fun call => call.1.2).Sublist (inputs.map fun input => input.1.now) ∧
        (limiter.allowCalls (calls.map Prod.fst)).1 = calls.map Prod.snd ∧
        ∀ key, deliveredFor key inputs (dispatchRun stages inputs).1 ≤
          (calls.filter fun call => decide (call.1.1 = key) && letThrough call.2).length
  | [], _, _, _, _ => ⟨[], .slnil, rfl, fun _ => le_rfl⟩
  | (context, document) :: rest, limiter, stages, position, placed => by
    rcases handleMessage_limiter context stages position document placed with
      ⟨kept, quiet⟩ | ⟨changed, passes⟩
    · obtain ⟨calls, within, run, bound⟩ := dispatchRun_trace rest _ position kept
      refine ⟨calls, within.cons _, run, fun key => ?_⟩
      simpa [dispatchRun, deliveredFor_cons, quiet] using bound key
    · obtain ⟨calls, within, run, bound⟩ := dispatchRun_trace rest _ position changed
      refine ⟨((rateLimitKey context.connection, context.now),
          Prod.fst <$> limiter.allow (rateLimitKey context.connection) context.now) :: calls,
        within.cons₂ _, by simp only [List.map_cons, TokenBucketRateLimiter.allowCalls, run],
        fun key => ?_⟩
      have earlier := bound key
      have answered : throttledDelivery (handleMessage context stages document).1 = true →
          letThrough (Prod.fst <$> limiter.allow (rateLimitKey context.connection) context.now) =
            true := fun delivered => by rw [passes delivered]; rfl
      simp only [dispatchRun, deliveredFor_cons, List.filter_cons]
      revert answered earlier
      cases decide (rateLimitKey context.connection = key) <;>
        cases throttledDelivery (handleMessage context stages document).1 <;>
        cases letThrough (Prod.fst <$> limiter.allow (rateLimitKey context.connection) context.now) <;>
        simp <;> omega

/-! ## Authentication before the rate limit -/

/-- A stage other than a rate-limit stage keeps no state. -/
theorem Stage.process_stage {context : Context} {stage : Stage} {message : Message}
    (stateless : ∀ middleware, stage ≠ .rateLimit middleware) :
    (stage.process context message).2 = stage := by
  cases stage with
  | rateLimit middleware => exact absurd rfl (stateless middleware)
  | _ => rfl

/-- **Authentication in front of every rate-limit stage keeps unauthenticated traffic away from
the limiters.** On a connection with no user, a message whose type is not `ping`, `pong` or
`connect` leaves every stage as it was, the limiters' buckets included, and never reaches
`receive`, when no rate-limit stage stands before `AuthenticationMiddleware`. -/
theorem anonymous_spares_limiters (context : Context)
    (anonymous : truthy context.connection.userId = none) (after : List Stage)
    (message : Message)
    (handshake : memStrings ["ping", "pong", "connect"] message.type ≠ .ok true) :
    ∀ before : List Stage, (∀ stage ∈ before, ∀ middleware, stage ≠ .rateLimit middleware) →
      (runStages context (before ++ .authentication :: after) message).2 =
          before ++ .authentication :: after ∧
        ∀ passed, (runStages context (before ++ .authentication :: after) message).1 ≠
          .ok (some passed)
  | [], _ => by
    obtain ⟨error, raised⟩ :
        ∃ error, AuthenticationMiddleware.process context.connection message = .error error := by
      unfold AuthenticationMiddleware.process
      cases found : memStrings ["ping", "pong", "connect"] message.type with
      | error error => exact ⟨error, rfl⟩
      | ok passes =>
        cases passes
        · exact ⟨.authenticationError, by simp [anonymous]⟩
        · exact absurd found handshake
    simp [runStages, Stage.process, raised]
  | stage :: before, stateless => by
    have rest := anonymous_spares_limiters context anonymous after message handshake before
      fun other mem => stateless other (List.mem_cons_of_mem _ mem)
    have kept := @Stage.process_stage context stage message
      (stateless stage (List.mem_cons_self _ _))
    simp only [List.cons_append, runStages, List.append_eq]
    split
    · next processed passed =>
      obtain rfl := Stage.process_passes passed
      exact ⟨by rw [kept, rest.1], rest.2⟩
    · next stopped =>
      exact ⟨by rw [kept], fun passed delivered => stopped passed delivered⟩

theorem anonymous_chat_spares_limiter :
    let context : Context := ⟨⟨none, none, "c"⟩, 0, 0, fun _ => 0⟩
    let chat : Message :=
      { type := .str "chat", data := .null, senderId := .null, group := .null, metadata := .null,
        priority := .normal, ttlSeconds := .null, createdAt := .num 0 }
    let stages : List Stage :=
      [.logging, .authentication, .rateLimit ⟨true, ⟨1, 60, 1, fun _ => none⟩⟩]
    truthy context.connection.userId = none ∧
      memStrings ["ping", "pong", "connect"] chat.type ≠ .ok true ∧
      (∀ stage ∈ [Stage.logging], ∀ middleware, stage ≠ .rateLimit middleware) ∧
      (runStages context stages chat).2 = stages ∧
      ∀ passed, (runStages context stages chat).1 ≠ .ok (some passed) := by
  intro context chat stages
  have unlimited : ∀ stage ∈ [Stage.logging], ∀ middleware, stage ≠ .rateLimit middleware := by
    simp
  have handshake : memStrings ["ping", "pong", "connect"] chat.type ≠ .ok true := by
    intro found
    cases found
  exact ⟨rfl, handshake, unlimited, anonymous_spares_limiters context rfl
    [.rateLimit ⟨true, ⟨1, 60, 1, fun _ => none⟩⟩] chat handshake [.logging] unlimited⟩

/-! ## The bound -/

/-- **The bucket's credit bound for calls at some of the clock readings of a stream** that runs
from `first` to `last` without going back. -/
theorem bucketRun_sublist_credit {rate window burst : ℤ} (burstPos : 1 ≤ burst)
    (ratePos : 0 ≤ rate) (windowPos : 0 < window) (windowNormal : window ≤ 2 ^ 1022)
    (bucket : Option (ℚ × ℤ)) {times stream : List ℚ} (within : times.Sublist stream)
    (sorted : stream.Pairwise (· ≤ ·)) (doubles : ∀ now ∈ stream, IsDouble now) {first last : ℚ}
    (starts : stream.head? = some first) (ends : stream.getLast? = some last) :
    ((bucketRun rate window burst bucket times).1.countP letThrough : ℚ) ≤
      burst + (last - first) * (rate / window) * (1 + 2 ^ (-51 : ℤ)) := by
  rcases times with _ | ⟨earliest, rest⟩
  · have ordered := (mem_between sorted starts ends (List.mem_of_getLast?_eq_some ends)).1
    have burst' : (1 : ℚ) ≤ burst := by exact_mod_cast burstPos
    simp only [bucketRun, List.countP_nil, Nat.cast_zero]
    exact add_nonneg (zero_le_one.trans burst')
      (refill_nonneg ratePos windowPos (sub_nonneg.mpr ordered))
  · obtain ⟨latest, tail⟩ : ∃ latest, (earliest :: rest).getLast? = some latest :=
      ⟨_, List.getLast?_eq_getLast _ (List.cons_ne_nil _ _)⟩
    have from' := (mem_between sorted starts ends (within.subset (List.mem_cons_self _ _))).1
    have to' := (mem_between sorted starts ends
      (within.subset (List.mem_of_getLast?_eq_some tail))).2
    calc _ ≤ burst + (latest - earliest) * (rate / window) * (1 + 2 ^ (-51 : ℤ)) :=
          bucketRun_segment_credit ratePos windowPos windowNormal burstPos bucket
            (sorted.sublist within) (fun now mem => doubles now (within.subset mem)) tail
      _ ≤ burst + (last - first) * (rate / window) * (1 + 2 ^ (-51 : ℤ)) :=
          add_le_add_left (refill_le_refill ratePos windowPos (sub_le_sub to' from')) _

theorem filter_answered_length (key : String)
    (calls : List ((String × ℚ) × Except PyError Bool)) :
    (calls.filter fun call => decide (call.1.1 = key) && letThrough call.2).length =
      ((calls.filter fun call => decide (call.1.1 = key)).map Prod.snd).countP letThrough := by
  induction calls with
  | nil => rfl
  | cons call calls ih =>
    obtain ⟨⟨owner, now⟩, answer⟩ := call
    by_cases same : owner = key <;> by_cases passes : letThrough answer <;>
      simp [List.filter_cons, same, passes, ih]

/-- **A stream through an enabled rate-limit stage delivers at most
`burst + (t_last - t_first) * rate / window * (1 + 2 ^ -51)` non-heartbeat messages of one
rate-limit key**, with `burst ≥ 1`, `rate ≥ 0` and `0 < window ≤ 2 ^ 1022`, when its clock
readings are `time.time()` values that run from `t_first` to `t_last` without going back: whatever
the other connections sharing the middleware send, wherever the stage stands among the stages,
and whatever state the stages and the key's bucket start in. A segment of a longer stream is a
stream from the state the part before it left, so the bound holds for every stretch of time. -/
theorem dispatchRun_rate_bound {limiter : TokenBucketRateLimiter} {stages : List Stage}
    {position : ℕ} (placed : stages[position]? = some (.rateLimit ⟨true, limiter⟩))
    (burstPos : 1 ≤ limiter.burst) (ratePos : 0 ≤ limiter.rate) (windowPos : 0 < limiter.window)
    (windowNormal : limiter.window ≤ 2 ^ 1022) (inputs : List (Context × Option Value))
    (sorted : (inputs.map fun input => input.1.now).Pairwise (· ≤ ·))
    (doubles : ∀ input ∈ inputs, IsDouble input.1.now) {first last : ℚ}
    (starts : (inputs.map fun input => input.1.now).head? = some first)
    (ends : (inputs.map fun input => input.1.now).getLast? = some last) (key : String) :
    (deliveredFor key inputs (dispatchRun stages inputs).1 : ℚ) ≤
      limiter.burst + (last - first) * limiter.rate / limiter.window * (1 + 2 ^ (-51 : ℤ)) := by
  obtain ⟨calls, within, run, bound⟩ := dispatchRun_trace inputs stages position placed
  have isolated := TokenBucketRateLimiter.allowCalls_isolated limiter (calls.map Prod.fst) key
  rw [run, show (calls.map Prod.fst).zip (calls.map Prod.snd) = calls by
    simpa using List.zip_unzip calls] at isolated
  have keyWithin :
      (((calls.map Prod.fst).filter fun call => call.1 = key).map Prod.snd).Sublist
        (inputs.map fun input => input.1.now) :=
    ((List.filter_sublist _).map _).trans (by rwa [List.map_map])
  have streamDoubles : ∀ now ∈ inputs.map fun input => input.1.now, IsDouble now :=
    List.forall_mem_map.mpr doubles
  calc (deliveredFor key inputs (dispatchRun stages inputs).1 : ℚ)
      ≤ ((bucketRun limiter.rate limiter.window limiter.burst (limiter.buckets key)
          (((calls.map Prod.fst).filter fun call => call.1 = key).map Prod.snd)).1.countP
            letThrough : ℚ) := by
        rw [← congrArg Prod.fst isolated, ← filter_answered_length]
        exact_mod_cast bound key
    _ ≤ limiter.burst + (last - first) * (limiter.rate / limiter.window) * (1 + 2 ^ (-51 : ℤ)) :=
        bucketRun_sublist_credit burstPos ratePos windowPos windowNormal _ keyWithin sorted
          streamDoubles starts ends
    _ = limiter.burst + (last - first) * limiter.rate / limiter.window * (1 + 2 ^ (-51 : ℤ)) := by
        rw [mul_div_assoc]

theorem dispatchRun_rate_bound_once_per_minute :
    let limiter : TokenBucketRateLimiter := ⟨1, 60, 1, fun _ => none⟩
    let inputs : List (Context × Option Value) :=
      [(⟨⟨none, none, "c"⟩, 0, 0, fun _ => 0⟩, some (.dict [])),
        (⟨⟨none, none, "c"⟩, 30, 30, fun _ => 0⟩, some (.dict []))]
    [Stage.rateLimit ⟨true, limiter⟩][0]? = some (.rateLimit ⟨true, limiter⟩) ∧
      1 ≤ limiter.burst ∧ 0 ≤ limiter.rate ∧ 0 < limiter.window ∧ limiter.window ≤ 2 ^ 1022 ∧
      (inputs.map fun input => input.1.now).Pairwise (· ≤ ·) ∧
      (∀ input ∈ inputs, IsDouble input.1.now) ∧
      (inputs.map fun input => input.1.now).head? = some 0 ∧
      (inputs.map fun input => input.1.now).getLast? = some 30 ∧
      (deliveredFor "c" inputs (dispatchRun [.rateLimit ⟨true, limiter⟩] inputs).1 : ℚ) ≤
        limiter.burst + (30 - 0) * limiter.rate / limiter.window * (1 + 2 ^ (-51 : ℤ)) := by
  intro limiter inputs
  have windowNormal : limiter.window ≤ 2 ^ 1022 := show (60 : ℤ) ≤ 2 ^ 1022 by norm_num
  have sorted : (inputs.map fun input => input.1.now).Pairwise (· ≤ ·) := by
    simp only [inputs, List.map_cons, List.map_nil, List.pairwise_cons, List.mem_cons,
      List.mem_singleton, List.not_mem_nil]
    norm_num
  have doubles : ∀ input ∈ inputs, IsDouble input.1.now := by
    simp only [inputs, List.mem_cons, List.mem_singleton, List.not_mem_nil, or_false,
      forall_eq_or_imp, forall_eq]
    exact ⟨isDouble_zero, by simpa using isDouble_intCast 30 (by norm_num)⟩
  exact ⟨rfl, by decide, by decide, by decide, windowNormal, sorted, doubles, rfl, rfl,
    @dispatchRun_rate_bound limiter [.rateLimit ⟨true, limiter⟩] 0 rfl (by decide) (by decide)
      (by decide) windowNormal inputs sorted doubles 0 30 rfl rfl "c"⟩

end ChannelLayer
