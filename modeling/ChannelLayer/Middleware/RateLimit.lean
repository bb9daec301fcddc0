/-
**The token bucket of `core/middleware/rate_limit.py`, in Python's `float` arithmetic.**

`TokenBucketRateLimiter.allow(key)` reads `time.time()`, a `float`, so a schedule of calls is a
list of clock readings a `float` holds (`IsDouble`). For a key it has seen, `allow` computes
`now - last_check`, `self.rate / self.window` and their product in `float`s and truncates the
product with `int()`. A call that raises (`ZeroDivisionError` for a zero window, `OverflowError`
and `ValueError` from a quotient or a product beyond the `float`s) raises before it stores
anything, so a run of calls goes on past it. `allow` touches only the key's own bucket, and
`bucketStep` is that part of it (`allowRun_eq_bucketRun`, `allowCalls_isolated`).

With `burst ≥ 1`, `rate ≥ 0`, `0 < window ≤ 2 ^ 1022` and calls at non-decreasing readings:

* `earned_le`: the three roundings stay within `2 ^ -53` each, so the tokens a call earns are at
  most `(1 + 2 ^ -51)` times the exact refill `(now - last_check) * rate / window`;
* `bucketStep_credit`, `bucketRun_credit`: a call let through and the tokens it leaves cost at
  most the tokens before plus that much, and so does a whole run;
* `allow_rate_bound`: calls `i..j` on a key first seen at call `1` let through at most
  `burst + (t_j - t_i) * rate / window * (1 + 2 ^ -51)`, and the stored token count stays within
  `[0, burst - 1]`. The factor is needed: at `time.time()` readings `0.1` and `15.1`,
  `15.1 - 0.1` rounds to `15.0`, the refill to three whole tokens, and six calls pass where the
  exact bound is below six (`float_refill_rounds_up`).

Each call also restarts the refill clock, and the fraction of a token `int()` drops is lost. With
`rate ≥ 1`, a denied call comes less than `window / rate * (1 + 2 ^ -51)` after the call before it
(`earned_pos`), and after a denial a call less than `window / rate * (1 - 2 ^ -51)` later is not
let through (`bucketStep_after_denial`, `allow_denial_gaps`): retries spaced closer than that are
denied for as long as they go on (`denial_run_outlasts_refill`).
-/

import ChannelLayer.Typed

namespace ChannelLayer

open Function

/-- A `TokenBucketRateLimiter`: its parameters, and `buckets`, `key ↦ (last_check, tokens)`. -/
structure TokenBucketRateLimiter where
  rate : ℤ
  window : ℤ
  burst : ℤ
  buckets : String → Option (ℚ × ℤ)

/-- What `allow` does to one key's bucket at the clock reading `now`: a key seen for the first
time is let through and left `burst - 1` tokens; otherwise the bucket gains
`int(elapsed * (self.rate / self.window))` tokens, up to `burst`, and a call is let through when
there is one to take. -/
def bucketStep (rate window burst : ℤ) (now : ℚ) :
    Option (ℚ × ℤ) → Except PyError (Bool × (ℚ × ℤ))
  | none => .ok (true, (now, burst - 1))
  | some (lastCheck, tokens) => do
    let perSecond ← intTrueDiv rate window
    let earned ← ((toFloat (now - lastCheck)).mulFinite perSecond).toInt
    let refilled := min burst (tokens + earned)
    pure (if 0 < refilled then (true, (now, refilled - 1)) else (false, (now, 0)))

/-- The bucket after a call: what the call stored, or the bucket before when it raised. -/
def storedAfter (bucket : Option (ℚ × ℤ)) : Except PyError (Bool × (ℚ × ℤ)) → Option (ℚ × ℤ)
  | .ok (_, stored) => some stored
  | .error _ => bucket

/-- `bucketStep` along a schedule of calls: what each call returned or raised, and the bucket
after. -/
def bucketRun (rate window burst : ℤ) :
    Option (ℚ × ℤ) → List ℚ → List (Except PyError Bool) × Option (ℚ × ℤ)
  | bucket, [] => ([], bucket)
  | bucket, now :: rest =>
    ((Prod.fst <$> bucketStep rate window burst now bucket) ::
        (bucketRun rate window burst
          (storedAfter bucket (bucketStep rate window burst now bucket)) rest).1,
      (bucketRun rate window burst
        (storedAfter bucket (bucketStep rate window burst now bucket)) rest).2)

/-- Whether a call returned `True`. -/
def letThrough : Except PyError Bool → Bool
  | .ok answer => answer
  | .error _ => false

namespace TokenBucketRateLimiter

/-- `TokenBucketRateLimiter.allow(key)` at the clock reading `now`. -/
def allow (limiter : TokenBucketRateLimiter) (key : String) (now : ℚ) :
    Except PyError (Bool × TokenBucketRateLimiter) := do
  let (answer, stored) ← bucketStep limiter.rate limiter.window limiter.burst now
    (limiter.buckets key)
  pure (answer, { limiter with buckets := update limiter.buckets key (some stored) })

/-- The limiter after a call of `allow`: as the call left it, or as it was when the call
raised. -/
def afterAllow (limiter : TokenBucketRateLimiter) (key : String) (now : ℚ) :
    TokenBucketRateLimiter :=
  match limiter.allow key now with
  | .ok (_, next) => next
  | .error _ => limiter

/-- Calls `allow(key)` at each clock reading in turn: what each call returned or raised, and the
limiter after. -/
def allowRun (limiter : TokenBucketRateLimiter) (key : String) :
    List ℚ → List (Except PyError Bool) × TokenBucketRateLimiter
  | [] => ([], limiter)
  | now :: rest =>
    ((Prod.fst <$> limiter.allow key now) :: ((limiter.afterAllow key now).allowRun key rest).1,
      ((limiter.afterAllow key now).allowRun key rest).2)

/-- Calls `allow` in turn, each on its own key at its own clock reading. One
`RateLimitMiddleware` serves every connection whose messages pass it, so the calls of several
connections interleave. -/
def allowCalls (limiter : TokenBucketRateLimiter) :
    List (String × ℚ) → List (Except PyError Bool) × TokenBucketRateLimiter
  | [] => ([], limiter)
  | (key, now) :: rest =>
    ((Prod.fst <$> limiter.allow key now) :: ((limiter.afterAllow key now).allowCalls rest).1,
      ((limiter.afterAllow key now).allowCalls rest).2)

/-! ## The limiter and its buckets -/

theorem allow_fst (limiter : TokenBucketRateLimiter) (key : String) (now : ℚ) :
    Prod.fst <$> limiter.allow key now =
      Prod.fst <$> bucketStep limiter.rate limiter.window limiter.burst now (limiter.buckets key) := by
  unfold allow
  cases bucketStep limiter.rate limiter.window limiter.burst now (limiter.buckets key) <;> rfl

/-- `allow` changes only the key's bucket, to what `bucketStep` stored. -/
theorem afterAllow_eq (limiter : TokenBucketRateLimiter) (key : String) (now : ℚ) :
    limiter.afterAllow key now =
      { limiter with
        buckets := update limiter.buckets key (storedAfter (limiter.buckets key)
          (bucketStep limiter.rate limiter.window limiter.burst now (limiter.buckets key))) } := by
  unfold afterAllow allow
  cases bucketStep limiter.rate limiter.window limiter.burst now (limiter.buckets key) with
  | error error => simp [storedAfter, bind, Except.bind]
  | ok result => rfl

/-- **A run of `allow` on one key is the run of its bucket.** -/
theorem allowRun_eq_bucketRun (limiter : TokenBucketRateLimiter) (key : String) (times : List ℚ) :
    (limiter.allowRun key times).1 =
        (bucketRun limiter.rate limiter.window limiter.burst (limiter.buckets key) times).1 ∧
      (limiter.allowRun key times).2.buckets key =
        (bucketRun limiter.rate limiter.window limiter.burst (limiter.buckets key) times).2 := by
  induction times generalizing limiter with
  | nil => exact ⟨rfl, rfl⟩
  | cons now rest ih =>
    obtain ⟨answers, stored⟩ := ih (limiter.afterAllow key now)
    rw [afterAllow_eq] at answers stored
    simp only [update_same] at answers stored
    simp only [allowRun, bucketRun, allow_fst, afterAllow_eq, answers, stored, and_self]

/-- **Keys do not interfere.** Over any interleaving of calls on several keys, what the calls on
one key return or raise, and the bucket the key ends with, are those of the run of its own calls
alone: what other connections send never changes a connection's allowance. -/
theorem allowCalls_isolated (limiter : TokenBucketRateLimiter) (calls : List (String × ℚ))
    (key : String) :
    (((calls.zip (limiter.allowCalls calls).1).filter fun call => call.1.1 = key).map Prod.snd,
        (limiter.allowCalls calls).2.buckets key) =
      bucketRun limiter.rate limiter.window limiter.burst (limiter.buckets key)
        ((calls.filter fun call => call.1 = key).map Prod.snd) := by
  induction calls generalizing limiter with
  | nil => rfl
  | cons call rest ih =>
    obtain ⟨owner, now⟩ := call
    have kept := ih (limiter.afterAllow owner now)
    rw [afterAllow_eq] at kept
    by_cases same : owner = key
    · subst same
      simpa [allowCalls, bucketRun, allow_fst, afterAllow_eq, Prod.ext_iff] using kept
    · simpa [allowCalls, afterAllow_eq, update_noteq (Ne.symm same), same] using kept

end TokenBucketRateLimiter

/-! ## Steps of one bucket -/

section Bucket

variable {rate window burst : ℤ}

@[simp] theorem bucketStep_none (now : ℚ) :
    bucketStep rate window burst now none = .ok (true, (now, burst - 1)) :=
  rfl

/-- **What a call on a bucket it has seen does**: the quotient, then the tokens earned, then the
answer from the refilled count. -/
theorem bucketStep_some_eq_ok {now lastCheck : ℚ} {tokens : ℤ} {result : Bool × (ℚ × ℤ)} :
    bucketStep rate window burst now (some (lastCheck, tokens)) = .ok result ↔
      ∃ perSecond earned, intTrueDiv rate window = .ok perSecond ∧
        ((toFloat (now - lastCheck)).mulFinite perSecond).toInt = .ok earned ∧
        result = if 0 < min burst (tokens + earned) then (true, (now, min burst (tokens + earned) - 1))
          else (false, (now, 0)) := by
  cases div : intTrueDiv rate window with
  | error error => simp [bucketStep, div, bind, Except.bind]
  | ok perSecond =>
    cases earn : ((toFloat (now - lastCheck)).mulFinite perSecond).toInt with
    | error error => simp [bucketStep, div, earn, bind, Except.bind]
    | ok earned =>
      simp only [bucketStep, div, earn, bind, Except.bind, pure, Except.pure]
      constructor
      · rintro ⟨⟩
        exact ⟨perSecond, earned, rfl, earn, rfl⟩
      · rintro ⟨_, _, ⟨⟩, found, rfl⟩
        rw [earn] at found
        cases found
        rfl

/-- **What a call raises**: `ZeroDivisionError` or `OverflowError` from `self.rate / self.window`,
`OverflowError` or `ValueError` from `int()` of an infinite or NaN product. -/
theorem bucketStep_eq_error {now : ℚ} {bucket : Option (ℚ × ℤ)} {error : PyError}
    (raised : bucketStep rate window burst now bucket = .error error) :
    error = .zeroDivisionError ∨ error = .overflowError ∨ error = .valueError := by
  rcases bucket with _ | ⟨lastCheck, tokens⟩
  · cases raised
  cases div : intTrueDiv rate window with
  | error divError =>
    simp only [bucketStep, div, bind, Except.bind, Except.error.injEq] at raised
    subst raised
    rcases intTrueDiv_eq_error div with rfl | rfl
    exacts [.inl rfl, .inr (.inl rfl)]
  | ok perSecond =>
    cases earn : ((toFloat (now - lastCheck)).mulFinite perSecond).toInt with
    | error earnError =>
      simp only [bucketStep, div, earn, bind, Except.bind, Except.error.injEq] at raised
      subst raised
      exact .inr (PyFloat.toInt_eq_error earn)
    | ok earned => simp [bucketStep, div, earn, bind, Except.bind, pure, Except.pure] at raised

/-- What a call answered, read off what it returned. -/
theorem fst_map_eq_ok {result : Except PyError (Bool × (ℚ × ℤ))} {answer : Bool} :
    Prod.fst <$> result = .ok answer ↔ ∃ stored, result = .ok (answer, stored) := by
  rcases result with error | ⟨given, stored⟩
  · exact ⟨fun mapped => (nomatch mapped), fun ⟨_, raised⟩ => (nomatch raised)⟩
  · exact ⟨fun mapped => ⟨stored, by cases mapped; rfl⟩, fun ⟨_, found⟩ => by cases found; rfl⟩

/-- **What one call leaves**: it stamps the bucket with the clock reading and leaves
`[0, burst - 1]` tokens, and the call let through and the tokens left are at most `burst`. -/
theorem bucketStep_tokens (burstPos : 1 ≤ burst) {now : ℚ} {bucket : Option (ℚ × ℤ)}
    {answer : Bool} {stored : ℚ × ℤ}
    (ok : bucketStep rate window burst now bucket = .ok (answer, stored)) :
    stored.1 = now ∧ 0 ≤ stored.2 ∧ stored.2 ≤ burst - 1 ∧ answer.toNat + stored.2 ≤ burst := by
  rcases bucket with _ | ⟨lastCheck, tokens⟩
  · cases ok
    exact ⟨rfl, by omega, le_rfl, by simp⟩
  · obtain ⟨-, earned, -, -, found⟩ := bucketStep_some_eq_ok.mp ok
    split_ifs at found with allowed <;> cases found
    · exact ⟨rfl, by omega, by omega, by simp⟩
    · exact ⟨rfl, le_rfl, by omega, by simp; omega⟩

/-- A denied call leaves the bucket empty, after a quotient `self.rate / self.window` that did not
raise. -/
theorem bucketStep_denied_empty {now : ℚ} {bucket : Option (ℚ × ℤ)} {stored : ℚ × ℤ}
    (denied : bucketStep rate window burst now bucket = .ok (false, stored)) :
    stored = (now, 0) ∧ ∃ perSecond, intTrueDiv rate window = .ok perSecond := by
  rcases bucket with _ | ⟨lastCheck, tokens⟩
  · cases denied
  · obtain ⟨perSecond, earned, div, -, found⟩ := bucketStep_some_eq_ok.mp denied
    split_ifs at found <;> cases found
    exact ⟨rfl, perSecond, div⟩

/-- A call at the instant of the last check earns nothing. -/
theorem bucketStep_same_instant {now perSecond : ℚ} {tokens : ℤ}
    (div : intTrueDiv rate window = .ok perSecond) (stocked : 0 < tokens) (full : tokens ≤ burst) :
    bucketStep rate window burst now (some (now, tokens)) = .ok (true, (now, tokens - 1)) := by
  have zero : toFloat 0 = .finite 0 := isDouble_zero
  refine bucketStep_some_eq_ok.mpr ⟨perSecond, 0, div, ?_, ?_⟩
  · simp [zero, PyFloat.mulFinite, PyFloat.toInt, truncate]
  · rw [add_zero, min_eq_right full, if_pos stocked]

theorem bucketRun_cons_ok {now : ℚ} {bucket : Option (ℚ × ℤ)} {answer : Bool}
    {stored : ℚ × ℤ} (ok : bucketStep rate window burst now bucket = .ok (answer, stored))
    (rest : List ℚ) :
    bucketRun rate window burst bucket (now :: rest) =
      (.ok answer :: (bucketRun rate window burst (some stored) rest).1,
        (bucketRun rate window burst (some stored) rest).2) := by
  simp [bucketRun, ok, storedAfter]

theorem bucketRun_cons_error {now : ℚ} {bucket : Option (ℚ × ℤ)} {error : PyError}
    (raised : bucketStep rate window burst now bucket = .error error) (rest : List ℚ) :
    bucketRun rate window burst bucket (now :: rest) =
      (.error error :: (bucketRun rate window burst bucket rest).1,
        (bucketRun rate window burst bucket rest).2) := by
  simp [bucketRun, raised, storedAfter]

@[simp] theorem countP_letThrough_ok (answer : Bool) (answers : List (Except PyError Bool)) :
    (.ok answer :: answers).countP letThrough = answers.countP letThrough + answer.toNat := by
  cases answer <;> simp [letThrough]

@[simp] theorem countP_letThrough_error (error : PyError) (answers : List (Except PyError Bool)) :
    (.error error :: answers).countP letThrough = answers.countP letThrough := by
  simp [letThrough]

theorem bucketRun_length (bucket : Option (ℚ × ℤ)) (times : List ℚ) :
    (bucketRun rate window burst bucket times).1.length = times.length := by
  induction times generalizing bucket with
  | nil => rfl
  | cons now rest ih => simp [bucketRun, ih]

theorem bucketRun_append (bucket : Option (ℚ × ℤ)) (first second : List ℚ) :
    bucketRun rate window burst bucket (first ++ second) =
      ((bucketRun rate window burst bucket first).1 ++
          (bucketRun rate window burst (bucketRun rate window burst bucket first).2 second).1,
        (bucketRun rate window burst (bucketRun rate window burst bucket first).2 second).2) := by
  induction first generalizing bucket with
  | nil => rfl
  | cons now rest ih => simp [bucketRun, ih]

/-- The answer of the call after `done` is that of the step from the bucket `done` left. -/
theorem bucketRun_getElem?_length (bucket : Option (ℚ × ℤ)) (done : List ℚ) (now : ℚ)
    (rest : List ℚ) :
    (bucketRun rate window burst bucket (done ++ now :: rest)).1[done.length]? =
      some (Prod.fst <$> bucketStep rate window burst now
        (bucketRun rate window burst bucket done).2) := by
  rw [bucketRun_append, List.getElem?_append_right (bucketRun_length _ _).le, bucketRun_length,
    Nat.sub_self]
  simp only [bucketRun, List.getElem?_cons_zero]

theorem bucketRun_concat (bucket : Option (ℚ × ℤ)) (done : List ℚ) (now : ℚ) :
    (bucketRun rate window burst bucket (done ++ [now])).2 =
      storedAfter (bucketRun rate window burst bucket done).2
        (bucketStep rate window burst now (bucketRun rate window burst bucket done).2) := by
  rw [bucketRun_append]
  rfl

/-- **What a run from a stocked bucket stores**: a bucket stamped with the last check or with a
call's reading, holding `[0, burst - 1]` tokens. -/
theorem bucketRun_stored (burstPos : 1 ≤ burst) {lastCheck : ℚ} {tokens : ℤ} (stocked : 0 ≤ tokens)
    (full : tokens ≤ burst - 1) (times : List ℚ) :
    ∃ stamp left,
      (bucketRun rate window burst (some (lastCheck, tokens)) times).2 = some (stamp, left) ∧
        stamp ∈ lastCheck :: times ∧ 0 ≤ left ∧ left ≤ burst - 1 := by
  induction times generalizing lastCheck tokens with
  | nil => exact ⟨lastCheck, tokens, rfl, List.mem_cons_self _ _, stocked, full⟩
  | cons now rest ih =>
    cases step : bucketStep rate window burst now (some (lastCheck, tokens)) with
    | error error =>
      obtain ⟨stamp, left, stored, within, range⟩ := ih stocked full
      rw [bucketRun_cons_error step]
      exact ⟨stamp, left, stored, ((List.sublist_cons_self now rest).cons₂ lastCheck).subset within,
        range⟩
    | ok result =>
      obtain ⟨answer, stamped, left'⟩ := result
      obtain ⟨rfl, stocked', full', -⟩ := bucketStep_tokens burstPos step
      obtain ⟨stamp, left, stored, within, range⟩ := ih stocked' full'
      rw [bucketRun_cons_ok step]
      exact ⟨stamp, left, stored, List.mem_cons_of_mem _ within, range⟩

/-- From a key seen for the first time, a non-empty run stores one of its own calls' readings and
`[0, burst - 1]` tokens. -/
theorem bucketRun_none_stored (burstPos : 1 ≤ burst) {times : List ℚ} (nonempty : times ≠ []) :
    ∃ stamp left, (bucketRun rate window burst none times).2 = some (stamp, left) ∧
      stamp ∈ times ∧ 0 ≤ left ∧ left ≤ burst - 1 := by
  obtain ⟨now, rest, rfl⟩ := List.exists_cons_of_ne_nil nonempty
  rw [bucketRun_cons_ok (bucketStep_none now)]
  exact bucketRun_stored burstPos (by omega) le_rfl rest

/-! ## The refill in `float`s -/

/-- Every reading of a stream at non-decreasing times lies between its first and its last. -/
theorem mem_between {times : List ℚ} (sorted : times.Pairwise (· ≤ ·)) {first last : ℚ}
    (starts : times.head? = some first) (ends : times.getLast? = some last) {time : ℚ}
    (mem : time ∈ times) : first ≤ time ∧ time ≤ last := by
  constructor
  · obtain ⟨rest, rfl⟩ := List.head?_eq_some_iff.mp starts
    rcases List.mem_cons.mp mem with rfl | later
    exacts [le_rfl, (List.pairwise_cons.mp sorted).1 time later]
  · obtain ⟨before, rfl⟩ := List.getLast?_eq_some_iff.mp ends
    rcases List.mem_append.mp mem with earlier | final
    · exact (List.pairwise_append.mp sorted).2.2 time earlier last (List.mem_singleton_self last)
    · rw [List.mem_singleton.mp final]

/-- What `int()` of a product of `float`s computes: the rounded difference and the rounded
product are finite, and the result truncates the product. -/
theorem toInt_mulFinite_eq_ok {difference perSecond : ℚ} {earned : ℤ}
    (ok : ((toFloat difference).mulFinite perSecond).toInt = .ok earned) :
    ∃ elapsed product, toFloat difference = .finite elapsed ∧
      toFloat (elapsed * perSecond) = .finite product ∧ earned = truncate product := by
  cases rounded : toFloat difference with
  | finite elapsed =>
    rw [rounded] at ok
    cases product : toFloat (elapsed * perSecond) with
    | finite value =>
      simp only [PyFloat.mulFinite, product, PyFloat.toInt, Except.ok.injEq] at ok
      exact ⟨elapsed, value, rfl, product, ok.symm⟩
    | infinity negative => simp [PyFloat.mulFinite, product, PyFloat.toInt] at ok
    | nan => simp [PyFloat.mulFinite, product, PyFloat.toInt] at ok
  | infinity negative =>
    by_cases zero : perSecond = 0 <;> simp [rounded, PyFloat.mulFinite, zero, PyFloat.toInt] at ok
  | nan => simp [rounded, PyFloat.mulFinite, PyFloat.toInt] at ok

theorem truncate_of_nonneg {x : ℚ} (nonneg : 0 ≤ x) : truncate x = ⌊x⌋ := by
  simp [truncate, nonneg]

/-- **A difference of clock readings is rounded within `2 ^ -53`**, and not at all below
`2 ^ -1022`. -/
theorem elapsed_bounds {lastCheck now elapsed : ℚ} (doubleLast : IsDouble lastCheck)
    (doubleNow : IsDouble now) (later : lastCheck ≤ now)
    (rounded : toFloat (now - lastCheck) = .finite elapsed) :
    0 ≤ elapsed ∧ elapsed ≤ (now - lastCheck) * (1 + 2 ^ (-53 : ℤ)) ∧
      (now - lastCheck) * (1 - 2 ^ (-53 : ℤ)) ≤ elapsed := by
  have nonneg : 0 ≤ now - lastCheck := sub_nonneg.mpr later
  have u : (0 : ℚ) < 2 ^ (-53 : ℤ) := two_zpow_pos _
  by_cases normal : 2 ^ (-1022 : ℤ) ≤ now - lastCheck
  · rw [eq_nearestDouble_of_toFloat rounded]
    have close := abs_le.mp (nearestDouble_rel_le (by rwa [abs_of_nonneg nonneg]))
    rw [abs_of_nonneg nonneg] at close
    exact ⟨nearestDouble_nonneg nonneg, by linarith, by linarith⟩
  · rw [toFloat_sub_of_subnormal doubleNow doubleLast (by rwa [abs_of_nonneg nonneg, ← not_le]),
      PyFloat.finite.injEq] at rounded
    subst rounded
    exact ⟨nonneg, le_mul_of_one_le_right nonneg (by linarith),
      mul_le_of_le_one_right nonneg (by linarith)⟩

theorem rate_div_window_nonneg (ratePos : 0 ≤ rate) (windowPos : 0 < window) :
    (0 : ℚ) ≤ rate / window :=
  div_nonneg (by exact_mod_cast ratePos) (by exact_mod_cast windowPos.le)

/-- One token per `window / rate` seconds, with `rate ≥ 1` and `window ≤ 2 ^ 1022`, is a normal
`float`. -/
theorem rate_div_window_normal (positive : 1 ≤ rate) (windowPos : 0 < window)
    (windowNormal : window ≤ 2 ^ 1022) : (2 : ℚ) ^ (-1022 : ℤ) ≤ rate / window := by
  have window' : (0 : ℚ) < window := by exact_mod_cast windowPos
  have scaled : (window : ℚ) * 2 ^ (-1022 : ℤ) ≤ 1 :=
    calc (window : ℚ) * 2 ^ (-1022 : ℤ) ≤ ((2 ^ 1022 : ℤ) : ℚ) * 2 ^ (-1022 : ℤ) :=
          mul_le_mul_of_nonneg_right (Int.cast_le.mpr windowNormal) (two_zpow_pos _).le
      _ = 1 := by rw [Int.cast_pow, Int.cast_two, ← zpow_natCast, ← zpow_add₀ two_ne_zero]; rfl
  rw [le_div_iff₀ window', mul_comm]
  exact scaled.trans (by exact_mod_cast positive)

/-- The exact refill over a gap, with the `(1 + 2 ^ -51)` the roundings may add. -/
theorem refill_nonneg (ratePos : 0 ≤ rate) (windowPos : 0 < window) {gap : ℚ} (nonneg : 0 ≤ gap) :
    0 ≤ gap * (rate / window) * (1 + 2 ^ (-51 : ℤ)) :=
  mul_nonneg (mul_nonneg nonneg (rate_div_window_nonneg ratePos windowPos)) (by positivity)

theorem refill_le_refill (ratePos : 0 ≤ rate) (windowPos : 0 < window) {gap gap' : ℚ}
    (le : gap ≤ gap') :
    gap * (rate / window) * (1 + 2 ^ (-51 : ℤ)) ≤ gap' * (rate / window) * (1 + 2 ^ (-51 : ℤ)) :=
  mul_le_mul_of_nonneg_right
    (mul_le_mul_of_nonneg_right le (rate_div_window_nonneg ratePos windowPos)) (by positivity)

section Refill

variable (ratePos : 0 ≤ rate) (windowPos : 0 < window) (windowNormal : window ≤ 2 ^ 1022)
include ratePos windowPos windowNormal

/-- **The quotient `self.rate / self.window` is at most `2 ^ -53` above the exact rate.** -/
theorem perSecond_le {perSecond : ℚ} (div : intTrueDiv rate window = .ok perSecond) :
    0 ≤ perSecond ∧ perSecond ≤ rate / window * (1 + 2 ^ (-53 : ℤ)) := by
  have nonneg := rate_div_window_nonneg ratePos windowPos
  unfold intTrueDiv at div
  rw [if_neg windowPos.ne'] at div
  split at div <;> cases div
  next rounded =>
  rw [eq_nearestDouble_of_toFloat rounded]
  refine ⟨nearestDouble_nonneg nonneg, ?_⟩
  rcases ratePos.eq_or_lt with zero | positive
  · rw [← zero, Int.cast_zero, zero_div, nearestDouble_zero]
    norm_num
  · have normal := rate_div_window_normal positive windowPos windowNormal
    have close := (abs_le.mp (nearestDouble_rel_le (by rwa [abs_of_nonneg nonneg]))).2
    rw [abs_of_nonneg nonneg] at close
    linarith only [close]

/-- **The tokens a call earns are at most `(1 + 2 ^ -51)` times the exact refill.** -/
theorem earned_le {lastCheck now perSecond : ℚ} {earned : ℤ} (doubleLast : IsDouble lastCheck)
    (doubleNow : IsDouble now) (later : lastCheck ≤ now)
    (div : intTrueDiv rate window = .ok perSecond)
    (ok : ((toFloat (now - lastCheck)).mulFinite perSecond).toInt = .ok earned) :
    (earned : ℚ) ≤ (now - lastCheck) * (rate / window) * (1 + 2 ^ (-51 : ℤ)) := by
  obtain ⟨elapsed, product, rounded, multiplied, rfl⟩ := toInt_mulFinite_eq_ok ok
  obtain ⟨elapsed0, elapsedUp, -⟩ := elapsed_bounds doubleLast doubleNow later rounded
  obtain ⟨perSecond0, perSecondUp⟩ := perSecond_le ratePos windowPos windowNormal div
  have exact0 : 0 ≤ (now - lastCheck) * (rate / window) :=
    mul_nonneg (sub_nonneg.mpr later) (rate_div_window_nonneg ratePos windowPos)
  have product0 : 0 ≤ elapsed * perSecond := mul_nonneg elapsed0 perSecond0
  have productUp : elapsed * perSecond ≤
      (now - lastCheck) * (rate / window) * (1 + 2 ^ (-53 : ℤ)) ^ 2 :=
    calc elapsed * perSecond
        ≤ ((now - lastCheck) * (1 + 2 ^ (-53 : ℤ))) * (rate / window * (1 + 2 ^ (-53 : ℤ))) :=
          mul_le_mul elapsedUp perSecondUp perSecond0
            (mul_nonneg (sub_nonneg.mpr later) (by positivity))
      _ = (now - lastCheck) * (rate / window) * (1 + 2 ^ (-53 : ℤ)) ^ 2 := by ring
  rw [eq_nearestDouble_of_toFloat multiplied]
  have rounded0 := nearestDouble_nonneg product0
  rw [truncate_of_nonneg rounded0]
  by_cases whole : nearestDouble (elapsed * perSecond) < 1
  · rw [Int.floor_eq_zero_iff.mpr ⟨rounded0, whole⟩, Int.cast_zero]
    exact mul_nonneg exact0 (by positivity)
  · have tiny : (2 : ℚ) ^ (-1022 : ℤ) < 1 := zpow_lt_one_of_neg₀ one_lt_two (by norm_num)
    have up := (le_max_iff.mp (nearestDouble_le_max product0)).resolve_right
      fun subnormal => whole (subnormal.trans_lt tiny)
    have cube : (1 + (2 : ℚ) ^ (-53 : ℤ)) ^ 2 * (1 + 2 ^ (-53 : ℤ)) ≤ 1 + 2 ^ (-51 : ℤ) := by
      norm_num
    calc (⌊nearestDouble (elapsed * perSecond)⌋ : ℚ)
        ≤ nearestDouble (elapsed * perSecond) := Int.floor_le _
      _ ≤ elapsed * perSecond * (1 + 2 ^ (-53 : ℤ)) := up
      _ ≤ (now - lastCheck) * (rate / window) * (1 + 2 ^ (-53 : ℤ)) ^ 2 *
          (1 + 2 ^ (-53 : ℤ)) := mul_le_mul_of_nonneg_right productUp (by positivity)
      _ ≤ (now - lastCheck) * (rate / window) * (1 + 2 ^ (-51 : ℤ)) := by
          rw [mul_assoc]
          exact mul_le_mul_of_nonneg_left cube exact0

/-- **What a call costs**: the call let through and the tokens it leaves are at most the tokens
before plus `(1 + 2 ^ -51)` times the exact refill. -/
theorem bucketStep_credit {lastCheck now : ℚ} {tokens : ℤ} {answer : Bool} {stored : ℚ × ℤ}
    (doubleLast : IsDouble lastCheck) (doubleNow : IsDouble now) (later : lastCheck ≤ now)
    (stocked : 0 ≤ tokens)
    (ok : bucketStep rate window burst now (some (lastCheck, tokens)) = .ok (answer, stored)) :
    (answer.toNat + stored.2 : ℚ) ≤
      tokens + (now - lastCheck) * (rate / window) * (1 + 2 ^ (-51 : ℤ)) := by
  obtain ⟨perSecond, earned, div, earn, found⟩ := bucketStep_some_eq_ok.mp ok
  have bound := earned_le ratePos windowPos windowNormal doubleLast doubleNow later div earn
  have spent : (answer.toNat : ℤ) + stored.2 ≤ max 0 (tokens + earned) := by
    split_ifs at found <;> cases found <;> simp only [Bool.toNat_true, Bool.toNat_false] <;> omega
  have spent' : (answer.toNat + stored.2 : ℚ) ≤ max 0 ((tokens : ℚ) + earned) := by
    exact_mod_cast spent
  have stocked' : (0 : ℚ) ≤ tokens := by exact_mod_cast stocked
  exact spent'.trans (max_le
    (add_nonneg stocked' (refill_nonneg ratePos windowPos (sub_nonneg.mpr later)))
    (add_le_add_left bound _))

/-- **What a run costs**: from a bucket stamped `lastCheck`, the calls let through and the tokens
left are at most the tokens before plus `(1 + 2 ^ -51)` times the exact refill up to the last
stamp. -/
theorem bucketRun_credit (burstPos : 1 ≤ burst) {lastCheck : ℚ} {tokens : ℤ}
    (doubleLast : IsDouble lastCheck) (stocked : 0 ≤ tokens) {times : List ℚ}
    (sorted : (lastCheck :: times).Pairwise (· ≤ ·)) (doubles : ∀ now ∈ times, IsDouble now) :
    ∃ stamp left,
      (bucketRun rate window burst (some (lastCheck, tokens)) times).2 = some (stamp, left) ∧
      stamp ∈ lastCheck :: times ∧ 0 ≤ left ∧
      ((bucketRun rate window burst (some (lastCheck, tokens)) times).1.countP letThrough + left
          : ℚ) ≤ tokens + (stamp - lastCheck) * (rate / window) * (1 + 2 ^ (-51 : ℤ)) := by
  induction times generalizing lastCheck tokens with
  | nil => exact ⟨lastCheck, tokens, rfl, List.mem_cons_self _ _, stocked, by simp [bucketRun]⟩
  | cons now rest ih =>
    obtain ⟨ahead, sortedRest⟩ := List.pairwise_cons.mp sorted
    have later := ahead now (List.mem_cons_self _ _)
    have doubleNow := doubles now (List.mem_cons_self _ _)
    have doublesRest := fun time (mem : time ∈ rest) => doubles time (List.mem_cons_of_mem _ mem)
    cases step : bucketStep rate window burst now (some (lastCheck, tokens)) with
    | error error =>
      have skipped := (List.sublist_cons_self now rest).cons₂ lastCheck
      obtain ⟨stamp, left, stored, within, left0, cost⟩ :=
        ih doubleLast stocked (sorted.sublist skipped) doublesRest
      rw [bucketRun_cons_error step, countP_letThrough_error]
      exact ⟨stamp, left, stored, skipped.subset within, left0, cost⟩
    | ok result =>
      obtain ⟨answer, stamped, left'⟩ := result
      have credit := bucketStep_credit ratePos windowPos windowNormal doubleLast doubleNow later
        stocked step
      obtain ⟨rfl, stocked', -, -⟩ := bucketStep_tokens burstPos step
      obtain ⟨stamp, left, stored, within, left0, cost⟩ := ih doubleNow stocked' sortedRest doublesRest
      rw [bucketRun_cons_ok step, countP_letThrough_ok]
      refine ⟨stamp, left, stored, List.mem_cons_of_mem _ within, left0, ?_⟩
      push_cast
      calc _ = ((answer.toNat : ℚ) + left') + (_ + left) - left' := by ring
        _ ≤ _ := sub_le_sub_right (add_le_add credit cost) _
        _ = _ := by ring

/-- **A segment of calls lets through at most `burst` plus `(1 + 2 ^ -51)` times its exact
refill**, whatever the bucket before it held: the calls before its first call that raises
nothing let nothing through, that call leaves at most `burst` with what it lets through, and the
run credit does the rest. -/
theorem bucketRun_segment_credit (burstPos : 1 ≤ burst) (bucket : Option (ℚ × ℤ)) {last : ℚ} :
    ∀ {first : ℚ} {rest : List ℚ}, (first :: rest).Pairwise (· ≤ ·) →
      (∀ now ∈ first :: rest, IsDouble now) → (first :: rest).getLast? = some last →
      ((bucketRun rate window burst bucket (first :: rest)).1.countP letThrough : ℚ) ≤
        burst + (last - first) * (rate / window) * (1 + 2 ^ (-51 : ℤ))
  | first, rest, sorted, doubles, ends => by
    have spread := (mem_between sorted rfl ends (List.mem_cons_self _ _)).2
    have burst' : (1 : ℚ) ≤ burst := by exact_mod_cast burstPos
    cases step : bucketStep rate window burst first bucket with
    | ok result =>
      obtain ⟨answer, stamped, left⟩ := result
      obtain ⟨rfl, stocked, -, capped⟩ := bucketStep_tokens burstPos step
      obtain ⟨stamp, final, -, within, final0, cost⟩ :=
        bucketRun_credit ratePos windowPos windowNormal burstPos (doubles _ (List.mem_cons_self _ _))
          stocked sorted (fun time mem => doubles time (List.mem_cons_of_mem _ mem))
      have grow := refill_le_refill ratePos windowPos
        (sub_le_sub_right (mem_between sorted rfl ends within).2 stamped)
      have capped' : (answer.toNat + left : ℚ) ≤ burst := by exact_mod_cast capped
      have final0' : (0 : ℚ) ≤ final := by exact_mod_cast final0
      rw [bucketRun_cons_ok step, countP_letThrough_ok]
      push_cast
      calc _ ≤ (answer.toNat + left : ℚ) + (stamp - stamped) * (rate / window) * (1 + 2 ^ (-51 : ℤ)) :=
            by linarith only [cost, final0']
        _ ≤ _ := add_le_add capped' grow
    | error error =>
      rw [bucketRun_cons_error step, countP_letThrough_error]
      match rest, sorted, doubles, ends with
      | [], _, _, _ =>
        have := refill_nonneg ratePos windowPos (sub_nonneg.mpr spread)
        simp only [bucketRun, List.countP_nil, Nat.cast_zero]
        exact add_nonneg (zero_le_one.trans burst') this
      | next :: rest, sorted, doubles, ends =>
        have ahead : first ≤ next := List.rel_of_pairwise_cons sorted (List.mem_cons_self _ _)
        have shorter := bucketRun_segment_credit burstPos bucket sorted.of_cons
          (fun time mem => doubles time (List.mem_cons_of_mem _ mem))
          (by rwa [List.getLast?_cons_cons] at ends)
        exact shorter.trans
          (add_le_add_left (refill_le_refill ratePos windowPos (sub_le_sub_left ahead last)) _)

end Refill

/-- Less than a bound in refills is less than the bound in `window / rate` seconds. -/
theorem mul_rate_div_window_lt_iff (positive : 1 ≤ rate) (windowPos : 0 < window)
    (gap bound : ℚ) : gap * (rate / window) < bound ↔ gap < window / rate * bound := by
  have rate' : (0 : ℚ) < rate := Int.cast_pos.mpr (by omega)
  have window' : (0 : ℚ) < window := by exact_mod_cast windowPos
  rw [← lt_div_iff₀ (div_pos rate' window'),
    show bound / (rate / window) = window / rate * bound by rw [div_div_eq_mul_div]; ring]

section Denial

variable (positive : 1 ≤ rate) (windowPos : 0 < window) (windowNormal : window ≤ 2 ^ 1022)
include positive windowPos windowNormal

theorem le_perSecond {perSecond : ℚ} (div : intTrueDiv rate window = .ok perSecond) :
    rate / window * (1 - 2 ^ (-53 : ℤ)) ≤ perSecond := by
  unfold intTrueDiv at div
  rw [if_neg windowPos.ne'] at div
  split at div <;> cases div
  next rounded =>
  rw [eq_nearestDouble_of_toFloat rounded]
  exact le_nearestDouble (rate_div_window_normal positive windowPos windowNormal)

/-- **A call at least `(1 + 2 ^ -51)` refills after the last check earns a token**, when it
raises nothing. -/
theorem earned_pos {lastCheck now perSecond : ℚ} {earned : ℤ}
    (doubleLast : IsDouble lastCheck) (doubleNow : IsDouble now) (later : lastCheck ≤ now)
    (div : intTrueDiv rate window = .ok perSecond)
    (ok : ((toFloat (now - lastCheck)).mulFinite perSecond).toInt = .ok earned)
    (due : 1 + 2 ^ (-51 : ℤ) ≤ (now - lastCheck) * (rate / window)) :
    1 ≤ earned := by
  obtain ⟨elapsed, product, rounded, multiplied, rfl⟩ := toInt_mulFinite_eq_ok ok
  obtain ⟨elapsed0, -, elapsedDown⟩ := elapsed_bounds doubleLast doubleNow later rounded
  obtain ⟨perSecond0, -⟩ := perSecond_le (by omega) windowPos windowNormal div
  have perSecondDown := le_perSecond positive windowPos windowNormal div
  have shrink : (0 : ℚ) ≤ 1 - 2 ^ (-53 : ℤ) :=
    sub_nonneg.mpr (zpow_le_one_of_nonpos₀ one_le_two (by norm_num))
  have productDown : (now - lastCheck) * (rate / window) * (1 - 2 ^ (-53 : ℤ)) ^ 2 ≤
      elapsed * perSecond :=
    calc (now - lastCheck) * (rate / window) * (1 - 2 ^ (-53 : ℤ)) ^ 2
        = ((now - lastCheck) * (1 - 2 ^ (-53 : ℤ))) * (rate / window * (1 - 2 ^ (-53 : ℤ))) := by
          ring
      _ ≤ elapsed * perSecond := mul_le_mul elapsedDown perSecondDown
          (mul_nonneg (rate_div_window_nonneg (by omega) windowPos) shrink) elapsed0
  have margin : 1 ≤ (1 + (2 : ℚ) ^ (-51 : ℤ)) * (1 - 2 ^ (-53 : ℤ)) ^ 2 * (1 - 2 ^ (-53 : ℤ)) := by
    norm_num
  have large : 1 ≤ (1 + (2 : ℚ) ^ (-51 : ℤ)) * (1 - 2 ^ (-53 : ℤ)) ^ 2 := by norm_num
  have reached : (1 + (2 : ℚ) ^ (-51 : ℤ)) * (1 - 2 ^ (-53 : ℤ)) ^ 2 ≤ elapsed * perSecond :=
    (mul_le_mul_of_nonneg_right due (by positivity)).trans productDown
  have down := le_nearestDouble ((zpow_le_one_of_nonpos₀ one_le_two (by norm_num)).trans
    (large.trans reached))
  rw [eq_nearestDouble_of_toFloat multiplied,
    truncate_of_nonneg (nearestDouble_nonneg (mul_nonneg elapsed0 perSecond0))]
  refine Int.le_floor.mpr ?_
  rw [Int.cast_one]
  calc (1 : ℚ) ≤ (1 + 2 ^ (-51 : ℤ)) * (1 - 2 ^ (-53 : ℤ)) ^ 2 * (1 - 2 ^ (-53 : ℤ)) := margin
    _ ≤ elapsed * perSecond * (1 - 2 ^ (-53 : ℤ)) :=
        mul_le_mul_of_nonneg_right reached shrink
    _ ≤ nearestDouble (elapsed * perSecond) := down

/-- **A call less than `(1 - 2 ^ -51)` refills after the last check earns nothing**, and raises
nothing. -/
theorem earned_eq_zero {lastCheck now perSecond : ℚ} (doubleLast : IsDouble lastCheck)
    (doubleNow : IsDouble now) (later : lastCheck ≤ now)
    (div : intTrueDiv rate window = .ok perSecond)
    (early : (now - lastCheck) * (rate / window) < 1 - 2 ^ (-51 : ℤ)) :
    ((toFloat (now - lastCheck)).mulFinite perSecond).toInt = .ok 0 := by
  have nonneg : 0 ≤ now - lastCheck := sub_nonneg.mpr later
  have small : now - lastCheck ≤ 2 ^ (1023 : ℤ) := by
    have below : (now - lastCheck) * 2 ^ (-1022 : ℤ) < 1 :=
      (mul_le_mul_of_nonneg_left (rate_div_window_normal positive windowPos windowNormal)
        nonneg).trans_lt (early.trans (by norm_num))
    rw [← lt_div_iff₀ (two_zpow_pos _), one_div, ← zpow_neg, neg_neg] at below
    exact below.le.trans (zpow_le_zpow_right₀ one_le_two (by norm_num))
  have rounded := toFloat_of_nonneg_of_le nonneg small
  obtain ⟨elapsed0, elapsedUp, -⟩ := elapsed_bounds doubleLast doubleNow later rounded
  obtain ⟨perSecond0, perSecondUp⟩ := perSecond_le (by omega) windowPos windowNormal div
  have product0 := mul_nonneg elapsed0 perSecond0
  have productUp : nearestDouble (now - lastCheck) * perSecond ≤
      (now - lastCheck) * (rate / window) * (1 + 2 ^ (-53 : ℤ)) ^ 2 :=
    calc nearestDouble (now - lastCheck) * perSecond
        ≤ ((now - lastCheck) * (1 + 2 ^ (-53 : ℤ))) * (rate / window * (1 + 2 ^ (-53 : ℤ))) :=
          mul_le_mul elapsedUp perSecondUp perSecond0 (by positivity)
      _ = (now - lastCheck) * (rate / window) * (1 + 2 ^ (-53 : ℤ)) ^ 2 := by ring
  have margin : (1 - (2 : ℚ) ^ (-51 : ℤ)) * (1 + 2 ^ (-53 : ℤ)) ^ 2 * (1 + 2 ^ (-53 : ℤ)) < 1 := by
    norm_num
  have below : nearestDouble (now - lastCheck) * perSecond * (1 + 2 ^ (-53 : ℤ)) < 1 :=
    calc nearestDouble (now - lastCheck) * perSecond * (1 + 2 ^ (-53 : ℤ))
        ≤ (now - lastCheck) * (rate / window) * (1 + 2 ^ (-53 : ℤ)) ^ 2 * (1 + 2 ^ (-53 : ℤ)) :=
          mul_le_mul_of_nonneg_right productUp (by positivity)
      _ ≤ (1 - 2 ^ (-51 : ℤ)) * (1 + 2 ^ (-53 : ℤ)) ^ 2 * (1 + 2 ^ (-53 : ℤ)) :=
          mul_le_mul_of_nonneg_right (mul_le_mul_of_nonneg_right early.le (by positivity))
            (by positivity)
      _ < 1 := margin
  have tiny : (2 : ℚ) ^ (-1022 : ℤ) < 1 := zpow_lt_one_of_neg₀ one_lt_two (by norm_num)
  have whole : nearestDouble (nearestDouble (now - lastCheck) * perSecond) < 1 :=
    (nearestDouble_le_max product0).trans_lt (max_lt below tiny)
  have product : toFloat (nearestDouble (now - lastCheck) * perSecond) =
      .finite (nearestDouble (nearestDouble (now - lastCheck) * perSecond)) :=
    toFloat_of_nonneg_of_le product0 (by
      linarith only [below, one_le_zpow₀ (one_le_two : (1 : ℚ) ≤ 2) (by norm_num : (0 : ℤ) ≤ 1023),
        mul_le_mul_of_nonneg_left (by norm_num : (1 : ℚ) ≤ 1 + 2 ^ (-53 : ℤ)) product0])
  rw [rounded]
  simp only [PyFloat.mulFinite, product, PyFloat.toInt, truncate_of_nonneg (nearestDouble_nonneg product0),
    Int.floor_eq_zero_iff.mpr ⟨nearestDouble_nonneg product0, whole⟩]

/-- **A denied call comes less than `(1 + 2 ^ -51)` refills after the bucket's last check.** -/
theorem bucketStep_denied (burstPos : 1 ≤ burst) {lastCheck now : ℚ} {tokens : ℤ}
    {stored : ℚ × ℤ} (doubleLast : IsDouble lastCheck) (doubleNow : IsDouble now)
    (later : lastCheck ≤ now) (stocked : 0 ≤ tokens)
    (denied : bucketStep rate window burst now (some (lastCheck, tokens)) = .ok (false, stored)) :
    (now - lastCheck) * (rate / window) < 1 + 2 ^ (-51 : ℤ) := by
  obtain ⟨perSecond, earned, div, earn, found⟩ := bucketStep_some_eq_ok.mp denied
  by_contra due
  have gained := earned_pos positive windowPos windowNormal doubleLast doubleNow later div earn
    (not_lt.mp due)
  rw [if_pos (by omega)] at found
  cases found

/-- **After a denial, a call less than `(1 - 2 ^ -51)` refills later is denied.** -/
theorem bucketStep_after_denial {lastCheck now perSecond : ℚ} (doubleLast : IsDouble lastCheck)
    (doubleNow : IsDouble now) (later : lastCheck ≤ now)
    (div : intTrueDiv rate window = .ok perSecond)
    (early : (now - lastCheck) * (rate / window) < 1 - 2 ^ (-51 : ℤ)) :
    bucketStep rate window burst now (some (lastCheck, 0)) = .ok (false, (now, 0)) :=
  bucketStep_some_eq_ok.mpr ⟨perSecond, 0, div,
    earned_eq_zero positive windowPos windowNormal doubleLast doubleNow later div early,
    by rw [if_neg (by omega)]⟩

end Denial

end Bucket

/-! ## What `allow` guarantees over a run -/

namespace TokenBucketRateLimiter

/-- **Rate bound.** With `burst ≥ 1`, `rate ≥ 0` and `0 < window ≤ 2 ^ 1022`, over calls on one
key at non-decreasing `time.time()` readings, calls `i..j` return `True` at most
`burst + (t_j - t_i) * rate / window * (1 + 2 ^ -51)` times, whatever the key's bucket was before;
and from a key seen for the first time, after any non-empty run the key's bucket holds one of the
run's readings and `[0, burst - 1]` tokens. -/
theorem allow_rate_bound (limiter : TokenBucketRateLimiter) (key : String)
    (burstPos : 1 ≤ limiter.burst) (ratePos : 0 ≤ limiter.rate) (windowPos : 0 < limiter.window)
    (windowNormal : limiter.window ≤ 2 ^ 1022) :
    (∀ times : List ℚ, times.Pairwise (· ≤ ·) → (∀ now ∈ times, IsDouble now) →
      ∀ (before segment after : List ℚ) (first last : ℚ), times = before ++ segment ++ after →
        segment.head? = some first → segment.getLast? = some last →
        ((((limiter.allowRun key times).1.drop before.length).take segment.length).countP
            letThrough : ℚ) ≤
          limiter.burst + (last - first) * limiter.rate / limiter.window * (1 + 2 ^ (-51 : ℤ))) ∧
    (limiter.buckets key = none → ∀ times : List ℚ, times ≠ [] →
      ∃ stamp tokens, (limiter.allowRun key times).2.buckets key = some (stamp, tokens) ∧
        stamp ∈ times ∧ 0 ≤ tokens ∧ tokens ≤ limiter.burst - 1) := by
  refine ⟨fun times sorted doubles before segment after first last split head tail => ?_,
    fun fresh times nonempty => ?_⟩
  · obtain ⟨rest, rfl⟩ := List.head?_eq_some_iff.mp head
    subst split
    have sortedSegment := (List.pairwise_append.mp (List.pairwise_append.mp sorted).1).2.1
    simp only [(allowRun_eq_bucketRun limiter key _).1, bucketRun_append, List.append_assoc]
    rw [List.drop_left' (bucketRun_length _ _), List.take_left' (bucketRun_length _ _),
      mul_div_assoc]
    exact bucketRun_segment_credit ratePos windowPos windowNormal burstPos _ sortedSegment
      (fun now mem => doubles now (List.mem_append_left _ (List.mem_append_right _ mem))) tail
  · rw [(allowRun_eq_bucketRun limiter key _).2, fresh]
    exact bucketRun_none_stored burstPos nonempty

/-- A limiter letting one call a minute through, with no bucket yet. -/
def oncePerMinute : TokenBucketRateLimiter :=
  ⟨1, 60, 1, fun _ => none⟩

theorem allow_rate_bound_once_per_minute :
    (∀ times : List ℚ, times.Pairwise (· ≤ ·) → (∀ now ∈ times, IsDouble now) →
      ∀ (before segment after : List ℚ) (first last : ℚ), times = before ++ segment ++ after →
        segment.head? = some first → segment.getLast? = some last →
        ((((oncePerMinute.allowRun "k" times).1.drop before.length).take segment.length).countP
            letThrough : ℚ) ≤
          oncePerMinute.burst + (last - first) * oncePerMinute.rate / oncePerMinute.window *
            (1 + 2 ^ (-51 : ℤ))) ∧
    (oncePerMinute.buckets "k" = none → ∀ times : List ℚ, times ≠ [] →
      ∃ stamp tokens, (oncePerMinute.allowRun "k" times).2.buckets "k" = some (stamp, tokens) ∧
        stamp ∈ times ∧ 0 ≤ tokens ∧ tokens ≤ oncePerMinute.burst - 1) :=
  allow_rate_bound oncePerMinute "k" (by decide) (by decide) (by decide)
    (by norm_num [oncePerMinute])

/-- A limiter letting one call in five seconds through, three at once, with no bucket yet. -/
def threeEveryFiveSeconds : TokenBucketRateLimiter :=
  ⟨1, 5, 3, fun _ => none⟩

/-- The `float` `time.time()` returns for the reading `0.1`. -/
def earlyTick : ℚ :=
  3602879701896397 * 2 ^ (-55 : ℤ)

/-- The `float` `time.time()` returns for the reading `15.1`. -/
def lateTick : ℚ :=
  8500544296661811 * 2 ^ (-49 : ℤ)

/-- **The rounding can let a run through more often than the exact refill allows.** Three calls
at the `float` `0.1` and three at the `float` `15.1` all return `True`: the readings are
`15 - 2 ^ -49 * 0.5...` apart, which `now - last_check` rounds up to `15.0`, and
`15.0 * (1 / 5)` rounds to `3.0`, a whole third token, so six calls pass where
`burst + (t_6 - t_1) * rate / window` is below six. -/
theorem float_refill_rounds_up :
    (threeEveryFiveSeconds.allowRun "k"
        [earlyTick, earlyTick, earlyTick, lateTick, lateTick, lateTick]).1 =
      [.ok true, .ok true, .ok true, .ok true, .ok true, .ok true] ∧
    IsDouble earlyTick ∧ IsDouble lateTick ∧ earlyTick ≤ lateTick ∧
    threeEveryFiveSeconds.burst + (lateTick - earlyTick) * threeEveryFiveSeconds.rate /
      threeEveryFiveSeconds.window < (6 : ℚ) := by
  have gap : lateTick - earlyTick = 540431955284459507 * 2 ^ (-55 : ℤ) := by
    norm_num [lateTick, earlyTick]
  have fifth : intTrueDiv 1 5 = .ok (7205759403792794 * 2 ^ (-55 : ℤ)) := by
    rw [intTrueDiv_of_le (by norm_num) (by norm_num) (by norm_num),
      @nearestDouble_eq_of_near _ 7205759403792794 (-55) (by norm_num)
        (by rw [abs_of_pos (by norm_num)]; norm_num) (by rw [abs_of_pos (by norm_num)]; norm_num)
        (abs_sub_lt_iff.mpr ⟨by norm_num, by norm_num⟩)]
    norm_num
  have elapsed : toFloat (lateTick - earlyTick) = .finite 15 := by
    rw [gap, toFloat_of_nonneg_of_le (by positivity) (by norm_num),
      @nearestDouble_eq_of_near _ 8444249301319680 (-49) (by norm_num)
        (by rw [abs_of_pos (by positivity)]; norm_num)
        (by rw [abs_of_pos (by positivity)]; norm_num)
        (abs_sub_lt_iff.mpr ⟨by norm_num, by norm_num⟩)]
    norm_num
  have refill : toFloat (15 * (7205759403792794 * 2 ^ (-55 : ℤ))) = .finite 3 := by
    rw [toFloat_of_nonneg_of_le (by positivity) (by norm_num),
      @nearestDouble_eq_of_near _ 6755399441055744 (-51) (by norm_num)
        (by rw [abs_of_pos (by positivity)]; norm_num)
        (by rw [abs_of_pos (by positivity)]; norm_num)
        (abs_sub_lt_iff.mpr ⟨by norm_num, by norm_num⟩)]
    norm_num
  have early1 : bucketStep 1 5 3 earlyTick none = .ok (true, (earlyTick, 2)) := rfl
  have early2 : bucketStep 1 5 3 earlyTick (some (earlyTick, 2)) = .ok (true, (earlyTick, 1)) :=
    bucketStep_same_instant fifth (by norm_num) (by norm_num)
  have early3 : bucketStep 1 5 3 earlyTick (some (earlyTick, 1)) = .ok (true, (earlyTick, 0)) :=
    bucketStep_same_instant fifth (by norm_num) (by norm_num)
  have late1 : bucketStep 1 5 3 lateTick (some (earlyTick, 0)) = .ok (true, (lateTick, 2)) :=
    bucketStep_some_eq_ok.mpr ⟨_, 3, fifth,
      by simp only [elapsed, PyFloat.mulFinite, refill, PyFloat.toInt]; norm_num [truncate],
      by norm_num⟩
  have late2 : bucketStep 1 5 3 lateTick (some (lateTick, 2)) = .ok (true, (lateTick, 1)) :=
    bucketStep_same_instant fifth (by norm_num) (by norm_num)
  have late3 : bucketStep 1 5 3 lateTick (some (lateTick, 1)) = .ok (true, (lateTick, 0)) :=
    bucketStep_same_instant fifth (by norm_num) (by norm_num)
  refine ⟨?_, isDouble_of_grid _ _ (by norm_num) (by norm_num)
      (by rw [abs_of_pos (by positivity)]; norm_num),
    isDouble_of_grid _ _ (by norm_num) (by norm_num) (by rw [abs_of_pos (by positivity)]; norm_num),
    by norm_num [earlyTick, lateTick], by norm_num [threeEveryFiveSeconds, earlyTick, lateTick]⟩
  rw [(allowRun_eq_bucketRun _ _ _).1]
  show (bucketRun 1 5 3 none _).1 = _
  rw [bucketRun_cons_ok early1, bucketRun_cons_ok early2, bucketRun_cons_ok early3,
    bucketRun_cons_ok late1, bucketRun_cons_ok late2, bucketRun_cons_ok late3]
  rfl

/-- **Denied calls are close together, and close retries stay denied.** With `burst ≥ 1`,
`rate ≥ 1` and `0 < window ≤ 2 ^ 1022`, over calls on a key seen for the first time at
non-decreasing `time.time()` readings, a call that returns `False` comes less than
`window / rate * (1 + 2 ^ -51)` after the call before it; and after a call that returned `False`,
the next call returns `False` when it comes less than `window / rate * (1 - 2 ^ -51)` later. -/
theorem allow_denial_gaps (limiter : TokenBucketRateLimiter) (key : String)
    (burstPos : 1 ≤ limiter.burst) (positive : 1 ≤ limiter.rate) (windowPos : 0 < limiter.window)
    (windowNormal : limiter.window ≤ 2 ^ 1022) (fresh : limiter.buckets key = none)
    (times : List ℚ) (sorted : times.Pairwise (· ≤ ·)) (doubles : ∀ now ∈ times, IsDouble now) :
    ∀ (before after : List ℚ) (previous current : ℚ),
      times = before ++ previous :: current :: after →
      ((limiter.allowRun key times).1[before.length + 1]? = some (.ok false) →
        current - previous < limiter.window / limiter.rate * (1 + 2 ^ (-51 : ℤ))) ∧
      ((limiter.allowRun key times).1[before.length]? = some (.ok false) →
        current - previous < limiter.window / limiter.rate * (1 - 2 ^ (-51 : ℤ)) →
        (limiter.allowRun key times).1[before.length + 1]? = some (.ok false)) := by
  rintro before after previous current rfl
  obtain ⟨-, sortedTail, sortedAcross⟩ := List.pairwise_append.mp sorted
  have later : previous ≤ current :=
    (List.pairwise_cons.mp sortedTail).1 current (List.mem_cons_self _ _)
  have doublePrevious := doubles previous (by simp)
  have doubleCurrent := doubles current (by simp)
  have atCurrent := @bucketRun_getElem?_length limiter.rate limiter.window limiter.burst none
    (before ++ [previous]) current after
  rw [List.append_assoc, List.singleton_append, List.length_append, List.length_singleton]
    at atCurrent
  rw [(allowRun_eq_bucketRun limiter key _).1, fresh, atCurrent, bucketRun_getElem?_length]
  constructor
  · intro denied
    obtain ⟨stamp, left, stored, within, stocked, -⟩ :=
      @bucketRun_none_stored limiter.rate limiter.window limiter.burst burstPos (before ++ [previous])
        (by simp)
    rw [stored] at denied
    obtain ⟨_, step⟩ := fst_map_eq_ok.mp (Option.some.inj denied)
    have ⟨upTo, doubleStamp⟩ : stamp ≤ previous ∧ IsDouble stamp := by
      rcases List.mem_append.mp within with early | final
      · exact ⟨sortedAcross stamp early previous (List.mem_cons_self _ _),
          doubles stamp (List.mem_append_left _ early)⟩
      · obtain rfl := List.mem_singleton.mp final
        exact ⟨le_rfl, doublePrevious⟩
    have close := bucketStep_denied positive windowPos windowNormal burstPos doubleStamp
      doubleCurrent (upTo.trans later) stocked step
    rw [← mul_rate_div_window_lt_iff positive windowPos]
    exact (mul_le_mul_of_nonneg_right (sub_le_sub_left upTo current)
      (rate_div_window_nonneg (by omega) windowPos)).trans_lt close
  · intro deniedBefore early
    obtain ⟨stored, step⟩ := fst_map_eq_ok.mp (Option.some.inj deniedBefore)
    obtain ⟨rfl, perSecond, div⟩ := bucketStep_denied_empty step
    rw [bucketRun_concat, step, storedAfter,
      bucketStep_after_denial positive windowPos windowNormal doublePrevious doubleCurrent later div
        ((mul_rate_div_window_lt_iff positive windowPos _ _).mpr early)]
    rfl

theorem allow_denial_gaps_once_per_minute :
    ((oncePerMinute.allowRun "k" [0, 30, 60, 90]).1[2]? = some (.ok false) →
        (60 - 30 : ℚ) < oncePerMinute.window / oncePerMinute.rate * (1 + 2 ^ (-51 : ℤ))) ∧
      ((oncePerMinute.allowRun "k" [0, 30, 60, 90]).1[1]? = some (.ok false) →
        (60 - 30 : ℚ) < oncePerMinute.window / oncePerMinute.rate * (1 - 2 ^ (-51 : ℤ)) →
        (oncePerMinute.allowRun "k" [0, 30, 60, 90]).1[2]? = some (.ok false)) :=
  allow_denial_gaps oncePerMinute "k" (by decide) (by decide) (by decide)
    (by norm_num [oncePerMinute]) rfl [0, 30, 60, 90]
    (by simp only [List.pairwise_cons, List.mem_cons, List.mem_singleton]; norm_num)
    (fun now mem => by
      simp only [List.mem_cons, List.mem_singleton, List.not_mem_nil, or_false] at mem
      rcases mem with rfl | rfl | rfl | rfl
      exacts [isDouble_zero, by simpa using isDouble_intCast 30 (by norm_num),
        by simpa using isDouble_intCast 60 (by norm_num),
        by simpa using isDouble_intCast 90 (by norm_num)])
    [0] [90] 30 60 rfl

/-- **A run of denials can outlast the refill time**: one call a minute, calls at `0, 30, 60, 90`.
The first is let through and empties the bucket; each later one comes 30 seconds after the one
before, earns `int(30.0 * (1 / 60)) = 0` tokens and restarts the refill clock, so the denials at
`30, 60, 90` span 60 seconds, `window / rate`. -/
theorem denial_run_outlasts_refill :
    (oncePerMinute.allowRun "k" [0, 30, 60, 90]).1 = [.ok true, .ok false, .ok false, .ok false] ∧
      oncePerMinute.window / oncePerMinute.rate ≤ (90 - 30 : ℚ) := by
  have div := intTrueDiv_of_le (by norm_num : (0 : ℤ) ≤ 1) (by norm_num : (1 : ℤ) ≤ 60)
    (by norm_num)
  have denied : ∀ lastCheck now : ℚ, IsDouble lastCheck → IsDouble now → now - lastCheck = 30 →
      bucketStep 1 60 1 now (some (lastCheck, 0)) = .ok (false, (now, 0)) :=
    fun lastCheck now doubleLast doubleNow gap =>
      bucketStep_after_denial (by norm_num) (by norm_num) (by norm_num) doubleLast doubleNow
        (by linarith) div (by rw [gap]; norm_num)
  have thirty : IsDouble 30 := by simpa using isDouble_intCast 30 (by norm_num)
  have sixty : IsDouble 60 := by simpa using isDouble_intCast 60 (by norm_num)
  have ninety : IsDouble 90 := by simpa using isDouble_intCast 90 (by norm_num)
  refine ⟨?_, by norm_num [oncePerMinute]⟩
  rw [(allowRun_eq_bucketRun _ _ _).1]
  show (bucketRun 1 60 1 none _).1 = _
  rw [bucketRun_cons_ok (show bucketStep 1 60 1 0 none = .ok (true, (0, 0)) from rfl),
    bucketRun_cons_ok (denied 0 30 isDouble_zero thirty (by norm_num)),
    bucketRun_cons_ok (denied 30 60 thirty sixty (by norm_num)),
    bucketRun_cons_ok (denied 60 90 sixty ninety (by norm_num))]
  rfl

end TokenBucketRateLimiter

end ChannelLayer
