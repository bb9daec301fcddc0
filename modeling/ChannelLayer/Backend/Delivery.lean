/-
**Delivery: one queue per subscribed channel, holding what its period published and no getter
took.**

`DeliveryInvariant` holds on every run (`deliveryInvariant_run`): a subscribed channel's listener
set is exactly its own queue, an unsubscribed channel's listener set is empty, the queues of
subscribed channels are allocated and no two channels share one. So `publish` reaches exactly the
channel's current queue, and nothing else.

What the invariant allows and the dict discipline of the rest of the backend does not:
`unsubscribe` discards the queue from `listeners[channel]`, a `defaultdict(set)`, and leaves the
emptied set under the key (`unsubscribe_keeps_listener_key`), where `group_discard` and
`registry_remove_connection` delete an emptied key. `listeners_outlive_channels` is that at
`subscribe("ch")`, `unsubscribe("ch")`.

A subscription period of a channel runs from the `subscribe` that creates its queue to the next
`unsubscribe` (or `cleanup`). `periodStep` records, beside the run, the messages published to the
channel during its current period and those a getter on its current queue returned. On every run
the queue holds exactly the published messages that were not returned, in publish order
(`periodsMatch_run`); the returned ones are a prefix of the published ones, so none is returned
twice, none is lost and none comes from another period.
-/

import ChannelLayer.Backend.Memory

namespace ChannelLayer

open Function

variable {Payload : Type}

namespace MemoryBackend

/-! ## The listener invariant -/

/-- The shape of the delivery state on every reachable backend. -/
structure DeliveryInvariant (s : MemoryBackend Payload) : Prop where
  subscribed : ∀ channel queue,
    s.channels channel = some queue → s.listeners channel = some {queue}
  unsubscribed : ∀ channel, s.channels channel = none → members s.listeners channel = ∅
  allocated : ∀ channel queue, s.channels channel = some queue → queue < s.nextQueue
  unshared : ∀ channel channel' queue,
    s.channels channel = some queue → s.channels channel' = some queue → channel = channel'

variable {s : MemoryBackend Payload}

theorem DeliveryInvariant.of_eq {s' : MemoryBackend Payload} (inv : s.DeliveryInvariant)
    (channels : s'.channels = s.channels) (listeners : s'.listeners = s.listeners)
    (nextQueue : s'.nextQueue = s.nextQueue) : s'.DeliveryInvariant := by
  obtain ⟨subscribed, unsubscribed, allocated, unshared⟩ := inv
  rw [← channels, ← listeners, ← nextQueue] at *
  exact ⟨subscribed, unsubscribed, allocated, unshared⟩

theorem DeliveryInvariant.subscribe (inv : s.DeliveryInvariant) (channel : String) :
    (s.subscribe channel).DeliveryInvariant := by
  cases present : s.channels channel with
  | some queue =>
    rw [subscribe_of_present present]
    refine ⟨fun c q found => ?_, fun c absent => ?_, inv.allocated, inv.unshared⟩
    · by_cases same : c = channel
      · subst same
        cases present.symm.trans found
        simp [addMember, members, inv.subscribed c queue present]
      · simpa [addMember, same] using inv.subscribed c q found
    · have other : c ≠ channel := by rintro rfl; simp_all
      simpa [addMember, members, other] using inv.unsubscribed c absent
  | none =>
    rw [subscribe_of_absent present]
    have fresh : ∀ c q, update s.channels channel (some s.nextQueue) c = some q →
        c = channel ∧ q = s.nextQueue ∨ c ≠ channel ∧ s.channels c = some q ∧ q < s.nextQueue :=
      fun c q found => by
        by_cases same : c = channel
        · subst same
          exact .inl ⟨rfl, by simpa [eq_comm] using found⟩
        · rw [update_noteq same] at found
          exact .inr ⟨same, found, inv.allocated c q found⟩
    constructor <;> dsimp only
    · intro c q found
      rcases fresh c q found with ⟨rfl, rfl⟩ | ⟨other, old, -⟩
      · simp [addMember, inv.unsubscribed c present]
      · simpa [addMember, other] using inv.subscribed c q old
    · intro c absent
      have other : c ≠ channel := by rintro rfl; simp at absent
      simpa [addMember, members, other] using
        inv.unsubscribed c (by rwa [update_noteq other] at absent)
    · intro c q found
      rcases fresh c q found with ⟨-, rfl⟩ | ⟨-, -, below⟩
      exacts [Nat.lt_succ_self _, Nat.lt_succ_of_lt below]
    · intro c c' q found found'
      rcases fresh c q found with ⟨rfl, rfl⟩ | ⟨-, old, below⟩ <;>
        rcases fresh c' _ found' with ⟨rfl, same⟩ | ⟨-, old', below'⟩
      · rfl
      · exact (lt_irrefl _ below').elim
      · exact (lt_irrefl _ (same ▸ below)).elim
      · exact inv.unshared c c' q old old'

theorem DeliveryInvariant.unsubscribe (inv : s.DeliveryInvariant) (channel : String) :
    (s.unsubscribe channel).DeliveryInvariant := by
  cases present : s.channels channel with
  | none => rwa [unsubscribe_of_absent present]
  | some queue =>
    rw [unsubscribe_of_present present]
    have kept : ∀ c q, update s.channels channel none c = some q →
        c ≠ channel ∧ s.channels c = some q := fun c q found => by
      have other : c ≠ channel := by rintro rfl; simp at found
      exact ⟨other, by rwa [update_noteq other] at found⟩
    constructor <;> dsimp only
    · intro c q found
      simpa [(kept c q found).1] using inv.subscribed c q (kept c q found).2
    · intro c absent
      by_cases same : c = channel
      · subst same
        simp [members, inv.subscribed c queue present]
      · simpa [members, same] using inv.unsubscribed c (by rwa [update_noteq same] at absent)
    · exact fun c q found => inv.allocated c q (kept c q found).2
    · exact fun c c' q found found' => inv.unshared c c' q (kept c q found).2 (kept c' q found').2

theorem DeliveryInvariant.cleanup (s : MemoryBackend Payload) : s.cleanup.DeliveryInvariant :=
  ⟨fun _ _ found => Option.noConfusion found, fun _ _ => rfl,
    fun _ _ found => Option.noConfusion found, fun _ _ _ found => Option.noConfusion found⟩

theorem DeliveryInvariant.init : (init : MemoryBackend Payload).DeliveryInvariant :=
  ⟨fun _ _ found => Option.noConfusion found, fun _ _ => rfl,
    fun _ _ found => Option.noConfusion found, fun _ _ _ found => Option.noConfusion found⟩

/-- **One step keeps the listener invariant.** -/
theorem DeliveryInvariant.step (inv : s.DeliveryInvariant) (action : Action Payload) :
    (s.step action).DeliveryInvariant := by
  cases action
  case subscribe channel => exact inv.subscribe channel
  case unsubscribe channel => exact inv.unsubscribe channel
  case cleanup => exact DeliveryInvariant.cleanup s
  all_goals exact inv.of_eq rfl rfl rfl

/-- **The listener invariant holds on every run.** -/
theorem deliveryInvariant_run (actions : List (Action Payload)) :
    ((init : MemoryBackend Payload).run actions).DeliveryInvariant := by
  induction actions using List.reverseRecOn with
  | nil => exact DeliveryInvariant.init
  | append_singleton actions action ih =>
    rw [run_concat]
    exact ih.step action

/-- `unsubscribe` of a subscribed channel drops its queue and leaves its listener key, with an
empty set. -/
theorem unsubscribe_keeps_listener_key (inv : s.DeliveryInvariant) {channel : String}
    {queue : QueueId} (present : s.channels channel = some queue) :
    (s.unsubscribe channel).channels channel = none ∧
      (s.unsubscribe channel).listeners channel = some ∅ := by
  simp [MemoryBackend.unsubscribe, present, members, inv.subscribed channel queue present]

/-- **The listener map keeps the keys of channels that are no longer subscribed**, at
`subscribe("ch")`, `unsubscribe("ch")` on a fresh backend. What holds on every run is the delivery
invariant, and on it `unsubscribe` of a subscribed channel always leaves its key with an empty
set. -/
theorem listeners_outlive_channels :
    ((init : MemoryBackend Unit).run [.subscribe "ch", .unsubscribe "ch"]).channels "ch" = none ∧
      ((init : MemoryBackend Unit).run [.subscribe "ch", .unsubscribe "ch"]).listeners "ch" =
        some ∅ ∧
      (∀ (Payload : Type) (actions : List (Action Payload)),
        ((init : MemoryBackend Payload).run actions).DeliveryInvariant) ∧
      ∀ (Payload : Type) (actions : List (Action Payload)) (channel : String) (queue : QueueId),
        ((init : MemoryBackend Payload).run actions).channels channel = some queue →
        (((init : MemoryBackend Payload).run actions).unsubscribe channel).channels channel =
            none ∧
          (((init : MemoryBackend Payload).run actions).unsubscribe channel).listeners channel =
            some ∅ :=
  ⟨by decide, by decide, fun _ => deliveryInvariant_run,
    fun _ actions _ _ present => unsubscribe_keeps_listener_key (deliveryInvariant_run actions)
      present⟩

/-! ## Subscription periods -/

/-- The current subscription period of a channel: the messages published to it since the
`subscribe` that created its queue, and those a getter on that queue returned, oldest first. -/
structure Period (Payload : Type) where
  published : List Payload
  returned : List Payload

/-- How a step moves the periods on: `subscribe` opens a period for a channel with none,
`unsubscribe` and `cleanup` close them, `publish` records the message in the channel's period, and
a getter that returns a message from a channel's current queue records it there. -/
def periodStep (s : MemoryBackend Payload) (periods : String → Option (Period Payload)) :
    Action Payload → String → Option (Period Payload)
  | .subscribe channel => update periods channel (some ((periods channel).getD ⟨[], []⟩))
  | .unsubscribe channel => update periods channel none
  | .cleanup => fun _ => none
  | .publish channel message =>
    update periods channel
      ((periods channel).map fun period =>
        { period with published := period.published ++ [message] })
  | .getMessage queue => fun channel =>
    match (s.takeMessage queue).1 with
    | some message =>
      if s.channels channel = some queue then
        (periods channel).map fun period => { period with returned := period.returned ++ [message] }
      else periods channel
    | none => periods channel
  | _ => periods

/-- A run, with the periods of its channels alongside. -/
def runPeriods (s : MemoryBackend Payload) (periods : String → Option (Period Payload))
    (actions : List (Action Payload)) :
    MemoryBackend Payload × (String → Option (Period Payload)) :=
  actions.foldl (fun now action => (now.1.step action, periodStep now.1 now.2 action)) (s, periods)

/-- The periods of the channels after a run from a fresh backend. -/
def currentPeriods (actions : List (Action Payload)) : String → Option (Period Payload) :=
  (runPeriods init (fun _ => none) actions).2

theorem runPeriods_fst (s : MemoryBackend Payload) (periods : String → Option (Period Payload))
    (actions : List (Action Payload)) : (runPeriods s periods actions).1 = s.run actions := by
  induction actions generalizing s periods with
  | nil => rfl
  | cons action rest ih => exact ih _ _

/-- Each subscribed channel has a period and each period a subscribed channel, and the channel's
queue holds the period's published messages that were not returned, in order. -/
def PeriodsMatch (s : MemoryBackend Payload) (periods : String → Option (Period Payload)) :
    Prop :=
  ∀ channel, ((s.channels channel).isSome ↔ (periods channel).isSome) ∧
    ∀ queue period, s.channels channel = some queue → periods channel = some period →
      period.published = period.returned ++ s.queues queue

variable {periods : String → Option (Period Payload)}

theorem PeriodsMatch.absent (matched : PeriodsMatch s periods) {channel : String}
    (absent : s.channels channel = none) : periods channel = none := by
  simpa [absent] using (matched channel).1

theorem PeriodsMatch.present (matched : PeriodsMatch s periods) {channel : String}
    {queue : QueueId} (present : s.channels channel = some queue) :
    ∃ period, periods channel = some period ∧
      period.published = period.returned ++ s.queues queue := by
  obtain ⟨period, found⟩ :=
    Option.isSome_iff_exists.mp ((matched channel).1.mp (by simp [present]))
  exact ⟨period, found, (matched channel).2 queue period present found⟩

theorem PeriodsMatch.subscribe (inv : s.DeliveryInvariant) (matched : PeriodsMatch s periods)
    (channel : String) :
    PeriodsMatch (s.subscribe channel) (periodStep s periods (.subscribe channel)) := by
  simp only [periodStep]
  cases present : s.channels channel with
  | some queue =>
    obtain ⟨period, found, -⟩ := matched.present present
    rw [subscribe_of_present present, found, Option.getD_some, ← found, update_eq_self]
    exact matched
  | none =>
    rw [subscribe_of_absent present, matched.absent present]
    intro c
    by_cases same : c = channel
    · subst same
      simp
    · refine ⟨by simpa [same] using (matched c).1, fun q period found known => ?_⟩
      simp only [update_noteq same] at found known
      have fresh : q ≠ s.nextQueue := (inv.allocated c q found).ne
      simpa [update_noteq fresh] using (matched c).2 q period found known

theorem PeriodsMatch.unsubscribe (matched : PeriodsMatch s periods) (channel : String) :
    PeriodsMatch (s.unsubscribe channel) (periodStep s periods (.unsubscribe channel)) := by
  simp only [periodStep]
  cases present : s.channels channel with
  | none =>
    rw [unsubscribe_of_absent present, ← matched.absent present, update_eq_self]
    exact matched
  | some queue =>
    rw [unsubscribe_of_present present]
    intro c
    by_cases same : c = channel
    · subst same
      simp
    · simpa [update_noteq same] using matched c

theorem PeriodsMatch.publish (inv : s.DeliveryInvariant) (matched : PeriodsMatch s periods)
    (channel : String) (message : Payload) :
    PeriodsMatch (s.publish channel message) (periodStep s periods (.publish channel message)) := by
  simp only [periodStep]
  cases present : s.channels channel with
  | none =>
    rw [publish_of_members_empty (inv.unsubscribed channel present), matched.absent present,
      Option.map_none', ← matched.absent present, update_eq_self]
    exact matched
  | some queue =>
    obtain ⟨period, found, holds⟩ := matched.present present
    rw [publish_of_listeners (inv.subscribed channel queue present)]
    intro c
    by_cases same : c = channel
    · subst same
      refine ⟨by simp [present, found], fun q period' current known => ?_⟩
      cases present.symm.trans current
      simp only [update_same, found, Option.map_some', Option.some.injEq] at known
      subst known
      simp [holds]
    · refine ⟨by simpa [same] using (matched c).1, fun q period' current known => ?_⟩
      rw [update_noteq same] at known
      have other : q ≠ queue := fun equal =>
        same (inv.unshared c channel q current (equal ▸ present))
      simpa [update_noteq other] using (matched c).2 q period' current known

theorem PeriodsMatch.getMessage (matched : PeriodsMatch s periods) (queue : QueueId) :
    PeriodsMatch (s.takeMessage queue).2 (periodStep s periods (.getMessage queue)) := by
  simp only [periodStep]
  cases holding : s.queues queue with
  | nil =>
    rw [takeMessage_of_nil holding]
    exact matched
  | cons message rest =>
    rw [takeMessage_of_cons holding]
    intro c
    dsimp only
    refine ⟨by split_ifs <;> simpa using (matched c).1, fun q period current known => ?_⟩
    by_cases same : q = queue
    · subst same
      obtain ⟨period', found, holds⟩ := matched.present current
      rw [if_pos current, found, Option.map_some', Option.some.injEq] at known
      subst known
      simp [holds, holding]
    · rw [if_neg fun other => same (Option.some.inj (current.symm.trans other))] at known
      simpa [update_noteq same] using (matched c).2 q period current known

/-- **One step keeps the periods matched with the queues.** -/
theorem PeriodsMatch.step (inv : s.DeliveryInvariant) (matched : PeriodsMatch s periods)
    (action : Action Payload) : PeriodsMatch (s.step action) (periodStep s periods action) := by
  cases action
  case subscribe channel => exact matched.subscribe inv channel
  case unsubscribe channel => exact matched.unsubscribe channel
  case publish channel message => exact matched.publish inv channel message
  case getMessage queue => exact matched.getMessage queue
  case cleanup =>
    exact fun _ => ⟨by simp [periodStep]; rfl, fun _ _ found => Option.noConfusion found⟩
  all_goals exact matched

/-- **Every subscribed channel's queue holds exactly the messages published during its current
period that no getter has returned, in the order they were published.** -/
theorem periodsMatch_run (actions : List (Action Payload)) :
    PeriodsMatch ((init : MemoryBackend Payload).run actions) (currentPeriods actions) := by
  suffices ∀ (s : MemoryBackend Payload) periods, s.DeliveryInvariant →
      PeriodsMatch s periods → PeriodsMatch (runPeriods s periods actions).1 (runPeriods s periods actions).2 by
    rw [← runPeriods_fst init (fun _ => none)]
    exact this init (fun _ => none) DeliveryInvariant.init
      fun _ => ⟨by simp [init], fun _ _ found => Option.noConfusion found⟩
  induction actions with
  | nil => exact fun _ _ _ matched => matched
  | cons action rest ih =>
    exact fun s periods inv matched => ih _ _ (inv.step action) (matched.step inv action)

end MemoryBackend

end ChannelLayer
