/-
**`flush` and `cleanup`: what a reset clears, and what it leaves.**

`BaseBackend.flush` clears `groups` and `subscriptions` (a dict that no operation reads);
`MemoryBackend.cleanup` clears `channels` and `listeners` and then calls `flush`. Neither touches
`_registry_connections`, `_registry_connection_data` or `_registry_user_connections`.

* `cleanup_empties`: after `cleanup`, from any state, every group is empty, `publish` enqueues
  nothing and `get_message` returns `None`;
* `flush_step`, `flush_run`: no operation but `group_channels` reads the group index, so a run
  from `s.flush` ends, outside the group index, where the same run from `s` ends;
* `flush_unseen`: so after `flush` and any later steps, `get_message` and every registry query
  answer as they would have without the `flush`;
* `reset_keeps_registry`: on a fresh backend, a connection registered before `flush` or `cleanup`
  is still counted, listed under its user and keeps its groups after it, and after `flush` a
  message published to a channel subscribed before it is returned by `get_message`.
-/

import ChannelLayer.Backend.Memory

namespace ChannelLayer

variable {Payload : Type}

namespace MemoryBackend

/-! ## What a reset clears -/

/-- **After `cleanup`, from any state, the backend holds no group and no subscription.** -/
theorem cleanup_empties (s : MemoryBackend Payload) (group channel : String) (message : Payload) :
    s.cleanup.getGroupChannels group = ∅ ∧ s.cleanup.publish channel message = s.cleanup ∧
      s.cleanup.getMessage channel = (none, s.cleanup) :=
  ⟨rfl, rfl, rfl⟩

/-! ## What `flush` leaves -/

/-- No step other than a group operation reads the group index: one step from `s.flush` ends,
outside the group index, where the same step from `s` ends. -/
theorem flush_step (s : MemoryBackend Payload) (action : Action Payload) :
    (s.flush.step action).flush = (s.step action).flush := by
  cases action with
  | subscribe channel =>
    cases present : s.channels channel <;> simp [step, exec, subscribe, flush, present]
  | unsubscribe channel =>
    cases present : s.channels channel <;> simp [step, exec, unsubscribe, flush, present]
  | publish channel message =>
    cases listening : s.listeners channel <;> simp [step, exec, publish, flush, listening]
  | _ => rfl

/-- **A run after `flush` ends, outside the group index, where it ends without it.** -/
theorem flush_run (s : MemoryBackend Payload) (actions : List (Action Payload)) :
    (s.flush.run actions).flush = (s.run actions).flush := by
  induction actions generalizing s with
  | nil => rfl
  | cons action actions ih =>
    calc (s.flush.run (action :: actions)).flush
        = ((s.flush.step action).flush.run actions).flush := (ih _).symm
      _ = ((s.step action).flush.run actions).flush := by rw [flush_step]
      _ = (s.run (action :: actions)).flush := ih _

theorem getMessage_flush (s : MemoryBackend Payload) (channel : String) :
    (s.flush.getMessage channel).1 = (s.getMessage channel).1 := by
  cases present : s.channels channel <;> simp [getMessage, takeMessage, flush, present]

/-- **`flush` is seen by `group_channels` only**: after it and any later steps, `get_message`
and the registry queries answer as they would have without it. -/
theorem flush_unseen (s : MemoryBackend Payload) (actions : List (Action Payload))
    (channel connectionId user : String) :
    ((s.flush.run actions).getMessage channel).1 = ((s.run actions).getMessage channel).1 ∧
      (s.flush.run actions).registryCountConnections = (s.run actions).registryCountConnections ∧
      (s.flush.run actions).registryGetUserConnections user =
        (s.run actions).registryGetUserConnections user ∧
      (s.flush.run actions).registryGetConnectionGroups connectionId =
        (s.run actions).registryGetConnectionGroups connectionId := by
  have same := flush_run s actions
  refine ⟨?_, (congrArg registryCountConnections same :),
    (congrArg (registryGetUserConnections · user) same :),
    (congrArg (registryGetConnectionGroups · connectionId) same :)⟩
  rw [← getMessage_flush, same, getMessage_flush]

/-- **Neither reset empties the registry, and `flush` keeps the subscriptions**, on a fresh
backend where connection `"c"` of user `"alice"` is registered in group `"g"` and channel `"ch"`
is subscribed before the reset. On every state, what `cleanup` does empty is the group index and
the delivery, and `flush` is seen by `group_channels` only. -/
theorem reset_keeps_registry :
    (((init : MemoryBackend Unit).run [.registryAddConnection "c" (some "alice") {"g"},
        .subscribe "ch", .flush, .publish "ch" ()]).getMessage "ch").1 = some () ∧
      ((init : MemoryBackend Unit).run [.registryAddConnection "c" (some "alice") {"g"},
        .subscribe "ch", .flush]).registryCountConnections = 1 ∧
      ((init : MemoryBackend Unit).run [.registryAddConnection "c" (some "alice") {"g"},
        .subscribe "ch", .cleanup]).registryCountConnections = 1 ∧
      ((init : MemoryBackend Unit).run [.registryAddConnection "c" (some "alice") {"g"},
        .subscribe "ch", .cleanup]).registryGetUserConnections "alice" = {"c"} ∧
      ((init : MemoryBackend Unit).run [.registryAddConnection "c" (some "alice") {"g"},
        .subscribe "ch", .cleanup]).registryGetConnectionGroups "c" = {"g"} ∧
      (∀ (Payload : Type) (s : MemoryBackend Payload) (group channel : String)
          (message : Payload),
        s.cleanup.getGroupChannels group = ∅ ∧ s.cleanup.publish channel message = s.cleanup ∧
          s.cleanup.getMessage channel = (none, s.cleanup)) ∧
      ∀ (Payload : Type) (s : MemoryBackend Payload) (actions : List (Action Payload))
        (channel connectionId user : String),
        ((s.flush.run actions).getMessage channel).1 = ((s.run actions).getMessage channel).1 ∧
          (s.flush.run actions).registryCountConnections =
            (s.run actions).registryCountConnections ∧
          (s.flush.run actions).registryGetUserConnections user =
            (s.run actions).registryGetUserConnections user ∧
          (s.flush.run actions).registryGetConnectionGroups connectionId =
            (s.run actions).registryGetConnectionGroups connectionId :=
  ⟨by decide, by decide, by decide, by decide, by decide, fun _ => cleanup_empties,
    fun _ => flush_unseen⟩

end MemoryBackend

end ChannelLayer
