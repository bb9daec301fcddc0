/-
**`group_send`: one publish per member of the snapshot, and the failures it reports.**

`group_send(group, message)` copies the group's channel set (`_get_group_channels`), makes one
`publish` task per channel in the order the copy iterates in, and gathers them with
`return_exceptions=True`. Each task runs later as one `Action.publish` step, possibly between
other steps; the copy fixes which channels they publish to. `MemoryBackend.publish` never raises,
so `gather` returns no exception and nothing is logged; for any results, the report
(`list(channels)[i]` for each result `i` that is an exception) names exactly the channels whose
publish raised, since the copy iterates the same way twice.

* `Enumeration`: the order a set iterates in, each member once;
* `run_groupSendTasks_frame`: the tasks change only the queues, so the group index, the registry,
  the channels and the listeners are as they were;
* `publish_queues`, `run_groupSendTasks_queues`: on a reachable state each publish appends the
  message to its channel's own queue, so the tasks leave exactly one copy on the queue of each
  subscribed member and touch no other queue;
* `failedChannels_eq_filter`, `groupSendReport_eq`: the report names exactly the channels whose
  result is an exception, out of `len(channels)`, and is empty when none is;
* `group_send_fans_out`: the whole of `group_send`.
-/

import ChannelLayer.Backend.Delivery
import ChannelLayer.Typed

namespace ChannelLayer

open Function

/-- The order a set iterates in: its members, each once. -/
structure Enumeration (members : Finset String) where
  order : List String
  nodup : order.Nodup
  complete : order.toFinset = members

theorem Enumeration.mem_iff {members : Finset String} (channels : Enumeration members)
    (channel : String) : channel ∈ channels.order ↔ channel ∈ members := by
  simpa using Finset.ext_iff.mp channels.complete channel

/-- The iteration runs `len(members)` times. -/
theorem Enumeration.length_eq {members : Finset String} (channels : Enumeration members) :
    channels.order.length = members.card :=
  (List.toFinset_card_of_nodup channels.nodup).symm.trans (congrArg Finset.card channels.complete)

theorem Enumeration.order_eq_nil {members : Finset String} (channels : Enumeration members)
    (empty : members = ∅) : channels.order = [] :=
  List.toFinset_eq_empty_iff _ |>.mp (channels.complete.trans empty)

/-- Each member of the set comes once in its iteration order, and nothing else comes. -/
theorem Enumeration.count_eq {members : Finset String} (channels : Enumeration members)
    (channel : String) :
    channels.order.count channel = if channel ∈ members then 1 else 0 := by
  split_ifs with listed <;> rw [← channels.mem_iff] at listed
  · exact List.count_eq_one_of_mem channels.nodup listed
  · exact List.count_eq_zero_of_not_mem listed

/-! ## The report -/

/-- The channels `group_send` reports: `list(channels)[i]` for each result `i` of `gather` that
is an exception. -/
def failedChannels : List String → List (Except PyError Unit) → List String
  | channel :: channels, result :: results =>
    match result with
    | .error _ => channel :: failedChannels channels results
    | .ok () => failedChannels channels results
  | _, _ => []

/-- What `group_send` logs when a publish failed: the failed channels, out of
`len(channels)`. -/
def groupSendReport (order : List String) (results : List (Except PyError Unit)) :
    Option (List String × ℕ) :=
  match failedChannels order results with
  | [] => none
  | failed => some (failed, order.length)

/-- **The report names exactly the channels whose publish raised**, when the results come one
per channel in the order the tasks were made. -/
theorem failedChannels_eq_filter (failing : Finset String) :
    ∀ {order : List String} {results : List (Except PyError Unit)},
      List.Forall₂ (fun channel result => result.isOk = false ↔ channel ∈ failing) order results →
      failedChannels order results = order.filter (· ∈ failing)
  | [], [], .nil => rfl
  | channel :: order, result :: results, .cons raised aligned => by
    have rest := failedChannels_eq_filter failing aligned
    cases result with
    | error _ =>
      have : channel ∈ failing := raised.mp rfl
      simp [failedChannels, rest, this]
    | ok _ =>
      have : channel ∉ failing := fun mem => Bool.noConfusion (raised.mpr mem)
      simp [failedChannels, rest, this]

theorem failedChannels_ok : ∀ order : List String,
    failedChannels order (order.map fun _ => .ok ()) = []
  | [] => rfl
  | _ :: order => failedChannels_ok order

theorem Enumeration.filter_eq_nil_iff {members : Finset String} (channels : Enumeration members)
    (failing : Finset String) :
    channels.order.filter (· ∈ failing) = [] ↔ failing ∩ members = ∅ := by
  rw [List.filter_eq_nil_iff, Finset.eq_empty_iff_forall_not_mem]
  simp only [Finset.mem_inter, ← channels.mem_iff, decide_eq_true_eq]
  exact ⟨fun clear channel ⟨failed, listed⟩ => clear channel listed failed,
    fun clear channel listed failed => clear channel ⟨failed, listed⟩⟩

/-- **What `group_send` logs**, for results that come one per channel in iteration order: nothing
when no publish raised, else the channels whose publish raised, out of `len(channels)`. -/
theorem groupSendReport_eq {members : Finset String} (channels : Enumeration members)
    (failing : Finset String) {results : List (Except PyError Unit)}
    (aligned : List.Forall₂ (fun channel result => result.isOk = false ↔ channel ∈ failing)
      channels.order results) :
    groupSendReport channels.order results =
      if failing ∩ members = ∅ then none
      else some (channels.order.filter (· ∈ failing), members.card) := by
  rw [groupSendReport, failedChannels_eq_filter failing aligned, ← channels.length_eq]
  split
  · next nothing => rw [if_pos ((channels.filter_eq_nil_iff failing).mp nothing)]
  · next something => rw [if_neg (mt (channels.filter_eq_nil_iff failing).mpr something)]

namespace MemoryBackend

variable {Payload : Type} {s : MemoryBackend Payload}

/-! ## The tasks -/

/-- The publish tasks `group_send(group, message)` gathers: one per channel, in `order`. -/
def groupSendTasks (order : List String) (message : Payload) : List (Action Payload) :=
  order.map fun channel => .publish channel message

/-- `MemoryBackend.group_send(group, message)` run to its end with no other step between its
tasks, the copy of the group iterating in `channels.order`: the state after, and what it logs.
Every `publish` of the memory backend returns normally. -/
def groupSend (s : MemoryBackend Payload) (group : String) (message : Payload)
    (channels : Enumeration (s.getGroupChannels group)) :
    MemoryBackend Payload × Option (List String × ℕ) :=
  if s.getGroupChannels group = ∅ then (s, none)
  else
    (s.run (groupSendTasks channels.order message),
      groupSendReport channels.order (channels.order.map fun _ => .ok ()))

theorem run_groupSendTasks (s : MemoryBackend Payload) (order : List String)
    (message : Payload) :
    s.run (groupSendTasks order message) =
      order.foldl (fun state channel => state.publish channel message) s := by
  simp only [run, groupSendTasks, List.foldl_map]
  rfl

/-- `group_send` runs its tasks and logs nothing: an empty group has no tasks. -/
theorem groupSend_eq (s : MemoryBackend Payload) (group : String) (message : Payload)
    (channels : Enumeration (s.getGroupChannels group)) :
    s.groupSend group message channels = (s.run (groupSendTasks channels.order message), none) := by
  unfold groupSend
  split_ifs with empty
  · rw [channels.order_eq_nil empty]
    rfl
  · rw [groupSendReport, failedChannels_ok]

/-- **The tasks change only the queues.** -/
theorem run_groupSendTasks_frame (s : MemoryBackend Payload) (order : List String)
    (message : Payload) : ∃ queues, s.run (groupSendTasks order message) = { s with queues } := by
  rw [run_groupSendTasks]
  induction order generalizing s with
  | nil => exact ⟨s.queues, rfl⟩
  | cons channel order ih => exact ih (s.publish channel message)

/-- **One publish on a reachable state** appends the message to the channel's own queue, and to
no other. -/
theorem publish_queues (inv : s.DeliveryInvariant) (channel : String) (message : Payload)
    (queue : QueueId) :
    (s.publish channel message).queues queue =
      s.queues queue ++ if s.channels channel = some queue then [message] else [] := by
  cases subscribed : s.channels channel with
  | none =>
    rw [publish_of_members_empty (inv.unsubscribed channel subscribed)]
    simp
  | some own =>
    rw [publish_of_listeners (inv.subscribed channel own subscribed)]
    by_cases same : queue = own
    · subst same
      simp
    · simp [update_noteq same, Ne.symm same]

/-- The tasks append, to each queue, one copy per task channel subscribed to it. -/
theorem run_groupSendTasks_filter (inv : s.DeliveryInvariant) (order : List String)
    (message : Payload) (queue : QueueId) :
    (s.run (groupSendTasks order message)).queues queue =
      s.queues queue ++
        (order.filter fun channel => s.channels channel = some queue).map fun _ => message := by
  rw [run_groupSendTasks]
  induction order generalizing s with
  | nil => simp
  | cons channel order ih =>
    have published : (s.publish channel message).DeliveryInvariant :=
      inv.step (.publish channel message)
    simp only [List.foldl_cons]
    rw [ih published, publish_queues inv]
    by_cases owner : s.channels channel = some queue <;>
      simp [owner, List.filter_cons, step, exec, publish]

/-- **On a reachable state the tasks leave exactly one copy of the message on the queue of each
subscribed channel of the group, and touch no other queue.** -/
theorem run_groupSendTasks_queues (inv : s.DeliveryInvariant) {order : List String}
    (nodup : order.Nodup) (message : Payload) (queue : QueueId) :
    (s.run (groupSendTasks order message)).queues queue =
      s.queues queue ++ if ∃ channel ∈ order, s.channels channel = some queue then [message]
        else [] := by
  rw [run_groupSendTasks_filter inv]
  have owners := nodup.filter fun channel => decide (s.channels channel = some queue)
  split_ifs with subscribed
  · obtain ⟨channel, listed, owned⟩ := subscribed
    have only : order.filter (fun channel => s.channels channel = some queue) = [channel] := by
      by_contra other
      rcases (owners.ne_singleton_iff channel).mp other with empty | ⟨rival, mem, differs⟩
      · have : channel ∈ order.filter fun channel => s.channels channel = some queue :=
          List.mem_filter.mpr ⟨listed, by simpa using owned⟩
        simp [empty] at this
      · exact differs (inv.unshared rival channel queue
          (by simpa using (List.mem_filter.mp mem).2) owned)
    simp [only]
  · have none : order.filter (fun channel => s.channels channel = some queue) = [] :=
      List.filter_eq_nil_iff.mpr fun channel listed owned =>
        subscribed ⟨channel, listed, by simpa using owned⟩
    simp [none]

/-! ## `group_send` -/

/-- **`group_send` publishes once to each channel of the copy it takes when called, changes
nothing but the queues, and reports exactly the channels whose publish raised.** The tasks come
one per member of the copy, in its iteration order; run to the end they leave the state that
publishing the message once to each member gives; the group index, the registry, the channels and
the listeners are unchanged; the memory backend's publish never raises, so nothing is reported;
for any results of `gather`, one per task, what is reported is the channels whose result is an
exception, out of `len(channels)`; and an empty group is left alone. -/
theorem group_send_fans_out (s : MemoryBackend Payload) (group : String) (message : Payload)
    (channels : Enumeration (s.getGroupChannels group)) :
    (∀ channel,
      channels.order.count channel = if channel ∈ s.getGroupChannels group then 1 else 0) ∧
    (s.groupSend group message channels).1 =
      channels.order.foldl (fun state channel => state.publish channel message) s ∧
    (∃ queues, (s.groupSend group message channels).1 = { s with queues }) ∧
    (s.DeliveryInvariant → ∀ queue,
      (s.groupSend group message channels).1.queues queue =
        s.queues queue ++
          if ∃ channel ∈ s.getGroupChannels group, s.channels channel = some queue then [message]
          else []) ∧
    (s.groupSend group message channels).2 = none ∧
    (∀ (failing : Finset String) (results : List (Except PyError Unit)),
      List.Forall₂ (fun channel result => result.isOk = false ↔ channel ∈ failing)
        channels.order results →
      groupSendReport channels.order results =
        if failing ∩ s.getGroupChannels group = ∅ then none
        else some (channels.order.filter (· ∈ failing), (s.getGroupChannels group).card)) ∧
    (s.getGroupChannels group = ∅ → s.groupSend group message channels = (s, none)) := by
  rw [groupSend_eq]
  exact ⟨channels.count_eq, run_groupSendTasks s _ message, run_groupSendTasks_frame s _ message,
    fun inv queue => by simp only [run_groupSendTasks_queues inv channels.nodup, channels.mem_iff],
    rfl, fun failing _ aligned => groupSendReport_eq channels failing aligned,
    fun empty => by rw [channels.order_eq_nil empty]; rfl⟩

/-- `group_send` on group `"g"` of a backend where channel `"a"` subscribed and joined it, the copy
iterating as `["a"]`: the message lands once on `"a"`'s queue. -/
theorem group_send_fans_out_to_subscriber :
    let s : MemoryBackend Unit :=
      (init : MemoryBackend Unit).run [.subscribe "a", .groupAdd "g" "a"]
    let channels : Enumeration (s.getGroupChannels "g") := ⟨["a"], by decide, by decide⟩
    s.DeliveryInvariant ∧ s.channels "a" = some 0 ∧
      (s.groupSend "g" () channels).1.queues 0 = s.queues 0 ++ [()] := by
  intro s channels
  have inv : s.DeliveryInvariant := deliveryInvariant_run _
  have subscribed : s.channels "a" = some 0 := by decide
  obtain ⟨-, -, -, queues, -⟩ := group_send_fans_out s "g" () channels
  refine ⟨inv, subscribed, ?_⟩
  rw [queues inv 0, if_pos ⟨"a", by decide, subscribed⟩]

end MemoryBackend

end ChannelLayer
