/-
**The in-memory backend of `core/backends/base.py` and `core/backends/memory.py`.**

`MemoryBackend` holds the fields of `BaseBackend.__init__` and `MemoryBackend.__init__`. Python
dicts are partial functions, sets are `Finset`s, and the `asyncio.Queue` objects are told apart by
identity: `channels` and `listeners` hold queue identities, and `queues` is the heap of their
contents, with `nextQueue` the next identity `asyncio.Queue()` hands out.

The backend runs on one event loop. No operation awaits anything inside its body: the lock is
never held across a suspension point, so acquiring it never waits, and `queue.put` on an
unbounded queue returns at once. So each call is one atomic `step`, and an interleaving of
concurrent callers is a list of `Action`s. The two calls that do suspend split into steps of
their own: `group_send` gathers its per-member `publish` calls as separate tasks, each an
`Action.publish` when it runs, and a `get_message` call that waits on the queue object it read
from `channels` completes as an `Action.getMessage` on that queue.

* `addMember` and `discardMember`: the two ways the source edits a dict of sets, shared by the
  group index, the listener map and the user index of the registry;
* `step_groups`, `step_channelCounter`: what one step does to the group index and the counter;
  the registry modules state the same for their fields, and the invariants are derived from
  these.
-/

import Mathlib.Data.Finset.Card
import Mathlib.Logic.Function.Basic

namespace ChannelLayer

open Function

/-! ## Dicts of sets -/

section SetIndex

variable {K V : Type} [DecidableEq K] [DecidableEq V]

/-- `index.get(key, set())`: the members under `key`, empty when it is absent. -/
def members (index : K → Option (Finset V)) (key : K) : Finset V :=
  (index key).getD ∅

/-- `index[key].add(member)`, creating the key with an empty set when it is absent (an explicit
`if key not in index: index[key] = set()`, or a `defaultdict(set)`). -/
def addMember (index : K → Option (Finset V)) (key : K) (member : V) : K → Option (Finset V) :=
  update index key (some (insert member (members index key)))

/-- `if key in index: index[key].discard(member)`, then `del index[key]` when that emptied it. -/
def discardMember (index : K → Option (Finset V)) (key : K) (member : V) :
    K → Option (Finset V) :=
  match index key with
  | none => index
  | some present =>
    let rest := present.erase member
    update index key (if rest = ∅ then none else some rest)

/-- No key of the dict holds an empty set. -/
def NoEmptySet (index : K → Option (Finset V)) : Prop :=
  ∀ key, index key ≠ some ∅

theorem mem_members_addMember {index : K → Option (Finset V)} {key key' : K} {member v : V} :
    v ∈ members (addMember index key member) key' ↔
      (key' = key ∧ v = member) ∨ v ∈ members index key' := by
  by_cases same : key' = key
  · subst same
    simp [members, addMember]
  · simp [members, addMember, same]

theorem mem_members_discardMember {index : K → Option (Finset V)} {key key' : K} {member v : V} :
    v ∈ members (discardMember index key member) key' ↔
      ¬ (key' = key ∧ v = member) ∧ v ∈ members index key' := by
  unfold discardMember
  cases present : index key with
  | none =>
    by_cases same : key' = key
    · subst same
      simp [members, present]
    · simp [same]
  | some found =>
    by_cases same : key' = key
    · subst same
      by_cases emptied : found.erase member = ∅
      · have gone : v ∉ found.erase member := by simp [emptied]
        simp only [Finset.mem_erase] at gone
        simp only [members, update_same, emptied, if_true, present, Option.getD_some,
          Option.getD_none, Finset.not_mem_empty, false_iff, not_and_or, not_not]
        by_cases hv : v = member <;> simp_all
      · simp [members, emptied, present, and_comm]
    · simp [members, same]

theorem noEmptySet_addMember {index : K → Option (Finset V)} (key : K) (member : V) :
    NoEmptySet index → NoEmptySet (addMember index key member) := by
  intro none key'
  by_cases same : key' = key
  · subst same
    simp [addMember]
  · simpa [addMember, same] using none key'

theorem noEmptySet_discardMember {index : K → Option (Finset V)} (key : K) (member : V) :
    NoEmptySet index → NoEmptySet (discardMember index key member) := by
  intro none key'
  cases present : index key with
  | none => simpa [discardMember, present] using none key'
  | some found =>
    by_cases same : key' = key
    · subst same
      by_cases emptied : found.erase member = ∅ <;> simp [discardMember, present, emptied]
    · simpa [discardMember, present, same] using none key'

end SetIndex

@[simp] theorem members_empty {K V : Type} (key : K) :
    members (fun _ : K => (none : Option (Finset V))) key = ∅ :=
  rfl

/-! ## The state -/

/-- Identity of an `asyncio.Queue` object. -/
abbrev QueueId := ℕ

/-- The part of a `_registry_connection_data` record that the registry reads back. -/
structure ConnectionData where
  userId : Option String
  groups : Finset String

/-- The fields of a `MemoryBackend` and the queue objects they point to. -/
structure MemoryBackend (Payload : Type) where
  groups : String → Option (Finset String)
  channelCounter : ℕ
  channels : String → Option QueueId
  listeners : String → Option (Finset QueueId)
  queues : QueueId → List Payload
  nextQueue : QueueId
  registryConnections : Finset String
  registryConnectionData : String → Option ConnectionData
  registryUserConnections : String → Option (Finset String)

/-- The user id `if user_id:` accepts: `None` and the empty string are falsy. -/
def userKey? (userId : Option String) : Option String :=
  userId.filter fun user => user != ""

/-- The name `new_channel` renders from the prefix, the millisecond clock and the counter. -/
def channelName (label : String) (clock : ℤ) (counter : ℕ) : String :=
  label ++ "." ++ toString clock ++ "." ++ toString counter

namespace MemoryBackend

variable {Payload : Type}

/-- `MemoryBackend()`. -/
def init : MemoryBackend Payload where
  groups _ := none
  channelCounter := 0
  channels _ := none
  listeners _ := none
  queues _ := []
  nextQueue := 0
  registryConnections := ∅
  registryConnectionData _ := none
  registryUserConnections _ := none

/-! ## The operations -/

/-- `BaseBackend.group_add`. -/
def groupAdd (s : MemoryBackend Payload) (group channel : String) : MemoryBackend Payload :=
  { s with groups := addMember s.groups group channel }

/-- `BaseBackend.group_discard`. -/
def groupDiscard (s : MemoryBackend Payload) (group channel : String) : MemoryBackend Payload :=
  { s with groups := discardMember s.groups group channel }

/-- `BaseBackend._get_group_channels`, which `group_channels` returns under the lock. -/
def getGroupChannels (s : MemoryBackend Payload) (group : String) : Finset String :=
  members s.groups group

/-- `BaseBackend.flush`: the groups are cleared (and `subscriptions`, which nothing reads). -/
def flush (s : MemoryBackend Payload) : MemoryBackend Payload :=
  { s with groups := fun _ => none }

/-- `BaseBackend.new_channel`, at the millisecond clock reading `clock`. -/
def newChannel (s : MemoryBackend Payload) (label : String) (clock : ℤ) :
    String × MemoryBackend Payload :=
  (channelName label clock (s.channelCounter + 1),
    { s with channelCounter := s.channelCounter + 1 })

/-- `MemoryBackend.publish`: one `put` on every listener queue of the channel. -/
def publish (s : MemoryBackend Payload) (channel : String) (message : Payload) :
    MemoryBackend Payload :=
  { s with
    queues := match s.listeners channel with
      | none => s.queues
      | some targets => fun queue =>
        if queue ∈ targets then s.queues queue ++ [message] else s.queues queue }

theorem publish_of_members_empty {s : MemoryBackend Payload} {channel : String}
    (quiet : members s.listeners channel = ∅) (message : Payload) :
    s.publish channel message = s := by
  unfold members at quiet
  cases listening : s.listeners channel <;> simp_all [publish]

theorem publish_of_listeners {s : MemoryBackend Payload} {channel : String} {queue : QueueId}
    (listening : s.listeners channel = some {queue}) (message : Payload) :
    s.publish channel message =
      { s with queues := update s.queues queue (s.queues queue ++ [message]) } := by
  simp only [publish, listening, Finset.mem_singleton, MemoryBackend.mk.injEq, true_and, and_true]
  funext other
  by_cases same : other = queue
  · subst same
    simp
  · simp [same]

/-- `MemoryBackend.subscribe`: a new empty queue object when the channel has none, which is then
added to the channel's listeners. -/
def subscribe (s : MemoryBackend Payload) (channel : String) : MemoryBackend Payload :=
  match s.channels channel with
  | some queue => { s with listeners := addMember s.listeners channel queue }
  | none =>
    { s with
      channels := update s.channels channel (some s.nextQueue)
      queues := update s.queues s.nextQueue []
      nextQueue := s.nextQueue + 1
      listeners := addMember s.listeners channel s.nextQueue }

/-- `MemoryBackend.unsubscribe`. `listeners` is a `defaultdict(set)`: the queue is discarded from
the channel's listener set, and the set is left in place even when that empties it. -/
def unsubscribe (s : MemoryBackend Payload) (channel : String) : MemoryBackend Payload :=
  match s.channels channel with
  | none => s
  | some queue =>
    { s with
      listeners := update s.listeners channel (some ((members s.listeners channel).erase queue))
      channels := update s.channels channel none }

theorem subscribe_of_present {s : MemoryBackend Payload} {channel : String} {queue : QueueId}
    (present : s.channels channel = some queue) :
    s.subscribe channel = { s with listeners := addMember s.listeners channel queue } := by
  simp [subscribe, present]

theorem subscribe_of_absent {s : MemoryBackend Payload} {channel : String}
    (absent : s.channels channel = none) :
    s.subscribe channel =
      { s with
        channels := update s.channels channel (some s.nextQueue)
        queues := update s.queues s.nextQueue []
        nextQueue := s.nextQueue + 1
        listeners := addMember s.listeners channel s.nextQueue } := by
  simp [subscribe, absent]

theorem unsubscribe_of_present {s : MemoryBackend Payload} {channel : String} {queue : QueueId}
    (present : s.channels channel = some queue) :
    s.unsubscribe channel =
      { s with
        listeners := update s.listeners channel (some ((members s.listeners channel).erase queue))
        channels := update s.channels channel none } := by
  simp [unsubscribe, present]

theorem unsubscribe_of_absent {s : MemoryBackend Payload} {channel : String}
    (absent : s.channels channel = none) : s.unsubscribe channel = s := by
  simp [unsubscribe, absent]

/-- A getter of `get_message` on the queue object `queue` takes its head. On an empty queue the
getter keeps waiting: it returns nothing, and the queue stays empty. -/
def takeMessage (s : MemoryBackend Payload) (queue : QueueId) :
    Option Payload × MemoryBackend Payload :=
  ((s.queues queue).head?, { s with queues := update s.queues queue (s.queues queue).tail })

theorem takeMessage_of_nil {s : MemoryBackend Payload} {queue : QueueId}
    (empty : s.queues queue = []) : s.takeMessage queue = (none, s) := by
  rw [takeMessage, empty]
  simp only [List.head?_nil, List.tail_nil]
  rw [← empty, update_eq_self]

theorem takeMessage_of_cons {s : MemoryBackend Payload} {queue : QueueId} {message : Payload}
    {rest : List Payload} (holding : s.queues queue = message :: rest) :
    s.takeMessage queue = (some message, { s with queues := update s.queues queue rest }) := by
  simp [takeMessage, holding]

/-- `MemoryBackend.get_message` on a channel whose queue holds a message: `None` for a channel
with no queue, else the head of `self.channels[channel]`. -/
def getMessage (s : MemoryBackend Payload) (channel : String) :
    Option Payload × MemoryBackend Payload :=
  match s.channels channel with
  | none => (none, s)
  | some queue => s.takeMessage queue

/-- `MemoryBackend.cleanup`: channels and listeners are cleared, then `flush`. -/
def cleanup (s : MemoryBackend Payload) : MemoryBackend Payload :=
  { s with channels := fun _ => none, listeners := fun _ => none }.flush

/-- `MemoryBackend.registry_add_connection` (the record's `metadata` and `heartbeat_timeout`
are stored and never read back, so they are left out). -/
def registryAddConnection (s : MemoryBackend Payload) (connectionId : String)
    (userId : Option String) (groups : Finset String) : MemoryBackend Payload :=
  { s with
    registryConnections := insert connectionId s.registryConnections
    registryConnectionData :=
      update s.registryConnectionData connectionId (some ⟨userId, groups⟩)
    registryUserConnections :=
      match userKey? userId with
      | some user => addMember s.registryUserConnections user connectionId
      | none => s.registryUserConnections }

/-- `MemoryBackend.registry_remove_connection`. -/
def registryRemoveConnection (s : MemoryBackend Payload) (connectionId : String)
    (userId : Option String) : MemoryBackend Payload :=
  { s with
    registryConnections := s.registryConnections.erase connectionId
    registryConnectionData := update s.registryConnectionData connectionId none
    registryUserConnections :=
      match userKey? userId with
      | some user => discardMember s.registryUserConnections user connectionId
      | none => s.registryUserConnections }

/-- `MemoryBackend.registry_update_groups`. -/
def registryUpdateGroups (s : MemoryBackend Payload) (connectionId : String)
    (groups : Finset String) : MemoryBackend Payload :=
  { s with
    registryConnectionData := match s.registryConnectionData connectionId with
      | none => s.registryConnectionData
      | some data => update s.registryConnectionData connectionId (some { data with groups }) }

/-- `MemoryBackend.registry_get_connection_groups`. -/
def registryGetConnectionGroups (s : MemoryBackend Payload) (connectionId : String) :
    Finset String :=
  match s.registryConnectionData connectionId with
  | none => ∅
  | some data => data.groups

/-- `MemoryBackend.registry_count_connections`. -/
def registryCountConnections (s : MemoryBackend Payload) : ℕ :=
  s.registryConnections.card

/-- `MemoryBackend.registry_get_user_connections`. -/
def registryGetUserConnections (s : MemoryBackend Payload) (userId : String) : Finset String :=
  members s.registryUserConnections userId

end MemoryBackend

/-! ## Steps and runs -/

/-- One atomic step of the backend: a call, or the part of one that runs after a suspension. -/
inductive Action (Payload : Type) where
  | groupAdd (group channel : String)
  | groupDiscard (group channel : String)
  | flush
  | cleanup
  | newChannel (label : String) (clock : ℤ)
  | subscribe (channel : String)
  | unsubscribe (channel : String)
  | publish (channel : String) (message : Payload)
  | getMessage (queue : QueueId)
  | registryAddConnection (connectionId : String) (userId : Option String) (groups : Finset String)
  | registryRemoveConnection (connectionId : String) (userId : Option String)
  | registryUpdateGroups (connectionId : String) (groups : Finset String)

/-- What a step returns to its caller. -/
inductive Reply (Payload : Type) where
  | nothing
  | channelName (name : String)
  | message (message : Option Payload)

namespace MemoryBackend

variable {Payload : Type}

/-- One step: its reply and the next state. -/
def exec (s : MemoryBackend Payload) : Action Payload → Reply Payload × MemoryBackend Payload
  | .groupAdd group channel => (.nothing, s.groupAdd group channel)
  | .groupDiscard group channel => (.nothing, s.groupDiscard group channel)
  | .flush => (.nothing, s.flush)
  | .cleanup => (.nothing, s.cleanup)
  | .newChannel label clock =>
    (.channelName (s.newChannel label clock).1, (s.newChannel label clock).2)
  | .subscribe channel => (.nothing, s.subscribe channel)
  | .unsubscribe channel => (.nothing, s.unsubscribe channel)
  | .publish channel message => (.nothing, s.publish channel message)
  | .getMessage queue => (.message (s.takeMessage queue).1, (s.takeMessage queue).2)
  | .registryAddConnection connectionId userId groups =>
    (.nothing, s.registryAddConnection connectionId userId groups)
  | .registryRemoveConnection connectionId userId =>
    (.nothing, s.registryRemoveConnection connectionId userId)
  | .registryUpdateGroups connectionId groups =>
    (.nothing, s.registryUpdateGroups connectionId groups)

/-- The state after one step. -/
def step (s : MemoryBackend Payload) (action : Action Payload) : MemoryBackend Payload :=
  (s.exec action).2

/-- The state after a run of steps. -/
def run (s : MemoryBackend Payload) (actions : List (Action Payload)) : MemoryBackend Payload :=
  actions.foldl step s

/-- The replies of a run, in order. -/
def replies (s : MemoryBackend Payload) : List (Action Payload) → List (Reply Payload)
  | [] => []
  | action :: rest => (s.exec action).1 :: (s.step action).replies rest

/-- **What a step does to the group index.** -/
theorem step_groups (s : MemoryBackend Payload) (action : Action Payload) :
    (s.step action).groups =
      match action with
      | .groupAdd group channel => addMember s.groups group channel
      | .groupDiscard group channel => discardMember s.groups group channel
      | .flush => fun _ => none
      | .cleanup => fun _ => none
      | _ => s.groups := by
  cases action <;> first | rfl | (simp only [step, exec, subscribe, unsubscribe]; split <;> rfl)

/-- **What a step does to the channel counter.** -/
theorem step_channelCounter (s : MemoryBackend Payload) (action : Action Payload) :
    (s.step action).channelCounter =
      match action with
      | .newChannel _ _ => s.channelCounter + 1
      | _ => s.channelCounter := by
  cases action <;> first | rfl | (simp only [step, exec, subscribe, unsubscribe]; split <;> rfl)

@[simp] theorem run_nil (s : MemoryBackend Payload) : s.run [] = s := rfl

@[simp] theorem run_concat (s : MemoryBackend Payload) (actions : List (Action Payload))
    (action : Action Payload) : s.run (actions ++ [action]) = (s.run actions).step action := by
  simp [run]

end MemoryBackend

end ChannelLayer
