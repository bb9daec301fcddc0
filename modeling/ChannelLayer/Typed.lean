/-
**The message envelope of `core/typed.py`, and its wire round trip.**

`Message` is a dataclass, and a dataclass does not check the types of its fields: the dispatch
loop stores the raw JSON values of an envelope in them. So every field but `priority` holds a
`Value`, a Python value as the channel layer meets it; `priority` is always a `MessagePriority`,
since every place in the source that builds a message computes one.

* `lookupPriority`: the test `v in MessagePriority._value2member_map_` followed by
  `MessagePriority(v)`; hashing a list or a dict raises `TypeError`.
* `Message.isExpired`: `time.time() - created_at > ttl_seconds`: the difference is a `float`
  subtraction, the comparison with the TTL is exact, and a side that is not a number raises
  `TypeError`.
* `fromDict_toDict_eq` and `toDict_fromDict_same`, together `message_wire_roundtrip`:
  `Message.from_dict(m.to_dict()) == m` for every message, and `from_dict(d).to_dict() == d` for
  every envelope `d` with exactly the eight wire keys and a priority among `"high"`, `"normal"`,
  `"low"`.
-/

import ChannelLayer.Python
import Mathlib.Data.List.Perm.Basic

namespace ChannelLayer

/-! ## Python values -/

/-- The members of `MessagePriority`. -/
inductive MessagePriority where
  | high
  | normal
  | low
  deriving DecidableEq, Repr

/-- `MessagePriority.value`. -/
def MessagePriority.value : MessagePriority → String
  | .high => "high"
  | .normal => "normal"
  | .low => "low"

/-- A Python value as the channel layer meets it: what `json.loads` returns (integers and floats
are both numbers, read exactly), and the members of `MessagePriority`. -/
inductive Value where
  | null
  | bool (b : Bool)
  | num (x : ℚ)
  | str (s : String)
  | list (items : List Value)
  | dict (entries : List (String × Value))
  | member (priority : MessagePriority)

/-- `payload.get(key, default)` on a dict, kept as its list of entries. -/
def get (payload : List (String × Value)) (key : String) (default : Value) : Value :=
  (payload.lookup key).getD default

/-- Two dicts compare equal under `==`: the same keys, with the same values. -/
def SameDict (first second : List (String × Value)) : Prop :=
  ∀ key, first.lookup key = second.lookup key

/-- Whether `hash(v)` succeeds: lists and dicts are unhashable. -/
def Value.hashable : Value → Bool
  | .list _ => false
  | .dict _ => false
  | _ => true

/-- `v in MessagePriority._value2member_map_`, then `MessagePriority(v)`: the member whose value
`v` is. The map is a dict keyed by the three value strings, so the test hashes `v`, and a list or
a dict raises `TypeError`. -/
def lookupPriority : Value → Except PyError (Option MessagePriority)
  | .list _ => .error .typeError
  | .dict _ => .error .typeError
  | .str "high" => .ok (some .high)
  | .str "normal" => .ok (some .normal)
  | .str "low" => .ok (some .low)
  | _ => .ok none

theorem lookupPriority_eq_error_iff (value : Value) (error : PyError) :
    lookupPriority value = .error error ↔ value.hashable = false ∧ error = .typeError := by
  unfold lookupPriority
  split <;> simp [Value.hashable, eq_comm]

/-- The numbers of Python's arithmetic: `bool` is a subclass of `int`. -/
def Value.toNumber? : Value → Option ℚ
  | .num x => some x
  | .bool b => some (if b then 1 else 0)
  | _ => none

/-! ## The message -/

/-- The `Message` dataclass. -/
structure Message where
  type : Value
  data : Value
  senderId : Value
  group : Value
  metadata : Value
  priority : MessagePriority
  ttlSeconds : Value
  createdAt : Value

/-- `Message.is_expired` at the clock reading `now`. `time.time() - self.created_at` converts an
`int` `created_at` to a `float` (`OverflowError` when it is too large) and rounds the difference to
a `float`; `>` then compares that `float` with the TTL exactly. A side that is not a number
raises `TypeError`, the left one first. -/
def Message.isExpired (now : ℚ) (message : Message) : Except PyError Bool :=
  match message.ttlSeconds with
  | .null => .ok false
  | ttl =>
    match message.createdAt.toNumber? with
    | none => .error .typeError
    | some createdAt =>
      match toFloat createdAt with
      | .finite created =>
        match ttl.toNumber? with
        | none => .error .typeError
        | some seconds =>
          .ok (match toFloat (now - created) with
            | .finite elapsed => decide (seconds < elapsed)
            | .infinity negative => !negative
            | .nan => false)
      | _ => .error .overflowError

/-- The keys of the wire envelope, in the order `to_dict` writes them. -/
def messageKeys : List String :=
  ["type", "data", "sender_id", "group", "metadata", "priority", "ttl_seconds", "created_at"]

/-- `Message.to_dict`. Its `isinstance(self.priority, MessagePriority)` test always holds here. -/
def Message.toDict (message : Message) : List (String × Value) :=
  [("type", message.type), ("data", message.data), ("sender_id", message.senderId),
    ("group", message.group), ("metadata", message.metadata),
    ("priority", .str message.priority.value), ("ttl_seconds", message.ttlSeconds),
    ("created_at", message.createdAt)]

/-- The priority `from_dict` reads: a member is kept, a value string names its member, and
anything else falls back to `NORMAL`. -/
def priorityOf (value : Value) : Except PyError MessagePriority :=
  match value with
  | .member priority => .ok priority
  | _ => (lookupPriority value).map fun found => found.getD .normal

/-- `Message.from_dict`, with `now` the reading of `time.time()` that the call evaluates for the
default of `created_at`. -/
def Message.fromDict (now : ℚ) (payload : List (String × Value)) : Except PyError Message := do
  let priority ← priorityOf (get payload "priority" (.str MessagePriority.normal.value))
  pure
    { type := get payload "type" (.str "message")
      data := get payload "data" .null
      senderId := get payload "sender_id" .null
      group := get payload "group" .null
      metadata := get payload "metadata" .null
      priority := priority
      ttlSeconds := get payload "ttl_seconds" .null
      createdAt := get payload "created_at" (.num now) }

/-! ## The round trip -/

/-- **`from_dict` inverts `to_dict`.** -/
theorem fromDict_toDict_eq (now : ℚ) (message : Message) :
    Message.fromDict now message.toDict = .ok message := by
  obtain ⟨type, data, senderId, group, metadata, priority, ttlSeconds, createdAt⟩ := message
  cases priority <;> rfl

/-- A key of a dict has a value there. -/
theorem lookup_isSome_of_mem {payload : List (String × Value)} {key : String}
    (present : key ∈ payload.map Prod.fst) : ∃ value, payload.lookup key = some value := by
  obtain ⟨entry, mem, rfl⟩ := List.mem_map.mp present
  exact Option.isSome_iff_exists.mp (List.lookup_isSome_iff.mpr ⟨entry, mem, by simp⟩)

/-- A key absent from a dict has no value there. -/
theorem lookup_eq_none_of_not_mem {payload : List (String × Value)} {key : String}
    (absent : key ∉ payload.map Prod.fst) : payload.lookup key = none :=
  List.lookup_eq_none_iff.mpr fun entry mem =>
    bne_iff_ne.mpr fun same => absent (List.mem_map.mpr ⟨entry, mem, same.symm⟩)

/-- **`to_dict` inverts `from_dict` on the wire envelope.** -/
theorem toDict_fromDict_same (now : ℚ) (payload : List (String × Value))
    (keys : (payload.map Prod.fst).Perm messageKeys) (priority : MessagePriority)
    (named : payload.lookup "priority" = some (.str priority.value)) :
    ∃ message, Message.fromDict now payload = .ok message ∧
      SameDict message.toDict payload := by
  have present : ∀ key ∈ messageKeys, ∃ value, payload.lookup key = some value :=
    fun key mem => lookup_isSome_of_mem (keys.mem_iff.mpr mem)
  obtain ⟨type, hType⟩ := present "type" (by decide)
  obtain ⟨data, hData⟩ := present "data" (by decide)
  obtain ⟨senderId, hSender⟩ := present "sender_id" (by decide)
  obtain ⟨group, hGroup⟩ := present "group" (by decide)
  obtain ⟨metadata, hMetadata⟩ := present "metadata" (by decide)
  obtain ⟨ttlSeconds, hTtl⟩ := present "ttl_seconds" (by decide)
  obtain ⟨createdAt, hCreated⟩ := present "created_at" (by decide)
  refine ⟨⟨type, data, senderId, group, metadata, priority, ttlSeconds, createdAt⟩, ?_, ?_⟩
  · simp [Message.fromDict, get, priorityOf, hType, hData, hSender, hGroup, hMetadata, hTtl,
      hCreated, named]
    cases priority <;> rfl
  · intro key
    by_cases known : key ∈ messageKeys
    · simp only [messageKeys, List.mem_cons, List.mem_singleton, List.not_mem_nil,
        or_false] at known
      rcases known with rfl | rfl | rfl | rfl | rfl | rfl | rfl | rfl <;>
        simp [Message.toDict, List.lookup_cons, *]
    · have absent : key ∉ payload.map Prod.fst := fun mem => known (keys.mem_iff.mp mem)
      rw [lookup_eq_none_of_not_mem absent]
      exact lookup_eq_none_of_not_mem (by simpa [Message.toDict, messageKeys] using known)

/-- **The wire envelope round-trips both ways.** -/
theorem message_wire_roundtrip :
    (∀ (now : ℚ) (message : Message), Message.fromDict now message.toDict = .ok message) ∧
    ∀ (now : ℚ) (payload : List (String × Value)),
      (payload.map Prod.fst).Perm messageKeys →
      ∀ priority : MessagePriority, payload.lookup "priority" = some (.str priority.value) →
      ∃ message, Message.fromDict now payload = .ok message ∧
        SameDict message.toDict payload :=
  ⟨fromDict_toDict_eq, toDict_fromDict_same⟩

/-- The round trip at an envelope whose keys come in another order than `to_dict` writes them. -/
theorem message_wire_roundtrip_reordered :
    ∃ message, Message.fromDict 0
        [("priority", .str "high"), ("type", .str "chat"), ("created_at", .num 5),
          ("data", .list [.num 1]), ("sender_id", .null), ("group", .str "lobby"),
          ("metadata", .dict []), ("ttl_seconds", .null)] = .ok message ∧
      SameDict message.toDict
        [("priority", .str "high"), ("type", .str "chat"), ("created_at", .num 5),
          ("data", .list [.num 1]), ("sender_id", .null), ("group", .str "lobby"),
          ("metadata", .dict []), ("ttl_seconds", .null)] :=
  message_wire_roundtrip.2 0 _ (by decide) .high rfl

end ChannelLayer
