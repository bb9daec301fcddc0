/-
**The connection registry: what its two indexes keep in step, and where they drift apart.**

On every run (`registryInvariant_run`):

* `_registry_connections` is the key set of `_registry_connection_data`;
* no user key of `_registry_user_connections` maps to an empty set;
* every live connection whose user id is truthy is in its user's set.

The converse of the last one fails. `registry_add_connection` overwrites the record of a
connection that is already live without taking it out of its former user's set, and
`registry_remove_connection` only clears the set of the user it is given. After
`add("c", "alice")`, `add("c", "bob")`, `remove("c", "bob")` the registry is empty while
`registry_get_user_connections("alice")` still returns `{"c"}` (`registry_readd_keeps_stale_user`).

Callers that add a connection only when it is not registered and remove it with its own user id
never meet that case: on their runs the user index lists exactly the registered connections of
each user (`UserIndexExact.step`, `registry_user_index_exact`).

A connection's own entry, unlike its user's set, is a machine of its own (`entryStep`,
`entry_step`): after any run it is what the connection's own registry calls make of it, whatever
the other steps between them (`registry_entry_isolated`).
-/

import ChannelLayer.Backend.Memory

namespace ChannelLayer

open Function

variable {Payload : Type}

namespace MemoryBackend

/-! ## What a step does to the registry -/

theorem step_registryConnections (s : MemoryBackend Payload) (action : Action Payload) :
    (s.step action).registryConnections =
      match action with
      | .registryAddConnection connectionId _ _ => insert connectionId s.registryConnections
      | .registryRemoveConnection connectionId _ => s.registryConnections.erase connectionId
      | _ => s.registryConnections := by
  cases action <;> first | rfl | (simp only [step, exec, subscribe, unsubscribe]; split <;> rfl)

theorem step_registryConnectionData (s : MemoryBackend Payload) (action : Action Payload) :
    (s.step action).registryConnectionData =
      match action with
      | .registryAddConnection connectionId userId groups =>
        update s.registryConnectionData connectionId (some ⟨userId, groups⟩)
      | .registryRemoveConnection connectionId _ =>
        update s.registryConnectionData connectionId none
      | .registryUpdateGroups connectionId groups =>
        (s.registryUpdateGroups connectionId groups).registryConnectionData
      | _ => s.registryConnectionData := by
  cases action <;> first | rfl | (simp only [step, exec, subscribe, unsubscribe]; split <;> rfl)

theorem step_registryUserConnections (s : MemoryBackend Payload) (action : Action Payload) :
    (s.step action).registryUserConnections =
      match action with
      | .registryAddConnection connectionId userId _ =>
        (s.registryAddConnection connectionId userId ∅).registryUserConnections
      | .registryRemoveConnection connectionId userId =>
        (s.registryRemoveConnection connectionId userId).registryUserConnections
      | _ => s.registryUserConnections := by
  cases action <;> first | rfl | (simp only [step, exec, subscribe, unsubscribe]; split <;> rfl)

/-! ## The invariant -/

/-- What the registry keeps in step on every run. -/
structure RegistryInvariant (s : MemoryBackend Payload) : Prop where
  keys : ∀ connectionId,
    connectionId ∈ s.registryConnections ↔ (s.registryConnectionData connectionId).isSome
  noEmpty : NoEmptySet s.registryUserConnections
  indexed : ∀ connectionId data user, s.registryConnectionData connectionId = some data →
    userKey? data.userId = some user → connectionId ∈ s.registryGetUserConnections user

variable {s : MemoryBackend Payload}

theorem RegistryInvariant.of_eq {s' : MemoryBackend Payload} (inv : s.RegistryInvariant)
    (connections : s'.registryConnections = s.registryConnections)
    (data : s'.registryConnectionData = s.registryConnectionData)
    (users : s'.registryUserConnections = s.registryUserConnections) : s'.RegistryInvariant := by
  obtain ⟨keys, noEmpty, indexed⟩ := inv
  unfold registryGetUserConnections at *
  rw [← connections, ← data, ← users] at *
  exact ⟨keys, noEmpty, indexed⟩

theorem RegistryInvariant.add (inv : s.RegistryInvariant) (connectionId : String)
    (userId : Option String) (groups : Finset String) :
    (s.registryAddConnection connectionId userId groups).RegistryInvariant := by
  refine ⟨fun c => ?_, ?_, fun c data user found truthy => ?_⟩
  · by_cases same : c = connectionId
    · simp [registryAddConnection, same]
    · simpa [registryAddConnection, same] using inv.keys c
  · cases key : userKey? userId with
    | none => simpa [registryAddConnection, key] using inv.noEmpty
    | some user =>
      simpa [registryAddConnection, key] using noEmptySet_addMember user connectionId inv.noEmpty
  · simp only [registryAddConnection, registryGetUserConnections] at found ⊢
    by_cases same : c = connectionId
    · subst same
      simp only [update_same, Option.some.injEq] at found
      subst found
      simp [truthy, mem_members_addMember]
    · rw [update_noteq same] at found
      have old := inv.indexed c data user found truthy
      unfold registryGetUserConnections at old
      cases key : userKey? userId with
      | none => simpa using old
      | some u => exact mem_members_addMember.mpr (.inr old)

theorem RegistryInvariant.remove (inv : s.RegistryInvariant) (connectionId : String)
    (userId : Option String) :
    (s.registryRemoveConnection connectionId userId).RegistryInvariant := by
  refine ⟨fun c => ?_, ?_, fun c data user found truthy => ?_⟩
  · by_cases same : c = connectionId
    · simp [registryRemoveConnection, same]
    · simpa [registryRemoveConnection, same] using inv.keys c
  · cases key : userKey? userId with
    | none => simpa [registryRemoveConnection, key] using inv.noEmpty
    | some user =>
      simpa [registryRemoveConnection, key] using
        noEmptySet_discardMember user connectionId inv.noEmpty
  · simp only [registryRemoveConnection, registryGetUserConnections] at found ⊢
    have same : c ≠ connectionId := by rintro rfl; simp at found
    rw [update_noteq same] at found
    have old := inv.indexed c data user found truthy
    unfold registryGetUserConnections at old
    cases key : userKey? userId with
    | none => simpa using old
    | some u => exact mem_members_discardMember.mpr ⟨fun both => same both.2, old⟩

theorem RegistryInvariant.update (inv : s.RegistryInvariant) (connectionId : String)
    (groups : Finset String) : (s.registryUpdateGroups connectionId groups).RegistryInvariant := by
  unfold registryUpdateGroups
  cases present : s.registryConnectionData connectionId with
  | none => simpa [present] using inv
  | some record =>
    refine ⟨fun c => ?_, inv.noEmpty, fun c data user found truthy => ?_⟩
    · by_cases same : c = connectionId
      · subst same
        simp [inv.keys, present]
      · simpa [same] using inv.keys c
    · by_cases same : c = connectionId
      · subst same
        simp only [present, update_same, Option.some.injEq] at found
        subst found
        exact inv.indexed c record user present truthy
      · simp only [present, update_noteq same] at found
        exact inv.indexed c data user found truthy

theorem RegistryInvariant.init : (init : MemoryBackend Payload).RegistryInvariant :=
  ⟨fun _ => by simp [MemoryBackend.init], fun _ => Option.noConfusion,
    fun _ _ _ found => Option.noConfusion found⟩

/-- **One step keeps the registry invariant.** -/
theorem RegistryInvariant.step (inv : s.RegistryInvariant) (action : Action Payload) :
    (s.step action).RegistryInvariant := by
  cases action
  case registryAddConnection connectionId userId groups => exact inv.add connectionId userId groups
  case registryRemoveConnection connectionId userId => exact inv.remove connectionId userId
  case registryUpdateGroups connectionId groups => exact inv.update connectionId groups
  all_goals
    refine inv.of_eq ?_ ?_ ?_ <;> simp only [step_registryConnections,
      step_registryConnectionData, step_registryUserConnections]

/-- **The registry invariant holds on every run.** -/
theorem registryInvariant_run (actions : List (Action Payload)) :
    ((init : MemoryBackend Payload).run actions).RegistryInvariant := by
  induction actions using List.reverseRecOn with
  | nil => exact RegistryInvariant.init
  | append_singleton actions action ih =>
    rw [run_concat]
    exact ih.step action

/-! ## The registry under its callers' contract -/

/-- Whether a step keeps the contract the registry's callers are meant to keep: a connection is
added only when it is not registered, and removed with the user id its record holds. -/
def registryContract (s : MemoryBackend Payload) : Action Payload → Bool
  | .registryAddConnection connectionId _ _ => (s.registryConnectionData connectionId).isNone
  | .registryRemoveConnection connectionId userId =>
    match s.registryConnectionData connectionId with
    | none => true
    | some data => userKey? userId == userKey? data.userId
  | _ => true

/-- Whether every step of a run keeps the contract, in the state it runs from. -/
def keepsRegistryContract (s : MemoryBackend Payload) : List (Action Payload) → Bool
  | [] => true
  | action :: rest => s.registryContract action && (s.step action).keepsRegistryContract rest

/-- What the user index is for: it lists exactly the registered connections of each user. -/
def UserIndexExact (s : MemoryBackend Payload) : Prop :=
  ∀ user connectionId, connectionId ∈ s.registryGetUserConnections user ↔
    ∃ data, s.registryConnectionData connectionId = some data ∧ userKey? data.userId = some user

theorem UserIndexExact.add (exact : s.UserIndexExact) {connectionId : String}
    (absent : s.registryConnectionData connectionId = none) (userId : Option String)
    (groups : Finset String) :
    (s.registryAddConnection connectionId userId groups).UserIndexExact := by
  intro user c
  by_cases same : c = connectionId
  · subst same
    have unlisted : c ∉ members s.registryUserConnections user := fun listed => by
      obtain ⟨_, found, -⟩ := (exact user c).mp listed
      simp [absent] at found
    cases key : userKey? userId <;>
      simp [registryAddConnection, registryGetUserConnections, key, mem_members_addMember,
        unlisted, eq_comm]
  · cases key : userKey? userId <;>
      simpa [registryAddConnection, registryGetUserConnections, key, mem_members_addMember, same]
        using exact user c

theorem UserIndexExact.remove (exact : s.UserIndexExact) {connectionId : String}
    {userId : Option String}
    (ownUser : ∀ data, s.registryConnectionData connectionId = some data →
      userKey? userId = userKey? data.userId) :
    (s.registryRemoveConnection connectionId userId).UserIndexExact := by
  intro user c
  by_cases same : c = connectionId
  · subst same
    simp only [registryRemoveConnection, registryGetUserConnections, update_same,
      reduceCtorEq, false_and, exists_false, iff_false]
    intro listed
    have stale : c ∈ s.registryGetUserConnections user := by
      cases key : userKey? userId <;> simp only [key] at listed
      · exact listed
      · exact (mem_members_discardMember.mp listed).2
    obtain ⟨data, found, owner⟩ := (exact user c).mp stale
    have := ownUser data found
    cases key : userKey? userId <;> simp only [key] at listed this
    · rw [owner] at this
      cases this
    · rw [owner, Option.some.injEq] at this
      subst this
      exact (mem_members_discardMember.mp listed).1 ⟨rfl, rfl⟩
  · cases key : userKey? userId <;>
      simpa [registryRemoveConnection, registryGetUserConnections, key, mem_members_discardMember,
        same] using exact user c

theorem UserIndexExact.update (exact : s.UserIndexExact) (connectionId : String)
    (groups : Finset String) : (s.registryUpdateGroups connectionId groups).UserIndexExact := by
  intro user c
  unfold registryUpdateGroups
  cases present : s.registryConnectionData connectionId with
  | none => simpa [present] using exact user c
  | some data =>
    by_cases same : c = connectionId
    · subst same
      simpa [registryGetUserConnections, present] using exact user c
    · simpa [registryGetUserConnections, same] using exact user c

/-- **One step that keeps the contract keeps the user index exact.** -/
theorem UserIndexExact.step (exact : s.UserIndexExact) {action : Action Payload}
    (kept : s.registryContract action = true) : (s.step action).UserIndexExact := by
  cases action
  case registryAddConnection connectionId userId groups =>
    exact exact.add (by simpa [registryContract] using kept) userId groups
  case registryRemoveConnection connectionId userId =>
    refine exact.remove fun data found => ?_
    simpa [registryContract, found] using kept
  case registryUpdateGroups connectionId groups => exact exact.update connectionId groups
  all_goals
    intro user c
    simpa only [registryGetUserConnections, step_registryConnectionData,
      step_registryUserConnections] using exact user c

theorem UserIndexExact.run (exact : s.UserIndexExact) {actions : List (Action Payload)}
    (kept : s.keepsRegistryContract actions = true) : (s.run actions).UserIndexExact := by
  induction actions generalizing s with
  | nil => exact exact
  | cons action rest ih =>
    simp only [keepsRegistryContract, Bool.and_eq_true] at kept
    exact ih (exact.step kept.1) kept.2

/-- **Under its callers' contract the user index is exact**: on every run from a fresh backend
in which a connection is added only when it is not registered and removed with its own user id,
`registry_get_user_connections(user)` is exactly the set of registered connections whose record
holds `user`. -/
theorem registry_user_index_exact (actions : List (Action Payload))
    (kept : (init : MemoryBackend Payload).keepsRegistryContract actions = true)
    (user connectionId : String) :
    connectionId ∈ ((init : MemoryBackend Payload).run actions).registryGetUserConnections user ↔
      ∃ data, ((init : MemoryBackend Payload).run actions).registryConnectionData connectionId =
        some data ∧ userKey? data.userId = some user :=
  UserIndexExact.run (fun _ _ => by simp [registryGetUserConnections, MemoryBackend.init]) kept
    user connectionId

theorem registry_user_index_exact_after_reconnect :
    (init : MemoryBackend Unit).keepsRegistryContract
        [.registryAddConnection "c" (some "alice") ∅, .registryRemoveConnection "c" (some "alice"),
          .registryAddConnection "c" (some "bob") ∅] = true ∧
      ("c" ∈ ((init : MemoryBackend Unit).run
          [.registryAddConnection "c" (some "alice") ∅, .registryRemoveConnection "c" (some "alice"),
            .registryAddConnection "c" (some "bob") ∅]).registryGetUserConnections "alice" ↔
        ∃ data, ((init : MemoryBackend Unit).run
          [.registryAddConnection "c" (some "alice") ∅, .registryRemoveConnection "c" (some "alice"),
            .registryAddConnection "c" (some "bob") ∅]).registryConnectionData "c" = some data ∧
          userKey? data.userId = some "alice") :=
  ⟨by decide, registry_user_index_exact _ (by decide) "alice" "c"⟩

/-! ## One connection's entry -/

/-- Whether a step is a registry call on `connectionId`. -/
def touchesConnection (connectionId : String) : Action Payload → Bool
  | .registryAddConnection other _ _ => other == connectionId
  | .registryRemoveConnection other _ => other == connectionId
  | .registryUpdateGroups other _ => other == connectionId
  | _ => false

/-- A connection's registry entry: whether it is in `_registry_connections`, and its record. -/
def entry (connectionId : String) (s : MemoryBackend Payload) : Bool × Option ConnectionData :=
  (decide (connectionId ∈ s.registryConnections), s.registryConnectionData connectionId)

/-- One connection's entry as a machine of its own: what a step makes of it. -/
def entryStep (connectionId : String) (current : Bool × Option ConnectionData) :
    Action Payload → Bool × Option ConnectionData
  | .registryAddConnection other userId groups =>
    if other = connectionId then (true, some ⟨userId, groups⟩) else current
  | .registryRemoveConnection other _ => if other = connectionId then (false, none) else current
  | .registryUpdateGroups other groups =>
    if other = connectionId then (current.1, current.2.map fun data => { data with groups })
    else current
  | _ => current

/-- **A step changes a connection's entry as its own machine says.** -/
theorem entry_step (connectionId : String) (s : MemoryBackend Payload) (action : Action Payload) :
    entry connectionId (s.step action) = entryStep connectionId (entry connectionId s) action := by
  simp only [entry, step_registryConnections, step_registryConnectionData]
  cases action with
  | registryAddConnection other | registryRemoveConnection other =>
    by_cases same : other = connectionId
    · subst same
      simp [entryStep]
    · simp [entryStep, same, Ne.symm same, update_noteq (Ne.symm same)]
  | registryUpdateGroups other groups =>
    by_cases same : other = connectionId
    · subst same
      cases present : s.registryConnectionData other <;>
        simp [entryStep, registryUpdateGroups, present]
    · cases present : s.registryConnectionData other <;>
        simp [entryStep, registryUpdateGroups, present, same, update_noteq (Ne.symm same)]
  | _ => rfl

theorem entryStep_of_untouched {connectionId : String} {action : Action Payload}
    (untouched : touchesConnection connectionId action = false)
    (current : Bool × Option ConnectionData) : entryStep connectionId current action = current := by
  cases action <;> simp_all [touchesConnection, entryStep]

theorem entry_run_filter (connectionId : String) :
    ∀ (actions : List (Action Payload)) (s t : MemoryBackend Payload),
      entry connectionId s = entry connectionId t →
      entry connectionId (s.run actions) =
        entry connectionId (t.run (actions.filter (touchesConnection connectionId)))
  | [], _, _, same => same
  | action :: actions, s, t, same => by
    by_cases touched : touchesConnection connectionId action = true
    · rw [List.filter_cons_of_pos touched]
      exact entry_run_filter connectionId actions _ _ (by rw [entry_step, entry_step, same])
    · rw [List.filter_cons_of_neg touched]
      exact entry_run_filter connectionId actions _ _ (by
        rw [entry_step, entryStep_of_untouched (Bool.eq_false_iff.mpr touched), same])

/-- **A connection's registry entry is its own.** After any run from any state, whether a
connection is registered and the record `registry_get_connection_groups` reads are those the run
of its own registry calls alone gives: what other connections register or remove, and every group,
channel, `flush` and `cleanup` step, leave them as they are. -/
theorem registry_entry_isolated (s : MemoryBackend Payload) (connectionId : String)
    (actions : List (Action Payload)) :
    (connectionId ∈ (s.run actions).registryConnections ↔
        connectionId ∈
          (s.run (actions.filter (touchesConnection connectionId))).registryConnections) ∧
      (s.run actions).registryConnectionData connectionId =
        (s.run (actions.filter (touchesConnection connectionId))).registryConnectionData
          connectionId ∧
      (s.run actions).registryGetConnectionGroups connectionId =
        (s.run (actions.filter (touchesConnection connectionId))).registryGetConnectionGroups
          connectionId := by
  have same := entry_run_filter connectionId actions s s rfl
  simp only [entry, Prod.mk.injEq, decide_eq_decide] at same
  exact ⟨same.1, same.2, by rw [registryGetConnectionGroups, registryGetConnectionGroups, same.2]⟩

/-! ## The stale user entry -/

/-- **A connection re-added under another user stays in its first user's set**: after
`add("c", "alice")`, `add("c", "bob")` and `remove("c", "bob")` no connection is registered, and
`registry_get_user_connections("alice")` is still `{"c"}`. -/
theorem registry_readd_keeps_stale_user :
    ((init : MemoryBackend Unit).run
        [.registryAddConnection "c" (some "alice") ∅, .registryAddConnection "c" (some "bob") ∅,
          .registryRemoveConnection "c" (some "bob")]).registryCountConnections = 0 ∧
      ((init : MemoryBackend Unit).run
        [.registryAddConnection "c" (some "alice") ∅, .registryAddConnection "c" (some "bob") ∅,
          .registryRemoveConnection "c" (some "bob")]).registryGetUserConnections "alice" =
        {"c"} ∧
      ∀ (Payload : Type) (actions : List (Action Payload)),
        ((init : MemoryBackend Payload).run actions).RegistryInvariant :=
  ⟨by decide, by decide, fun _ => registryInvariant_run⟩

end MemoryBackend

end ChannelLayer
