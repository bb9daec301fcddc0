/-
**The group index: no empty group, and a channel is a member exactly when its last add stands.**

Over every run of the backend from `MemoryBackend()` (every list of atomic steps, so every
interleaving of concurrent callers):

* `groups_noEmptySet_run`: no group key maps to an empty set;
* `mem_getGroupChannels_run`: `channel ∈ group_channels(group)` iff some
  `group_add(group, channel)` of the run is followed by no `group_discard(group, channel)`, no
  `flush` and no `cleanup` (`AddedSinceReset`);
* `group_index_invariant`: both at once, with what follows on every reachable state: a step that
  neither adds nor revokes a membership keeps it, adding twice and discarding twice are the same
  as doing it once, and discarding a non-member changes nothing.

Both come from `mem_getGroupChannels_step`, what one step does to one membership, which also gives
the frame property (`mem_getGroupChannels_step_of_unrelated`); idempotence is
`groupAdd_groupAdd`, `groupDiscard_groupDiscard` and `groupDiscard_of_not_mem`.
-/

import ChannelLayer.Backend.Memory

namespace ChannelLayer

open Function

variable {Payload : Type}

/-- The actions that end the membership of `channel` in `group`: `group_discard(group, channel)`,
`flush` and `cleanup`. -/
def Action.Revokes (group channel : String) : Action Payload → Prop
  | .groupDiscard group' channel' => group' = group ∧ channel' = channel
  | .flush => True
  | .cleanup => True
  | _ => False

/-- Some `group_add(group, channel)` of the run is followed by no action that revokes it. -/
def AddedSinceReset (group channel : String) (actions : List (Action Payload)) : Prop :=
  ∃ before after, actions = before ++ .groupAdd group channel :: after ∧
    ∀ action ∈ after, ¬ action.Revokes group channel

namespace MemoryBackend

/-! ## One step -/

/-- **One step and one membership.** -/
theorem mem_getGroupChannels_step (s : MemoryBackend Payload) (action : Action Payload)
    (group channel : String) :
    channel ∈ (s.step action).getGroupChannels group ↔
      action = .groupAdd group channel ∨
        (channel ∈ s.getGroupChannels group ∧ ¬ action.Revokes group channel) := by
  unfold getGroupChannels
  rw [step_groups]
  cases action <;>
    simp [Action.Revokes, mem_members_addMember, mem_members_discardMember, eq_comm, and_comm]

/-- **Frame**: a step that neither adds nor revokes `channel` in `group` keeps its membership. -/
theorem mem_getGroupChannels_step_of_unrelated (s : MemoryBackend Payload)
    {action : Action Payload} {group channel : String}
    (notAdd : action ≠ .groupAdd group channel) (notRevoke : ¬ action.Revokes group channel) :
    channel ∈ (s.step action).getGroupChannels group ↔
      channel ∈ s.getGroupChannels group := by
  simp [mem_getGroupChannels_step, notAdd, notRevoke]

theorem groups_noEmptySet_step (s : MemoryBackend Payload) (action : Action Payload)
    (none : NoEmptySet s.groups) : NoEmptySet (s.step action).groups := by
  rw [step_groups]
  cases action
  case groupAdd group channel => exact noEmptySet_addMember group channel none
  case groupDiscard group channel => exact noEmptySet_discardMember group channel none
  case flush | cleanup => exact fun _ => Option.noConfusion
  all_goals exact none

/-! ## The run -/

/-- The last action of a run is the newest add, or it leaves the standing add standing. -/
theorem addedSinceReset_concat (group channel : String) (actions : List (Action Payload))
    (action : Action Payload) :
    AddedSinceReset group channel (actions ++ [action]) ↔
      action = .groupAdd group channel ∨
        (AddedSinceReset group channel actions ∧ ¬ action.Revokes group channel) := by
  constructor
  · rintro ⟨before, after, split, kept⟩
    induction after using List.reverseRecOn with
    | nil => exact .inl (List.singleton_inj.mp (List.append_inj' split rfl).2)
    | append_singleton after last _ =>
      have regrouped :
          actions ++ [action] = (before ++ .groupAdd group channel :: after) ++ [last] := by
        rw [split]; simp
      obtain ⟨earlier, newest⟩ := List.append_inj' regrouped rfl
      cases List.singleton_inj.mp newest
      exact .inr ⟨⟨before, after, earlier, fun a mem => kept a (by simp [mem])⟩,
        kept action (by simp)⟩
  · rintro (rfl | ⟨⟨before, after, rfl, kept⟩, notRevoke⟩)
    · exact ⟨actions, [], rfl, by simp⟩
    · refine ⟨before, after ++ [action], by simp, fun a mem => ?_⟩
      rcases List.mem_append.mp mem with mem | mem
      · exact kept a mem
      · rwa [List.mem_singleton.mp mem]

/-- **No empty group on any run.** -/
theorem groups_noEmptySet_run (actions : List (Action Payload)) :
    NoEmptySet ((init : MemoryBackend Payload).run actions).groups := by
  induction actions using List.reverseRecOn with
  | nil => exact fun _ => Option.noConfusion
  | append_singleton actions action ih =>
    rw [run_concat]
    exact groups_noEmptySet_step _ action ih

/-- **Membership on any run is the last add since the last reset.** -/
theorem mem_getGroupChannels_run (actions : List (Action Payload)) (group channel : String) :
    channel ∈ ((init : MemoryBackend Payload).run actions).getGroupChannels group ↔
      AddedSinceReset group channel actions := by
  induction actions using List.reverseRecOn with
  | nil => simp [AddedSinceReset, getGroupChannels, init, members]
  | append_singleton actions action ih =>
    rw [run_concat, mem_getGroupChannels_step, ih, addedSinceReset_concat]

/-! ## Idempotence -/

/-- Adding a channel twice is adding it once. -/
theorem groupAdd_groupAdd (s : MemoryBackend Payload) (group channel : String) :
    (s.groupAdd group channel).groupAdd group channel = s.groupAdd group channel := by
  simp [groupAdd, addMember, members]

/-- Discarding a channel twice is discarding it once. -/
theorem groupDiscard_groupDiscard (s : MemoryBackend Payload) (group channel : String) :
    (s.groupDiscard group channel).groupDiscard group channel = s.groupDiscard group channel := by
  simp only [groupDiscard, MemoryBackend.mk.injEq, and_true, true_and]
  cases present : s.groups group with
  | none => simp [discardMember, present]
  | some found =>
    by_cases emptied : found.erase channel = ∅
    · simp [discardMember, present, emptied]
    · simp [discardMember, present, emptied, Finset.erase_idem]

/-- Discarding a channel that is not a member changes nothing, on an index with no empty set. -/
theorem groupDiscard_of_not_mem (s : MemoryBackend Payload) (group channel : String)
    (none : NoEmptySet s.groups) (absent : channel ∉ s.getGroupChannels group) :
    s.groupDiscard group channel = s := by
  cases present : s.groups group with
  | none => simp [groupDiscard, discardMember, present]
  | some found =>
    have notMem : channel ∉ found := by simpa [getGroupChannels, members, present] using absent
    have nonempty : found ≠ ∅ := fun empty => none group (by rw [present, empty])
    simp only [groupDiscard, discardMember, present, Finset.erase_eq_of_not_mem notMem,
      nonempty, if_false]
    simp [← present]

/-! ## The invariant -/

/-- **The group index invariant.** On every run from `MemoryBackend()`, no group is empty and a
channel is a member exactly when its last add stands; so a step on another membership keeps it,
and `group_add` and `group_discard` are idempotent. -/
theorem group_index_invariant (actions : List (Action Payload)) :
    NoEmptySet ((init : MemoryBackend Payload).run actions).groups ∧
      (∀ group channel,
        channel ∈ ((init : MemoryBackend Payload).run actions).getGroupChannels group ↔
          AddedSinceReset group channel actions) ∧
      (∀ (action : Action Payload) (group channel : String), action ≠ .groupAdd group channel →
        ¬ action.Revokes group channel →
        (channel ∈ (((init : MemoryBackend Payload).run actions).step action).getGroupChannels
            group ↔
          channel ∈ ((init : MemoryBackend Payload).run actions).getGroupChannels group)) ∧
      ∀ group channel,
        (((init : MemoryBackend Payload).run actions).groupAdd group channel).groupAdd group
            channel = ((init : MemoryBackend Payload).run actions).groupAdd group channel ∧
        (((init : MemoryBackend Payload).run actions).groupDiscard group channel).groupDiscard
            group channel = ((init : MemoryBackend Payload).run actions).groupDiscard group channel ∧
        (channel ∉ ((init : MemoryBackend Payload).run actions).getGroupChannels group →
          ((init : MemoryBackend Payload).run actions).groupDiscard group channel =
            (init : MemoryBackend Payload).run actions) :=
  ⟨groups_noEmptySet_run actions, mem_getGroupChannels_run actions,
    fun _ _ _ => mem_getGroupChannels_step_of_unrelated _,
    fun group channel => ⟨groupAdd_groupAdd _ group channel, groupDiscard_groupDiscard _ group channel,
      groupDiscard_of_not_mem _ group channel (groups_noEmptySet_run actions)⟩⟩

end MemoryBackend

end ChannelLayer
