/-
**Channel names: `new_channel` never hands out the same name twice.**

`new_channel(prefix)` returns `f"{prefix}.{ms}.{counter}"`, with `ms` the event-loop clock in
milliseconds and `counter` the backend's counter, which every call increments under the lock and
which neither `flush` nor `cleanup` resets.

* `decimalValue_toDigits`, `toString_int_injective`, `dot_not_mem_toString_int`: `str(n)` of an
  integer is digits after at most one `-`, so it has no `.`, and it determines the integer;
* `channelName_injective`: split at its last two dots, a name gives back prefix, clock and counter,
  whatever dots the prefix holds;
* `channel_names_unique`: along every run from every state, with any prefixes, any clock readings
  and any other steps in between, the names `new_channel` returns are pairwise distinct.
-/

import ChannelLayer.Backend.Memory
import Mathlib.Data.Nat.Digits

namespace ChannelLayer

/-! ## Decimal renderings -/

/-- The value of a decimal digit character. -/
def digitValue (c : Char) : ℕ :=
  c.toNat - '0'.toNat

/-- The number a list of decimal digits spells, most significant digit first. -/
def decimalValue (digits : List Char) : ℕ :=
  Nat.ofDigits 10 (digits.reverse.map digitValue)

/-- A digit character reads back as its digit, and is neither `.` nor `-`. -/
theorem digitChar_facts :
    ∀ d < 10,
      digitValue (Nat.digitChar d) = d ∧ Nat.digitChar d ≠ '.' ∧ Nat.digitChar d ≠ '-' := by
  decide

theorem toDigitsCore_ten {fuel n : ℕ} (ds : List Char) (enough : n < fuel) (positive : 0 < n) :
    Nat.toDigitsCore 10 fuel n ds = ((Nat.digits 10 n).map Nat.digitChar).reverse ++ ds := by
  induction fuel generalizing n ds with
  | zero => omega
  | succ fuel ih =>
    rw [Nat.digits_def' (by norm_num) positive]
    by_cases last : n / 10 = 0
    · simp [Nat.toDigitsCore, last]
    · simp only [Nat.toDigitsCore, last, if_false]
      rw [ih _ (by omega) (by omega)]
      simp

/-- The decimal digits of a positive number, most significant first. -/
theorem toDigits_of_pos {n : ℕ} (positive : 0 < n) :
    Nat.toDigits 10 n = ((Nat.digits 10 n).map Nat.digitChar).reverse := by
  simpa using toDigitsCore_ten [] (Nat.lt_succ_self n) positive

theorem mem_toDigits {n : ℕ} {c : Char} (mem : c ∈ Nat.toDigits 10 n) :
    ∃ d < 10, c = Nat.digitChar d := by
  rcases Nat.eq_zero_or_pos n with rfl | positive
  · exact ⟨0, by norm_num, List.mem_singleton.mp (show c ∈ ['0'] from mem)⟩
  · rw [toDigits_of_pos positive, List.mem_reverse, List.mem_map] at mem
    obtain ⟨d, digit, rfl⟩ := mem
    exact ⟨d, Nat.digits_lt_base (by norm_num) digit, rfl⟩

/-- **`str(n)` reads back as `n`.** -/
theorem decimalValue_toDigits (n : ℕ) : decimalValue (Nat.toDigits 10 n) = n := by
  rcases Nat.eq_zero_or_pos n with rfl | positive
  · rfl
  · have readBack : (Nat.digits 10 n).map (digitValue ∘ Nat.digitChar) = Nat.digits 10 n := by
      conv_rhs => rw [← List.map_id (Nat.digits 10 n)]
      exact List.map_congr_left fun d digit =>
        (digitChar_facts d (Nat.digits_lt_base (by norm_num) digit)).1
    rw [decimalValue, toDigits_of_pos positive, List.reverse_reverse, List.map_map, readBack,
      Nat.ofDigits_digits]

theorem toString_nat_data (n : ℕ) : (toString n).data = Nat.toDigits 10 n :=
  rfl

theorem toString_int_data (z : ℤ) :
    (toString z).data =
      match z with
      | .ofNat n => Nat.toDigits 10 n
      | .negSucc n => '-' :: Nat.toDigits 10 (n + 1) := by
  cases z <;> rfl

theorem toString_nat_injective : Function.Injective (toString : ℕ → String) :=
    fun m n same => by
  have := congrArg (fun rendered : String => decimalValue rendered.data) same
  simpa only [toString_nat_data, decimalValue_toDigits] using this

theorem dash_not_mem_toDigits (n : ℕ) : '-' ∉ Nat.toDigits 10 n := fun mem => by
  obtain ⟨d, small, dash⟩ := mem_toDigits mem
  exact (digitChar_facts d small).2.2 dash.symm

theorem toString_int_injective : Function.Injective (toString : ℤ → String) :=
    fun m n same => by
  have data := congrArg String.data same
  rw [toString_int_data, toString_int_data] at data
  cases m <;> cases n <;> simp only [List.cons.injEq] at data
  · exact congrArg _ (toString_nat_injective (String.ext data))
  · exact absurd (data ▸ List.mem_cons_self _ _) (dash_not_mem_toDigits _)
  · exact absurd (data ▸ List.mem_cons_self _ _) (dash_not_mem_toDigits _)
  · have := toString_nat_injective (String.ext data.2)
    simp_all

theorem dot_not_mem_toString_nat (n : ℕ) : '.' ∉ (toString n).data := fun mem => by
  obtain ⟨d, small, dot⟩ := mem_toDigits mem
  exact (digitChar_facts d small).2.1 dot.symm

theorem dot_not_mem_toString_int (z : ℤ) : '.' ∉ (toString z).data := by
  rw [toString_int_data]
  cases z with
  | ofNat n => exact dot_not_mem_toString_nat n
  | negSucc n => simpa using dot_not_mem_toString_nat (n + 1)

/-! ## Names -/

/-- Splitting at the last occurrence of a separator. -/
theorem append_cons_inj_of_not_mem {sep : Char} {x y x' y' : List Char} (free : sep ∉ y)
    (free' : sep ∉ y') (same : x ++ sep :: y = x' ++ sep :: y') : x = x' ∧ y = y' := by
  rcases List.append_eq_append_iff.mp same with ⟨a, rfl, rest⟩ | ⟨c, rfl, rest⟩
  · cases a with
    | nil => simpa using rest
    | cons head tail =>
      simp only [List.cons_append, List.cons.injEq] at rest
      exact absurd (rest.2 ▸ List.mem_append_right _ (List.mem_cons_self _ _)) free
  · cases c with
    | nil => simpa using rest.symm
    | cons head tail =>
      simp only [List.cons_append, List.cons.injEq] at rest
      exact absurd (rest.2 ▸ List.mem_append_right _ (List.mem_cons_self _ _)) free'

theorem channelName_data (label : String) (clock : ℤ) (counter : ℕ) :
    (channelName label clock counter).data =
      (label.data ++ '.' :: (toString clock).data) ++ '.' :: (toString counter).data := by
  simp [channelName]

/-- **A channel name determines its prefix, clock reading and counter.** -/
theorem channelName_injective {label label' : String} {clock clock' : ℤ} {counter counter' : ℕ}
    (same : channelName label clock counter = channelName label' clock' counter') :
    label = label' ∧ clock = clock' ∧ counter = counter' := by
  have data := congrArg String.data same
  rw [channelName_data, channelName_data] at data
  obtain ⟨front, counters⟩ := append_cons_inj_of_not_mem (dot_not_mem_toString_nat counter)
    (dot_not_mem_toString_nat counter') data
  obtain ⟨labels, clocks⟩ := append_cons_inj_of_not_mem (dot_not_mem_toString_int clock)
    (dot_not_mem_toString_int clock') front
  exact ⟨String.ext labels, toString_int_injective (String.ext clocks),
    toString_nat_injective (String.ext counters)⟩

namespace MemoryBackend

variable {Payload : Type}

/-- The names `new_channel` returned along a run, oldest first. -/
def channelNames (s : MemoryBackend Payload) (actions : List (Action Payload)) : List String :=
  (s.replies actions).filterMap fun
    | .channelName name => some name
    | _ => none

theorem channelNames_cons (s : MemoryBackend Payload) (action : Action Payload)
    (rest : List (Action Payload)) :
    s.channelNames (action :: rest) =
      (match action with
        | .newChannel label clock => [(s.newChannel label clock).1]
        | _ => []) ++ (s.step action).channelNames rest := by
  cases action <;> rfl

/-- Every name a run returns carries a counter above the one it started from, and no two are
equal. -/
theorem channelNames_fresh (s : MemoryBackend Payload) (actions : List (Action Payload)) :
    (s.channelNames actions).Nodup ∧ ∀ name ∈ s.channelNames actions,
      ∃ label clock counter,
        name = channelName label clock counter ∧ s.channelCounter < counter := by
  induction actions generalizing s with
  | nil => simp [channelNames, replies]
  | cons action rest ih =>
    obtain ⟨nodup, later⟩ := ih (s.step action)
    have counter := step_channelCounter s action
    rw [channelNames_cons]
    cases action
    case newChannel label clock =>
      simp only [newChannel, List.singleton_append, List.nodup_cons, List.mem_cons] at counter ⊢
      refine ⟨⟨fun mem => ?_, nodup⟩, ?_⟩
      · obtain ⟨label', clock', counter', same, above⟩ := later _ mem
        have := (channelName_injective same).2.2
        omega
      · rintro name (rfl | mem)
        · exact ⟨label, clock, _, rfl, Nat.lt_succ_self _⟩
        · obtain ⟨label', clock', counter', rfl, above⟩ := later name mem
          exact ⟨label', clock', counter', rfl, by omega⟩
    all_goals
      simp only [List.nil_append] at counter ⊢
      exact ⟨nodup, fun name mem => by simpa [counter] using later name mem⟩

/-- **`new_channel` never returns the same name twice**, along any run from any state; the name
determines the prefix, the clock reading and the counter it was rendered from. -/
theorem channel_names_unique :
    (∀ (s : MemoryBackend Payload) (actions : List (Action Payload)),
      (s.channelNames actions).Nodup) ∧
    ∀ (label label' : String) (clock clock' : ℤ) (counter counter' : ℕ),
      channelName label clock counter = channelName label' clock' counter' →
        label = label' ∧ clock = clock' ∧ counter = counter' :=
  ⟨fun s actions => (channelNames_fresh s actions).1, fun _ _ _ _ _ _ => channelName_injective⟩

end MemoryBackend

end ChannelLayer
