import GatewaySync.Sync.Backoff
import Mathlib.Algebra.Order.Ring.Nat
import Mathlib.Tactic.SplitIfs
/-!
# Delays of a failure counter

A failure counter is asked for delays and told to forget, for any keys in any order. Its words stop at their
largest value, yet no answer shows it: each delay is the doubled one of numbers, cut at the maximum. It is
told by the calls for the same key alone.
-/
namespace GatewaySync.Backoff

theorem factor_toNat (n : UInt32) : (factor n).toNat = min (2 ^ n.toNat) (2 ^ 32 - 1) := by
  unfold factor
  split
  · rename_i small
    have small : n.toNat < 32 := UInt32.lt_iff_toNat_lt.mp small
    have le : 2 ^ n.toNat ≤ 2 ^ 31 := Nat.pow_le_pow_right (by decide) (by omega)
    have shifted : (1 <<< n : UInt32).toNat = 2 ^ n.toNat := by
      rw [UInt32.toNat_shiftLeft, Nat.mod_eq_of_lt small]
      exact (congrArg (· % 2 ^ 32) (Nat.one_shiftLeft _)).trans (Nat.mod_eq_of_lt (by omega))
    rw [shifted]
    omega
  · rename_i large
    have large : 32 ≤ n.toNat := not_lt.mp fun small => large (UInt32.lt_iff_toNat_lt.mpr small)
    have le : 2 ^ 32 ≤ 2 ^ n.toNat := Nat.pow_le_pow_right (by decide) large
    have value : limit.toNat = 2 ^ 32 - 1 := rfl
    omega

theorem product?_cases (a b : UInt64) :
    (∃ c, product? a b = some c ∧ c.toNat = a.toNat * b.toNat) ∨
      product? a b = none ∧ 2 ^ 64 ≤ a.toNat * b.toNat := by
  have largest : (0xFFFFFFFFFFFFFFFF : UInt64).toNat = 2 ^ 64 - 1 := rfl
  unfold product?
  split
  · rename_i fits
    have small : a.toNat * b.toNat < 2 ^ 64 := by
      rcases fits with rfl | fits
      · simp
      · rw [UInt64.le_iff_toNat_le, UInt64.toNat_div, largest] at fits
        have := Nat.mul_le_of_le_div _ _ _ fits
        omega
    exact .inl ⟨_, rfl, by rw [UInt64.toNat_mul, Nat.mod_eq_of_lt small]⟩
  · rename_i exceeds
    obtain ⟨nonzero, large⟩ := not_or.mp exceeds
    rw [UInt64.le_iff_toNat_le, UInt64.toNat_div, largest, not_le] at large
    have positive : 0 < b.toNat := Nat.pos_of_ne_zero fun zero => nonzero (UInt64.toNat_inj.mp zero)
    have := (Nat.div_lt_iff_lt_mul positive).mp large
    exact .inr ⟨rfl, by omega⟩

/-- Words overflow nowhere: the delay is what numbers make it. -/
theorem delay_toNat (initial maximum : UInt64) (n : UInt32) :
    (delay initial maximum n).toNat =
      min maximum.toNat (initial.toNat * min (2 ^ n.toNat) (2 ^ 32 - 1)) := by
  rw [delay, UInt64.toNat_min, ← factor_toNat, ← UInt32.toNat_toUInt64]
  rcases product?_cases initial (factor n).toUInt64 with ⟨c, fits, value⟩ | ⟨exceeds, large⟩
  · rw [fits, Option.getD_some, value, min_comm]
  · have small := maximum.toNat_lt
    rw [exceeds, Option.getD_none, min_self, min_eq_left (by omega)]

theorem increment_toNat (n : UInt32) : (increment n).toNat = min (n.toNat + 1) (2 ^ 32 - 1) := by
  have one : (1 : UInt32).toNat = 1 := rfl
  have bound := n.toNat_lt
  unfold increment
  split
  · rename_i full
    rw [full]
    rfl
  · rename_i below
    have below : n.toNat ≠ 2 ^ 32 - 1 := fun full => below (UInt32.toNat_inj.mp full)
    rw [UInt32.toNat_add]
    omega

theorem count_reset (b : Backoff) (key other : String) :
    (b.reset key).count other = if other = key then 0 else b.count other := by
  unfold count reset
  rw [List.find?_filter]
  split_ifs with same
  · have absent : (b.failures.find? fun e => (e.1 != key) = true ∧ decide (e.1 = other) = true) = none := by
      simp [same]
    rw [absent]
    rfl
  · congr 3
    funext e
    by_cases found : e.1 = other <;> simp [found, same]

theorem count_next (b : Backoff) (initial maximum : UInt64) (key other : String) :
    (b.next initial maximum key).2.count other =
      if other = key then increment (b.count key) else b.count other := by
  have rest := count_reset b key other
  unfold count at rest ⊢
  rw [next]
  dsimp only
  rw [List.find?_cons]
  split_ifs at rest ⊢ with same
  · simp [same, count]
  · simpa [Ne.symm same] using rest

/-- A count that stopped at the largest word is not told from the number it stands for. -/
theorem min_two_pow_min (n : Nat) :
    min (2 ^ min n (2 ^ 32 - 1)) (2 ^ 32 - 1) = min (2 ^ n) (2 ^ 32 - 1) := by
  rcases le_total n (2 ^ 32 - 1) with small | large
  · rw [min_eq_left small]
  · have full : 2 ^ 32 - 1 ≤ 2 ^ (2 ^ 32 - 1) := Nat.lt_two_pow_self.le
    have more : 2 ^ 32 - 1 ≤ 2 ^ n := large.trans Nat.lt_two_pow_self.le
    rw [min_eq_right large, min_eq_right full, min_eq_right more]

inductive Call where
  | next (key : String)
  | reset (key : String)
  deriving DecidableEq

def Call.key : Call → String
  | next key => key
  | reset key => key

section

variable (initial maximum : UInt64)

def perform (b : Backoff) : Call → Option UInt64 × Backoff
  | .next key => ((b.next initial maximum key).1, (b.next initial maximum key).2)
  | .reset key => (none, b.reset key)

def answers (b : Backoff) : List Call → List (Option UInt64)
  | [] => []
  | call :: calls => (b.perform initial maximum call).1 :: answers (b.perform initial maximum call).2 calls

def after (b : Backoff) : List Call → Backoff
  | [] => b
  | call :: calls => after (b.perform initial maximum call).2 calls

end

/-- The delays asked for a key since it was last forgotten. -/
def nextsSince (key : String) (calls : List Call) : Nat :=
  (calls.reverse.takeWhile (· ≠ .reset key)).count (.next key)

theorem nextsSince_concat (key : String) (calls : List Call) (call : Call) :
    nextsSince key (calls ++ [call]) =
      if call = .reset key then 0
      else nextsSince key calls + if call = .next key then 1 else 0 := by
  unfold nextsSince
  rw [List.reverse_append, List.reverse_singleton, List.singleton_append, List.takeWhile_cons]
  split_ifs <;> simp_all

/-- The counter holds how often each key was asked for since it was last forgotten, as far as a word can
count. -/
def Counts (b : Backoff) (calls : List Call) : Prop :=
  ∀ key, (b.count key).toNat = min (nextsSince key calls) (2 ^ 32 - 1)

section

variable (initial maximum : UInt64) {b c : Backoff} {calls : List Call} {key : String}

theorem Counts.perform (h : b.Counts calls) (call : Call) :
    (b.perform initial maximum call).2.Counts (calls ++ [call]) := by
  intro other
  rw [nextsSince_concat]
  cases call with
  | next key =>
    rw [Backoff.perform, count_next]
    by_cases same : other = key
    · subst same
      simp only [if_true, reduceCtorEq, if_false, increment_toNat, h other]
      omega
    · simp [same, Ne.symm same, h other]
  | reset key =>
    rw [Backoff.perform, count_reset]
    by_cases same : other = key
    · simp [same]
    · simp [same, Ne.symm same, h other]

theorem Counts.after (h : b.Counts calls) (more : List Call) :
    (b.after initial maximum more).Counts (calls ++ more) := by
  induction more generalizing b calls with
  | nil => simpa [Backoff.after] using h
  | cons call more ih => simpa [Backoff.after] using ih (h.perform initial maximum call)

theorem counts_empty : empty.Counts [] := by
  intro key
  simp [empty, count, nextsSince]

/-- Neither the stop of the count nor that of the power nor a product that does not fit shows in a delay. -/
theorem Counts.delay (h : b.Counts calls) (key : String) :
    (b.next initial maximum key).1.toNat =
      min maximum.toNat (initial.toNat * min (2 ^ nextsSince key calls) (2 ^ 32 - 1)) := by
  rw [next, delay_toNat, h key, min_two_pow_min]

/-- As long as a key is not forgotten, its count does not fall. -/
theorem nextsSince_le_append (more : List Call) (kept : .reset key ∉ more) :
    nextsSince key calls ≤ nextsSince key (calls ++ more) := by
  induction more generalizing calls with
  | nil => simp
  | cons call more ih =>
    rw [List.mem_cons, not_or] at kept
    obtain ⟨other, rest⟩ := kept
    have one : nextsSince key calls ≤ nextsSince key (calls ++ [call]) := by
      rw [nextsSince_concat, if_neg (Ne.symm other)]
      omega
    refine one.trans ((ih rest).trans_eq ?_)
    rw [List.append_assoc, List.singleton_append]

theorem length_answers (b : Backoff) (calls : List Call) :
    (b.answers initial maximum calls).length = calls.length := by
  induction calls generalizing b with
  | nil => rfl
  | cons call calls ih => simp [answers, ih]

theorem answers_append (b : Backoff) (calls more : List Call) :
    b.answers initial maximum (calls ++ more) =
      b.answers initial maximum calls ++ (b.after initial maximum calls).answers initial maximum more := by
  induction calls generalizing b with
  | nil => rfl
  | cons call calls ih => simp [answers, after, ih]

theorem answers_getElem? (b : Backoff) (before rest : List Call) (key : String) :
    (b.answers initial maximum (before ++ .next key :: rest))[before.length]? =
      some (some ((b.after initial maximum before).next initial maximum key).1) := by
  rw [answers_append, ← length_answers initial maximum b before]
  simp [answers, perform]

/-- A call for a key is answered by the count of this key, and moves it by that alone. -/
theorem perform_alike (same : b.count key = c.count key) {call : Call} (mine : call.key = key) :
    (b.perform initial maximum call).1 = (c.perform initial maximum call).1 ∧
      (b.perform initial maximum call).2.count key = (c.perform initial maximum call).2.count key := by
  cases call with
  | next other =>
    obtain rfl : other = key := mine
    rw [perform, perform, count_next, count_next, if_pos rfl, if_pos rfl, same]
    exact ⟨by simp [next, same], rfl⟩
  | reset other =>
    obtain rfl : other = key := mine
    simp [perform, count_reset]

theorem perform_elsewhere {call : Call} (other : call.key ≠ key) :
    (b.perform initial maximum call).2.count key = b.count key := by
  cases call with
  | next k => exact (count_next b initial maximum k key).trans (if_neg (Ne.symm other))
  | reset k => exact (count_reset b k key).trans (if_neg (Ne.symm other))

/-- The answers for one key are those that it gets when no other key is called for. -/
theorem answers_filter (same : b.count key = c.count key) (calls : List Call) :
    ((calls.zip (b.answers initial maximum calls)).filter (·.1.key = key)).map (·.2) =
      c.answers initial maximum (calls.filter (·.key = key)) := by
  induction calls generalizing b c with
  | nil => rfl
  | cons call calls ih =>
    by_cases mine : call.key = key
    · obtain ⟨answer, after⟩ := perform_alike initial maximum same mine
      simp [answers, mine, answer, ih after]
    · have after : (b.perform initial maximum call).2.count key = c.count key :=
        (perform_elsewhere initial maximum mine).trans same
      simp [answers, mine, ih after]

end

/-- A counter of failures, whatever its initial and its largest delay, answers each call for a delay with the
initial delay doubled as often as the key was asked for since it was last forgotten, by a factor below two to
the power of 32, or with the largest delay if that is less. So no delay is above the largest, and between two
calls for a key that do not enclose its reset the delay does not fall. Leaving out all calls for other keys
changes no answer. -/
theorem delays_exact (initial maximum : UInt64) (calls : List Call) (key : String) :
    (∀ before rest, calls = before ++ .next key :: rest →
      ∃ d, (empty.answers initial maximum calls)[before.length]? = some (some d) ∧ d ≤ maximum ∧
        d.toNat = min maximum.toNat (initial.toNat * min (2 ^ nextsSince key before) (2 ^ 32 - 1))) ∧
    (∀ before between rest, calls = before ++ .next key :: (between ++ .next key :: rest) →
      .reset key ∉ between → ∃ d d', (empty.answers initial maximum calls)[before.length]? = some (some d) ∧
        (empty.answers initial maximum calls)[before.length + 1 + between.length]? = some (some d') ∧
        d ≤ d') ∧
    ((calls.zip (empty.answers initial maximum calls)).filter (·.1.key = key)).map (·.2) =
      empty.answers initial maximum (calls.filter (·.key = key)) := by
  have exact (before : List Call) := (counts_empty.after initial maximum before).delay initial maximum key
  refine ⟨?_, ?_, answers_filter initial maximum rfl calls⟩
  · rintro before rest rfl
    refine ⟨_, answers_getElem? initial maximum empty before rest key, ?_, exact before⟩
    rw [UInt64.le_iff_toNat_le, exact before]
    exact min_le_left _ _
  · rintro before between rest rfl kept
    have first := answers_getElem? initial maximum empty before
      (between ++ .next key :: rest) key
    have second := answers_getElem? initial maximum empty
      (before ++ .next key :: between) rest key
    refine ⟨_, _, first, by simpa [Nat.add_comm, Nat.add_left_comm] using second, ?_⟩
    have grows : nextsSince key before ≤ nextsSince key (before ++ .next key :: between) :=
      nextsSince_le_append _ (by simpa using kept)
    rw [UInt64.le_iff_toNat_le, exact, exact]
    exact min_le_min_left _
      (Nat.mul_le_mul_left _ (min_le_min_right _ (Nat.pow_le_pow_right (by decide) grows)))

/-- A reset of another key stands between two calls for a key, and the second delay is the longer one. -/
theorem delays_grow :
    Call.reset "a" ∉ [Call.reset "b"] ∧
      ∃ d d', (empty.answers 1 5 [.next "a", .reset "b", .next "a"])[0]? = some (some d) ∧
        (empty.answers 1 5 [.next "a", .reset "b", .next "a"])[2]? = some (some d') ∧ d ≤ d' :=
  ⟨by decide, (delays_exact 1 5 _ "a").2.1 [] [.reset "b"] [] rfl (by decide)⟩

example : empty.answers 1 5
    [.next "a", .next "a", .next "a", .next "a", .next "b", .reset "a", .next "a"] =
      [some 1, some 2, some 4, some 5, some 1, none, some 1] := by
  decide

end GatewaySync.Backoff
