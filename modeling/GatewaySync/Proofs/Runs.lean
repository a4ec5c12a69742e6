import Mathlib.Algebra.Order.Ring.Nat
import Mathlib.Data.List.TakeWhile
/-!
# Runs of characters

Readers take the longest run of some characters at the front of a text, mostly of blanks or digits. What is
written in digits is read back as the number.
-/
namespace GatewaySync.Text

variable {cs run rest : List Char} {c : Char} {p : Char → Bool}

def Stops (p : Char → Bool) (rest : List Char) : Prop := ∀ c ∈ rest.head?, ¬ p c

@[simp] theorem stops_nil : Stops p [] := nofun

@[simp] theorem stops_cons : Stops p (c :: rest) ↔ ¬ p c := by simp [Stops]

theorem stops_dropWhile (p : Char → Bool) (cs : List Char) : Stops p (cs.dropWhile p) := by
  intro c first
  have outside := List.head?_dropWhile_not p cs
  rw [Option.mem_def.mp first] at outside
  simp [outside]

theorem Stops.dropWhile_eq (h : Stops p cs) : cs.dropWhile p = cs := by
  cases cs with
  | nil => rfl
  | cons c cs => exact List.dropWhile_cons_of_neg (stops_cons.mp h)

theorem Stops.takeWhile_eq (h : Stops p cs) : cs.takeWhile p = [] := by
  cases cs with
  | nil => rfl
  | cons c cs => exact List.takeWhile_cons_of_neg (stops_cons.mp h)

/-- The longest run of such characters at the front, and what follows it. -/
theorem run_iff :
    cs.takeWhile p = run ∧ cs.dropWhile p = rest ↔ cs = run ++ rest ∧ (∀ c ∈ run, p c) ∧ Stops p rest := by
  constructor
  · rintro ⟨rfl, rfl⟩
    exact ⟨List.takeWhile_append_dropWhile.symm, fun c => List.mem_takeWhile_imp, stops_dropWhile p cs⟩
  · rintro ⟨rfl, inside, stops⟩
    rw [List.takeWhile_append_of_pos inside, List.dropWhile_append_of_pos inside, stops.takeWhile_eq,
      stops.dropWhile_eq, List.append_nil]
    exact ⟨rfl, rfl⟩

theorem exists_run (p : Char → Bool) (cs : List Char) :
    ∃ run rest, cs = run ++ rest ∧ (∀ c ∈ run, p c) ∧ Stops p rest :=
  ⟨_, _, run_iff.mp ⟨rfl, rfl⟩⟩

theorem isDigit_bounds (h : c.isDigit) : 48 ≤ c.toNat ∧ c.toNat ≤ 57 := by
  simp only [Char.isDigit, Bool.and_eq_true, decide_eq_true_eq, ge_iff_le, UInt32.le_iff_toNat_le] at h
  exact h

theorem foldl_toDigits (n : Nat) : (Nat.toDigits 10 n).foldl (fun n c => n * 10 + (c.toNat - 48)) 0 = n := by
  have value := Nat.ofDigitChars_toDigits (b := 10) (n := n) (by decide) (by decide)
  simpa [Nat.ofDigitChars, Nat.mul_comm] using value

end GatewaySync.Text
