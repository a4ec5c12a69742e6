import GatewaySync.Json.Token
import GatewaySync.Proofs.Runs
import Mathlib.Data.List.Basic
import Mathlib.Data.List.Induction
import Mathlib.Tactic.IntervalCases
/-!
# Literals and numbers of a JSON text

The grammar of numbers, and that a word is read as what it spells: a literal, an integer that 64 bits hold,
or else the double of the number.
-/
namespace GatewaySync.Json

open Text

variable {cs ds rest w : List Char} {c : Char}

def Digits (cs : List Char) : Prop := cs ≠ [] ∧ ∀ c ∈ cs, c.isDigit

/-- The digits of a natural number, of which the first is zero for the number zero only. -/
def Whole (cs : List Char) : Prop := ∃ n : Nat, (toString n).toList = cs

inductive Sign : List Char → Bool → Prop
  | absent : Sign [] false
  | minus : Sign ['-'] true

inductive Fraction : List Char → Option (List Char) → Prop
  | absent : Fraction [] none
  | digits {ds : List Char} (h : Digits ds) : Fraction ('.' :: ds) (some ds)

/-- The sign of an exponent, where a plus may stand. -/
inductive ExponentSign : List Char → Bool → Prop
  | sign {s : List Char} {negative : Bool} (h : Sign s negative) : ExponentSign s negative
  | plus : ExponentSign ['+'] false

inductive Exponent : List Char → Option (Bool × List Char) → Prop
  | absent : Exponent [] none
  | digits {letter : Char} {s ds : List Char} {negative : Bool} (either : letter = 'e' ∨ letter = 'E')
      (sign : ExponentSign s negative) (h : Digits ds) : Exponent (letter :: (s ++ ds)) (some (negative, ds))

inductive Numeral : List Char → Decimal → Prop
  | parts {s f e : List Char} {d : Decimal} (sign : Sign s d.negative) (whole : Whole d.whole)
      (fraction : Fraction f d.fraction) (exponent : Exponent e d.exponent) :
      Numeral (s ++ (d.whole ++ (f ++ e))) d

def FitsWord (n : Int) : Prop := -(wordCount 63 : Int) ≤ n ∧ n < (wordCount 64 : Int)

/-- What a word spells. A number that is no integer of 64 bits is a double, and so is minus zero. -/
inductive Word : List Char → Json → Prop
  | null : Word "null".toList null
  | true : Word "true".toList (bool true)
  | false : Word "false".toList (bool false)
  | integer {n : Int} (fits : FitsWord n) : Word (toString n).toList (int n)
  | double {w : List Char} {d : Decimal} (numeral : Numeral w d)
      (inexact : ∀ n, FitsWord n → (toString n).toList ≠ w) : Word w d.toFloat

section Digits

theorem toString_toList (n : Nat) : (toString n).toList = Nat.toDigits 10 n := by
  rw [Nat.toString_eq_ofList_toDigits, String.toList_ofList]

theorem digits_toDigits (n : Nat) : Digits (Nat.toDigits 10 n) :=
  ⟨Nat.toDigits_ne_nil, fun _ mem => Nat.isDigit_of_mem_toDigits (by decide) (by decide) mem⟩

theorem head_toDigits {n : Nat} (positive : 0 < n) : (Nat.toDigits 10 n).head? ≠ some '0' := by
  induction n using Nat.strongRecOn with
  | ind n ih =>
    rw [Nat.toDigits_eq_if (by decide)]
    split_ifs with short
    · interval_cases n <;> decide
    · rw [List.head?_append_of_ne_nil _ Nat.toDigits_ne_nil]
      exact ih (n / 10) (by omega) (by omega)

theorem digitChar_digit (h : c.isDigit) : (c.toNat - 48).digitChar = c := by
  obtain ⟨low, high⟩ := isDigit_bounds h
  apply Char.ext
  apply UInt32.toNat_inj.mp
  change _ = c.toNat
  generalize c.toNat = n at low high
  interval_cases n <;> rfl

/-- Digits that do not start with a superfluous zero are those of the number they stand for. -/
theorem toDigits_ofDigitChars (digits : Digits cs) (lead : cs.length = 1 ∨ cs.head? ≠ some '0') :
    Nat.toDigits 10 (Nat.ofDigitChars 10 cs 0) = cs := by
  induction cs using List.reverseRecOn with
  | nil => exact absurd rfl digits.1
  | append_singleton ds c ih =>
    have digit : c.isDigit := digits.2 c (by simp)
    have single : Nat.toDigits 10 (c.toNat - 48) = [c] := by
      have bounds := isDigit_bounds digit
      rw [Nat.toDigits_of_lt_base (by omega), digitChar_digit digit]
    by_cases alone : ds = []
    · simpa [alone, Nat.ofDigitChars_cons] using single
    · have lead : ds.head? ≠ some '0' := by
        have long : 0 < ds.length := List.length_pos_iff.mpr alone
        rw [List.head?_append_of_ne_nil ds alone, List.length_append] at lead
        exact lead.resolve_left (by simp [alone])
      have before : Nat.toDigits 10 (Nat.ofDigitChars 10 ds 0) = ds :=
        ih ⟨alone, fun d mem => digits.2 d (by simp [mem])⟩ (.inr lead)
      have positive : 0 < Nat.ofDigitChars 10 ds 0 := by
        apply Nat.pos_of_ne_zero
        intro zero
        rw [zero] at before
        exact lead (before ▸ rfl)
      have bounds := isDigit_bounds digit
      have joined := Nat.toDigits_append_toDigits (b := 10) (d := c.toNat - 48) (by decide) positive (by omega)
      rw [before, single] at joined
      rw [Nat.ofDigitChars_append, Nat.ofDigitChars_cons, Nat.ofDigitChars_nil]
      exact joined.symm

theorem Whole.digits (h : Whole cs) : Digits cs := by
  obtain ⟨n, rfl⟩ := h
  rw [toString_toList]
  exact digits_toDigits n

theorem whole_iff : Whole cs ↔ Digits cs ∧ (cs.length = 1 ∨ cs.head? ≠ some '0') := by
  constructor
  · intro whole
    refine ⟨whole.digits, ?_⟩
    obtain ⟨n, rfl⟩ := whole
    rw [toString_toList]
    rcases Nat.eq_zero_or_pos n with rfl | positive
    · exact .inl rfl
    · exact .inr (head_toDigits positive)
  · rintro ⟨digits, lead⟩
    exact ⟨_, (toString_toList _).trans (toDigits_ofDigitChars digits lead)⟩

end Digits

theorem spanDigits_eq_iff :
    spanDigits cs = (ds, rest) ↔ cs = ds ++ rest ∧ (∀ c ∈ ds, c.isDigit) ∧ Stops Char.isDigit rest :=
  Prod.mk_inj.trans run_iff

section Numerals

variable {s f e : List Char} {d : Decimal} {negative : Bool} {fraction : Option (List Char)}
  {exponent : Option (Bool × List Char)}

theorem Digits.cons (h : Digits ds) : ∃ c rest, ds = c :: rest ∧ c.isDigit := by
  cases ds with
  | nil => exact absurd rfl h.1
  | cons c rest => exact ⟨c, rest, rfl, h.2 c (by simp)⟩

theorem sign_of_spanMinus (h : spanMinus cs = (negative, rest)) : ∃ s, Sign s negative ∧ cs = s ++ rest := by
  unfold spanMinus at h
  split at h
  · cases h
    exact ⟨_, .minus, rfl⟩
  · cases h
    exact ⟨_, .absent, rfl⟩

theorem Sign.spanMinus_eq (h : Sign s negative) (digits : Digits ds) (rest : List Char) :
    spanMinus (s ++ (ds ++ rest)) = (negative, ds ++ rest) := by
  obtain ⟨c, more, rfl, digit⟩ := digits.cons
  cases h with
  | minus => rfl
  | absent =>
    unfold spanMinus
    split
    · rename_i minus
      cases minus
      cases digit
    · rfl

theorem sign_of_spanSign (h : spanSign cs = (negative, rest)) :
    ∃ s, ExponentSign s negative ∧ cs = s ++ rest := by
  unfold spanSign at h
  split at h
  · cases h
    exact ⟨_, .plus, rfl⟩
  · obtain ⟨s, sign, rfl⟩ := sign_of_spanMinus h
    exact ⟨s, .sign sign, rfl⟩

theorem ExponentSign.spanSign_eq (h : ExponentSign s negative) (digits : Digits ds) :
    spanSign (s ++ ds) = (negative, ds) := by
  cases h with
  | plus => rfl
  | sign h =>
    have minus := h.spanMinus_eq digits []
    rw [List.append_nil] at minus
    unfold spanSign
    split
    · rename_i plus
      obtain ⟨c, more, rfl, digit⟩ := digits.cons
      cases h <;> cases plus
      cases digit
    · exact minus

theorem exponentOf_eq_some_iff : exponentOf cs = some exponent ↔ Exponent cs exponent := by
  constructor
  · intro h
    unfold exponentOf at h
    split at h
    · cases h
      exact .absent
    · rename_i letter rest
      split at h
      rename_i negative ds span
      split_ifs at h with proper
      cases h
      obtain ⟨either, exist, digits⟩ := proper
      obtain ⟨s, sign, rfl⟩ := sign_of_spanSign span
      exact .digits either sign ⟨exist, List.all_eq_true.mp digits⟩
  · intro h
    cases h with
    | absent => rfl
    | digits either sign h =>
      rw [exponentOf, sign.spanSign_eq h]
      exact if_pos ⟨either, h.1, List.all_eq_true.mpr h.2⟩

theorem Exponent.stops (h : Exponent e exponent) : Stops Char.isDigit e := by
  cases h with
  | absent => exact stops_nil
  | digits either => rcases either with rfl | rfl <;> simp [stops_cons]

theorem fraction_of_fractionOf (h : fractionOf cs = some (fraction, rest)) :
    ∃ f, Fraction f fraction ∧ cs = f ++ rest := by
  unfold fractionOf at h
  split at h
  · split at h
    rename_i ds more span
    obtain ⟨rfl, digits, -⟩ := spanDigits_eq_iff.mp span
    split_ifs at h with exist
    cases h
    exact ⟨_, .digits ⟨exist, digits⟩, rfl⟩
  · cases h
    exact ⟨_, .absent, rfl⟩

theorem Fraction.fractionOf_eq (h : Fraction f fraction) (after : Exponent e exponent) :
    fractionOf (f ++ e) = some (fraction, e) := by
  cases h with
  | absent =>
    unfold fractionOf
    split
    · rename_i point
      cases after with
      | absent => cases point
      | digits either =>
        cases point
        rcases either with h | h <;> cases h
    · rfl
  | digits h =>
    have span := spanDigits_eq_iff.mpr ⟨rfl, h.2, after.stops⟩
    rw [List.cons_append, fractionOf, span]
    exact if_neg h.1

theorem Fraction.stops (h : Fraction f fraction) (after : Exponent e exponent) :
    Stops Char.isDigit (f ++ e) := by
  cases h with
  | absent => exact after.stops
  | digits => simp [stops_cons]

/-- A word is read as a number if and only if the grammar has it. -/
theorem ofWord_eq_some_iff : Decimal.ofWord w = some d ↔ Numeral w d := by
  constructor
  · intro h
    unfold Decimal.ofWord at h
    split at h
    rename_i negative cs minus
    split at h
    rename_i whole rest span
    split_ifs at h with proper
    simp only [Option.bind_eq_bind, Option.bind_eq_some_iff, Option.some.injEq] at h
    obtain ⟨⟨fraction, e⟩, point, exponent, scale, rfl⟩ := h
    obtain ⟨s, sign, rfl⟩ := sign_of_spanMinus minus
    obtain ⟨rfl, digits, -⟩ := spanDigits_eq_iff.mp span
    obtain ⟨f, fraction, rfl⟩ := fraction_of_fractionOf point
    have whole : Whole whole := whole_iff.mpr ⟨⟨proper.1, digits⟩, proper.2⟩
    exact .parts (d := ⟨_, _, _, _⟩) sign whole fraction (exponentOf_eq_some_iff.mp scale)
  · rintro ⟨sign, whole, fraction, exponent⟩
    obtain ⟨digits, lead⟩ := whole_iff.mp whole
    have span := spanDigits_eq_iff.mpr ⟨rfl, digits.2, fraction.stops exponent⟩
    rw [Decimal.ofWord, sign.spanMinus_eq digits]
    dsimp only
    rw [span]
    dsimp only
    rw [if_pos ⟨digits.1, lead⟩, fraction.fractionOf_eq exponent, Option.bind_eq_bind, Option.bind_some,
      exponentOf_eq_some_iff.mpr exponent]
    rfl

end Numerals

section Words

variable {d : Decimal} {v : Json}

def Decimal.ofInt (n : Int) : Decimal := ⟨n < 0, (toString n.natAbs).toList, none, none⟩

theorem toString_int (n : Int) :
    (toString n).toList = (if n < 0 then ['-'] else []) ++ (toString n.natAbs).toList := by
  cases n with
  | ofNat n => rfl
  | negSucc n => simp [Int.toString_eq_repr, Int.repr, Int.negSucc_lt_zero, Nat.toString_eq_repr]

theorem numeral_ofInt (n : Int) : Numeral (toString n).toList (.ofInt n) := by
  have sign : Sign (if n < 0 then ['-'] else []) (n < 0) := by
    split_ifs with negative
    · simpa [negative] using Sign.minus
    · simpa [negative] using Sign.absent
  have parts := Numeral.parts (d := .ofInt n) sign ⟨_, rfl⟩ .absent .absent
  rwa [List.append_nil, List.append_nil, Decimal.ofInt, ← toString_int] at parts

theorem numberOf_toString (n : Nat) : numberOf (toString n).toList = n := by
  rw [toString_toList]
  exact foldl_toDigits n

theorem toJson_ofInt {n : Int} (fits : FitsWord n) : (Decimal.ofInt n).toJson = int n := by
  obtain ⟨low, high⟩ := fits
  simp only [Decimal.toJson, Decimal.ofInt, numberOf_toString]
  by_cases negative : n < 0
  · rw [if_pos (by simpa using negative), if_pos (by omega)]
    congr
    omega
  · rw [if_neg (by simpa using negative), if_pos (by omega)]
    congr
    omega

theorem ofInt_neg {n : Nat} (positive : 0 < n) :
    Decimal.ofInt (-(n : Int)) = ⟨true, (toString n).toList, none, none⟩ := by
  simp [Decimal.ofInt, positive]

theorem ofInt_natCast (n : Nat) : Decimal.ofInt n = ⟨false, (toString n).toList, none, none⟩ := by
  simp [Decimal.ofInt]

theorem toJson_eq_toFloat (whole : Whole d.whole) (inexact : ∀ n, FitsWord n → Decimal.ofInt n ≠ d) :
    d.toJson = d.toFloat := by
  obtain ⟨negative, digits, fraction, exponent⟩ := d
  obtain ⟨n, rfl⟩ := whole
  unfold Decimal.toJson
  split
  · rename_i point scale
    dsimp only at point scale
    subst point scale
    simp only [numberOf_toString]
    split_ifs with minus fits fits
    · subst minus
      exact absurd (ofInt_neg fits.1) (inexact _ ⟨by omega, by omega⟩)
    · rfl
    · rw [Bool.not_eq_true] at minus
      subst minus
      exact absurd (ofInt_natCast n) (inexact _ ⟨by omega, by omega⟩)
    · rfl
  · rfl

theorem Numeral.whole {d : Decimal} (h : Numeral w d) : Whole d.whole := by
  cases h
  assumption

/-- An integer is written in one way. -/
theorem Numeral.eq_toString {n : Int} (h : Numeral w (.ofInt n)) : w = (toString n).toList := by
  rcases h with @⟨s, f, e, _, sign, -, fraction, exponent⟩
  have minus : s = if n < 0 then ['-'] else [] := by
    rw [Decimal.ofInt] at sign
    by_cases negative : n < 0
    · simp only [negative, decide_true, if_true] at sign ⊢
      cases sign
      rfl
    · simp only [negative, decide_false, if_false] at sign ⊢
      cases sign
      rfl
  cases fraction
  cases exponent
  rw [toString_int, ← minus, List.nil_append, List.append_nil, Decimal.ofInt]

theorem wordValue_of_numeral (h : Numeral w d) : wordValue w = some d.toJson := by
  have read := ofWord_eq_some_iff.mpr h
  have other (literal : String) (none : Decimal.ofWord literal.toList = none) : w ≠ literal.toList := by
    rintro rfl
    rw [none] at read
    cases read
  rw [wordValue, if_neg (other "null" (by decide)), if_neg (other "true" (by decide)),
    if_neg (other "false" (by decide)), read]
  rfl

theorem Numeral.toJson_eq_toFloat (h : Numeral w d) (inexact : ∀ n, FitsWord n → (toString n).toList ≠ w) :
    d.toJson = d.toFloat := by
  apply Json.toJson_eq_toFloat h.whole
  rintro n fits rfl
  exact inexact n fits h.eq_toString.symm

/-- A word has the value that it spells, and is none otherwise. -/
theorem wordValue_eq_some_iff : wordValue w = some v ↔ Word w v := by
  constructor
  · intro h
    unfold wordValue at h
    split_ifs at h with null true false
    · cases h
      exact null ▸ .null
    · cases h
      exact true ▸ .true
    · cases h
      exact false ▸ .false
    · obtain ⟨d, read, rfl⟩ := Option.map_eq_some_iff.mp h
      have numeral := ofWord_eq_some_iff.mp read
      by_cases exact : ∃ n, FitsWord n ∧ (toString n).toList = w
      · obtain ⟨n, fits, rfl⟩ := exact
        rw [ofWord_eq_some_iff.mpr (numeral_ofInt n), Option.some.injEq] at read
        subst read
        rw [toJson_ofInt fits]
        exact .integer fits
      · have inexact (n : Int) (fits : FitsWord n) : (toString n).toList ≠ w := fun same => exact ⟨n, fits, same⟩
        rw [numeral.toJson_eq_toFloat inexact]
        exact .double numeral inexact
  · intro h
    cases h with
    | null => rfl
    | true => rfl
    | false => rfl
    | integer fits => rw [wordValue_of_numeral (numeral_ofInt _), toJson_ofInt fits]
    | double numeral inexact => rw [wordValue_of_numeral numeral, numeral.toJson_eq_toFloat inexact]

end Words

section Letters

variable {d : Decimal} {negative : Bool} {fraction : Option (List Char)} {exponent : Option (Bool × List Char)}

theorem Digits.wordChars (h : Digits cs) : ∀ c ∈ cs, isWordChar c := by
  intro c mem
  simp [isWordChar, Char.isAlphanum, h.2 c mem]

theorem Sign.wordChars (h : Sign cs negative) : ∀ c ∈ cs, isWordChar c := by
  cases h <;> exact List.all_eq_true.mp rfl

theorem Fraction.wordChars (h : Fraction cs fraction) : ∀ c ∈ cs, isWordChar c := by
  cases h with
  | absent => simp
  | digits h => exact List.forall_mem_cons.mpr ⟨rfl, h.wordChars⟩

theorem Exponent.wordChars (h : Exponent cs exponent) : ∀ c ∈ cs, isWordChar c := by
  cases h with
  | absent => simp
  | digits either sign h =>
    refine List.forall_mem_cons.mpr ⟨by rcases either with rfl | rfl <;> rfl, ?_⟩
    refine List.forall_mem_append.mpr ⟨?_, h.wordChars⟩
    cases sign with
    | sign h => exact h.wordChars
    | plus => exact List.all_eq_true.mp rfl

theorem Numeral.wordChars (h : Numeral w d) : w ≠ [] ∧ ∀ c ∈ w, isWordChar c := by
  rcases h with ⟨sign, whole, fraction, exponent⟩
  refine ⟨by simp [whole.digits.1], ?_⟩
  simp only [List.forall_mem_append]
  exact ⟨sign.wordChars, whole.digits.wordChars, fraction.wordChars, exponent.wordChars⟩

theorem Word.wordChars {v : Json} (h : Word w v) : w ≠ [] ∧ ∀ c ∈ w, isWordChar c := by
  cases h with
  | null => exact ⟨nofun, List.all_eq_true.mp rfl⟩
  | true => exact ⟨nofun, List.all_eq_true.mp rfl⟩
  | false => exact ⟨nofun, List.all_eq_true.mp rfl⟩
  | integer => exact (numeral_ofInt _).wordChars
  | double numeral => exact numeral.wordChars

end Letters

end GatewaySync.Json
