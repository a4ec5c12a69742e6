/-!
# Digits

Numerals in a base up to sixteen and the characters named by their code points.
-/
namespace GatewaySync.Text

def apostrophe : Char := Char.ofNat 39

def hexValue? (c : Char) : Option Nat :=
  if c.isDigit then some (c.toNat - 48)
  else if 'a' ≤ c ∧ c ≤ 'f' then some (c.toNat - 87)
  else if 'A' ≤ c ∧ c ≤ 'F' then some (c.toNat - 55)
  else none

def digitValue? (base : Nat) (c : Char) : Option Nat :=
  (hexValue? c).filter (· < base)

/-- The value of a numeral, which has at least one digit. -/
def numeral? (base : Nat) (digits : List Char) : Option Nat :=
  if digits = [] then none
  else digits.foldlM (fun n c => (digitValue? base c).map (n * base + ·)) 0

def ofCode? (n : Nat) : Option Char := if n.isValidChar then some (Char.ofNat n) else none

def ofHex? (digits : List Char) : Option Char := (numeral? 16 digits).bind ofCode?

/-- Drops single underscores that stand between two digits of a base; `none` for any other. -/
def withoutUnderscores (base : Nat) : List Char → Option (List Char)
  | [] => some []
  | c :: '_' :: d :: rest =>
    if (digitValue? base c).isSome ∧ (digitValue? base d).isSome then
      (withoutUnderscores base (d :: rest)).map (c :: ·)
    else none
  | c :: rest => if c = '_' then none else (withoutUnderscores base rest).map (c :: ·)

end GatewaySync.Text
