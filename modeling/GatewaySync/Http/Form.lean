/-!
# Form encoding

A query of keys and values: letters, digits and four marks stand for themselves, a blank becomes a
plus, and every other byte is written as a percent sign and two hexadecimal digits.
-/
namespace GatewaySync.Http.Form

def isPlain (b : UInt8) : Bool :=
  let n := b.toNat
  (0x30 ≤ n && n ≤ 0x39) || (0x41 ≤ n && n ≤ 0x5A) || (0x61 ≤ n && n ≤ 0x7A) ||
    n = 0x2A || n = 0x2D || n = 0x2E || n = 0x5F

def hexDigit (n : Nat) : Char := (Nat.digitChar n).toUpper

def encodeByte (b : UInt8) : List Char :=
  if isPlain b then [Char.ofNat b.toNat]
  else if b = 0x20 then ['+']
  else ['%', hexDigit (b.toNat / 16), hexDigit (b.toNat % 16)]

def encode (s : String) : String := String.ofList (s.toUTF8.toList.flatMap encodeByte)

/-- One key with its value. -/
def pair (key value : String) : String := encode key ++ "=" ++ encode value

end GatewaySync.Http.Form
