/-!
# Ranges of integers

How many words a number of bits has, and the integers that 64 bits with a sign hold.
-/
namespace GatewaySync

def wordCount (bits : Nat) : Nat := 1 <<< bits

def isInt64 (n : Int) : Bool := -(wordCount 63 : Int) ≤ n && n < (wordCount 63 : Int)

end GatewaySync
