import GatewaySync.Text.Hidden
/-!
# Quoted text in messages

Text inside messages is put in double quotes. The quote, the backslash, tabs and line ends have short
escapes; characters without a shape of their own are written by their code point.
-/
namespace GatewaySync.Text

def shown (c : Char) : List Char :=
  if c = '"' then ['\\', '"']
  else if c = '\\' then ['\\', '\\']
  else if c = '\n' then ['\\', 'n']
  else if c = '\r' then ['\\', 'r']
  else if c = '\t' then ['\\', 't']
  else if c.toNat = 0 then ['\\', '0']
  else if isHidden c then
    ['\\', 'u', '\x7b'] ++ Nat.toDigits 16 c.toNat ++ ['\x7d']
  else [c]

def quoted (s : String) : String := "\"" ++ String.ofList (s.toList.flatMap shown) ++ "\""

end GatewaySync.Text
