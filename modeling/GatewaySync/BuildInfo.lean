/-!
# Build information

The version, and where they are known the date of the build and the first bytes of the commit.
-/
namespace GatewaySync

structure BuildInfo where
  version : String
  date : Option String
  commit : Option String
  deriving DecidableEq, Repr

/-- The first eight bytes of a text, or all of it if that would cut a character in two. -/
def firstBytes (s : String) : String :=
  let rec go (left : Nat) : List Char → Option (List Char)
    | [] => if left = 0 then some [] else none
    | c :: rest =>
      if left = 0 then some []
      else if c.utf8Size ≤ left then (go (left - c.utf8Size) rest).map (c :: ·)
      else none
  ((go 8 s.toList).map String.ofList).getD s

def BuildInfo.text (b : BuildInfo) : String :=
  b.version ++ (b.date.map (" " ++ ·)).getD "" ++
    (b.commit.map fun sha => " (" ++ firstBytes sha ++ ")").getD ""

end GatewaySync
