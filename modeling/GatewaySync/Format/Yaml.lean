import GatewaySync.Format.YamlScalar
/-!
# Reading YAML

Blocks are found by the columns of their first characters: a mapping or a sequence goes on as long as
its column comes up again, and ends at a smaller one. A stream holds at most one document, and an empty
stream counts as an empty mapping. Every step of the reader is bounded by the length of the stream,
which is its fuel.
-/
namespace GatewaySync.Yaml

/-- The place in the stream and the nodes that were given names. -/
structure Reader where
  column : Nat
  rest : List Char
  anchors : List (String × Json)

abbrev Read := StateT Reader Option

def require (condition : Bool) : Read Unit := if condition then pure () else failure

def advance (count : Nat) : Read Unit :=
  modify fun r => { r with column := r.column + count, rest := r.rest.drop count }

/-- Goes on at the given rest of the stream, on a column counted from the last line end before it. -/
def moveTo (rest : List Char) : Read Unit :=
  modify fun r =>
    let taken := r.rest.take (r.rest.length - rest.length)
    let line := (taken.reverse.takeWhile fun c => !isBreak c).length
    { r with column := if line = taken.length then r.column + line else line, rest := rest }

def atEnd (r : Reader) : Bool :=
  r.rest = [] || (r.column = 0 && atGap (r.rest.drop 3) &&
    (r.rest.take 3 = "---".toList || r.rest.take 3 = "...".toList))

/-- Skips blanks, comments and line ends: whether a line ended. A tab may not indent a block. -/
def skip (fuel : Nat) (fresh crossed : Bool) : Read Bool :=
  match fuel with
  | 0 => failure
  | fuel + 1 => do
    let r ← get
    match r.rest with
    | ' ' :: _ => do
      advance 1
      skip fuel fresh crossed
    | '\t' :: _ => do
      if fresh ∨ crossed then failure
      else do
        advance 1
        skip fuel fresh crossed
    | '#' :: _ => do
      moveTo (r.rest.dropWhile fun c => !isBreak c)
      skip fuel fresh crossed
    | rest =>
      match afterBreak? rest with
      | some rest => do
        set { r with column := 0, rest := rest }
        skip fuel fresh true
      | none => return crossed

/-- The word of a plain scalar in front of a gap or a mark that ends it. -/
def plainWord (flow : Bool) : List Char → List Char
  | [] => []
  | c :: rest =>
    if isBlank c ∨ isBreak c then []
    else if c = ':' ∧ (atGap rest ∨ (flow ∧ (rest.head?.map isFlowMark).getD false)) then []
    else if flow ∧ isFlowMark c then []
    else c :: plainWord flow rest

/-- The rest of a plain scalar after a word of it: more words of the line, and lines from a column on.
Also tells whether it spans lines. -/
def plainRest (fuel : Nat) (flow : Bool) (column : Nat) (text : List Char) (spans : Bool) :
    Read (List Char × Bool) :=
  match fuel with
  | 0 => failure
  | fuel + 1 => do
    let r ← get
    let (breaks, rest) := takeBreaks (r.rest.length + 1) 0 r.rest
    let gap := if breaks = 0 then r.rest.takeWhile isBlank else folded breaks
    let rest := if breaks = 0 then r.rest.dropWhile isBlank else rest
    let word := plainWord flow rest
    if word = [] ∨ word.head? = some '#' ∨ gap = [] then return (text, spans)
    else do
      moveTo rest
      let here ← get
      if breaks ≠ 0 ∧ (atEnd here ∨ (¬ flow ∧ here.column < column)) then do
        set r
        return (text, spans)
      else do
        advance word.length
        plainRest fuel flow column (text ++ gap ++ word) (spans || breaks != 0)

def plain (flow : Bool) (column : Nat) : Read (String × Bool) := do
  let r ← get
  let word := plainWord flow r.rest
  require (word ≠ [])
  advance word.length
  let (text, spans) ← plainRest (r.rest.length + 1) flow column word false
  return (String.ofList text, spans)

def startsPlain (flow : Bool) : List Char → Bool
  | [] => false
  | c :: rest =>
    if c = '-' then !atGap rest
    else if c = '?' ∨ c = ':' then !flow && !atGap rest
    else ! [',', '[', ']', '\x7b', '\x7d', '#', '&', '*', '!', '|', '>', '"', '%', '@', Char.ofNat 96,
      Text.apostrophe].contains c

def quoted (quote : Char) : Read (String × Bool) := do
  let r ← get
  let read := if quote = '"' then double? else single?
  let (text, rest) ← StateT.lift (read (r.rest.length + 1) [] (r.rest.drop 1))
  moveTo rest
  let taken := r.rest.take (r.rest.length - rest.length)
  return (text, taken.any isBreak)

/-- The indicators of a block scalar: its chomping and its indentation. -/
def indicators : List Char → Chomping × Option Nat
  | [] => (.clip, none)
  | c :: rest =>
    let (chomping, indentation) := indicators rest
    if c = '-' then (.strip, indentation)
    else if c = '+' then (.keep, indentation)
    else (chomping, some (c.toNat - 48))

def isIndicator (c : Char) : Bool := c = '-' || c = '+' || ('1' ≤ c && c ≤ '9')

/-- The lines of a block scalar, the indentation of `column` taken off, and the rest of the stream. -/
def blockLines (fuel : Nat) (column : Nat) (rev : List (List Char)) (cs : List Char) :
    List (List Char) × List Char :=
  match fuel with
  | 0 => (rev.reverse, cs)
  | fuel + 1 =>
    let spaces := (cs.takeWhile (· = ' ')).length
    let content := cs.dropWhile (· = ' ')
    let isEmptyLine := (content.head?.map isBreak).getD true
    if cs = [] then (rev.reverse, [])
    else if spaces < column ∧ ¬ isEmptyLine then (rev.reverse, cs)
    else
      let line := (cs.drop (min spaces column)).takeWhile fun c => !isBreak c
      let after := cs.dropWhile fun c => !isBreak c
      match afterBreak? after with
      | some rest => blockLines fuel column (line :: rev) rest
      | none => ((if line = [] then rev else line :: rev).reverse, [])

def firstColumn (fuel : Nat) (cs : List Char) : Nat :=
  match fuel with
  | 0 => 0
  | fuel + 1 =>
    let content := cs.dropWhile (· = ' ')
    match afterBreak? content with
    | some rest => firstColumn fuel rest
    | none => cs.length - content.length

def blockScalar (column : Nat) : Read Json := do
  let r ← get
  let folding := r.rest.head? = some '>'
  let header := (r.rest.drop 1).takeWhile isIndicator
  require (header.length ≤ 2)
  let (chomping, indentation) := indicators header
  let after := ((r.rest.drop 1).drop header.length).dropWhile isBlank
  let after := if after.head? = some '#' then after.dropWhile fun c => !isBreak c else after
  require (after = [] ∨ (afterBreak? after).isSome)
  let body := (afterBreak? after).getD []
  let column := match indentation with
    | some n => column - 1 + n
    | none => max column (firstColumn (body.length + 1) body)
  let (lines, rest) := blockLines (body.length + 1) column [] body
  set { r with column := 0, rest := rest }
  return .str (String.ofList (joinLines folding chomping lines [] false 0 false))

/-- Text by which a mapping is entered: a string or an integer. -/
def keyText? : Json → Option String
  | .str s => some s
  | .int n => some (toString n)
  | _ => none

/-- Adds a member if its key is a text. -/
def addMember (key v : Json) (rev : List (String × Json)) : List (String × Json) :=
  match keyText? key with
  | some k => (k, v) :: rev
  | none => rev

/-- The mark between a key and its value, on the line of the key: whether it is there. -/
def atColon (flow : Bool) (r : Reader) : Bool :=
  match r.rest.dropWhile isBlank with
  | ':' :: rest => atGap rest || (flow && (rest.head?.map isFlowMark).getD false)
  | _ => false

def passColon : Read Unit := do
  let r ← get
  advance ((r.rest.takeWhile isBlank).length + 1)

def name (flow : Bool) : Read String := do
  let r ← get
  let word := r.rest.takeWhile fun c => !(isBlank c || isBreak c || (flow && isFlowMark c))
  advance word.length
  return String.ofList word

mutual

/-- A scalar or a flow collection, and whether it may be a key, which it may not across lines. -/
def atom (fuel : Nat) (flow : Bool) (column : Nat) : Read (Json × Bool) :=
  match fuel with
  | 0 => failure
  | fuel + 1 => do
    let r ← get
    match r.rest with
    | '"' :: _ => do
      let (text, spans) ← quoted '"'
      return (.str text, !spans)
    | '[' :: _ => do
      advance 1
      let v ← flowItems fuel []
      return (v, true)
    | '\x7b' :: _ => do
      advance 1
      let v ← flowMembers fuel []
      return (v, true)
    | '*' :: _ => do
      let label ← name flow
      let v ← StateT.lift (r.anchors.lookup (String.ofList (label.toList.drop 1)))
      return (v, true)
    | '!' :: _ => do
      let tag ← name flow
      let _ ← skip (r.rest.length + 1) false false
      let after ← get
      if startsPlain flow after.rest then do
        let (text, spans) ← plain flow column
        return (← StateT.lift (resolveAs tag text), !spans)
      else atom fuel flow column
    | rest =>
      if rest.head? = some Text.apostrophe then do
        let (text, spans) ← quoted Text.apostrophe
        return (.str text, !spans)
      else do
        require (startsPlain flow rest)
        let (text, spans) ← plain flow column
        return (← StateT.lift (resolve text), !spans)

/-- A node inside a flow collection; nothing stands in front of a mark. -/
def flowNode (fuel : Nat) : Read Json :=
  match fuel with
  | 0 => failure
  | fuel + 1 => do
    let r ← get
    let _ ← skip (r.rest.length + 1) false false
    let r ← get
    match r.rest with
    | '&' :: _ => do
      let label ← name true
      let v ← flowNode fuel
      modify fun r => { r with anchors := (String.ofList (label.toList.drop 1), v) :: r.anchors }
      return v
    | c :: rest =>
      if c = ',' ∨ c = ']' ∨ c = '\x7d' then return .null
      else if c = ':' ∧ (atGap rest ∨ (rest.head?.map isFlowMark).getD false) then return .null
      else do return (← atom fuel true 0).1
    | [] => failure

/-- The items of a flow sequence. A pair in it is a mapping of its own. -/
def flowItems (fuel : Nat) (rev : List Json) : Read Json :=
  match fuel with
  | 0 => failure
  | fuel + 1 => do
    let r ← get
    let _ ← skip (r.rest.length + 1) false false
    let r ← get
    match r.rest with
    | [] => failure
    | ']' :: _ => do
      advance 1
      return .arr rev.reverse
    | ',' :: _ => failure
    | _ => do
      let item ← flowNode fuel
      let here ← get
      let item ←
        if atColon true here then do
          passColon
          let v ← flowNode fuel
          pure (Json.obj (addMember item v []))
        else pure item
      flowStop fuel (.inl (item :: rev))

def flowMembers (fuel : Nat) (rev : List (String × Json)) : Read Json :=
  match fuel with
  | 0 => failure
  | fuel + 1 => do
    let r ← get
    let _ ← skip (r.rest.length + 1) false false
    let r ← get
    match r.rest with
    | [] => failure
    | '\x7d' :: _ => do
      advance 1
      return .obj rev.reverse
    | ',' :: _ => failure
    | _ => do
      let key ← flowNode fuel
      let here ← get
      let _ ← skip (here.rest.length + 1) false false
      let here ← get
      let v ←
        if atColon true here then do
          passColon
          flowNode fuel
        else pure .null
      flowStop fuel (.inr (addMember key v rev))

/-- After an item or a member: the comma and more of them, or the end. -/
def flowStop (fuel : Nat) (sofar : List Json ⊕ List (String × Json)) : Read Json :=
  match fuel with
  | 0 => failure
  | fuel + 1 => do
    let r ← get
    let _ ← skip (r.rest.length + 1) false false
    let r ← get
    match r.rest, sofar with
    | ',' :: _, .inl rev => do
      advance 1
      flowItems fuel rev
    | ',' :: _, .inr rev => do
      advance 1
      flowMembers fuel rev
    | ']' :: _, .inl rev => do
      advance 1
      return .arr rev.reverse
    | '\x7d' :: _, .inr rev => do
      advance 1
      return .obj rev.reverse
    | _, _ => failure

/-- A node of a block, not left of a column; a sequence may start further left. `fresh` tells that
nothing but marks of the block precede it on its line, so that it may be a block itself. -/
def node (fuel : Nat) (column sequenceColumn : Nat) (fresh : Bool) : Read Json :=
  match fuel with
  | 0 => failure
  | fuel + 1 => do
    let before ← get
    let crossed ← skip (before.rest.length + 1) fresh (before.column = 0)
    let fresh := fresh || crossed
    let r ← get
    let nothing : Read Json := do
      set before
      return .null
    let isDash := match r.rest with
      | '-' :: rest => atGap rest
      | _ => false
    if atEnd r then nothing
    else if isDash then
      if r.column < sequenceColumn then nothing
      else if fresh then items fuel r.column []
      else failure
    else if r.column < column then nothing
    else
      match r.rest with
      | '&' :: _ => do
        let label ← name false
        let v ← node fuel column sequenceColumn fresh
        modify fun r => { r with anchors := (String.ofList (label.toList.drop 1), v) :: r.anchors }
        return v
      | '|' :: _ => blockScalar column
      | '>' :: _ => blockScalar column
      | _ => do
        let (v, mayBeKey) ← atom fuel false column
        let here ← get
        if atColon false here then
          if fresh ∧ mayBeKey then do
            passColon
            let first ← node fuel (r.column + 1) r.column false
            members fuel r.column (addMember v first [])
          else failure
        else return v

def items (fuel : Nat) (column : Nat) (rev : List Json) : Read Json :=
  match fuel with
  | 0 => failure
  | fuel + 1 => do
    let before ← get
    let crossed ← skip (before.rest.length + 1) false (rev.isEmpty || before.column = 0)
    let r ← get
    let ended : Read Json := do
      set before
      return .arr rev.reverse
    match r.rest with
    | '-' :: rest =>
      if atEnd r ∨ r.column < column ∨ (r.column = column ∧ ¬ atGap rest) then ended
      else if column < r.column ∨ ¬ crossed then failure
      else do
        advance 1
        let item ← node fuel (column + 1) (column + 1) true
        items fuel column (item :: rev)
    | _ =>
      if atEnd r ∨ r.column ≤ column then ended else failure

def members (fuel : Nat) (column : Nat) (rev : List (String × Json)) : Read Json :=
  match fuel with
  | 0 => failure
  | fuel + 1 => do
    let before ← get
    let crossed ← skip (before.rest.length + 1) false (before.column = 0)
    let r ← get
    if atEnd r ∨ r.column < column then do
      set before
      return .obj rev.reverse
    else if column < r.column ∨ ¬ crossed then failure
    else do
      let (key, mayBeKey) ← atom fuel false (column + 1)
      require mayBeKey
      let here ← get
      require (atColon false here)
      passColon
      let v ← node fuel (column + 1) column false
      members fuel column (addMember key v rev)

end

def withoutDirectives (fuel : Nat) (cs : List Char) : List Char :=
  match fuel with
  | 0 => cs
  | fuel + 1 =>
    match cs with
    | '%' :: rest => withoutDirectives fuel ((rest.dropWhile (· != '\n')).drop 1)
    | cs => cs

/-- The document of a stream; nothing if there is none. -/
def document (fuel : Nat) : Read (Option Json) := do
  let r ← get
  let _ ← skip fuel true false
  let start ← get
  let marked := start.column = 0 ∧ start.rest.take 3 = "---".toList ∧ atGap (start.rest.drop 3)
  if start.rest = [] then return none
  else do
    if marked then advance 3
    let v ← node (4 * r.rest.length + 8) 0 0 (!marked)
    let here ← get
    let crossed ← skip (here.rest.length + 1) false (here.column = 0)
    let after ← get
    require (crossed ∨ after.rest = [])
    if after.rest.take 3 = "...".toList ∧ after.column = 0 then do
      advance 3
      let here ← get
      let _ ← skip (here.rest.length + 1) false false
    let last ← get
    require (last.rest = [])
    return some v

def read? (text : String) : Option Json := do
  let cs := withoutDirectives (text.length + 1) text.toList
  let (v, _) ← document (cs.length + 1) ⟨0, cs, []⟩
  return v.getD (.obj [])

end GatewaySync.Yaml
