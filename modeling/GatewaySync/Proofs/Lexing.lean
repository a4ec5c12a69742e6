import GatewaySync.Proofs.Words
/-!
# Cutting a JSON text

The walk over the characters of a text finds its tokens if and only if it can be cut into them: marks,
strings and words, with blanks between. A word goes on as long as it can.
-/
namespace GatewaySync.Json

open Text

/-- What stands in a string: a character, written as it is or by a short escape, or an escaped code unit. -/
inductive StringPart where
  | char (c : Char)
  | unit (n : Nat)

inductive Quoted : List Char → List StringPart → Prop
  | done : Quoted [] []
  | plain {c : Char} {cs : List Char} {parts : List StringPart} (quote : c ≠ '"') (backslash : c ≠ '\\')
      (visible : 32 ≤ c.toNat) (h : Quoted cs parts) : Quoted (c :: cs) (.char c :: parts)
  | short {c d : Char} {cs : List Char} {parts : List StringPart} (escape : shortEscape c = some d)
      (h : Quoted cs parts) : Quoted ('\\' :: c :: cs) (.char d :: parts)
  | unit {c₁ c₂ c₃ c₄ : Char} {n : Nat} {cs : List Char} {parts : List StringPart}
      (digits : numeral? 16 [c₁, c₂, c₃, c₄] = some n) (h : Quoted cs parts) :
      Quoted ('\\' :: 'u' :: c₁ :: c₂ :: c₃ :: c₄ :: cs) (.unit n :: parts)

def IsHigh (n : Nat) : Prop := 0xD800 ≤ n ∧ n < 0xDC00

def IsLow (n : Nat) : Prop := 0xDC00 ≤ n ∧ n < 0xE000

instance (n : Nat) : Decidable (IsHigh n) := inferInstanceAs (Decidable (_ ∧ _))

instance (n : Nat) : Decidable (IsLow n) := inferInstanceAs (Decidable (_ ∧ _))

/-- The characters that the parts of a string stand for, where two halves make one character and a lone half
none. -/
def characters : List StringPart → Option (List Char)
  | [] => some []
  | .char c :: rest => (characters rest).map (c :: ·)
  | .unit n :: rest =>
    if IsHigh n then
      match rest with
      | .unit m :: rest =>
        if IsLow m then
          (characters rest).map (Char.ofNat (0x10000 + (n - 0xD800) * 0x400 + (m - 0xDC00)) :: ·)
        else none
      | _ => none
    else if IsLow n then none
    else (characters rest).map (Char.ofNat n :: ·)

inductive Mark : Char → Token → Prop
  | openObject : Mark '\x7b' .openObject
  | closeObject : Mark '\x7d' .closeObject
  | openArray : Mark '[' .openArray
  | closeArray : Mark ']' .closeArray
  | colon : Mark ':' .colon
  | comma : Mark ',' .comma

inductive Cut : List Char → List Token → Prop
  | done : Cut [] []
  | blank {c : Char} {cs : List Char} {ts : List Token} (blank : isBlank c) (h : Cut cs ts) : Cut (c :: cs) ts
  | mark {c : Char} {t : Token} {cs : List Char} {ts : List Token} (mark : Mark c t) (h : Cut cs ts) :
      Cut (c :: cs) (t :: ts)
  | text {body cs : List Char} {parts : List StringPart} {ts : List Token} (quoted : Quoted body parts)
      (h : Cut cs ts) :
      Cut ('"' :: (body ++ '"' :: cs)) (.text ((characters parts).map String.ofList) :: ts)
  | word {w cs : List Char} {v : Json} {ts : List Token} (word : Word w v) (stops : Stops isWordChar cs)
      (h : Cut cs ts) : Cut (w ++ cs) (.word v :: ts)

variable {cs body rest : List Char} {parts : List StringPart} {acc ts : List Token} {rev : List Char}
  {sound : Bool} {high : Option Nat} {c : Char} {mode : Mode}

theorem length_lt_append (c : Char) (cs rest : List Char) : rest.length < (c :: (cs ++ rest)).length := by
  rw [List.length_cons, List.length_append]
  omega

theorem walk_cons (mode : Mode) (acc : List Token) (c : Char) (cs : List Char) :
    walk mode acc (c :: cs) = (step mode c).bind fun (next, found) => walk next (found.reverse ++ acc) cs := by
  rw [walk]
  cases step mode c <;> rfl

theorem walk_between (acc : List Token) (c : Char) (cs : List Char) :
    walk .between acc (c :: cs) = (startToken c).bind fun (next, found) => walk next (found.reverse ++ acc) cs :=
  walk_cons _ _ _ _

theorem step_of_walk (h : walk mode acc (c :: cs) = some ts) :
    ∃ next found, step mode c = some (next, found) ∧ walk next (found.reverse ++ acc) cs = some ts := by
  rw [walk_cons, Option.bind_eq_some_iff] at h
  obtain ⟨⟨next, found⟩, here, more⟩ := h
  exact ⟨next, found, here, more⟩

section Strings

theorem characters_unit {n : Nat} (single : ¬ IsHigh n) (parts : List StringPart) :
    characters (.unit n :: parts) = if IsLow n then none else (characters parts).map (Char.ofNat n :: ·) := by
  cases parts with
  | nil => simp [characters, single]
  | cons part parts => cases part <;> simp [characters, single]

/-- What a string comes to whose parts are still to be read. -/
def outcome (rev : List Char) (sound : Bool) (high : Option Nat) (parts : List StringPart) : Option String :=
  if sound then (characters (high.toList.map .unit ++ parts)).map fun cs => String.ofList (rev.reverse ++ cs)
  else none

theorem outcome_done (pending : ∀ n ∈ high, IsHigh n) :
    outcome rev sound high [] = if sound && high.isNone then some (String.ofList rev.reverse) else none := by
  cases high with
  | none => cases sound <;> simp [outcome, characters]
  | some n => simp [outcome, characters, pending n rfl]

theorem outcome_char (pending : ∀ n ∈ high, IsHigh n) (c : Char) (parts : List StringPart) :
    outcome rev sound high (.char c :: parts) = outcome (c :: rev) (sound && high.isNone) none parts := by
  cases high with
  | none => simp [outcome, characters, Function.comp_def]
  | some n => simp [outcome, characters, pending n rfl]

/-- A code unit leaves the walk in the string, with an outcome that takes the unit into account. -/
theorem outcome_unit (rev : List Char) (sound : Bool) (pending : ∀ n ∈ high, IsHigh n) (value : Nat) :
    ∃ rev' sound' high', afterUnit rev sound high value = .string rev' sound' high' ∧
      (∀ n ∈ high', IsHigh n) ∧
      ∀ parts, outcome rev sound high (.unit value :: parts) = outcome rev' sound' high' parts := by
  cases high with
  | none =>
    by_cases first : IsHigh value
    · exact ⟨rev, sound, some value, if_pos first, by simpa using first, fun _ => rfl⟩
    · by_cases second : IsLow value
      · refine ⟨rev, false, none, ?_, by simp, fun _ => ?_⟩
        · exact (if_neg first).trans (if_pos second)
        · simp [outcome, characters_unit first, second]
      · refine ⟨Char.ofNat value :: rev, sound, none, ?_, by simp, fun _ => ?_⟩
        · exact (if_neg first).trans (if_neg second)
        · simp [outcome, characters_unit first, second, Function.comp_def]
  | some n =>
    by_cases second : IsLow value
    · refine ⟨_, sound, none, if_pos second, by simp, fun _ => ?_⟩
      simp [outcome, characters, pending n rfl, second, Function.comp_def]
    · refine ⟨rev, false, none, if_neg second, by simp, fun _ => ?_⟩
      simp [outcome, characters, pending n rfl, second]

theorem digitValue?_sixteen (c : Char) : digitValue? 16 c = hexValue? c := by
  unfold digitValue? hexValue?
  split_ifs with digit lower upper
  · have bounds := isDigit_bounds digit
    exact Option.filter_eq_some_iff.mpr ⟨rfl, by simp; omega⟩
  · have high : c.toNat ≤ 'f'.toNat := lower.2
    exact Option.filter_eq_some_iff.mpr ⟨rfl, by simp at *; omega⟩
  · have high : c.toNat ≤ 'F'.toNat := upper.2
    exact Option.filter_eq_some_iff.mpr ⟨rfl, by simp at *; omega⟩
  · rfl

theorem numeral?_four {c₁ c₂ c₃ c₄ : Char} {n : Nat} :
    numeral? 16 [c₁, c₂, c₃, c₄] = some n ↔
      ∃ d₁ d₂ d₃ d₄, hexValue? c₁ = some d₁ ∧ hexValue? c₂ = some d₂ ∧ hexValue? c₃ = some d₃ ∧
        hexValue? c₄ = some d₄ ∧ ((d₁ * 16 + d₂) * 16 + d₃) * 16 + d₄ = n := by
  simp [numeral?, digitValue?_sixteen, Option.bind_eq_some_iff]

theorem walk_unit {c₁ c₂ c₃ c₄ : Char} {n : Nat} (digits : numeral? 16 [c₁, c₂, c₃, c₄] = some n)
    (rev : List Char) (sound : Bool) (high : Option Nat) (acc : List Token) (cs : List Char) :
    walk (.unit rev sound high 4 0) acc (c₁ :: c₂ :: c₃ :: c₄ :: cs) =
      walk (afterUnit rev sound high n) acc cs := by
  obtain ⟨d₁, d₂, d₃, d₄, h₁, h₂, h₃, h₄, rfl⟩ := numeral?_four.mp digits
  simp [walk_cons, step, h₁, h₂, h₃, h₄]

theorem step_plain (quote : c ≠ '"') (backslash : c ≠ '\\') (rev : List Char) (sound : Bool)
    (high : Option Nat) :
    step (.string rev sound high) c =
      if c.toNat < 32 then none else some (.string (c :: rev) (sound && high.isNone) none, []) := by
  simp [step]

/-- The walk through a string that is closed. -/
theorem walk_quoted (h : Quoted body parts) (pending : ∀ n ∈ high, IsHigh n) (acc : List Token)
    (cs : List Char) :
    walk (.string rev sound high) acc (body ++ '"' :: cs) =
      walk .between (.text (outcome rev sound high parts) :: acc) cs := by
  induction h generalizing rev sound high with
  | done => rw [List.nil_append, walk_cons, outcome_done pending]; rfl
  | plain quote backslash visible h ih =>
    rw [outcome_char pending, ← ih (by simp), List.cons_append, walk_cons, step_plain quote backslash,
      if_neg (by omega)]
    rfl
  | @short c d _ _ escape h ih =>
    have other : c ≠ 'u' := by
      rintro rfl
      cases escape
    rw [outcome_char pending, ← ih (by simp)]
    simp [walk_cons, step, other, escape]
  | unit digits h ih =>
    obtain ⟨rev', sound', high', state, pending', same⟩ := outcome_unit rev sound pending _
    rw [same, ← ih pending', ← state, ← walk_unit digits]
    rfl

theorem unit_of_walk {left value : Nat} (h : walk (.unit rev sound high left value) acc cs = some ts) :
    ∃ c digit rest, cs = c :: rest ∧ hexValue? c = some digit ∧
      walk (if left ≤ 1 then afterUnit rev sound high (value * 16 + digit)
        else .unit rev sound high (left - 1) (value * 16 + digit)) acc rest = some ts := by
  cases cs with
  | nil => cases h
  | cons c rest =>
    obtain ⟨next, found, here, more⟩ := step_of_walk h
    simp only [step, Option.bind_eq_bind, Option.bind_eq_some_iff] at here
    obtain ⟨digit, read, here⟩ := here
    refine ⟨c, digit, rest, rfl, read, ?_⟩
    split_ifs at here ⊢ <;> cases here <;> exact more

theorem afterUnit_string (rev : List Char) (sound : Bool) (high : Option Nat) (value : Nat) :
    ∃ rev' sound' high', afterUnit rev sound high value = .string rev' sound' high' := by
  unfold afterUnit
  cases high <;> dsimp only <;> split_ifs <;> exact ⟨_, _, _, rfl⟩

/-- A walk that goes through a string reads each escape to its end. -/
theorem escape_of_walk (h : walk (.escape rev sound high) acc cs = some ts) :
    ∃ escape part rest rev' sound' high', cs = escape ++ rest ∧
      (∀ {body parts}, Quoted body parts → Quoted ('\\' :: (escape ++ body)) (part :: parts)) ∧
      walk (.string rev' sound' high') acc rest = some ts := by
  cases cs with
  | nil => cases h
  | cons c rest =>
    obtain ⟨next, found, here, more⟩ := step_of_walk h
    rw [step] at here
    split_ifs at here with unit
    · cases here
      subst unit
      obtain ⟨c₁, d₁, rest, rfl, h₁, more⟩ := unit_of_walk more
      obtain ⟨c₂, d₂, rest, rfl, h₂, more⟩ := unit_of_walk more
      obtain ⟨c₃, d₃, rest, rfl, h₃, more⟩ := unit_of_walk more
      obtain ⟨c₄, d₄, rest, rfl, h₄, more⟩ := unit_of_walk more
      have digits := numeral?_four.mpr ⟨d₁, d₂, d₃, d₄, h₁, h₂, h₃, h₄, rfl⟩
      obtain ⟨rev', sound', high', state⟩ := afterUnit_string rev sound high
        ((((0 * 16 + d₁) * 16 + d₂) * 16 + d₃) * 16 + d₄)
      rw [if_pos (by decide), state] at more
      exact ⟨['u', c₁, c₂, c₃, c₄], .unit _, rest, rev', sound', high', rfl,
        fun quoted => .unit digits quoted, more⟩
    · simp only [Option.bind_eq_bind, Option.bind_eq_some_iff] at here
      obtain ⟨d, short, here⟩ := here
      cases here
      exact ⟨[c], .char d, rest, _, _, _, rfl, fun quoted => .short short quoted, more⟩

/-- A walk that goes through a string closes it. -/
theorem quoted_of_walk (h : walk (.string rev sound high) acc cs = some ts) :
    ∃ body parts rest, Quoted body parts ∧ cs = body ++ '"' :: rest := by
  induction hn : cs.length using Nat.strongRecOn generalizing cs rev sound high with
  | ind n ih =>
    subst hn
    cases cs with
    | nil => cases h
    | cons c rest =>
      by_cases quote : c = '"'
      · exact ⟨[], [], rest, .done, congrArg (· :: rest) quote⟩
      · by_cases backslash : c = '\\'
        · subst backslash
          obtain ⟨escape, part, rest, rev, sound, high, rfl, build, more⟩ := escape_of_walk h
          have shorter : rest.length < ('\\' :: (escape ++ rest)).length := length_lt_append _ _ _
          obtain ⟨body, parts, tail, quoted, rfl⟩ := ih rest.length shorter more rfl
          exact ⟨_, _, tail, build quoted, by simp⟩
        · rw [walk_cons, step_plain quote backslash] at h
          split_ifs at h with hidden
          · cases h
          · obtain ⟨body, parts, tail, quoted, rfl⟩ := ih rest.length (by simp) h rfl
            exact ⟨_, _, tail, .plain quote backslash (by omega) quoted, rfl⟩

end Strings

section Words

theorem step_word (h : isWordChar c) (rev : List Char) : step (.word rev) c = some (.word (c :: rev), []) :=
  if_pos h

theorem step_afterWord (h : ¬ isWordChar c) (rev : List Char) :
    step (.word rev) c = (wordValue rev.reverse).bind fun v =>
      (startToken c).bind fun (next, found) => some (next, .word v :: found) :=
  if_neg h

/-- The walk through a word, which ends where it cannot go on. -/
theorem walk_word {w : List Char} (run : ∀ c ∈ w, isWordChar c) (stops : Stops isWordChar cs)
    (rev : List Char) (acc : List Token) :
    walk (.word rev) acc (w ++ cs) =
      (wordValue (rev.reverse ++ w)).bind fun v => walk .between (.word v :: acc) cs := by
  induction w generalizing rev with
  | nil =>
    rw [List.nil_append, List.append_nil]
    cases cs with
    | nil => rfl
    | cons c cs =>
      have other := stops_cons.mp stops
      rw [walk_cons, step_afterWord other]
      cases wordValue rev.reverse with
      | none => rfl
      | some v =>
        change _ = walk .between (.word v :: acc) (c :: cs)
        rw [walk_between]
        cases startToken c <;> simp
  | cons c w ih =>
    obtain ⟨first, run⟩ := List.forall_mem_cons.mp run
    have more := ih run (c :: rev)
    rw [List.reverse_cons, List.append_assoc, List.singleton_append] at more
    rw [← more, List.cons_append, walk_cons, step_word first]
    rfl

theorem startToken_word (h : isWordChar c) : startToken c = some (.word [c], []) := by
  have other (d : Char) (outside : isWordChar d = false) : c ≠ d := by
    rintro rfl
    rw [outside] at h
    cases h
  have blank : ¬ isBlank c := by
    simp [isBlank, other ' ' rfl, other '\n' rfl, other '\t' rfl, other '\r' rfl]
  unfold startToken
  split
  any_goals cases h
  rw [if_neg blank, if_pos h]

theorem startToken_blank (h : isBlank c) : startToken c = some (.between, []) := by
  simp only [isBlank, Bool.or_eq_true, decide_eq_true_eq] at h
  rcases h with ((rfl | rfl) | rfl) | rfl <;> rfl

theorem startToken_mark {t : Token} (h : Mark c t) : startToken c = some (.between, [t]) := by
  cases h <;> rfl

theorem startToken_cases {found : List Token} (h : startToken c = some (mode, found)) :
    (∃ t, Mark c t ∧ mode = .between ∧ found = [t]) ∨
    (c = '"' ∧ mode = .string [] true none ∧ found = []) ∨
    (isBlank c ∧ mode = .between ∧ found = []) ∨
    (isWordChar c ∧ mode = .word [c] ∧ found = []) := by
  unfold startToken at h
  split at h
  · cases h
    exact .inl ⟨_, .openObject, rfl, rfl⟩
  · cases h
    exact .inl ⟨_, .closeObject, rfl, rfl⟩
  · cases h
    exact .inl ⟨_, .openArray, rfl, rfl⟩
  · cases h
    exact .inl ⟨_, .closeArray, rfl, rfl⟩
  · cases h
    exact .inl ⟨_, .colon, rfl, rfl⟩
  · cases h
    exact .inl ⟨_, .comma, rfl, rfl⟩
  · cases h
    exact .inr (.inl ⟨rfl, rfl, rfl⟩)
  · split_ifs at h with blank word
    · cases h
      exact .inr (.inr (.inl ⟨blank, rfl, rfl⟩))
    · cases h
      exact .inr (.inr (.inr ⟨word, rfl, rfl⟩))

end Words

/-- What can be cut into tokens is walked through. -/
theorem Cut.walk_eq (h : Cut cs ts) (acc : List Token) : walk .between acc cs = some (acc.reverse ++ ts) := by
  have put (t : Token) (ts : List Token) : (t :: acc).reverse ++ ts = acc.reverse ++ t :: ts := by simp
  induction h generalizing acc with
  | done => simp [walk]
  | blank blank h ih =>
    rw [walk_between, startToken_blank blank]
    exact ih acc put
  | mark mark h ih =>
    rw [walk_between, startToken_mark mark, ← put]
    exact ih _ (by simp)
  | @text body cs parts ts quoted h ih =>
    have closed : walk (.string [] true none) acc (body ++ '"' :: cs) =
        walk .between (.text (outcome [] true none parts) :: acc) cs := walk_quoted quoted (by simp) acc cs
    rw [walk_cons, ← put]
    exact closed.trans (ih _ (by simp))
  | @word w cs v ts word stops h ih =>
    obtain ⟨exist, run⟩ := word.wordChars
    obtain ⟨c, w, rfl⟩ := List.exists_cons_of_ne_nil exist
    obtain ⟨first, run⟩ := List.forall_mem_cons.mp run
    have ended := walk_word run stops [c] acc
    rw [List.reverse_singleton, List.singleton_append, wordValue_eq_some_iff.mpr word] at ended
    rw [List.cons_append, walk_between, startToken_word first, ← put]
    exact ended.trans (ih _ (by simp))

/-- A walk that goes through leaves a text that can be cut. -/
theorem cut_of_walk (h : walk .between acc cs = some ts) : ∃ more, Cut cs more := by
  induction hn : cs.length using Nat.strongRecOn generalizing cs acc with
  | ind n ih =>
    subst hn
    cases cs with
    | nil => exact ⟨[], .done⟩
    | cons c cs =>
      obtain ⟨next, found, start, h⟩ := step_of_walk h
      rcases startToken_cases start with ⟨t, mark, rfl, rfl⟩ | ⟨rfl, rfl, rfl⟩ | ⟨blank, rfl, rfl⟩ |
        ⟨word, rfl, rfl⟩
      · obtain ⟨more, cut⟩ := ih cs.length (by simp) h rfl
        exact ⟨_, .mark mark cut⟩
      · obtain ⟨body, parts, rest, quoted, rfl⟩ := quoted_of_walk h
        rw [walk_quoted quoted (by simp)] at h
        have shorter := (Nat.lt_succ_self rest.length).trans (length_lt_append '"' body ('"' :: rest))
        obtain ⟨more, cut⟩ := ih rest.length shorter h rfl
        exact ⟨_, .text quoted cut⟩
      · obtain ⟨more, cut⟩ := ih cs.length (by simp) h rfl
        exact ⟨_, .blank blank cut⟩
      · obtain ⟨w, tail, rfl, run, stops⟩ := exists_run isWordChar cs
        rw [walk_word run stops, Option.bind_eq_some_iff] at h
        obtain ⟨v, value, h⟩ := h
        obtain ⟨more, cut⟩ := ih tail.length (length_lt_append c w tail) h rfl
        exact ⟨_, .word (wordValue_eq_some_iff.mp value) stops cut⟩

section Plain

variable {s : String}

/-- A string whose characters stand in a text as they are. -/
def Plain (s : String) : Prop := ∀ c ∈ s.toList, c ≠ '"' ∧ c ≠ '\\' ∧ 32 ≤ c.toNat

theorem characters_map_char (cs : List Char) : characters (cs.map .char) = some cs := by
  induction cs with
  | nil => rfl
  | cons c cs ih => simp [characters, ih]

theorem quoted_map_char (plain : ∀ c ∈ cs, c ≠ '"' ∧ c ≠ '\\' ∧ 32 ≤ c.toNat) : Quoted cs (cs.map .char) := by
  induction cs with
  | nil => exact .done
  | cons c cs ih =>
    obtain ⟨⟨quote, backslash, visible⟩, rest⟩ := List.forall_mem_cons.mp plain
    exact .plain quote backslash visible (ih rest)

theorem Plain.cut (plain : Plain s) (h : Cut cs ts) :
    Cut ('"' :: (s.toList ++ '"' :: cs)) (.text (some s) :: ts) := by
  have text := Cut.text (quoted_map_char plain) h
  rwa [characters_map_char, Option.map_some, String.ofList_toList] at text

end Plain

/-- The tokens of a text are those that it can be cut into. -/
theorem tokens_eq_some_iff (text : String) : tokens text = some ts ↔ Cut text.toList ts := by
  constructor
  · intro h
    obtain ⟨more, cut⟩ := cut_of_walk h
    rw [tokens, cut.walk_eq] at h
    cases h
    exact cut
  · intro h
    exact h.walk_eq []

end GatewaySync.Json
