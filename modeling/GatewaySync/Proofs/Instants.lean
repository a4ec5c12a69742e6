import GatewaySync.Proofs.Calendar
import GatewaySync.Proofs.Runs
/-!
# Reading instants that were written

A field is written with as many digits as its reader takes, or is followed by what is no digit, so each field is
read back up to where it ends. An instant comes back to the nanosecond, a leap second as one.
-/
namespace GatewaySync.Instant

section Digits

variable {width n : Nat} {rest : List Char}

theorem padded_toList (width n : Nat) :
    (padded width n).toList = List.replicate (width - (Nat.toDigits 10 n).length) '0' ++ Nat.toDigits 10 n := by
  simp [padded]

theorem isDigit_of_mem_padded {c : Char} (h : c ∈ (padded width n).toList) : c.isDigit := by
  rw [padded_toList, List.mem_append] at h
  rcases h with zero | digit
  · rw [(List.mem_replicate.mp zero).2]
    rfl
  · exact Nat.isDigit_of_mem_toDigits (by decide) (by decide) digit

theorem padded_ne_nil (width n : Nat) : (padded width n).toList ≠ [] := by
  rw [padded_toList]
  exact List.append_ne_nil_of_right_ne_nil _ Nat.toDigits_ne_nil

theorem length_padded (fits : n < 10 ^ width) (positive : 0 < width) : (padded width n).toList.length = width := by
  have short : (Nat.toDigits 10 n).length ≤ width :=
    (Nat.length_toDigits_le_iff (by decide) positive).mpr fits
  rw [padded_toList, List.length_append, List.length_replicate]
  omega

def valueOf (digits : List Char) : Nat := digits.foldl (fun n c => n * 10 + (c.toNat - 48)) 0

theorem valueOf_padded (width n : Nat) : valueOf (padded width n).toList = n := by
  have zeros (k : Nat) : (List.replicate k '0').foldl (fun n c => n * 10 + (c.toNat - 48)) 0 = 0 := by
    induction k with
    | zero => rfl
    | succ k ih => exact ih
  rw [valueOf, padded_toList, List.foldl_append, zeros, Text.foldl_toDigits]

def Stops (rest : List Char) : Prop := ∀ c ∈ rest.head?, c.isDigit = false

theorem number_padded (most : Nat) (fits : (padded width n).toList.length ≤ most)
    (ends : (padded width n).toList.length = most ∨ Stops rest) :
    number most ((padded width n).toList ++ rest) = some (n, rest) := by
  have digits : ((((padded width n).toList ++ rest).take most).takeWhile Char.isDigit) =
      (padded width n).toList := by
    rw [List.take_append, List.take_of_length_le fits,
      List.takeWhile_append_of_pos fun c hc => isDigit_of_mem_padded hc]
    rcases ends with full | stops
    · simp [full]
    · cases rest with
      | nil => simp
      | cons c rest =>
        have other := stops c rfl
        cases most - (padded width n).toList.length <;> simp [other]
  unfold number
  rw [digits, if_neg (padded_ne_nil width n), List.drop_left]
  exact congrArg some (Prod.ext (valueOf_padded width n) rfl)

theorem trimStart_cons {c : Char} (visible : Text.isBlank c = false) (rest : List Char) :
    Text.trimStart (c :: rest) = c :: rest := by
  simp [Text.trimStart, visible]

theorem isBlank_of_isDigit {c : Char} (h : c.isDigit) : Text.isBlank c = false := by
  have bounds := Text.isDigit_bounds h
  simp only [Text.isBlank, Bool.or_eq_false_iff, Bool.and_eq_false_iff, decide_eq_false_iff_not]
  omega

theorem padded_starts (width n : Nat) (rest : List Char) :
    ∃ c more, (padded width n).toList ++ rest = c :: more ∧ c.isDigit := by
  obtain ⟨c, more, text⟩ := List.exists_cons_of_ne_nil (padded_ne_nil width n)
  have mem : c ∈ (padded width n).toList := by
    rw [text]
    exact List.mem_cons_self
  refine ⟨c, more ++ rest, ?_, isDigit_of_mem_padded mem⟩
  rw [text, List.cons_append]

theorem trimStart_padded (width n : Nat) (rest : List Char) :
    Text.trimStart ((padded width n).toList ++ rest) = (padded width n).toList ++ rest := by
  obtain ⟨c, more, text, digit⟩ := padded_starts width n rest
  rw [text]
  exact trimStart_cons (isBlank_of_isDigit digit) more

theorem field_padded (fits : n < 100) (rest : List Char) :
    field ((padded 2 n).toList ++ rest) = some (n, rest) := by
  have length : (padded 2 n).toList.length = 2 := length_padded fits (by decide)
  rw [field, trimStart_padded]
  exact number_padded 2 length.le (.inl length)

theorem separator_cons {c : Char} (visible : Text.isBlank c = false) (rest : List Char) :
    separator c (c :: rest) = some rest := by
  simp [separator, trimStart_cons visible]

end Digits

theorem yearField_minus (cs : List Char) :
    yearField ('-' :: cs) = (number cs.length cs).map fun (n, rest) => (-(n : Int), rest) := by
  rw [yearField, trimStart_cons rfl]
  rfl

theorem yearField_plus (cs : List Char) :
    yearField ('+' :: cs) = (number cs.length cs).map fun (n, rest) => ((n : Int), rest) := by
  rw [yearField, trimStart_cons rfl]
  rfl

theorem yearField_yearText (year : Int) (rest : List Char) :
    yearField ((yearText year).toList ++ '-' :: rest) = some (year, '-' :: rest) := by
  have stops : Stops ('-' :: rest) := by
    rintro c ⟨⟩
    rfl
  have signed (n : Nat) : number ((padded 4 n).toList ++ '-' :: rest).length
      ((padded 4 n).toList ++ '-' :: rest) = some (n, '-' :: rest) :=
    number_padded _ (by simp) (.inr stops)
  unfold yearText
  split_ifs with plain negative
  · have length : (padded 4 year.toNat).toList.length = 4 := length_padded (by omega) (by decide)
    have read : number 4 ((padded 4 year.toNat).toList ++ '-' :: rest) = some (year.toNat, '-' :: rest) :=
      number_padded 4 length.le (.inl length)
    obtain ⟨c, more, text, digit⟩ := padded_starts 4 year.toNat ('-' :: rest)
    rw [yearField, trimStart_padded]
    rw [text] at read ⊢
    split
    · rename_i same
      cases same
      exact absurd digit (by decide)
    · rename_i same
      cases same
      exact absurd digit (by decide)
    · have value : (year.toNat : Int) = year := by omega
      rw [read]
      exact congrArg (fun y => some (y, '-' :: rest)) value
  · rw [String.toList_append, List.append_assoc]
    refine (yearField_minus ((padded 4 year.natAbs).toList ++ '-' :: rest)).trans ?_
    have value : -(year.natAbs : Int) = year := by omega
    rw [signed]
    exact congrArg (fun y => some (y, '-' :: rest)) value
  · rw [String.toList_append, List.append_assoc]
    refine (yearField_plus ((padded 4 year.natAbs).toList ++ '-' :: rest)).trans ?_
    have value : (year.natAbs : Int) = year := by omega
    rw [signed]
    exact congrArg (fun y => some (y, '-' :: rest)) value

def utc : List Char := ['Z']

theorem stops_utc : Stops utc := by
  rintro c ⟨⟩
  rfl

/-- A fraction that is written with all its digits but the last zeros is read to the nanosecond. -/
theorem fraction_padded {width n : Nat} (positive : 0 < width) (short : width ≤ 9) (fits : n < 10 ^ width) :
    fraction ('.' :: ((padded width n).toList ++ utc)) = some (n * Nat.pow 10 (9 - width), utc) := by
  have length : (padded width n).toList.length = width := length_padded fits positive
  have read : number 9 ((padded width n).toList ++ utc) = some (n, utc) :=
    number_padded 9 (length.le.trans short) (.inr stops_utc)
  rw [fraction, read]
  simp [length, utc]

theorem fraction_fractionText {nanos : Nat} (fits : nanos < 1000000000) :
    fraction ((fractionText nanos).toList ++ utc) = some (nanos, utc) := by
  have dotted (width n : Nat) : ("." ++ padded width n).toList ++ utc = '.' :: ((padded width n).toList ++ utc) := by
    simp
  unfold fractionText
  split_ifs with none milli micro
  · rw [none]
    rfl
  · rw [dotted, fraction_padded (by decide) (by decide) (by omega)]
    have value : nanos / 1000000 * Nat.pow 10 (9 - 3) = nanos := by
      rw [show Nat.pow 10 (9 - 3) = 1000000 from rfl]
      omega
    rw [value]
  · rw [dotted, fraction_padded (by decide) (by decide) (by omega)]
    have value : nanos / 1000 * Nat.pow 10 (9 - 6) = nanos := by
      rw [show Nat.pow 10 (9 - 6) = 1000 from rfl]
      omega
    rw [value]
  · rw [dotted, fraction_padded (by decide) (by decide) (by omega)]
    simp

/-- What instants are kept in: the years that there are, and less than a second of nanoseconds, or of two in the
last second of a minute. -/
structure Valid (t : Instant) : Prop where
  years : inRange t.seconds
  nanos : t.nanos < 1000000000 ∨ t.nanos < 2000000000 ∧ t.seconds % 60 = 59

/-- The years of a valid instant are those that there are. -/
theorem Valid.year_bounds {t : Instant} (h : t.Valid) :
    -lastYear - 1 ≤ (Calendar.ofDayNumber (t.seconds.fdiv 86400)).year ∧
      (Calendar.ofDayNumber (t.seconds.fdiv 86400)).year ≤ lastYear := by
  have years := h.years
  unfold inRange at years
  simp only [Bool.and_eq_true, decide_eq_true_eq] at years
  exact Calendar.ofDayNumber_year years.1 years.2

def fieldsText (date : Calendar.Date) (hour minute second : Nat) (rest : List Char) : List Char :=
  (yearText date.year).toList ++ '-' :: ((padded 2 date.month).toList ++ '-' ::
    ((padded 2 date.day).toList ++ 'T' :: ((padded 2 hour).toList ++ ':' ::
      ((padded 2 minute).toList ++ ':' :: ((padded 2 second).toList ++ rest)))))

/-- Fields that were written are read one after the other. A second of 60 is a leap second. -/
theorem ofChars?_fieldsText {date : Calendar.Date} {hour minute second nanos : Nat} {seconds : Int}
    {rest : List Char} (years : -lastYear - 1 ≤ date.year ∧ date.year ≤ lastYear)
    (valid : 1 ≤ date.month ∧ date.month ≤ 12 ∧ 1 ≤ date.day ∧
      date.day ≤ Calendar.daysInMonth date.year date.month)
    (time : hour < 24 ∧ minute < 60 ∧ second ≤ 60) (read : fraction rest = some (nanos, utc))
    (sum : Calendar.dayNumber date * 86400 + hour * 3600 + minute * 60 +
      (if second = 60 then 59 else (second : Int)) - 0 = seconds) (range : inRange seconds) :
    ofChars? (fieldsText date hour minute second rest) =
      some ⟨seconds, nanos + if second = 60 then 1000000000 else 0⟩ := by
  have longest := Calendar.daysInMonth_le date.year date.month
  have dash (rest : List Char) : separator '-' ('-' :: rest) = some rest := separator_cons rfl rest
  have colon (rest : List Char) : separator ':' (':' :: rest) = some rest := separator_cons rfl rest
  have month (rest : List Char) := field_padded (show date.month < 100 by omega) rest
  have day (rest : List Char) := field_padded (show date.day < 100 by omega) rest
  have hours (rest : List Char) := field_padded (show hour < 100 by omega) rest
  have minutes (rest : List Char) := field_padded (show minute < 100 by omega) rest
  have last (rest : List Char) := field_padded (show second < 100 by omega) rest
  have zone : offset (Text.trimStart utc) = some (0, []) := by decide
  rw [ofChars?, fieldsText]
  refine Option.bind_eq_some_iff.mpr ⟨_, yearField_yearText _ _, ?_⟩
  refine Option.bind_eq_some_iff.mpr ⟨_, dash _, ?_⟩
  refine Option.bind_eq_some_iff.mpr ⟨_, month _, ?_⟩
  refine Option.bind_eq_some_iff.mpr ⟨_, dash _, ?_⟩
  refine Option.bind_eq_some_iff.mpr ⟨_, day _, ?_⟩
  refine (if_pos (.inr (.inl rfl))).trans ?_
  refine Option.bind_eq_some_iff.mpr ⟨_, rfl, ?_⟩
  refine Option.bind_eq_some_iff.mpr ⟨_, hours _, ?_⟩
  refine Option.bind_eq_some_iff.mpr ⟨_, colon _, ?_⟩
  refine Option.bind_eq_some_iff.mpr ⟨_, minutes _, ?_⟩
  refine Option.bind_eq_some_iff.mpr ⟨_, colon _, ?_⟩
  refine Option.bind_eq_some_iff.mpr ⟨_, last _, ?_⟩
  refine Option.bind_eq_some_iff.mpr ⟨_, read, ?_⟩
  refine Option.bind_eq_some_iff.mpr ⟨_, zone, ?_⟩
  refine Option.bind_eq_some_iff.mpr ⟨(), if_pos rfl, ?_⟩
  refine Option.bind_eq_some_iff.mpr ⟨(), if_pos years, ?_⟩
  refine Option.bind_eq_some_iff.mpr ⟨(), if_pos valid, ?_⟩
  refine Option.bind_eq_some_iff.mpr ⟨(), if_pos ⟨time.1, time.2.1, time.2.2, by decide, by decide⟩, ?_⟩
  dsimp only
  rw [sum]
  exact Option.bind_eq_some_iff.mpr ⟨(), if_pos range, rfl⟩

/-- Of a minute the second 60 is shown for the last one, if that is a leap second. -/
theorem Valid.shown_second {t : Instant} (h : t.Valid) {second shown : Nat} (ofMinute : t.seconds % 60 = second)
    (same : shown = second + if 1000000000 ≤ t.nanos then 1 else 0) :
    (shown = 60 ↔ 1000000000 ≤ t.nanos) ∧ shown ≤ 60 ∧
      (if shown = 60 then 59 else (shown : Int)) = second := by
  have nanos := h.nanos
  by_cases leap : 1000000000 ≤ t.nanos
  · rw [if_pos leap] at same
    have last : shown = 60 := by omega
    rw [if_pos last]
    omega
  · rw [if_neg leap] at same
    have before : shown ≠ 60 := by omega
    rw [if_neg before]
    omega

/-- Up to the second an instant is read as it was written, whatever the fraction is. -/
theorem ofChars?_secondText {t : Instant} (h : t.Valid) {text : List Char} {nanos : Nat}
    (read : fraction (text ++ utc) = some (nanos, utc)) :
    ofChars? (t.secondText.toList ++ (text ++ utc)) =
      some ⟨t.seconds, nanos + if 1000000000 ≤ t.nanos then 1000000000 else 0⟩ := by
  obtain ⟨second, second_eq⟩ : ∃ second, (t.seconds.fmod 86400).toNat = second := ⟨_, rfl⟩
  obtain ⟨shown, shown_eq⟩ : ∃ shown, shown = second % 60 + if 1000000000 ≤ t.nanos then 1 else 0 := ⟨_, rfl⟩
  have floor : t.seconds.fdiv 86400 = t.seconds / 86400 := Int.fdiv_eq_ediv_of_nonneg _ (by decide)
  have remainder : t.seconds.fmod 86400 = t.seconds % 86400 := Int.fmod_eq_emod_of_nonneg _ (by decide)
  have ofMinute : t.seconds % 60 = (second % 60 : Nat) := by omega
  obtain ⟨leap, shown_le, kept⟩ := h.shown_second ofMinute shown_eq
  have spelled : t.secondText.toList ++ (text ++ utc) = fieldsText (Calendar.ofDayNumber (t.seconds.fdiv 86400))
      (second / 3600) (second / 60 % 60) shown (text ++ utc) := by
    simp [secondText, dayAndTime, fieldsText, second_eq, shown_eq]
  rw [spelled, ofChars?_fieldsText h.year_bounds (Calendar.ofDayNumber_valid _) (by omega) read _ h.years]
  · simp only [leap]
  · rw [Calendar.dayNumber_ofDayNumber, kept]
    omega

theorem ofString?_text {t : Instant} (h : t.Valid) : ofString? t.text = some t := by
  have read := ofChars?_secondText h (fraction_fractionText (Nat.mod_lt t.nanos (by decide)))
  have nanos := h.nanos
  have spelled : t.text.toList = t.secondText.toList ++ ((fractionText (t.nanos % 1000000000)).toList ++ utc) := by
    simp [text, utc]
  rw [ofString?, spelled, read]
  refine congrArg some (congrArg (Instant.mk t.seconds) ?_)
  split_ifs <;> omega

theorem ofString?_wholeText {t : Instant} (h : t.Valid) : ofString? t.wholeText = some t.whole := by
  have read : ofChars? (t.secondText.toList ++ ([] ++ utc)) = _ := ofChars?_secondText h rfl
  have spelled : t.wholeText.toList = t.secondText.toList ++ ([] ++ utc) := by
    simp [wholeText, utc]
  rw [ofString?, spelled, read, whole]
  simp

/-- What was dropped is not written anyway. -/
theorem wholeText_whole (t : Instant) : t.whole.wholeText = t.wholeText := by
  have shown : 1000000000 ≤ t.whole.nanos ↔ 1000000000 ≤ t.nanos := by
    unfold whole
    dsimp only
    split_ifs <;> omega
  simp only [wholeText, secondText, shown]
  rfl

theorem valueOf_lt {digits : List Char} (h : ∀ c ∈ digits, c.isDigit) : valueOf digits < 10 ^ digits.length := by
  have folded (start : Nat) : digits.foldl (fun n c => n * 10 + (c.toNat - 48)) start <
      (start + 1) * 10 ^ digits.length := by
    induction digits generalizing start with
    | nil => simp
    | cons c rest ih =>
      obtain ⟨first, later⟩ := List.forall_mem_cons.mp h
      have digit : c.toNat - 48 < 10 := by
        have bounds := Text.isDigit_bounds first
        omega
      have bound := ih later (start * 10 + (c.toNat - 48))
      have grows : (start * 10 + (c.toNat - 48) + 1) * 10 ^ rest.length ≤ (start * 10 + 10) * 10 ^ rest.length :=
        Nat.mul_le_mul_right _ (by omega)
      rw [List.foldl_cons, List.length_cons, Nat.pow_succ]
      calc _ < (start * 10 + (c.toNat - 48) + 1) * 10 ^ rest.length := bound
        _ ≤ (start * 10 + 10) * 10 ^ rest.length := grows
        _ = (start + 1) * (10 ^ rest.length * 10) := by
          rw [show start * 10 + 10 = (start + 1) * 10 by omega, Nat.mul_assoc, Nat.mul_comm 10]
  have whole := folded 0
  rwa [Nat.zero_add, Nat.one_mul] at whole

theorem number_lt {most n : Nat} {cs rest : List Char} (h : number most cs = some (n, rest)) :
    cs.length - rest.length ≤ most ∧ n < 10 ^ (cs.length - rest.length) := by
  unfold number at h
  dsimp only at h
  split_ifs at h
  cases h
  have digits : ∀ c ∈ (cs.take most).takeWhile Char.isDigit, c.isDigit :=
    List.all_eq_true.mp List.all_takeWhile
  have short : ((cs.take most).takeWhile Char.isDigit).length ≤ (cs.take most).length :=
    (List.takeWhile_prefix _).length_le
  have bound := valueOf_lt digits
  rw [List.length_take] at short
  rw [List.length_drop, Nat.sub_sub_self (by omega)]
  exact ⟨by omega, bound⟩

theorem scaled_lt {n digits width : Nat} (short : digits ≤ width) (bound : n < 10 ^ digits) :
    n * Nat.pow 10 (width - digits) < 10 ^ width := by
  have positive : 0 < 10 ^ (width - digits) := Nat.pow_pos (by decide)
  calc n * 10 ^ (width - digits) < 10 ^ digits * 10 ^ (width - digits) := Nat.mul_lt_mul_of_pos_right bound positive
    _ = 10 ^ width := by rw [← Nat.pow_add, Nat.add_sub_cancel' short]

theorem fraction_lt {cs rest : List Char} {nanos : Nat} (h : fraction cs = some (nanos, rest)) :
    nanos < 1000000000 := by
  unfold fraction at h
  split at h
  · obtain ⟨⟨n, after⟩, read, h⟩ := Option.bind_eq_some_iff.mp h
    cases h
    obtain ⟨short, bound⟩ := number_lt read
    exact scaled_lt short bound
  · cases h
    decide

/-- Offsets are of whole minutes. -/
theorem offset_minutes {cs rest : List Char} {east : Int} (h : offset cs = some (east, rest)) :
    east % 60 = 0 := by
  unfold offset at h
  split_ifs at h
  · cases h
    rfl
  · split at h
    · cases h
      rfl
    · cases h
      rfl
    · obtain ⟨_, -, h⟩ := Option.bind_eq_some_iff.mp h
      obtain ⟨⟨hours, _⟩, -, h⟩ := Option.bind_eq_some_iff.mp h
      obtain ⟨⟨minutes, _⟩, -, h⟩ := Option.bind_eq_some_iff.mp h
      obtain ⟨_, -, h⟩ := Option.bind_eq_some_iff.mp h
      cases h
      split_ifs <;> omega
    · cases h

/-- What was read can be kept. -/
theorem valid_of_ofChars? {cs : List Char} {t : Instant} (h : ofChars? cs = some t) : t.Valid := by
  obtain ⟨⟨year, _⟩, -, h⟩ := Option.bind_eq_some_iff.mp h
  obtain ⟨_, -, h⟩ := Option.bind_eq_some_iff.mp h
  obtain ⟨⟨month, _⟩, -, h⟩ := Option.bind_eq_some_iff.mp h
  obtain ⟨_, -, h⟩ := Option.bind_eq_some_iff.mp h
  obtain ⟨⟨day, rest⟩, -, h⟩ := Option.bind_eq_some_iff.mp h
  rcases rest with _ | ⟨c, rest⟩
  · cases h
  obtain ⟨-, h⟩ | ⟨-, h⟩ := ite_eq_iff.mp h
  · obtain ⟨_, -, h⟩ := Option.bind_eq_some_iff.mp h
    obtain ⟨⟨hour, _⟩, -, h⟩ := Option.bind_eq_some_iff.mp h
    obtain ⟨_, -, h⟩ := Option.bind_eq_some_iff.mp h
    obtain ⟨⟨minute, _⟩, -, h⟩ := Option.bind_eq_some_iff.mp h
    obtain ⟨_, -, h⟩ := Option.bind_eq_some_iff.mp h
    obtain ⟨⟨second, _⟩, -, h⟩ := Option.bind_eq_some_iff.mp h
    obtain ⟨⟨nanos, _⟩, part, h⟩ := Option.bind_eq_some_iff.mp h
    obtain ⟨⟨east, _⟩, zone, h⟩ := Option.bind_eq_some_iff.mp h
    obtain ⟨_, -, h⟩ := Option.bind_eq_some_iff.mp h
    obtain ⟨_, -, h⟩ := Option.bind_eq_some_iff.mp h
    obtain ⟨_, -, h⟩ := Option.bind_eq_some_iff.mp h
    obtain ⟨_, -, h⟩ := Option.bind_eq_some_iff.mp h
    obtain ⟨_, kept, h⟩ := Option.bind_eq_some_iff.mp h
    obtain ⟨kept, -⟩ | ⟨-, kept⟩ := ite_eq_iff.mp kept
    · have minutes := offset_minutes zone
      have below := fraction_lt part
      cases h
      refine ⟨kept, ?_⟩
      dsimp only
      split_ifs <;> omega
    · cases kept
  · cases h

theorem valid_of_ofString? {s : String} {t : Instant} (h : ofString? s = some t) : t.Valid :=
  valid_of_ofChars? h

end GatewaySync.Instant
