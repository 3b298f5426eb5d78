import Mathlib.Algebra.Ring.Nat
import ImportBoundary.Time.Timestamp

/-!
# Reading timestamps back

A timestamp is read from its text (`parse?_text`). Every part but the fraction has a fixed number of
digits, so it is known where it ends; the zeros that the fraction leaves out at its end are put back
when its digits are counted as nanoseconds.
-/

namespace ImportBoundary

namespace Text

/-! ## Numbers of fixed width

Padding a number and reading as many digits are inverse to each other as long as the number is not too
wide. The leading zeros count for nothing, and the zeros at the end of a fraction count as powers of
ten.
-/

/-- The number that digits spell. -/
def spelled (digits : List Char) : Nat := digits.foldl (fun n c => n * 10 + digitValue c) 0

theorem spelled_concat (digits : List Char) (c : Char) :
    spelled (digits ++ [c]) = spelled digits * 10 + digitValue c := by
  rw [spelled, List.foldl_append]
  rfl

theorem length_padded (width n : Nat) : (padded width n).length = width := by
  induction width generalizing n with
  | zero => rfl
  | succ width ih => rw [padded, List.length_append, ih, List.length_singleton]

theorem isDigit_of_mem_padded {width n : Nat} {c : Char} (h : c ∈ padded width n) : c.isDigit := by
  induction width generalizing n with
  | zero => cases h
  | succ width ih =>
    rcases List.mem_append.mp h with front | last
    · exact ih front
    · rw [List.mem_singleton.mp last, Nat.isDigit_digitChar]
      exact decide_eq_true (Nat.mod_lt n (by decide))

/-- A number that is not too wide is spelled by its digits. -/
theorem spelled_padded {width n : Nat} (h : n < 10 ^ width) : spelled (padded width n) = n := by
  induction width generalizing n with
  | zero => simp_all [padded, spelled]
  | succ width ih =>
    rw [padded, spelled_concat, digitValue_digitChar (Nat.mod_lt n (by decide)),
      ih (by rw [Nat.pow_succ] at h; omega)]
    omega

theorem spelled_append_zeros (digits : List Char) (zeros : Nat) :
    spelled (digits ++ List.replicate zeros '0') = spelled digits * 10 ^ zeros := by
  induction zeros with
  | zero => simp
  | succ zeros ih =>
    rw [List.replicate_succ', ← List.append_assoc, spelled_concat, ih, Nat.pow_succ,
      ← Nat.mul_assoc]
    rfl

/-- As many digits are read as there are. -/
theorem readDigits?_append {digits : List Char} (all : ∀ c ∈ digits, c.isDigit) (rest : List Char) :
    readDigits? digits.length (digits ++ rest) = some (spelled digits, rest) := by
  have from' (n : Nat) : readDigitsFrom? digits.length n (digits ++ rest) =
      some (digits.foldl (fun n c => n * 10 + digitValue c) n, rest) := by
    induction digits generalizing n with
    | nil => rfl
    | cons c digits ih =>
      obtain ⟨first, others⟩ := List.forall_mem_cons.mp all
      rw [List.cons_append, List.length_cons, readDigitsFrom?, if_pos first, ih others]
      rfl
  exact from' 0

theorem readDigits?_padded {width n : Nat} (h : n < 10 ^ width) (rest : List Char) :
    readDigits? width (padded width n ++ rest) = some (n, rest) := by
  have all : ∀ c ∈ padded width n, c.isDigit := fun c mem => isDigit_of_mem_padded mem
  have read := readDigits?_append all rest
  rwa [length_padded, spelled_padded h] at read

end Text

namespace Timestamp

/-! ## The parts of a timestamp

Each reader is shown to take its part off the front of a text and to leave the rest alone. The fraction
is the only part whose length is not fixed, so the reader of the fraction has to stop at what follows
it.
-/

theorem readDate?_padded {year month day : Nat} (hy : year < 10 ^ 4) (hm : month < 10 ^ 2)
    (hd : day < 10 ^ 2) (rest : List Char) :
    readDate? (Text.padded 4 year ++ '-' :: (Text.padded 2 month ++ '-' ::
      (Text.padded 2 day ++ rest))) = some ((year, month, day), rest) := by
  simp [readDate?, Text.readDigits?_padded hy, Text.readDigits?_padded hm,
    Text.readDigits?_padded hd, Text.expect?]

theorem readTime?_padded {hour minute second : Nat} (hh : hour < 10 ^ 2) (hm : minute < 10 ^ 2)
    (hs : second < 10 ^ 2) (rest : List Char) :
    readTime? (Text.padded 2 hour ++ ':' :: (Text.padded 2 minute ++ ':' ::
      (Text.padded 2 second ++ rest))) = some ((hour, minute, second), rest) := by
  simp [readTime?, Text.readDigits?_padded hh, Text.readDigits?_padded hm,
    Text.readDigits?_padded hs, Text.expect?]

/-- Digits without the zeros at their end. -/
def trimmed (digits : List Char) : List Char := (digits.reverse.dropWhile (· = '0')).reverse

theorem exists_eq_trimmed_append (digits : List Char) :
    ∃ zeros, digits = trimmed digits ++ List.replicate zeros '0' := by
  have zeros : ∀ c ∈ digits.reverse.takeWhile (· = '0'), c = '0' := fun c mem =>
    of_decide_eq_true (List.all_eq_true.mp List.all_takeWhile c mem)
  have split :=
    List.takeWhile_append_dropWhile (p := fun c => decide (c = '0')) (l := digits.reverse)
  rw [List.eq_replicate_of_mem zeros] at split
  refine ⟨(digits.reverse.takeWhile (· = '0')).length, ?_⟩
  rw [trimmed, ← List.reverse_replicate, ← List.reverse_append, split, List.reverse_reverse]

/-- The zeros at the end of a fraction do not count. -/
theorem nanosecondsOf_trimmed {digits : List Char} (length : digits.length = 9) :
    nanosecondsOf (trimmed digits) = Text.spelled digits := by
  obtain ⟨zeros, split⟩ := exists_eq_trimmed_append digits
  have lengths : (trimmed digits).length + zeros = 9 := by
    rw [← length]
    conv => rhs; rw [split]
    simp
  have counted : (trimmed digits).take 9 = trimmed digits := List.take_of_length_le (by omega)
  have left_out : 9 - (trimmed digits).length = zeros := by omega
  calc nanosecondsOf (trimmed digits)
      = Text.spelled (trimmed digits) * 10 ^ zeros := by
        rw [nanosecondsOf, counted, left_out]
        rfl
    _ = Text.spelled digits := by rw [← Text.spelled_append_zeros, ← split]

theorem mem_of_mem_trimmed {digits : List Char} {c : Char} (h : c ∈ trimmed digits) : c ∈ digits :=
  List.mem_reverse.mp ((List.dropWhile_sublist _).subset (List.mem_reverse.mp h))

theorem readFraction?_fractionChars {nanosecond : Nat} (h : nanosecond < 10 ^ 9) {rest : List Char}
    (stops : ∀ c ∈ rest.head?, c.isDigit = false ∧ c ≠ '.') :
    readFraction? (fractionChars nanosecond ++ rest) = some (nanosecond, rest) := by
  unfold fractionChars
  split
  · next zero =>
    rw [List.nil_append, zero]
    unfold readFraction?
    split
    · next rest => exact absurd rfl (stops '.' rfl).2
    · rfl
  · next positive =>
    have nanoseconds := nanosecondsOf_trimmed (Text.length_padded 9 nanosecond)
    rw [Text.spelled_padded h] at nanoseconds
    have digits : ∀ c ∈ trimmed (Text.padded 9 nanosecond), c.isDigit := fun c mem =>
      Text.isDigit_of_mem_padded (mem_of_mem_trimmed mem)
    have taken : rest.takeWhile Char.isDigit = [] ∧ rest.dropWhile Char.isDigit = rest := by
      cases rest with
      | nil => exact ⟨rfl, rfl⟩
      | cons c rest => simp [(stops c rfl).1]
    rw [← trimmed, List.cons_append, readFraction?, List.takeWhile_append_of_pos digits,
      List.dropWhile_append_of_pos digits, taken.1, taken.2, List.append_nil]
    split
    · next none =>
      rw [none] at nanoseconds
      exact absurd nanoseconds.symm positive
    · rw [nanoseconds]

theorem readOffset?_offsetChars {offset : Int} (h : offset.natAbs < 24 * 60) :
    readOffset? (offsetChars offset) = some (offset, []) := by
  unfold offsetChars
  split
  · next zero => simp [readOffset?, zero]
  · have hour : offset.natAbs / 60 < 10 ^ 2 := by omega
    have minute : offset.natAbs % 60 < 10 ^ 2 := by omega
    have minutes := Text.readDigits?_padded minute []
    rw [List.append_nil] at minutes
    have inside : ¬ (23 < offset.natAbs / 60 ∨ 59 < offset.natAbs % 60) := by omega
    have distance : ((offset.natAbs / 60 : Nat) : Int) * 60 + (offset.natAbs % 60 : Nat) =
        offset.natAbs := by omega
    by_cases negative : offset < 0
    · rw [if_pos negative, List.cons_append, readOffset?, if_neg (by decide), if_pos (by decide)]
      simp only [Text.readDigits?_padded hour, minutes, Text.expect?, Option.bind_eq_bind,
        Option.bind_some, if_true, if_neg inside, distance]
      exact congrArg (fun i => some (i, [])) (by omega)
    · rw [if_neg negative, List.cons_append, readOffset?, if_neg (by decide), if_pos (by decide)]
      simp only [Text.readDigits?_padded hour, minutes, Text.expect?, Option.bind_eq_bind,
        Option.bind_some, if_true, if_neg inside, distance]
      have plus : ¬ ('+' = '-') := by decide
      exact congrArg (fun i => some (i, [])) (by rw [if_neg plus]; omega)

theorem ofParts?_self (t : Timestamp) :
    ofParts? (t.year, t.month, t.day) (t.hour, t.minute, t.second) t.nanosecond t.offset =
      some t :=
  dif_pos ⟨t.year_lt, t.isDate, t.hour_lt, t.minute_lt, t.second_lt, t.nanosecond_lt, t.offset_lt⟩

/-- The months and the days of a month have two digits. -/
theorem lt_of_isDate {year month day : Nat} (h : Calendar.isDate year month day) :
    month < 10 ^ 2 ∧ day < 10 ^ 2 := by
  simp only [Calendar.isDate, Bool.and_eq_true, decide_eq_true_eq] at h
  have days : Calendar.daysOfMonth year month ≤ 31 := by
    unfold Calendar.daysOfMonth
    grind
  have exists_days : Calendar.daysOfMonth year month ≠ 0 := by omega
  have months : month ≤ 12 := Nat.le_of_not_lt fun beyond => exists_days (if_pos (.inr beyond))
  omega

/-- What stands behind the fraction does not continue it. -/
theorem stops_offsetChars (offset : Int) :
    ∀ c ∈ (offsetChars offset).head?, c.isDigit = false ∧ c ≠ '.' := by
  unfold offsetChars
  split
  · rintro _ ⟨⟩
    decide
  · split <;> rintro _ ⟨⟩ <;> decide

/-- A timestamp is read from its text. -/
theorem parse?_text (t : Timestamp) : parse? t.text = some t := by
  obtain ⟨month, day⟩ := lt_of_isDate t.isDate
  have date := readDate?_padded t.year_lt month day
  have time := readTime?_padded (Nat.lt_trans t.hour_lt (by decide))
    (Nat.lt_trans t.minute_lt (by decide)) (Nat.lt_trans t.second_lt (by decide))
  have fraction := readFraction?_fractionChars t.nanosecond_lt (stops_offsetChars t.offset)
  have offset := readOffset?_offsetChars t.offset_lt
  have whole : t.second ≠ 60 := Nat.ne_of_lt t.second_lt
  rw [parse?, text, String.toList_ofList, ofChars?]
  simp [chars, date, time, fraction, offset, whole, ofParts?_self]

end Timestamp

end ImportBoundary
