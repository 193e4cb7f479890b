import ClusterLinks.Proofs.Text.Decimal
import ClusterLinks.Proofs.Timestamp.Calendar

/-!
# Times that are written and read

Numbers are written with leading zeros, which reading ignores. A time that was read is written as a
text that is read again, and all that gets lost on the way is the fraction of its second.
-/

namespace ClusterLinks.Timestamp

/-! ## Numbers -/

theorem toList_padded (width value : Nat) :
    (padded width value).toList =
      List.replicate (width - (Nat.toDigits 10 value).length) '0' ++ Nat.toDigits 10 value := by
  have digits : (toString value).toList = Nat.toDigits 10 value := Nat.toList_repr
  rw [padded, String.toList_append, String.toList_ofList, ← String.length_toList, digits]

theorem isDigit_of_mem_padded {width value : Nat} {digit : Char}
    (member : digit ∈ (padded width value).toList) : digit.isDigit = true := by
  rw [toList_padded, List.mem_append] at member
  rcases member with zero | digits
  · rw [List.eq_of_mem_replicate zero]
    rfl
  · exact Nat.isDigit_of_mem_toDigits (by decide) (by decide) digits

@[simp] theorem numberOf_padded (width value : Nat) :
    Decimal.numberOf (padded width value).toList = value := by
  rw [toList_padded, Decimal.numberOf_zeros, Decimal.numberOf_toDigits]

/-- A number that is not too large has the width that it is written for. -/
theorem length_padded {width value : Nat} (wide : 0 < width) (fits : value < 10 ^ width) :
    (padded width value).toList.length = width := by
  have noLonger := (Nat.length_toDigits_le_iff (by decide : 1 < 10) wide).mpr fits
  rw [toList_padded, List.length_append, List.length_replicate]
  omega

/-- A number starts with a digit. -/
theorem exists_padded_eq (width value : Nat) :
    ∃ first more, (padded width value).toList = first :: more ∧ first.isDigit = true := by
  cases digits : (padded width value).toList with
  | nil =>
      rw [toList_padded] at digits
      exact absurd (List.append_eq_nil_iff.mp digits).2 Nat.toDigits_ne_nil
  | cons first more =>
      refine ⟨first, more, rfl, ?_⟩
      apply isDigit_of_mem_padded
      rw [digits]
      exact List.mem_cons_self

theorem padded_ne_nil (width value : Nat) : (padded width value).toList ≠ [] := by
  obtain ⟨first, more, digits, -⟩ := exists_padded_eq width value
  rw [digits]
  exact List.cons_ne_nil _ _

/-! ## Reading numbers -/

theorem isBlank_of_isDigit {digit : Char} (isDigit : digit.isDigit = true) :
    Text.isBlank digit = false := by
  simp only [Char.isDigit, ge_iff_le, Bool.and_eq_true, decide_eq_true_eq] at isDigit
  have above : 48 ≤ digit.toNat := isDigit.1
  have below : digit.toNat ≤ 57 := isDigit.2
  simp only [Text.isBlank, Bool.or_eq_false_iff, Bool.and_eq_false_iff, decide_eq_false_iff_not]
  omega

/-- There is nothing to skip in front of a digit. -/
theorem skipBlanks_padded (width value : Nat) (rest : List Char) :
    skipBlanks ((padded width value).toList ++ rest) = (padded width value).toList ++ rest := by
  obtain ⟨first, more, digits, isDigit⟩ := exists_padded_eq width value
  simp [digits, skipBlanks, isBlank_of_isDigit isDigit]

theorem readNumber?_padded {width value : Nat} (wide : 0 < width) (fits : value < 10 ^ width)
    (rest : List Char) :
    readNumber? width ((padded width value).toList ++ rest) = some (value, rest) := by
  have taken : (((padded width value).toList ++ rest).take width).takeWhile Char.isDigit =
      (padded width value).toList := by
    rw [List.take_left' (length_padded wide fits)]
    exact List.takeWhile_eq_self_iff.mpr fun _ member => isDigit_of_mem_padded member
  simp only [readNumber?, skipBlanks_padded, taken]
  split
  · next none => exact absurd none (padded_ne_nil width value)
  · rw [numberOf_padded, List.drop_left' rfl]

theorem readDigits?_padded (width value : Nat) {mark : Char} (notDigit : mark.isDigit = false)
    (rest : List Char) :
    Decimal.readDigits? ((padded width value).toList ++ mark :: rest) =
      some ((padded width value).toList, mark :: rest) :=
  Decimal.readDigits?_append (padded_ne_nil width value)
    (fun _ member => isDigit_of_mem_padded member) notDigit rest

/-- What starts with a digit has no sign. -/
theorem readYear?_padded {value : Nat} (fits : value < 10 ^ 4) (rest : List Char) :
    readYear? ((padded 4 value).toList ++ rest) = some ((value : Int), rest) := by
  have number := readNumber?_padded (by decide) fits rest
  obtain ⟨first, more, digits, isDigit⟩ := exists_padded_eq 4 value
  rw [readYear?, skipBlanks_padded, digits, List.cons_append]
  rw [digits, List.cons_append] at number
  split
  · next minus =>
      cases minus
      cases isDigit
  · next plus =>
      cases plus
      cases isDigit
  · rw [number]
    rfl

theorem readYear?_minus (text : List Char) :
    readYear? ('-' :: text) =
      (Decimal.readDigits? text).map fun (digits, rest) =>
        (-(Decimal.numberOf digits : Int), rest) := rfl

theorem readYear?_plus (text : List Char) :
    readYear? ('+' :: text) =
      (Decimal.readDigits? text).map fun (digits, rest) =>
        ((Decimal.numberOf digits : Int), rest) := rfl

/-- A year is read back, with or without a sign. -/
theorem readYear?_yearText (year : Int) (rest : List Char) :
    readYear? ((yearText year).toList ++ '-' :: rest) = some (year, '-' :: rest) := by
  have digits := readDigits?_padded 4 year.natAbs (by decide : '-'.isDigit = false) rest
  unfold yearText
  split
  · next short =>
      rw [readYear?_padded (by omega), Int.toNat_of_nonneg short.1]
  · split
    · next negative =>
        have text : ("-" ++ padded 4 year.natAbs).toList ++ '-' :: rest =
            '-' :: ((padded 4 year.natAbs).toList ++ '-' :: rest) := by simp
        have value : -(year.natAbs : Int) = year := by omega
        rw [text, readYear?_minus, digits]
        simp only [Option.map_some, numberOf_padded, value]
    · next positive =>
        have text : ("+" ++ padded 4 year.natAbs).toList ++ '-' :: rest =
            '+' :: ((padded 4 year.natAbs).toList ++ '-' :: rest) := by simp
        have value : (year.natAbs : Int) = year := by omega
        rw [text, readYear?_plus, digits]
        simp only [Option.map_some, numberOf_padded, value]

/-! ## Reading times -/

/-- Reading goes on behind a mark. -/
theorem expectMark?_cons {mark : Char} (notBlank : Text.isBlank mark = false) (rest : List Char) :
    expectMark? mark (mark :: rest) = some rest := by
  simp [expectMark?, skipBlanks, notBlank, expect?]

theorem readPair_padded {value : Nat} (fits : value < 100) (rest : List Char) :
    readNumber? 2 ((padded 2 value).toList ++ rest) = some (value, rest) :=
  readNumber?_padded (by decide) fits rest

theorem daysInMonth_lt (year : Int) (month : Nat) : daysInMonth year month < 32 := by
  unfold daysInMonth
  split
  · split <;> decide
  · split <;> decide

/-- A date and a time of day in UTC, as they are written. -/
def textOf (year : Int) (month day hour minute second : Nat) : String :=
  yearText year ++ "-" ++ padded 2 month ++ "-" ++ padded 2 day ++ "T" ++ padded 2 hour ++ ":" ++
    padded 2 minute ++ ":" ++ padded 2 second ++ "Z"

theorem toList_textOf (year : Int) (month day hour minute second : Nat) :
    (textOf year month day hour minute second).toList =
      (yearText year).toList ++ '-' :: ((padded 2 month).toList ++ '-' ::
        ((padded 2 day).toList ++ 'T' :: ((padded 2 hour).toList ++ ':' ::
        ((padded 2 minute).toList ++ ':' :: ((padded 2 second).toList ++ ['Z']))))) := by
  simp [textOf]

/-- A date and a time of day are read as what they say; the sixtieth second of a minute is its last
one, which is then longer. -/
theorem ofText?_textOf {year : Int} {month day hour minute second : Nat}
    (isDate : 1 ≤ month ∧ month ≤ 12 ∧ 1 ≤ day ∧ day ≤ daysInMonth year month)
    (isTime : hour < 24 ∧ minute < 60 ∧ second ≤ 60) {seconds : Int}
    (counted : seconds = daysFromDate year month day * 86400 +
      (hour * 3600 + minute * 60 + (if second = 60 then 59 else second : Nat)))
    (inRange : isInRange seconds = true) :
    ofText? (textOf year month day hour minute second) =
      some { seconds, nanoseconds := if second = 60 then 1000000000 else 0 } := by
  have dayShort : day < 100 := (isDate.2.2.2.trans_lt (daysInMonth_lt year month)).trans (by decide)
  have dash (rest : List Char) := expectMark?_cons (by decide : Text.isBlank '-' = false) rest
  have colon (rest : List Char) := expectMark?_cons (by decide : Text.isBlank ':' = false) rest
  have pair {value : Nat} (fits : value < 100) (rest : List Char) := readPair_padded fits rest
  have inUtc : readOffset? (skipBlanks ['Z']) = some (0, []) := by decide
  rw [ofText?, toList_textOf]
  -- The text is read from left to right, and a pair of digits is followed by a mark each time.
  refine Option.bind_eq_some_iff.mpr ⟨_, readYear?_yearText _ _, ?_⟩
  refine Option.bind_eq_some_iff.mpr ⟨_, dash _, ?_⟩
  refine Option.bind_eq_some_iff.mpr ⟨_, pair (by omega) _, ?_⟩
  refine Option.bind_eq_some_iff.mpr ⟨_, dash _, ?_⟩
  refine Option.bind_eq_some_iff.mpr ⟨_, pair dayShort _, ?_⟩
  refine Option.bind_eq_some_iff.mpr ⟨_, rfl, ?_⟩
  refine Option.bind_eq_some_iff.mpr ⟨_, pair (by omega) _, ?_⟩
  refine Option.bind_eq_some_iff.mpr ⟨_, colon _, ?_⟩
  refine Option.bind_eq_some_iff.mpr ⟨_, pair (by omega) _, ?_⟩
  refine Option.bind_eq_some_iff.mpr ⟨_, colon _, ?_⟩
  refine Option.bind_eq_some_iff.mpr ⟨_, pair (by omega) _, ?_⟩
  refine Option.bind_eq_some_iff.mpr ⟨(0, ['Z']), rfl, ?_⟩
  refine Option.bind_eq_some_iff.mpr ⟨_, inUtc, ?_⟩
  have valid : skipBlanks [] = [] ∧ 1 ≤ month ∧ month ≤ 12 ∧ 1 ≤ day ∧
      day ≤ daysInMonth year month ∧ hour < 24 ∧ minute < 60 ∧ second ≤ 60 :=
    ⟨rfl, isDate.1, isDate.2.1, isDate.2.2.1, isDate.2.2.2, isTime⟩
  dsimp only
  rw [if_pos valid, ← counted, Int.sub_zero, if_pos ⟨inRange, inRange⟩, Nat.zero_add]

/-! ## Times that were read -/

/-- The time lies in the days that dates can name, and a second of more than its length is the last
one of a minute. -/
structure IsWritable (timestamp : Timestamp) : Prop where
  inRange : isInRange timestamp.seconds = true
  short : timestamp.nanoseconds < 2000000000
  leap : 1000000000 ≤ timestamp.nanoseconds → timestamp.seconds % 60 = 59

/-- The time without the fraction of its second. -/
def toSecond (timestamp : Timestamp) : Timestamp :=
  { timestamp with nanoseconds := timestamp.nanoseconds / 1000000000 * 1000000000 }

/-- Nine digits denote less than a second. -/
theorem lt_of_readFraction? {text rest : List Char} {nanoseconds : Nat}
    (reads : readFraction? text = some (nanoseconds, rest)) : nanoseconds < 1000000000 := by
  unfold readFraction? at reads
  split at reads
  · next behind =>
      obtain ⟨⟨digits, more⟩, digitsRead, equal⟩ := Option.map_eq_some_iff.mp reads
      cases equal
      have areDigits : ∀ digit ∈ (digits ++ List.replicate 9 '0').take 9, digit.isDigit = true := by
        intro digit member
        rcases List.mem_append.mp (List.mem_of_mem_take member) with early | late
        · exact Decimal.isDigit_of_readDigits? digitsRead digit early
        · rw [List.eq_of_mem_replicate late]
          rfl
      have nine : ((digits ++ List.replicate 9 '0').take 9).length = 9 := by simp
      have below := Decimal.numberOf_lt areDigits
      rwa [nine] at below
  · cases reads
    decide

theorem mod_of_readDistance? {text rest : List Char} {seconds : Nat}
    (reads : readDistance? text = some (seconds, rest)) : seconds % 60 = 0 := by
  simp only [readDistance?, Option.bind_eq_bind, Option.bind_eq_some_iff] at reads
  obtain ⟨⟨hours, behind⟩, -, ⟨minutes, more⟩, -, checked⟩ := reads
  simp only [Option.ite_none_right_eq_some, Option.some.injEq, Prod.mk.injEq] at checked
  omega

/-- Zones are whole minutes apart. -/
theorem mod_of_readOffset? {text rest : List Char} {offset : Int}
    (reads : readOffset? text = some (offset, rest)) : offset % 60 = 0 := by
  unfold readOffset? at reads
  split at reads
  · obtain ⟨⟨seconds, more⟩, distance, equal⟩ := Option.map_eq_some_iff.mp reads
    cases equal
    have whole := mod_of_readDistance? distance
    omega
  · obtain ⟨⟨seconds, more⟩, distance, equal⟩ := Option.map_eq_some_iff.mp reads
    cases equal
    have whole := mod_of_readDistance? distance
    omega
  · obtain ⟨⟨seconds, more⟩, distance, equal⟩ := Option.map_eq_some_iff.mp reads
    cases equal
    have whole := mod_of_readDistance? distance
    omega
  · split at reads
    · cases reads
      rfl
    · split at reads
      · cases reads
        rfl
      · cases reads
        rfl
      · cases reads

theorem isWritable_of_ofText? {text : String} {timestamp : Timestamp}
    (reads : ofText? text = some timestamp) : timestamp.IsWritable := by
  -- Of all that is read only the fraction and the zone decide whether the time can be written.
  obtain ⟨⟨year, _⟩, -, reads⟩ := Option.bind_eq_some_iff.mp reads
  obtain ⟨_, -, reads⟩ := Option.bind_eq_some_iff.mp reads
  obtain ⟨⟨month, _⟩, -, reads⟩ := Option.bind_eq_some_iff.mp reads
  obtain ⟨_, -, reads⟩ := Option.bind_eq_some_iff.mp reads
  obtain ⟨⟨day, _⟩, -, reads⟩ := Option.bind_eq_some_iff.mp reads
  obtain ⟨_, -, reads⟩ := Option.bind_eq_some_iff.mp reads
  obtain ⟨⟨hour, _⟩, -, reads⟩ := Option.bind_eq_some_iff.mp reads
  obtain ⟨_, -, reads⟩ := Option.bind_eq_some_iff.mp reads
  obtain ⟨⟨minute, _⟩, -, reads⟩ := Option.bind_eq_some_iff.mp reads
  obtain ⟨_, -, reads⟩ := Option.bind_eq_some_iff.mp reads
  obtain ⟨⟨second, _⟩, -, reads⟩ := Option.bind_eq_some_iff.mp reads
  obtain ⟨⟨nanoseconds, _⟩, fraction, reads⟩ := Option.bind_eq_some_iff.mp reads
  obtain ⟨⟨offset, _⟩, zone, checked⟩ := Option.bind_eq_some_iff.mp reads
  have partOfSecond := lt_of_readFraction? fraction
  have wholeMinutes := mod_of_readOffset? zone
  simp only [Option.ite_none_right_eq_some, Option.some.injEq] at checked
  obtain ⟨-, ⟨-, inRange⟩, rfl⟩ := checked
  refine ⟨inRange, ?_, ?_⟩
  · dsimp only
    split <;> omega
  · dsimp only
    split
    · omega
    · omega

/-- A time that can be written is read back without the fraction of its second. -/
theorem ofText?_toText {timestamp : Timestamp} (writable : timestamp.IsWritable) :
    ofText? timestamp.toText = some timestamp.toSecond := by
  obtain ⟨inRange, short, leap⟩ := writable
  have sameDay : Int.fdiv timestamp.seconds 86400 = timestamp.seconds / 86400 :=
    Int.fdiv_eq_ediv_of_nonneg _ (by decide)
  obtain ⟨time, isTime⟩ : ∃ time,
      time = (timestamp.seconds - timestamp.seconds / 86400 * 86400).toNat := ⟨_, rfl⟩
  obtain ⟨second, isSecond⟩ : ∃ second,
      second = time % 60 + timestamp.nanoseconds / 1000000000 := ⟨_, rfl⟩
  cases date : dateOfDays (timestamp.seconds / 86400) with
  | mk year monthAndDay =>
      rcases monthAndDay with ⟨month, day⟩
      have written : timestamp.toText =
          textOf year month day (time / 3600) (time / 60 % 60) second := by
        simp only [toText, sameDay, date, isSecond, isTime, textOf]
      have counted : timestamp.seconds = daysFromDate year month day * 86400 +
          ((time / 3600 : Nat) * 3600 + (time / 60 % 60 : Nat) * 60 +
            (if second = 60 then 59 else second : Nat)) := by
        rw [daysFromDate_of_dateOfDays date]
        split <;> omega
      have fraction : (if second = 60 then 1000000000 else 0) =
          timestamp.nanoseconds / 1000000000 * 1000000000 := by
        split <;> omega
      rw [written, ofText?_textOf (isDate_of_dateOfDays date) (by omega) counted inRange, fraction]
      rfl

end ClusterLinks.Timestamp
