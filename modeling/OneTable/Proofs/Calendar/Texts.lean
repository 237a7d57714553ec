import OneTable.Calendar.Pattern
import OneTable.Proofs.Number.Decimal
import OneTable.Proofs.Trimming

/-!
# Days and instants are read back

A day may be written in five ways and an instant in eight, but each has one text of its own. The
text of a day fits the first of the five patterns, and the text of an instant the first of the
eight, so that nothing depends on the patterns behind them.

What makes a number end where it should is what follows it. A field takes all the digits that it
may, and in the texts a number is followed by a mark, by a blank or by nothing. Years need more
care: outside of the four digits a year has a sign in front, and then it takes all digits there
are.

The one thing that a text does not tell is the fraction of a second. An instant is read back
without it (`OneTable.DateTime.wholeSecond`); a leap second is a second like any other and is told.

* `OneTable.takeNumber_padded`, `OneTable.takeYear_yearText` – the numbers of a text;
* `OneTable.Pattern.read?_ymd`, `OneTable.Pattern.read?_hms` – the text of a day and of a time, in
  front of whatever comes behind;
* `OneTable.readDate?_text`, `OneTable.readDateTime?_text` – **days and instants are read back**.
-/

namespace OneTable

/-- What comes next is no digit, so that a number in front of it has ended. -/
def EndsNumber (rest : List Char) : Prop :=
  ∀ c ∈ rest.head?, isDigit c = false

theorem endsNumber_nil : EndsNumber [] :=
  fun c hc => absurd hc (Option.not_mem_none c)

theorem endsNumber_cons {c : Char} (h : isDigit c = false) (rest : List Char) :
    EndsNumber (c :: rest) := by
  intro d hd
  obtain rfl := Option.some.inj hd
  exact h

/-! ### Numbers -/

section Numbers

variable {width w n : ℕ} {rest : List Char}

theorem isDigit_of_mem_padded {c : Char} (h : c ∈ padded w n) : isDigit c = true := by
  rcases List.mem_append.1 h with h | h
  · rw [List.eq_of_mem_replicate h]
    rfl
  · exact isDigit_of_mem_decimalDigits h

theorem isBlank_of_mem_padded {c : Char} (h : c ∈ padded w n) : Text.isBlank c = false :=
  isBlank_of_isDigit (isDigit_of_mem_padded h)

theorem padded_ne_nil (w n : ℕ) : padded w n ≠ [] :=
  fun h => decimalDigits_ne_nil n (List.append_eq_nil_iff.1 h).2

/-- Zeros in front do not change a number. -/
theorem digitsValue_padded (w n : ℕ) : digitsValue (padded w n) = n := by
  have hzeros : ∀ k ds, digitsValue (List.replicate k '0' ++ ds) = digitsValue ds := by
    intro k ds
    induction k with
    | zero => rfl
    | succ k ih => exact ih
  exact (hzeros _ _).trans (digitsValue_decimalDigits n)

/-- A number of at most as many digits as its width has exactly as many when it is filled up. -/
theorem length_padded (hw : 0 < w) (hn : n < 10 ^ w) : (padded w n).length = w := by
  have hle := (length_decimalDigits_le_iff hw).2 hn
  rw [padded, List.length_append, List.length_replicate]
  exact Nat.sub_add_cancel hle

/-- **A number is taken up to its end.** -/
theorem takeNumber_padded (hwidth : (padded w n).length ≤ width) (hrest : EndsNumber rest) :
    takeNumber width (padded w n ++ rest) = some (n, rest) := by
  have hstop : rest.takeWhile isDigit = [] := by
    cases rest with
    | nil => rfl
    | cons c rest => rw [List.takeWhile_cons, hrest c rfl]; rfl
  have htaken : (padded w n ++ rest).takeWhile isDigit = padded w n := by
    rw [List.takeWhile_append_of_pos fun c hc => isDigit_of_mem_padded hc, hstop, List.append_nil]
  rw [takeNumber, htaken, List.take_of_length_le hwidth]
  simp only [if_neg (padded_ne_nil w n), digitsValue_padded, List.drop_left]

/-- A field of two digits is no blank and has no sign. -/
theorem takeNumber_trimStart_padded (hn : n < 100) (hrest : EndsNumber rest) :
    takeNumber 2 (Text.trimStart (padded 2 n ++ rest)) = some (n, rest) := by
  rw [Text.trimStart_append (padded_ne_nil 2 n) fun c => isBlank_of_mem_padded]
  exact takeNumber_padded (Nat.le_of_eq (length_padded (by decide) hn)) hrest

/-- **The text of a year is taken as the year,** whichever of the three forms it has. -/
theorem takeYear_yearText (year : ℤ) (hrest : EndsNumber rest) :
    takeYear (yearText year ++ rest) = some (year, rest) := by
  have hlong : ∀ k : ℕ, takeNumber (padded 4 k ++ rest).length (padded 4 k ++ rest) =
      some (k, rest) := fun k => takeNumber_padded
    (by rw [List.length_append]; exact Nat.le_add_right _ _) hrest
  rw [yearText]
  by_cases hneg : year < 0
  · have hyear : -(year.natAbs : ℤ) = year := by omega
    rw [if_pos hneg, List.cons_append, takeYear, hlong]
    exact congrArg (fun y => some (y, rest)) hyear
  · have hyear : (year.natAbs : ℤ) = year := by omega
    rw [if_neg hneg]
    by_cases hbig : 9999 < year
    · rw [if_pos hbig, List.cons_append, takeYear, hlong]
      exact congrArg (fun y => some (y, rest)) hyear
    · -- four digits have no sign in front of them
      have hfour : takeNumber 4 (padded 4 year.natAbs ++ rest) = some (year.natAbs, rest) :=
        takeNumber_padded (Nat.le_of_eq (length_padded (by decide) (by omega))) hrest
      have hdigit : ∀ c r, padded 4 year.natAbs ++ rest = c :: r → isDigit c = true := by
        intro c r hc
        have hhead : c ∈ (padded 4 year.natAbs ++ rest).head? := by rw [hc]; rfl
        rw [List.head?_append_of_ne_nil _ (padded_ne_nil _ _)] at hhead
        exact isDigit_of_mem_padded (List.mem_of_mem_head? hhead)
      rw [if_neg hbig]
      unfold takeYear
      split
      · next r hc => exact absurd (hdigit '-' r hc) (by decide)
      · next r hc => exact absurd (hdigit '+' r hc) (by decide)
      · rw [hfour]
        exact congrArg (fun y => some (y, rest)) hyear

/-- The text of a year has no blank. -/
theorem isBlank_of_mem_yearText {year : ℤ} {c : Char} (h : c ∈ yearText year) :
    Text.isBlank c = false := by
  rw [yearText] at h
  split at h
  · rcases List.mem_cons.1 h with rfl | h
    · rfl
    · exact isBlank_of_mem_padded h
  · split at h
    · rcases List.mem_cons.1 h with rfl | h
      · rfl
      · exact isBlank_of_mem_padded h
    · exact isBlank_of_mem_padded h

theorem yearText_ne_nil (year : ℤ) : yearText year ≠ [] := by
  rw [yearText]
  split
  · exact List.cons_ne_nil _ _
  · split
    · exact List.cons_ne_nil _ _
    · exact padded_ne_nil 4 _

end Numbers

/-! ### Days and times in front of something -/

/-- No month is longer than 31 days. -/
theorem daysInMonth_le (year : ℤ) (month : ℕ) : daysInMonth year month ≤ 31 := by
  have hfebruary : (if isLeapYear year then 29 else 28) ≤ 31 := by split <;> decide
  unfold daysInMonth
  split <;> omega

/-- The month and the day of the month have two digits. -/
theorem Date.month_lt_day_lt (d : Date) : d.month < 100 ∧ d.day < 100 := by
  obtain ⟨-, -, hpos, hday⟩ := d.isDay
  have hlong := daysInMonth_le d.year d.month
  have hmonth : d.month ≤ 12 := by
    by_contra hbig
    obtain ⟨k, hk⟩ : ∃ k, d.month = k + 13 := ⟨d.month - 13, by omega⟩
    have hnone : daysInMonth d.year d.month = 0 := by rw [hk]; rfl
    omega
  omega

namespace Pattern

variable {p : Pattern} {rest : List Char} (fs : Fields)

/-- **The text of a day gives the day to its pattern.** -/
theorem read?_ymd (d : Date) (hrest : EndsNumber rest) :
    (ymd '-' ++ p).read? (d.text ++ rest) fs =
      p.read? rest { fs with year := d.year, month := d.month, day := d.day } := by
  obtain ⟨hmonth, hday⟩ := d.month_lt_day_lt
  have hdash : ∀ r, EndsNumber ('-' :: r) := endsNumber_cons rfl
  simp only [ymd, Date.text, List.append_assoc, List.cons_append, List.nil_append, read?,
    Fields.take, if_true, Option.map_some, Option.bind_some,
    Text.trimStart_append (yearText_ne_nil _) (fun c => isBlank_of_mem_yearText),
    takeYear_yearText _ (hdash _), takeNumber_trimStart_padded hmonth (hdash _),
    takeNumber_trimStart_padded hday hrest]

/-- **The text of a time gives the time to its pattern.** -/
theorem read?_hms (t : Time) (hrest : EndsNumber rest) :
    (hms ++ p).read? (t.text ++ rest) fs =
      p.read? rest { fs with hour := t.hour, minute := t.minute, second := t.second } := by
  obtain ⟨hhour, hminute, hsecond, -⟩ := t.isTime
  have hcolon : ∀ r, EndsNumber (':' :: r) := endsNumber_cons rfl
  simp only [hms, hm, Time.text, List.append_assoc, List.cons_append, List.nil_append, read?,
    Fields.take, if_true, Option.map_some, Option.bind_some,
    takeNumber_trimStart_padded (show t.hour < 100 by omega) (hcolon _),
    takeNumber_trimStart_padded (show t.minute < 100 by omega) (hcolon _),
    takeNumber_trimStart_padded (show t.second < 100 by omega) hrest]

end Pattern

/-! ### Whole seconds -/

/-- A time without the fraction of its second. -/
def Time.wholeSecond (t : Time) : Time :=
  ⟨t.hour, t.minute, t.second, 0, t.isTime.1, t.isTime.2.1, t.isTime.2.2.1, by decide⟩

/-- An instant without the fraction of its second. -/
def DateTime.wholeSecond (t : DateTime) : DateTime :=
  ⟨t.date, t.time.wholeSecond⟩

theorem DateTime.wholeSecond_eq_self_iff (t : DateTime) :
    t.wholeSecond = t ↔ t.time.nanosecond = 0 := by
  obtain ⟨d, h, m, s, k, ht⟩ := t
  constructor
  · intro heq
    exact (Time.mk.inj (DateTime.mk.inj heq).2).2.2.2.symm
  · intro hzero
    obtain rfl : k = 0 := hzero
    rfl

/-! ### Texts without blanks -/

/-- Three parts with marks between them have no blanks if none of them has. -/
theorem isBlank_of_mem_parts {mark : Char} {a b c : List Char} (hmark : Text.isBlank mark = false)
    (ha : ∀ x ∈ a, Text.isBlank x = false) (hb : ∀ x ∈ b, Text.isBlank x = false)
    (hc : ∀ x ∈ c, Text.isBlank x = false) :
    ∀ x ∈ a ++ mark :: (b ++ mark :: c), Text.isBlank x = false := by
  rw [List.forall_mem_append, List.forall_mem_cons, List.forall_mem_append, List.forall_mem_cons]
  exact ⟨ha, hmark, hb, hmark, hc⟩

/-- No character of the text of a day is a blank. -/
theorem Date.isBlank_of_mem_text (d : Date) : ∀ c ∈ d.text, Text.isBlank c = false :=
  isBlank_of_mem_parts rfl (fun _ => isBlank_of_mem_yearText) (fun _ => isBlank_of_mem_padded)
    fun _ => isBlank_of_mem_padded

/-- No character of the text of a time is a blank. -/
theorem Time.isBlank_of_mem_text (t : Time) : ∀ c ∈ t.text, Text.isBlank c = false :=
  isBlank_of_mem_parts rfl (fun _ => isBlank_of_mem_padded) (fun _ => isBlank_of_mem_padded)
    fun _ => isBlank_of_mem_padded

theorem Date.text_ne_nil (d : Date) : d.text ≠ [] :=
  fun h => yearText_ne_nil _ (List.append_eq_nil_iff.1 h).1

theorem Time.text_ne_nil (t : Time) : t.text ≠ [] :=
  fun h => padded_ne_nil _ _ (List.append_eq_nil_iff.1 h).1

/-- The text of an instant has one blank, which is not at its ends. -/
theorem DateTime.trim_text (t : DateTime) : Text.trim t.text = t.text := by
  rw [Text.trim_eq_self_iff, DateTime.text, List.head?_append_of_ne_nil _ t.date.text_ne_nil,
    List.append_cons, List.getLast?_append_of_ne_nil _ t.time.text_ne_nil]
  exact ⟨fun c hc => t.date.isBlank_of_mem_text c (List.mem_of_mem_head? hc),
    fun c hc => t.time.isBlank_of_mem_text c (List.mem_of_getLast? hc)⟩

/-! ### Days and instants are read -/

/-- **The text of a day is read as the day.** -/
theorem readDate?_text (d : Date) : readDate? d.text = some d := by
  have hfirst : (Pattern.ymd '-').date? d.text = some d := by
    have hread := Pattern.read?_ymd (p := []) {} d endsNumber_nil
    rw [List.append_nil, List.append_nil] at hread
    rw [Pattern.date?, hread]
    exact Date.of?_self d
  rw [readDate?, Pattern.dates, List.findSome?_cons, hfirst]

/-- **The text of an instant is read as the instant,** without the fraction of its second. -/
theorem readDateTime?_text (t : DateTime) : readDateTime? t.text = some t.wholeSecond := by
  have htime : Text.trimStart (' ' :: t.time.text) = t.time.text := by
    rw [Text.trimStart_cons_of_blank rfl, Text.trimStart_eq_self_iff]
    exact fun c hc => t.time.isBlank_of_mem_text c (List.mem_of_mem_head? hc)
  have hread : (Pattern.ymd '-' ++ .gap :: Pattern.hms).read? t.text {} =
      some { year := t.date.year, month := t.date.month, day := t.date.day, hour := t.time.hour,
             minute := t.time.minute, second := t.time.second } := by
    have hclock : ∀ fs, Pattern.hms.read? t.time.text fs =
        some { fs with hour := t.time.hour, minute := t.time.minute, second := t.time.second } := by
      intro fs
      have hms := Pattern.read?_hms (p := []) fs t.time endsNumber_nil
      rwa [List.append_nil, List.append_nil] at hms
    rw [DateTime.text, Pattern.read?_ymd _ t.date (endsNumber_cons rfl _), Pattern.read?, htime,
      hclock]
  have hfirst : (Pattern.ymd '-' ++ .gap :: Pattern.hms).dateTime? t.text = some t.wholeSecond := by
    have hdate := Date.of?_self t.date
    have hclock := Time.of?_self t.time.wholeSecond
    simp only [Time.wholeSecond] at hclock
    rw [Pattern.dateTime?, hread, Option.bind_some, Fields.dateTime?, Fields.date?, hdate, hclock]
    rfl
  rw [readDateTime?, Pattern.dateTimes, List.findSome?_cons, hfirst]

end OneTable
