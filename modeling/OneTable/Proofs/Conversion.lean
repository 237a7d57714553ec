import OneTable.Conversion
import OneTable.Inference
import OneTable.Proofs.Result
import OneTable.Proofs.Trimming
import OneTable.Proofs.Widening

/-!
# Cells that are recognised can be converted

A cell is judged twice. When the type of its column is recognised, it is asked whether it belongs
to a type; when it is read, it is taken apart by the reader of a type, and the value is carried
to where the path of the column leads. The second judgement is made by other rules than the first:
truth values may be written as digits then, braces and blanks are taken away from an identifier,
and an instant may lack its time. And it may be about another type, since the columns of several
items are read as one, whose type is wide enough for all of them.

So three things have to fit. What *belongs* to a type is read as a value of the type
(`OneTable.readPresent_of_accepts`). What belongs to a type is read as a value of every *wider*
type (`OneTable.ConversionPath.readSource_of_accepts`): all digits that are an integer are a float
as well, and a day is an instant at midnight. And a value of a type can be carried to wherever
the type *leads* (`OneTable.ConversionPath.exists_cast`).

* `OneTable.exists_readFloat_of_readInteger` – what is read as an integer is read as a float;
* `OneTable.ConversionPath.exists_convert` – **a cell that belongs to a type** is converted along
  every path that a wider type offers.
-/

namespace OneTable

/-! ### Integers are floats -/

/-- A character with a digit's value is a digit. -/
theorem isDigit_of_digitValue? {c : Char} {d : ℕ} (h : digitValue? c = some d) :
    isDigit c = true := by
  rw [digitValue?] at h
  split at h
  · next hc => simp [isDigit, hc.1, hc.2]
  · exact absurd h.symm (Option.some_ne_none d)

/-- What is read digit by digit is digits. -/
theorem all_isDigit_of_readDigits {negative : Bool} {cs : List Char} {n m : ℤ}
    (h : readDigits negative cs n = .ok m) : ∀ c ∈ cs, isDigit c = true := by
  induction cs generalizing n with
  | nil => exact fun c hc => absurd hc List.not_mem_nil
  | cons c cs ih =>
    rw [readDigits] at h
    rcases hdigit : digitValue? c with _ | d
    · rw [hdigit] at h
      exact absurd h error_ne_ok
    · simp only [hdigit] at h
      split at h
      · exact absurd h error_ne_ok
      · intro x hx
        rcases List.mem_cons.1 hx with rfl | hx
        · exact isDigit_of_digitValue? hdigit
        · exact ih h x hx

/-- Digits are a decimal number. -/
theorem exists_readMagnitude_of_digits {negative : Bool} {cs : List Char} (hne : cs ≠ [])
    (h : ∀ c ∈ cs, isDigit c = true) : ∃ x, readMagnitude negative cs = .ok x := by
  have hwhole : cs.takeWhile isDigit = cs := List.takeWhile_eq_self_iff.2 h
  have hrest : cs.dropWhile isDigit = [] := List.dropWhile_eq_nil_iff.2 h
  obtain ⟨d, hd⟩ : ∃ d, Decimal.read? cs = some d := by
    rw [Decimal.read?, hwhole, hrest]
    exact ⟨_, if_neg fun hc => hne hc.1⟩
  rw [readMagnitude, hd]
  split
  · exact ⟨_, rfl⟩
  · split
    · exact ⟨_, rfl⟩
    · exact ⟨_, rfl⟩

/-- The digits behind a sign, or without one, are the same for an integer and a float. -/
theorem exists_digits_of_readSigned {cs : List Char} {n : ℤ} (h : readSigned cs = .ok n) :
    ∃ negative ds, ds ≠ [] ∧ readDigits negative ds 0 = .ok n ∧
      readFloat cs = readMagnitude negative ds := by
  unfold readSigned at h
  split at h
  · exact absurd h error_ne_ok
  · exact absurd h error_ne_ok
  · exact absurd h error_ne_ok
  · next ds hne => exact ⟨false, ds, hne, h, rfl⟩
  · next ds hne => exact ⟨true, ds, hne, h, rfl⟩
  · next hnil _ _ hplus hminus =>
    refine ⟨false, cs, hnil, h, ?_⟩
    rw [readFloat]
    · exact hnil
    · exact hplus
    · exact hminus

/-- **What is read as an integer is read as a float.** -/
theorem exists_readFloat_of_readInteger {cs : List Char} {n : Int64}
    (h : readInteger cs = .ok n) : ∃ x, readFloat cs = .ok x := by
  obtain ⟨m, hsigned, -⟩ := map_eq_ok_iff.1 h
  obtain ⟨negative, ds, hne, hdigits, hfloat⟩ := exists_digits_of_readSigned hsigned
  rw [hfloat]
  exact exists_readMagnitude_of_digits hne (all_isDigit_of_readDigits hdigits)

/-! ### Cells that belong to a type -/

section Cells

variable {text : String} {t u : ColumnType}

/-- An integer is what is read as one. -/
theorem exists_readInteger_of_accepts {cs : List Char}
    (h : ColumnType.integer.accepts cs = true) : ∃ n, readInteger cs = .ok n := by
  rw [ColumnType.accepts] at h
  rcases hread : readInteger cs with fault | n
  · rw [hread] at h
    exact absurd h Bool.false_ne_true
  · exact ⟨n, rfl⟩

/-- A float is what is read as one. -/
theorem exists_readFloat_of_accepts {cs : List Char}
    (h : ColumnType.float.accepts cs = true) : ∃ x, readFloat cs = .ok x := by
  rw [ColumnType.accepts] at h
  rcases hread : readFloat cs with fault | x
  · rw [hread] at h
    exact absurd h Bool.false_ne_true
  · exact ⟨x, rfl⟩

/-- The words that make a column of truth values are words for truth values. -/
theorem exists_readBoolean?_of_accepts {cs : List Char}
    (h : ColumnType.boolean.accepts cs = true) : ∃ b, readBoolean? cs = some b := by
  have hwords : ∀ word ∈ truthWords, word ∈ ["true", "t", "yes", "y", "1"] ∨
      word ∈ ["false", "f", "no", "n", "0"] := by decide
  rw [readBoolean?]
  rcases hwords _ (List.contains_iff_mem.1 h) with hword | hword
  · exact ⟨true, if_pos hword⟩
  · by_cases htrue : String.ofList (Text.lower cs) ∈ ["true", "t", "yes", "y", "1"]
    · exact ⟨true, if_pos htrue⟩
    · exact ⟨false, (if_neg htrue).trans (if_pos hword)⟩

/-- **A cell that belongs to a type is a value of the type.** -/
theorem readPresent_of_accepts (h : t.accepts (Text.trim text.toList) = true) :
    ∃ v, readPresent text t = .ok v ∧ v.type = t := by
  cases t with
  | string => exact ⟨.string text, rfl, rfl⟩
  | integer =>
    obtain ⟨n, hn⟩ := exists_readInteger_of_accepts h
    exact ⟨.integer n, by rw [readPresent, hn]; rfl, rfl⟩
  | float =>
    obtain ⟨x, hx⟩ := exists_readFloat_of_accepts h
    exact ⟨.float x, by rw [readPresent, hx]; rfl, rfl⟩
  | boolean =>
    obtain ⟨b, hb⟩ := exists_readBoolean?_of_accepts h
    exact ⟨.boolean b, by rw [readPresent, hb]; rfl, rfl⟩
  | date =>
    rw [ColumnType.accepts] at h
    obtain ⟨d, hd⟩ := Option.isSome_iff_exists.1 h
    exact ⟨.date d, by rw [readPresent, hd]; rfl, rfl⟩
  | dateTime =>
    rw [ColumnType.accepts] at h
    obtain ⟨d, hd⟩ := Option.isSome_iff_exists.1 h
    exact ⟨.dateTime d, by rw [readPresent, hd]; rfl, rfl⟩
  | guid =>
    -- the braces are taken away behind the blanks, and these are taken away once
    have htrim : readGuid? (Text.trim text.toList) = readGuid? text.toList := by
      rw [readGuid?, unbraced, Text.trim_trim, readGuid?, unbraced]
    rw [ColumnType.accepts] at h
    obtain ⟨g, hg⟩ := Option.isSome_iff_exists.1 h
    exact ⟨.guid g, by rw [readPresent, ← htrim, hg]; rfl, rfl⟩

/-! ### Cells as values of wider types -/

namespace ConversionPath

/-- A cell that speaks is not empty. -/
theorem ne_empty_of_speaks (hspeaks : Text.trim text.toList ≠ []) : text ≠ "" := by
  rintro rfl
  exact hspeaks rfl

/-- A cell that is a value of a type is read as this value where the type is the source. -/
theorem readSource_of_readPresent {v : Value} (hne : text ≠ "") (h : readPresent text t = .ok v) :
    readSource text t = .ok (some v) := by
  rw [readSource, readCell, if_neg hne, h]
  rfl

/-- A day is an instant at midnight, unless it is read as another instant. -/
theorem exists_readSource_of_date {d : Date} (hne : text ≠ "")
    (h : readDate? (Text.trim text.toList) = some d) :
    ∃ v, readSource text .dateTime = .ok (some v) ∧ v.type = .dateTime := by
  rcases hinstant : readDateTime? (Text.trim text.toList) with _ | instant
  · refine ⟨.dateTime d.atMidnight, ?_, rfl⟩
    rw [readSource, readCell, if_neg hne, readPresent, hinstant, h]
    rfl
  · refine ⟨.dateTime instant, readSource_of_readPresent hne ?_, rfl⟩
    rw [readPresent, hinstant]
    rfl

/-- **A cell that belongs to a type is a value of every wider type.** -/
theorem readSource_of_accepts (hspeaks : Text.trim text.toList ≠ [])
    (h : t.accepts (Text.trim text.toList) = true) (hwide : t.WidensTo u) :
    ∃ v, readSource text u = .ok (some v) ∧ v.type = u := by
  have hne := ne_empty_of_speaks hspeaks
  have hself : ∀ s : ColumnType, s.accepts (Text.trim text.toList) = true →
      ∃ v, readSource text s = .ok (some v) ∧ v.type = s := by
    intro s hs
    obtain ⟨v, hv, htype⟩ := readPresent_of_accepts hs
    exact ⟨v, readSource_of_readPresent hne hv, htype⟩
  rcases ColumnType.widensTo_iff.1 hwide with rfl | rfl | ⟨rfl, rfl⟩ | ⟨rfl, rfl⟩
  · exact hself _ h
  · exact hself .string rfl
  · obtain ⟨n, hn⟩ := exists_readInteger_of_accepts h
    obtain ⟨x, hx⟩ := exists_readFloat_of_readInteger hn
    exact hself .float (by rw [ColumnType.accepts, hx]; rfl)
  · rw [ColumnType.accepts] at h
    obtain ⟨d, hd⟩ := Option.isSome_iff_exists.1 h
    exact exists_readSource_of_date hne hd

/-! ### Paths -/

/-- **A value can be carried to wherever its type leads.** -/
theorem exists_cast {v : Value} {d : ColumnType} (hd : d ∈ v.type.destinations)
    (hstring : d ≠ .string) : ∃ w, Value.cast v d = .ok w := by
  cases v with
  | string s => exact absurd (List.mem_singleton.1 hd) hstring
  | integer n =>
    have hled : d = .integer ∨ d = .float := by
      simpa [Value.type, ColumnType.destinations, hstring] using hd
    rcases hled with rfl | rfl
    · exact ⟨_, rfl⟩
    · exact ⟨_, rfl⟩
  | float x =>
    have hled : d = .float := by simpa [Value.type, ColumnType.destinations, hstring] using hd
    subst hled
    exact ⟨_, rfl⟩
  | boolean b =>
    have hled : d = .boolean ∨ d = .integer := by
      simpa [Value.type, ColumnType.destinations, hstring] using hd
    rcases hled with rfl | rfl
    · exact ⟨_, rfl⟩
    · exact ⟨_, rfl⟩
  | date day =>
    have hled : d = .date ∨ d = .dateTime := by
      simpa [Value.type, ColumnType.destinations, hstring] using hd
    rcases hled with rfl | rfl
    · exact ⟨_, rfl⟩
    · exact ⟨_, rfl⟩
  | dateTime instant =>
    have hled : d = .dateTime ∨ d = .date := by
      simpa [Value.type, ColumnType.destinations, hstring] using hd
    rcases hled with rfl | rfl
    · exact ⟨_, rfl⟩
    · exact ⟨_, rfl⟩
  | guid g =>
    have hled : d = .guid := by simpa [Value.type, ColumnType.destinations, hstring] using hd
    subst hled
    exact ⟨_, rfl⟩

/-- **A cell that belongs to a type is converted along every path that a wider type offers.** -/
theorem exists_convert {path : ConversionPath} (hspeaks : Text.trim text.toList ≠ [])
    (h : t.accepts (Text.trim text.toList) = true) (hwide : t.WidensTo u)
    (hpath : path ∈ available u) : ∃ v, path.convert text = .ok (some v) := by
  obtain ⟨d, hd, rfl⟩ := List.mem_map.1 hpath
  have hne := ne_empty_of_speaks hspeaks
  rw [convert, if_neg hne, between_destination, between_source]
  by_cases hstring : d = .string
  · exact ⟨.string text, if_pos hstring⟩
  · obtain ⟨v, hv, rfl⟩ := readSource_of_accepts hspeaks h hwide
    obtain ⟨w, hw⟩ := exists_cast hd hstring
    refine ⟨w, ?_⟩
    rw [if_neg hstring, hv]
    exact map_eq_ok_iff.2 ⟨w, hw, rfl⟩

end ConversionPath

end Cells

end OneTable
