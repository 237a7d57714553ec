import OneTable.Calendar.Date
import OneTable.Number.Decimal
import OneTable.Text.Blank

/-!
# Reading dates by patterns

A pattern is a list of items that are matched from left to right: numeric fields,
single characters, gaps and the fraction of a second. A numeric field first skips
blanks and then takes at least one digit and at most as many as its width; a year
may have a sign, and with a sign it takes every digit there is. A gap matches any
run of blanks, the empty one too. A text matches a pattern when the items use it
up, and the fields then have to name a day of the calendar.

* `OneTable.Pattern` – lists of items;
* `OneTable.Pattern.read?` – the fields a text gives to a pattern;
* `OneTable.readDate?`, `OneTable.readDateTime?` – the first pattern of a list that
  fits wins.
-/

namespace OneTable

/-- A numeric field of a date or of a time. -/
inductive Field
  | year
  | month
  | day
  | hour
  | minute
  | second
deriving DecidableEq

/-- An item of a pattern. -/
inductive PatternItem
  | field (f : Field)
  | mark (c : Char)
  | gap
  | fraction
deriving DecidableEq

/-- A pattern is matched item by item. -/
abbrev Pattern := List PatternItem

/-- The fields that have been read; what a pattern does not mention is zero. -/
structure Fields where
  year : Int := 0
  month : Nat := 0
  day : Nat := 0
  hour : Nat := 0
  minute : Nat := 0
  second : Nat := 0
  nanosecond : Nat := 0
deriving DecidableEq

/-! ### Matching one item -/

/-- The leading digits of a text, at most `width` of them, with their value and what
follows; at least one has to be there. -/
def takeNumber (width : Nat) (cs : List Char) : Option (Nat × List Char) :=
  let ds := (cs.takeWhile isDigit).take width
  if ds = [] then none else some (digitsValue ds, cs.drop ds.length)

/-- A year: with a sign it has any number of digits, without one at most four. -/
def takeYear (cs : List Char) : Option (Int × List Char) :=
  match cs with
  | '-' :: r => (takeNumber r.length r).map fun (n, rest) => (-(n : Int), rest)
  | '+' :: r => (takeNumber r.length r).map fun (n, rest) => ((n : Int), rest)
  | r => (takeNumber 4 r).map fun (n, rest) => ((n : Int), rest)

/-- A numeric field, into the fields read so far. -/
def Fields.take (fs : Fields) (f : Field) (cs : List Char) : Option (Fields × List Char) :=
  let cs := Text.trimStart cs
  match f with
  | .year => (takeYear cs).map fun (n, r) => ({ fs with year := n }, r)
  | .month => (takeNumber 2 cs).map fun (n, r) => ({ fs with month := n }, r)
  | .day => (takeNumber 2 cs).map fun (n, r) => ({ fs with day := n }, r)
  | .hour => (takeNumber 2 cs).map fun (n, r) => ({ fs with hour := n }, r)
  | .minute => (takeNumber 2 cs).map fun (n, r) => ({ fs with minute := n }, r)
  | .second => (takeNumber 2 cs).map fun (n, r) => ({ fs with second := n }, r)

/-- The fraction of a second: nothing, or a point and digits, of which the first nine
count. -/
def Fields.takeFraction (fs : Fields) (cs : List Char) : Option (Fields × List Char) :=
  match cs with
  | '.' :: r =>
    let ds := r.takeWhile isDigit
    let kept := ds.take 9
    if ds = [] then none
    else some ({ fs with nanosecond := digitsValue kept * Nat.pow 10 (9 - kept.length) },
      r.drop ds.length)
  | _ => some (fs, cs)

/-! ### Matching a pattern -/

/-- **The fields a text gives to a pattern,** when the pattern uses the text up. -/
def Pattern.read? : Pattern → List Char → Fields → Option Fields
  | [], cs, fs => if cs = [] then some fs else none
  | .field f :: p, cs, fs => (fs.take f cs).bind fun (fs, r) => Pattern.read? p r fs
  | .mark c :: p, cs, fs =>
    match cs with
    | [] => none
    | d :: r => if d = c then Pattern.read? p r fs else none
  | .gap :: p, cs, fs => Pattern.read? p (Text.trimStart cs) fs
  | .fraction :: p, cs, fs => (fs.takeFraction cs).bind fun (fs, r) => Pattern.read? p r fs

/-- The day of the fields. -/
def Fields.date? (fs : Fields) : Option Date :=
  Date.of? fs.year fs.month fs.day

/-- The instant of the fields. -/
def Fields.dateTime? (fs : Fields) : Option DateTime :=
  match fs.date?, Time.of? fs.hour fs.minute fs.second fs.nanosecond with
  | some d, some t => some ⟨d, t⟩
  | _, _ => none

/-- A day by one pattern. -/
def Pattern.date? (p : Pattern) (cs : List Char) : Option Date :=
  (p.read? cs {}).bind Fields.date?

/-- An instant by one pattern. -/
def Pattern.dateTime? (p : Pattern) (cs : List Char) : Option DateTime :=
  (p.read? cs {}).bind Fields.dateTime?

/-! ### The patterns of cells -/

namespace Pattern

/-- Year, month and day with a character between them. -/
def ymd (c : Char) : Pattern := [.field .year, .mark c, .field .month, .mark c, .field .day]

/-- Day, month and year with a character between them. -/
def dmy (c : Char) : Pattern := [.field .day, .mark c, .field .month, .mark c, .field .year]

/-- Month, day and year with a character between them. -/
def mdy (c : Char) : Pattern := [.field .month, .mark c, .field .day, .mark c, .field .year]

/-- Hour and minute. -/
def hm : Pattern := [.field .hour, .mark ':', .field .minute]

/-- Hour, minute and second. -/
def hms : Pattern := hm ++ [.mark ':', .field .second]

/-- The patterns of date cells, in the order in which they are tried: a day comes
before its month unless only the other reading is a date. -/
def dates : List Pattern := [ymd '-', dmy '/', mdy '/', ymd '/', dmy '-']

/-- The patterns of cells that hold a date and a time. -/
def dateTimes : List Pattern :=
  [ymd '-' ++ .gap :: hms,
    ymd '-' ++ .mark 'T' :: hms,
    ymd '-' ++ .mark 'T' :: hms ++ [.fraction],
    ymd '-' ++ .mark 'T' :: hms ++ [.mark 'Z'],
    dmy '/' ++ .gap :: hms,
    mdy '/' ++ .gap :: hms,
    ymd '-' ++ .gap :: hm,
    ymd '-' ++ .mark 'T' :: hm]

end Pattern

/-- **Reads a date** by the first pattern that fits. -/
def readDate? (cs : List Char) : Option Date :=
  Pattern.dates.findSome? fun p => p.date? cs

/-- **Reads an instant** by the first pattern that fits. -/
def readDateTime? (cs : List Char) : Option DateTime :=
  Pattern.dateTimes.findSome? fun p => p.dateTime? cs

end OneTable
