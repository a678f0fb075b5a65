import Era.Lib.Calendar
import Era.Lib.FixedWidth

/-!
# UTC timestamps

Timestamps are stored as ISO-8601 strings and compared as strings.  The order of
these strings is the order of the instants they were printed from, although the
fraction of a second is left out when it is zero.
-/

namespace Era.Core

open Era.Lib Era.Lib.Calendar

/-- An aware UTC `datetime`, in microseconds since the first day of year one. -/
structure Instant where
  microseconds : Nat
  inRange : microseconds < 3652059 * 86400000000

theorem zero_inRange : 0 < 3652059 * 86400000000 := by decide

/-! ## Printing and reading -/

/-- The fraction of a second, left out when it is zero. -/
def isoFraction (microsecond : Nat) : List Char :=
  if microsecond = 0 then [] else '.' :: fixedDigits 6 microsecond

/-- The text of a date and a time of day, with the offset of UTC. -/
def isoText (date : Date) (hour minute second microsecond : Nat) : List Char :=
  fixedDigits 4 date.year ++ '-' :: (fixedDigits 2 date.month ++ '-' ::
    (fixedDigits 2 date.day ++ 'T' :: (fixedDigits 2 hour ++ ':' ::
      (fixedDigits 2 minute ++ ':' :: (fixedDigits 2 second ++
        (isoFraction microsecond ++ ['+', '0', '0', ':', '0', '0']))))))

namespace Instant

def days (instant : Instant) : Nat := instant.microseconds / 1000000 / 60 / 60 / 24

def hour (instant : Instant) : Nat := instant.microseconds / 1000000 / 60 / 60 % 24

def minute (instant : Instant) : Nat := instant.microseconds / 1000000 / 60 % 60

def second (instant : Instant) : Nat := instant.microseconds / 1000000 % 60

def microsecond (instant : Instant) : Nat := instant.microseconds % 1000000

/-- `datetime.isoformat`. -/
def isoformat (instant : Instant) : String :=
  String.ofList (isoText (dateOfDays instant.days) instant.hour instant.minute
    instant.second instant.microsecond)

/-- The instant so many microseconds after the first, inside the calendar. -/
def ofMicroseconds? (microseconds : Nat) : Option Instant :=
  if inRange : microseconds < 3652059 * 86400000000 then some { microseconds, inRange }
  else none

/-- `datetime + timedelta(seconds=...)`; a result outside the calendar raises. -/
def addSeconds (instant : Instant) (seconds : Int) : Option Instant :=
  let shifted := instant.microseconds + seconds * 1000000
  if 0 ≤ shifted then ofMicroseconds? shifted.toNat else none

end Instant

/-- `utcnow_iso`, at a given instant. -/
def utcnowIso (now : Instant) : String := now.isoformat

/-- Read the offset of UTC. -/
def readOffset (text : List Char) : Option Unit :=
  if text = ['+', '0', '0', ':', '0', '0'] then some () else none

/-- Read the fraction of a second and the offset. -/
def readFraction (text : List Char) : Option Nat :=
  match readChar '.' text with
  | some rest => do
      let (microsecond, offset) ← readFixed 6 rest
      readOffset offset
      return microsecond
  | none => do
      readOffset text
      return 0

/-- The fields of a timestamp. -/
structure IsoFields where
  date : Date
  hour : Nat
  minute : Nat
  second : Nat
  microsecond : Nat

/-- Read the format that `isoformat` prints. -/
def readIso (text : List Char) : Option IsoFields := do
  let (year, rest) ← readFixed 4 text
  let (month, rest) ← readFixed 2 (← readChar '-' rest)
  let (day, rest) ← readFixed 2 (← readChar '-' rest)
  let (hour, rest) ← readFixed 2 (← readChar 'T' rest)
  let (minute, rest) ← readFixed 2 (← readChar ':' rest)
  let (second, rest) ← readFixed 2 (← readChar ':' rest)
  let microsecond ← readFraction rest
  return { date := { year, month, day }, hour, minute, second, microsecond }

/-- `datetime.fromisoformat`, for the format that `isoformat` prints; any other
text is refused. -/
def fromIsoformat (text : String) : Option Instant := do
  let fields ← readIso text.toList
  Instant.ofMicroseconds? ((((daysOfDate fields.date * 24 + fields.hour) * 60 +
    fields.minute) * 60 + fields.second) * 1000000 + fields.microsecond)

/-- `_add_seconds`; `none` stands for its exceptions. -/
def addSeconds (iso : String) (seconds : Int) : Option String := do
  let instant ← fromIsoformat iso
  let shifted ← instant.addSeconds seconds
  return shifted.isoformat

/-! ## Order -/

theorem isoFraction_lt_iff {left right : Nat} (leftBound : left < 10 ^ 6)
    (rightBound : right < 10 ^ 6) :
    isoFraction left ++ ['+', '0', '0', ':', '0', '0'] <
        isoFraction right ++ ['+', '0', '0', ':', '0', '0'] ↔ left < right := by
  have plusBeforeDot : '+' < '.' := by decide
  have dotAfterPlus : ¬('.' < '+') := by decide
  by_cases leftZero : left = 0 <;> by_cases rightZero : right = 0
  · simp [isoFraction, leftZero, rightZero]
  · simp only [isoFraction, leftZero, rightZero, if_true, if_false, List.nil_append,
      List.cons_append, List.cons_lt_cons_iff, plusBeforeDot, true_or, true_iff]
    omega
  · simp [isoFraction, leftZero, rightZero, List.cons_lt_cons_iff, dotAfterPlus]
  · simp only [isoFraction, leftZero, rightZero, if_false, List.cons_append,
      List.cons_lt_cons_self]
    rw [fixedDigits_append_lt_iff leftBound rightBound]
    simp

/-- The bounds within which the fields of a timestamp keep their widths. -/
structure FieldBounds (date : Date) (hour minute second microsecond : Nat) : Prop where
  year : date.year < 10 ^ 4
  month : date.month < 10 ^ 2
  day : date.day < 10 ^ 2
  hour : hour < 10 ^ 2
  minute : minute < 10 ^ 2
  second : second < 10 ^ 2
  microsecond : microsecond < 10 ^ 6

/-- Texts of timestamps are ordered by their fields. -/
theorem isoText_lt_iff {leftDate rightDate : Date}
    {leftHour leftMinute leftSecond leftMicrosecond : Nat}
    {rightHour rightMinute rightSecond rightMicrosecond : Nat}
    (left : FieldBounds leftDate leftHour leftMinute leftSecond leftMicrosecond)
    (right : FieldBounds rightDate rightHour rightMinute rightSecond rightMicrosecond) :
    isoText leftDate leftHour leftMinute leftSecond leftMicrosecond <
        isoText rightDate rightHour rightMinute rightSecond rightMicrosecond ↔
      leftDate.Before rightDate ∨ leftDate = rightDate ∧
        (leftHour < rightHour ∨ leftHour = rightHour ∧
          (leftMinute < rightMinute ∨ leftMinute = rightMinute ∧
            (leftSecond < rightSecond ∨ leftSecond = rightSecond ∧
              leftMicrosecond < rightMicrosecond))) := by
  simp only [isoText]
  rw [fixedDigits_append_lt_iff left.year right.year, List.cons_lt_cons_self,
    fixedDigits_append_lt_iff left.month right.month, List.cons_lt_cons_self,
    fixedDigits_append_lt_iff left.day right.day, List.cons_lt_cons_self,
    fixedDigits_append_lt_iff left.hour right.hour, List.cons_lt_cons_self,
    fixedDigits_append_lt_iff left.minute right.minute, List.cons_lt_cons_self,
    fixedDigits_append_lt_iff left.second right.second,
    isoFraction_lt_iff left.microsecond right.microsecond, Date.before_or_eq_and_iff]

theorem Instant.days_lt (instant : Instant) : instant.days < 3652059 := by
  have range := instant.inRange
  simp only [Instant.days, Nat.div_div_eq_div_mul]
  omega

theorem Instant.fieldBounds (instant : Instant) :
    FieldBounds (dateOfDays instant.days) instant.hour instant.minute instant.second
      instant.microsecond := by
  have valid := dateOfDays_valid instant.days
  have year_le := dateOfDays_year_le instant.days_lt
  have month_le := valid.month_le
  have day_le := valid.day_le_31
  exact {
    year := by omega
    month := by omega
    day := by omega
    hour := (Nat.mod_lt _ (by decide)).trans (show 24 < 10 ^ 2 by decide)
    minute := (Nat.mod_lt _ (by decide)).trans (show 60 < 10 ^ 2 by decide)
    second := (Nat.mod_lt _ (by decide)).trans (show 60 < 10 ^ 2 by decide)
    microsecond := Nat.mod_lt _ (by decide) }

/-- Timestamps are ordered like instants. -/
theorem Instant.isoformat_lt_iff (left right : Instant) :
    left.isoformat < right.isoformat ↔ left.microseconds < right.microseconds := by
  change left.isoformat.toList < right.isoformat.toList ↔ _
  simp only [Instant.isoformat, String.toList_ofList]
  rw [isoText_lt_iff left.fieldBounds right.fieldBounds, dateOfDays_before_iff, dateOfDays_inj]
  simp only [Instant.days, Instant.hour, Instant.minute, Instant.second, Instant.microsecond,
    div_mod_lt_or_eq_and_iff, div_mod_lt_iff]

theorem Instant.isoformat_le_iff (left right : Instant) :
    left.isoformat ≤ right.isoformat ↔ left.microseconds ≤ right.microseconds := by
  rw [← String.not_lt, ← Nat.not_lt, Instant.isoformat_lt_iff]

theorem Instant.isoformat_inj (left right : Instant) :
    left.isoformat = right.isoformat ↔ left.microseconds = right.microseconds := by
  constructor
  · intro same
    have notBefore := left.isoformat_lt_iff right
    have notAfter := right.isoformat_lt_iff left
    rw [same] at notBefore notAfter
    simp only [String.lt_irrefl, false_iff] at notBefore notAfter
    omega
  · intro same
    simp only [Instant.isoformat, Instant.days, Instant.hour, Instant.minute, Instant.second,
      Instant.microsecond, same]

/-- The comparison `utcnow_iso() > expires_at` compares instants. -/
theorem utcnowIso_gt_iff (now expires : Instant) :
    expires.isoformat < utcnowIso now ↔ expires.microseconds < now.microseconds :=
  Instant.isoformat_lt_iff expires now

/-! ## Round trip -/

theorem readFraction_isoFraction {microsecond : Nat} (bound : microsecond < 10 ^ 6) :
    readFraction (isoFraction microsecond ++ ['+', '0', '0', ':', '0', '0']) =
      some microsecond := by
  by_cases whole : microsecond = 0
  · subst whole
    rfl
  · simp only [isoFraction, whole, if_false, List.cons_append, readFraction, readChar_cons,
      readFixed_fixedDigits bound]
    rfl

theorem readIso_isoText {date : Date} {hour minute second microsecond : Nat}
    (bounds : FieldBounds date hour minute second microsecond) :
    readIso (isoText date hour minute second microsecond) =
      some { date, hour, minute, second, microsecond } := by
  simp only [readIso, isoText, readFixed_fixedDigits bounds.year,
    readFixed_fixedDigits bounds.month, readFixed_fixedDigits bounds.day,
    readFixed_fixedDigits bounds.hour, readFixed_fixedDigits bounds.minute,
    readFixed_fixedDigits bounds.second, readChar_cons,
    readFraction_isoFraction bounds.microsecond, Option.bind_eq_bind, Option.bind_some]
  rfl

theorem Instant.ofMicroseconds?_self (instant : Instant) :
    Instant.ofMicroseconds? instant.microseconds = some instant := by
  simp only [Instant.ofMicroseconds?, instant.inRange, dif_pos]

/-- The fields of an instant make it up again. -/
theorem Instant.recombined (instant : Instant) :
    (((daysOfDate (dateOfDays instant.days) * 24 + instant.hour) * 60 + instant.minute) * 60 +
      instant.second) * 1000000 + instant.microsecond = instant.microseconds := by
  rw [daysOfDate_dateOfDays, Instant.days, Instant.hour, Nat.div_add_mod', Instant.minute,
    Nat.div_add_mod', Instant.second, Nat.div_add_mod', Instant.microsecond, Nat.div_add_mod']

/-- `fromisoformat` inverts `isoformat`. -/
theorem fromIsoformat_isoformat (instant : Instant) :
    fromIsoformat instant.isoformat = some instant := by
  rw [fromIsoformat, Instant.isoformat, String.toList_ofList,
    readIso_isoText instant.fieldBounds, Option.bind_eq_bind, Option.bind_some]
  rw [instant.recombined, Instant.ofMicroseconds?_self]

/-- What `_add_seconds` makes of a printed timestamp. -/
theorem addSeconds_isoformat (instant : Instant) (seconds : Int) :
    addSeconds instant.isoformat seconds =
      (instant.addSeconds seconds).map Instant.isoformat := by
  simp only [addSeconds, fromIsoformat_isoformat, Option.bind_eq_bind, Option.bind_some]
  cases instant.addSeconds seconds <;> rfl

theorem Instant.addSeconds_microseconds {instant shifted : Instant} {seconds : Int}
    (added : instant.addSeconds seconds = some shifted) :
    (shifted.microseconds : Int) = instant.microseconds + seconds * 1000000 := by
  simp only [Instant.addSeconds, Instant.ofMicroseconds?] at added
  split at added
  next nonneg =>
    split at added
    · obtain rfl := Option.some.inj added
      exact Int.toNat_of_nonneg nonneg
    · simp at added
  · simp at added

/-- `_add_seconds` raises for the instants outside the calendar, and for no other. -/
theorem Instant.addSeconds_eq_none {instant : Instant} {seconds : Int} :
    instant.addSeconds seconds = none ↔
      instant.microseconds + seconds * 1000000 < 0 ∨
        3652059 * 86400000000 ≤ instant.microseconds + seconds * 1000000 := by
  simp only [Instant.addSeconds, Instant.ofMicroseconds?]
  split
  next nonneg =>
    split
    · simp only [reduceCtorEq, false_iff]
      omega
    · simp only [true_iff]
      omega
  next negative =>
    simp only [true_iff]
    omega

end Era.Core
