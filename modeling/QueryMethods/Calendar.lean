/-
Calendar dates, times of day and time stamps of the Gregorian calendar, with their text forms.
A fraction of a second is written with three, six or nine digits, the fewest that are exact.
-/
import QueryMethods.Text.Basic

namespace QueryMethods

/-! ## Dates -/

namespace Calendar

def isLeapYear (year : Int) : Bool := year % 4 = 0 && (year % 100 ≠ 0 || year % 400 = 0)

def daysInMonth (year : Int) (month : Nat) : Nat :=
  if month = 2 then (if isLeapYear year then 29 else 28)
  else if month = 4 ∨ month = 6 ∨ month = 9 ∨ month = 11 then 30
  else 31

end Calendar

/-- A date of the calendar. -/
structure Date where
  year : Int
  month : Nat
  day : Nat
  month_mem : 1 ≤ month ∧ month ≤ 12
  day_mem : 1 ≤ day ∧ day ≤ Calendar.daysInMonth year month
  deriving DecidableEq, Repr

namespace Date

/-- The date of that year, month and day, if there is one. -/
def of? (year : Int) (month day : Nat) : Option Date :=
  if h : (1 ≤ month ∧ month ≤ 12) ∧ 1 ≤ day ∧ day ≤ Calendar.daysInMonth year month then
    some ⟨year, month, day, h.1, h.2⟩
  else none

/-- The first of January 1970. -/
def epoch : Date := ⟨1970, 1, 1, by decide, by decide⟩

instance : Inhabited Date := ⟨epoch⟩

/-- Years have four digits; outside 0 to 9999 they carry a sign. -/
def yearText (year : Int) : List Char :=
  if 0 ≤ year ∧ year ≤ 9999 then padded 4 year.toNat
  else (if year < 0 then '-' else '+') :: padded 4 year.natAbs

/-- The text `year-month-day`. -/
def text (d : Date) : String :=
  String.ofList (yearText d.year ++ '-' :: padded 2 d.month ++ '-' :: padded 2 d.day)

/-- Read `year-month-day`. -/
def ofChars? (cs : List Char) : Option Date := do
  let (negative, rest) := match cs with
    | '-' :: rest => (true, rest)
    | '+' :: rest => (false, rest)
    | rest => (false, rest)
  let year ← digits? (rest.takeWhile (· ≠ '-'))
  let rest := (rest.dropWhile (· ≠ '-')).drop 1
  let month ← digits? (rest.takeWhile (· ≠ '-'))
  let day ← digits? ((rest.dropWhile (· ≠ '-')).drop 1)
  of? (if negative then -year else year) month day

def ofText? (s : String) : Option Date := ofChars? s.toList

/-- Earlier dates come first. -/
def compare (a b : Date) : Ordering :=
  (Ord.compare a.year b.year).then ((Ord.compare a.month b.month).then (Ord.compare a.day b.day))

end Date

/-! ## Times of day -/

/-- A time of day to the nanosecond; a leap second has the number 60. -/
structure TimeOfDay where
  hour : Nat
  minute : Nat
  second : Nat
  nanosecond : Nat
  hour_lt : hour < 24
  minute_lt : minute < 60
  second_le : second ≤ 60
  nanosecond_lt : nanosecond < 1000000000
  deriving DecidableEq, Repr

namespace TimeOfDay

/-- The time with those parts, if there is one. -/
def of? (hour minute second nanosecond : Nat) : Option TimeOfDay :=
  if h : hour < 24 ∧ minute < 60 ∧ second ≤ 60 ∧ nanosecond < 1000000000 then
    some ⟨hour, minute, second, nanosecond, h.1, h.2.1, h.2.2.1, h.2.2.2⟩
  else none

def midnight : TimeOfDay := ⟨0, 0, 0, 0, by decide, by decide, by decide, by decide⟩

instance : Inhabited TimeOfDay := ⟨midnight⟩

/-- The fraction of a second, with its point; nothing for a whole second. -/
def fractionText (nanosecond : Nat) : List Char :=
  if nanosecond = 0 then []
  else if nanosecond % 1000000 = 0 then '.' :: padded 3 (nanosecond / 1000000)
  else if nanosecond % 1000 = 0 then '.' :: padded 6 (nanosecond / 1000)
  else '.' :: padded 9 nanosecond

/-- The text `hour:minute:second`, with a fraction if there is one. -/
def chars (t : TimeOfDay) : List Char :=
  padded 2 t.hour ++ ':' :: padded 2 t.minute ++ ':' :: padded 2 t.second ++
    fractionText t.nanosecond

def text (t : TimeOfDay) : String := String.ofList t.chars

/-- Read `hour:minute:second` with any number of digits in the fraction; digits beyond the ninth
are dropped. -/
def ofChars? (cs : List Char) : Option TimeOfDay := do
  let hour ← digits? (cs.takeWhile (· ≠ ':'))
  let rest := (cs.dropWhile (· ≠ ':')).drop 1
  let minute ← digits? (rest.takeWhile (· ≠ ':'))
  let rest := (rest.dropWhile (· ≠ ':')).drop 1
  let second ← digits? (rest.takeWhile (· ≠ '.'))
  let nanosecond ← match rest.dropWhile (· ≠ '.') with
    | [] => some 0
    | _ :: fraction => do
      let _ ← digits? fraction
      let kept := fraction.take 9
      digits? (kept ++ List.replicate (9 - kept.length) '0')
  of? hour minute second nanosecond

def ofText? (s : String) : Option TimeOfDay := ofChars? s.toList

/-- Earlier times come first. -/
def compare (a b : TimeOfDay) : Ordering :=
  (Ord.compare a.hour b.hour).then ((Ord.compare a.minute b.minute).then
    ((Ord.compare a.second b.second).then (Ord.compare a.nanosecond b.nanosecond)))

end TimeOfDay

/-! ## Time stamps -/

/-- A date with a time of day. -/
structure Timestamp where
  date : Date
  time : TimeOfDay
  deriving DecidableEq, Repr, Inhabited

namespace Timestamp

/-- The date, `separator`, the time. -/
def textWith (separator : Char) (ts : Timestamp) : String :=
  String.ofList (ts.date.text.toList ++ separator :: ts.time.chars)

/-- The text for reading: a space between date and time. -/
def text (ts : Timestamp) : String := ts.textWith ' '

/-- The text for interchange: `T` between date and time. -/
def isoText (ts : Timestamp) : String := ts.textWith 'T'

/-- Read the interchange form. -/
def ofText? (s : String) : Option Timestamp := do
  let cs := s.toList
  let date ← Date.ofChars? (cs.takeWhile (· ≠ 'T'))
  let time ← TimeOfDay.ofChars? ((cs.dropWhile (· ≠ 'T')).drop 1)
  pure ⟨date, time⟩

/-- Earlier stamps come first. -/
def compare (a b : Timestamp) : Ordering := (a.date.compare b.date).then (a.time.compare b.time)

end Timestamp

end QueryMethods
