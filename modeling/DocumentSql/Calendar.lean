/-
Dates, times of day and moments, read from and written in ISO form.

A time may carry the offset of its zone from universal time; two moments that carry one are the
same when they agree in universal time.
-/
import DocumentSql.Text.Digit
import DocumentSql.Text.Cut

namespace DocumentSql

/-- A day of the calendar. -/
structure Date where
  /-- The year. -/
  year : Nat
  /-- The month, from one. -/
  month : Nat
  /-- The day of the month, from one. -/
  day : Nat
deriving DecidableEq, Inhabited

/-- A time of day. -/
structure TimeOfDay where
  /-- The hour. -/
  hour : Nat
  /-- The minute. -/
  minute : Nat
  /-- The second. -/
  second : Nat
  /-- The microsecond. -/
  micro : Nat
  /-- The offset of the zone from universal time, in microseconds. -/
  offset : Option Int
deriving DecidableEq, Inhabited

/-- A day and a time of day. -/
structure Moment where
  /-- The day. -/
  date : Date
  /-- The time of the day. -/
  time : TimeOfDay
deriving DecidableEq, Inhabited

namespace Calendar

/-- A fixed number of digits at the start of a text, and the rest. -/
def takeDigits? (count : Nat) (cs : List Char) : Option (Nat × List Char) :=
  let ds := cs.take count
  if ds.length == count && ds.all Char.isDigit then
    some (Text.digitsValue 0 ds, cs.drop count)
  else none

/-- A mark at the start of a text is passed over. -/
def skipMark (mark : Char) : List Char → List Char
  | [] => []
  | c :: cs => if c == mark then cs else c :: cs

/-- Six digits of a fraction of a second; missing ones are zeros and further ones are cut. -/
def fractionValue (digits : List Char) : Nat :=
  Text.digitsValue 0 (digits.take 6 ++ List.replicate (6 - digits.length) '0')

/-- Hours, minutes, seconds and microseconds; what is left out is zero. -/
def readClock? (cs : List Char) : Option (Nat × Nat × Nat × Nat × List Char) := do
  let (hour, rest) ← takeDigits? 2 cs
  match takeDigits? 2 (skipMark ':' rest) with
  | none => some (hour, 0, 0, 0, rest)
  | some (minute, rest) =>
    match takeDigits? 2 (skipMark ':' rest) with
    | none => some (hour, minute, 0, 0, rest)
    | some (second, rest) =>
      match rest with
      | c :: more =>
        if c == '.' || c == ',' then
          let digits := more.takeWhile Char.isDigit
          if digits.isEmpty then none
          else some (hour, minute, second, fractionValue digits, more.dropWhile Char.isDigit)
        else some (hour, minute, second, 0, rest)
      | [] => some (hour, minute, second, 0, [])

/-- Microseconds since the start of the day. -/
def clockMicros (hour minute second micro : Nat) : Nat :=
  ((hour * 60 + minute) * 60 + second) * 1000000 + micro

/-- The zone at the end of a time. -/
def readOffset? : List Char → Option (Option Int)
  | [] => some none
  | ['Z'] => some (some 0)
  | c :: cs => do
    if c == '+' || c == '-' then
      let (hour, minute, second, micro, rest) ← readClock? cs
      if !rest.isEmpty then none
      else
        let micros := clockMicros hour minute second micro
        some (some (if c == '-' then -micros else micros))
    else none

end Calendar

namespace Date

/-- The number of days of a month. -/
def monthLength (year month : Nat) : Nat :=
  if month == 2 then
    if year % 4 == 0 && (year % 100 != 0 || year % 400 == 0) then 29 else 28
  else if month == 4 || month == 6 || month == 9 || month == 11 then 30 else 31

/-- The day exists. -/
def isValid (d : Date) : Bool :=
  1 ≤ d.year && 1 ≤ d.month && d.month ≤ 12 && 1 ≤ d.day && d.day ≤ monthLength d.year d.month

/-- A date at the start of a text, and the rest. -/
def readAt? (cs : List Char) : Option (Date × List Char) := do
  let (year, cs) ← Calendar.takeDigits? 4 cs
  let (month, cs) ← Calendar.takeDigits? 2 (Calendar.skipMark '-' cs)
  let (day, cs) ← Calendar.takeDigits? 2 (Calendar.skipMark '-' cs)
  let d : Date := ⟨year, month, day⟩
  if d.isValid then some (d, cs) else none

/-- The date written by a text. -/
def ofText? (s : String) : Option Date :=
  match readAt? s.toList with
  | some (d, []) => some d
  | _ => none

/-- The ISO form of a date. -/
def text (d : Date) : String :=
  Text.padded 4 d.year ++ "-" ++ Text.padded 2 d.month ++ "-" ++ Text.padded 2 d.day

/-- The number of days before a date. -/
def dayNumber (d : Date) : Nat :=
  let y := d.year - 1
  365 * y + y / 4 - y / 100 + y / 400 +
    (List.range (d.month - 1)).foldl (fun days m => days + monthLength d.year (m + 1)) 0 + d.day

end Date

namespace TimeOfDay

/-- The time written by the rest of a text. -/
def read? (cs : List Char) : Option TimeOfDay := do
  let (hour, minute, second, micro, rest) ← Calendar.readClock? (Calendar.skipMark 'T' cs)
  let offset ← Calendar.readOffset? rest
  if hour < 24 && minute < 60 && second < 60 then some ⟨hour, minute, second, micro, offset⟩
  else none

/-- The time written by a text. -/
def ofText? (s : String) : Option TimeOfDay := read? s.toList

/-- The fraction of a second, left out when it is zero. -/
def fractionText (micro : Nat) : String := if micro == 0 then "" else "." ++ Text.padded 6 micro

/-- The ISO form of an offset: seconds and fractions are left out when they are zero. -/
def offsetText (micros : Int) : String :=
  let n := micros.natAbs
  let seconds := n / 1000000
  (if micros < 0 then "-" else "+") ++ Text.padded 2 (seconds / 3600) ++ ":" ++
    Text.padded 2 (seconds / 60 % 60) ++
    (if seconds % 60 == 0 && n % 1000000 == 0 then ""
      else ":" ++ Text.padded 2 (seconds % 60) ++ fractionText (n % 1000000))

/-- The ISO form of a time. -/
def text (t : TimeOfDay) : String :=
  Text.padded 2 t.hour ++ ":" ++ Text.padded 2 t.minute ++ ":" ++ Text.padded 2 t.second ++
    fractionText t.micro ++ (t.offset.map offsetText).getD ""

/-- Microseconds since midnight. -/
def micros (t : TimeOfDay) : Int := Calendar.clockMicros t.hour t.minute t.second t.micro

/-- The same time: both without a zone, or both in universal time. -/
def same (s t : TimeOfDay) : Bool :=
  match s.offset, t.offset with
  | none, none => s.micros == t.micros
  | some a, some b => s.micros - a == t.micros - b
  | _, _ => false

end TimeOfDay

namespace Moment

/-- The moment written by a text; a date alone is its midnight. -/
def ofText? (s : String) : Option Moment := do
  let (date, rest) ← Date.readAt? s.toList
  match rest with
  | [] => some ⟨date, ⟨0, 0, 0, 0, none⟩⟩
  | _ :: cs => do
    let time ← TimeOfDay.read? cs
    some ⟨date, time⟩

/-- The ISO form of a moment, with a mark between the day and the time. -/
def textWith (mark : String) (m : Moment) : String := m.date.text ++ mark ++ m.time.text

/-- The same moment: both without a zone, or both in universal time. -/
def same (m n : Moment) : Bool :=
  let total (m : Moment) : Int := m.date.dayNumber * 86400000000 + m.time.micros
  match m.time.offset, n.time.offset with
  | none, none => total m == total n
  | some a, some b => total m - a == total n - b
  | _, _ => false

/-- The moment in universal time, if it has no zone of its own. -/
def zoned (m : Moment) : Moment :=
  { m with time := { m.time with offset := some (m.time.offset.getD 0) } }

end Moment

end DocumentSql
