import CqlWriter.Number.Integer

/-!
# Timestamps

A timestamp is a date, or a date and a time of day. Between the two stands a `T` or `t`, and then
the time has a zone, or there are spaces, and then it has none. Only the year has a fixed width.
-/

namespace CqlWriter

/-- A date with a time of day. The offset is that of the zone to the east, in seconds. -/
structure Timestamp where
  year : Nat
  month : Nat
  day : Nat
  hour : Nat := 0
  minute : Nat := 0
  second : Nat := 0
  nanosecond : Nat := 0
  offset : Int := 0
  deriving DecidableEq, Repr

namespace Timestamp

/-- The value of a decimal digit. -/
def digitValue (b : UInt8) : Nat :=
  b.toNat - 0x30

/-- Read one or two digits. -/
def short? : Text → Option (Nat × Text)
  | a :: b :: rest =>
    if !Integer.isDigit a then none
    else if Integer.isDigit b then some (digitValue a * 10 + digitValue b, rest)
    else some (digitValue a, b :: rest)
  | [a] => if Integer.isDigit a then some (digitValue a, []) else none
  | [] => none

/-- Read exactly two digits. -/
def pair? : Text → Option (Nat × Text)
  | a :: b :: rest =>
    if Integer.isDigit a && Integer.isDigit b then some (digitValue a * 10 + digitValue b, rest)
    else none
  | _ => none

/-- Read one given byte. -/
def expect? (c : Char) : Text → Option Text
  | b :: rest => if b = Text.byte c then some rest else none
  | [] => none

/-- Whether a year has a twenty-ninth of February. -/
def isLeap (year : Nat) : Bool :=
  year % 4 = 0 && (year % 100 ≠ 0 || year % 400 = 0)

/-- The number of days of a month. -/
def daysIn (year month : Nat) : Nat :=
  if month = 2 then (if isLeap year then 29 else 28)
  else if month = 4 || month = 6 || month = 9 || month = 11 then 30
  else 31

/-- Read a date: a year of four digits, a month and a day. Whether the month has such a day is left
to `valid`. -/
def date? (t : Text) : Option (Timestamp × Text) := do
  let digits := t.takeWhile Integer.isDigit
  if digits.length ≠ 4 then none
  let year ← Integer.digitsFrom? 10 0 digits
  let (month, rest) ← short? (← expect? '-' (t.drop 4))
  if month = 0 || 12 < month then none
  let (day, rest) ← short? (← expect? '-' rest)
  pure ({ year, month, day }, rest)

/-- The nanoseconds that digits after a point stand for; those after the ninth do not count. -/
def nanoseconds (digits : Text) : Nat :=
  let used := digits.take 9
  (Integer.digitsFrom? 10 0 used).getD 0 * power 10 (9 - used.length)

/-- Read a fraction of a second behind a point or comma, if there is one. -/
def fraction : Text → Nat × Text
  | p :: d :: rest =>
    if (p = Text.byte '.' || p = Text.byte ',') && Integer.isDigit d then
      (nanoseconds ((d :: rest).takeWhile Integer.isDigit),
        (d :: rest).dropWhile Integer.isDigit)
    else (0, p :: d :: rest)
  | t => (0, t)

/-- Read the hour, minute and second of a day. -/
def timeOfDay? (date : Timestamp) (t : Text) : Option (Timestamp × Text) := do
  let (hour, rest) ← short? t
  if 24 ≤ hour then none
  let (minute, rest) ← short? (← expect? ':' rest)
  if 60 ≤ minute then none
  let (second, rest) ← short? (← expect? ':' rest)
  if 60 ≤ second then none
  let (nanosecond, rest) := fraction rest
  pure ({ date with hour, minute, second, nanosecond }, rest)

/-- Read a zone: `Z`, or a sign, hours and minutes. -/
def zone? (t : Text) : Option (Int × Text) := do
  match t with
  | [] => none
  | s :: rest =>
    if s = Text.byte 'Z' then pure (0, rest)
    else if s = Text.byte '+' || s = Text.byte '-' then
      let (hours, rest) ← pair? rest
      let (minutes, rest) ← pair? (← expect? ':' rest)
      if 24 < hours || 60 < minutes then none
      let seconds : Int := hours * 3600 + minutes * 60
      pure (if s = Text.byte '-' then -seconds else seconds, rest)
    else none

/-- Whether the month has such a day. -/
def valid (t : Timestamp) : Bool :=
  1 ≤ t.day && t.day ≤ daysIn t.year t.month

/-- Read a date and time with a zone, with the byte `c` between date and time. -/
def withZone? (c : Char) (t : Text) : Option Timestamp := do
  let (date, rest) ← date? t
  let (stamp, rest) ← timeOfDay? date (← expect? c rest)
  let (offset, rest) ← zone? rest
  if rest.isEmpty then some { stamp with offset } else none

/-- Read a date and time without a zone, with spaces between them. -/
def withSpace? (t : Text) : Option Timestamp := do
  let (date, rest) ← date? t
  let (stamp, rest) ← timeOfDay? date ((← expect? ' ' rest).dropWhile (· = Text.byte ' '))
  if rest.isEmpty then some stamp else none

/-- Read a date alone. -/
def dateOnly? (t : Text) : Option Timestamp := do
  let (date, rest) ← date? t
  if rest.isEmpty then some date else none

/-- Read a timestamp in one of its forms. -/
def ofText? (t : Text) : Option Timestamp :=
  [withZone? 'T' t, withZone? 't' t, withSpace? t, dateOnly? t].findSome? fun s => s.filter valid

/-- A number with zeros in front up to `width` digits. -/
def padded (width n : Nat) : Text :=
  let digits := Text.ofNat n
  List.replicate (width - digits.length) 0x30 ++ digits

/-- The fraction of a second behind a point, without zeros at the end. -/
def fractionText (t : Timestamp) : Text :=
  if t.nanosecond = 0 then ""
  else "." ++ ((padded 9 t.nanosecond).reverse.dropWhile (· = 0x30)).reverse

/-- The offset of the zone as a sign, hours and minutes. -/
def offsetText (t : Timestamp) : Text :=
  let minutes := t.offset.natAbs / 60
  (if t.offset < 0 then "-" else "+") ++ padded 2 (minutes / 60) ++ padded 2 (minutes % 60)

/-- The offset of the zone with a colon, or `Z` if there is none. -/
def zoneMark (t : Timestamp) : Text :=
  if t.offset = 0 then "Z" else t.offsetText.take 3 ++ ":" ++ t.offsetText.drop 3

/-- A timestamp in the form that JSON texts use. -/
def compact (t : Timestamp) : Text :=
  padded 4 t.year ++ "-" ++ padded 2 t.month ++ "-" ++ padded 2 t.day ++ "T" ++ padded 2 t.hour
    ++ ":" ++ padded 2 t.minute ++ ":" ++ padded 2 t.second ++ t.fractionText ++ t.zoneMark

/-- The name of the zone, which is its offset for every zone but one. -/
def zoneName (t : Timestamp) : Text :=
  if t.offset = 0 then "UTC" else t.offsetText

/-- A timestamp in full: date, time, offset and the name of the zone. -/
def text (t : Timestamp) : Text :=
  padded 4 t.year ++ "-" ++ padded 2 t.month ++ "-" ++ padded 2 t.day ++ " " ++ padded 2 t.hour
    ++ ":" ++ padded 2 t.minute ++ ":" ++ padded 2 t.second ++ t.fractionText ++ " "
    ++ t.offsetText ++ " " ++ t.zoneName

end Timestamp

end CqlWriter
