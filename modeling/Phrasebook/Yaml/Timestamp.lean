import Phrasebook.Yaml.Cursor

/-!
Dates and moments in documents: a year of four digits, month and day, and after them, if there is a
time of day, hours, minutes and seconds with an optional fraction and an optional time zone.
-/

set_option autoImplicit false
set_option relaxedAutoImplicit false

namespace Phrasebook.Yaml

/-- A time zone as it is written. -/
inductive WrittenZone
  | universal
  | offset (negative : Bool) (hours minutes : Nat)

structure WrittenTime where
  hour : Nat
  minute : Nat
  second : Nat
  fraction : Text
  zone : Option WrittenZone

/-- A date, perhaps with a time of day, as it is written. -/
structure WrittenTimestamp where
  year : Nat
  month : Nat
  day : Nat
  /-- Whether month and day have two digits each. -/
  padded : Bool
  time : Option WrittenTime

def digitsValue (t : Text) : Nat := t.foldl (fun n c => 10 * n + (c.toNat - '0'.toNat)) 0

/-- A run of digits at the beginning of a text, of at least and at most as many as given, and the
rest. -/
def digitsAt? (least most : Nat) (t : Text) : Option (Text × Text) :=
  let run := (t.take most).takeWhile Char.isDigit
  if least ≤ run.length then some (run, t.drop run.length) else none

def after? (c : Char) : Text → Option Text
  | [] => none
  | d :: rest => if c = d then some rest else none

def isBlankChar (c : Char) : Bool := c = ' ' || c = '\t'

def readZone? (t : Text) : Option WrittenZone :=
  match t.dropWhile isBlankChar with
  | ['Z'] => some .universal
  | sign :: rest =>
    if sign = '-' ∨ sign = '+' then do
      let (hours, rest) ← digitsAt? 1 2 rest
      if rest.isEmpty then return .offset (sign = '-') (digitsValue hours) 0
      let (minutes, rest) ← digitsAt? 2 2 (← after? ':' rest)
      if rest.isEmpty then return .offset (sign = '-') (digitsValue hours) (digitsValue minutes)
      none
    else none
  | [] => none

def readTime? (t : Text) : Option WrittenTime := do
  let (hour, t) ← digitsAt? 1 2 t
  let (minute, t) ← digitsAt? 2 2 (← after? ':' t)
  let (second, t) ← digitsAt? 2 2 (← after? ':' t)
  let (fraction, t) :=
    match t with
    | '.' :: rest => (rest.takeWhile Char.isDigit, rest.dropWhile Char.isDigit)
    | t => ([], t)
  let time (zone : Option WrittenZone) : WrittenTime :=
    ⟨digitsValue hour, digitsValue minute, digitsValue second, fraction, zone⟩
  if t.isEmpty then return time none
  return time (some (← readZone? t))

def afterDate? (t : Text) : Option Text :=
  match t with
  | c :: rest =>
    if c = 'T' ∨ c = 't' then some rest
    else if isBlankChar c then some (t.dropWhile isBlankChar)
    else none
  | [] => none

def readTimestamp? (t : Text) : Option WrittenTimestamp := do
  let (year, t) ← digitsAt? 4 4 t
  let (month, t) ← digitsAt? 1 2 (← after? '-' t)
  let (day, t) ← digitsAt? 1 2 (← after? '-' t)
  let timestamp (time : Option WrittenTime) : WrittenTimestamp :=
    ⟨digitsValue year, digitsValue month, digitsValue day, month.length = 2 && day.length = 2, time⟩
  if t.isEmpty then return timestamp none
  return timestamp (some (← readTime? (← afterDate? t)))

/-- Whether a plain scalar is a date or a moment: a date by itself has all its digits. -/
def isTimestamp (t : Text) : Bool :=
  (readTimestamp? t).any fun written => written.time.isSome || written.padded

def isLeapYear (year : Nat) : Bool := (year % 4 = 0 && year % 100 ≠ 0) || year % 400 = 0

def daysOf (year month : Nat) : Nat :=
  if month = 2 then (if isLeapYear year then 29 else 28)
  else if month = 4 ∨ month = 6 ∨ month = 9 ∨ month = 11 then 30
  else 31

def badValue (message : String) : Except Problem Unit :=
  .error (.unreadable (.badValue message.toList))

def dateOf (year month day : Nat) : Except Problem Date := do
  if year = 0 then badValue "year 0 is out of range"
  if month < 1 ∨ 12 < month then badValue "month must be in 1..12"
  if day < 1 ∨ daysOf year month < day then badValue "day is out of range for month"
  return ⟨year, month, day⟩

def microseconds (fraction : Text) : Nat :=
  let digits := fraction.take 6
  digitsValue (digits ++ List.replicate (6 - digits.length) '0')

/-- The offset of a time zone in minutes, which is less than a day. -/
def offsetOf : WrittenZone → Except Problem Int
  | .universal => .ok 0
  | .offset negative hours minutes =>
    let size : Int := 60 * hours + minutes
    let offset := if negative then -size else size
    if -1440 < offset ∧ offset < 1440 then .ok offset
    else
      .error (.unreadable (.badValue
        ("offset must be a timedelta strictly between -timedelta(hours=24) and ".toList ++
          "timedelta(hours=24), not ".toList ++ Value.spanSource (60 * offset) ++ ['.'])))

def momentOf (written : WrittenTimestamp) (time : WrittenTime) : Except Problem Moment := do
  let offset ← time.zone.mapM offsetOf
  let date ← dateOf written.year written.month written.day
  if 23 < time.hour then badValue "hour must be in 0..23"
  if 59 < time.minute then badValue "minute must be in 0..59"
  if 59 < time.second then badValue "second must be in 0..59"
  return ⟨date, time.hour, time.minute, time.second, microseconds time.fraction, offset⟩

/-- The date or moment that a scalar stands for. A line break at its end does not count. -/
def timestampValue (t : Text) : Except Problem Value :=
  match readTimestamp? ((Text.dropEnd? ['\n'] t).getD t) with
  | none =>
    .error (.unreadable (.badAttribute "'NoneType' object has no attribute 'groupdict'"))
  | some written =>
    match written.time with
    | none => (dateOf written.year written.month written.day).map .date
    | some time => (momentOf written time).map .moment

end Phrasebook.Yaml
