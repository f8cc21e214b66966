import Phrasebook.Number.Shortest
import Phrasebook.Text.Quoted
import Phrasebook.Value.Basic

/-!
The text of a value, as it is put into a template. Inside a collection every value is shown in its
source form: texts in quotes, dates and locales as constructor calls.
-/

set_option autoImplicit false
set_option relaxedAutoImplicit false

namespace Phrasebook

namespace Value

def padded (width n : Nat) : Text :=
  let digits := Nat.toDigits 10 n
  List.replicate (width - digits.length) '0' ++ digits

def commaSeparated : List Text → Text
  | [] => []
  | [item] => item
  | item :: items => item ++ ',' :: ' ' :: commaSeparated items

def dateText (d : Date) : Text :=
  padded 4 d.year ++ '-' :: padded 2 d.month ++ '-' :: padded 2 d.day

def offsetText (minutes : Int) : Text :=
  (if minutes < 0 then '-' else '+') ::
    padded 2 (minutes.natAbs / 60) ++ ':' :: padded 2 (minutes.natAbs % 60)

def momentText (m : Moment) : Text :=
  dateText m.date ++ ' ' :: padded 2 m.hour ++ ':' :: padded 2 m.minute ++ ':' ::
    padded 2 m.second ++ (if m.microsecond = 0 then [] else '.' :: padded 6 m.microsecond) ++
    m.offset.elim [] offsetText

/-- A span of time in source form, split into days and seconds of which only the days may be
negative. -/
def spanSource (seconds : Int) : Text :=
  let days := seconds.fdiv 86400
  let rest := seconds.fmod 86400
  let parts :=
    (if days = 0 then [] else ["days=".toList ++ Number.decimal days]) ++
    (if rest = 0 then [] else ["seconds=".toList ++ Number.decimal rest])
  "datetime.timedelta(".toList ++ (if parts.isEmpty then ['0'] else commaSeparated parts) ++ [')']

def zoneSource (minutes : Int) : Text :=
  if minutes = 0 then "datetime.timezone.utc".toList
  else "datetime.timezone(".toList ++ spanSource (60 * minutes) ++ [')']

def dateSource (d : Date) : Text :=
  "datetime.date(".toList ++
    commaSeparated ([d.year, d.month, d.day].map (Nat.toDigits 10)) ++ [')']

def momentSource (m : Moment) : Text :=
  let fine :=
    if m.microsecond = 0 then (if m.second = 0 then [] else [m.second])
    else [m.second, m.microsecond]
  let numbers := [m.date.year, m.date.month, m.date.day, m.hour, m.minute] ++ fine
  "datetime.datetime(".toList ++
    commaSeparated (numbers.map (Nat.toDigits 10) ++
      m.offset.elim [] fun o => ["tzinfo=".toList ++ zoneSource o]) ++ [')']

mutual

def source : Value → Except Text Text
  | none => .ok "None".toList
  | bool true => .ok "True".toList
  | bool false => .ok "False".toList
  | int n => Number.writeInteger n
  | float x => .ok (Number.floatLayout.write x)
  | text t => .ok t.quoted
  | bytes b => .ok (Text.quotedBytes b)
  | date d => .ok (dateSource d)
  | moment m => .ok (momentSource m)
  | locale l => .ok ("<Locale.".toList ++ l.name ++ ": ".toList ++ l.tag.quoted ++ ['>'])
  | list items => (sources items).map fun ts => '[' :: commaSeparated ts ++ [']']
  | tuple items => (sources items).map fun ts =>
      '(' :: (match ts with | [t] => t ++ [','] | _ => commaSeparated ts) ++ [')']
  | set [] => .ok "set()".toList
  | set items => (sources items).map fun ts => '\x7b' :: commaSeparated ts ++ ['\x7d']
  | dict entries => (entrySources entries).map fun ts => '\x7b' :: commaSeparated ts ++ ['\x7d']
  | unwritable message => .error message
  | again true => .ok "\x7b...\x7d".toList
  | again false => .ok "[...]".toList

def sources : List Value → Except Text (List Text)
  | [] => .ok []
  | item :: items => do
    let t ← source item
    let ts ← sources items
    return t :: ts

def entrySources : List (Value × Value) → Except Text (List Text)
  | [] => .ok []
  | (key, value) :: entries => do
    let k ← source key
    let v ← source value
    let ts ← entrySources entries
    return (k ++ ':' :: ' ' :: v) :: ts

end

/-- The text of a value: a text stands for itself, and whatever is no text, date or locale is shown
in its source form. -/
def toText : Value → Except Text Text
  | text t => .ok t
  | date d => .ok (dateText d)
  | moment m => .ok (momentText m)
  | locale l => .ok ("Locale.".toList ++ l.name)
  | v => source v

/-- The text by which a value stands for a locale: the tag of a locale, and the text of anything
else. -/
def asTag : Value → Except Text Text
  | locale l => .ok l.tag
  | v => v.toText

end Value

end Phrasebook
