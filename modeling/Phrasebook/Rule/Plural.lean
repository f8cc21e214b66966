import Phrasebook.Dict
import Phrasebook.Number.Real
import Phrasebook.Rule.Basic
import Phrasebook.Rule.Call

/-!
Choosing a word form by a count: the plural categories of the languages, and the rule that reads
forms by position or by category.
-/

set_option autoImplicit false
set_option relaxedAutoImplicit false

namespace Phrasebook

/-- The plural categories. -/
inductive Plural
  | zero | one | two | few | many | other
  deriving DecidableEq, Repr

namespace Plural

def all : List Plural := [zero, one, two, few, many, other]

def name : Plural → Text
  | zero => ['z', 'e', 'r', 'o']
  | one => ['o', 'n', 'e']
  | two => ['t', 'w', 'o']
  | few => ['f', 'e', 'w']
  | many => ['m', 'a', 'n', 'y']
  | other => ['o', 't', 'h', 'e', 'r']

def ofName? (t : Text) : Option Plural := all.find? fun p => p.name = t

/-- The families of languages that share their plural categories. -/
inductive Family
  | oneOther
  /-- One for 0 and 1, else other. -/
  | french
  | polish
  | russian
  /-- No plural at all. -/
  | uninflected
  deriving DecidableEq, Repr

namespace Family

/-- The family of a language code; an unknown language has one and other. -/
def ofLanguage (language : Text) : Family :=
  if language = ['f', 'r'] then french
  else if language = ['p', 'l'] then polish
  else if language = ['r', 'u'] then russian
  else if language = ['j', 'a'] then uninflected
  else oneOther

def isPaucal (n : Nat) : Bool :=
  (2 ≤ n % 10 && n % 10 ≤ 4) && !(12 ≤ n % 100 && n % 100 ≤ 14)

def category : Family → Nat → Plural
  | oneOther, n => if n = 1 then one else other
  | french, n => if n = 0 ∨ n = 1 then one else other
  | polish, n => if n = 1 then one else if isPaucal n then few else many
  | russian, n => if n % 10 = 1 ∧ n % 100 ≠ 11 then one else if isPaucal n then few else many
  | uninflected, _ => other

/-- The order in which forms without a category are written. -/
def order : Family → List Plural
  | oneOther | french => [one, other]
  | polish | russian => [one, few, many, other]
  | uninflected => [other]

end Family

/-- The language of a locale tag: what precedes the first hyphen or underscore, in small letters. -/
def languageOf (tag : Text) : Text :=
  Text.lower (tag.takeWhile fun c => c ≠ '-' && c ≠ '_')

/-- The category of an integer count, of which the sign is ignored, for a locale tag. -/
def categoryOf (tag : Text) (count : Int) : Plural :=
  (Family.ofLanguage (languageOf tag)).category count.natAbs

end Plural

namespace Rule.Plural

def callName : Text := ['p', 'l', 'u', 'r', 'a', 'l']

def countMark : Char := '#'

/-- The category of an argument: that of an integer, `other` for any other number and where no language
is known, none for what is no number. -/
def category? (tag : Except Text Text) (argument : Text) : Option Plural :=
  match Number.readInteger? argument, tag with
  | some count, .ok tag => some (Plural.categoryOf tag count)
  | _, _ => if (Number.readReal? argument).isSome then some .other else none

def keyedForm? (form : Text) : Option (Plural × Text) :=
  match form.breakAt '=' with
  | (name, some text) => (Plural.ofName? name.strip).map (·, text)
  | (_, none) => none

/-- All forms by category, if every one of them names its category; a later form for a category
replaces the earlier one in its place. -/
def keyed? (forms : List Text) : Option (Dict Plural Text) := (forms.mapM keyedForm?).map Dict.ofList

/-- The form for a category, else the one for `other`, else a last resort. -/
def lookUp (forms : Dict Plural Text) (category : Plural) (lastResort : Text) : Text :=
  ((forms.get? category).orElse fun _ => forms.get? .other).getD lastResort

/-- The form of a call for a category, where the forms belong to the categories of the language in their
order. -/
def selectByPosition (tag : Text) (call : Call) (category : Plural) : Text :=
  let order := (Plural.Family.ofLanguage (Plural.languageOf tag)).order
  lookUp (Dict.ofList (order.zip call.forms)) category call.lastForm

/-- The form of a call for a category. Only forms that do not all name a category need a language. -/
def select (tag : Except Text Text) (call : Call) (category : Plural) : Except Text Text :=
  match keyed? call.forms with
  | some forms => .ok (lookUp forms category ((forms.entries.map Prod.snd).getLastD []))
  | none => tag.map fun tag => selectByPosition tag call category

/-- The form that a content calls for with every count mark replaced, or the content if it calls for
none. -/
def apply (tag : Except Text Text) (content : Text) : Except Text Text :=
  match Call.parse? callName content with
  | none => .ok content
  | some call =>
    match category? tag call.argument with
    | none => .ok content
    | some category => (select tag call category).map (Text.replace countMark call.argument)

/-- The rule, for the locale tag that a state gives at the time of the call. -/
def rule {σ : Type} (tag : σ → Except Text Text) : Rule σ :=
  ⟨"PluralRule", fun content s => (.ofTagged (apply (tag s) content), s)⟩

end Rule.Plural

end Phrasebook
