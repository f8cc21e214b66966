import Phrasebook.Text.Basic

/-!
The supported locales and their tags. Reading a tag is exact: case, white space and the separator
count.
-/

set_option autoImplicit false
set_option relaxedAutoImplicit false

namespace Phrasebook

inductive Locale
  | enUS | enGB | frFR | deDE | esES | plPL | ruRU | jaJP
  deriving DecidableEq, Repr

namespace Locale

def all : List Locale := [enUS, enGB, frFR, deDE, esES, plPL, ruRU, jaJP]

def language : Locale → Text
  | enUS | enGB => ['e', 'n']
  | frFR => ['f', 'r']
  | deDE => ['d', 'e']
  | esES => ['e', 's']
  | plPL => ['p', 'l']
  | ruRU => ['r', 'u']
  | jaJP => ['j', 'a']

def region : Locale → Text
  | enUS => ['U', 'S']
  | enGB => ['G', 'B']
  | frFR => ['F', 'R']
  | deDE => ['D', 'E']
  | esES => ['E', 'S']
  | plPL => ['P', 'L']
  | ruRU => ['R', 'U']
  | jaJP => ['J', 'P']

def tag (l : Locale) : Text := l.language ++ '-' :: l.region

/-- The name of the locale among its fellows: the tag in capitals with an underscore. -/
def name (l : Locale) : Text := l.language.upper ++ '_' :: l.region

def ofTag? (t : Text) : Option Locale := all.find? fun l => l.tag = t

end Locale

end Phrasebook
