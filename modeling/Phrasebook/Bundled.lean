import Phrasebook.Loader.Directory

/-!
The translations that come with the library: a small game in three languages.
-/

set_option autoImplicit false
set_option relaxedAutoImplicit false

namespace Phrasebook.Bundled

def mapping (entries : List (String × Value)) : Value :=
  .dict (entries.map fun (key, value) => (.text key.toList, value))

def phrases (entries : List (String × String)) : Value :=
  mapping (entries.map fun (key, text) => (key, .text text.toList))

def english : Value :=
  mapping [
    ("strings", mapping [
      ("menu", phrases [
        ("greeting", "Hello \x7bname\x7d!"),
        ("title", "Main menu")]),
      ("inventory", phrases [
        ("count", "You have \x7bcount\x7d \x7bplural:\x7bcount\x7d|item|items\x7d"),
        ("found", "You found @\x7bitem.indefinite\x7d!"),
        ("equipped", "@\x7bitem\x7d equipped in the \x7bindex:\x7bslot\x7d|left|right\x7d hand")]),
      ("quest", phrases [("reward", "Reward: \x7bgold\x7d gold and @\x7breward\x7d")])]),
    ("tables", mapping [
      ("SWORD", phrases [("value", "sword"), ("indefinite", "a sword"), ("plural", "swords")]),
      ("SHIELD", phrases [("value", "shield"), ("indefinite", "a shield"), ("plural", "shields")]),
      ("POTION", .text "potion".toList)])]

def french : Value :=
  mapping [
    ("strings", mapping [
      ("menu", phrases [
        ("greeting", "Bonjour \x7bname\x7d !"),
        ("title", "Menu principal")]),
      ("inventory", phrases [
        ("count", "Vous avez \x7bcount\x7d \x7bplural:\x7bcount\x7d|objet|objets\x7d"),
        ("found", "Vous avez trouvé @\x7bitem.indefinite\x7d !"),
        ("equipped",
          "@\x7bitem.definite\x7d équipée dans la main \x7bindex:\x7bslot\x7d|gauche|droite\x7d")])]),
    ("tables", mapping [
      ("SWORD", phrases [
        ("value", "épée"), ("definite", "L'épée"), ("indefinite", "une épée"),
        ("plural", "épées")]),
      ("SHIELD", phrases [
        ("value", "bouclier"), ("definite", "Le bouclier"), ("indefinite", "un bouclier"),
        ("plural", "boucliers")])])]

def polish : Value :=
  mapping [
    ("strings", mapping [
      ("menu", phrases [
        ("greeting", "Cześć \x7bname\x7d!"),
        ("title", "Menu główne")]),
      ("inventory", phrases [
        ("count", "Masz \x7bcount\x7d \x7bplural:\x7bcount\x7d|one=przedmiot|few=przedmioty|" ++
          "many=przedmiotów|other=przedmiotu\x7d"),
        ("found", "Znalazłeś @\x7bitem.accusative\x7d!")])]),
    ("tables", mapping [
      ("SWORD", phrases [("value", "miecz"), ("accusative", "miecz")]),
      ("SHIELD", phrases [("value", "tarcza"), ("accusative", "tarczę")])])]

def directory : Directory :=
  .ofList [
    ("ui.en-US.yml".toList, .document english),
    ("ui.fr-FR.yml".toList, .document french),
    ("ui.pl-PL.yml".toList, .document polish)]

end Phrasebook.Bundled
