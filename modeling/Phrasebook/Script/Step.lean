import Phrasebook.Catalog
import Phrasebook.Fault
import Phrasebook.Loader.Directory
import Phrasebook.Notifier.Delivery
import Phrasebook.Rule.Sample
import Phrasebook.Template.Render

/-!
Scripts: lists of steps that work on notifiers, renderers and a manager. A callback is a script of its
own that runs whenever it is called.
-/

set_option autoImplicit false
set_option relaxedAutoImplicit false

namespace Phrasebook.Script

open Template (Row RowAnswer)

/-- A subscriber made by a script: the steps it takes when it is called. -/
structure Callback (α : Type) where
  name : Text
  /-- What it does at a call, given the number of calls up to and with that one. -/
  actions : Nat → List α
  /-- Whether it has no name in reports. -/
  nameless : Bool := false

/-- The same at every call, but nothing any more after a number of calls. -/
def Callback.upTo {α : Type} (limit : Option Nat) (actions : List α) (calls : Nat) : List α :=
  if limit.any (· < calls) then [] else actions

/-- What a renderer is made of. -/
structure RendererOptions where
  /-- Whether its sink fails on a text, given the number of texts it had before. -/
  refuses : Nat → Text → Bool := fun _ _ => false
  follow : Bool := true
  /-- Its rules, if it is not to have the usual ones. -/
  rules : Option (List Rule.Sample) := none

inductive NotifierStep (α : Type) where
  | notifier (name : Text)
  | subscribe (handle eventType : Text) (callback : Callback α) (on : Text)
  | unsubscribe (handle on : Text)
  | publish (event : Event) (on : Text)
  | count (eventType on : Text)
  | clear (on : Text)
  | raise (message : Text)
  | follower (name : Text) (callback : Callback α) (on : Text)
  | isFollowing (name : Text)
  | closeFollower (name : Text)
  | withFollower (name : Text) (actions : List α)

inductive RendererStep (α : Type) where
  | renderer (name : Text) (options : RendererOptions)
  | setString (name : Text) (request : Request)
  | refresh (name : Text)
  | text (name : Text)
  | request (name : Text)
  | close (name : Text)
  | withRenderer (name : Text) (actions : List α)
  | rules (name : Text)
  | register (name : Text) (rule : Rule.Sample)
  | locale (new : Option Value)
  | putTemplate (key : Text) (entry : Except TemplateFault Text)
  | putTable (lookupKey : Text) (answer : RowAnswer)
  | fetches

inductive ManagerStep (α : Type) where
  | setLocale (locale : Value)
  | render (request : Request)
  | fallback
  | listen (handle : Text) (callback : Callback α)
  | unlisten (handle : Text)
  | loadAll
  | reload
  | loadLocale (locale : Value)
  | available
  | catalog (locale : Value)
  | template (key : Text)
  | row (lookupKey : Text)
  | hasTemplate (key : Text) (locale : Option Value)
  | putString (locale : Value) (key text : Text)
  | dropCatalogs
  | write (changes : List (Text × Option FileContent))
  | cached
  | usesCache
  | clearCache
  | calls

/-- A step of a script, with the name under which its result is told. -/
inductive Step where
  | onNotifier (name : Text) (step : NotifierStep Step)
  | onRenderer (name : Text) (step : RendererStep Step)
  | onManager (name : Text) (step : ManagerStep Step)

def Step.name : Step → Text
  | onNotifier name _ | onRenderer name _ | onManager name _ => name

/-- What a step answers. -/
inductive Answer where
  | nothing
  | flag (b : Bool)
  | flags (bs : List Bool)
  | number (n : Nat)
  | text (t : Text)
  | optionalText (t : Option Text)
  | texts (ts : List Text)
  | row (r : Option Row)
  | catalog (c : Option Catalog)
  /-- The last text of a renderer, and what its sink holds: the last text and all texts. -/
  | shown (text : Option Text) (sinkText : Text) (history : List Text)
  | request (r : Option Request)
  | rules (names : List Text)
  | fallback (policy : Text) (locale : Locale)

/-- What happens during a step. -/
inductive Happening where
  /-- A sink gets a text of a renderer. -/
  | shown (renderer text : Text)
  /-- A callback is called, with an event or, if it follows the locale, without one. -/
  | called (callback : Text) (event : Option Event)
  /-- A step inside another one has been taken. -/
  | did (step : Text) (answer : Answer)

end Phrasebook.Script
