import Phrasebook.Display
import Phrasebook.Manager
import Phrasebook.Script.Step

/-!
The world of a script: the notifiers, followers and renderers it has made, the source that the
renderers draw on, and the names by which the script refers to all of them. A name given again stands
for the new object; the old one goes on living.
-/

set_option autoImplicit false
set_option relaxedAutoImplicit false

namespace Phrasebook.Script

open Template (RowAnswer)

def localeChanged : Text := "i18n.locale.changed".toList

/-- What a change of the locale is handed on to. -/
inductive Target where
  | renderer (id : Nat)
  | callback (id : Nat) (callback : Callback Step)

/-- A follower of the changes of the locale; it has a handle as long as it is open. -/
structure Follower where
  notifier : Nat
  handle : Option Handle
  target : Target

inductive Subscriber where
  | callback (id : Nat) (callback : Callback Step)
  | follower (id : Nat)

def Subscriber.name : Subscriber → Text
  | callback _ c => if c.nameless then "unknown".toList else c.name
  | follower _ => "_on_locale_changed".toList

/-- A sink: the last text it took, and all of them. -/
structure Sink where
  /-- Whether it fails on a text, given the number of texts it had before. -/
  refuses : Nat → Text → Bool := fun _ _ => false
  given : Nat := 0
  text : Text := []
  history : List Text := []

def Sink.refusesNext (sink : Sink) (text : Text) : Bool := sink.refuses sink.given text

def Sink.give (sink : Sink) (text : Text) : Sink :=
  if sink.refusesNext text then { sink with given := sink.given + 1 }
  else { sink with given := sink.given + 1, text, history := sink.history ++ [text] }

/-- A renderer: the request and the text it keeps, its sink and its rules. -/
structure Renderer where
  name : Text
  /-- The kinds of its rules, each with the number of its instance. -/
  rules : List (Nat × Rule.Sample)
  sink : Sink
  display : Display := {}
  follower : Option Nat := none

structure Stubs where
  templates : Dict Text (Except TemplateFault Text)
  tables : Dict Text RowAnswer
  /-- The lookup keys fetched since they were last asked for. -/
  fetched : List Text := []
  /-- The tag of the locale in force, or the complaint in place of one. -/
  tag : Except Text Text

structure Managed where
  manager : Manager
  disk : Directory := ∅
  /-- Whether the directory is the one that the script writes to. -/
  writable : Bool

/-- What the renderers draw on. -/
inductive Backing where
  | stubs (stubs : Stubs)
  | managed (managed : Managed)

def mainNotifier : Nat := 0

def mainName : Text := ['m', 'a', 'i', 'n']

structure World where
  backing : Backing
  policy : Text
  registries : Dict Nat (Registry Subscriber) := Dict.insert ∅ mainNotifier { id := mainNotifier }
  followers : Dict Nat Follower := ∅
  renderers : Dict Nat Renderer := ∅
  /-- How often each callback has been called. -/
  calls : Dict Nat Nat := ∅
  counters : Rule.Sample.Counters := ∅
  fresh : Nat := 1
  notifierNames : Dict Text Nat := Dict.insert ∅ mainName mainNotifier
  handleNames : Dict Text Handle := ∅
  followerNames : Dict Text Nat := ∅
  rendererNames : Dict Text Nat := ∅
  /-- What has happened since the step began. -/
  happenings : List Happening := []

abbrev Act := Attempt Fault World

/-- The tag of the locale in force, or the complaint in place of one. -/
def World.tag (w : World) : Except Text Text :=
  match w.backing with
  | .stubs stubs => stubs.tag
  | .managed managed => .ok managed.manager.active.tag

def World.access : Rule.Sample.Access World :=
  ⟨World.tag, World.counters, fun counters w => { w with counters }⟩

def World.source : Source World where
  template key := fun w =>
    match w.backing with
    | .stubs stubs => ⟨(stubs.templates.get? key).getD (.error (.notFound none)), w, []⟩
    | .managed managed => (Manager.source fun _ => managed.manager).template key w
  row lookupKey := fun w =>
    match w.backing with
    | .stubs stubs =>
      ⟨(stubs.tables.get? lookupKey).getD (.ok none),
        { w with backing := .stubs { stubs with fetched := stubs.fetched ++ [lookupKey] } }, []⟩
    | .managed managed => (Manager.source fun _ => managed.manager).row lookupKey w

/-- The world with another display for a renderer, if there is that renderer. -/
def World.keep (w : World) (id : Nat) (display : Display) : World :=
  match w.renderers.get? id with
  | none => w
  | some r => { w with renderers := w.renderers.insert id { r with display } }

namespace Act

variable {α : Type}

def fresh : Act Nat := do
  let id := (← Attempt.read).fresh
  Attempt.change fun w => { w with fresh := id + 1 }
  return id

def happens (h : Happening) : Act Unit :=
  Attempt.change fun w => { w with happenings := w.happenings ++ [h] }

def expect (name : Text) : Option α → Act α
  | some a => return a
  | none => throw (.unknownName name)

def notifier (name : Text) : Act Nat := do
  expect name ((← Attempt.read).notifierNames.get? name)

def registry (id : Nat) (w : World) : Registry Subscriber := (w.registries.get? id).getD { id }

def setRegistry (r : Registry Subscriber) : Act Unit :=
  Attempt.change fun w => { w with registries := w.registries.insert r.id r }

def handle (name : Text) : Act Handle := do
  expect name ((← Attempt.read).handleNames.get? name)

def follower (name : Text) : Act Nat := do
  expect name ((← Attempt.read).followerNames.get? name)

def renderer (name : Text) : Act Nat := do
  expect name ((← Attempt.read).rendererNames.get? name)

/-- The renderer of a number, with its name in case it is unknown. -/
def rendererOf (id : Nat) : Act Renderer := do
  expect [] ((← Attempt.read).renderers.get? id)

def setRenderer (id : Nat) (r : Renderer) : Act Unit :=
  Attempt.change fun w => { w with renderers := w.renderers.insert id r }

def managed : Act Managed := do
  match (← Attempt.read).backing with
  | .managed managed => return managed
  | .stubs _ => throw (.unknownName "manager".toList)

def setManaged (m : Managed) : Act Unit :=
  Attempt.change fun w => { w with backing := .managed m }

def managing (x : Directory → Manager.Managing α) : Act α := do
  let m ← managed
  let outcome := (x m.disk).run m.manager
  setManaged { m with manager := outcome.state }
  ExceptT.lift (Effect.tell outcome.reports)
  ExceptT.mk (pure outcome.value)

end Act

end Phrasebook.Script
