import Phrasebook.Script.World

/-!
Rendering and delivery in a world: showing the text of a renderer, calling callbacks and followers,
and publishing events. What a callback does is given from outside, as the way to take its steps.
-/

set_option autoImplicit false
set_option relaxedAutoImplicit false

namespace Phrasebook.Script

/-- A way to take the steps of a callback. -/
abbrev Runner := List Step → Act Unit

namespace Act

variable [FailureTexts] [Globbing]

def chainOf (rules : List (Nat × Rule.Sample)) : Chain World :=
  rules.map fun (instanceId, sample) => sample.rule World.access instanceId

def rendered (chain : Chain World) (request : Request) : Act Text := do
  let policy := (← Attempt.read).policy
  (Asking.render World.source chain policy request).mapFault .raised

def display (id : Nat) (text : Text) : Act Unit := do
  let r ← rendererOf id
  happens (.shown r.name text)
  setRenderer id { r with sink := r.sink.give text }
  if r.sink.refusesNext text then throw .sinkFailed

/-- What the display of a renderer works with. -/
def outlet (id : Nat) (rules : List (Nat × Rule.Sample)) (policy : Text) :
    Display.Outlet Fault World where
  source := World.source
  chain := chainOf rules
  policy := policy
  sink := display id
  escape := .raised

/-- Renders the request of a renderer again, if it has one. -/
def refresh (id : Nat) : Act Unit := do
  let r ← rendererOf id
  let policy := (← Attempt.read).policy
  (Display.refresh (outlet id r.rules policy)).within (fun w => (r.display, w))
    fun (display, w) _ => w.keep id display

def setString (id : Nat) (request : Request) : Act Unit := do
  let r ← rendererOf id
  setRenderer id { r with display := { r.display with request := some request } }
  refresh id

def call (run : Runner) (id : Nat) (callback : Callback Step) (event : Option Event) : Act Unit := do
  happens (.called callback.name event)
  let calls := ((← Attempt.read).calls.get? id).getD 0 + 1
  Attempt.change fun w => { w with calls := w.calls.insert id calls }
  run (callback.actions calls)

def invoke (run : Runner) (event : Event) : Subscriber → Act Unit
  | .callback id callback => call run id callback (some event)
  | .follower id => do
    Attempt.report
      (.localeChangedReceived ((event.metadata.get? "locale".toList).getD .none))
    match (← Attempt.read).followers.get? id with
    | some ⟨_, _, .renderer r⟩ => refresh r
    | some ⟨_, _, .callback c callback⟩ => call run c callback none
    | none => return ()

def channel (run : Runner) (notifier : Nat) : Channel World Subscriber where
  registry := registry notifier
  name := Subscriber.name
  call subscriber event := do
    match ← (invoke run event subscriber).run with
    | .ok () => return .ok ()
    | .error fault => return .error fault.message

def publish (run : Runner) (notifier : Nat) (event : Event) : Act Nat :=
  (Asking.publish (channel run notifier) event).mapFault .raised

def subscribe (notifier : Nat) (eventType : Text) (subscriber : Subscriber) : Act Handle := do
  let (handle, r) := (registry notifier (← Attempt.read)).subscribe eventType subscriber
  setRegistry r
  Attempt.report (.subscribedEventHandler subscriber.name eventType (r.count eventType))
  return handle

/-- Gives up a subscription, and tells whether there was one. -/
def unsubscribe (notifier : Nat) (handle : Handle) : Act Bool := do
  let r := registry notifier (← Attempt.read)
  if r.isRegistered handle then
    setRegistry (r.unsubscribe handle)
    Attempt.report (.unsubscribedEventHandler handle.eventType)
    return true
  else return false

def clear (notifier : Nat) : Act Unit := do
  setRegistry (registry notifier (← Attempt.read)).clear
  Attempt.report .clearedAllSubscriptions

def openFollower (notifier : Nat) (target : Target) : Act Nat := do
  let id ← fresh
  let handle ← subscribe notifier localeChanged (.follower id)
  Attempt.change fun w =>
    { w with followers := w.followers.insert id { notifier, handle := some handle, target } }
  return id

def isFollowing (id : Nat) : Act Bool := do
  return ((← Attempt.read).followers.get? id).any fun f => f.handle.isSome

/-- Closes a follower; a closed one is left as it is. -/
def closeFollower (id : Nat) : Act Unit := do
  match (← Attempt.read).followers.get? id with
  | some f =>
    match f.handle with
    | some handle =>
      let _ ← unsubscribe f.notifier handle
      Attempt.change fun w =>
        { w with followers := w.followers.insert id { f with handle := none } }
    | none => return ()
  | none => return ()

/-- The notifier that renderers follow: that of the manager or, with a source made by a script, the one
that is the main one now. -/
def followedNotifier : Act Nat := do
  match (← Attempt.read).backing with
  | .stubs _ => notifier mainName
  | .managed _ => return mainNotifier

def makeRenderer (name : Text) (options : RendererOptions) (usual : List Rule.Sample) : Act Nat := do
  let id ← fresh
  let samples := options.rules.getD usual
  let first := (← Attempt.read).fresh
  Attempt.change fun w => { w with fresh := first + samples.length }
  let numbered := samples.mapIdx fun i sample => (first + i, sample)
  setRenderer id { name, rules := numbered, sink := { refuses := options.refuses } }
  if options.follow then
    let follower ← openFollower (← followedNotifier) (.renderer id)
    setRenderer id { (← rendererOf id) with follower := some follower }
  return id

/-- Lets a renderer no longer follow the locale. -/
def closeRenderer (id : Nat) : Act Unit := do
  match (← rendererOf id).follower with
  | some follower =>
    closeFollower follower
    setRenderer id { (← rendererOf id) with follower := none }
  | none => return ()

/-- Makes another locale the active one and tells the subscribers. The answer is whether the locale
was another one before. -/
def setLocale (run : Runner) (given : Value) : Act Bool := do
  let locale ← Attempt.ofExcept given.asLocale
  if locale = (← managed).manager.active then return false
  let previous ← managing (Manager.activate · locale)
  let metadata : Dict Text Value :=
    .ofList [("locale".toList, .text locale.tag), ("previous_locale".toList, .text previous.tag)]
  let _ ← publish run mainNotifier { eventType := localeChanged, metadata }
  return true

/-- What a display works with that shows its text in a sink of its own, beside the world. -/
def besideWorld (policy : Text) : Display.Outlet Fault (Sink × World) where
  source := World.source.beside
  chain := Chain.builtIn fun s => World.tag s.2
  policy := policy
  sink text := Attempt.change fun (sink, w) => (sink.give text, w)
  escape := .raised

/-- Renders once: a display with the usual rules, of which no notifier knows, is given the request and
shows it in a sink of its own. The text is that of the sink; display and sink are gone then. -/
def renderOnce (request : Request) : Act Text := ExceptT.mk fun w =>
  let shown := (Display.setString (besideWorld w.policy) request).run ({}, {}, w)
  ⟨shown.value.map fun () => shown.state.2.1.text, shown.state.2.2, shown.reports⟩

end Act

end Phrasebook.Script
