import Phrasebook.Script.Delivery

/-!
Taking the steps of a script. A step inside a callback, or inside a follower or renderer that is open
for a while, is told when it has been taken; a fault ends the list of steps it is in.
-/

set_option autoImplicit false
set_option relaxedAutoImplicit false

namespace Phrasebook.Script

open Act

variable [FailureTexts] [Globbing]

abbrev Taking := Step → Act Answer

/-- Takes steps one after the other and tells each of them. -/
def takeAll (take : Taking) : Runner
  | [] => return ()
  | step :: steps => do
    let answer ← take step
    happens (.did step.name answer)
    takeAll take steps

/-- Takes steps, and closes what was opened for them even if one of them fails. -/
def takeInside {α : Type} (run : Runner) (actions : List Step) (atEnd : Act α) (close : Act Unit) :
    Act α := do
  let outcome ← Attempt.outcome (do run actions; atEnd)
  close
  Attempt.ofExcept outcome

/-- Keeps a handle under a name and answers the type of its events. -/
def keepHandle (name : Text) (handle : Handle) : Act Answer := do
  Attempt.change fun w => { w with handleNames := w.handleNames.insert name handle }
  return .text handle.eventType

def newCallback (callback : Callback Step) : Act Subscriber := do
  return .callback (← fresh) callback

def takeOnNotifier (run : Runner) : NotifierStep Step → Act Answer
  | .notifier name => do
    let id ← fresh
    setRegistry { id }
    Attempt.change fun w => { w with notifierNames := w.notifierNames.insert name id }
    return .nothing
  | .subscribe handle eventType callback on => do
    let subscriber ← newCallback callback
    keepHandle handle (← subscribe (← notifier on) eventType subscriber)
  | .unsubscribe name on => do return .flag (← unsubscribe (← notifier on) (← handle name))
  | .publish event on => do return .number (← publish run (← notifier on) event)
  | .count eventType on => do
    return .number ((registry (← notifier on) (← Attempt.read)).count eventType)
  | .clear on => do
    clear (← notifier on)
    return .nothing
  | .raise message => throw (.raised message)
  | .follower name callback on => do
    let id ← openFollower (← notifier on) (.callback (← fresh) callback)
    Attempt.change fun w => { w with followerNames := w.followerNames.insert name id }
    return .flag (← isFollowing id)
  | .isFollowing name => do return .flag (← isFollowing (← follower name))
  | .closeFollower name => do
    let id ← follower name
    closeFollower id
    return .flag (← isFollowing id)
  | .withFollower name actions => do
    let id ← follower name
    let inside ← takeInside run actions (isFollowing id) (closeFollower id)
    return .flags [inside, ← isFollowing id]

def changeStubs (change : Stubs → Stubs) : Act Unit :=
  Attempt.change fun w =>
    match w.backing with
    | .stubs stubs => { w with backing := .stubs (change stubs) }
    | .managed _ => w

def takeOnRenderer (run : Runner) : RendererStep Step → Act Answer
  | .renderer name options => do
    let usual := match (← Attempt.read).backing with
      | .stubs _ => []
      | .managed _ => [.index, .plural]
    let id ← makeRenderer name options usual
    Attempt.change fun w => { w with rendererNames := w.rendererNames.insert name id }
    return .nothing
  | .setString name request => do
    let id ← renderer name
    setString id request
    return .optionalText (← rendererOf id).display.text
  | .refresh name => do
    let id ← renderer name
    refresh id
    return .optionalText (← rendererOf id).display.text
  | .text name => do
    let r ← rendererOf (← renderer name)
    return .shown r.display.text r.sink.text r.sink.history
  | .request name => do return .request (← rendererOf (← renderer name)).display.request
  | .close name => do
    closeRenderer (← renderer name)
    return .nothing
  | .withRenderer name actions => do
    let id ← renderer name
    takeInside run actions (pure ()) (closeRenderer id)
    return .nothing
  | .rules name => do
    return .rules ((chainOf (← rendererOf (← renderer name)).rules).map Rule.name)
  | .register name rule => do
    let id ← renderer name
    let r ← rendererOf id
    setRenderer id { r with rules := r.rules ++ [(← fresh, rule)] }
    return .nothing
  | .locale new => do
    if let some new := new then changeStubs fun stubs => { stubs with tag := new.asTag }
    return .text (← Attempt.ofExcept ((← Attempt.read).tag.mapError Fault.noText))
  | .putTemplate key entry => do
    changeStubs fun stubs => { stubs with templates := stubs.templates.insert key entry }
    return .nothing
  | .putTable lookupKey answer => do
    changeStubs fun stubs => { stubs with tables := stubs.tables.insert lookupKey answer }
    return .nothing
  | .fetches => do
    match (← Attempt.read).backing with
    | .stubs stubs =>
      changeStubs fun stubs => { stubs with fetched := [] }
      return .texts stubs.fetched
    | .managed _ => return .texts []

def localeOf (given : Value) : Act Locale := Attempt.ofExcept given.asLocale

def sortedTags (locales : List Locale) : List Text := (locales.map Locale.tag).mergeSort Text.le

def takeOnManager (run : Runner) : ManagerStep Step → Act Answer
  | .setLocale given => do return .flag (← setLocale run given)
  | .render request => do return .text (← renderOnce request)
  | .fallback => do
    return .fallback (← Attempt.read).policy (← managed).manager.fallback
  | .listen handle callback => do
    let subscriber ← newCallback callback
    keepHandle handle (← subscribe mainNotifier localeChanged subscriber)
  | .unlisten name => do return .flag (← unsubscribe mainNotifier (← handle name))
  | .loadAll => do
    managing Manager.loadAll
    return .nothing
  | .reload => do
    managing Manager.reload
    return .nothing
  | .loadLocale given => do
    let locale ← localeOf given
    managing (Manager.loadLocale · locale)
    return .nothing
  | .available => do return .texts (sortedTags (← managed).manager.catalogs.keys)
  | .catalog given => do
    let locale ← localeOf given
    return .catalog ((← managed).manager.catalogs.get? locale)
  | .template key => do
    let manager := (← managed).manager
    let (found, reports) := manager.template? key
    ExceptT.lift (Effect.tell reports)
    match found with
    | some template => return .text template
    | none => throw (.templateNotFound key (some manager.active.tag))
  | .row lookupKey => do
    let (found, reports) := (← managed).manager.row? lookupKey
    ExceptT.lift (Effect.tell reports)
    return .row found
  | .hasTemplate key given => do
    let manager := (← managed).manager
    let locale ← match given with
      | some given => localeOf given
      | none => pure manager.active
    return .flag (manager.hasTemplate locale key)
  | .putString given key text => do
    let locale ← localeOf given
    let m ← managed
    let catalog ← expect locale.tag (m.manager.catalogs.get? locale)
    setManaged { m with manager := m.manager.edit catalog (·.putString key text) }
    return .nothing
  | .dropCatalogs => do
    let m ← managed
    setManaged { m with manager := { m.manager with catalogs := ∅ } }
    return .nothing
  | .write changes => do
    let m ← managed
    if m.writable then setManaged { m with disk := m.disk.change changes }
    return .nothing
  | .cached => do return .texts (sortedTags (← managed).manager.loader.cached)
  | .usesCache => do return .flag (← managed).manager.loader.usesCache
  | .clearCache => do
    managing fun _ => Manager.withLoader (ExceptT.lift Loader.clearCache)
    return .nothing
  | .calls => do return .texts ((← managed).manager.loader.calls.map Locale.tag)

/-- Takes a step, with callbacks called within each other up to a depth. -/
def take : Nat → Taking
  | 0, _ => throw .tooDeep
  | depth + 1, step =>
    let run := takeAll (take depth)
    match step with
    | .onNotifier _ step => takeOnNotifier run step
    | .onRenderer _ step => takeOnRenderer run step
    | .onManager _ step => takeOnManager run step

def depthLimit : Nat := 300

structure Record where
  step : Text
  answer : Except Fault Answer
  happenings : List Happening
  entries : List Report.Entry

/-- The steps whose reports come in no particular order. -/
def unordered : List Text := ["setup".toList, "load_all".toList, "reload".toList]

/-- The entries of the reports of a step; those of a step that works on several locales at once are
sorted. -/
def entriesOf (step : Text) (reports : List Report) : List Report.Entry :=
  let entries := reports.map Report.entry
  if unordered.contains step then entries.mergeSort Report.Entry.le else entries

def takeOne (step : Step) (w : World) : Record × World :=
  let outcome := (take depthLimit step).run { w with happenings := [] }
  ({ step := step.name
     answer := outcome.value
     happenings := outcome.state.happenings
     entries := entriesOf step.name outcome.reports }, outcome.state)

/-- Takes the steps of a script one after the other, whatever comes of each. -/
def runScript : List Step → World → List Record
  | [], _ => []
  | step :: steps, w =>
    let (record, w) := takeOne step w
    record :: runScript steps w

end Phrasebook.Script
