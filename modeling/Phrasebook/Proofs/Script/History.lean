import Mathlib.Data.List.Induction
import Phrasebook.Proofs.Manager.Holding
import Phrasebook.Proofs.Script.Switching

/-!
A manager over a course of time in which its files change and loads succeed or fail. What it holds may
be old, but every catalog is that of the files as they were together at one time.
-/

set_option autoImplicit false
set_option relaxedAutoImplicit false

namespace Phrasebook.Script

/-- What is done to a manager, to its loader alone, or to the files. -/
inductive Operation
  | write (changes : List (Text × Option FileContent))
  | load (locale : Locale)
  | loadEvery
  | clearCache
  | loadAll
  | loadLocale (locale : Locale)
  | setLocale (given : Value)
  | reload

namespace Operation

def clears : Operation → Bool
  | clearCache | reload => true
  | _ => false

def isReload : Operation → Bool
  | reload => true
  | _ => false

private theorem isReload_of_clears {op : Operation} (h : op.clears = false) : op.isReload = false := by
  cases op <;> first | rfl | cases h

end Operation

section

variable [Globbing]

namespace Operation

def managing (disk : Directory) : Operation → Manager.Managing Unit
  | write _ => return ()
  | load locale => do let _ ← Manager.withLoader (Loader.load disk locale)
  | loadEvery => do let _ ← Manager.withLoader (Loader.loadAll disk)
  | clearCache => Manager.withLoader (ExceptT.lift Loader.clearCache)
  | loadAll => Manager.loadAll disk
  | loadLocale locale => Manager.loadLocale disk locale
  | setLocale given => do
    let locale ← Attempt.ofExcept given.asLocale
    unless locale = (← Attempt.read).active do
      let _ ← Manager.activate disk locale
  | reload => Manager.reload disk

/-- What becomes of a manager and its files, whether or not the operation succeeds. -/
def apply (op : Operation) (m : Managed) : Managed where
  manager := ((op.managing m.disk).run m.manager).state
  disk :=
    match op with
    | write changes => m.disk.change changes
    | _ => m.disk
  writable := m.writable

end Operation

namespace Managed

variable {start : Managed} {stop stop' : Operation → Bool} {history : List Operation}
  {directory : Text} {locale : Locale} {catalog : Catalog}

def after (m : Managed) (history : List Operation) : Managed :=
  history.foldl (fun m op => op.apply m) m

private theorem after_snoc (m : Managed) (history : List Operation) (op : Operation) :
    m.after (history ++ [op]) = op.apply (m.after history) := by
  simp [after]

/-- A catalog is what the files of its locale made at one time after the last operation of a kind. -/
def MadeSince (start : Managed) (stop : Operation → Bool) (history : List Operation)
    (directory : Text) (locale : Locale) (catalog : Catalog) : Prop :=
  ∃ earlier later, history = earlier ++ later ∧ (∀ op ∈ later, stop op = false) ∧
    (start.after earlier).disk.Makes directory locale catalog

namespace MadeSince

private theorem now (h : (start.after history).disk.Makes directory locale catalog) :
    start.MadeSince stop history directory locale catalog :=
  ⟨history, [], by simp, by simp, h⟩

private theorem snoc {op : Operation} (hop : stop op = false)
    (h : start.MadeSince stop history directory locale catalog) :
    start.MadeSince stop (history ++ [op]) directory locale catalog := by
  obtain ⟨earlier, later, rfl, hlater, hmakes⟩ := h
  refine ⟨earlier, later ++ [op], by simp, ?_, hmakes⟩
  intro other hother
  rcases List.mem_append.mp hother with hother | hother
  · exact hlater other hother
  · rw [List.mem_singleton.mp hother]
    exact hop

private theorem weaken (hstop : ∀ op, stop op = false → stop' op = false)
    (h : start.MadeSince stop history directory locale catalog) :
    start.MadeSince stop' history directory locale catalog := by
  obtain ⟨earlier, later, hsplit, hlater, hmakes⟩ := h
  exact ⟨earlier, later, hsplit, fun op hop => hstop op (hlater op hop), hmakes⟩

end MadeSince

end Managed

namespace Operation

variable {directory : Text} {P Q : Locale → Catalog → Prop} {m : Managed}

private theorem manager_apply_load (locale : Locale) (m : Managed) :
    ((load locale).apply m).manager =
      { m.manager with loader := ((Loader.load m.disk locale).run m.manager.loader).state } :=
  Manager.withLoader_bind_state _ (fun _ _ => rfl) _

private theorem manager_apply_loadEvery (m : Managed) :
    (loadEvery.apply m).manager =
      { m.manager with loader := ((Loader.loadAll m.disk).run m.manager.loader).state } :=
  Manager.withLoader_bind_state _ (fun _ _ => rfl) _

private theorem manager_apply_clearCache (m : Managed) :
    (clearCache.apply m).manager =
      { m.manager with loader := (Loader.clearCache m.manager.loader).state } := by
  change ((Manager.withLoader (ExceptT.lift Loader.clearCache)).run m.manager).state = _
  rw [Manager.run_withLoader, Attempt.run_lift]

section

variable {given : Value} {locale : Locale}

private theorem apply_setLocale_of_unsupported {fault : Fault} (h : given.asLocale = .error fault)
    (m : Managed) : (setLocale given).apply m = m := by
  have hvalue : ((Attempt.ofExcept given.asLocale : Manager.Managing Locale).run
      m.manager).value = .error fault := h
  unfold apply managing
  dsimp only
  rw [Attempt.run_bind_of_error hvalue, Attempt.run_ofExcept]

private theorem apply_setLocale_of_active (h : given.asLocale = .ok m.manager.active) :
    (setLocale given).apply m = m := by
  unfold apply managing
  dsimp only
  rw [h, Attempt.run_bind_of_run_eq (Attempt.run_ofExcept _ _), Attempt.run_read_bind, if_pos rfl]
  rfl

private theorem apply_setLocale_of_other (h : given.asLocale = .ok locale)
    (hother : locale ≠ m.manager.active) :
    (setLocale given).apply m =
      { m with manager := ((Manager.activate m.disk locale).run m.manager).state } := by
  unfold apply managing
  dsimp only
  rw [h, Attempt.run_bind_of_run_eq (Attempt.run_ofExcept _ _), Attempt.run_read_bind, if_neg hother]
  cases hvalue : ((Manager.activate m.disk locale).run m.manager).value with
  | error fault => rw [Attempt.run_bind_of_error hvalue]
  | ok previous =>
    rw [Attempt.run_bind_of_ok hvalue]
    rfl

end

private theorem setLocale_state (run : Runner) {w : World} (hbacking : w.backing = .managed m)
    (given : Value) :
    let outcome := (Act.setLocale run given).run w
    let switched : World := { w with backing := .managed ((setLocale given).apply m) }
    outcome.state = switched ∨
      ∃ event, outcome.state = ((Act.channel run mainNotifier).publish event switched).state := by
  have hsame : { w with backing := .managed m } = w := by
    rw [← hbacking]
  cases hgiven : given.asLocale with
  | error fault =>
    left
    rw [Act.setLocale_run_of_unsupported hgiven, apply_setLocale_of_unsupported hgiven, hsame]
  | ok locale =>
    by_cases hactive : locale = m.manager.active
    · left
      subst hactive
      rw [Act.setLocale_run_of_active hbacking hgiven, apply_setLocale_of_active hgiven, hsame]
    · rw [apply_setLocale_of_other hgiven hactive]
      cases hvalue : ((Manager.activate m.disk locale).run m.manager).value with
      | error fault =>
        left
        rw [Act.setLocale_run_of_activate_error hbacking hgiven hactive hvalue]
      | ok previous =>
        right
        exact ⟨_, (Act.setLocale_of_switch run hbacking hgiven hactive hvalue).2⟩

private theorem holds_apply
    (hmakes : ∀ {locale catalog}, m.disk.Makes directory locale catalog → P locale catalog)
    (hPQ : ∀ {locale catalog}, P locale catalog → Q locale catalog)
    (h : m.manager.Holds directory P Q) {op : Operation} (hop : op.clears = false) :
    (op.apply m).manager.Holds directory P Q := by
  cases op with
  | write changes => exact h
  | load locale =>
    rw [manager_apply_load]
    exact ⟨(h.loader.load hmakes locale).1, h.catalogs⟩
  | loadEvery =>
    rw [manager_apply_loadEvery]
    exact ⟨(h.loader.loadAll hmakes).1, h.catalogs⟩
  | clearCache => cases hop
  | loadAll => exact h.loadAll hmakes hPQ
  | loadLocale locale => exact h.loadLocale hmakes hPQ locale
  | setLocale given =>
    cases hgiven : given.asLocale with
    | error fault =>
      rw [apply_setLocale_of_unsupported hgiven]
      exact h
    | ok locale =>
      by_cases hactive : locale = m.manager.active
      · rw [apply_setLocale_of_active (hactive ▸ hgiven)]
        exact h
      · rw [apply_setLocale_of_other hgiven hactive]
        exact h.activate hmakes hPQ locale
  | reload => cases hop

end Operation

private theorem Managed.holds_after {start : Managed} {directory : Text}
    (h : start.manager.Holds directory (fun _ _ => False) fun _ _ => False)
    (history : List Operation) :
    (start.after history).manager.Holds directory
      (start.MadeSince Operation.clears history directory)
      (start.MadeSince Operation.isReload history directory) := by
  induction history using List.reverseRecOn with
  | nil => exact h.weaken False.elim False.elim
  | append_singleton history op ih =>
    have hweaken : ∀ {history locale catalog},
        start.MadeSince Operation.clears history directory locale catalog →
          start.MadeSince Operation.isReload history directory locale catalog :=
      fun hmade => hmade.weaken fun _ => Operation.isReload_of_clears
    rw [after_snoc]
    cases hop : op.clears with
    | false =>
      have hreload : op.isReload = false := Operation.isReload_of_clears hop
      refine Operation.holds_apply ?_ hweaken (ih.weaken (.snoc hop) (.snoc hreload)) hop
      intro locale catalog hmakes
      exact (MadeSince.now hmakes).snoc hop
    | true =>
      cases op with
      | clearCache =>
        rw [Operation.manager_apply_clearCache]
        exact ⟨ih.loader.clearCache, fun hheld => (ih.catalogs hheld).snoc rfl⟩
      | reload =>
        -- a reload leaves the files alone, so what it reads is what they make after it
        have hmakes : ∀ {locale catalog}, (start.after history).disk.Makes directory locale catalog →
            start.MadeSince Operation.clears (history ++ [.reload]) directory locale catalog := by
          intro locale catalog hmakes
          refine .now ?_
          rw [after_snoc]
          exact hmakes
        exact (ih.reload hmakes).weaken id hweaken
      | _ => cases hop

/-- Whatever happens to the files and whatever loads fail in between, a catalog in the cache is all that
the files of its locale made together at one time since the cache was last cleared, and a catalog of
the manager at one time since it was last reloaded. A switch of the locale in a world is the next
operation on its manager, and after that no more than the publication of an event. -/
theorem held_catalogs_made (path : Text) (useCache : Bool) (active fallback : Locale)
    (disk : Directory) (writable : Bool) (history : List Operation) :
    let start : Managed :=
      { manager := { loader := .files { path, useCache }, active, fallback }, disk, writable }
    let now := start.after history
    (∀ loader locale catalog, now.manager.loader = .files loader →
      loader.cache.get? locale = some catalog →
        ∃ earlier later, history = earlier ++ later ∧ (∀ op ∈ later, op.clears = false) ∧
          (start.after earlier).disk.Makes path locale catalog) ∧
    (∀ locale catalog, now.manager.catalogs.get? locale = some catalog →
      ∃ earlier later, history = earlier ++ later ∧ (∀ op ∈ later, op.isReload = false) ∧
        (start.after earlier).disk.Makes path locale catalog) ∧
    ∀ (run : Runner) (w : World) (given : Value), w.backing = .managed now →
      let next := start.after (history ++ [.setLocale given])
      let switched : World := { w with backing := .managed next }
      let outcome := (Act.setLocale run given).run w
      outcome.state = switched ∨
        ∃ event, outcome.state = ((Act.channel run mainNotifier).publish event switched).state := by
  intro start now
  have hstart : start.manager.Holds path (fun _ _ => False) fun _ _ => False :=
    ⟨⟨rfl, nofun⟩, nofun⟩
  obtain ⟨hloader, hcatalogs⟩ := Managed.holds_after hstart history
  refine ⟨?_, fun locale catalog hheld => hcatalogs hheld, ?_⟩
  · intro loader locale catalog hfiles hkept
    rw [hfiles] at hloader
    exact hloader.cache hkept
  · intro run w given hbacking next
    simp only [next, Managed.after_snoc]
    exact Operation.setLocale_state run hbacking given

end

def greetingFile (greeting : Text) : FileContent :=
  .document (.dict [(.text "strings".toList, .dict [(.text "greet".toList, .text greeting)])])

/-- A greeting is loaded, changed and loaded again without the manager; then the file is deleted, and
loads fail. -/
def changingGreeting : List Operation :=
  [.loadLocale .enUS, .write [("en-US.yml".toList, some (greetingFile "Hi".toList))], .clearCache,
    .load .enUS, .write [("en-US.yml".toList, none)], .loadLocale .frFR, .loadAll]

theorem held_catalogs_made_changingGreeting :
    let start : Managed :=
      { manager := { loader := .files { path := ['d'], useCache := true }, active := .enUS,
                     fallback := .enUS }
        disk := .ofList [("en-US.yml".toList, greetingFile "Hello".toList)]
        writable := true }
    let now := start.after changingGreeting
    (∃ loader catalog, now.manager.loader = .files loader ∧
      loader.cache.get? .enUS = some catalog ∧
      catalog.template? "greet".toList = some "Hi".toList ∧
      ∃ earlier later, changingGreeting = earlier ++ later ∧ (∀ op ∈ later, op.clears = false) ∧
        (start.after earlier).disk.Makes ['d'] .enUS catalog) ∧
    ∃ catalog, now.manager.catalogs.get? .enUS = some catalog ∧
      catalog.template? "greet".toList = some "Hello".toList ∧
      ∃ earlier later, changingGreeting = earlier ++ later ∧ (∀ op ∈ later, op.isReload = false) ∧
        (start.after earlier).disk.Makes ['d'] .enUS catalog := by
  intro start now
  have hcached : (if let .files loader := now.manager.loader then
      (loader.cache.get? .enUS).bind (·.template? "greet".toList) else none) = some "Hi".toList := by
    decide +kernel
  have hheld : (now.manager.catalogs.get? .enUS).bind (·.template? "greet".toList) =
      some "Hello".toList := by
    decide +kernel
  obtain ⟨hcache, hcatalogs, -⟩ :=
    held_catalogs_made ['d'] true .enUS .enUS start.disk true changingGreeting
  constructor
  · cases hloader : now.manager.loader with
    | files loader =>
      rw [hloader] at hcached
      obtain ⟨catalog, hcatalog, htemplate⟩ := Option.bind_eq_some_iff.mp hcached
      exact ⟨loader, catalog, rfl, hcatalog, htemplate, hcache loader _ _ hloader hcatalog⟩
    | memory loader =>
      rw [hloader] at hcached
      cases hcached
  · obtain ⟨catalog, hcatalog, htemplate⟩ := Option.bind_eq_some_iff.mp hheld
    exact ⟨catalog, hcatalog, htemplate, hcatalogs _ _ hcatalog⟩

end Phrasebook.Script
