import Mathlib.Data.List.Chain
import Phrasebook.Proofs.Notifier.Evolution
import Phrasebook.Proofs.Script.Acts

/-!
What a subscriber is told of the changes of the locale: how the events hang together, which of them a
callback receives, and what its place among the subscribers means for their order.
-/

set_option autoImplicit false
set_option relaxedAutoImplicit false

namespace Phrasebook

def Event.locale (e : Event) : Option Value := e.metadata.get? "locale".toList

def Event.previousLocale (e : Event) : Option Value := e.metadata.get? "previous_locale".toList

namespace Script

open Act (announcement)

theorem announcement_locale (previous locale : Locale) :
    (announcement previous locale).locale = some (.text locale.tag) := rfl

theorem announcement_previousLocale (previous locale : Locale) :
    (announcement previous locale).previousLocale = some (.text previous.tag) := rfl

/-- The events of a way from one active locale to another: each tells of a change from the locale to
which the one before it has led. -/
structure Leads (start : Locale) (events : List Event) (finish : Locale) : Prop where
  first : ∀ e ∈ events.head?, e.previousLocale = some (.text start.tag)
  chained : events.IsChain fun e next => next.previousLocale = e.locale
  last : ∀ e ∈ events.getLast?, e.locale = some (.text finish.tag)
  stays : events = [] → finish = start

namespace Leads

variable {start middle : Locale} {events : List Event}

theorem nil (start : Locale) : Leads start [] start :=
  ⟨nofun, .nil, nofun, fun _ => rfl⟩

private theorem announce (h : Leads start events middle) (finish : Locale) :
    Leads start (events ++ [announcement middle finish]) finish := by
  refine ⟨?_, ?_, ?_, by simp⟩
  · intro e he
    cases events with
    | nil =>
      obtain rfl : announcement middle finish = e := Option.some.inj he
      rw [← h.stays rfl]
      exact announcement_previousLocale middle finish
    | cons first more => exact h.first e he
  · refine h.chained.append (.singleton _) ?_
    intro e he next hnext
    obtain rfl : announcement middle finish = next := Option.some.inj hnext
    rw [h.last e he]
    exact announcement_previousLocale middle finish
  · intro e he
    rw [List.getLast?_concat] at he
    obtain rfl : announcement middle finish = e := Option.some.inj he
    exact announcement_locale middle finish

end Leads

/-- Events that lead from one active locale to another: in some order, and in the order in which they
come if that is asked for. -/
def LeadsInSomeOrder (inOrder : Prop) (start finish : Locale) (events : List Event) : Prop :=
  ∃ changes, Leads start changes finish ∧ events.Perm changes ∧ (inOrder → events = changes)

/-- The event of one more change may come before others that are still owed, but not in order. -/
theorem LeadsInSomeOrder.announce {inOrder : Prop} {start locale : Locale} {received owed : List Event}
    (h : LeadsInSomeOrder inOrder start locale (received ++ owed)) (howed : inOrder → owed = [])
    (next : Locale) :
    LeadsInSomeOrder inOrder start next (received ++ announcement locale next :: owed) := by
  obtain ⟨changes, hleads, hperm, hsame⟩ := h
  refine ⟨changes ++ [announcement locale next], hleads.announce next, ?_, ?_⟩
  · have hfront : (received ++ announcement locale next :: owed).Perm
        (announcement locale next :: changes) :=
      List.perm_middle.trans (hperm.cons _)
    exact hfront.trans (List.perm_append_singleton _ _).symm
  · intro hin
    rw [← hsame hin, howed hin, List.append_nil]

/-- The event that a callback of a name receives. -/
def Happening.received (name : Text) : Happening → Option Event
  | .called callback event => if callback = name then event else none
  | _ => none

def World.receivedBy (name : Text) (w : World) : List Event :=
  w.happenings.filterMap (Happening.received name)

theorem World.receivedBy_append {w w' : World} {more : List Happening}
    (h : w'.happenings = w.happenings ++ more) (name : Text) :
    w'.receivedBy name = w.receivedBy name ++ more.filterMap (Happening.received name) := by
  rw [receivedBy, h, List.filterMap_append]
  rfl

/-- The events that a callback of a name receives in the steps of a script. -/
def World.received (depth : Nat) (name : Text) : List Step → World → List Event
  | [], _ => []
  | step :: steps, w =>
    let taken := ((take depth step).run { w with happenings := [] }).state
    taken.receivedBy name ++ received depth name steps taken

/-- The steps of a service that bring no callback of a name into play, nor a callback that does. -/
inductive Spares (name : Text) : Step → Prop
  | listen (told handle : Text) (callback : Callback Step) (hname : callback.name ≠ name)
    (h : ∀ calls, ∀ step ∈ callback.actions calls, Spares name step) :
    Spares name (.onManager told (.listen handle callback))
  | other {step : Step}
    (h : ∀ told handle callback, step ≠ .onManager told (.listen handle callback)) : Spares name step

namespace Subscriber

/-- A subscriber is not a callback of a name and brings none into play. -/
def Spares (name : Text) : Subscriber → Prop
  | .callback _ c => c.name ≠ name ∧ ∀ calls, ∀ step ∈ c.actions calls, Script.Spares name step
  | .follower _ => True

/-- A subscriber never changes the locale when it is called. -/
def Heeds : Subscriber → Prop
  | .callback _ c => ∀ calls told given, .onManager told (.setLocale given) ∉ c.actions calls
  | .follower _ => True

end Subscriber

/-- A callback that is subscribed to the changes of the locale under a handle. -/
structure Listener where
  handle : Handle
  id : Nat
  callback : Callback Step

namespace Listener

def name (l : Listener) : Text := l.callback.name

def subscription (l : Listener) : Subscription Subscriber := ⟨l.handle, .callback l.id l.callback⟩

end Listener

/-- A listener among the other subscribers, none of which takes its name. If order is asked for, nobody
ahead of it changes the locale as long as it is registered. -/
structure Placed (l : Listener) (inOrder : Prop) (r : Registry Subscriber) : Prop where
  old : l.handle.serial < r.next
  others : ∀ s ∈ r.of localeChanged, s.handle ≠ l.handle → s.subscriber.Spares l.name
  place : r.isRegistered l.handle = true → ∃ ahead behind,
    r.of localeChanged = ahead ++ l.subscription :: behind ∧
      (inOrder → ∀ s ∈ ahead, s.subscriber.Heeds)

namespace Placed

variable {l : Listener} {inOrder : Prop} {r : Registry Subscriber}

theorem subscribe (h : Placed l inOrder r) {subscriber : Subscriber}
    (hspares : subscriber.Spares l.name) :
    Placed l inOrder (r.subscribe localeChanged subscriber).2 := by
  refine ⟨Nat.lt_succ_of_lt h.old, ?_, ?_⟩
  · intro s hs hother
    rcases Registry.mem_subscribe.mp hs with hs | ⟨-, rfl⟩
    · exact h.others s hs hother
    · exact hspares
  · intro hnow
    have hevolves : r.Evolves (r.subscribe localeChanged subscriber).2 :=
      .single (.subscribe r localeChanged subscriber)
    have hbefore := Registry.Evolves.isRegistered hevolves h.old hnow
    obtain ⟨ahead, behind, hsplit, hheeds⟩ := h.place hbefore
    refine ⟨ahead, behind ++ [⟨⟨r.id, r.next, localeChanged⟩, subscriber⟩], ?_, hheeds⟩
    rw [Registry.of_subscribe, if_pos rfl, hsplit]
    simp

theorem unsubscribe (h : Placed l inOrder r) (handle : Handle) :
    Placed l inOrder (r.unsubscribe handle) := by
  refine ⟨?_, fun s hs => h.others s (Registry.mem_of_mem_unsubscribe hs), ?_⟩
  · rw [Registry.next_unsubscribe]
    exact h.old
  · intro hnow
    have hevolves : r.Evolves (r.unsubscribe handle) := .single (.unsubscribe r handle)
    have hbefore := Registry.Evolves.isRegistered hevolves h.old hnow
    obtain ⟨ahead, behind, hsplit, hheeds⟩ := h.place hbefore
    -- otherwise it would be the listener that goes
    have hkept : l.handle ≠ handle := by
      rintro rfl
      obtain ⟨s, hs, hhandle⟩ := (Registry.isRegistered_iff _ _).mp hnow
      rw [Registry.of_unsubscribe, if_pos rfl] at hs
      simp [Registry.remove, hhandle] at hs
    rw [Registry.of_unsubscribe]
    by_cases htype : localeChanged = handle.eventType
    · refine ⟨Registry.remove handle ahead, Registry.remove handle behind, ?_, ?_⟩
      · rw [if_pos htype, ← htype, hsplit]
        simp [Registry.remove, Listener.subscription, hkept]
      · intro hin s hs
        exact hheeds hin s (List.mem_of_mem_filter hs)
    · rw [if_neg htype]
      exact ⟨ahead, behind, hsplit, hheeds⟩

end Placed

end Script

end Phrasebook
