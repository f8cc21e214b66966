import Phrasebook.Proofs.Notifier.Ledger
import Phrasebook.Proofs.Script.Registration

/-!
The history of a notifier in a world: what was asked of it, by the script or by callbacks in the
midst of a delivery, with the answers that were given. Whatever else happens, its registry is in
accord with that.
-/

set_option autoImplicit false
set_option relaxedAutoImplicit false

namespace Phrasebook.Script

open Act (registry)
open Registry (Deed)

/-- What comes to pass from a first world on, with all that is asked of a notifier on the way and
the answers to it. Whatever leaves the registry of the notifier alone may happen in between, be it
the beginning, the course or the end of a delivery. -/
inductive Course (notifier : Nat) (first : World) : List (Deed Subscriber) → World → Prop
  | start : Course notifier first [] first
  | subscribe {history : List (Deed Subscriber)} {w : World} (h : Course notifier first history w)
    (eventType : Text) (subscriber : Subscriber) {handle : Handle}
    (hgiven : ((Act.subscribe notifier eventType subscriber).run w).value = .ok handle) :
    Course notifier first (history ++ [.subscribed ⟨handle, subscriber⟩])
      ((Act.subscribe notifier eventType subscriber).run w).state
  | unsubscribe {history : List (Deed Subscriber)} {w : World} (h : Course notifier first history w)
    (handle : Handle) {answer : Bool}
    (hanswer : ((Act.unsubscribe notifier handle).run w).value = .ok answer) :
    Course notifier first (history ++ [.unsubscribed handle answer])
      ((Act.unsubscribe notifier handle).run w).state
  | clear {history : List (Deed Subscriber)} {w : World} (h : Course notifier first history w) :
    Course notifier first (history ++ [.cleared]) ((Act.clear notifier).run w).state
  | elsewhere {history : List (Deed Subscriber)} {w w' : World}
    (h : Course notifier first history w) (hmoves : World.Moves w w')
    (hsame : registry notifier w' = registry notifier w) :
    Course notifier first history w'

namespace Course

variable {notifier : Nat} {first w w' : World} {history : List (Deed Subscriber)}

private theorem moves (h : Course notifier first history w) : World.Moves first w := by
  have inv := World.Moves.invariant first
  induction h with
  | start => exact .refl
  | subscribe _ eventType subscriber _ ih => exact inv.subscribe _ eventType subscriber _ ih
  | unsubscribe _ handle _ ih => exact inv.unsubscribe _ handle _ ih
  | clear _ ih => exact inv.clear _ _ ih
  | elsewhere _ hmoves _ ih => exact ih.trans hmoves

private theorem registry_set {r : Registry Subscriber} (hid : r.id = notifier) :
    registry notifier { w with registries := w.registries.insert r.id r } = r := by
  rw [World.registry_insert, if_pos hid.symm]

private theorem registry_subscribe (hid : (registry notifier w).id = notifier) (eventType : Text)
    (subscriber : Subscriber) :
    registry notifier ((Act.subscribe notifier eventType subscriber).run w).state =
      ((registry notifier w).subscribe eventType subscriber).2 := by
  have hkept : ((registry notifier w).subscribe eventType subscriber).2.id = notifier := hid
  rw [Act.subscribe_run]
  exact registry_set hkept

private theorem registry_unsubscribe (hid : (registry notifier w).id = notifier) {handle : Handle}
    (h : (registry notifier w).isRegistered handle = true) :
    registry notifier ((Act.unsubscribe notifier handle).run w).state =
      (registry notifier w).unsubscribe handle := by
  have hkept : ((registry notifier w).unsubscribe handle).id = notifier := by
    rw [Registry.id_unsubscribe, hid]
  rw [Act.unsubscribe_run_of_registered h]
  exact registry_set hkept

private theorem registry_clear (hid : (registry notifier w).id = notifier) :
    registry notifier ((Act.clear notifier).run w).state = (registry notifier w).clear := by
  have hkept : (registry notifier w).clear.id = notifier := hid
  rw [Act.clear_run]
  exact registry_set hkept

/-- What is kept all along: the history is lawful, the registry is in accord with it, and it stays
the one of the notifier. -/
structure Kept (notifier : Nat) (history : List (Deed Subscriber)) (w : World) : Prop where
  lawful : Registry.Lawful history
  tallies : Registry.Tallies history (registry notifier w)
  id_eq : (registry notifier w).id = notifier

namespace Kept

private theorem does {deed : Deed Subscriber} (h : Kept notifier history w)
    (hdoes : Registry.Does (registry notifier w) deed (registry notifier w'))
    (hid : (registry notifier w').id = notifier) : Kept notifier (history ++ [deed]) w' :=
  ⟨h.tallies.lawful h.lawful hdoes, h.tallies.does hdoes, hid⟩

private theorem subscribe (h : Kept notifier history w) (eventType : Text) (subscriber : Subscriber)
    {handle : Handle}
    (hgiven : ((Act.subscribe notifier eventType subscriber).run w).value = .ok handle) :
    Kept notifier (history ++ [.subscribed ⟨handle, subscriber⟩])
      ((Act.subscribe notifier eventType subscriber).run w).state := by
  have hregistry := registry_subscribe h.id_eq eventType subscriber
  obtain rfl : ((registry notifier w).subscribe eventType subscriber).1 = handle :=
    Except.ok.inj hgiven
  refine h.does ?_ ?_
  · rw [hregistry]
    exact .subscribe _ eventType subscriber
  · rw [hregistry]
    exact h.id_eq

private theorem unsubscribe (h : Kept notifier history w) (handle : Handle) {answer : Bool}
    (hanswer : ((Act.unsubscribe notifier handle).run w).value = .ok answer) :
    Kept notifier (history ++ [.unsubscribed handle answer])
      ((Act.unsubscribe notifier handle).run w).state := by
  by_cases hregistered : (registry notifier w).isRegistered handle = true
  · have hregistry := registry_unsubscribe h.id_eq hregistered
    rw [Act.unsubscribe_run_of_registered hregistered] at hanswer
    obtain rfl : true = answer := Except.ok.inj hanswer
    refine h.does ?_ ?_
    · rw [hregistry]
      exact .remove hregistered
    · rw [hregistry, Registry.id_unsubscribe, h.id_eq]
  · rw [Act.unsubscribe_run_of_not_registered hregistered] at hanswer ⊢
    obtain rfl : false = answer := Except.ok.inj hanswer
    exact h.does (.refuse hregistered) h.id_eq

private theorem clear (h : Kept notifier history w) :
    Kept notifier (history ++ [.cleared]) ((Act.clear notifier).run w).state := by
  have hregistry := registry_clear h.id_eq
  refine h.does ?_ ?_
  · rw [hregistry]
    exact .clear _
  · rw [hregistry]
    exact h.id_eq

end Kept

private theorem kept (hnew : registry notifier first = { id := notifier })
    (h : Course notifier first history w) : Kept notifier history w := by
  induction h with
  | start =>
    refine ⟨.nil, ?_, ?_⟩
    · rw [hnew]
      exact .empty notifier
    · rw [hnew]
  | subscribe _ eventType subscriber hgiven ih => exact ih.subscribe eventType subscriber hgiven
  | unsubscribe _ handle hanswer ih => exact ih.unsubscribe handle hanswer
  | clear _ ih => exact ih.clear
  | elsewhere _ _ hsame ih =>
    obtain ⟨hlawful, htallies, hid⟩ := ih
    rw [← hsame] at htallies hid
    exact ⟨hlawful, htallies, hid⟩

private theorem exists_move (hhoused : World.Houses notifier first)
    (hnew : registry notifier first = { id := notifier }) (h : Course notifier first history w)
    (hmove : World.Move w w') : ∃ more, Course notifier first (history ++ more) w' := by
  have hhoused : World.Houses notifier w := (h.moves.evolves hhoused).1
  have hkept := h.kept hnew
  have elsewhere : registry notifier w' = registry notifier w →
      ∃ more, Course notifier first (history ++ more) w' := by
    intro hsame
    refine ⟨[], ?_⟩
    rw [List.append_nil]
    exact h.elsewhere (.single hmove) hsame
  cases hmove with
  | other hregistries hfresh =>
    refine elsewhere ?_
    simp only [registry, hregistries]
  | found =>
    refine elsewhere ?_
    have hold : notifier ≠ w.fresh := Nat.ne_of_lt hhoused.known
    exact (World.registry_insert w { id := w.fresh } notifier).trans (if_neg hold)
  | @change place r hchange =>
    by_cases hplace : place = notifier
    · subst hplace
      cases hchange with
      | subscribe eventType subscriber => exact ⟨_, h.subscribe eventType subscriber rfl⟩
      | unsubscribe handle =>
        by_cases hregistered : (registry place w).isRegistered handle = true
        · have hrun := Act.unsubscribe_run_of_registered hregistered
          have hanswer : ((Act.unsubscribe place handle).run w).value = .ok true := by rw [hrun]
          have hcourse := h.unsubscribe handle hanswer
          rw [hrun] at hcourse
          exact ⟨_, hcourse⟩
        · refine elsewhere ?_
          rw [hkept.tallies.unsubscribe_eq_self hregistered]
          exact registry_set hkept.id_eq
      | clear => exact ⟨_, h.clear⟩
    · refine elsewhere ?_
      have hid : r.id = place := hchange.id_eq.trans (hhoused.id_eq place)
      rw [World.registry_insert, hid, if_neg (Ne.symm hplace)]

private theorem exists_moves (hhoused : World.Houses notifier first)
    (hnew : registry notifier first = { id := notifier }) (h : Course notifier first history w)
    (hmoves : World.Moves w w') : ∃ more, Course notifier first (history ++ more) w' := by
  induction hmoves with
  | refl => exact ⟨[], by rwa [List.append_nil]⟩
  | tail _ hmove ih =>
    obtain ⟨more, hcourse⟩ := ih
    obtain ⟨last, hlast⟩ := hcourse.exists_move hhoused hnew hmove
    exact ⟨more ++ last, by rwa [← List.append_assoc]⟩

private theorem exists_publish (hhoused : World.Houses notifier first)
    (hnew : registry notifier first = { id := notifier }) (h : Course notifier first history w)
    (depth : Nat) (event : Event) :
    ∃ more, Course notifier first (history ++ more)
      ((Act.publish (takeAll (take depth)) notifier event).run w).state :=
  have inv := World.Moves.invariant w
  h.exists_moves hhoused hnew (inv.publish (inv.takeAll (inv.take depth)) notifier event w .refl)

private theorem unsubscribe_run_value (hnew : registry notifier first = { id := notifier })
    (h : Course notifier first history w) (handle : Handle) :
    ((Act.unsubscribe notifier handle).run w).value =
      .ok (decide (handle ∈ (Registry.live history).map Subscription.handle)) := by
  have hlive := (h.kept hnew).tallies.isRegistered_iff handle
  by_cases hregistered : (registry notifier w).isRegistered handle = true
  · rw [Act.unsubscribe_run_of_registered hregistered, decide_eq_true (hlive.mp hregistered)]
  · rw [Act.unsubscribe_run_of_not_registered hregistered,
      decide_eq_false fun hmem => hregistered (hlive.mpr hmem)]

end Course

/-- The registry of a notifier is in accord with the live handles of its history, in whatever state
it is met, in the midst of a delivery too. To give up a handle removes just that one, where it is
live, and else nothing; to subscribe gives a handle unlike all before it; and to publish an event
makes no difference but by what its callbacks ask of the notifier. -/
theorem registry_refines_history {notifier : Nat} {first w : World}
    {history : List (Deed Subscriber)} (hhoused : World.Houses notifier first)
    (hnew : registry notifier first = { id := notifier }) (h : Course notifier first history w) :
    Registry.Refines history (registry notifier w) ∧
      (∀ handle, ((Act.unsubscribe notifier handle).run w).value =
          .ok (decide (handle ∈ (Registry.live history).map Subscription.handle)) ∧
        ∀ eventType,
          (registry notifier ((Act.unsubscribe notifier handle).run w).state).of eventType =
            ((registry notifier w).of eventType).filter (·.handle ≠ handle)) ∧
      (∀ eventType subscriber, ∃ handle,
        ((Act.subscribe notifier eventType subscriber).run w).value = .ok handle ∧
          ∀ s, .subscribed s ∈ history → s.handle ≠ handle) ∧
      ∀ depth event, ∃ more, Course notifier first (history ++ more)
        ((Act.publish (takeAll (take depth)) notifier event).run w).state := by
  have hkept := h.kept hnew
  refine ⟨hkept.tallies.refines hkept.lawful, ?_, ?_, h.exists_publish hhoused hnew⟩
  · intro handle
    have hvalue := h.unsubscribe_run_value hnew handle
    refine ⟨hvalue, fun eventType => ?_⟩
    rw [(hkept.unsubscribe handle hvalue).tallies.of_eq, hkept.tallies.of_eq,
      Registry.live_unsubscribed, Registry.remove, List.filter_filter, List.filter_filter]
    simp only [Bool.and_comm]
  · intro eventType subscriber
    refine ⟨_, rfl, fun s hs heq => ?_⟩
    obtain ⟨-, hserial⟩ := hkept.tallies.issued s hs
    rw [heq] at hserial
    exact Nat.lt_irrefl _ hserial

def echo : Subscriber := .callback 1 { name := "echo".toList, actions := fun _ => [] }

def echoHandle (serial : Nat) : Handle := ⟨mainNotifier, serial, "e".toList⟩

/-- One callback subscribed twice, and its first handle given up twice, after one that another
notifier might have given out. -/
def echoHistory : List (Deed Subscriber) :=
  [.subscribed ⟨echoHandle 0, echo⟩, .subscribed ⟨echoHandle 1, echo⟩,
    .unsubscribed { echoHandle 1 with registry := 7 } false, .unsubscribed (echoHandle 0) true,
    .unsubscribed (echoHandle 0) false]

theorem registry_refines_history_echo :
    let first : World := { backing := .managed greetingManager, policy := [] }
    ∃ w, Course mainNotifier first echoHistory w ∧
      Registry.Refines echoHistory (registry mainNotifier w) ∧
      (registry mainNotifier w).of "e".toList = [⟨echoHandle 1, echo⟩] := by
  intro first
  have hnew : registry mainNotifier first = { id := mainNotifier } := rfl
  have hstart : Course mainNotifier first [] first := .start
  have htwice : ∃ w, Course mainNotifier first
      [.subscribed ⟨echoHandle 0, echo⟩, .subscribed ⟨echoHandle 1, echo⟩] w :=
    ⟨_, (hstart.subscribe "e".toList echo rfl).subscribe "e".toList echo rfl⟩
  obtain ⟨w, htwice⟩ := htwice
  have hforeign := htwice.unsubscribe _
    (htwice.unsubscribe_run_value hnew { echoHandle 1 with registry := 7 })
  have hremoved := hforeign.unsubscribe _ (hforeign.unsubscribe_run_value hnew (echoHandle 0))
  have hagain := hremoved.unsubscribe _ (hremoved.unsubscribe_run_value hnew (echoHandle 0))
  have hcourse : Course mainNotifier first echoHistory _ := hagain
  obtain ⟨hrefines, -⟩ := registry_refines_history (.start _ _) hnew hcourse
  exact ⟨_, hcourse, hrefines, hrefines.of_eq _⟩

end Phrasebook.Script
