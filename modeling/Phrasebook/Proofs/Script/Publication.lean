import Phrasebook.Proofs.Script.Registration

/-!
Which subscribers are called when an event is published, while subscribers come and go in the middle
of it.
-/

set_option autoImplicit false
set_option relaxedAutoImplicit false

namespace Phrasebook

/-- An event is handed, in the order of subscription and once each, to those subscribers of its type
that were registered when it was published and still are when their turn comes, whatever subscribers
do and whichever of them fail; and they are counted. A subscription that has gone at any time before
its turn gets nothing. All this is so if failures have texts: the only thing that ends a delivery before
its time is the failure of a subscriber that raises another one when it is asked for its text. -/
theorem Channel.publish_calls [FailureTexts] {σ κ : Type} {channel : Channel σ κ} {good : σ → Prop}
    (horderly : channel.Orderly good) {st : σ} (hst : good st) {id : Nat}
    (hreached : Registry.Evolves { id } (channel.registry st)) (event : Event) :
    let begun := (channel.registry st).of event.eventType
    let outcome := (Asking.publish channel event).run st
    let upTo := fun before => (Asking.deliver channel event before).run st
    ((∀ failure, Asking.MayMeet channel failure → ∃ text, FailureTexts.ask failure = .ok text) →
      ∃ called : List (Subscription κ),
        (Asking.publish channel.noting event).run (st, []) =
          ⟨outcome.value, (outcome.state, called.map fun s => (s.subscriber, event)),
            outcome.reports⟩ ∧
        outcome.value = .ok called.length ∧
        called.Sublist begun ∧ (called.map Subscription.handle).Nodup ∧
        ∀ before s after, begun = before ++ s :: after →
          let turn := channel.registry (upTo before).state
          (channel.registry st).Evolves turn ∧
            (s ∈ called ↔ turn.isRegistered s.handle = true) ∧
            ∀ r, (channel.registry st).Evolves r → r.Evolves turn →
              ¬ r.isRegistered s.handle = true → s ∉ called) ∧
    ∀ raised, outcome.value = .error raised →
      ∃ before last after failure, begun = before ++ last :: after ∧
        let called := channel.call last.subscriber event (upTo before).state
        (channel.registry (upTo before).state).isRegistered last.handle = true ∧
          called.value = .error failure ∧ FailureTexts.ask failure = .error raised ∧
          outcome.state = called.state := by
  intro begun outcome upTo
  have hsound : (channel.registry st).Sound := hreached.sound (Registry.Sound.empty id)
  have hdistinct : (begun.map Subscription.handle).Nodup := hsound.distinct event.eventType
  refine ⟨fun hgiven => ?_, fun raised hraised => ?_⟩
  · have hends : ∀ pending, ((Asking.deliver channel event pending).run st).value.isOk = true := by
      intro pending
      obtain ⟨reports, hrun⟩ :=
        (Asking.deliver_follows channel event pending).run_of_given hgiven st
      rw [hrun]
      rfl
    let called := Asking.called channel event begun st
    have hserved : ∀ before s after, begun = before ++ s :: after →
        (s ∈ called ↔ (channel.registry (upTo before).state).isRegistered s.handle = true) := by
      intro before s after hsplit
      have hothers : s ∉ before ++ after := by
        have hnodup := hdistinct.of_map
        rw [hsplit, List.nodup_middle, List.nodup_cons] at hnodup
        exact hnodup.1
      obtain ⟨hbefore, hafter⟩ := not_or.mp fun h => hothers (List.mem_append.mpr h)
      simp only [called, hsplit]
      simpa [hends] using Asking.mem_called_iff channel event hbefore hafter st
    have hsub : called.Sublist begun := Asking.called_sublist channel event begun st
    refine ⟨called, ?_, ?_, hsub, hdistinct.sublist (hsub.map _), ?_⟩
    · have hbegun : (channel.noting.registry (st, [])).of event.eventType = begun := rfl
      simp only [outcome, Asking.publish_run, hbegun]
      rw [Asking.deliver_noting]
      rfl
    · simp only [outcome, Asking.publish_run]
      cases hvalue : ((Asking.deliver channel event begun).run st).value with
      | ok count => exact congrArg _ (Asking.deliver_counts hvalue)
      | error raised =>
        have hok := hends begun
        rw [hvalue] at hok
        cases hok
    · intro before s after hsplit turn
      have hs : s ∈ begun := by simp [hsplit]
      obtain ⟨-, -, hold⟩ := hsound.given event.eventType s hs
      refine ⟨Asking.deliver_evolves horderly hst before, hserved before s after hsplit, ?_⟩
      intro r hbefore hafter hgone hcalled
      have hnow : turn.isRegistered s.handle = true := (hserved before s after hsplit).mp hcalled
      exact hgone (hafter.isRegistered (Nat.lt_of_lt_of_le hold hbefore.next_le) hnow)
  · simp only [outcome, Asking.publish_run] at hraised ⊢
    obtain ⟨before, last, after, failure, hsplit, -, hends⟩ := Asking.exists_of_deliver_error hraised
    exact ⟨before, last, after, failure, hsplit, hends⟩

namespace Script

/-- Subscribers that get in each other's way: the first one gives up the second, subscribes another
one and fails, and the third one publishes an event of which a subscriber gives up the fourth. -/
def meddling : List Step :=
  let subscribe (name eventType : String) (actions : List Step) : Step :=
    .onNotifier [] (.subscribe name.toList eventType.toList
      { name := name.toList, actions := fun _ => actions } mainName)
  let unsubscribe (name : String) : Step := .onNotifier [] (.unsubscribe name.toList mainName)
  [subscribe "first" "e"
      [unsubscribe "second", subscribe "late" "e" [], .onNotifier [] (.raise "boom".toList)],
    subscribe "second" "e" [],
    subscribe "third" "e" [.onNotifier [] (.publish { eventType := "f".toList } mainName)],
    subscribe "fourth" "e" [],
    subscribe "fifth" "e" [],
    subscribe "helper" "f" [unsubscribe "fourth"]]

theorem publish_calls_meddling :
    let channel := Act.channel (takeAll (take 2)) mainNotifier
    let start : World := { backing := .managed greetingManager, policy := [] }
    let w := World.after 1 meddling start
    let event : Event := { eventType := "e".toList }
    ∃ called : List (Subscription Subscriber),
      ((Asking.publish channel.noting event).run (w, [])).state.2 =
        called.map (fun s => (s.subscriber, event)) ∧
      called.map (fun s => s.subscriber.name) =
        ["first".toList, "third".toList, "fifth".toList] ∧
      ((Asking.publish channel event).run w).value = .ok 3 := by
  intro channel start w event
  have horderly : channel.Orderly (World.Houses mainNotifier) := Act.channel_orderly 2 mainNotifier
  have hregistry : ∀ w, channel.registry w = Act.registry mainNotifier w := fun _ => rfl
  have hstart : World.Houses mainNotifier start := .start _ _
  have hempty : Act.registry mainNotifier start = { id := mainNotifier } := rfl
  have hmoved : World.Moves start w := World.moves_after 1 meddling start
  have hnames : ((Asking.publish channel.noting event).run (w, [])).state.2.map
      (fun call => call.1.name) = ["first".toList, "third".toList, "fifth".toList] := by
    decide +kernel
  have hcount : ((Asking.publish channel event).run w).value = .ok 3 := by
    decide +kernel
  clear_value channel w start
  obtain ⟨hhoused, hreached⟩ := hmoved.evolves hstart
  rw [hempty, ← hregistry] at hreached
  obtain ⟨called, hnoted, -⟩ := (Channel.publish_calls horderly hhoused hreached event).1
    fun failure _ => FailureTexts.usual_allGiven failure
  rw [hnoted] at hnames ⊢
  rw [List.map_map] at hnames
  exact ⟨called, rfl, hnames, hcount⟩

end Script

end Phrasebook
