import Phrasebook.Proofs.Notifier.Calls
import Phrasebook.Proofs.Script.Invariant

/-!
What the steps of a script can do to the registries of its world: nothing but found new ones, and
subscribe, give up subscriptions, and clear. So the callbacks of scripts are orderly subscribers,
however deep they call each other.
-/

set_option autoImplicit false
set_option relaxedAutoImplicit false

namespace Phrasebook.Script

open Act (registry)

/-- One thing that happens in a world, as far as the registries go. -/
inductive World.Move : World → World → Prop
  | other {w w' : World} (hregistries : w'.registries = w.registries) (hfresh : w.fresh ≤ w'.fresh) :
    Move w w'
  | change {w : World} (notifier : Nat) {r : Registry Subscriber}
    (h : Registry.Change (registry notifier w) r) :
    Move w { w with registries := w.registries.insert r.id r }
  | found (w : World) :
    Move w { w with
      fresh := w.fresh + 1
      registries := w.registries.insert w.fresh { id := w.fresh } }

namespace World

abbrev Moves : World → World → Prop := Relation.ReflTransGen Move

/-- A world in which a notifier has been founded, and every registry is kept under its own number. -/
structure Houses (notifier : Nat) (w : World) : Prop where
  known : notifier < w.fresh
  id_eq : ∀ other, (registry other w).id = other

theorem registry_insert (w : World) (r : Registry Subscriber) (other : Nat) :
    registry other { w with registries := w.registries.insert r.id r } =
      if other = r.id then r else registry other w := by
  simp only [registry, Dict.get?_insert]
  split <;> rfl

theorem Houses.start (backing : Backing) (policy : Text) :
    Houses mainNotifier { backing, policy } where
  known := Nat.zero_lt_one
  id_eq := by
    intro other
    simp only [registry, Dict.get?_insert]
    split_ifs with hother
    · exact hother.symm
    · rfl

private theorem Move.evolves {w w' : World} (h : Move w w') {notifier : Nat} (hw : Houses notifier w) :
    Houses notifier w' ∧ (registry notifier w).Evolves (registry notifier w') := by
  cases h with
  | other hregistries hfresh =>
    have hsame : ∀ other, registry other w' = registry other w := by
      intro other
      simp only [registry, hregistries]
    refine ⟨⟨Nat.lt_of_lt_of_le hw.known hfresh, ?_⟩, ?_⟩
    · intro other
      rw [hsame]
      exact hw.id_eq other
    · rw [hsame]
  | @change place r hchange =>
    have hid : r.id = place := hchange.id_eq.trans (hw.id_eq place)
    refine ⟨⟨hw.known, ?_⟩, ?_⟩
    · intro other
      rw [registry_insert]
      split_ifs with hother
      · exact hother.symm
      · exact hw.id_eq other
    · rw [registry_insert, hid]
      split_ifs with hother
      · subst hother
        exact .single hchange
      · exact .refl
  | found =>
    have hother : ∀ other, registry other { w with
        fresh := w.fresh + 1
        registries := w.registries.insert w.fresh { id := w.fresh } } =
          if other = w.fresh then { id := w.fresh } else registry other w :=
      registry_insert w { id := w.fresh }
    refine ⟨⟨Nat.lt_succ_of_lt hw.known, ?_⟩, ?_⟩
    · intro other
      rw [hother]
      split_ifs with hnew
      · exact hnew.symm
      · exact hw.id_eq other
    · rw [hother, if_neg (Nat.ne_of_lt hw.known)]

theorem Moves.evolves {w w' : World} (h : Moves w w') {notifier : Nat} (hw : Houses notifier w) :
    Houses notifier w' ∧ (registry notifier w).Evolves (registry notifier w') := by
  induction h with
  | refl => exact ⟨hw, .refl⟩
  | tail _ hmove ih =>
    obtain ⟨hhoused, hevolves⟩ := ih
    obtain ⟨hhoused', hevolves'⟩ := hmove.evolves hhoused
    exact ⟨hhoused', hevolves.trans hevolves'⟩

theorem Moves.invariant (start : World) : Invariant (Moves start) where
  alike h halike := h.tail (.other halike.registries halike.fresh)
  manage _ h := h.tail (.other rfl (Nat.le_refl _))
  stub _ _ h := h.tail (.other rfl (Nat.le_refl _))
  change notifier _ hchange h := h.tail (.change notifier hchange)
  found h := h.tail (.found _)

theorem moves_after (depth : Nat) (steps : List Step) (w : World) :
    Moves w (after depth steps w) :=
  (Moves.invariant w).after depth steps .refl

end World

/-- The subscribers of scripts are orderly, whatever they do and however deep. -/
theorem Act.channel_orderly (depth notifier : Nat) :
    (channel (takeAll (take depth)) notifier).Orderly (World.Houses notifier) := by
  have hmoves : ∀ subscriber event w, World.Moves w
      ((channel (takeAll (take depth)) notifier).call subscriber event w).state := by
    intro subscriber event w
    rw [channel_call_state]
    have inv := World.Moves.invariant w
    exact inv.invoke (inv.takeAll (inv.take depth)) event subscriber w .refl
  constructor
  · intro subscriber event w hw
    exact ((hmoves subscriber event w).evolves hw).1
  · intro subscriber event w hw
    exact ((hmoves subscriber event w).evolves hw).2

end Phrasebook.Script
