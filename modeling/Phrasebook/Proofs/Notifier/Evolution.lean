import Mathlib.Logic.Relation
import Phrasebook.Proofs.Notifier.Registry

/-!
How registries change in the course of time: by subscriptions, by removals, and by being cleared. A
handle that has been given out and is no longer registered is never registered again.
-/

set_option autoImplicit false
set_option relaxedAutoImplicit false

namespace Phrasebook.Registry

variable {κ : Type} {r r' : Registry κ}

/-- One thing that is done to a registry. -/
inductive Change : Registry κ → Registry κ → Prop
  | subscribe (r : Registry κ) (eventType : Text) (subscriber : κ) :
    Change r (r.subscribe eventType subscriber).2
  | unsubscribe (r : Registry κ) (handle : Handle) : Change r (r.unsubscribe handle)
  | clear (r : Registry κ) : Change r r.clear

/-- What becomes of a registry in the end is the work of finitely many changes. -/
abbrev Evolves : Registry κ → Registry κ → Prop := Relation.ReflTransGen Change

@[simp] theorem of_clear (r : Registry κ) (eventType : Text) : r.clear.of eventType = [] := rfl

private theorem Sound.clear (r : Registry κ) : r.clear.Sound where
  given := by
    intro eventType s hs
    simp at hs
  distinct := by simp

namespace Change

theorem id_eq (h : Change r r') : r'.id = r.id := by
  cases h with
  | subscribe eventType subscriber => rfl
  | unsubscribe handle => exact id_unsubscribe r handle
  | clear => rfl

private theorem next_le (h : Change r r') : r.next ≤ r'.next := by
  cases h with
  | subscribe eventType subscriber => exact Nat.le_succ _
  | unsubscribe handle => simp
  | clear => exact Nat.le_refl _

private theorem sound (h : Change r r') (hr : r.Sound) : r'.Sound := by
  cases h with
  | subscribe eventType subscriber => exact hr.subscribe eventType subscriber
  | unsubscribe handle => exact hr.unsubscribe handle
  | clear => exact Sound.clear r

private theorem mem_or_le (h : Change r r') {eventType : Text} {s : Subscription κ}
    (hs : s ∈ r'.of eventType) : s ∈ r.of eventType ∨ r.next ≤ s.handle.serial := by
  cases h with
  | subscribe given subscriber =>
    rcases mem_subscribe.mp hs with hs | ⟨-, rfl⟩
    · exact Or.inl hs
    · exact Or.inr (Nat.le_refl _)
  | unsubscribe handle => exact Or.inl (mem_of_mem_unsubscribe hs)
  | clear => simp at hs

end Change

namespace Evolves

theorem next_le (h : r.Evolves r') : r.next ≤ r'.next := by
  induction h with
  | refl => exact Nat.le_refl _
  | tail _ hchange ih => exact Nat.le_trans ih hchange.next_le

theorem sound (h : r.Evolves r') (hr : r.Sound) : r'.Sound := by
  induction h with
  | refl => exact hr
  | tail _ hchange ih => exact hchange.sound ih

private theorem mem_or_le (h : r.Evolves r') {eventType : Text} {s : Subscription κ}
    (hs : s ∈ r'.of eventType) : s ∈ r.of eventType ∨ r.next ≤ s.handle.serial := by
  induction h with
  | refl => exact Or.inl hs
  | tail hbefore hchange ih =>
    rcases hchange.mem_or_le hs with hs | hnew
    · exact ih hs
    · exact Or.inr (Nat.le_trans (next_le hbefore) hnew)

theorem isRegistered (h : r.Evolves r') {handle : Handle} (hold : handle.serial < r.next)
    (hnow : r'.isRegistered handle = true) : r.isRegistered handle = true := by
  obtain ⟨s, hs, rfl⟩ := (isRegistered_iff r' handle).mp hnow
  have hbefore : s ∈ r.of s.handle.eventType := by
    rcases h.mem_or_le hs with hs | hnew
    · exact hs
    · omega
  exact (isRegistered_iff r s.handle).mpr ⟨s, hbefore, rfl⟩

end Evolves

end Phrasebook.Registry
