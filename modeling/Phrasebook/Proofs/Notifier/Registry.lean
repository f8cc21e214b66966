import Mathlib.Data.List.Nodup
import Phrasebook.Notifier.Registry

/-!
Registries keep their handles apart: a handle that is given out is new, and giving up one subscription
leaves all others.
-/

set_option autoImplicit false
set_option relaxedAutoImplicit false

namespace Phrasebook.Registry

variable {κ : Type}

/-- Every subscription stands under the type of its handle, and no handle stands for two. -/
structure Sound (r : Registry κ) : Prop where
  given : ∀ eventType, ∀ s ∈ r.of eventType,
    s.handle.registry = r.id ∧ s.handle.eventType = eventType ∧ s.handle.serial < r.next
  distinct : ∀ eventType, ((r.of eventType).map Subscription.handle).Nodup

theorem of_subscribe (r : Registry κ) (eventType other : Text) (subscriber : κ) :
    (r.subscribe eventType subscriber).2.of other =
      if other = eventType then r.of eventType ++ [⟨⟨r.id, r.next, eventType⟩, subscriber⟩]
      else r.of other := by
  simp only [subscribe, Registry.of, Dict.get?_insert]
  split <;> rfl

theorem of_unsubscribe (r : Registry κ) (handle : Handle) (other : Text) :
    (r.unsubscribe handle).of other =
      if other = handle.eventType then remove handle (r.of handle.eventType) else r.of other := by
  unfold unsubscribe
  cases hkept : remove handle (r.of handle.eventType) with
  | nil =>
    simp only [Registry.of, Dict.get?_erase]
    split <;> rfl
  | cons s kept =>
    simp only [Registry.of, Dict.get?_insert]
    split <;> rfl

@[simp] theorem id_unsubscribe (r : Registry κ) (handle : Handle) :
    (r.unsubscribe handle).id = r.id := by
  unfold unsubscribe
  split <;> rfl

@[simp] theorem next_unsubscribe (r : Registry κ) (handle : Handle) :
    (r.unsubscribe handle).next = r.next := by
  unfold unsubscribe
  split <;> rfl

theorem isRegistered_iff (r : Registry κ) (handle : Handle) :
    r.isRegistered handle = true ↔ ∃ s ∈ r.of handle.eventType, s.handle = handle := by
  simp [isRegistered]

theorem mem_unsubscribe {r : Registry κ} {handle : Handle} {eventType : Text} {s : Subscription κ}
    (hne : s.handle ≠ handle) :
    s ∈ (r.unsubscribe handle).of eventType ↔ s ∈ r.of eventType := by
  rw [of_unsubscribe]
  by_cases htype : eventType = handle.eventType
  · subst htype
    simp [remove, hne]
  · rw [if_neg htype]

theorem mem_of_mem_unsubscribe {r : Registry κ} {handle : Handle} {eventType : Text}
    {s : Subscription κ} (h : s ∈ (r.unsubscribe handle).of eventType) : s ∈ r.of eventType := by
  rw [of_unsubscribe] at h
  by_cases htype : eventType = handle.eventType
  · rw [if_pos htype] at h
    rw [htype]
    exact List.mem_of_mem_filter h
  · rwa [if_neg htype] at h

theorem mem_subscribe {r : Registry κ} {eventType other : Text} {subscriber : κ}
    {s : Subscription κ} :
    s ∈ (r.subscribe eventType subscriber).2.of other ↔
      s ∈ r.of other ∨ (other = eventType ∧ s = ⟨⟨r.id, r.next, eventType⟩, subscriber⟩) := by
  rw [of_subscribe]
  by_cases htype : other = eventType
  · subst htype
    simp
  · simp [htype]

namespace Sound

theorem empty (id : Nat) : ({ id } : Registry κ).Sound where
  given := by
    intro eventType s hs
    cases hs
  distinct := fun _ => List.nodup_nil

theorem eq_of_handle_eq {r : Registry κ} (h : r.Sound) {eventType other : Text}
    {s t : Subscription κ} (hs : s ∈ r.of eventType) (ht : t ∈ r.of other)
    (hhandle : s.handle = t.handle) : s = t := by
  obtain ⟨-, htype, -⟩ := h.given eventType s hs
  obtain ⟨-, htype', -⟩ := h.given other t ht
  rw [hhandle, htype'] at htype
  subst htype
  exact List.inj_on_of_nodup_map (h.distinct _) hs ht hhandle

theorem isRegistered_of_mem {r : Registry κ} (h : r.Sound) {eventType : Text} {s : Subscription κ}
    (hs : s ∈ r.of eventType) : r.isRegistered s.handle = true := by
  obtain ⟨-, htype, -⟩ := h.given eventType s hs
  rw [isRegistered_iff, htype]
  exact ⟨s, hs, rfl⟩

theorem subscribe {r : Registry κ} (h : r.Sound) (eventType : Text) (subscriber : κ) :
    (r.subscribe eventType subscriber).2.Sound where
  given := by
    intro other s hs
    rcases mem_subscribe.mp hs with hs | ⟨rfl, rfl⟩
    · obtain ⟨hid, htype, hserial⟩ := h.given other s hs
      exact ⟨hid, htype, Nat.lt_succ_of_lt hserial⟩
    · exact ⟨rfl, rfl, Nat.lt_succ_self _⟩
  distinct := by
    intro other
    rw [of_subscribe]
    by_cases htype : other = eventType
    · rw [if_pos htype, List.map_append, List.nodup_append]
      refine ⟨h.distinct eventType, List.nodup_singleton _, ?_⟩
      intro handle hhandle new hnew
      obtain ⟨s, hs, rfl⟩ := List.mem_map.mp hhandle
      obtain ⟨-, -, hserial⟩ := h.given eventType s hs
      obtain rfl : new = ⟨r.id, r.next, eventType⟩ := by simpa using hnew
      intro heq
      rw [heq] at hserial
      exact Nat.lt_irrefl _ hserial
    · rw [if_neg htype]
      exact h.distinct other

theorem unsubscribe {r : Registry κ} (h : r.Sound) (handle : Handle) :
    (r.unsubscribe handle).Sound where
  given := by
    intro eventType s hs
    rw [id_unsubscribe, next_unsubscribe]
    exact h.given eventType s (mem_of_mem_unsubscribe hs)
  distinct := by
    intro eventType
    rw [of_unsubscribe]
    by_cases htype : eventType = handle.eventType
    · rw [if_pos htype]
      exact (h.distinct _).sublist (List.filter_sublist.map _)
    · rw [if_neg htype]
      exact h.distinct eventType

theorem not_mem_unsubscribe {r : Registry κ} (h : r.Sound) {handle : Handle} {eventType : Text}
    {subscriber : κ} : ⟨handle, subscriber⟩ ∉ (r.unsubscribe handle).of eventType := by
  intro hmem
  obtain ⟨-, htype, -⟩ := h.given eventType _ (mem_of_mem_unsubscribe hmem)
  rw [of_unsubscribe, if_pos htype.symm] at hmem
  simp [remove] at hmem

end Sound

end Phrasebook.Registry
