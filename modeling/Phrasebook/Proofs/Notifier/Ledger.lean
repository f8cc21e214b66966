import Mathlib.Data.List.Induction
import Phrasebook.Proofs.Notifier.Evolution

/-!
Registries and the history of what was done to them. The history alone tells which handles are live:
those that were given out and neither given up nor cleared since. By it every answer of a registry
is right, and so is every list that it keeps.
-/

set_option autoImplicit false
set_option relaxedAutoImplicit false

namespace Phrasebook

namespace Registry

variable {κ : Type}

/-- One thing that was done to a registry, with what came of it. -/
inductive Deed (κ : Type) where
  | subscribed (s : Subscription κ)
  | unsubscribed (handle : Handle) (answer : Bool)
  | cleared

namespace Deed

/-- Whether a deed ends what a handle stands for. -/
def ends (handle : Handle) : Deed κ → Bool
  | subscribed _ => false
  | unsubscribed other _ => other = handle
  | cleared => true

/-- The subscription that a deed begins. -/
def given : Deed κ → Option (Subscription κ)
  | subscribed s => some s
  | unsubscribed _ _ => none
  | cleared => none

def removes (handle : Handle) : Deed κ → Bool
  | subscribed _ => false
  | unsubscribed other answer => other = handle && answer
  | cleared => false

end Deed

/-- The subscriptions of a history that no later deed of it ends, in the order of subscription. -/
def live : List (Deed κ) → List (Subscription κ)
  | [] => []
  | .subscribed s :: later =>
    if later.any (Deed.ends s.handle) then live later else s :: live later
  | .unsubscribed _ _ :: later => live later
  | .cleared :: later => live later

private theorem live_concat (history : List (Deed κ)) (deed : Deed κ) :
    live (history ++ [deed]) =
      (live history).filter (fun s => !deed.ends s.handle) ++ deed.given.toList := by
  induction history with
  | nil => cases deed <;> rfl
  | cons first history ih =>
    cases first with
    | subscribed s =>
      rw [List.cons_append, live, live, ih, List.any_append]
      by_cases hlater : history.any (Deed.ends s.handle) = true
      · simp [hlater]
      · by_cases hdeed : deed.ends s.handle = true
        · simp [hlater, hdeed]
        · simp [hlater, hdeed]
    | unsubscribed handle answer => exact ih
    | cleared => exact ih

private theorem live_subscribed (history : List (Deed κ)) (s : Subscription κ) :
    live (history ++ [.subscribed s]) = live history ++ [s] := by
  simp [live_concat, Deed.ends, Deed.given]

theorem live_unsubscribed (history : List (Deed κ)) (handle : Handle) (answer : Bool) :
    live (history ++ [.unsubscribed handle answer]) = remove handle (live history) := by
  simp [live_concat, Deed.ends, Deed.given, remove, eq_comm]

private theorem live_cleared (history : List (Deed κ)) : live (history ++ [.cleared]) = [] := by
  simp [live_concat, Deed.ends, Deed.given]

private theorem subscribed_of_mem_live {history : List (Deed κ)} {s : Subscription κ}
    (h : s ∈ live history) : .subscribed s ∈ history := by
  induction history using List.reverseRecOn with
  | nil => cases h
  | append_singleton history deed ih =>
    rw [live_concat, List.mem_append] at h
    rw [List.mem_append]
    rcases h with h | h
    · exact Or.inl (ih (List.mem_of_mem_filter h))
    · cases deed with
      | subscribed first =>
        obtain rfl : s = first := by simpa [Deed.given] using h
        exact Or.inr (List.mem_singleton_self _)
      | unsubscribed handle answer => simp [Deed.given] at h
      | cleared => simp [Deed.given] at h

/-! ## Lawful histories -/

/-- A history in which every handle that is given out is new, and every removal is answered with yes
exactly where the handle is live. -/
inductive Lawful : List (Deed κ) → Prop
  | nil : Lawful []
  | subscribed {history : List (Deed κ)} {s : Subscription κ} (h : Lawful history)
    (hnew : ∀ t, .subscribed t ∈ history → t.handle ≠ s.handle) :
    Lawful (history ++ [.subscribed s])
  | unsubscribed {history : List (Deed κ)} {handle : Handle} {answer : Bool} (h : Lawful history)
    (hanswer : answer = true ↔ handle ∈ (live history).map Subscription.handle) :
    Lawful (history ++ [.unsubscribed handle answer])
  | cleared {history : List (Deed κ)} (h : Lawful history) : Lawful (history ++ [.cleared])

namespace Lawful

variable {history : List (Deed κ)}

private theorem distinct (h : Lawful history) : ((live history).map Subscription.handle).Nodup := by
  induction h with
  | nil => exact List.nodup_nil
  | @subscribed history s _ hnew ih =>
    rw [live_subscribed, List.map_append, List.nodup_append]
    refine ⟨ih, List.nodup_singleton _, ?_⟩
    intro handle hhandle other hother
    obtain ⟨t, ht, rfl⟩ := List.mem_map.mp hhandle
    obtain rfl : other = s.handle := by simpa using hother
    exact hnew t (subscribed_of_mem_live ht)
  | @unsubscribed history handle answer _ _ ih =>
    rw [live_unsubscribed]
    exact ih.sublist (List.filter_sublist.map _)
  | cleared _ _ =>
    rw [live_cleared]
    exact List.nodup_nil

private theorem subscribed_of_removed (h : Lawful history) {handle : Handle}
    (hremoved : .unsubscribed handle true ∈ history) :
    ∃ s, .subscribed s ∈ history ∧ s.handle = handle := by
  induction h with
  | nil => cases hremoved
  | @subscribed history s _ _ ih =>
    obtain ⟨t, ht, heq⟩ := ih (by simpa using hremoved)
    exact ⟨t, List.mem_append_left _ ht, heq⟩
  | @unsubscribed history other answer _ hanswer ih =>
    rcases List.mem_append.mp hremoved with hbefore | hlast
    · obtain ⟨t, ht, heq⟩ := ih hbefore
      exact ⟨t, List.mem_append_left _ ht, heq⟩
    · obtain ⟨rfl, rfl⟩ : handle = other ∧ true = answer := by simpa using hlast
      obtain ⟨t, ht, heq⟩ := List.mem_map.mp (hanswer.mp rfl)
      exact ⟨t, List.mem_append_left _ (subscribed_of_mem_live ht), heq⟩
  | cleared _ ih =>
    obtain ⟨t, ht, heq⟩ := ih (by simpa using hremoved)
    exact ⟨t, List.mem_append_left _ ht, heq⟩

private theorem not_mem_live_of_removed (h : Lawful history) {handle : Handle}
    (hremoved : .unsubscribed handle true ∈ history) :
    handle ∉ (live history).map Subscription.handle := by
  induction h with
  | nil => cases hremoved
  | @subscribed history s hbefore hnew ih =>
    have hremoved : .unsubscribed handle true ∈ history := by simpa using hremoved
    obtain ⟨t, ht, rfl⟩ := hbefore.subscribed_of_removed hremoved
    rw [live_subscribed, List.map_append, List.mem_append]
    rintro (hmem | hmem)
    · exact ih hremoved hmem
    · exact hnew t ht (by simpa using hmem)
  | @unsubscribed history other answer _ _ ih =>
    rw [live_unsubscribed]
    intro hmem
    obtain ⟨s, hs, rfl⟩ := List.mem_map.mp hmem
    rw [remove, List.mem_filter] at hs
    rcases List.mem_append.mp hremoved with hbefore | hlast
    · exact ih hbefore (List.mem_map_of_mem hs.1)
    · obtain ⟨rfl, -⟩ : s.handle = other ∧ true = answer := by simpa using hlast
      simp at hs
  | cleared _ _ =>
    rw [live_cleared]
    exact List.not_mem_nil

private theorem removed_once (h : Lawful history) (handle : Handle) :
    history.countP (Deed.removes handle) ≤ 1 := by
  induction h with
  | nil => exact Nat.zero_le _
  | subscribed _ _ ih => simpa [Deed.removes] using ih
  | @unsubscribed history other answer hbefore hanswer ih =>
    rw [List.countP_append]
    by_cases hremoves : (Deed.unsubscribed other answer : Deed κ).removes handle = true
    · obtain ⟨rfl, rfl⟩ : other = handle ∧ answer = true := by simpa [Deed.removes] using hremoves
      have hlive := hanswer.mp rfl
      have hnone : history.countP (Deed.removes other) = 0 := by
        rw [List.countP_eq_zero]
        intro deed hdeed hremoves
        cases deed with
        | subscribed s => cases hremoves
        | unsubscribed given answer =>
          obtain ⟨rfl, rfl⟩ : given = other ∧ answer = true := by
            simpa [Deed.removes] using hremoves
          exact hbefore.not_mem_live_of_removed hdeed hlive
        | cleared => cases hremoves
      rw [hnone]
      simp [Deed.removes]
    · rw [List.countP_singleton, if_neg hremoves]
      exact ih
  | cleared _ ih => simpa [Deed.removes] using ih

end Lawful

/-! ## Registries and their histories -/

/-- A registry turns into another one by a deed. What is given up must be registered; else the
answer is that it is not, and nothing changes. -/
inductive Does : Registry κ → Deed κ → Registry κ → Prop
  | subscribe (r : Registry κ) (eventType : Text) (subscriber : κ) :
    Does r (.subscribed ⟨(r.subscribe eventType subscriber).1, subscriber⟩)
      (r.subscribe eventType subscriber).2
  | remove {r : Registry κ} {handle : Handle} (h : r.isRegistered handle = true) :
    Does r (.unsubscribed handle true) (r.unsubscribe handle)
  | refuse {r : Registry κ} {handle : Handle} (h : ¬ r.isRegistered handle = true) :
    Does r (.unsubscribed handle false) r
  | clear (r : Registry κ) : Does r .cleared r.clear

/-- A registry in accord with a history. Under every event type it lists the live subscriptions of
that type, it keeps no list that is empty, and all handles given out are its own and older than the
next. -/
structure Tallies (history : List (Deed κ)) (r : Registry κ) : Prop where
  of_eq : ∀ eventType, r.of eventType = (live history).filter (·.handle.eventType = eventType)
  nonempty : ∀ eventType subscriptions, r.subscriptions.get? eventType = some subscriptions →
    subscriptions ≠ []
  issued : ∀ s, .subscribed s ∈ history → s.handle.registry = r.id ∧ s.handle.serial < r.next

namespace Tallies

variable {history : List (Deed κ)} {deed : Deed κ} {r r' : Registry κ}

theorem empty (id : Nat) : Tallies [] ({ id } : Registry κ) where
  of_eq _ := rfl
  nonempty := by
    intro eventType subscriptions h
    cases h
  issued := by simp

theorem isRegistered_iff (h : Tallies history r) (handle : Handle) :
    r.isRegistered handle = true ↔ handle ∈ (live history).map Subscription.handle := by
  rw [Registry.isRegistered_iff, List.mem_map, h.of_eq]
  constructor
  · rintro ⟨s, hs, rfl⟩
    exact ⟨s, List.mem_of_mem_filter hs, rfl⟩
  · rintro ⟨s, hs, rfl⟩
    exact ⟨s, List.mem_filter.mpr ⟨hs, by simp⟩, rfl⟩

private theorem subscribe (h : Tallies history r) (eventType : Text) (subscriber : κ) :
    Tallies (history ++ [.subscribed ⟨(r.subscribe eventType subscriber).1, subscriber⟩])
      (r.subscribe eventType subscriber).2 where
  of_eq other := by
    rw [of_subscribe, live_subscribed, List.filter_append, ← h.of_eq other]
    by_cases htype : other = eventType
    · simp [htype, Registry.subscribe]
    · simp [htype, Ne.symm htype, Registry.subscribe]
  nonempty other subscriptions hget := by
    rcases Dict.get?_insert_eq_some.mp hget with ⟨-, rfl⟩ | ⟨-, hget⟩
    · simp
    · exact h.nonempty other subscriptions hget
  issued s hs := by
    rcases List.mem_append.mp hs with hs | hs
    · obtain ⟨hid, hserial⟩ := h.issued s hs
      exact ⟨hid, Nat.lt_succ_of_lt hserial⟩
    · obtain rfl : s = ⟨(r.subscribe eventType subscriber).1, subscriber⟩ := by simpa using hs
      exact ⟨rfl, Nat.lt_succ_self _⟩

private theorem unsubscribe (h : Tallies history r) (handle : Handle) (answer : Bool) :
    Tallies (history ++ [.unsubscribed handle answer]) (r.unsubscribe handle) where
  of_eq other := by
    rw [of_unsubscribe, live_unsubscribed, remove, remove, List.filter_filter]
    by_cases htype : other = handle.eventType
    · rw [if_pos htype, h.of_eq, List.filter_filter, htype]
      simp only [Bool.and_comm]
    · rw [if_neg htype, h.of_eq]
      refine List.filter_congr fun s _ => ?_
      have hother : s.handle.eventType = other → s.handle ≠ handle := by
        rintro rfl heq
        exact htype (by rw [heq])
      by_cases hs : s.handle.eventType = other
      · simp [hs, hother hs]
      · simp [hs]
  nonempty other subscriptions hget := by
    unfold Registry.unsubscribe at hget
    cases hkept : remove handle (r.of handle.eventType) with
    | nil =>
      simp only [hkept, Dict.get?_erase] at hget
      split at hget
      · cases hget
      · exact h.nonempty other subscriptions hget
    | cons s kept =>
      simp only [hkept] at hget
      rcases Dict.get?_insert_eq_some.mp hget with ⟨-, rfl⟩ | ⟨-, hget⟩
      · exact List.cons_ne_nil s kept
      · exact h.nonempty other subscriptions hget
  issued s hs := by
    rw [id_unsubscribe, next_unsubscribe]
    exact h.issued s (by simpa using hs)

theorem unsubscribe_eq_self (h : Tallies history r) {handle : Handle}
    (hnot : ¬ r.isRegistered handle = true) : r.unsubscribe handle = r := by
  have hkept : remove handle (r.of handle.eventType) = r.of handle.eventType := by
    rw [remove, List.filter_eq_self]
    intro s hs
    have hne : s.handle ≠ handle := fun heq =>
      hnot ((Registry.isRegistered_iff r handle).mpr ⟨s, hs, heq⟩)
    simpa using hne
  unfold Registry.unsubscribe
  rw [hkept]
  cases hlist : r.subscriptions.get? handle.eventType with
  | none =>
    have hempty : r.of handle.eventType = [] := by simp [Registry.of, hlist]
    simp only [hempty, Dict.erase_of_get? hlist]
  | some subscriptions =>
    have hof : r.of handle.eventType = subscriptions := by simp [Registry.of, hlist]
    obtain ⟨first, rest, rfl⟩ :=
      List.exists_cons_of_ne_nil (h.nonempty handle.eventType subscriptions hlist)
    simp only [hof, Dict.insert_of_get? hlist]

private theorem clear (h : Tallies history r) : Tallies (history ++ [.cleared]) r.clear where
  of_eq _ := by
    rw [live_cleared]
    rfl
  nonempty := by
    intro eventType subscriptions hget
    cases hget
  issued s hs := h.issued s (by simpa using hs)

theorem does (h : Tallies history r) (hdoes : Does r deed r') : Tallies (history ++ [deed]) r' := by
  cases hdoes with
  | subscribe eventType subscriber => exact h.subscribe eventType subscriber
  | remove => exact h.unsubscribe _ true
  | @refuse handle hnot =>
    have hkept := h.unsubscribe handle false
    rwa [h.unsubscribe_eq_self hnot] at hkept
  | clear => exact h.clear

/-- What can be done to a registry in accord with a lawful history is lawful. -/
theorem lawful (h : Tallies history r) (hlawful : Lawful history) (hdoes : Does r deed r') :
    Lawful (history ++ [deed]) := by
  cases hdoes with
  | subscribe eventType subscriber =>
    refine hlawful.subscribed fun t ht heq => ?_
    obtain ⟨-, hserial⟩ := h.issued t ht
    rw [heq] at hserial
    exact Nat.lt_irrefl _ hserial
  | remove hregistered =>
    exact hlawful.unsubscribed (iff_of_true rfl ((h.isRegistered_iff _).mp hregistered))
  | refuse hnot =>
    exact hlawful.unsubscribed
      (iff_of_false Bool.false_ne_true fun hmem => hnot ((h.isRegistered_iff _).mpr hmem))
  | clear => exact hlawful.cleared

end Tallies

/-- What a registry keeps is what its history says. Under every event type it lists the live
subscriptions of that type, each once and in the order of subscription, it counts these, and it
keeps no list that is empty. A removal was answered with yes exactly where the handle was live, so
once at most for one handle; and no handle of another registry is live. -/
structure Refines (history : List (Deed κ)) (r : Registry κ) : Prop where
  of_eq : ∀ eventType, r.of eventType = (live history).filter (·.handle.eventType = eventType)
  distinct : ((live history).map Subscription.handle).Nodup
  nonempty : ∀ eventType subscriptions, r.subscriptions.get? eventType = some subscriptions →
    subscriptions ≠ []
  count_eq : ∀ eventType,
    r.count eventType = ((live history).filter (·.handle.eventType = eventType)).length
  lawful : Lawful history
  removed_once : ∀ handle, history.countP (Deed.removes handle) ≤ 1
  own : ∀ handle ∈ (live history).map Subscription.handle, handle.registry = r.id

theorem Tallies.refines {history : List (Deed κ)} {r : Registry κ} (h : Tallies history r)
    (hlawful : Lawful history) : Refines history r where
  of_eq := h.of_eq
  distinct := hlawful.distinct
  nonempty := h.nonempty
  count_eq eventType := congrArg List.length (h.of_eq eventType)
  lawful := hlawful
  removed_once := hlawful.removed_once
  own handle hmem := by
    obtain ⟨s, hs, rfl⟩ := List.mem_map.mp hmem
    exact (h.issued s (subscribed_of_mem_live hs)).1

end Registry

end Phrasebook
