import Phrasebook.Catalog

/-!
The last element of a list with a property. Where a later entry is written over an earlier one, it is
the last one that is found.
-/

set_option autoImplicit false
set_option relaxedAutoImplicit false

namespace Phrasebook

section

variable {α β : Type} {p : α → Prop} {q : α → β → Prop} {as more : List α} {a : α}

/-- An element of a list has a property, and none after it has. -/
def IsLast (p : α → Prop) (as : List α) (a : α) : Prop :=
  ∃ before after, as = before ++ a :: after ∧ p a ∧ ∀ b ∈ after, ¬ p b

theorem IsLast.mem (h : IsLast p as a) : a ∈ as := by
  obtain ⟨before, after, rfl, -⟩ := h
  simp

theorem IsLast.holds (h : IsLast p as a) : p a := by
  obtain ⟨-, -, -, ha, -⟩ := h
  exact ha

private theorem IsLast.append (h : IsLast p as a) (hmore : ∀ b ∈ more, ¬ p b) : IsLast p (as ++ more) a := by
  obtain ⟨before, after, rfl, ha, hafter⟩ := h
  refine ⟨before, after ++ more, by simp, ha, fun b hb => ?_⟩
  rcases List.mem_append.mp hb with hb | hb
  · exact hafter b hb
  · exact hmore b hb

private theorem IsLast.prepend (h : IsLast p more a) (as : List α) : IsLast p (as ++ more) a := by
  obtain ⟨before, after, rfl, ha, hafter⟩ := h
  exact ⟨as ++ before, after, by simp, ha, hafter⟩

private theorem IsLast.unique {a' : α} (h : IsLast p as a) (h' : IsLast p as a') : a = a' := by
  obtain ⟨before, after, rfl, ha, hafter⟩ := h
  obtain ⟨before', after', heq, ha', hafter'⟩ := h'
  -- if they stood in two places, the one that comes later would stand after the other
  rcases List.append_eq_append_iff.mp heq with ⟨between, hbefore, hbetween⟩ | ⟨between, hbefore, hbetween⟩
  · cases between with
    | nil => exact (List.cons.inj hbetween).1
    | cons b between =>
      refine absurd ha' (hafter a' ?_)
      rw [(List.cons.inj hbetween).2]
      simp
  · cases between with
    | nil => exact ((List.cons.inj hbetween).1).symm
    | cons b between =>
      refine absurd ha (hafter' a ?_)
      rw [(List.cons.inj hbetween).2]
      simp

/-- What the last element with a property gives, or nothing where no element has it. -/
inductive Latest (p : α → Prop) (q : α → β → Prop) (as : List α) : Option β → Prop
  | none (h : ∀ a ∈ as, ¬ p a) : Latest p q as none
  | some {a : α} {b : β} (h : IsLast p as a) (hgives : q a b) : Latest p q as (some b)

namespace Latest

variable {found later : Option β}

theorem nil : Latest p q [] Option.none := .none nofun

/-- What comes later counts, and only where it gives nothing what came before it does. -/
theorem append (h : Latest p q as found) (hlater : Latest p q more later) :
    Latest p q (as ++ more) (later.or found) := by
  cases hlater with
  | some hlast hgives => exact .some (hlast.prepend as) hgives
  | none hmore =>
    cases h with
    | some hlast hgives => exact .some (hlast.append hmore) hgives
    | none has =>
      refine .none fun a ha => ?_
      rcases List.mem_append.mp ha with ha | ha
      · exact has a ha
      · exact hmore a ha

theorem singleton_of_not (h : ¬ p a) : Latest p q [a] Option.none :=
  .none fun _ hb => List.mem_singleton.mp hb ▸ h

theorem singleton {b : β} {condition : Prop} [Decidable condition] (hp : p a ↔ condition)
    (hgives : q a b) : Latest p q [a] (if condition then Option.some b else Option.none) := by
  by_cases h : condition
  · rw [if_pos h]
    exact .some ⟨[], [], rfl, hp.mpr h, nofun⟩ hgives
  · rw [if_neg h]
    exact .singleton_of_not fun ha => h (hp.mp ha)

theorem isSome_iff (h : Latest p q as found) : found.isSome = true ↔ ∃ a ∈ as, p a := by
  cases h with
  | none hnone => exact iff_of_false Bool.false_ne_true fun ⟨a, ha, hp⟩ => hnone a ha hp
  | some hlast hgives => exact iff_of_true rfl ⟨_, hlast.mem, hlast.holds⟩

theorem eq_some_iff (h : Latest p q as found) (hq : ∀ {a b b'}, q a b → q a b' → b = b') (b : β) :
    found = Option.some b ↔ ∃ a, IsLast p as a ∧ q a b := by
  cases h with
  | none hnone =>
    refine iff_of_false nofun ?_
    rintro ⟨a, hlast, -⟩
    exact hnone a hlast.mem hlast.holds
  | some hlast hgives =>
    constructor
    · rintro ⟨⟩
      exact ⟨_, hlast, hgives⟩
    · rintro ⟨a', hlast', hgives'⟩
      obtain rfl := hlast.unique hlast'
      rw [hq hgives hgives']

theorem map {γ : Type} {p' : γ → Prop} {q' : γ → β → Prop} (f : α → γ) (hp : ∀ a, p' (f a) ↔ p a)
    (hq : ∀ {a b}, q a b → q' (f a) b) (h : Latest p q as found) :
    Latest p' q' (as.map f) found := by
  cases h with
  | none hnone =>
    refine .none fun c hc => ?_
    obtain ⟨a, ha, rfl⟩ := List.mem_map.mp hc
    exact fun hp' => hnone a ha ((hp a).mp hp')
  | some hlast hgives =>
    obtain ⟨before, after, rfl, ha, hafter⟩ := hlast
    refine .some ⟨before.map f, after.map f, by simp, (hp _).mpr ha, fun c hc => ?_⟩ (hq hgives)
    obtain ⟨b, hb, rfl⟩ := List.mem_map.mp hc
    exact fun hp' => hafter b hb ((hp b).mp hp')

end Latest

end

namespace Dict

variable {α β : Type} [DecidableEq α]

theorem get?_insert_eq_or (d : Dict α β) (key other : α) (value : β) :
    (d.insert key value).get? other =
      (if other = key then some value else none).or (d.get? other) := by
  rw [get?_insert]
  by_cases h : other = key
  · simp [h]
  · simp [h]

end Dict

end Phrasebook
