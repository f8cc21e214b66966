import Mathlib.Data.List.Sort
import Phrasebook.Text.Basic

/-!
Texts in the order of their code points: sorting sorts, and of several equal texts one is left where
the distinct ones are asked for.
-/

set_option autoImplicit false
set_option relaxedAutoImplicit false

namespace Phrasebook

namespace Text

private theorem le_iff (s t : Text) : le s t = true ↔ s = t ∨ List.Lex (· < ·) s t := by
  induction s generalizing t with
  | nil =>
    cases t with
    | nil => simp [le]
    | cons b t => exact iff_of_true rfl (Or.inr .nil)
  | cons a s ih =>
    cases t with
    | nil => exact iff_of_false Bool.false_ne_true (by rintro (h | h) <;> cases h)
    | cons b t =>
      rw [le]
      constructor
      · intro h
        split_ifs at h with hab
        · subst hab
          rcases (ih t).mp h with rfl | hlex
          · exact Or.inl rfl
          · exact Or.inr (.cons hlex)
        · exact Or.inr (.rel (of_decide_eq_true h))
      · rintro (h | h)
        · obtain ⟨rfl, rfl⟩ := List.cons.inj h
          rw [if_pos rfl]
          exact (ih s).mpr (Or.inl rfl)
        · cases h with
          | rel hlt =>
            rw [if_neg (Char.ne_of_lt hlt)]
            exact decide_eq_true hlt
          | cons hlex =>
            rw [if_pos rfl]
            exact (ih t).mpr (Or.inr hlex)

private theorem le_total (s t : Text) : le s t = true ∨ le t s = true := by
  induction s generalizing t with
  | nil => simp [le]
  | cons a s ih =>
    cases t with
    | nil => simp [le]
    | cons b t =>
      by_cases h : a = b
      · subst h
        rw [le, le, if_pos rfl, if_pos rfl]
        exact ih t
      · have hlt : a < b ∨ b < a := Nat.lt_or_gt_of_ne fun heq => h (Char.toNat_inj.mp heq)
        rwa [le, le, if_neg h, if_neg (Ne.symm h), decide_eq_true_iff, decide_eq_true_iff]

private theorem le_trans {s t u : Text} (hst : le s t = true) (htu : le t u = true) : le s u = true := by
  rw [le_iff] at *
  rcases hst with rfl | hst
  · exact htu
  · rcases htu with rfl | htu
    · exact Or.inr hst
    · exact Or.inr (List.lex_trans (fun hab hbc => Char.lt_trans hab hbc) hst htu)

theorem pairwise_mergeSort {texts : List Text} (h : texts.Nodup) :
    (texts.mergeSort le).Pairwise (List.Lex (· < ·)) := by
  have hsorted : (texts.mergeSort le).Pairwise fun s t => le s t = true := by
    apply List.pairwise_mergeSort
    · intro s t u
      exact le_trans
    · intro s t
      rw [Bool.or_eq_true]
      exact le_total s t
  have hdistinct : (texts.mergeSort le).Nodup := (List.mergeSort_perm _ _).nodup_iff.mpr h
  refine hsorted.imp₂ ?_ hdistinct
  intro s t hle hne
  exact ((le_iff s t).mp hle).resolve_left hne

private theorem length_others_lt (t : Text) (texts : List Text) :
    (texts.filter fun s => !s == t).length < (t :: texts).length := by
  have hle := List.length_filter_le (fun s => !s == t) texts
  simp only [List.length_cons]
  omega

theorem nodup_eraseDups (texts : List Text) : texts.eraseDups.Nodup := by
  cases texts with
  | nil => exact .nil
  | cons t texts =>
    rw [List.eraseDups_cons, List.nodup_cons]
    refine ⟨?_, nodup_eraseDups _⟩
    simp
termination_by texts.length
decreasing_by exact length_others_lt t texts

theorem eraseDups_filter (keep : Text → Bool) (texts : List Text) :
    (texts.filter keep).eraseDups = texts.eraseDups.filter keep := by
  cases texts with
  | nil => rfl
  | cons t texts =>
    have hrest := eraseDups_filter keep (texts.filter fun s => !s == t)
    rw [List.filter_filter] at hrest
    rw [List.eraseDups_cons]
    by_cases ht : keep t
    · rw [List.filter_cons_of_pos ht, List.filter_cons_of_pos ht, List.eraseDups_cons, ← hrest,
        List.filter_filter]
      simp only [Bool.and_comm]
    · rw [List.filter_cons_of_neg ht, List.filter_cons_of_neg ht, ← hrest]
      congr 1
      refine List.filter_congr fun s _ => ?_
      by_cases hs : s = t
      · simp [hs, ht]
      · simp [hs]
termination_by texts.length
decreasing_by exact length_others_lt t texts

theorem eraseDups_map_eraseDups (f : Text → Text) (texts : List Text) :
    (texts.eraseDups.map f).eraseDups = (texts.map f).eraseDups := by
  cases texts with
  | nil => rfl
  | cons t texts =>
    have hrest := eraseDups_map_eraseDups f (texts.filter fun s => !s == t)
    rw [List.eraseDups_cons, List.map_cons, List.map_cons, List.eraseDups_cons, List.eraseDups_cons,
      eraseDups_filter, hrest, ← eraseDups_filter, List.filter_map, List.filter_map,
      List.filter_filter]
    congr 3
    refine List.filter_congr fun s _ => ?_
    by_cases hs : s = t
    · simp [hs]
    · simp [hs]
termination_by texts.length
decreasing_by exact length_others_lt t texts

theorem sortedDistinct_pairwise (texts : List Text) :
    (sortedDistinct texts).Pairwise (List.Lex (· < ·)) :=
  pairwise_mergeSort (nodup_eraseDups texts)

theorem mem_sortedDistinct {t : Text} {texts : List Text} :
    t ∈ sortedDistinct texts ↔ t ∈ texts := by
  simp [sortedDistinct]

end Text

end Phrasebook
