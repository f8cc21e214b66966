import Mathlib.Order.Interval.Set.Defs
import Phrasebook.Proofs.Rule.Selection
import Phrasebook.Proofs.Text.SmallLetters

/-!
The plural categories of integers. Each language sets a condition for each of its categories on the last
digits of the count. No two of them hold of one count, and the category that is worked out step by step is
the one whose condition holds, or `other` where none does. The language is read off any locale tag, in
small letters of whatever script.
-/

set_option autoImplicit false
set_option relaxedAutoImplicit false

namespace Phrasebook.Plural

/-! ## Conditions -/

/-- The conditions of a language for its categories, each told by itself. -/
structure Conditions where
  one : Nat → Prop
  few : Nat → Prop := fun _ => False
  many : Nat → Prop := fun _ => False

namespace Conditions

def polish : Conditions where
  one n := n = 1
  few n := n % 10 ∈ Set.Icc 2 4 ∧ n % 100 ∉ Set.Icc 12 14
  many n := (n ≠ 1 ∧ n % 10 ∈ Set.Icc 0 1) ∨ n % 10 ∈ Set.Icc 5 9 ∨ n % 100 ∈ Set.Icc 12 14

def russian : Conditions where
  one n := n % 10 = 1 ∧ n % 100 ≠ 11
  few n := n % 10 ∈ Set.Icc 2 4 ∧ n % 100 ∉ Set.Icc 12 14
  many n := n % 10 = 0 ∨ n % 10 ∈ Set.Icc 5 9 ∨ n % 100 ∈ Set.Icc 11 14

/-- The conditions of a language code. The last are those of English, German and Spanish, and of every
language of which nothing is known. -/
def ofLanguage (language : Text) : Conditions :=
  if language = ['p', 'l'] then polish
  else if language = ['r', 'u'] then russian
  else if language = ['f', 'r'] then { one n := n = 0 ∨ n = 1 }
  else if language = ['j', 'a'] then { one _ := False }
  else { one n := n = 1 }

/-- A count falls under a category by the condition for it, and under `other` if no condition holds. -/
def Admit (conditions : Conditions) (n : Nat) : Plural → Prop
  | .one => conditions.one n
  | .few => conditions.few n
  | .many => conditions.many n
  | .other => ¬ conditions.one n ∧ ¬ conditions.few n ∧ ¬ conditions.many n
  | .zero | .two => False

/-- No two conditions hold of one count. -/
def Exclusive (conditions : Conditions) : Prop :=
  ∀ n, (conditions.one n → ¬ conditions.few n ∧ ¬ conditions.many n) ∧
    (conditions.few n → ¬ conditions.many n)

private theorem exclusive_polish : polish.Exclusive := by
  intro n
  simp only [polish, Set.mem_Icc]
  omega

private theorem exclusive_russian : russian.Exclusive := by
  intro n
  simp only [russian, Set.mem_Icc]
  omega

private theorem exclusive_one (one : Nat → Prop) : Exclusive { one } :=
  fun _ => ⟨fun _ => ⟨not_false, not_false⟩, fun hfew => hfew.elim⟩

private theorem exclusive_ofLanguage (language : Text) : (ofLanguage language).Exclusive := by
  unfold ofLanguage
  split_ifs
  · exact exclusive_polish
  · exact exclusive_russian
  · exact exclusive_one _
  · exact exclusive_one _
  · exact exclusive_one _

private theorem Exclusive.admit_unique {conditions : Conditions} (h : conditions.Exclusive) {n : Nat}
    {category category' : Plural} (hcategory : conditions.Admit n category)
    (hother : conditions.Admit n category') : category = category' := by
  obtain ⟨hone, hfew⟩ := h n
  cases category <;> cases category' <;> simp only [Admit] at hcategory hother <;> tauto

end Conditions

/-! ## Categories -/

namespace Family

private theorem isPaucal_iff (n : Nat) :
    isPaucal n = true ↔ n % 10 ∈ Set.Icc 2 4 ∧ n % 100 ∉ Set.Icc 12 14 := by
  simp only [isPaucal, Bool.and_eq_true, decide_eq_true_eq, Bool.not_eq_true', Bool.and_eq_false_iff,
    decide_eq_false_iff_not, Set.mem_Icc]
  omega

private theorem admit_polish (n : Nat) : Conditions.polish.Admit n (polish.category n) := by
  simp only [category]
  split_ifs with hone hfew
  · exact hone
  · exact (isPaucal_iff n).mp hfew
  · rw [isPaucal_iff] at hfew
    simp only [Conditions.Admit, Conditions.polish, Set.mem_Icc] at hfew ⊢
    omega

private theorem admit_russian (n : Nat) : Conditions.russian.Admit n (russian.category n) := by
  simp only [category]
  split_ifs with hone hfew
  · exact hone
  · exact (isPaucal_iff n).mp hfew
  · rw [isPaucal_iff] at hfew
    simp only [Conditions.Admit, Conditions.russian, Set.mem_Icc] at hfew ⊢
    omega

private theorem admit_one (one : Nat → Prop) [DecidablePred one] (n : Nat) :
    Conditions.Admit { one } n (if one n then .one else .other) := by
  split_ifs with h
  · exact h
  · exact ⟨h, not_false, not_false⟩

private theorem admit_category (language : Text) (n : Nat) :
    (Conditions.ofLanguage language).Admit n ((ofLanguage language).category n) := by
  unfold Conditions.ofLanguage ofLanguage
  by_cases hpolish : language = ['p', 'l']
  · subst hpolish
    exact admit_polish n
  by_cases hrussian : language = ['r', 'u']
  · subst hrussian
    exact admit_russian n
  by_cases hfrench : language = ['f', 'r']
  · subst hfrench
    exact admit_one (fun n => n = 0 ∨ n = 1) n
  by_cases hjapanese : language = ['j', 'a']
  · subst hjapanese
    exact admit_one (fun _ => False) n
  · simp only [hpolish, hrussian, hfrench, hjapanese, if_false]
    exact admit_one (fun n => n = 1) n

private theorem category_eq_iff (language : Text) (n : Nat) (category : Plural) :
    (ofLanguage language).category n = category ↔
      (Conditions.ofLanguage language).Admit n category := by
  constructor
  · rintro rfl
    exact admit_category language n
  · exact (Conditions.exclusive_ofLanguage language).admit_unique (admit_category language n)

private theorem ofLanguage_lowercase (part : Text) : ofLanguage part.lowercase = ofLanguage part.lower := by
  have hcode : ∀ a b : Char, Text.IsPlain a → Text.IsPlain b →
      (part.lowercase = [a, b] ↔ part.lower = [a, b]) := by
    intro a b ha hb
    refine Text.lowercase_eq_iff ?_ part
    rw [List.forall_mem_cons, List.forall_mem_singleton]
    exact ⟨ha, hb⟩
  have hfrench := hcode 'f' 'r' (by decide) (by decide)
  have hpolish := hcode 'p' 'l' (by decide) (by decide)
  have hrussian := hcode 'r' 'u' (by decide) (by decide)
  have hjapanese := hcode 'j' 'a' (by decide) (by decide)
  simp only [ofLanguage, hfrench, hpolish, hrussian, hjapanese]

end Family

/-! ## Languages of tags -/

def IsSeparator (c : Char) : Prop := c = '-' ∨ c = '_'

/-- A tag has a language: the part before its first separator, if it has one, in small letters. -/
def HasLanguage (tag language : Text) : Prop :=
  ∃ part rest, tag = part ++ rest ∧ (∀ c ∈ part, ¬ IsSeparator c) ∧
    (∀ c ∈ rest.head?, IsSeparator c) ∧ language = part.lowercase

def languagePart (tag : Text) : Text := tag.takeWhile fun c => c ≠ '-' && c ≠ '_'

private theorem languageOf_eq (tag : Text) : languageOf tag = (languagePart tag).lower := rfl

private theorem not_separates_iff (c : Char) : (c ≠ '-' && c ≠ '_') = true ↔ ¬ IsSeparator c := by
  simp [IsSeparator]

private theorem languagePart_append {part rest : Text} (hpart : ∀ c ∈ part, ¬ IsSeparator c)
    (hrest : ∀ c ∈ rest.head?, IsSeparator c) : languagePart (part ++ rest) = part := by
  have hkept : ∀ c ∈ part, (c ≠ '-' && c ≠ '_') = true :=
    fun c hc => (not_separates_iff c).mpr (hpart c hc)
  rw [languagePart, List.takeWhile_append_of_pos hkept]
  cases rest with
  | nil => rw [List.takeWhile_nil, List.append_nil]
  | cons c rest =>
    have hends : ¬ (c ≠ '-' && c ≠ '_') = true := by
      rw [not_separates_iff, not_not]
      exact hrest c rfl
    rw [List.takeWhile_cons, if_neg hends, List.append_nil]

private theorem hasLanguage_iff {tag language : Text} :
    HasLanguage tag language ↔ language = (languagePart tag).lowercase := by
  constructor
  · rintro ⟨part, rest, rfl, hpart, hrest, rfl⟩
    rw [languagePart_append hpart hrest]
  · rintro rfl
    refine ⟨languagePart tag, tag.dropWhile fun c => c ≠ '-' && c ≠ '_',
      List.takeWhile_append_dropWhile.symm, fun c hc => ?_, fun c hc => ?_, rfl⟩
    · have hkept := List.mem_takeWhile_imp hc
      exact (not_separates_iff c).mp hkept
    · have hdropped := Text.not_drops_of_mem_head?_dropWhile hc
      by_contra hnot
      rw [(not_separates_iff c).mpr hnot] at hdropped
      cases hdropped

private theorem hasLanguage_tag (locale : Locale) : HasLanguage locale.tag locale.language := by
  rw [hasLanguage_iff]
  cases locale <;> decide +kernel

private theorem categoryOf_eq_iff {tag language : Text} (h : HasLanguage tag language) (count : Int)
    (category : Plural) :
    categoryOf tag count = category ↔
      (Conditions.ofLanguage language).Admit count.natAbs category := by
  rw [hasLanguage_iff.mp h, ← Family.category_eq_iff, Family.ofLanguage_lowercase, ← languageOf_eq]
  rfl

/-- Every tag has one language, and an integer has a category under the tag exactly when it falls under it,
sign apart, by the conditions of that language. It is always one of the categories in the order of the
language. The language of a supported locale is its own. -/
theorem category_by_conditions (count : Int) :
    (∀ tag : Text, ∃ language, (∀ other, HasLanguage tag other ↔ other = language) ∧
      (∀ category, categoryOf tag count = category ↔
        (Conditions.ofLanguage language).Admit count.natAbs category) ∧
      categoryOf tag count ∈ orderOf tag) ∧
    (∀ (locale : Locale) (category : Plural), categoryOf locale.tag count = category ↔
      (Conditions.ofLanguage locale.language).Admit count.natAbs category) := by
  constructor
  · intro tag
    have hlanguage : HasLanguage tag (languagePart tag).lowercase := hasLanguage_iff.mpr rfl
    have hmem : categoryOf tag count ∈ orderOf tag := Family.category_mem_order _ _
    exact ⟨_, fun other => hasLanguage_iff, categoryOf_eq_iff hlanguage count, hmem⟩
  · intro locale
    exact categoryOf_eq_iff (hasLanguage_tag locale) count

/-- A count below zero, under a tag in capitals with a script and an underscore. -/
example : categoryOf "PL_Latn-PL".toList (-112) = .many ∧ categoryOf "PL_Latn-PL".toList (-122) = .few := by
  decide

end Phrasebook.Plural
