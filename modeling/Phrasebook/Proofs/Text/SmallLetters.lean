import Mathlib
import Phrasebook.Text.Lowercase

/-!
Small letters of every script and those of the Latin alphabet alone. A word of plain letters, from `a` to
`z` but without `k`, is what a text comes to in the one sense exactly when it is so in the other. The `k`
is left out because the sign for a unit of temperature has it as its small letter.
-/

set_option autoImplicit false
set_option relaxedAutoImplicit false

namespace Phrasebook.Text

/-- A small Latin letter that only its own capital is made into. -/
def IsPlain (c : Char) : Prop := 97 ≤ c.toNat ∧ c.toNat ≤ 122 ∧ c.toNat ≠ 107

instance (c : Char) : Decidable (IsPlain c) := inferInstanceAs (Decidable (_ ∧ _))

private theorem small_of_ascii {c : Char} (h : c.toNat < 128) : small c = [c.toLower] := by
  have hall : ∀ n < 128, small (Char.ofNat n) = [(Char.ofNat n).toLower] := by decide +kernel
  have hc := hall c.toNat h
  rwa [Char.ofNat_toNat] at hc

private theorem toLower_of_not_ascii {c : Char} (h : 128 ≤ c.toNat) : c.toLower = c := by
  unfold Char.toLower
  rw [dif_neg]
  rintro ⟨-, hle⟩
  have hcapital : c.toNat ≤ 90 := hle
  omega

private theorem target_of_mem_capitalRows : ∀ row ∈ capitalRows,
    128 ≤ row.2.2.2 ∨ row.2.1 < 128 ∨ row.1 = row.2.1 ∧ row.2.2.2 = 107 := by
  decide +kernel

private theorem exists_not_isPlain_small {c : Char} (h : 128 ≤ c.toNat) : ∃ d ∈ small c, ¬ IsPlain d := by
  unfold small
  split_ifs with hdotted
  · exact ⟨'\u0307', by simp, by decide⟩
  · split
    · next first last step target hrow =>
      refine ⟨_, List.mem_singleton_self _, ?_⟩
      rintro ⟨hlow, hhigh, hk⟩
      have hin : first ≤ c.toNat ∧ c.toNat ≤ last := by
        have hinRow := List.find?_some hrow
        simp only [isInRow, Bool.and_eq_true, decide_eq_true_eq] at hinRow
        exact hinRow.1
      have htarget := target_of_mem_capitalRows _ (List.mem_of_find?_eq_some hrow)
      dsimp only at htarget
      have hcode := Char.toNat_ofNat (target + (c.toNat - first))
      split_ifs at hcode <;> omega
    · refine ⟨c, List.mem_singleton_self c, ?_⟩
      rintro ⟨-, hhigh, -⟩
      omega

private theorem not_isPlain_smallSigma (before after : Text) : ¬ IsPlain (smallSigma before after) := by
  unfold smallSigma
  split_ifs <;> decide

/-- A plain word is a text in small letters of every script exactly when it is the text in small letters
of the Latin alphabet. -/
theorem lowercase_eq_iff {word : Text} (h : ∀ c ∈ word, IsPlain c) (t : Text) :
    lowercase t = word ↔ lower t = word := by
  have general : ∀ before : Text, lowercaseAfter before t = word ↔ lower t = word := by
    induction t generalizing word with
    | nil => exact fun _ => Iff.rfl
    | cons c t ih =>
      intro before
      have hlower : lower (c :: t) = c.toLower :: lower t := rfl
      rw [lowercaseAfter, hlower]
      by_cases hascii : c.toNat < 128
      · -- a Latin letter comes to the same, and the rest of the texts is compared
        have hsigma : c ≠ 'Σ' := by
          rintro rfl
          exact absurd hascii (by decide)
        rw [if_neg hsigma, small_of_ascii hascii, List.singleton_append]
        cases word with
        | nil => exact iff_of_false nofun nofun
        | cons d word =>
          rw [List.forall_mem_cons] at h
          rw [List.cons.injEq, List.cons.injEq, ih h.2 (c :: before)]
      · -- any other character leaves one that is not plain, on either side
        have hbeyond : 128 ≤ c.toNat := Nat.le_of_not_lt hascii
        have hpiece : ∃ d ∈ (if c = 'Σ' then [smallSigma before t] else small c), ¬ IsPlain d := by
          split_ifs
          · exact ⟨_, List.mem_singleton_self _, not_isPlain_smallSigma before t⟩
          · exact exists_not_isPlain_small hbeyond
        obtain ⟨d, hd, hplain⟩ := hpiece
        refine iff_of_false ?_ ?_
        · rintro rfl
          exact hplain (h d (List.mem_append_left _ hd))
        · rintro rfl
          have hc := h c.toLower List.mem_cons_self
          rw [toLower_of_not_ascii hbeyond] at hc
          have hhigh := hc.2.1
          omega
  exact general []

end Phrasebook.Text
