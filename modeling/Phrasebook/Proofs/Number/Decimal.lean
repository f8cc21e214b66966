import Phrasebook.Proofs.Text.Cutting
import Phrasebook.Value.Text

/-!
Decimal numerals. The numeral that is written for an integer within the limit of digits is read as
that integer, and it holds nothing but digits and a sign.
-/

set_option autoImplicit false
set_option relaxedAutoImplicit false

namespace Phrasebook

namespace Number

/-! ## Digits -/

private theorem bounds_of_isDigit {c : Char} (h : c.isDigit = true) : '0' ≤ c ∧ c ≤ '9' := by
  rw [Char.isDigit, Bool.and_eq_true, decide_eq_true_iff, decide_eq_true_iff] at h
  exact h

private theorem digitValue?_of_isDigit {c : Char} (h : c.isDigit = true) :
    Text.digitValue? c = some (c.toNat - '0'.toNat) := by
  have hbounds := bounds_of_isDigit h
  have hascii : c.toNat < 128 := Nat.lt_of_le_of_lt hbounds.2 (by decide)
  rw [Text.digitValue?, if_pos hascii, if_pos hbounds]
  rfl

private theorem digitRun?_of_isDigit {t : Text} (hne : t ≠ []) (h : ∀ c ∈ t, c.isDigit = true) :
    digitRun? t = some (t.map fun c => c.toNat - '0'.toNat) := by
  induction t with
  | nil => exact absurd rfl hne
  | cons c t ih =>
    rw [List.forall_mem_cons] at h
    cases t with
    | nil => simp [digitRun?, digitValue?_of_isDigit h.1]
    | cons next t =>
      have hnext : next ≠ '_' := by
        rintro rfl
        exact absurd (h.2 '_' List.mem_cons_self) (by decide)
      rw [digitRun?]
      · rw [digitValue?_of_isDigit h.1, ih (List.cons_ne_nil _ _) h.2]
        rfl
      · exact hnext

private theorem digitRun?_toDigits (n : Nat) :
    digitRun? (Nat.toDigits 10 n) = some ((Nat.toDigits 10 n).map fun c => c.toNat - '0'.toNat) :=
  digitRun?_of_isDigit Nat.toDigits_ne_nil fun _ hc =>
    Nat.isDigit_of_mem_toDigits (by decide) (by decide) hc

private theorem ofDigits_toDigits (n : Nat) :
    ofDigits ((Nat.toDigits 10 n).map fun c => c.toNat - '0'.toNat) = n := by
  rw [ofDigits, List.foldl_map, ← Nat.ofDigitChars_eq_foldl]
  exact Nat.ofDigitChars_toDigits (by decide) (by decide)

private theorem length_toDigits_le {n limit : Nat} (hlimit : 0 < limit) (h : n < Nat.pow 10 limit) :
    (Nat.toDigits 10 n).length ≤ limit :=
  (Nat.length_toDigits_le_iff (by decide) hlimit).mpr h

/-! ## Numerals -/

private theorem mem_decimal {n : Int} {c : Char} (h : c ∈ decimal n) : c = '-' ∨ c.isDigit = true := by
  cases n with
  | ofNat n => exact Or.inr (Nat.isDigit_of_mem_toDigits (by decide) (by decide) h)
  | negSucc n =>
    rcases List.mem_cons.mp h with h | h
    · exact Or.inl h
    · exact Or.inr (Nat.isDigit_of_mem_toDigits (by decide) (by decide) h)

theorem not_mem_decimal {c : Char} (hsign : c ≠ '-') (hdigit : c.isDigit = false) (n : Int) :
    c ∉ decimal n := by
  intro h
  rcases mem_decimal h with h | h
  · exact hsign h
  · rw [hdigit] at h
    cases h

private theorem not_blank_of_mem_decimal {n : Int} : ∀ c ∈ decimal n, Text.isBlank c = false := by
  intro c hc
  have hbounds : 33 ≤ c.toNat ∧ c.toNat ≤ 57 := by
    rcases mem_decimal hc with rfl | hdigit
    · decide
    · have h := bounds_of_isDigit hdigit
      exact ⟨Nat.le_trans (by decide) h.1, h.2⟩
  simp only [Text.isBlank, Bool.or_eq_false_iff, Bool.and_eq_false_iff, decide_eq_false_iff_not,
    beq_eq_false_iff_ne]
  omega

theorem strip_decimal (n : Int) : (decimal n).strip = decimal n :=
  Text.strip_of_not_blank not_blank_of_mem_decimal

private theorem takeSign_of_isDigit {c : Char} (h : c.isDigit = true) (rest : Text) :
    takeSign (c :: rest) = (false, c :: rest) := by
  have hminus : c ≠ '-' := by
    rintro rfl
    exact absurd h (by decide)
  have hplus : c ≠ '+' := by
    rintro rfl
    exact absurd h (by decide)
  simp [takeSign, hminus, hplus]

private theorem takeSign_toDigits (n : Nat) :
    takeSign (Nat.toDigits 10 n) = (false, Nat.toDigits 10 n) := by
  obtain ⟨c, rest, hnumeral⟩ := List.exists_cons_of_ne_nil (Nat.toDigits_ne_nil (n := n) (b := 10))
  have hdigit : c.isDigit = true := by
    refine Nat.isDigit_of_mem_toDigits (b := 10) (n := n) (by decide) (by decide) ?_
    rw [hnumeral]
    exact List.mem_cons_self
  rw [hnumeral]
  exact takeSign_of_isDigit hdigit rest

theorem readInteger?_decimal {n : Int} (h : n.natAbs < Nat.pow 10 digitLimit) :
    readInteger? (decimal n) = some n := by
  rw [readInteger?, Text.stripNumeral_of_not_blank not_blank_of_mem_decimal]
  cases n with
  | ofNat n =>
    have hlength : (Nat.toDigits 10 n).length ≤ digitLimit := length_toDigits_le (by decide) h
    simp only [decimal, takeSign_toDigits, digitRun?_toDigits, ofDigits_toDigits, List.length_map,
      if_pos hlength, Bool.false_eq_true, if_false]
    rfl
  | negSucc n =>
    have hlength : (Nat.toDigits 10 (n + 1)).length ≤ digitLimit := length_toDigits_le (by decide) h
    simp only [decimal, takeSign, digitRun?_toDigits, ofDigits_toDigits, List.length_map,
      if_pos hlength, if_true]
    rfl

end Number

/-- The text of an integer within the limit is its numeral. -/
theorem Value.toText_int {n : Int} (h : n.natAbs < Nat.pow 10 Number.digitLimit) :
    (Value.int n).toText = .ok (Number.decimal n) := by
  simp only [Value.toText, Value.source, Number.writeInteger, if_pos h]

end Phrasebook
