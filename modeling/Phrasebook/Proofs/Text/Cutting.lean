import Mathlib.Data.List.TakeWhile
import Phrasebook.Text.Blank

/-!
Cutting texts: what an expected beginning or ending leaves, the parts before and after a separator,
and a text without the white space around it.
-/

set_option autoImplicit false
set_option relaxedAutoImplicit false

namespace Phrasebook.Text

/-! ## Beginnings and endings -/

theorem dropStart?_append (expected t : Text) : dropStart? expected (expected ++ t) = some t := by
  induction expected with
  | nil => rfl
  | cons c expected ih => simp [dropStart?, ih]

theorem eq_append_of_dropStart? {expected t rest : Text} (h : dropStart? expected t = some rest) :
    t = expected ++ rest := by
  induction expected generalizing t with
  | nil =>
    obtain rfl := Option.some.inj h
    rfl
  | cons e expected ih =>
    cases t with
    | nil => cases h
    | cons c t =>
      rw [dropStart?] at h
      split_ifs at h with hc
      rw [ih h, hc, List.cons_append]

theorem dropEnd?_eq_some_iff {expected t before : Text} :
    dropEnd? expected t = some before ↔ t = before ++ expected := by
  rw [dropEnd?, Option.map_eq_some_iff]
  constructor
  · rintro ⟨rest, hrest, rfl⟩
    rw [← List.reverse_reverse t, eq_append_of_dropStart? hrest, List.reverse_append,
      List.reverse_reverse]
  · rintro rfl
    refine ⟨before.reverse, ?_, List.reverse_reverse before⟩
    rw [List.reverse_append, dropStart?_append]

/-! ## Separators -/

section

variable {separator : Char}

theorem breakAt_append {before : Text} (h : separator ∉ before) (rest : Text) :
    breakAt separator (before ++ rest) =
      (before ++ (breakAt separator rest).1, (breakAt separator rest).2) := by
  induction before with
  | nil => rfl
  | cons c before ih =>
    rw [List.mem_cons, not_or] at h
    simp [breakAt, Ne.symm h.1, ih h.2]

theorem breakAt_eq_some_iff {t before after : Text} :
    breakAt separator t = (before, some after) ↔
      separator ∉ before ∧ t = before ++ separator :: after := by
  constructor
  · intro h
    induction t generalizing before with
    | nil => cases h
    | cons c t ih =>
      rw [breakAt] at h
      split_ifs at h with hc
      · obtain ⟨rfl, hafter⟩ := Prod.mk.inj h
        rw [hc, Option.some.inj hafter]
        exact ⟨List.not_mem_nil, rfl⟩
      · obtain ⟨rfl, hafter⟩ := Prod.mk.inj h
        obtain ⟨hbefore, ht⟩ := ih (Prod.ext rfl hafter)
        refine ⟨?_, congrArg (c :: ·) ht⟩
        rw [List.mem_cons, not_or]
        exact ⟨Ne.symm hc, hbefore⟩
  · rintro ⟨hbefore, rfl⟩
    rw [breakAt_append hbefore]
    simp [breakAt]

private theorem pieces_append {first : Text} (h : separator ∉ first) (rest : Text) :
    pieces separator (first ++ rest) =
      (first ++ (pieces separator rest).1, (pieces separator rest).2) := by
  induction first with
  | nil => rfl
  | cons c first ih =>
    rw [List.mem_cons, not_or] at h
    simp [pieces, Ne.symm h.1, ih h.2]

private theorem pieces_of_not_mem {t : Text} (h : separator ∉ t) : pieces separator t = (t, []) := by
  have hpieces := pieces_append h []
  rwa [List.append_nil, pieces, List.append_nil] at hpieces

theorem pieces_join {first : Text} {more : List Text} (hfirst : separator ∉ first)
    (hmore : ∀ piece ∈ more, separator ∉ piece) :
    pieces separator (join separator first more) = (first, more) := by
  induction more generalizing first with
  | nil => exact pieces_of_not_mem hfirst
  | cons second more ih =>
    rw [List.forall_mem_cons] at hmore
    rw [join, pieces_append hfirst, pieces, ih hmore.1 hmore.2]
    simp

/-- The pieces of a text do not hold the separator, and joined by it they are the text again. -/
theorem join_pieces (separator : Char) (t : Text) :
    separator ∉ (pieces separator t).1 ∧ (∀ piece ∈ (pieces separator t).2, separator ∉ piece) ∧
      join separator (pieces separator t).1 (pieces separator t).2 = t := by
  induction t with
  | nil => exact ⟨List.not_mem_nil, nofun, rfl⟩
  | cons c t ih =>
    obtain ⟨hfirst, hmore, hjoin⟩ := ih
    rw [pieces]
    split_ifs with hc
    · refine ⟨List.not_mem_nil, List.forall_mem_cons.mpr ⟨hfirst, hmore⟩, ?_⟩
      rw [join, hjoin, hc, List.nil_append]
    · refine ⟨?_, hmore, ?_⟩
      · rw [List.mem_cons, not_or]
        exact ⟨Ne.symm hc, hfirst⟩
      · -- the character stands before the first piece, whether or not there are more
        have hjoined : ∀ first more, join separator (c :: first) more = c :: join separator first more := by
          intro first more
          cases more <;> rfl
        rw [hjoined, hjoin]

theorem join_eq_intercalate (separator : Char) (first : Text) (more : List Text) :
    join separator first more = [separator].intercalate (first :: more) := by
  induction more generalizing first with
  | nil => simp [join]
  | cons second more ih => simp [join, ih]

theorem mem_join {first : Text} {more : List Text} {c : Char}
    (h : c ∈ join separator first more) : c = separator ∨ ∃ piece ∈ first :: more, c ∈ piece := by
  induction more generalizing first with
  | nil => exact Or.inr ⟨first, List.mem_cons_self, h⟩
  | cons second more ih =>
    rw [join, List.mem_append, List.mem_cons] at h
    rcases h with h | h | h
    · exact Or.inr ⟨first, List.mem_cons_self, h⟩
    · exact Or.inl h
    · obtain hseparator | ⟨piece, hpiece, hc⟩ := ih h
      · exact Or.inl hseparator
      · exact Or.inr ⟨piece, List.mem_cons_of_mem _ hpiece, hc⟩

theorem not_mem_replace {old c : Char} {new t : Text} (hnew : c ∉ new) (ht : c ∉ t) :
    c ∉ replace old new t := by
  intro h
  obtain ⟨d, hd, hc⟩ := List.mem_flatMap.mp h
  split_ifs at hc with hold
  · exact hnew hc
  · rw [List.mem_singleton.mp hc] at ht
    exact ht hd

private theorem lastPiece_of_not_mem {t : Text} (h : separator ∉ t) : lastPiece separator t = t := by
  rw [lastPiece, pieces_of_not_mem h]
  rfl

private theorem lastPiece_append_cons (separator : Char) (before t : Text) :
    lastPiece separator (before ++ separator :: t) = lastPiece separator t := by
  induction before with
  | nil =>
    simp only [List.nil_append, lastPiece, pieces, if_true, List.getLastD_cons]
  | cons c before ih =>
    rw [← ih]
    simp only [List.cons_append, lastPiece, pieces]
    -- the separator that was written makes a second piece in any case
    have hmore : (pieces separator (before ++ separator :: t)).2 ≠ [] := by
      clear ih
      induction before with
      | nil => simp [pieces]
      | cons d before ih =>
        simp only [List.cons_append, pieces]
        split_ifs
        · simp
        · exact ih
    obtain ⟨second, more, hsecond⟩ := List.exists_cons_of_ne_nil hmore
    split_ifs <;> simp only [hsecond, List.getLastD_cons]

theorem lastPiece_eq_iff {t piece : Text} (h : separator ∉ piece) :
    lastPiece separator t = piece ↔ t = piece ∨ ∃ before, t = before ++ separator :: piece := by
  constructor
  · rintro rfl
    by_cases hmem : separator ∈ t
    · -- cut at the last separator, which is the first one from behind
      obtain ⟨after, before, ht, hafter⟩ := List.eq_append_cons_of_mem (List.mem_reverse.mpr hmem)
      have hcut : t = before.reverse ++ separator :: after.reverse := by
        rw [← List.reverse_reverse t, ht]
        simp
      refine Or.inr ⟨before.reverse, ?_⟩
      rw [hcut, lastPiece_append_cons, lastPiece_of_not_mem (mt List.mem_reverse.mp hafter)]
    · exact Or.inl (lastPiece_of_not_mem hmem).symm
  · rintro (rfl | ⟨before, rfl⟩)
    · exact lastPiece_of_not_mem h
    · rw [lastPiece_append_cons, lastPiece_of_not_mem h]

end

/-! ## White space -/

private theorem trimmed_of_forall {drops : Char → Bool} {t : Text} (h : ∀ c ∈ t, drops c = false) :
    ((t.dropWhile drops).reverse.dropWhile drops).reverse = t := by
  have hkept : ∀ {u : Text}, (∀ c ∈ u, drops c = false) → u.dropWhile drops = u := by
    intro u hu
    cases u with
    | nil => rfl
    | cons c u => rw [List.dropWhile_cons, hu c List.mem_cons_self, if_neg Bool.false_ne_true]
  rw [hkept h, hkept fun c hc => h c (List.mem_reverse.mp hc), List.reverse_reverse]

theorem strip_of_not_blank {t : Text} (h : ∀ c ∈ t, isBlank c = false) : strip t = t :=
  trimmed_of_forall h

theorem stripNumeral_of_not_blank {t : Text} (h : ∀ c ∈ t, isBlank c = false) :
    stripNumeral t = t :=
  trimmed_of_forall fun c hc => by rw [isNumeralBlank, h c hc, Bool.false_and]

/-- A text `s` is what is left of `t` without the white space around it: only white space has gone,
at both ends, and no more of it is left there. -/
structure TrimsTo (t s : Text) : Prop where
  around : ∃ before after : Text, t = before ++ s ++ after ∧
    (∀ c ∈ before, isBlank c = true) ∧ ∀ c ∈ after, isBlank c = true
  first : ∀ c ∈ s.head?, isBlank c = false
  last : ∀ c ∈ s.getLast?, isBlank c = false

private theorem dropWhile_append_of_kept {drops : Char → Bool} {before s : Text}
    (hbefore : ∀ c ∈ before, drops c = true) (hfirst : ∀ c ∈ s.head?, drops c = false) :
    (before ++ s).dropWhile drops = s := by
  rw [List.dropWhile_append_of_pos hbefore]
  cases s with
  | nil => rfl
  | cons c s => rw [List.dropWhile_cons, hfirst c rfl, if_neg Bool.false_ne_true]

theorem not_drops_of_mem_head?_dropWhile {drops : Char → Bool} {t : Text} {c : Char}
    (hc : c ∈ (t.dropWhile drops).head?) : drops c = false := by
  have hkept := List.head?_dropWhile_not drops t
  rw [Option.mem_def.mp hc] at hkept
  simpa using hkept

theorem trimsTo_strip (t : Text) : TrimsTo t (strip t) := by
  have hcutStart : t.takeWhile isBlank ++ stripStart t = t := List.takeWhile_append_dropWhile
  have hcutEnd : strip t ++ ((stripStart t).reverse.takeWhile isBlank).reverse = stripStart t := by
    rw [strip, stripEnd, ← List.reverse_append, List.takeWhile_append_dropWhile, List.reverse_reverse]
  refine ⟨⟨t.takeWhile isBlank, ((stripStart t).reverse.takeWhile isBlank).reverse, ?_, ?_, ?_⟩, ?_, ?_⟩
  · rw [List.append_assoc, hcutEnd, hcutStart]
  · intro c hc
    exact List.mem_takeWhile_imp hc
  · intro c hc
    exact List.mem_takeWhile_imp (List.mem_reverse.mp hc)
  · -- a first character that is left was already the first before the end was cut
    intro c hc
    have hfirst : c ∈ (stripStart t).head? := by
      rw [← hcutEnd, List.head?_append, Option.mem_def.mp hc]
      rfl
    exact not_drops_of_mem_head?_dropWhile hfirst
  · intro c hc
    rw [strip, stripEnd, List.getLast?_reverse] at hc
    exact not_drops_of_mem_head?_dropWhile hc

theorem strip_eq_iff {t s : Text} : strip t = s ↔ TrimsTo t s := by
  constructor
  · rintro rfl
    exact trimsTo_strip t
  · rintro ⟨⟨before, after, rfl, hbefore, hafter⟩, hfirst, hlast⟩
    have hend : ∀ {u : Text}, (∀ c ∈ u.getLast?, isBlank c = false) → stripEnd (u ++ after) = u := by
      intro u hu
      rw [stripEnd, List.reverse_append, dropWhile_append_of_kept, List.reverse_reverse]
      · intro c hc
        exact hafter c (List.mem_reverse.mp hc)
      · rwa [List.head?_reverse]
    cases s with
    | nil =>
      have hblank : ∀ c ∈ before ++ after, isBlank c = true := by
        intro c hc
        exact (List.mem_append.mp hc).elim (hbefore c) (hafter c)
      rw [List.append_nil, strip, stripStart, List.dropWhile_eq_nil_iff.mpr hblank]
      rfl
    | cons c s =>
      rw [strip, List.append_assoc, stripStart, dropWhile_append_of_kept hbefore, hend hlast]
      intro d hd
      exact hfirst d hd

theorem mem_strip {t : Text} {c : Char} (hc : c ∈ t) (hkept : isBlank c = false) : c ∈ strip t := by
  obtain ⟨before, after, ht, hbefore, hafter⟩ := (trimsTo_strip t).around
  rw [ht, List.append_assoc, List.mem_append, List.mem_append] at hc
  rcases hc with hc | hc | hc
  · rw [hbefore c hc] at hkept
    cases hkept
  · exact hc
  · rw [hafter c hc] at hkept
    cases hkept

theorem mem_of_mem_strip {t : Text} {c : Char} (hc : c ∈ strip t) : c ∈ t := by
  obtain ⟨before, after, ht, -, -⟩ := (trimsTo_strip t).around
  rw [ht]
  exact List.mem_append_left after (List.mem_append_right before hc)

end Phrasebook.Text
