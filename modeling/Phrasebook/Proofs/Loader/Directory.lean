import Phrasebook.Loader.Directory
import Phrasebook.Proofs.Text.Cutting
import Phrasebook.Proofs.Text.Order

/-!
The files that a locale has in a directory: each one once, in the order of their names. The names that
fit a locale are those from which the locale is read, and a name fits one locale at most.
-/

set_option autoImplicit false
set_option relaxedAutoImplicit false

namespace Phrasebook

namespace Locale

private theorem ofTag?_tag (locale : Locale) : ofTag? locale.tag = some locale := by
  cases locale <;> decide

private theorem dot_not_mem_tag (locale : Locale) : '.' ∉ locale.tag := by
  cases locale <;> decide

private theorem ofTag?_eq_some_iff {tag : Text} {locale : Locale} :
    ofTag? tag = some locale ↔ tag = locale.tag := by
  constructor
  · intro h
    have hfound := List.find?_some h
    exact (of_decide_eq_true hfound).symm
  · rintro rfl
    exact ofTag?_tag locale

end Locale

namespace Directory

/-! ## Names -/

section

variable {locale : Locale} {name : Text} {content : FileContent}

/-- A name is that of a locale alone, or has anything and a dot before it. -/
def Fits (locale : Locale) (name : Text) : Prop :=
  name = locale.tag ++ ending ∨ ∃ before, name = before ++ '.' :: locale.tag ++ ending

theorem fits_iff : Fits locale name ↔ (tagPart? name).bind Locale.ofTag? = some locale := by
  have hpart : (tagPart? name).bind Locale.ofTag? = some locale ↔
      ∃ stem, name = stem ++ ending ∧ Text.lastPiece '.' stem = locale.tag := by
    simp only [tagPart?, Option.bind_eq_some_iff, Option.map_eq_some_iff, Text.dropEnd?_eq_some_iff,
      Locale.ofTag?_eq_some_iff]
    constructor
    · rintro ⟨tag, ⟨stem, hname, rfl⟩, htag⟩
      exact ⟨stem, hname, htag⟩
    · rintro ⟨stem, hname, htag⟩
      exact ⟨_, ⟨stem, hname, rfl⟩, htag⟩
  rw [hpart, Fits]
  simp only [Text.lastPiece_eq_iff locale.dot_not_mem_tag]
  constructor
  · rintro (h | ⟨before, h⟩)
    · exact ⟨locale.tag, h, Or.inl rfl⟩
    · exact ⟨before ++ '.' :: locale.tag, h, Or.inr ⟨before, rfl⟩⟩
  · rintro ⟨stem, h, rfl | ⟨before, rfl⟩⟩
    · exact Or.inl h
    · exact Or.inr ⟨before, h⟩

theorem Fits.unique {locale' : Locale} (h : Fits locale name) (h' : Fits locale' name) :
    locale = locale' := by
  have hsame := (fits_iff.mp h).symm.trans (fits_iff.mp h')
  exact Option.some.inj hsame

/-- What fits a locale belongs to it, but that a search may pass over the name of the locale alone where
it leads nowhere. -/
theorem belongsTo_iff [Globbing] : belongsTo locale name content = true ↔
    Fits locale name ∧
      (name = locale.tag ++ ending → (Globbing.listsDangling || isThere content) = true) := by
  rw [belongsTo, Bool.or_eq_true, Bool.and_eq_true, decide_eq_true_iff, isPartOf,
    Option.isSome_iff_exists]
  simp only [Text.dropEnd?_eq_some_iff, Fits, List.cons_append, List.append_assoc]
  constructor
  · rintro (⟨hname, hthere⟩ | ⟨before, hname⟩)
    · exact ⟨Or.inl hname, fun _ => hthere⟩
    · refine ⟨Or.inr ⟨before, hname⟩, fun halone => ?_⟩
      have hlength := congrArg List.length (hname.symm.trans halone)
      simp at hlength
      omega
  · rintro ⟨hname | hpart, hthere⟩
    · exact Or.inl ⟨hname, hthere hname⟩
    · exact Or.inr hpart

theorem belongsTo_iff_fits [Globbing] (hlists : Globbing.ListsAll) :
    belongsTo locale name content = true ↔ Fits locale name := by
  rw [belongsTo_iff, hlists]
  simp

end

/-! ## Files -/

variable [Globbing]

theorem mem_namesFor {d : Directory} {locale : Locale} {name : Text} :
    name ∈ d.namesFor locale ↔
      ∃ content, d.get? name = some content ∧ belongsTo locale name content = true := by
  simp [namesFor, Dict.mem_entries]

theorem namesFor_pairwise (d : Directory) (locale : Locale) :
    (d.namesFor locale).Pairwise (List.Lex (· < ·)) :=
  Text.pairwise_mergeSort (d.nodup.sublist (List.filter_sublist.map _))

theorem namesFor_eq {d : Directory} {locale : Locale} {names : List Text}
    (hsorted : names.Pairwise (List.Lex (· < ·)))
    (hnames : ∀ name, name ∈ names ↔
      ∃ content, d.get? name = some content ∧ belongsTo locale name content = true) :
    d.namesFor locale = names := by
  have hirrefl : Std.Irrefl (List.Lex (· < ·) : Text → Text → Prop) := ⟨List.lex_irrefl Char.lt_irrefl⟩
  have hantisymm : Std.Antisymm (List.Lex (· < ·) : Text → Text → Prop) := by
    refine ⟨fun s t hst hts => ?_⟩
    have hss : List.Lex (· < ·) s s := List.lex_trans (fun hab hbc => Char.lt_trans hab hbc) hst hts
    exact absurd hss (hirrefl.irrefl s)
  -- both lists are in strict order, and so determined by what is in them
  refine (d.namesFor_pairwise locale).eq_of_mem_iff hsorted fun name => ?_
  rw [mem_namesFor, hnames]

omit [Globbing] in
/-- A locale is found if a name fits it, whether or not the file can be opened. -/
theorem mem_locales {d : Directory} {locale : Locale} :
    locale ∈ d.locales ↔ ∃ name ∈ d.keys, Fits locale name := by
  simp only [fits_iff, Option.bind_eq_some_iff]
  rw [locales, List.mem_eraseDups, List.mem_filterMap]
  constructor
  · rintro ⟨tag, htag, hlocale⟩
    obtain ⟨name, hname, hpart⟩ := List.mem_filterMap.mp htag
    exact ⟨name, hname, tag, hpart, hlocale⟩
  · rintro ⟨name, hname, tag, hpart, hlocale⟩
    exact ⟨tag, List.mem_filterMap.mpr ⟨name, hname, hpart⟩, hlocale⟩

end Directory

end Phrasebook
