import Phrasebook.Proofs.Rule.Selection

/-!
Forms that name their categories beside forms that stand in the order of the categories. Both say the
same as long as no category is named twice. One that is named again keeps the place in which it was
named first, so that then the last resort need not be the form that is written last.
-/

set_option autoImplicit false
set_option relaxedAutoImplicit false

namespace Phrasebook.Rule.Plural

variable {tag argument first : Text} {more : List Text} {entries : List (Plural × Text)}

/-! ## The last resort -/

/-- The category that is named last for the first time, with the text that is given for it last. -/
def lastResort (entries : List (Plural × Text)) : Option (Plural × Text) := do
  let category ← (entries.map Prod.fst).eraseDups.getLast?
  let text ← entries.reverse.lookup category
  return (category, text)

private theorem lookup_reverse_of_getLast? {last : Plural × Text}
    (h : entries.getLast? = some last) : entries.reverse.lookup last.1 = some last.2 := by
  obtain ⟨before, rfl⟩ := List.getLast?_eq_some_iff.mp h
  obtain ⟨category, text⟩ := last
  simp

private theorem exists_lastResort (h : entries ≠ []) :
    ∃ resort, lastResort entries = some resort ∧
      (Dict.ofList entries).entries.getLast? = some resort := by
  obtain ⟨category, text, hlast, hcategory, htext⟩ := Dict.exists_getLast?_entries_ofList h
  refine ⟨(category, text), ?_, hlast⟩
  simp [lastResort, hcategory, htext]

private theorem eq_last_of_fst_eq {resort last : Plural × Text} (hresort : lastResort entries = some resort)
    (hlast : entries.getLast? = some last) (h : resort.1 = last.1) : resort = last := by
  simp only [lastResort, Option.bind_eq_bind, Option.bind_eq_some_iff, Option.pure_def,
    Option.some_inj] at hresort
  obtain ⟨category, -, text, htext, rfl⟩ := hresort
  obtain rfl : category = last.1 := h
  rw [lookup_reverse_of_getLast? hlast] at htext
  rw [← Option.some.inj htext]

private theorem lastResort_of_distinct (h : (entries.map Prod.fst).Nodup) :
    lastResort entries = entries.getLast? := by
  have hkeys : (entries.map Prod.fst).eraseDups = entries.map Prod.fst := by
    rw [← Dict.keys_ofList, Dict.keys, Dict.entries_ofList_of_nodup h]
  cases hlast : entries.getLast? with
  | none => simp [lastResort, hkeys, hlast]
  | some last => simp [lastResort, hkeys, hlast, lookup_reverse_of_getLast? hlast]

private theorem lookUp_of_missing {category : Plural}
    (hmissing : ∀ entry ∈ entries, entry.1 ≠ category ∧ entry.1 ≠ .other) (resort : Text) :
    lookUp (Dict.ofList entries) category resort = resort := by
  have hnone : ∀ missing, (∀ entry ∈ entries, entry.1 ≠ missing) →
      (Dict.ofList entries).get? missing = none := by
    intro missing h
    rw [Dict.get?_ofList, List.lookup_eq_none_iff]
    intro entry hentry
    exact bne_iff_ne.mpr (h entry (List.mem_reverse.mp hentry)).symm
  have hcategory := hnone category fun entry hentry => (hmissing entry hentry).1
  have hother := hnone .other fun entry hentry => (hmissing entry hentry).2
  simp only [lookUp, hcategory, hother, Option.orElse_none, Option.getD_none]

/-- Where forms name neither the category of the count nor `other`, the last resort is selected. If no
category is named twice that is the form written last; in general the result is that of the form written
last exactly if the last resort has its category or comes to the same text. -/
theorem missing_category_selects_lastResort (hargument : '|' ∉ argument)
    (hforms : ∀ form ∈ first :: more, '|' ∉ form) (hnumeral : IsNumeral argument.strip)
    (hkeyed : Keyed (first :: more) entries)
    (hmissing : ∀ entry ∈ entries,
      entry.1 ≠ countCategory tag argument.strip ∧ entry.1 ≠ .other) :
    let result := apply (.ok tag) (Call.write callName argument first more)
    let counted := Text.replace countMark argument.strip
    ∃ resort last, lastResort entries = some resort ∧ entries.getLast? = some last ∧
      result = .ok (counted resort.2) ∧
      ((entries.map Prod.fst).Nodup → resort = last) ∧
      (result = .ok (counted last.2) ↔
        resort.1 = last.1 ∨ counted resort.2 = counted last.2) := by
  intro result counted
  let call : Call := ⟨argument.strip, first, more⟩
  have hcall : Keyed call.forms entries := hkeyed
  obtain ⟨resort, hresort, hentry⟩ := exists_lastResort hcall.ne_nil
  obtain ⟨last, hlast⟩ :=
    Option.ne_none_iff_exists'.mp (mt List.getLast?_eq_none_iff.mp hcall.ne_nil)
  have hresult : result = .ok (counted resort.2) := by
    simp only [result, apply_write hargument hforms hnumeral,
      select_of_keyed _ hcall _ hentry, lookUp_of_missing hmissing, Except.map, call]
    rfl
  refine ⟨resort, last, hresort, hlast, hresult, fun hdistinct => ?_, ?_⟩
  · rw [lastResort_of_distinct hdistinct, hlast] at hresort
    exact (Option.some.inj hresort).symm
  · rw [hresult]
    constructor
    · exact fun h => Or.inr (Except.ok.inj h)
    · rintro (h | h)
      · rw [eq_last_of_fst_eq hresort hlast h]
      · rw [h]

/-- A call in which a category is named twice, with a count that is no integer. -/
def repeatedForms : List (Plural × Text) := [(.few, "a"), (.many, "b#"), (.few, "c")]

private theorem keyed_repeatedForms : Keyed ["few=a", " many =b#", "few=c"] repeatedForms :=
  mapM_keyedForm?_eq_some_iff.mp (by decide)

theorem missing_category_selects_lastResort_repeated :
    apply (.ok "pl-PL") "plural: 1.5 |few=a| many =b#|few=c" = .ok "b1.5" ∧
      apply (.ok "pl-PL") "plural: 1.5 |few=a| many =b#|few=c" ≠ .ok "c" := by
  have hargument : '|' ∉ " 1.5 ".toList := by decide
  have hmissing : ∀ entry ∈ repeatedForms,
      entry.1 ≠ countCategory "pl-PL" (Text.strip " 1.5 ") ∧ entry.1 ≠ .other := by decide +kernel
  obtain ⟨resort, last, hresort, hlast, hresult, -, hiff⟩ :=
    missing_category_selects_lastResort hargument (by decide) (by decide +kernel)
      keyed_repeatedForms hmissing
  have hfirst : lastResort repeatedForms = some (Plural.many, ("b#" : Text)) := by decide
  have hwritten : repeatedForms.getLast? = some (Plural.few, ("c" : Text)) := rfl
  obtain rfl := Option.some.inj (hfirst.symm.trans hresort)
  obtain rfl := Option.some.inj (hwritten.symm.trans hlast)
  exact ⟨hresult, fun h => absurd (hiff.mp h) (by decide)⟩

/-- So the form that is written last is not always what is selected where the category is missing. -/
theorem not_missing_category_selects_last :
    ¬ ∀ (tag argument first : Text) (more : List Text) (entries : List (Plural × Text))
        (last : Plural × Text),
      '|' ∉ argument → (∀ form ∈ first :: more, '|' ∉ form) → IsNumeral argument.strip →
        Keyed (first :: more) entries →
          (∀ entry ∈ entries, entry.1 ≠ countCategory tag argument.strip ∧ entry.1 ≠ .other) →
            entries.getLast? = some last →
              apply (.ok tag) (Call.write callName argument first more) =
                .ok (Text.replace countMark argument.strip last.2) := by
  intro h
  have hlast := h "en-US" "1" "few=a" ["many=b", "few=c"]
    [(.few, "a"), (.many, "b"), (.few, "c")] (.few, "c") (by decide) (by decide)
    (by decide +kernel) (mapM_keyedForm?_eq_some_iff.mp (by decide)) (by decide +kernel) rfl
  exact absurd hlast (by decide +kernel)

/-! ## The two notations -/

private theorem bar_not_mem_labelled {form : Text} (h : '|' ∉ form) (category : Plural) :
    '|' ∉ Plural.labelled category form := by
  have hname : '|' ∉ category.name := by cases category <;> decide
  simp [Plural.labelled, hname, h]

private theorem bar_not_mem_zipWith_labelled {forms : List Text} (h : ∀ form ∈ forms, '|' ∉ form)
    (categories : List Plural) :
    ∀ form ∈ List.zipWith Plural.labelled categories forms, '|' ∉ form := by
  rw [← List.map_uncurry_zip_eq_zipWith]
  rintro _ hmem
  obtain ⟨⟨category, form⟩, hpair, rfl⟩ := List.mem_map.mp hmem
  exact bar_not_mem_labelled (h form (List.of_mem_zip hpair).2) category

private theorem zip_orderOf {categories : List Plural} {forms : List Text}
    (hcategories : categories <+: Plural.orderOf tag) (hlength : categories.length = forms.length) :
    (Plural.orderOf tag).zip forms = categories.zip forms := by
  obtain ⟨rest, hrest⟩ := hcategories
  rw [← hrest, ← List.append_nil forms, List.zip_append hlength, List.zip_nil_right,
    List.append_nil, List.append_nil]

private theorem select_positional_eq_keyed {positional keyed : Call} {categories : List Plural}
    (hcategories : categories <+: Plural.orderOf tag)
    (hlength : categories.length = positional.forms.length)
    (hpositional : Positional positional.forms)
    (hkeyed : Keyed keyed.forms (categories.zip positional.forms)) (category : Plural) :
    ∃ form, select (.ok tag) positional category = .ok form ∧
      select (.ok tag) keyed category = .ok form := by
  have hzip := zip_orderOf hcategories hlength
  have hdistinct : ((categories.zip positional.forms).map Prod.fst).Nodup :=
    hzip ▸ nodup_zip (Plural.nodup_orderOf tag) positional.forms
  obtain ⟨form, hchosen, hform⟩ := select_of_positional category hpositional tag
  obtain ⟨form', hchosen', hform'⟩ := select_of_distinct category hkeyed hdistinct (.ok tag)
  have hfor : ((categories.zip positional.forms).lookup ·) =
      formAt (Plural.orderOf tag) positional.forms := by
    funext category
    rw [← hzip, lookup_zip]
  have hlast : (categories.zip positional.forms).getLast?.map Prod.snd =
      positional.forms.getLast? := by
    rw [← List.getLast?_map, List.map_snd_zip (Nat.le_of_eq hlength.symm)]
  rw [hfor, hlast, hchosen] at hchosen'
  exact ⟨form, hform, Option.some.inj hchosen' ▸ hform'⟩

/-- Forms that stand in the order of the categories, at most one for each of them, say the same as when
each of them is written with its category: for a number both calls give the same text, and for anything
else both are left as they are. -/
theorem notations_agree {label : Plural} {labels : List Plural}
    (hlabels : label :: labels <+: Plural.orderOf tag) (hlength : labels.length = more.length)
    (hargument : '|' ∉ argument) (hforms : ∀ form ∈ first :: more, '|' ∉ form)
    (hpositional : Positional (first :: more)) :
    let positional := Call.write callName argument first more
    let keyed := Call.write callName argument (Plural.labelled label first)
      (List.zipWith Plural.labelled labels more)
    (IsNumeral argument.strip →
      ∃ text, apply (.ok tag) positional = .ok text ∧ apply (.ok tag) keyed = .ok text) ∧
    (¬ IsNumeral argument.strip →
      apply (.ok tag) positional = .ok positional ∧ apply (.ok tag) keyed = .ok keyed) := by
  intro positional keyed
  have hlabelled : ∀ form ∈ Plural.labelled label first ::
      List.zipWith Plural.labelled labels more, '|' ∉ form :=
    bar_not_mem_zipWith_labelled hforms (label :: labels)
  refine ⟨fun hnumeral => ?_, fun hnumeral => ⟨?_, ?_⟩⟩
  · let left : Call := ⟨argument.strip, first, more⟩
    let right : Call := ⟨argument.strip, Plural.labelled label first,
      List.zipWith Plural.labelled labels more⟩
    have hsame : (label :: labels).length = left.forms.length := congrArg (· + 1) hlength
    have hkeyed : Keyed right.forms ((label :: labels).zip left.forms) :=
      keyed_labelled (label :: labels) (first :: more)
    obtain ⟨form, hleft, hright⟩ := select_positional_eq_keyed hlabels hsame hpositional hkeyed
      (countCategory tag argument.strip)
    refine ⟨Text.replace countMark argument.strip form, ?_, ?_⟩
    · simp only [positional, apply_write hargument hforms hnumeral]
      rw [hleft, Except.map]
    · simp only [keyed, apply_write hargument hlabelled hnumeral]
      rw [hright, Except.map]
  · exact apply_write_of_not_isNumeral hargument hforms hnumeral
  · exact apply_write_of_not_isNumeral hargument hlabelled hnumeral

theorem notations_agree_empty_and_equals :
    (∃ text, apply (.ok "pl-PL") "plural: 22 ||a=#" = .ok text ∧
      apply (.ok "pl-PL") "plural: 22 |one=|few=a=#" = .ok text) ∧
    apply (.ok "pl-PL") "plural: x ||a=#" = .ok "plural: x ||a=#" ∧
    apply (.ok "pl-PL") "plural: x |one=|few=a=#" = .ok "plural: x |one=|few=a=#" := by
  have hlabels : [Plural.one, .few] <+: Plural.orderOf "pl-PL" := by decide
  have hforms : ∀ form ∈ (["", "a=#"] : List Text), '|' ∉ form := by decide
  have hpositional : Positional ["", "a=#"] := keyed?_eq_none_iff.mp (by decide)
  have hcount := notations_agree hlabels rfl (by decide : '|' ∉ " 22 ".toList) hforms hpositional
  have hother := notations_agree hlabels rfl (by decide : '|' ∉ " x ".toList) hforms hpositional
  exact ⟨hcount.1 (by decide +kernel), hother.2 (by decide +kernel)⟩

end Phrasebook.Rule.Plural
