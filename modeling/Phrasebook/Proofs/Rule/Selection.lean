import Mathlib.Data.List.Forall2
import Phrasebook.Locale
import Phrasebook.Proofs.Dict.Order
import Phrasebook.Proofs.Rule.Writing
import Phrasebook.Rule.Plural

/-!
Which form a plural call selects. Forms either stand in the order of the categories of the language or
name their categories; in both notations the form for the category of the count is selected, else the
one for `other`, else the last one.
-/

set_option autoImplicit false
set_option relaxedAutoImplicit false

namespace Phrasebook

namespace Plural

private theorem ofName?_eq_some_iff {t : Text} {category : Plural} :
    ofName? t = some category ↔ t = category.name := by
  constructor
  · intro h
    have hfound : all.find? (fun p => p.name = t) = some category := h
    have hname := List.find?_some hfound
    exact (of_decide_eq_true hname).symm
  · rintro rfl
    cases category <;> decide

private theorem equals_not_mem_name (category : Plural) : '=' ∉ category.name := by
  cases category <;> decide

private theorem strip_name (category : Plural) : category.name.strip = category.name := by
  cases category <;> decide

def labelled (category : Plural) (form : Text) : Text := category.name ++ '=' :: form

namespace Family

private theorem nodup_order (family : Family) : family.order.Nodup := by
  cases family <;> decide

theorem category_mem_order (family : Family) (n : Nat) : family.category n ∈ family.order := by
  cases family with
  | uninflected => exact List.mem_singleton_self _
  | _ =>
    simp only [category, order]
    split_ifs <;> decide

end Family

def orderOf (tag : Text) : List Plural := (Family.ofLanguage (languageOf tag)).order

theorem nodup_orderOf (tag : Text) : (orderOf tag).Nodup := Family.nodup_order _

theorem languageOf_tag (locale : Locale) : languageOf locale.tag = locale.language := by
  cases locale <;> decide

end Plural

namespace Rule.Plural

/-! ## Counts -/

/-- A text that is read as a number. -/
def IsNumeral (argument : Text) : Prop :=
  (Number.readInteger? argument).isSome = true ∨ (Number.readReal? argument).isSome = true

instance (argument : Text) : Decidable (IsNumeral argument) := inferInstanceAs (Decidable (_ ∨ _))

/-- The category of the number that a text stands for: that of an integer in the language of a locale
tag, and `other` for any other number. -/
def countCategory (tag argument : Text) : Plural :=
  (Number.readInteger? argument).elim .other (Plural.categoryOf tag)

theorem category?_of_isNumeral {argument : Text} (h : IsNumeral argument) (tag : Text) :
    category? (.ok tag) argument = some (countCategory tag argument) := by
  unfold category? countCategory
  cases hinteger : Number.readInteger? argument with
  | some count => rfl
  | none =>
    have hreal : (Number.readReal? argument).isSome = true := by
      simpa [IsNumeral, hinteger] using h
    simp [hreal]

theorem category?_of_not_isNumeral {argument : Text} (h : ¬ IsNumeral argument) (tag : Text) :
    category? (.ok tag) argument = none := by
  rw [IsNumeral, not_or] at h
  unfold category?
  rw [Option.not_isSome_iff_eq_none.mp h.1]
  simp [h.2]

/-! ## Notations -/

/-- A form names a category: there is its name, perhaps with white space around it, then an equals sign
and the text for the category. -/
def Names (form : Text) (entry : Plural × Text) : Prop :=
  ∃ name, form = name ++ '=' :: entry.2 ∧ name.strip = entry.1.name

def Keyed (forms : List Text) (entries : List (Plural × Text)) : Prop :=
  List.Forall₂ Names forms entries

def Positional (forms : List Text) : Prop := ∀ entries, ¬ Keyed forms entries

private theorem keyedForm?_eq_some_iff {form : Text} {entry : Plural × Text} :
    keyedForm? form = some entry ↔ Names form entry := by
  obtain ⟨category, text⟩ := entry
  constructor
  · intro h
    unfold keyedForm? at h
    split at h
    · next name written hbreak =>
      obtain ⟨found, hfound, heq⟩ := Option.map_eq_some_iff.mp h
      obtain ⟨rfl, rfl⟩ := Prod.mk.inj heq
      obtain ⟨-, hform⟩ := Text.breakAt_eq_some_iff.mp hbreak
      exact ⟨name, hform, Plural.ofName?_eq_some_iff.mp hfound⟩
    · cases h
  · rintro ⟨name, hform, hname⟩
    have hequals : '=' ∉ name := by
      intro hmem
      apply Plural.equals_not_mem_name category
      rw [← hname]
      exact Text.mem_strip hmem (by decide)
    have hbreak : form.breakAt '=' = (name, some text) :=
      Text.breakAt_eq_some_iff.mpr ⟨hequals, hform⟩
    simp only [keyedForm?, hbreak, Plural.ofName?_eq_some_iff.mpr hname, Option.map_some]

theorem mapM_keyedForm?_eq_some_iff {forms : List Text} {entries : List (Plural × Text)} :
    forms.mapM keyedForm? = some entries ↔ Keyed forms entries := by
  induction forms generalizing entries with
  | nil =>
    rw [List.mapM_nil, Keyed, List.forall₂_nil_left_iff]
    exact ⟨fun h => (Option.some.inj h).symm, fun h => h ▸ rfl⟩
  | cons form forms ih =>
    rw [List.mapM_cons, Keyed, List.forall₂_cons_left_iff]
    simp only [Option.bind_eq_bind, Option.bind_eq_some_iff, Option.pure_def, Option.some_inj]
    constructor
    · rintro ⟨entry, hentry, others, hothers, rfl⟩
      exact ⟨entry, others, keyedForm?_eq_some_iff.mp hentry, ih.mp hothers, rfl⟩
    · rintro ⟨entry, others, hentry, hothers, rfl⟩
      exact ⟨entry, keyedForm?_eq_some_iff.mpr hentry, others, ih.mpr hothers, rfl⟩

theorem keyed?_of_keyed {forms : List Text} {entries : List (Plural × Text)}
    (h : Keyed forms entries) : keyed? forms = some (Dict.ofList entries) := by
  rw [keyed?, mapM_keyedForm?_eq_some_iff.mpr h, Option.map_some]

theorem keyed?_eq_none_iff {forms : List Text} : keyed? forms = none ↔ Positional forms := by
  rw [keyed?, Option.map_eq_none_iff, Option.eq_none_iff_forall_ne_some]
  exact forall_congr' fun _ => not_congr mapM_keyedForm?_eq_some_iff

private theorem names_labelled (category : Plural) (form : Text) :
    Names (Plural.labelled category form) (category, form) :=
  ⟨category.name, rfl, Plural.strip_name category⟩

theorem keyed_labelled (categories : List Plural) (forms : List Text) :
    Keyed (List.zipWith Plural.labelled categories forms) (categories.zip forms) := by
  induction categories generalizing forms with
  | nil => exact .nil
  | cons category categories ih =>
    cases forms with
    | nil => exact .nil
    | cons form forms => exact .cons (names_labelled category form) (ih forms)

/-! ## Selected forms -/

/-- The form in the place that a category has in the order of a language. -/
def formAt (order : List Plural) (forms : List Text) (category : Plural) : Option Text :=
  (order.idxOf? category).bind fun place => forms[place]?

/-- The form for a category, else the one for `other`, else the last form. -/
def chosen (formFor : Plural → Option Text) (category : Plural) (last : Option Text) :
    Option Text :=
  ((formFor category).or (formFor .other)).or last

theorem some_lookUp (forms : Dict Plural Text) (category : Plural) (lastResort : Text) :
    some (lookUp forms category lastResort) = chosen forms.get? category (some lastResort) := by
  unfold lookUp chosen
  cases forms.get? category with
  | some form => rfl
  | none => cases forms.get? .other <;> rfl

theorem lookup_zip (order : List Plural) (forms : List Text) (category : Plural) :
    (order.zip forms).lookup category = formAt order forms category := by
  induction order generalizing forms with
  | nil => rfl
  | cons first order ih =>
    rw [formAt, List.idxOf?_cons]
    cases forms with
    | nil => split_ifs <;> simp
    | cons form forms =>
      rw [List.zip_cons_cons, List.lookup_cons]
      by_cases hfirst : category = first
      · simp [hfirst]
      · rw [beq_false_of_ne hfirst, beq_false_of_ne (Ne.symm hfirst), ih, formAt]
        cases order.idxOf? category <;> simp

theorem exists_formAt {order : List Plural} {forms : List Text} {category : Plural}
    (hcategory : category ∈ order) (hlength : order.length ≤ forms.length) :
    ∃ form, formAt order forms category = some form := by
  obtain ⟨place, hplace⟩ := Option.isSome_iff_exists.mp (List.isSome_idxOf?.mpr hcategory)
  obtain ⟨hlt, -⟩ := List.idxOf?_eq_some_iff.mp hplace
  refine ⟨forms[place], ?_⟩
  rw [formAt, hplace, Option.bind_some]
  exact List.getElem?_eq_getElem (Nat.lt_of_lt_of_le hlt hlength)

theorem chosen_of_some {formFor : Plural → Option Text} {category : Plural} {form : Text}
    (h : formFor category = some form) (last : Option Text) :
    chosen formFor category last = some form := by
  rw [chosen, h, Option.some_or, Option.some_or]

theorem forall_of_chosen {p : Text → Prop} {formFor : Plural → Option Text} {category : Plural}
    {last : Option Text} {form : Text} (hfor : ∀ named form, formFor named = some form → p form)
    (hlast : ∀ form, last = some form → p form) (h : chosen formFor category last = some form) :
    p form := by
  rcases Option.or_eq_some_iff.mp h with h | ⟨-, h⟩
  · rcases Option.or_eq_some_iff.mp h with h | ⟨-, h⟩
    · exact hfor _ _ h
    · exact hfor _ _ h
  · exact hlast _ h

section

variable {forms : List Text} {c : Char} {category : Plural} {form : Text}

theorem Keyed.not_mem {entries : List (Plural × Text)} (h : Keyed forms entries)
    (hc : ∀ form ∈ forms, c ∉ form) : ∀ entry ∈ entries, c ∉ entry.2 := by
  induction h with
  | nil => simp
  | cons hnames _ ih =>
    rw [List.forall_mem_cons] at hc ⊢
    refine ⟨fun hmem => ?_, ih hc.2⟩
    obtain ⟨name, rfl, -⟩ := hnames
    exact hc.1 (List.mem_append_right _ (List.mem_cons_of_mem _ hmem))

theorem Keyed.not_mem_of_chosen {entries : List (Plural × Text)} (h : Keyed forms entries)
    (hc : ∀ form ∈ forms, c ∉ form)
    (hchosen : chosen (entries.lookup ·) category (entries.getLast?.map Prod.snd) = some form) :
    c ∉ form := by
  have hentries := h.not_mem hc
  refine forall_of_chosen (p := fun form => c ∉ form) (fun named form hform => ?_)
    (fun form hform => ?_) hchosen
  · obtain ⟨before, after, rfl, -⟩ := List.lookup_eq_some_iff.mp hform
    exact hentries (named, form) (List.mem_append_right _ List.mem_cons_self)
  · obtain ⟨last, hlast, rfl⟩ := Option.map_eq_some_iff.mp hform
    exact hentries last (List.mem_of_getLast? hlast)

theorem not_mem_of_chosen_formAt {order : List Plural} (hc : ∀ form ∈ forms, c ∉ form)
    (hchosen : chosen (formAt order forms) category forms.getLast? = some form) : c ∉ form := by
  refine forall_of_chosen (p := fun form => c ∉ form) (fun named form hform => ?_)
    (fun form hform => ?_) hchosen
  · obtain ⟨place, -, hplace⟩ := Option.bind_eq_some_iff.mp hform
    exact hc form (List.mem_of_getElem? hplace)
  · exact hc form (List.mem_of_getLast? hform)

end

private theorem map_fst_zip (order : List Plural) (forms : List Text) :
    (order.zip forms).map Prod.fst = order.take forms.length := by
  induction order generalizing forms with
  | nil => simp
  | cons category order ih =>
    cases forms with
    | nil => rfl
    | cons form forms => rw [List.zip_cons_cons, List.map_cons, ih]; rfl

theorem nodup_zip {order : List Plural} (h : order.Nodup) (forms : List Text) :
    ((order.zip forms).map Prod.fst).Nodup := by
  rw [map_fst_zip]
  exact h.sublist (List.take_sublist _ _)

section

variable {call : Call} {entries : List (Plural × Text)} (category : Plural)

/-- Forms that name their categories are looked up in the map that is made of them, with the value of
the last entry of the map as the last resort. -/
theorem select_of_keyed (h : Keyed call.forms entries) (tag : Except Text Text)
    {last : Plural × Text} (hlast : (Dict.ofList entries).entries.getLast? = some last) :
    select tag call category = .ok (lookUp (Dict.ofList entries) category last.2) := by
  have hresort : ((Dict.ofList entries).entries.map Prod.snd).getLastD [] = last.2 := by
    rw [List.getLastD_eq_getLast?, List.getLast?_map, hlast]
    rfl
  simp only [select, keyed?_of_keyed h, hresort]

theorem Keyed.ne_nil (h : Keyed call.forms entries) : entries ≠ [] := by
  rintro rfl
  cases h

theorem select_of_distinct (h : Keyed call.forms entries)
    (hdistinct : (entries.map Prod.fst).Nodup) (tag : Except Text Text) :
    ∃ form, chosen (entries.lookup ·) category (entries.getLast?.map Prod.snd) = some form ∧
      select tag call category = .ok form := by
  have hentries := Dict.entries_ofList_of_nodup hdistinct
  have hget : (Dict.ofList entries).get? = (entries.lookup ·) := by
    funext key
    rw [Dict.get?, hentries]
  obtain ⟨last, hlast⟩ := Option.ne_none_iff_exists'.mp (mt List.getLast?_eq_none_iff.mp h.ne_nil)
  refine ⟨_, ?_, select_of_keyed category h tag (hentries.symm ▸ hlast)⟩
  rw [some_lookUp, hget, hlast]
  rfl

/-- Forms that do not all name a category belong to the categories in the order of the language. -/
theorem select_of_positional (h : Positional call.forms) (tag : Text) :
    ∃ form,
      chosen (formAt (Plural.orderOf tag) call.forms) category call.forms.getLast? = some form ∧
        select (.ok tag) call category = .ok form := by
  have hselect : select (.ok tag) call category = .ok (selectByPosition tag call category) := by
    simp only [select, keyed?_eq_none_iff.mpr h, Except.map]
  have hdistinct := nodup_zip (Plural.nodup_orderOf tag) call.forms
  have hget : (Dict.ofList ((Plural.orderOf tag).zip call.forms)).get? =
      formAt (Plural.orderOf tag) call.forms := by
    funext key
    rw [Dict.get?, Dict.entries_ofList_of_nodup hdistinct, lookup_zip]
  refine ⟨_, ?_, hselect⟩
  rw [selectByPosition, some_lookUp, ← Plural.orderOf, hget, call.getLast?_forms]

end

/-! ## Written calls -/

section

variable {tag argument first : Text} {more : List Text}

theorem apply_write (hargument : '|' ∉ argument) (hforms : ∀ form ∈ first :: more, '|' ∉ form)
    (hnumeral : IsNumeral argument.strip) :
    apply (.ok tag) (Call.write callName argument first more) =
      (select (.ok tag) ⟨argument.strip, first, more⟩ (countCategory tag argument.strip)).map
        (Text.replace countMark argument.strip) := by
  simp only [apply, Call.parse?_write hargument hforms, category?_of_isNumeral hnumeral]

theorem apply_write_of_not_isNumeral (hargument : '|' ∉ argument)
    (hforms : ∀ form ∈ first :: more, '|' ∉ form) (hnumeral : ¬ IsNumeral argument.strip) :
    apply (.ok tag) (Call.write callName argument first more) =
      .ok (Call.write callName argument first more) := by
  simp only [apply, Call.parse?_write hargument hforms, category?_of_not_isNumeral hnumeral]

end

end Rule.Plural

end Phrasebook
