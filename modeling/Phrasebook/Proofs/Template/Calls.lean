import Phrasebook.Proofs.Display.Refresh
import Phrasebook.Proofs.Number.Decimal
import Phrasebook.Proofs.Rule.Precedence
import Phrasebook.Proofs.Rule.Selection
import Phrasebook.Proofs.Template.TokenClass

/-!
Templates that call a rule with an integer. The first stage writes the numeral of the integer into the
call, the second finds nothing to do, and the third reads from the call what was written: the integer,
and the forms to choose from. What is shown is the chosen form between the texts around the call.
-/

set_option autoImplicit false
set_option relaxedAutoImplicit false

namespace Phrasebook

/-! ## Templates with a call -/

namespace Template

/-- A template with a call in it: the identifier of the argument, the forms, and the texts before and
after the call. No mark makes a reference of the call. -/
structure CallTemplate where
  before : Text
  identifier : Text
  first : Text
  more : List Text
  after : Text
  before_free : BraceFree before
  unmarked : ¬ EndsInMark before
  identifier_free : BraceFree identifier
  forms_free : ∀ form ∈ first :: more, BraceFree form
  barless : ∀ form ∈ first :: more, '|' ∉ form
  after_free : BraceFree after

namespace CallTemplate

variable (t : CallTemplate)

def forms : List Text := t.first :: t.more

def around (middle : Text) : Text := t.before ++ middle ++ t.after

def call (name argument : Text) : Text := Rule.Call.write name argument t.first t.more

def token (name argument : Text) : Text := Kind.bare.write (t.call name argument)

/-- The template as it is written for a rule. -/
def written (name : Text) : Text := t.around (t.token name (Kind.bare.write t.identifier))

variable {t} {name argument : Text}

private theorem braceFree_call (hname : BraceFree name) (hargument : BraceFree argument) :
    BraceFree (t.call name argument) := by
  have hpieces : ∀ piece ∈ argument :: t.first :: t.more, BraceFree piece :=
    List.forall_mem_cons.mpr ⟨hargument, t.forms_free⟩
  exact ⟨Rule.Call.not_mem_write (by decide) (by decide) hname.1 fun piece h => (hpieces piece h).1,
    Rule.Call.not_mem_write (by decide) (by decide) hname.2 fun piece h => (hpieces piece h).2⟩

private theorem scan_around_token (hcall : BraceFree (t.call name argument)) :
    scan (t.around (t.token name argument)) =
      [(.bare, ⟨t.before.length, (t.before ++ t.token name argument).length,
        t.call name argument⟩)] := by
  have hbefore : scan t.before = [] := scanFrom_of_braceFree t.before_free 0 none none
  have hafter : scan t.after = [] := scanFrom_of_braceFree t.after_free 0 none none
  rw [around, token, scan_around hcall fun _ => t.unmarked, hbefore, hafter]
  rfl

private theorem rewrite_written {f : Text → Option Text} (hname : BraceFree name)
    (hargument : f t.identifier = some argument) :
    rewrite .bare f (t.written name) = t.around (t.token name argument) := by
  let head : Text := name ++ [':']
  let tail : Text := '|' :: Text.join '|' t.first t.more
  have hcall : ∀ inner, t.call name inner = head ++ inner ++ tail := by
    simp [call, Rule.Call.write, Text.join, head, tail]
  have hempty : BraceFree (head ++ [] ++ tail) := hcall [] ▸ braceFree_call hname braceFree_nil
  have hhead : BraceFree head := (braceFree_append.mp (braceFree_append.mp hempty).1).1
  have htail : BraceFree tail := (braceFree_append.mp hempty).2
  have hstands : Kind.bare.StandsAfter head := fun _ => by
    simp [EndsInMark, head, referenceMark]
  have hopens : OpensFirst (head ++ Kind.bare.write t.identifier ++
      (tail ++ closeBrace :: t.after)) := by
    rw [List.append_assoc]
    exact opensFirst_append hhead (Kind.bare.opensFirst_write _ _)
  have hclose : EndsInMark tail → (closeBrace :: t.after).head? ≠ some openBrace :=
    fun _ heq => absurd (Option.some.inj heq) (by decide)
  have hwritten : ∀ inner, t.around (t.token name inner) =
      t.before ++ (Kind.bare.opener ++ (head ++ inner ++ (tail ++ closeBrace :: t.after))) := by
    intro inner
    simp [around, token, Kind.write, hcall]
  rw [written, hwritten, hwritten,
    rewrite_text_append t.before_free fun hmark => absurd hmark t.unmarked,
    rewrite_opener_append .bare f .bare hopens, rewrite_around .bare f _ t.identifier_free hstands,
    rewrite_text_append htail hclose, rewrite_close_cons, rewrite_of_braceFree hhead,
    rewrite_of_braceFree t.after_free]
  simp [Kind.rewritten, hargument]

end CallTemplate

/-! ## Rendering -/

variable {ε σ : Type}

private theorem fillReferences_of_references_eq_nil {t : Text} (h : references t = [])
    (fetch : Text → Effect σ RowAnswer) (key : Text) (ids : Option LookupKeys) (s : σ) :
    fillReferences fetch key ids t s = ⟨t, s, []⟩ := by
  cases ids with
  | none => rw [fillReferences_of_none, if_pos h]
  | some ids => simp [fillReferences, h, contents, resolveReferences, splice, spliceFrom]

namespace CallTemplate

variable {t : CallTemplate} {name argument : Text}

private theorem resolve_around_token (hcall : BraceFree (t.call name argument)) (chain : Chain σ) (s : σ) :
    (chain.resolve (t.around (t.token name argument)) s).value =
      t.around (((chain.apply (t.call name argument) s).value).getD (t.token name argument)) := by
  have hcontents : contents (bareTokens (t.around (t.token name argument))) =
      [t.call name argument] := by
    simp [bareTokens, tokensOf, scan_around_token hcall, contents, List.eraseDups_cons]
  have hstands : Kind.bare.StandsAfter t.before := fun _ => t.unmarked
  rw [Chain.resolve_value, hcontents, around, token, rewrite_around .bare _ _ hcall hstands,
    rewrite_of_braceFree t.before_free, rewrite_of_braceFree t.after_free]
  simp [Chain.applyAll, Kind.rewritten, tabled, around]

private theorem render_value {source : Source σ} {request : Request} {s : σ}
    (htemplate : (source.template request.key s).value = .ok (t.written name))
    (hargument : argumentText request.args t.identifier = some argument)
    (hname : BraceFree name) (hfree : BraceFree argument) (chain : Chain σ) (policy : Text) :
    (render source chain policy request s).value =
      t.around (((chain.apply (t.call name argument)
        (source.template request.key s).state).value).getD (t.token name argument)) := by
  have hcall : BraceFree (t.call name argument) := braceFree_call hname hfree
  have hfetch : fetch source policy request.key s =
      ⟨t.written name, (source.template request.key s).state,
        (source.template request.key s).reports⟩ := by
    simp [fetch, htemplate]
  have hfilled : filled request (t.written name) = t.around (t.token name argument) := by
    rw [filled, fillPlaceholders_fst, rewrite_written hname hargument]
  have hreferences : references (t.around (t.token name argument)) = [] := by
    simp [references, tokensOf, scan_around_token hcall]
  rw [render_eq_resolve_prepared]
  simp only [prepared, hfetch, hfilled, fillReferences_of_references_eq_nil hreferences]
  exact resolve_around_token hcall chain _

end CallTemplate

end Template

/-! ## Calls with an integer -/

section

open Number (decimal digitLimit)

variable {first : Text} {more : List Text} {n : Int}

private theorem Number.bar_not_mem_decimal (n : Int) : '|' ∉ decimal n :=
  not_mem_decimal (by decide) (by decide) n

namespace Rule

/-- The form in the place that an integer names, counted from zero. -/
def Index.formAt? (forms : List Text) : Int → Option Text
  | .ofNat place => forms[place]?
  | .negSucc _ => none

private theorem Index.apply_write (hdigits : n.natAbs < Nat.pow 10 digitLimit)
    (hforms : ∀ form ∈ first :: more, '|' ∉ form) :
    apply (Call.write callName (decimal n) first more) =
      (formAt? (first :: more) n).getD (Call.write callName (decimal n) first more) := by
  have hparse : Call.parse? callName (Call.write callName (decimal n) first more) =
      some ⟨decimal n, first, more⟩ := by
    rw [Call.parse?_write (Number.bar_not_mem_decimal n) hforms, Number.strip_decimal]
  have hchoose : choose? ⟨decimal n, first, more⟩ = formAt? (first :: more) n := by
    simp only [choose?, Number.readInteger?_decimal hdigits]
    cases n <;> rfl
  simp only [apply, hparse, Option.bind_some, hchoose]

private theorem Plural.isNumeral_decimal (hdigits : n.natAbs < Nat.pow 10 digitLimit) :
    IsNumeral (decimal n) := by
  rw [IsNumeral, Number.readInteger?_decimal hdigits]
  exact Or.inl rfl

private theorem Plural.countCategory_decimal (hdigits : n.natAbs < Nat.pow 10 digitLimit) (tag : Text) :
    countCategory tag (decimal n) = Plural.categoryOf tag n := by
  rw [countCategory, Number.readInteger?_decimal hdigits]
  rfl

private theorem Plural.apply_write_decimal {tag form : Text} (hdigits : n.natAbs < Nat.pow 10 digitLimit)
    (hforms : ∀ form ∈ first :: more, '|' ∉ form)
    (hselect : select (.ok tag) ⟨decimal n, first, more⟩ (Plural.categoryOf tag n) = .ok form) :
    apply (.ok tag) (Call.write callName (decimal n) first more) =
      .ok (Text.replace countMark (decimal n) form) := by
  have hnumeral : IsNumeral (decimal n).strip :=
    (Number.strip_decimal n).symm ▸ isNumeral_decimal hdigits
  rw [apply_write (Number.bar_not_mem_decimal n) hforms hnumeral, Number.strip_decimal,
    countCategory_decimal hdigits, hselect, Except.map]

end Rule

namespace Chain

variable {σ : Type}

private theorem apply_builtIn (tag : σ → Except Text Text) (content : Text) (s : σ) :
    ((builtIn tag).apply content s).value =
      (Rule.changeOf content (.text (Rule.Index.apply content))).or
        (Rule.changeOf content (.ofTagged (Rule.Plural.apply (tag s) content))) := by
  let index : Rule σ := Rule.Index.rule
  let plural : Rule σ := Rule.Plural.rule tag
  change (apply content [index, plural] s).value =
    (index.trial content s).change.or (plural.trial content s).change
  have hlast : (apply content [plural] s).value = (plural.trial content s).change := by
    cases hplural : (plural.trial content s).change with
    | some output => rw [apply_cons_of_change hplural]
    | none => rw [apply_cons_of_none hplural]; rfl
  cases hindex : (index.trial content s).change with
  | some output => rw [apply_cons_of_change hindex, Option.some_or]
  | none => rw [apply_cons_of_none hindex, Option.none_or]; exact hlast

private theorem apply_builtIn_index (tag : σ → Except Text Text) (hdigits : n.natAbs < Nat.pow 10 digitLimit)
    (hforms : ∀ form ∈ first :: more, '|' ∉ form) (s : σ) :
    ((builtIn tag).apply (Rule.Call.write Rule.Index.callName (decimal n) first more) s).value =
      Rule.Index.formAt? (first :: more) n := by
  have hparse : Rule.Call.parse? Rule.Plural.callName
      (Rule.Call.write Rule.Index.callName (decimal n) first more) = none :=
    Rule.Call.parse?_write_of_ne (by decide) (by decide) (by decide) _ _ _
  have hplural : Rule.Plural.apply (tag s)
      (Rule.Call.write Rule.Index.callName (decimal n) first more) =
        .ok (Rule.Call.write Rule.Index.callName (decimal n) first more) := by
    simp only [Rule.Plural.apply, hparse]
  rw [apply_builtIn, Rule.Index.apply_write hdigits hforms, hplural]
  cases hform : Rule.Index.formAt? (first :: more) n with
  | none => simp [Rule.changeOf, RuleResult.ofTagged]
  | some form =>
    have hbar : '|' ∉ form := by
      cases n with
      | ofNat place => exact hforms form (List.mem_of_getElem? hform)
      | negSucc place => cases hform
    have hne := Rule.Call.ne_write hbar Rule.Index.callName (decimal n) first more
    simp [Rule.changeOf, hne]

private theorem apply_builtIn_plural {tag : σ → Except Text Text} {argument text : Text} {s : σ}
    (h : Rule.Plural.apply (tag s)
      (Rule.Call.write Rule.Plural.callName argument first more) = .ok text)
    (hbar : '|' ∉ text) :
    ((builtIn tag).apply (Rule.Call.write Rule.Plural.callName argument first more) s).value =
      some text := by
  have hparse : Rule.Call.parse? Rule.Index.callName
      (Rule.Call.write Rule.Plural.callName argument first more) = none :=
    Rule.Call.parse?_write_of_ne (by decide) (by decide) (by decide) _ _ _
  have hne := Rule.Call.ne_write hbar Rule.Plural.callName argument first more
  rw [apply_builtIn, h]
  simp [Rule.Index.apply, hparse, Rule.changeOf, RuleResult.ofTagged, hne]

end Chain

end

/-! ## What is shown -/

namespace Template.CallTemplate

open Number (decimal digitLimit)
open Rule.Plural (Keyed Positional chosen formAt countMark)

variable {ε σ : Type} {outlet : Display.Outlet ε σ} {display : Display} {request : Request} {s : σ}
  {tag : σ → Except Text Text} {n : Int}

private theorem shows_of_apply_builtIn (t : CallTemplate) {name : Text} {output : Option Text}
    (hchain : outlet.chain = Chain.builtIn tag) (hrequest : display.request = some request)
    (htemplate : (outlet.source.template request.key s).value = .ok (t.written name))
    (hargument : request.args.bind (·.get? t.identifier) = some (.int n))
    (hdigits : n.natAbs < Nat.pow 10 digitLimit) (hname : BraceFree name)
    (happly : ((Chain.builtIn tag).apply (t.call name (decimal n))
      (outlet.source.template request.key s).state).value = output) :
    Display.Shows outlet display s (t.around (output.getD (t.token name (decimal n)))) := by
  have htext : argumentText request.args t.identifier = some (decimal n) := by
    obtain ⟨args, hargs, hvalue⟩ := Option.bind_eq_some_iff.mp hargument
    simp [argumentText, hargs, hvalue, Value.toText_int hdigits, Except.toOption]
  have hfree : BraceFree (decimal n) :=
    ⟨Number.not_mem_decimal (by decide) (by decide) n,
      Number.not_mem_decimal (by decide) (by decide) n⟩
  have hvalue := render_value htemplate htext hname hfree outlet.chain outlet.policy
  rw [hchain, happly] at hvalue
  exact (Display.shows_iff outlet display s _).mpr ⟨request, hrequest, hchain ▸ hvalue⟩

/-- A call by position shows the form in the place that the integer names, counted from zero. For an
integer that names no place, however large or negative, the call itself is shown with the integer in
it. -/
theorem index_call_shown (t : CallTemplate) (hchain : outlet.chain = Chain.builtIn tag)
    (hrequest : display.request = some request)
    (htemplate : (outlet.source.template request.key s).value =
      .ok (t.written Rule.Index.callName))
    (hargument : request.args.bind (·.get? t.identifier) = some (.int n))
    (hdigits : n.natAbs < Nat.pow 10 digitLimit) :
    (∀ (place : Nat) (h : place < t.forms.length), n = place →
      Display.Shows outlet display s (t.around t.forms[place])) ∧
    (n < 0 ∨ t.forms.length ≤ n →
      Display.Shows outlet display s (t.around (t.token Rule.Index.callName (decimal n)))) := by
  have hshows := t.shows_of_apply_builtIn hchain hrequest htemplate hargument hdigits (by decide)
    (Chain.apply_builtIn_index tag hdigits t.barless _)
  -- the bounds of a place are found without the power that bounds the integer
  clear hdigits
  constructor
  · rintro place hplace rfl
    have hform : Rule.Index.formAt? (t.first :: t.more) (Int.ofNat place) = some t.forms[place] :=
      List.getElem?_eq_getElem hplace
    rw [Int.ofNat_eq_natCast] at hform
    rw [hform] at hshows
    exact hshows
  · intro hbeyond
    have hform : Rule.Index.formAt? (t.first :: t.more) n = none := by
      cases n with
      | ofNat place =>
        have hle : t.forms.length ≤ place := by
          rw [Int.ofNat_eq_natCast] at hbeyond
          omega
        exact List.getElem?_eq_none hle
      | negSucc place => rfl
    rw [hform] at hshows
    exact hshows

/-- An outlet with one template, which calls a rule, and with the built-in rules for the locale that
is its state. -/
def callOutlet (t : CallTemplate) (name : Text) : Display.Outlet Text Locale where
  source := ⟨fun _ => pure (.ok (t.written name)), fun _ => pure (.ok none)⟩
  chain := Chain.builtIn fun locale => .ok locale.tag
  policy := keyPolicy
  sink := fun _ => pure ()
  escape := id

private theorem callOutlet_chain (t : CallTemplate) (name : Text) :
    (callOutlet t name).chain = Chain.builtIn fun locale => .ok locale.tag := rfl

private theorem callOutlet_template (t : CallTemplate) (name : Text) (request : Request) (locale : Locale) :
    ((callOutlet t name).source.template request.key locale).value = .ok (t.written name) := rfl

def countRequest (n : Int) : Request where
  key := "k"
  args := some (.ofList [("n", .int n)])

/-- Forms of which the first is empty and another one looks as if it named its category. -/
def ranks : CallTemplate where
  before := "Rank:"
  identifier := "n"
  first := []
  more := ["#2", "other=3"]
  after := "!"
  before_free := by decide
  unmarked := by decide
  identifier_free := by decide
  forms_free := by decide
  barless := by decide
  after_free := by decide

theorem index_call_shown_ranks :
    ranks.written Rule.Index.callName = "Rank:\x7bindex:\x7bn\x7d||#2|other=3\x7d!".toList ∧
      Display.Shows (callOutlet ranks Rule.Index.callName) ⟨some (countRequest 1), none⟩ .jaJP
        "Rank:#2!" ∧
      Display.Shows (callOutlet ranks Rule.Index.callName) ⟨some (countRequest (-1)), none⟩ .jaJP
        "Rank:\x7bindex:-1||#2|other=3\x7d!" := by
  have hrequest : ∀ n, (⟨some (countRequest n), none⟩ : Display).request = some (countRequest n) :=
    fun _ => rfl
  have hplace := (ranks.index_call_shown (callOutlet_chain _ _) (hrequest 1)
    (callOutlet_template _ _ _ .jaJP) rfl (by decide +kernel)).1 1 (by decide) rfl
  have hnone := (ranks.index_call_shown (callOutlet_chain _ _) (hrequest (-1))
    (callOutlet_template _ _ _ .jaJP) rfl (by decide +kernel)).2 (by decide)
  exact ⟨by decide, hplace, hnone⟩

/-- A call by count shows the form for the plural category of the integer in the language of the
locale, with the integer in the place of every count mark. The form is found by the name of the
category, or in the place of the category in the order of the language; if there is none, it is the
one for `other`, and if there is none either, the last one. With a form in the place of every category
none is missing. -/
theorem plural_call_shown (t : CallTemplate) (locale : Locale)
    (hchain : outlet.chain = Chain.builtIn tag) (hrequest : display.request = some request)
    (htemplate : (outlet.source.template request.key s).value =
      .ok (t.written Rule.Plural.callName))
    (htag : tag (outlet.source.template request.key s).state = .ok locale.tag)
    (hargument : request.args.bind (·.get? t.identifier) = some (.int n))
    (hdigits : n.natAbs < Nat.pow 10 digitLimit) :
    let family := Plural.Family.ofLanguage locale.language
    let category := family.category n.natAbs
    let counted := Text.replace countMark (decimal n)
    (∀ entries, Keyed t.forms entries → (entries.map Prod.fst).Nodup →
      ∃ form, chosen (entries.lookup ·) category (entries.getLast?.map Prod.snd) = some form ∧
        Display.Shows outlet display s (t.around (counted form))) ∧
    (Positional t.forms →
      ∃ form, chosen (formAt family.order t.forms) category t.forms.getLast? = some form ∧
        Display.Shows outlet display s (t.around (counted form)) ∧
        (family.order.length ≤ t.forms.length →
          formAt family.order t.forms category = some form)) := by
  intro family category counted
  let call : Rule.Call := ⟨decimal n, t.first, t.more⟩
  have hfamily : Plural.Family.ofLanguage (Plural.languageOf locale.tag) = family := by
    rw [Plural.languageOf_tag]
  have hcategory : Plural.categoryOf locale.tag n = category := by
    rw [Plural.categoryOf, hfamily]
  have hshows : ∀ form, Rule.Plural.select (.ok locale.tag) call category = .ok form → '|' ∉ form →
      Display.Shows outlet display s (t.around (counted form)) := by
    intro form hselect hbar
    refine t.shows_of_apply_builtIn hchain hrequest htemplate hargument hdigits (by decide)
      (Chain.apply_builtIn_plural ?_ ?_)
    · rw [htag]
      exact Rule.Plural.apply_write_decimal hdigits t.barless (hcategory.symm ▸ hselect)
    · exact Text.not_mem_replace (Number.bar_not_mem_decimal n) hbar
  constructor
  · intro entries hkeyed hdistinct
    have hcall : Keyed call.forms entries := hkeyed
    obtain ⟨form, hchosen, hselect⟩ :=
      Rule.Plural.select_of_distinct category hcall hdistinct (.ok locale.tag)
    exact ⟨form, hchosen, hshows form hselect (hkeyed.not_mem_of_chosen t.barless hchosen)⟩
  · intro hpositional
    have hcall : Positional call.forms := hpositional
    obtain ⟨form, hchosen, hselect⟩ :=
      Rule.Plural.select_of_positional category hcall locale.tag
    rw [Plural.orderOf, hfamily] at hchosen
    refine ⟨form, hchosen,
      hshows form hselect (Rule.Plural.not_mem_of_chosen_formAt t.barless hchosen), fun hlength => ?_⟩
    obtain ⟨own, hown⟩ :=
      Rule.Plural.exists_formAt (Plural.Family.category_mem_order family n.natAbs) hlength
    have hsame := Rule.Plural.chosen_of_some hown t.forms.getLast?
    exact hown.trans (hsame.symm.trans hchosen)

/-- A template with given forms, and with marks where they make no reference. -/
def lamps (first : Text) (more : List Text) (hfree : ∀ form ∈ first :: more, BraceFree form)
    (hbarless : ∀ form ∈ first :: more, '|' ∉ form) : CallTemplate where
  before := "@ Mamy "
  identifier := "n"
  first := first
  more := more
  after := "@"
  before_free := by decide
  unmarked := by decide
  identifier_free := by decide
  forms_free := hfree
  barless := hbarless
  after_free := by decide

def placedLamps : CallTemplate :=
  lamps "# lampa" ["# lampy", "# lamp", "# lampy=#"] (by decide) (by decide)

def namedLamps : CallTemplate := lamps "other=# lampy" [" many =# lamp"] (by decide) (by decide)

theorem plural_call_shown_lamps :
    placedLamps.written Rule.Plural.callName =
        "@ Mamy \x7bplural:\x7bn\x7d|# lampa|# lampy|# lamp|# lampy=#\x7d@".toList ∧
      Display.Shows (callOutlet placedLamps Rule.Plural.callName)
        ⟨some (countRequest (-22)), none⟩ .plPL "@ Mamy -22 lampy@" ∧
      Display.Shows (callOutlet namedLamps Rule.Plural.callName)
        ⟨some (countRequest 22), none⟩ .plPL "@ Mamy 22 lampy@" := by
  have hrequest : ∀ n, (⟨some (countRequest n), none⟩ : Display).request = some (countRequest n) :=
    fun _ => rfl
  have hpositional : Positional placedLamps.forms := Rule.Plural.keyed?_eq_none_iff.mp (by decide)
  have hkeyed : Keyed namedLamps.forms [(.other, "# lampy"), (.many, "# lamp")] :=
    Rule.Plural.mapM_keyedForm?_eq_some_iff.mp (by decide)
  obtain ⟨placed, hplaced, hdecrease, -⟩ :=
    (placedLamps.plural_call_shown .plPL (callOutlet_chain _ _) (hrequest (-22))
      (callOutlet_template _ _ _ _) rfl rfl (by decide +kernel)).2 hpositional
  obtain ⟨named, hnamed, hcount⟩ :=
    (namedLamps.plural_call_shown .plPL (callOutlet_chain _ _) (hrequest 22)
      (callOutlet_template _ _ _ _) rfl rfl (by decide +kernel)).1 _ hkeyed (by decide)
  obtain rfl := Option.some.inj hplaced
  obtain rfl := Option.some.inj hnamed
  exact ⟨by decide, hdecrease, hcount⟩

end Template.CallTemplate

end Phrasebook
