import Phrasebook.Proofs.Rule.Precedence
import Phrasebook.Proofs.Rule.Procedure
import Phrasebook.Proofs.Rule.Selection

/-!
The built-in rules step by step, as procedures that could stop wherever they read a number or take an
item from a list. They never do. Every call has a form, so there is always a last one to fall back on,
whether or not it is needed; and a form is taken by its place only if there is such a place. So a chain
of built-in rules has nothing to report.
-/

set_option autoImplicit false
set_option relaxedAutoImplicit false

namespace Phrasebook

variable {σ : Type}

namespace Rule

open Procedure

/-! ## Calls -/

namespace Call

/-- Reading a call: what follows the name is cut at the bars, and the first piece is parted from the
others. -/
def parseStepwise (name content : Text) : Procedure σ (Option (Text × List Text)) :=
  match Text.dropStart? (name ++ [':']) content with
  | none => return none
  | some written => do
    let (argument, forms) ← takeApart (written.split '|')
    if forms = [] then return none else return some (argument.strip, forms)

private theorem parseStepwise_eq (name content : Text) :
    (parseStepwise name content : Procedure σ _) =
      pure ((parse? name content).map fun call => (call.argument, call.forms)) := by
  unfold parseStepwise parse?
  cases Text.dropStart? (name ++ [':']) content with
  | none => rfl
  | some written =>
    obtain ⟨argument, forms, hpieces⟩ :
        ∃ argument forms, written.pieces '|' = (argument, forms) := ⟨_, _, rfl⟩
    simp only [Text.split, hpieces, takeApart_cons, pure_bind]
    cases forms with
    | nil => rfl
    | cons first more => rfl

end Call

/-! ## By position -/

namespace Index

def applyStepwise (content : Text) : Procedure σ Text := do
  match ← Call.parseStepwise callName content with
  | none => return content
  | some (argument, forms) =>
    match ← ifFit (fit (Number.readInteger? argument)) with
    | none => return content
    | some place => if 0 ≤ place ∧ place < forms.length then item forms place else return content

private theorem choose?_of_integer {call : Call} {place : Int}
    (h : Number.readInteger? call.argument = some place) :
    choose? call =
      if 0 ≤ place ∧ place < call.forms.length then item? call.forms place else none := by
  unfold choose?
  rw [h]
  cases place with
  | negSucc n =>
    have hbelow : ¬ (0 ≤ Int.negSucc n ∧ Int.negSucc n < call.forms.length) := by omega
    rw [if_neg hbelow]
  | ofNat n =>
    split_ifs with hplace
    · rfl
    · have hbeyond : call.forms.length ≤ n := by
        rw [Int.ofNat_eq_natCast] at hplace
        omega
      exact List.getElem?_eq_none hbeyond

private theorem returns_applyStepwise (inv : σ → Prop) (content : Text) :
    Returns inv (applyStepwise content) fun output accesses =>
      output = apply content ∧ ∀ access ∈ accesses, 0 ≤ access.index := by
  unfold applyStepwise apply
  rw [Call.parseStepwise_eq, pure_bind]
  cases Call.parse? callName content with
  | none => exact Returns.pure ⟨rfl, nofun⟩
  | some call =>
    simp only [Option.map_some, Option.bind_some, ifFit_fit, pure_bind]
    cases hinteger : Number.readInteger? call.argument with
    | none =>
      have hchoose : choose? call = none := by rw [choose?, hinteger]
      rw [hchoose]
      exact Returns.pure ⟨rfl, nofun⟩
    | some place =>
      rw [choose?_of_integer hinteger]
      by_cases hplace : 0 ≤ place ∧ place < call.forms.length
      · have hrange : (⟨call.forms.length, place⟩ : Access).InRange := by
          unfold Access.InRange
          dsimp only
          omega
        obtain ⟨form, hform⟩ :=
          Option.isSome_iff_exists.mp ((inRange_iff_isSome_item? call.forms place).mp hrange)
        simp only [if_pos hplace, hform, Option.getD_some]
        refine (Returns.item hform).weaken fun output accesses h => ?_
        obtain ⟨rfl, rfl⟩ := h
        refine ⟨rfl, fun access haccess => ?_⟩
        obtain rfl := List.mem_singleton.mp haccess
        exact hplace.1
      · simp only [if_neg hplace, Option.getD_none]
        exact Returns.pure ⟨rfl, nofun⟩

end Index

/-! ## By count -/

namespace Plural

/-- The language of a tag is what stands first when the tag is cut at hyphens, those that are put for
its underscores among them. -/
def languageStepwise (tag : Text) : Procedure σ Text := do
  let first ← item ((Text.replace '_' ['-'] tag).split '-') 0
  return first.lower

/-- The language of the locale that is asked for. Its tag may be that of a supported locale or any other
text. -/
def askLanguage (locale : σ → Text × σ) : Procedure σ Text := do
  let tag ← ask locale
  languageStepwise tag

def categoryStepwise (locale : σ → Text × σ) (argument : Text) : Procedure σ (Option Plural) := do
  let counted ← ifFit do
    let count ← fit (Number.readInteger? argument)
    let language ← askLanguage locale
    return (Plural.Family.ofLanguage language).category count.natAbs
  match counted with
  | some category => return some category
  | none =>
    let real ← ifFit (fit (Number.readReal? argument))
    return real.map fun _ => .other

/-- The form for a category. The last one is taken before it is known whether it is needed, and for
forms by position the locale is asked for once more. -/
def selectStepwise (locale : σ → Text × σ) (forms : List Text) (category : Plural) :
    Procedure σ Text :=
  match keyed? forms with
  | some named => do
    let last ← item (named.entries.map Prod.snd) (-1)
    return lookUp named category last
  | none => do
    let language ← askLanguage locale
    let named := Dict.ofList ((Plural.Family.ofLanguage language).order.zip forms)
    let last ← item forms (-1)
    return lookUp named category last

def applyStepwise (locale : σ → Text × σ) (content : Text) : Procedure σ Text := do
  match ← Call.parseStepwise callName content with
  | none => return content
  | some (argument, forms) =>
    match ← categoryStepwise locale argument with
    | none => return content
    | some category => do
      let form ← selectStepwise locale forms category
      return Text.replace countMark argument form

/-- Without any form there would be no last one. -/
example :
    (selectStepwise (fun _ => ("en-US".toList, ())) [] .one ()).result = .error .outOfRange := rfl

private theorem firstPiece_replace (tag : Text) :
    ((Text.replace '_' ['-'] tag).pieces '-').1 = tag.takeWhile fun c => c ≠ '-' && c ≠ '_' := by
  induction tag with
  | nil => rfl
  | cons c tag ih =>
    rw [Text.replace, List.flatMap_cons, ← Text.replace, List.takeWhile_cons]
    by_cases hunderscore : c = '_'
    · subst hunderscore
      rfl
    · by_cases hhyphen : c = '-'
      · subst hhyphen
        rfl
      · rw [if_neg hunderscore, List.singleton_append, Text.pieces, ← ih]
        simp [hunderscore, hhyphen]

private theorem returns_languageStepwise (inv : σ → Prop) (tag : Text) :
    Returns inv (languageStepwise tag) fun language accesses =>
      language = Plural.languageOf tag ∧ ∀ access ∈ accesses, access.index = 0 := by
  let pieces := (Text.replace '_' ['-'] tag).pieces '-'
  have hfirst : item? ((Text.replace '_' ['-'] tag).split '-') 0 = some pieces.1 :=
    item?_zero pieces.1 pieces.2
  refine (Returns.item hfirst).bind fun part accesses h => ?_
  obtain ⟨rfl, rfl⟩ := h
  refine Returns.pure ⟨?_, ?_⟩
  · rw [Plural.languageOf, ← firstPiece_replace]
  · intro access haccess
    obtain rfl := List.mem_singleton.mp haccess
    rfl

/-- Whoever is asked for the locale gives such tags only, and leaves states that meet the condition. -/
structure Gives (locale : σ → Text × σ) (inv : σ → Prop) (given : Text → Prop) : Prop where
  tag : ∀ s, inv s → given (locale s).1
  state : ∀ s, inv s → inv (locale s).2

private theorem Gives.anything (locale : σ → Text × σ) : Gives locale (fun _ => True) fun _ => True :=
  ⟨fun _ _ => trivial, fun _ _ => trivial⟩

private theorem Gives.part (tag : σ → Text) (s : σ) :
    Gives (fun s => (tag s, s)) (fun s' => s' = s) fun t => t = tag s :=
  ⟨fun _ hs => congrArg tag hs, fun _ hs => hs⟩

section

variable {locale : σ → Text × σ} {inv : σ → Prop} {given : Text → Prop}

private theorem returns_askLanguage (h : Gives locale inv given) :
    Returns inv (askLanguage locale) fun language accesses =>
      (∃ tag, given tag ∧ language = Plural.languageOf tag) ∧
        ∀ access ∈ accesses, access.index = 0 := by
  refine (Returns.ask h.tag h.state).bind fun tag accesses htag => ?_
  obtain ⟨hgiven, rfl⟩ := htag
  refine (returns_languageStepwise inv tag).weaken fun language accesses hlanguage => ?_
  exact ⟨⟨tag, hgiven, hlanguage.1⟩, hlanguage.2⟩

private theorem returns_categoryStepwise (h : Gives locale inv given) (argument : Text) :
    Returns inv (categoryStepwise locale argument) fun category accesses =>
      (∀ access ∈ accesses, access.index = 0) ∧
        (category.isSome = true ↔ IsNumeral argument) ∧
        ∀ tag, (∀ t, given t → t = tag) → category = category? (.ok tag) argument := by
  unfold categoryStepwise IsNumeral category?
  cases Number.readInteger? argument with
  | none =>
    -- the locale is not asked for
    simp only [ifFit_fit_none_bind, pure_bind, ifFit_fit]
    refine Returns.pure ⟨nofun, ?_, ?_⟩
    · simp
    · intro tag _
      cases Number.readReal? argument <;> rfl
  | some count =>
    have hcounted : Returns inv (do
        let language ← askLanguage locale
        return (Plural.Family.ofLanguage language).category count.natAbs) fun category accesses =>
          (∃ tag, given tag ∧ category = Plural.categoryOf tag count) ∧
            ∀ access ∈ accesses, access.index = 0 := by
      refine (returns_askLanguage h).bind fun language accesses hlanguage => ?_
      obtain ⟨⟨tag, hgiven, rfl⟩, haccesses⟩ := hlanguage
      refine Returns.pure ⟨⟨tag, hgiven, rfl⟩, ?_⟩
      rw [List.append_nil]
      exact haccesses
    simp only [fit_some, pure_bind]
    refine hcounted.ifFit.bind fun found accesses hfound => ?_
    obtain ⟨category, rfl, ⟨tag, hgiven, rfl⟩, haccesses⟩ := hfound
    refine Returns.pure ⟨?_, ?_, ?_⟩
    · rw [List.append_nil]
      exact haccesses
    · simp
    · intro sole hsole
      rw [hsole tag hgiven]

private theorem returns_selectStepwise (h : Gives locale inv given) (call : Call) (category : Plural) :
    Returns inv (selectStepwise locale call.forms category) fun form accesses =>
      (∀ access ∈ accesses, access.index = 0 ∨ access.index = -1) ∧
        (∃ access ∈ accesses, access.index = -1) ∧
        ∀ tag, (∀ t, given t → t = tag) → select (.ok tag) call category = .ok form := by
  by_cases hkeyed : ∃ entries, Keyed call.forms entries
  · obtain ⟨entries, hkeyed⟩ := hkeyed
    -- a category that is named again keeps its entry, so the map is no more empty than the forms
    obtain ⟨named, text, hlast, -, -⟩ := Dict.exists_getLast?_entries_ofList hkeyed.ne_nil
    have htext : item? ((Dict.ofList entries).entries.map Prod.snd) (-1) = some text := by
      rw [item?_neg_one, List.getLast?_map, hlast]
      rfl
    simp only [selectStepwise, keyed?_of_keyed hkeyed]
    refine (Returns.item htext).bind fun form accesses hform => ?_
    obtain ⟨rfl, rfl⟩ := hform
    refine Returns.pure ⟨?_, ?_, ?_⟩
    · simp
    · simp
    · intro tag _
      exact select_of_keyed category hkeyed (.ok tag) hlast
  · have hpositional : Positional call.forms := fun entries hentries => hkeyed ⟨entries, hentries⟩
    have hlast : item? call.forms (-1) = some call.lastForm := by
      rw [item?_neg_one, call.getLast?_forms]
    have hnone : keyed? call.forms = none := keyed?_eq_none_iff.mpr hpositional
    simp only [selectStepwise, hnone]
    refine (returns_askLanguage h).bind fun language first hlanguage => ?_
    obtain ⟨⟨tag, hgiven, rfl⟩, hfirst⟩ := hlanguage
    refine (Returns.item hlast).bind fun form accesses hform => ?_
    obtain ⟨rfl, rfl⟩ := hform
    refine Returns.pure ⟨?_, ?_, ?_⟩
    · intro access haccess
      rw [List.append_nil, List.mem_append, List.mem_singleton] at haccess
      rcases haccess with haccess | rfl
      · exact Or.inl (hfirst access haccess)
      · exact Or.inr rfl
    · exact ⟨⟨call.forms.length, -1⟩, by simp, rfl⟩
    · intro sole hsole
      simp only [select, hnone, Except.map, selectByPosition, hsole tag hgiven]

private theorem returns_applyStepwise (h : Gives locale inv given) (content : Text) :
    Returns inv (applyStepwise locale content) fun output accesses =>
      (∀ access ∈ accesses, access.index = 0 ∨ access.index = -1) ∧
        ((∃ access ∈ accesses, access.index = -1) ↔
          ∃ call, Call.parse? callName content = some call ∧ IsNumeral call.argument) ∧
        ∀ tag, (∀ t, given t → t = tag) → apply (.ok tag) content = .ok output := by
  unfold applyStepwise apply
  rw [Call.parseStepwise_eq, pure_bind]
  cases Call.parse? callName content with
  | none => exact Returns.pure ⟨nofun, by simp, fun _ _ => rfl⟩
  | some call =>
    simp only [Option.map_some]
    refine (returns_categoryStepwise h call.argument).bind fun found first hfound => ?_
    obtain ⟨hfirst, hnumeral, hcategory⟩ := hfound
    have hnolast : ¬ ∃ access ∈ first, access.index = -1 := by
      rintro ⟨access, haccess, hindex⟩
      have hzero := hfirst access haccess
      omega
    cases found with
    | none =>
      have hnot : ¬ IsNumeral call.argument := fun hcall => Bool.false_ne_true (hnumeral.mpr hcall)
      refine Returns.pure ⟨?_, ?_, ?_⟩
      · intro access haccess
        rw [List.append_nil] at haccess
        exact Or.inl (hfirst access haccess)
      · rw [List.append_nil]
        refine iff_of_false hnolast ?_
        rintro ⟨call', hcall', hcall⟩
        obtain rfl := Option.some.inj hcall'
        exact hnot hcall
      · intro tag hsole
        simp only [← hcategory tag hsole]
    | some category =>
      refine (returns_selectStepwise h call category).bind fun form second hform => ?_
      obtain ⟨hends, ⟨access, haccess, hindex⟩, hselect⟩ := hform
      refine Returns.pure ⟨?_, ?_, ?_⟩
      · intro access haccess
        rw [List.append_nil] at haccess
        rcases List.mem_append.mp haccess with haccess | haccess
        · exact Or.inl (hfirst access haccess)
        · exact hends access haccess
      · rw [List.append_nil]
        refine iff_of_true ?_ ⟨call, rfl, hnumeral.mp rfl⟩
        exact ⟨access, List.mem_append_right first haccess, hindex⟩
      · intro tag hsole
        simp only [← hcategory tag hsole, hselect tag hsole]
        rfl

end

end Plural

/-! ## Chains -/

/-- The rule that carries out a procedure for each content. A mishap makes it fail, in whatever words
that is told. -/
def ofProcedure (wording : Mishap → Text) (name : Text) (steps : Text → Procedure σ Text) : Rule σ where
  name := name
  apply content s :=
    match steps content s with
    | ⟨.ok output, s, _⟩ => (.text output, s)
    | ⟨.error mishap, s, _⟩ => (.failed (wording mishap), s)

/-- The built-in rules. The one by count is made for whoever is asked for the locale. -/
inductive BuiltIn (σ : Type)
  | index
  | plural (locale : σ → Text × σ)

def BuiltIn.rule (wording : Mishap → Text) : BuiltIn σ → Rule σ
  | index => ofProcedure wording "IndexRule" Index.applyStepwise
  | plural locale => ofProcedure wording "PluralRule" (Plural.applyStepwise locale)

private theorem ofProcedure_apply (wording : Mishap → Text) (name : Text) {steps : Text → Procedure σ Text}
    {content output : Text} {s s' : σ} {accesses : List Access}
    (h : steps content s = ⟨.ok output, s', accesses⟩) :
    (ofProcedure wording name steps).apply content s = (.text output, s') := by
  simp only [ofProcedure, h]

private theorem BuiltIn.rule_index (wording : Mishap → Text) :
    (BuiltIn.index : BuiltIn σ).rule wording = Index.rule := by
  refine congrArg (Rule.mk "IndexRule".toList) ?_
  funext content s
  obtain ⟨output, s', accesses, hrun, rfl, -, rfl, -⟩ :=
    Index.returns_applyStepwise (fun s' => s' = s) content s rfl
  exact ofProcedure_apply wording "IndexRule" hrun

private theorem BuiltIn.rule_plural (wording : Mishap → Text) (tag : σ → Text) :
    (BuiltIn.plural fun s => (tag s, s)).rule wording = Plural.rule fun s => .ok (tag s) := by
  refine congrArg (Rule.mk "PluralRule".toList) ?_
  funext content s
  obtain ⟨output, s', accesses, hrun, rfl, -, -, -, houtput⟩ :=
    Plural.returns_applyStepwise (Plural.Gives.part tag s) content s rfl
  have happly := houtput (tag s') fun t ht => ht
  rw [happly]
  exact ofProcedure_apply wording "PluralRule" hrun

private theorem BuiltIn.exists_rule_apply (rule : BuiltIn σ) (wording : Mishap → Text) (content : Text)
    (s : σ) : ∃ output s', (rule.rule wording).apply content s = (.text output, s') := by
  cases rule with
  | index =>
    obtain ⟨output, s', accesses, hrun, -⟩ :=
      Index.returns_applyStepwise (fun _ => True) content s trivial
    exact ⟨output, s', ofProcedure_apply wording "IndexRule" hrun⟩
  | plural locale =>
    obtain ⟨output, s', accesses, hrun, -⟩ :=
      Plural.returns_applyStepwise (Plural.Gives.anything locale) content s trivial
    exact ⟨output, s', ofProcedure_apply wording "PluralRule" hrun⟩

end Rule

namespace Chain

open Rule Template

private theorem reports_apply_of_text {chain : Chain σ} {content : Text}
    (h : ∀ rule ∈ chain, ∀ s, ∃ output s', rule.apply content s = (.text output, s')) (s : σ) :
    (chain.apply content s).reports = [] := by
  induction chain generalizing s with
  | nil => rfl
  | cons rule rules ih =>
    rw [List.forall_mem_cons] at h
    obtain ⟨output, s', hrule⟩ := h.1 s
    cases hchange : (rule.trial content s).change with
    | some changed => rw [apply_cons_of_change hchange]
    | none =>
      have hcomplaint : (rule.trial content s).complaint = none := by
        rw [Trial.complaint, Rule.trial, hrule]
        rfl
      rw [apply_cons_of_none hchange, hcomplaint, ih h.2]
      rfl

private theorem reports_resolve_of_text {chain : Chain σ}
    (h : ∀ rule ∈ chain, ∀ content s, ∃ output s', rule.apply content s = (.text output, s'))
    (t : Text) (s : σ) : (chain.resolve t s).reports = [] := by
  have hall : ∀ (contents : List Text) (s : σ), (chain.applyAll contents s).reports = [] := by
    intro contents
    induction contents with
    | nil => exact fun _ => rfl
    | cons content contents ih =>
      intro s
      have hfirst := reports_apply_of_text (fun rule hrule => h rule hrule content) s
      simp only [applyAll, Effect.bind_apply, Effect.pure_apply, hfirst, ih, List.append_nil]
  simp only [resolve, Effect.bind_apply, Effect.pure_apply, hall, List.append_nil]

/-- The built-in rules return a text for every content, whatever is answered each time that the locale
is asked for. What the rule by position takes from the forms is at the place of one of them. The rule by
count takes only first and last items, from lists that are not empty, and it takes a last one for every
call with a number, needed or not. The chain of the built-in rules is the chain of these procedures, and
no chain of such rules, in whatever number and order, has anything to report on any text. -/
theorem builtIn_never_fails (wording : Mishap → Text) :
    (∀ (content : Text) (s : σ), ∃ accesses,
      Rule.Index.applyStepwise content s = ⟨.ok (Rule.Index.apply content), s, accesses⟩ ∧
        ∀ access ∈ accesses, 0 ≤ access.index ∧ access.index < access.length) ∧
    (∀ (locale : σ → Text × σ) (content : Text) (s : σ), ∃ output s' accesses,
      Rule.Plural.applyStepwise locale content s = ⟨.ok output, s', accesses⟩ ∧
        (∀ access ∈ accesses, 0 < access.length ∧ (access.index = 0 ∨ access.index = -1)) ∧
        ((∃ access ∈ accesses, access.index = -1) ↔
          ∃ call, Call.parse? Rule.Plural.callName content = some call ∧
            Rule.Plural.IsNumeral call.argument)) ∧
    (∀ tag : σ → Text, builtIn (fun s => .ok (tag s)) =
      [BuiltIn.index, .plural fun s => (tag s, s)].map (BuiltIn.rule wording)) ∧
    ∀ (rules : List (BuiltIn σ)) (t : Text) (s : σ),
      (resolve (rules.map (BuiltIn.rule wording)) t s).reports = [] := by
  refine ⟨?_, ?_, ?_, ?_⟩
  · intro content s
    obtain ⟨output, s', accesses, hrun, rfl, hrange, rfl, hplace⟩ :=
      Rule.Index.returns_applyStepwise (fun s' => s' = s) content s rfl
    exact ⟨accesses, hrun, fun access haccess => ⟨hplace access haccess, (hrange access haccess).2⟩⟩
  · intro locale content s
    obtain ⟨output, s', accesses, hrun, -, hrange, hends, hlast, -⟩ :=
      Rule.Plural.returns_applyStepwise (Rule.Plural.Gives.anything locale) content s trivial
    refine ⟨output, s', accesses, hrun, fun access haccess => ⟨?_, hends access haccess⟩, hlast⟩
    have hin := hrange access haccess
    have hend := hends access haccess
    unfold Procedure.Access.InRange at hin
    omega
  · intro tag
    rw [builtIn, List.map_cons, List.map_singleton, BuiltIn.rule_index, BuiltIn.rule_plural]
  · intro rules t s
    refine reports_resolve_of_text ?_ t s
    intro rule hrule content s
    obtain ⟨rule, -, rfl⟩ := List.mem_map.mp hrule
    exact rule.exists_rule_apply wording content s

/-- The count is read in Polish and the order in Japanese. The last form is taken, and not needed. -/
example :
    let locale : Nat → Text × Nat := fun asked => (if asked = 0 then "pl-PL" else "ja-JP", asked + 1)
    let ending := Rule.Plural.applyStepwise locale "plural: 2 |a#|b" 0
    ending.result = .ok "a2".toList ∧ ending.state = 2 ∧
      ending.accesses = [⟨2, 0⟩, ⟨2, 0⟩, ⟨2, -1⟩] := by
  decide +kernel

end Chain

end Phrasebook
