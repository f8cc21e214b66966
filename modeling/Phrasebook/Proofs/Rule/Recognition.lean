import Phrasebook.Proofs.Rule.KeyedForms
import Phrasebook.Proofs.Rule.Precedence

/-!
Which contents the built-in rules recognise. A rule declines a content by giving it back; since every
call has a bar and no form has one, a call that is answered is never taken for one that is declined. No
content is answered by both rules, and so it does not matter in which order they are asked.
-/

set_option autoImplicit false
set_option relaxedAutoImplicit false

namespace Phrasebook

variable {σ : Type}

namespace Rule

private theorem ne_of_bar {s t : Text} (hs : '|' ∉ s) (ht : '|' ∈ t) : s ≠ t := by
  rintro rfl
  exact hs ht

/-! ## By position -/

namespace Index

/-- An argument is an integer that is the place of one of several forms. -/
def IsPlace (forms : List Text) (argument : Text) : Prop :=
  ∃ n : Int, Number.readInteger? argument = some n ∧ 0 ≤ n ∧ n < forms.length

private theorem isSome_choose?_iff (call : Call) :
    (choose? call).isSome = true ↔ IsPlace call.forms call.argument := by
  unfold choose? IsPlace
  rcases Number.readInteger? call.argument with _ | (place | n)
  · simp
  · simp
  · simp only [Option.isSome_none, Bool.false_eq_true, false_iff]
    rintro ⟨n', hn', hnonneg, -⟩
    cases hn'
    omega

private theorem mem_forms_of_choose? {call : Call} {form : Text} (h : choose? call = some form) :
    form ∈ call.forms := by
  unfold choose? at h
  split at h
  · exact List.mem_of_getElem? h
  · cases h

private theorem apply_ne_iff (content : Text) :
    apply content ≠ content ↔
      ∃ call, Call.parse? callName content = some call ∧ IsPlace call.forms call.argument := by
  unfold apply
  cases hcall : Call.parse? callName content with
  | none => simp
  | some call =>
    rw [Option.bind_some]
    have hplace := isSome_choose?_iff call
    cases hform : choose? call with
    | none =>
      rw [hform] at hplace
      refine iff_of_false (fun h => h rfl) ?_
      rintro ⟨call', hcall', h⟩
      obtain rfl := Option.some.inj hcall'
      cases hplace.mpr h
    | some form =>
      rw [hform] at hplace
      obtain ⟨hbar, -, hforms⟩ := Call.bar_of_parse? hcall
      have hne : form ≠ content := ne_of_bar (hforms form (mem_forms_of_choose? hform)) hbar
      exact iff_of_true hne ⟨call, rfl, hplace.mp rfl⟩

end Index

/-! ## By count -/

namespace Plural

private theorem exists_select {call : Call} {c : Char} (hc : ∀ form ∈ call.forms, c ∉ form) (tag : Text)
    (category : Plural) : ∃ form, select (.ok tag) call category = .ok form ∧ c ∉ form := by
  by_cases hkeyed : ∃ entries, Keyed call.forms entries
  · obtain ⟨entries, hkeyed⟩ := hkeyed
    have hentries := hkeyed.not_mem hc
    have hlookup : ∀ category form, entries.reverse.lookup category = some form → c ∉ form := by
      intro category form hform
      obtain ⟨before, after, heq, -⟩ := List.lookup_eq_some_iff.mp hform
      refine hentries (category, form) (List.mem_reverse.mp ?_)
      rw [heq]
      exact List.mem_append_right _ List.mem_cons_self
    obtain ⟨named, text, hlast, -, htext⟩ := Dict.exists_getLast?_entries_ofList hkeyed.ne_nil
    refine ⟨_, select_of_keyed category hkeyed (.ok tag) hlast, ?_⟩
    refine forall_of_chosen (p := fun form => c ∉ form) ?_ ?_ (some_lookUp _ _ _).symm
    · intro named form hform
      rw [Dict.get?_ofList] at hform
      exact hlookup named form hform
    · intro form hform
      obtain rfl := Option.some.inj hform
      exact hlookup named _ htext
  · have hpositional : Positional call.forms := fun entries h => hkeyed ⟨entries, h⟩
    obtain ⟨form, hchosen, hform⟩ := select_of_positional category hpositional tag
    exact ⟨form, hform, not_mem_of_chosen_formAt hc hchosen⟩

private theorem exists_apply (tag content : Text) :
    ∃ output, apply (.ok tag) content = .ok output ∧
      (output ≠ content ↔
        ∃ call, Call.parse? callName content = some call ∧ IsNumeral call.argument) := by
  cases hcall : Call.parse? callName content with
  | none =>
    refine ⟨content, ?_, by simp⟩
    simp only [apply, hcall]
  | some call =>
    by_cases hnumeral : IsNumeral call.argument
    · obtain ⟨hbar, hargument, hforms⟩ := Call.bar_of_parse? hcall
      obtain ⟨form, hselect, hform⟩ := exists_select hforms tag (countCategory tag call.argument)
      refine ⟨Text.replace countMark call.argument form, ?_, ?_⟩
      · simp only [apply, hcall, category?_of_isNumeral hnumeral, hselect]
        rfl
      · have hmissing : '|' ∉ Text.replace countMark call.argument form :=
          Text.not_mem_replace hargument hform
        have hne := ne_of_bar hmissing hbar
        exact iff_of_true hne ⟨call, rfl, hnumeral⟩
    · refine ⟨content, ?_, iff_of_false (fun h => h rfl) ?_⟩
      · simp only [apply, hcall, category?_of_not_isNumeral hnumeral]
      · rintro ⟨call', hcall', h⟩
        obtain rfl := Option.some.inj hcall'
        exact hnumeral h

end Plural

private theorem not_both_calls {content : Text} {call call' : Call}
    (h : Call.parse? Index.callName content = some call) :
    Call.parse? Plural.callName content ≠ some call' := by
  obtain ⟨argument, -, -, -, rfl⟩ := Call.parse?_eq_some_iff.mp h
  rw [Call.parse?_write_of_ne (by decide) (by decide) (by decide)]
  exact nofun

end Rule

/-! ## Chains -/

namespace Chain

open Template

/-- The rules of a chain that change a content agree on what they make of it, which is given, and none
fails or changes the state. -/
structure Agrees (chain : Chain σ) (s : σ) (content : Text) (output : Option Text) : Prop where
  answer : ∀ rule ∈ chain, ∃ t, rule.apply content s = (.text t, s) ∧ (t ≠ content → output = some t)
  changed : ∀ t, output = some t → t ≠ content ∧ ∃ rule ∈ chain, rule.apply content s = (.text t, s)

namespace Agrees

variable {chain chain' : Chain σ} {s : σ} {content : Text} {output : Option Text}

private theorem of_mem_iff (h : Agrees chain s content output) (hmem : ∀ rule, rule ∈ chain' ↔ rule ∈ chain) :
    Agrees chain' s content output where
  answer rule hrule := h.answer rule ((hmem rule).mp hrule)
  changed t ht := by
    obtain ⟨hne, rule, hrule, happly⟩ := h.changed t ht
    exact ⟨hne, rule, (hmem rule).mpr hrule, happly⟩

private theorem apply (h : Agrees chain s content output) :
    Chain.apply content chain s = ⟨output, s, []⟩ := by
  induction chain with
  | nil =>
    cases output with
    | none => rfl
    | some t =>
      obtain ⟨-, rule, hrule, -⟩ := h.changed t rfl
      cases hrule
  | cons rule rules ih =>
    obtain ⟨t, happly, hagree⟩ := h.answer rule List.mem_cons_self
    have hchange : (rule.trial content s).change = if t = content then none else some t := by
      simp only [Rule.trial, Trial.change, happly, Rule.changeOf]
    by_cases ht : t = content
    · -- the rule declines, so whoever changes the content is among the others
      rw [if_pos ht] at hchange
      have hrest : Agrees rules s content output := by
        refine ⟨fun other hother => h.answer other (List.mem_cons_of_mem _ hother), fun t' ht' => ?_⟩
        obtain ⟨hne, other, hother, happly'⟩ := h.changed t' ht'
        rcases List.mem_cons.mp hother with rfl | hother
        · rw [happly] at happly'
          cases happly'
          exact absurd ht hne
        · exact ⟨hne, other, hother, happly'⟩
      have hcomplaint : (rule.trial content s).complaint = none := by
        simp only [Trial.complaint, Rule.trial, happly, RuleResult.failure?, Option.map_none]
      rw [apply_cons_of_none hchange, happly, ih hrest, hcomplaint]
      rfl
    · rw [if_neg ht] at hchange
      rw [apply_cons_of_change hchange, happly, hagree ht]

private theorem resolve {outputs : Text → Option Text} (h : ∀ content, Agrees chain s content (outputs content))
    (t : Text) : Chain.resolve chain t s = ⟨rewrite .bare outputs t, s, []⟩ := by
  have hall : ∀ contents : List Text,
      chain.applyAll contents s = ⟨contents.map fun content => (content, outputs content), s, []⟩ := by
    intro contents
    induction contents with
    | nil => rfl
    | cons content contents ih =>
      simp only [applyAll, Effect.bind_apply, (h content).apply, ih]
      rfl
  rw [← rewrite_tabled .bare outputs t]
  simp only [Chain.resolve, Effect.bind_apply, hall]
  rfl

end Agrees

open Rule (Call)

section

variable {tag : σ → Except Text Text} {s : σ} {locale : Text}

private theorem declined_by_one (locale content : Text) :
    Rule.Index.apply content = content ∨ Rule.Plural.apply (.ok locale) content = .ok content := by
  by_contra hboth
  rw [not_or] at hboth
  obtain ⟨hindex, hplural⟩ := hboth
  obtain ⟨call, hcall, -⟩ := (Rule.Index.apply_ne_iff content).mp hindex
  obtain ⟨output, houtput, hiff⟩ := Rule.Plural.exists_apply locale content
  have hne : output ≠ content := by
    rintro rfl
    exact hplural houtput
  obtain ⟨call', hcall', -⟩ := hiff.mp hne
  exact Rule.not_both_calls hcall hcall'

/-- The built-in rules as functions of the content under a locale tag. -/
def builtInResults (locale : Text) : List (Text → RuleResult) :=
  [fun content => .text (Rule.Index.apply content),
    fun content => .ofTagged (Rule.Plural.apply (.ok locale) content)]

private theorem agrees_builtIn (hlocale : tag s = .ok locale) (content : Text) :
    Agrees (builtIn tag) s content (Rule.firstChange (builtInResults locale) content) := by
  obtain ⟨output, houtput, -⟩ := Rule.Plural.exists_apply locale content
  have hindex : (Rule.Index.rule : Rule σ).apply content s =
      (.text (Rule.Index.apply content), s) := by
    rw [Rule.Index.rule, Rule.ofFunction]
  have hplural : (Rule.Plural.rule tag).apply content s = (.text output, s) := by
    unfold Rule.Plural.rule
    dsimp only
    rw [hlocale, houtput, RuleResult.ofTagged]
  have hone := declined_by_one locale content
  rw [houtput, Except.ok.injEq] at hone
  have hresult : Rule.firstChange (builtInResults locale) content =
      if Rule.Index.apply content = content then if output = content then none else some output
      else some (Rule.Index.apply content) := by
    simp only [Rule.firstChange, builtInResults, List.findSome?_cons, List.findSome?_nil, houtput,
      RuleResult.ofTagged, Rule.changeOf]
    split_ifs <;> rfl
  rw [hresult]
  refine ⟨?_, ?_⟩
  · intro rule hrule
    rcases List.mem_cons.mp hrule with rfl | hrule
    · exact ⟨_, hindex, fun hne => if_neg hne⟩
    · obtain rfl := List.mem_singleton.mp hrule
      refine ⟨output, hplural, fun hne => ?_⟩
      rw [if_pos (hone.resolve_right hne), if_neg hne]
  · intro t ht
    split_ifs at ht with hdeclined hboth
    · obtain rfl := Option.some.inj ht
      exact ⟨hboth, _, List.mem_cons_of_mem _ (List.mem_singleton_self _), hplural⟩
    · obtain rfl := Option.some.inj ht
      exact ⟨hdeclined, _, List.mem_cons_self, hindex⟩

end

/-- The built-in rules change a content exactly if it is a call for one of their forms: for the one by
position with the place of a form as its argument, for the one by count with a number. No content is
changed by both. So a chain of the two, in any order and with either repeated, does the same to every
text. -/
theorem builtIn_order_irrelevant {tag : σ → Except Text Text} {s : σ} {locale : Text}
    (hlocale : tag s = .ok locale) {chain : Chain σ}
    (hchain : ∀ rule, rule ∈ chain ↔ rule = Rule.Index.rule ∨ rule = Rule.Plural.rule tag) :
    (∀ content, Rule.Index.apply content ≠ content ↔
      ∃ call, Call.parse? Rule.Index.callName content = some call ∧
        ∃ n : Int, Number.readInteger? call.argument = some n ∧ 0 ≤ n ∧ n < call.forms.length) ∧
    (∀ content, ∃ output, Rule.Plural.apply (.ok locale) content = .ok output ∧
      (output ≠ content ↔
        ∃ call, Call.parse? Rule.Plural.callName content = some call ∧
          ((Number.readInteger? call.argument).isSome = true ∨
            (Number.readReal? call.argument).isSome = true))) ∧
    (∀ content, Rule.Index.apply content = content ∨
      Rule.Plural.apply (.ok locale) content = .ok content) ∧
    ∀ t, chain.resolve t s = (builtIn tag).resolve t s := by
  refine ⟨Rule.Index.apply_ne_iff, Rule.Plural.exists_apply locale, declined_by_one locale,
    fun t => ?_⟩
  have hmem : ∀ rule, rule ∈ chain ↔ rule ∈ builtIn tag := by
    intro rule
    rw [hchain, builtIn, List.mem_cons, List.mem_singleton]
  have hagrees := agrees_builtIn hlocale
  rw [Agrees.resolve hagrees, Agrees.resolve fun content => (hagrees content).of_mem_iff hmem]

/-- Polish, and the rule by count both before and after the other one. One call selects a form that is
a call but for its bar, one has no place for its form, and one no number. -/
theorem builtIn_order_irrelevant_repeated :
    let tag : Text → Except Text Text := .ok
    let chain : Chain Text := [Rule.Plural.rule tag, Rule.Index.rule, Rule.Plural.rule tag]
    let t : Text := "\x7bindex: 1 |a|index:0\x7d \x7bplural:2|#|# #\x7d \x7bindex:-1|a\x7d \x7bplural:x|#\x7d"
    Rule.Index.apply "index: 1 |a|index:0" ≠ "index: 1 |a|index:0".toList ∧
      Rule.Plural.apply (.ok "pl-PL") "index: 1 |a|index:0" = .ok "index: 1 |a|index:0".toList ∧
      (chain.resolve t "pl-PL").value = "index:0 2 2 \x7bindex:-1|a\x7d \x7bplural:x|#\x7d".toList := by
  intro tag chain t
  have hchain : ∀ rule, rule ∈ chain ↔ rule = Rule.Index.rule ∨ rule = Rule.Plural.rule tag := by
    intro rule
    simp only [chain, List.mem_cons, List.not_mem_nil, or_false]
    tauto
  obtain ⟨hindex, -, hone, hresolve⟩ :=
    @builtIn_order_irrelevant Text tag "pl-PL".toList _ rfl chain hchain
  have hchanged : Rule.Index.apply "index: 1 |a|index:0" ≠ "index: 1 |a|index:0".toList := by
    refine (hindex _).mpr ⟨⟨"1", "a", ["index:0"]⟩, by decide, 1, ?_⟩
    decide +kernel
  refine ⟨hchanged, (hone _).resolve_left hchanged, ?_⟩
  rw [hresolve]
  decide +kernel

end Chain

end Phrasebook
