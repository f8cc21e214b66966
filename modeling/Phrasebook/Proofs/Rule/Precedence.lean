import Phrasebook.Proofs.Template.Stages
import Phrasebook.Rule.Sample

/-!
The order of the rules is their precedence. A content is tried by one rule after the other up to the
first that changes it; those that fail on the way are reported, and those after it are not asked. So
rules that are added later decide on the contents alone that the others leave.
-/

set_option autoImplicit false
set_option relaxedAutoImplicit false

namespace Phrasebook

variable {σ : Type}

def RuleResult.failure? : RuleResult → Option Text
  | .text _ => none
  | .notText type => some ("expected str, got ".toList ++ type)
  | .failed message | .noTag message => some message

/-- A rule that was tried on a content, and what it made of it. -/
structure Trial (σ : Type) where
  rule : Rule σ
  content : Text
  result : RuleResult

namespace Trial

/-- The text in the place of the content, if the rule applied to it. -/
def change (trial : Trial σ) : Option Text := Rule.changeOf trial.content trial.result

def complaint (trial : Trial σ) : Option Report :=
  trial.result.failure?.map (.ruleFailed trial.rule.name trial.content)

end Trial

/-- The trial of a rule on a content in a state. -/
def Rule.trial (rule : Rule σ) (content : Text) (s : σ) : Trial σ :=
  ⟨rule, content, (rule.apply content s).1⟩

/-- A rule that keeps a record of its trials beside the state. -/
def Rule.noting (rule : Rule σ) : Rule (List (Trial σ) × σ) where
  name := rule.name
  apply content s :=
    ((rule.apply content s.2).1, (s.1 ++ [rule.trial content s.2], (rule.apply content s.2).2))

private theorem Trial.complaint_of_change {trial : Trial σ} {t : Text} (h : trial.change = some t) :
    trial.complaint = none := by
  obtain ⟨rule, content, result⟩ := trial
  cases result with
  | text t => rfl
  | notText type => cases h
  | failed message => cases h
  | noTag message => cases h

namespace Chain

/-! ## One rule after the other -/

section

variable {rule : Rule σ} {content : Text} {s : σ}

theorem apply_cons_of_change {output : Text} (h : (rule.trial content s).change = some output)
    (rules : Chain σ) :
    apply content (rule :: rules) s = ⟨some output, (rule.apply content s).2, []⟩ := by
  simp only [Rule.trial, Trial.change] at h
  simp only [apply, Effect.bind_apply, attempt]
  rcases hanswer : rule.apply content s with ⟨result, s'⟩
  rw [hanswer] at h
  cases result with
  | text t =>
    simp only [Rule.changeOf] at h
    split_ifs at h with ht
    obtain rfl := Option.some.inj h
    simp [ht]
  | notText type => cases h
  | failed message => cases h
  | noTag message => cases h

theorem apply_cons_of_none (h : (rule.trial content s).change = none) (rules : Chain σ) :
    apply content (rule :: rules) s =
      ⟨(apply content rules (rule.apply content s).2).value,
        (apply content rules (rule.apply content s).2).state,
        (rule.trial content s).complaint.toList ++
          (apply content rules (rule.apply content s).2).reports⟩ := by
  simp only [Rule.trial, Trial.change] at h ⊢
  simp only [apply, Effect.bind_apply, attempt]
  rcases hanswer : rule.apply content s with ⟨result, s'⟩
  rw [hanswer] at h
  cases result with
  | text t =>
    simp only [Rule.changeOf] at h
    split_ifs at h with ht
    simp [ht, Trial.complaint, RuleResult.failure?]
  | notText type => rfl
  | failed message => rfl
  | noTag message => rfl

end

/-! ## Trials -/

/-- What trials of a content by the rules of a chain are, and what comes of them. -/
structure Tried (chain : Chain σ) (content : Text) (trials : List (Trial σ))
    (output : Option Text) : Prop where
  /-- The rules are tried in their order, each once; if none changes the content, all of them. -/
  inTurn : ∃ untried, chain = trials.map Trial.rule ++ untried ∧ (output = none → untried = [])
  onContent : ∀ trial ∈ trials, trial.content = content
  /-- Nothing is tried after a change. -/
  unchanged : ∀ trial ∈ trials.dropLast, trial.change = none
  decided : trials.getLast?.bind Trial.change = output

namespace Tried

variable {content : Text} {trials : List (Trial σ)} {output : Option Text}

private theorem nil (content : Text) : Tried ([] : Chain σ) content [] none where
  inTurn := ⟨[], rfl, fun _ => rfl⟩
  onContent := by simp
  unchanged := by simp
  decided := rfl

private theorem last {trial : Trial σ} {t : Text} (h : trial.change = some t) (rules : Chain σ) :
    Tried (trial.rule :: rules) trial.content [trial] (some t) where
  inTurn := ⟨rules, rfl, fun hnone => nomatch hnone⟩
  onContent := by simp
  unchanged := by simp
  decided := h

private theorem cons {trial : Trial σ} {rules : Chain σ} (hnone : trial.change = none)
    (h : Tried rules trial.content trials output) :
    Tried (trial.rule :: rules) trial.content (trial :: trials) output where
  inTurn := by
    obtain ⟨untried, hrules, hall⟩ := h.inTurn
    exact ⟨untried, by rw [hrules, List.map_cons, List.cons_append], hall⟩
  onContent := List.forall_mem_cons.mpr ⟨rfl, h.onContent⟩
  unchanged := by
    cases trials with
    | nil => simp
    | cons next trials =>
      rw [List.dropLast_cons_cons]
      exact List.forall_mem_cons.mpr ⟨hnone, h.unchanged⟩
  decided := by
    cases trials with
    | nil => exact hnone.trans h.decided
    | cons next trials =>
      rw [List.getLast?_cons_cons]
      exact h.decided

theorem ne_nil {chain : Chain σ} (h : Tried chain content trials output) (hchain : chain ≠ []) :
    trials ≠ [] := by
  rintro rfl
  obtain ⟨untried, hrules, hall⟩ := h.inTurn
  exact hchain (by rw [hrules, hall h.decided.symm]; rfl)

end Tried

/-- With a record of the trials a chain does the same. The trials are those that lead to its output,
and its reports are those on the rules that failed in them. -/
theorem apply_noting (chain : Chain σ) (content : Text) (noted : List (Trial σ)) (s : σ) :
    ∃ trials,
      apply content (chain.map Rule.noting) (noted, s) =
          ⟨(chain.apply content s).value, (noted ++ trials, (chain.apply content s).state),
            (chain.apply content s).reports⟩ ∧
        Tried chain content trials (chain.apply content s).value ∧
        (chain.apply content s).reports = trials.filterMap Trial.complaint := by
  induction chain generalizing noted s with
  | nil => exact ⟨[], by simp [apply], .nil content, rfl⟩
  | cons rule rules ih =>
    rw [List.map_cons]
    cases hchange : (rule.trial content s).change with
    | some output =>
      have hnoting : (rule.noting.trial content (noted, s)).change = some output := hchange
      rw [apply_cons_of_change hchange, apply_cons_of_change hnoting]
      refine ⟨[rule.trial content s], rfl, .last hchange rules, ?_⟩
      rw [List.filterMap_cons, Trial.complaint_of_change hchange]
      rfl
    | none =>
      have hnoting : (rule.noting.trial content (noted, s)).change = none := hchange
      obtain ⟨trials, hrun, htried, hreports⟩ :=
        ih (noted ++ [rule.trial content s]) (rule.apply content s).2
      rw [apply_cons_of_none hchange, apply_cons_of_none hnoting]
      refine ⟨rule.trial content s :: trials, ?_, .cons hchange htried, ?_⟩
      · simp only [Rule.noting, hrun, List.append_assoc, List.singleton_append]
        rfl
      · rw [hreports, List.filterMap_cons]
        cases (rule.trial content s).complaint <;> rfl

/-! ## More rules -/

private theorem foldl_register (chain : Chain σ) (more : List (Rule σ)) :
    more.foldl register chain = chain ++ more := by
  induction more generalizing chain with
  | nil => simp
  | cons rule more ih => rw [List.foldl_cons, ih, register, List.append_assoc]; rfl

section

variable {chain : Chain σ} {content : Text} {s : σ}

private theorem apply_append_of_some {output : Text} (h : (chain.apply content s).value = some output)
    (more : Chain σ) : apply content (chain ++ more) s = chain.apply content s := by
  induction chain generalizing s with
  | nil => cases h
  | cons rule rules ih =>
    rw [List.cons_append]
    cases hchange : (rule.trial content s).change with
    | some first => rw [apply_cons_of_change hchange, apply_cons_of_change hchange]
    | none =>
      rw [apply_cons_of_none hchange] at h
      rw [apply_cons_of_none hchange, apply_cons_of_none hchange, ih h]

private theorem apply_append_of_none (h : (chain.apply content s).value = none) (more : Chain σ) :
    apply content (chain ++ more) s =
      ⟨(apply content more (chain.apply content s).state).value,
        (apply content more (chain.apply content s).state).state,
        (chain.apply content s).reports ++
          (apply content more (chain.apply content s).state).reports⟩ := by
  induction chain generalizing s with
  | nil => rfl
  | cons rule rules ih =>
    rw [List.cons_append]
    cases hchange : (rule.trial content s).change with
    | some first =>
      rw [apply_cons_of_change hchange] at h
      cases h
    | none =>
      rw [apply_cons_of_none hchange] at h
      rw [apply_cons_of_none hchange, apply_cons_of_none hchange, ih h, List.append_assoc]

end

private theorem exists_lookup_applyAll (chain : Chain σ) {contents : List Text} {content : Text}
    (h : content ∈ contents) (s : σ) :
    ∃ s',
      (chain.applyAll contents s).value.lookup content = some (chain.apply content s').value := by
  induction contents generalizing s with
  | nil => cases h
  | cons first contents ih =>
    simp only [applyAll, Effect.bind_apply, Effect.pure_apply, List.lookup_cons]
    by_cases hfirst : content = first
    · subst hfirst
      exact ⟨s, by simp⟩
    · rw [beq_false_of_ne hfirst]
      exact ih ((List.mem_cons.mp h).resolve_left hfirst) _

open Template

private theorem exists_outputs_append {chain : Chain σ} {rules : List (Text → RuleResult)}
    (h : List.Forall₂ Rule.GivenBy chain rules) (more : Chain σ) (t : Text) (s : σ) :
    ∃ outputs : Text → Option Text,
      (resolve (chain ++ more) t s).value = rewrite .bare outputs t ∧
        ∀ token ∈ bareTokens t, ∀ output,
          Rule.firstChange rules token.content = some output →
            outputs token.content = some output := by
  refine ⟨_, resolve_value (chain ++ more) t s, fun token htoken output houtput => ?_⟩
  have hmem : token.content ∈ contents (bareTokens t) :=
    mem_contents.mpr (List.mem_map_of_mem htoken)
  obtain ⟨s', hlookup⟩ := exists_lookup_applyAll (chain ++ more) hmem s
  have hvalue : (chain.apply token.content s').value = some output :=
    (apply_value h token.content s').trans houtput
  rw [tabled, hlookup, apply_append_of_some hvalue, hvalue]
  rfl

/-- The first rule that changes a content decides. In the trials that lead to the output, each rule
is tried in its turn and none after the one that changes the content, and every one that failed before
is reported once. Rules that are added leave outputs and reports of the contents that are changed
already as they are, and decide on the others alone; and if the rules at first go by the content alone,
they replace every token by the text by which these replace it. -/
theorem first_change_wins (chain : Chain σ) (more : List (Rule σ)) (content : Text) (s : σ) :
    let outcome := chain.apply content s
    let extended := more.foldl register chain
    (∃ trials,
      apply content (chain.map Rule.noting) ([], s) =
          ⟨outcome.value, (trials, outcome.state), outcome.reports⟩ ∧
        Tried chain content trials outcome.value ∧
        outcome.reports = trials.filterMap Trial.complaint) ∧
    (∀ output, outcome.value = some output → extended.apply content s = outcome) ∧
    (outcome.value = none →
      let added := Chain.apply content more outcome.state
      extended.apply content s =
        ⟨added.value, added.state, outcome.reports ++ added.reports⟩) ∧
    ∀ rules, List.Forall₂ Rule.GivenBy chain rules →
      outcome.value = Rule.firstChange rules content ∧
      ∀ t, ∃ outputs : Text → Option Text,
        (chain.resolve t s).value = expandFrom t
            (Token.written t fun token => Rule.firstChange rules token.content) 0 (bareTokens t) ∧
          (extended.resolve t s).value = expandFrom t
            (Token.written t fun token => outputs token.content) 0 (bareTokens t) ∧
          ∀ token ∈ bareTokens t, ∀ output,
            Rule.firstChange rules token.content = some output →
              outputs token.content = some output := by
  simp only [foldl_register]
  refine ⟨apply_noting chain content [] s, fun output houtput => apply_append_of_some houtput more,
    fun hnone => apply_append_of_none hnone more, fun rules hrules =>
      ⟨apply_value hrules content s, fun t => ?_⟩⟩
  obtain ⟨outputs, hextended, hagree⟩ := exists_outputs_append hrules more t s
  refine ⟨outputs, ?_, ?_, hagree⟩
  · rw [resolve_value_of_givenBy hrules]
    exact rewrite_eq_expandFrom .bare _ t
  · rw [hextended]
    exact rewrite_eq_expandFrom .bare outputs t

def bench : Rule.Bench := ⟨.error "no locale".toList, ∅⟩

/-- Two rules that fail in different ways before one that applies to some contents. -/
def shouting : Chain Rule.Bench := Rule.Sample.rules Rule.Bench.access 0 [.broken, .integer, .upper]

/-- Rules that apply to the same contents as those, and to all others. -/
def afterthoughts : Chain Rule.Bench := Rule.Sample.rules Rule.Bench.access 3 [.reverse, .empty]

def shoutingComplaints (content : Text) : List Report :=
  [.ruleFailed "BrokenRule" content "boom",
    .ruleFailed "IntegerRule" content "expected str, got int"]

theorem first_change_wins_shouting :
    let extended := afterthoughts.foldl register shouting
    extended.apply "up:ab" bench = ⟨some "AB".toList, bench, shoutingComplaints "up:ab"⟩ ∧
      extended.apply "z" bench = ⟨some [], bench, shoutingComplaints "z"⟩ ∧
      ∃ outputs : Text → Option Text,
        (shouting.resolve "\x7bup:ab\x7d@\x7bz\x7d\x7bz\x7d" bench).value =
            "AB@\x7bz\x7d\x7bz\x7d".toList ∧
          (extended.resolve "\x7bup:ab\x7d@\x7bz\x7d\x7bz\x7d" bench).value =
            expandFrom "\x7bup:ab\x7d@\x7bz\x7d\x7bz\x7d"
              (Token.written "\x7bup:ab\x7d@\x7bz\x7d\x7bz\x7d" fun token => outputs token.content)
              0 [⟨0, 7, "up:ab"⟩, ⟨11, 14, "z"⟩] ∧
          outputs "up:ab" = some "AB".toList := by
  have hrules : List.Forall₂ Rule.GivenBy shouting
      [fun _ => .failed "boom", fun _ => .notText "int",
        fun content => .text (Rule.Sample.afterMark Text.upper content)] :=
    .cons (fun _ _ => rfl) (.cons (fun _ _ => rfl) (.cons (fun _ _ => rfl) .nil))
  obtain ⟨-, hchanged, -, hpure⟩ := first_change_wins shouting afterthoughts "up:ab" bench
  obtain ⟨-, -, hunchanged, -⟩ := first_change_wins shouting afterthoughts "z" bench
  obtain ⟨outputs, hresolved, hextended, hagree⟩ :=
    (hpure _ hrules).2 "\x7bup:ab\x7d@\x7bz\x7d\x7bz\x7d"
  exact ⟨(hchanged "AB".toList rfl).trans rfl, (hunchanged rfl).trans rfl, outputs,
    hresolved.trans rfl, hextended.trans rfl,
    hagree ⟨0, 7, "up:ab"⟩ (by decide) "AB".toList rfl⟩

end Chain

end Phrasebook
