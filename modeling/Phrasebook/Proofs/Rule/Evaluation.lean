import Phrasebook.Proofs.Rule.Precedence
import Phrasebook.Proofs.Template.Grammar

/-!
The third stage tries every distinct content once, in the order of first occurrence, even where rules
remember what they were asked before. What came of a content stands for all its occurrences, and
nothing but the tokens is replaced.
-/

set_option autoImplicit false
set_option relaxedAutoImplicit false

namespace Phrasebook

variable {σ : Type}

namespace Template

private theorem spliceFrom_filter {text : Text} {replacement replacement' : Token → Option Text}
    {found : List (Kind × Token)} {kind : Kind}
    (hsame : ∀ entry ∈ found, entry.1 = kind → replacement' entry.2 = replacement entry.2)
    (hnone : ∀ entry ∈ found, entry.1 ≠ kind → replacement' entry.2 = none) (cursor : Nat) :
    spliceFrom text replacement cursor ((found.filter fun entry => entry.1 = kind).map Prod.snd) =
      spliceFrom text replacement' cursor (found.map Prod.snd) := by
  induction found generalizing cursor with
  | nil => rfl
  | cons entry found ih =>
    rw [List.forall_mem_cons] at hsame hnone
    have hrest := ih hsame.2 hnone.2
    by_cases hkind : entry.1 = kind
    · rw [List.filter_cons_of_pos (by simpa using hkind), List.map_cons, List.map_cons]
      simp only [spliceFrom, hsame.1 hkind, hrest]
    · rw [List.filter_cons_of_neg (by simpa using hkind), List.map_cons, hrest]
      simp only [spliceFrom, hnone.1 hkind]

private theorem not_mem_bareTokens {token : Token} {t : Text} (h : token ∈ references t) :
    token ∉ bareTokens t := by
  intro hbare
  have hnodup := (List.nodup_append.mp (nodup_tokens t)).2.2
  exact hnodup token hbare token h rfl

/-- What is written for a token when bare tokens are replaced: a replacement is for bare tokens
alone. -/
def writtenBare (t : Text) (f : Text → Option Text) (token : Token) : Text :=
  if token ∈ bareTokens t then Token.written t (fun token => f token.content) token
  else token.literal t

private theorem rewrite_bare_eq (f : Text → Option Text) (t : Text) :
    rewrite .bare f t = expandFrom t (writtenBare t f) 0 ((scan t).map Prod.snd) := by
  let replacement : Token → Option Text :=
    fun token => if token ∈ bareTokens t then f token.content else none
  have hsame : ∀ entry ∈ scan t, entry.1 = Kind.bare →
      replacement entry.2 = f entry.2.content := by
    rintro ⟨kind, token⟩ hmem rfl
    exact if_pos (mem_tokensOf.mpr hmem)
  have hnone : ∀ entry ∈ scan t, entry.1 ≠ Kind.bare → replacement entry.2 = none := by
    rintro ⟨kind, token⟩ hmem hkind
    have hreference : token ∈ references t := by
      cases kind with
      | bare => exact absurd rfl hkind
      | reference => exact mem_tokensOf.mpr hmem
    exact if_neg (not_mem_bareTokens hreference)
  have hwritten : Token.written t replacement = writtenBare t f := by
    funext token
    unfold Token.written writtenBare
    by_cases hbare : token ∈ bareTokens t
    · simp [replacement, hbare, Token.written]
    · simp [replacement, hbare]
  rw [rewrite, splice, tokensOf, spliceFrom_filter hsame hnone,
    spliceFrom_eq_expandFrom t replacement (inOrder_scan t), hwritten]

end Template

namespace Chain

open Template

private theorem askAll_apply (chain : Chain σ) (contents : List Text) :
    askAll (fun content => chain.apply content) contents = chain.applyAll contents := by
  induction contents with
  | nil => rfl
  | cons content contents ih => rw [askAll, applyAll, ih]

private theorem fillInTurn_apply_eq_resolve (chain : Chain σ) (t : Text) (s : σ) :
    fillInTurn (fun content => chain.apply content) .bare t s = chain.resolve t s := by
  rw [fillInTurn_apply, askAll_apply]
  simp only [resolve, Effect.bind_apply, Effect.pure_apply, List.append_nil]
  rfl

/-- With a record of the trials distinct contents come to the same. The trials are those of each
content in turn, and what is kept for a content is what its trials lead to. -/
private theorem applyAll_noting (chain : Chain σ) {contents : List Text} (hnodup : contents.Nodup)
    (noted : List (Trial σ)) (s : σ) :
    ∃ (trials : Text → List (Trial σ)) (outputs : Text → Option Text),
      applyAll (chain.map Rule.noting) contents (noted, s) =
          ⟨(chain.applyAll contents s).value,
            (noted ++ contents.flatMap trials, (chain.applyAll contents s).state),
            (chain.applyAll contents s).reports⟩ ∧
        (∀ content ∈ contents, Tried chain content (trials content) (outputs content)) ∧
        (chain.applyAll contents s).reports =
          (contents.flatMap trials).filterMap Trial.complaint ∧
        (chain.applyAll contents s).value =
          contents.map fun content => (content, outputs content) := by
  induction contents generalizing noted s with
  | nil => exact ⟨fun _ => [], fun _ => none, by simp [applyAll], by simp, rfl, rfl⟩
  | cons content contents ih =>
    rw [List.nodup_cons] at hnodup
    obtain ⟨first, hrun, htried, hreports⟩ := apply_noting chain content noted s
    obtain ⟨trials, outputs, hruns, htrieds, hreportss, hvalue⟩ :=
      ih hnodup.2 (noted ++ first) (chain.apply content s).state
    have hne : ∀ other ∈ contents, other ≠ content := fun other hmem heq => hnodup.1 (heq ▸ hmem)
    let trials' := Function.update trials content first
    let outputs' := Function.update outputs content (chain.apply content s).value
    have htrials : ∀ other ∈ contents, trials' other = trials other :=
      fun other hmem => Function.update_of_ne (hne other hmem) ..
    have houtputs : ∀ other ∈ contents, outputs' other = outputs other :=
      fun other hmem => Function.update_of_ne (hne other hmem) ..
    have hfirst : trials' content = first := Function.update_self ..
    have houtput : outputs' content = (chain.apply content s).value := Function.update_self ..
    have hflat : contents.flatMap trials' = contents.flatMap trials := List.flatMap_congr htrials
    have htable : contents.map (fun other => (other, outputs' other)) =
        contents.map fun other => (other, outputs other) :=
      List.map_congr_left fun other hmem => by rw [houtputs other hmem]
    refine ⟨trials', outputs', ?_, ?_, ?_, ?_⟩
    · simp only [applyAll, Effect.bind_apply, Effect.pure_apply, hrun, hruns, List.flatMap_cons,
        hflat, hfirst, List.append_assoc]
    · refine List.forall_mem_cons.mpr ⟨?_, fun other hmem => ?_⟩
      · rw [hfirst, houtput]
        exact htried
      · rw [htrials other hmem, houtputs other hmem]
        exact htrieds other hmem
    · simp only [applyAll, Effect.bind_apply, Effect.pure_apply, hreports, hreportss,
        List.flatMap_cons, hflat, hfirst, List.filterMap_append, List.append_nil]
    · simp only [applyAll, Effect.bind_apply, Effect.pure_apply, hvalue, List.map_cons, htable,
        houtput]

/-- The third stage offers the distinct contents of the bare tokens to the chain, each once and in the
order of first occurrence, as it does that goes through the tokens with a memory. The trials are those
of each content in turn, of which there are some if there is a rule at all, and the reports are those on
the rules that failed in them. All tokens of a content get the text that its trials lead to, or stay as
they are, and so do references and all other text. -/
theorem contents_evaluated_once (chain : Chain σ) (t : Text) (s : σ) :
    let resolved := chain.resolve t s
    let offered := contents (bareTokens t)
    offered.Nodup ∧
    fillInTurn (fun content => chain.apply content) .bare t s = resolved ∧
    ∃ (trials : Text → List (Trial σ)) (outputs : Text → Option Text),
      resolve (chain.map Rule.noting) t ([], s) =
          ⟨resolved.value, (offered.flatMap trials, resolved.state), resolved.reports⟩ ∧
        (∀ content ∈ offered, Tried chain content (trials content) (outputs content) ∧
          (chain ≠ [] → trials content ≠ [])) ∧
        resolved.reports = (offered.flatMap trials).filterMap Trial.complaint ∧
        resolved.value = expandFrom t (writtenBare t outputs) 0 ((scan t).map Prod.snd) := by
  have hnodup := nodup_contents (bareTokens t)
  obtain ⟨trials, outputs, hrun, htried, hreports, hvalue⟩ := applyAll_noting chain hnodup [] s
  refine ⟨hnodup, fillInTurn_apply_eq_resolve chain t s, trials, outputs, ?_, fun content hmem =>
    ⟨htried content hmem, (htried content hmem).ne_nil⟩, ?_, ?_⟩
  · simp only [resolve, Effect.bind_apply, Effect.pure_apply, hrun, List.nil_append]
  · simpa only [resolve, Effect.bind_apply, Effect.pure_apply, List.append_nil] using hreports
  · rw [resolve_value, hvalue, ← rewrite_bare_eq]
    exact rewrite_tabled .bare outputs t

/-- A rule that adds a mark for every call made before is called once for a content that occurs
twice. Its output is not scanned again, and a reference is not offered. -/
example :
    let tally : Rule Nat := ⟨"Tally", fun content calls =>
      (.text (openBrace :: content ++ List.replicate calls '#'), calls + 1)⟩
    let resolved := resolve [tally] "\x7ba\x7d@\x7ba\x7d\x7bb\x7d\x7ba\x7d" 1
    resolved.value = "\x7ba#@\x7ba\x7d\x7bb##\x7ba#".toList ∧ resolved.state = 3 := by
  decide +kernel

end Chain

end Phrasebook
