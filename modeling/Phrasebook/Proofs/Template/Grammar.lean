import Mathlib.Data.List.Nodup
import Mathlib.Data.List.Pairwise
import Phrasebook.Proofs.Template.Scanning

/-!
The grammar of tokens, said by positions: every pair of braces without a brace between them is one
token, which is a reference if a mark stands before it, and there are no others.
-/

set_option autoImplicit false
set_option relaxedAutoImplicit false

namespace Phrasebook.Template

/-- Positions of an opening and a closing brace, with no brace of either kind between them. -/
structure IsPair (t : Text) (opener closer : Nat) : Prop where
  lt : opener < closer
  opens : t[opener]? = some openBrace
  closes : t[closer]? = some closeBrace
  innermost : ∀ i, opener < i → i < closer → t[i]? ≠ some openBrace ∧ t[i]? ≠ some closeBrace

/-- The character before a position is the mark of a reference. -/
def Marked (t : Text) (position : Nat) : Prop :=
  0 < position ∧ t[position - 1]? = some referenceMark

instance (t : Text) (position : Nat) : Decidable (Marked t position) :=
  inferInstanceAs (Decidable (_ ∧ _))

def kindAt (t : Text) (opener : Nat) : Kind := if Marked t opener then .reference else .bare

private theorem reference_eq_kindAt_iff {t : Text} {opener : Nat} :
    Kind.reference = kindAt t opener ↔ Marked t opener := by
  by_cases h : Marked t opener <;> simp [kindAt, h]

private theorem bare_eq_kindAt_iff {t : Text} {opener : Nat} :
    Kind.bare = kindAt t opener ↔ ¬ Marked t opener := by
  by_cases h : Marked t opener <;> simp [kindAt, h]

/-- The token that a pair of braces stands for. -/
def tokenAt (t : Text) (opener closer : Nat) : Token where
  start := if Marked t opener then opener - 1 else opener
  stop := closer + 1
  content := t.slice (opener + 1) closer

/-- What a token of a kind has before its opening brace. -/
def Kind.lead : Kind → Text
  | bare => []
  | reference => [referenceMark]

private theorem Kind.write_eq (kind : Kind) (content : Text) :
    kind.write content = kind.lead ++ openBrace :: (content ++ [closeBrace]) := by
  cases kind <;> rfl

private theorem Kind.StandsAfter.endsInMark_iff {kind : Kind} {pre : Text} (h : kind.StandsAfter pre) :
    EndsInMark (pre ++ kind.lead) ↔ kind = .reference := by
  cases kind with
  | bare => simpa [lead] using h rfl
  | reference => simp [lead, EndsInMark]

private theorem exists_lead (before : Text) :
    ∃ (kind : Kind) (pre : Text), before = pre ++ kind.lead ∧ kind.StandsAfter pre := by
  by_cases hmark : EndsInMark before
  · refine ⟨.reference, before.dropLast, ?_, fun h => nomatch h⟩
    exact (List.dropLast_append_getLast? _ hmark).symm
  · exact ⟨.bare, before, (List.append_nil before).symm, fun _ => hmark⟩

section Around

variable {before content after : Text}

private theorem getElem?_between {i : Nat} (hlt : before.length < i)
    (hle : i ≤ before.length + content.length) :
    (before ++ openBrace :: (content ++ closeBrace :: after))[i]? =
      content[i - before.length - 1]? := by
  rw [List.getElem?_append_right (Nat.le_of_lt hlt)]
  obtain ⟨j, hj⟩ : ∃ j, i - before.length = j + 1 := ⟨i - before.length - 1, by omega⟩
  rw [hj, List.getElem?_cons_succ, List.getElem?_append_left (by omega), Nat.add_sub_cancel]

private theorem isPair_around (hfree : BraceFree content) :
    IsPair (before ++ openBrace :: (content ++ closeBrace :: after)) before.length
      (before.length + content.length + 1) where
  lt := by omega
  opens := by simp
  closes := by
    have hsplit : before ++ openBrace :: (content ++ closeBrace :: after) =
        (before ++ openBrace :: content) ++ closeBrace :: after := by simp
    have hlength : before.length + content.length + 1 = (before ++ openBrace :: content).length := by
      simp only [List.length_append, List.length_cons]
      omega
    rw [hsplit, hlength]
    simp
  innermost i hlt hle := by
    rw [getElem?_between hlt (by omega)]
    exact ⟨fun h => hfree.1 (List.mem_of_getElem? h), fun h => hfree.2 (List.mem_of_getElem? h)⟩

private theorem exists_cut {t : Text} {i : Nat} {c : Char} (h : t[i]? = some c) :
    ∃ before after, t = before ++ c :: after ∧ before.length = i := by
  obtain ⟨hlt, hc⟩ := List.getElem?_eq_some_iff.mp h
  refine ⟨t.take i, t.drop (i + 1), ?_, List.length_take_of_le (Nat.le_of_lt hlt)⟩
  rw [← hc, List.getElem_cons_drop, List.take_append_drop]

private theorem IsPair.exists_around {t : Text} {opener closer : Nat} (h : IsPair t opener closer) :
    ∃ before content after : Text,
      t = before ++ openBrace :: (content ++ closeBrace :: after) ∧ BraceFree content ∧
        opener = before.length ∧ closer = before.length + content.length + 1 := by
  obtain ⟨before, rest, rfl, rfl⟩ := exists_cut h.opens
  have hlt := h.lt
  have hcloses : rest[closer - before.length - 1]? = some closeBrace := by
    have hcloses := h.closes
    rw [List.getElem?_append_right (Nat.le_of_lt hlt)] at hcloses
    obtain ⟨j, hj⟩ : ∃ j, closer - before.length = j + 1 := ⟨closer - before.length - 1, by omega⟩
    rw [hj, List.getElem?_cons_succ] at hcloses
    rw [hj, Nat.add_sub_cancel]
    exact hcloses
  obtain ⟨content, after, rfl, hlength⟩ := exists_cut hcloses
  have hinner : ∀ c ∈ content, c ≠ openBrace ∧ c ≠ closeBrace := by
    intro c hc
    obtain ⟨j, hj⟩ := List.mem_iff_getElem?.mp hc
    have hbound : j < content.length := (List.getElem?_eq_some_iff.mp hj).1
    obtain ⟨hopen, hclose⟩ := h.innermost (before.length + j + 1) (by omega) (by omega)
    have hsame : before.length + j + 1 - before.length - 1 = j := by omega
    rw [getElem?_between (by omega) (by omega), hsame, hj] at hopen hclose
    exact ⟨fun heq => hopen (congrArg some heq), fun heq => hclose (congrArg some heq)⟩
  exact ⟨before, content, after, rfl,
    ⟨fun hmem => (hinner _ hmem).1 rfl, fun hmem => (hinner _ hmem).2 rfl⟩, rfl, by omega⟩

private theorem marked_around (rest : Text) : Marked (before ++ rest) before.length ↔ EndsInMark before := by
  rcases List.eq_nil_or_concat before with rfl | ⟨pre, c, rfl⟩
  · simp [Marked]
  · simp [Marked, EndsInMark]

end Around

private theorem kindAt_around {kind : Kind} {pre : Text} (h : kind.StandsAfter pre) (rest : Text) :
    kindAt (pre ++ kind.lead ++ rest) (pre ++ kind.lead).length = kind := by
  have hmarked := (marked_around rest).trans h.endsInMark_iff
  cases kind <;> simpa [kindAt] using hmarked

private theorem tokenAt_around {kind : Kind} {pre : Text} (h : kind.StandsAfter pre)
    (content after : Text) :
    tokenAt (pre ++ kind.lead ++ openBrace :: (content ++ closeBrace :: after))
        (pre ++ kind.lead).length ((pre ++ kind.lead).length + content.length + 1) =
      ⟨pre.length, (pre ++ kind.write content).length, content⟩ := by
  have hmarked := (marked_around (openBrace :: (content ++ closeBrace :: after))).trans
    h.endsInMark_iff
  have hcontent : Text.slice (pre ++ kind.lead ++ openBrace :: (content ++ closeBrace :: after))
      ((pre ++ kind.lead).length + 1) ((pre ++ kind.lead).length + content.length + 1) = content := by
    let head : Text := pre ++ kind.lead ++ [openBrace]
    have hsplit : pre ++ kind.lead ++ openBrace :: (content ++ closeBrace :: after) =
        head ++ (content ++ closeBrace :: after) := by simp [head]
    have hstart : (pre ++ kind.lead).length + 1 = 0 + head.length := by
      simp only [head, List.length_append, List.length_cons, List.length_nil]
      omega
    have hstop : (pre ++ kind.lead).length + content.length + 1 = content.length + head.length := by
      simp only [head, List.length_append, List.length_cons, List.length_nil]
      omega
    rw [hsplit, hstart, hstop, slice_append_right]
    simp [Text.slice]
  have hstop : (pre ++ kind.lead).length + content.length + 1 + 1 =
      (pre ++ kind.write content).length := by
    simp only [kind.write_eq, List.length_append, List.length_cons, List.length_nil]
    omega
  rw [tokenAt, hcontent, hstop]
  cases kind with
  | bare =>
    have hunmarked := hmarked.not.mpr (by decide)
    rw [if_neg hunmarked]
    simp [Kind.lead]
  | reference =>
    rw [if_pos (hmarked.mpr rfl)]
    simp [Kind.lead]

private theorem IsPair.inj {t : Text} {opener closer opener' closer' : Nat} (h : IsPair t opener closer)
    (h' : IsPair t opener' closer') (htoken : tokenAt t opener closer = tokenAt t opener' closer') :
    opener = opener' ∧ closer = closer' := by
  obtain rfl : closer = closer' := Nat.succ.inj (congrArg Token.stop htoken)
  refine ⟨?_, rfl⟩
  rcases Nat.lt_trichotomy opener opener' with hlt | heq | hlt
  · exact absurd h'.opens (h.innermost opener' hlt h'.lt).1
  · exact heq
  · exact absurd h.opens (h'.innermost opener hlt h.lt).1

private theorem mem_scan_iff {kind : Kind} {token : Token} {t : Text} :
    (kind, token) ∈ scan t ↔ ∃ opener closer, IsPair t opener closer ∧
      kind = kindAt t opener ∧ token = tokenAt t opener closer := by
  constructor
  · intro hmem
    obtain ⟨pre, after, rfl, hfree, hstands, hstart, hstop⟩ := written_of_mem_scan hmem
    obtain ⟨start, stop, content⟩ := token
    obtain rfl : start = pre.length := hstart
    obtain rfl : stop = (pre ++ kind.write content).length := hstop
    have hcut : pre ++ kind.write content ++ after =
        pre ++ kind.lead ++ openBrace :: (content ++ closeBrace :: after) := by
      simp [kind.write_eq]
    rw [hcut]
    exact ⟨_, _, isPair_around hfree, (kindAt_around hstands _).symm,
      (tokenAt_around hstands content after).symm⟩
  · rintro ⟨opener, closer, hpair, rfl, rfl⟩
    obtain ⟨before, content, after, rfl, hfree, rfl, rfl⟩ := hpair.exists_around
    obtain ⟨kind, pre, rfl, hstands⟩ := exists_lead before
    rw [kindAt_around hstands, tokenAt_around hstands]
    have hcut : pre ++ kind.lead ++ openBrace :: (content ++ closeBrace :: after) =
        pre ++ kind.write content ++ after := by
      simp [kind.write_eq]
    rw [hcut, scan_around hfree hstands]
    exact List.mem_append_right _ List.mem_cons_self

private theorem IsPair.mem_tokensOf_iff {t : Text} {opener closer : Nat} (h : IsPair t opener closer)
    (kind : Kind) : tokenAt t opener closer ∈ tokensOf kind t ↔ kind = kindAt t opener := by
  rw [mem_tokensOf, mem_scan_iff]
  constructor
  · rintro ⟨opener', closer', hpair, rfl, htoken⟩
    rw [(h.inj hpair htoken).1]
  · rintro rfl
    exact ⟨opener, closer, h, rfl, rfl⟩

/-- One of two tokens ends before the other begins. -/
def Token.Apart (a b : Token) : Prop := a.stop ≤ b.start ∨ b.stop ≤ a.start

instance : Std.Symm Token.Apart := ⟨fun _ _ => Or.symm⟩

theorem within_of_mem_scan {kind : Kind} {token : Token} {t : Text} (h : (kind, token) ∈ scan t) :
    token.start < token.stop ∧ token.stop ≤ t.length := by
  obtain ⟨pre, after, rfl, -, -, hstart, hstop⟩ := written_of_mem_scan h
  rw [hstart, hstop, kind.write_eq]
  simp only [List.length_append, List.length_cons, List.length_nil]
  omega

private theorem scan_pairwise_apart (t : Text) : (scan t).Pairwise fun a b => a.2.Apart b.2 :=
  (List.pairwise_map.mp (inOrder_scan t).pairwise).imp Or.inl

/-- The tokens of a text, bare ones and references apart, as the grammar has them. -/
structure Grammatical (t : Text) (bare references : List Token) : Prop where
  /-- Every pair of braces is one token. -/
  once : ∀ {opener closer}, IsPair t opener closer →
    (bare ++ references).count (tokenAt t opener closer) = 1
  /-- Every token is one pair of braces. -/
  only : ∀ {token}, token ∈ bare ++ references →
    ∃! pair : Nat × Nat, IsPair t pair.1 pair.2 ∧ tokenAt t pair.1 pair.2 = token
  reference_iff : ∀ {opener closer}, IsPair t opener closer →
    (tokenAt t opener closer ∈ references ↔ Marked t opener)
  bare_iff : ∀ {opener closer}, IsPair t opener closer →
    (tokenAt t opener closer ∈ bare ↔ ¬ Marked t opener)
  bare_increasing : bare.Pairwise fun a b => a.start < b.start
  references_increasing : references.Pairwise fun a b => a.start < b.start
  apart : (bare ++ references).Pairwise Token.Apart
  within : ∀ {token}, token ∈ bare ++ references →
    token.start < token.stop ∧ token.stop ≤ t.length

private theorem mem_bareTokens_append_references {token : Token} {t : Text} :
    token ∈ bareTokens t ++ references t ↔ ∃ kind, (kind, token) ∈ scan t := by
  rw [List.mem_append, bareTokens, references, mem_tokensOf, mem_tokensOf]
  constructor
  · rintro (h | h)
    · exact ⟨_, h⟩
    · exact ⟨_, h⟩
  · rintro ⟨kind, h⟩
    cases kind with
    | bare => exact Or.inl h
    | reference => exact Or.inr h

private theorem pairwise_apart (t : Text) : (bareTokens t ++ references t).Pairwise Token.Apart := by
  have hsame : ∀ kind, (tokensOf kind t).Pairwise Token.Apart := fun kind =>
    ((inOrder_tokensOf kind t).pairwise).imp Or.inl
  refine List.pairwise_append.mpr ⟨hsame .bare, hsame .reference, ?_⟩
  intro a ha b hb
  have hne : (Kind.bare, a) ≠ (Kind.reference, b) := by simp
  exact (scan_pairwise_apart t).forall (mem_tokensOf.mp ha) (mem_tokensOf.mp hb) hne

theorem nodup_tokens (t : Text) : (bareTokens t ++ references t).Nodup := by
  refine (pairwise_apart t).imp_of_mem ?_
  rintro a b ha - hapart rfl
  obtain ⟨kind, hscan⟩ := mem_bareTokens_append_references.mp ha
  have hlt := (within_of_mem_scan hscan).1
  rcases hapart with hle | hle <;> omega

private theorem tokensOf_increasing (kind : Kind) (t : Text) :
    (tokensOf kind t).Pairwise fun a b => a.start < b.start := by
  refine (inOrder_tokensOf kind t).pairwise.imp_of_mem ?_
  intro a b ha _ hle
  exact Nat.lt_of_lt_of_le (within_of_mem_scan (mem_tokensOf.mp ha)).1 hle

/-- The scanners take the tokens of the grammar out of every text. -/
theorem grammatical_scanners (t : Text) : Grammatical t (bareTokens t) (references t) where
  once h := by
    refine List.count_eq_one_of_mem (nodup_tokens t) ?_
    exact mem_bareTokens_append_references.mpr ⟨_, mem_scan_iff.mpr ⟨_, _, h, rfl, rfl⟩⟩
  only hmem := by
    obtain ⟨kind, hscan⟩ := mem_bareTokens_append_references.mp hmem
    obtain ⟨opener, closer, hpair, -, rfl⟩ := mem_scan_iff.mp hscan
    refine ⟨(opener, closer), ⟨hpair, rfl⟩, ?_⟩
    rintro ⟨opener', closer'⟩ ⟨hpair', htoken⟩
    obtain ⟨rfl, rfl⟩ := hpair'.inj hpair htoken
    rfl
  reference_iff h := (h.mem_tokensOf_iff .reference).trans reference_eq_kindAt_iff
  bare_iff h := (h.mem_tokensOf_iff .bare).trans bare_eq_kindAt_iff
  bare_increasing := tokensOf_increasing .bare t
  references_increasing := tokensOf_increasing .reference t
  apart := pairwise_apart t
  within hmem := by
    obtain ⟨kind, hscan⟩ := mem_bareTokens_append_references.mp hmem
    exact within_of_mem_scan hscan

end Phrasebook.Template
