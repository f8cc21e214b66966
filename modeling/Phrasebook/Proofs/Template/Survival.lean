import Phrasebook.Proofs.Template.Grammar
import Phrasebook.Proofs.Template.TokenClass

/-!
References outlive the stages that are not theirs. Whatever texts come into the places of bare tokens,
with braces and marks in them or not, a reference is written in one piece between what becomes of the
text before it and of the text after it, and there it is found again.
-/

set_option autoImplicit false
set_option relaxedAutoImplicit false

namespace Phrasebook.Template

private theorem standsAfter_reference (before : Text) : Kind.reference.StandsAfter before :=
  fun h => nomatch h

private theorem references_around (before after : Text) {content : Text} (hfree : BraceFree content) :
    references (before ++ Kind.reference.write content ++ after) =
      references before ++ Token.behind .reference before content ::
        (references after).map
          (Token.shift (before ++ Kind.reference.write content).length) := by
  unfold references tokensOf
  rw [scan_around hfree (standsAfter_reference before), List.filter_append,
    List.filter_cons_of_pos (by simp), List.map_append, List.map_cons, List.filter_map,
    List.map_map, List.map_map]
  rfl

/-- Where a reference comes to stand when bare tokens are rewritten: behind what becomes of the text
before it. -/
def carried (f : Text → Option Text) (t : Text) (token : Token) : Token :=
  Token.behind .reference (rewrite .bare f (t.take token.start)) token.content

section

variable (f : Text → Option Text) {before content : Text} (after : Text)

private theorem rewrite_bare_around (before : Text) (hfree : BraceFree content) :
    rewrite .bare f (before ++ Kind.reference.write content ++ after) =
      rewrite .bare f before ++ Kind.reference.write content ++ rewrite .bare f after := by
  rw [rewrite_around .bare f after hfree (standsAfter_reference before)]
  simp [Kind.rewritten]

private theorem carried_before {token : Token} (hmem : token ∈ references before) (rest : Text) :
    carried f (before ++ rest) token = carried f before token := by
  have hwithin := within_of_mem_scan (mem_tokensOf.mp hmem)
  have hstart : token.start ≤ before.length := by omega
  rw [carried, carried, List.take_append_of_le_length hstart]

private theorem carried_behind (rest : Text) :
    carried f (before ++ rest) (Token.behind .reference before content) =
      Token.behind .reference (rewrite .bare f before) content := by
  have htake : (before ++ rest).take before.length = before := List.take_left
  simp only [carried, Token.behind, htake]

private theorem carried_after (hfree : BraceFree content) (token : Token) :
    carried f (before ++ Kind.reference.write content ++ after)
        (token.shift (before ++ Kind.reference.write content).length) =
      (carried f after token).shift
        (rewrite .bare f before ++ Kind.reference.write content).length := by
  have htake : (before ++ Kind.reference.write content ++ after).take
        (token.shift (before ++ Kind.reference.write content).length).start =
      before ++ Kind.reference.write content ++ after.take token.start := by
    rw [Token.shift, Nat.add_comm, List.take_length_add_append]
  rw [carried, htake, rewrite_bare_around f _ before hfree]
  simp only [carried, Token.shift, Token.behind, List.length_append, Token.mk.injEq, and_true]
  constructor <;> omega

private theorem map_carried_around (before : Text) (hfree : BraceFree content) :
    (references (before ++ Kind.reference.write content ++ after)).map
        (carried f (before ++ Kind.reference.write content ++ after)) =
      (references before).map (carried f before) ++
        Token.behind .reference (rewrite .bare f before) content ::
          ((references after).map (carried f after)).map
            (Token.shift (rewrite .bare f before ++ Kind.reference.write content).length) := by
  have hleft : (references before).map
        (carried f (before ++ Kind.reference.write content ++ after)) =
      (references before).map (carried f before) := by
    refine List.map_congr_left fun token hmem => ?_
    rw [List.append_assoc, carried_before f hmem]
  have hhere : carried f (before ++ Kind.reference.write content ++ after)
        (Token.behind .reference before content) =
      Token.behind .reference (rewrite .bare f before) content := by
    rw [List.append_assoc, carried_behind]
  rw [references_around before after hfree, List.map_append, List.map_cons, hleft, hhere,
    List.map_map, List.map_map]
  simp only [Function.comp_def, carried_after f after hfree]

end

private theorem references_carried (f : Text → Option Text) (t : Text) :
    ((references t).map (carried f t)).Sublist (references (rewrite .bare f t)) := by
  -- the text is cut at any one of its references; what is before and after it is shorter
  induction hlength : t.length using Nat.strongRecOn generalizing t with
  | ind n ih =>
    by_cases hnone : references t = []
    · rw [hnone]
      exact List.nil_sublist _
    · obtain ⟨token, hmem⟩ := List.exists_mem_of_ne_nil _ hnone
      obtain ⟨before, after, rfl, hfree, -⟩ := written_of_mem_scan (mem_tokensOf.mp hmem)
      have hwritten : 0 < (Kind.reference.write token.content).length := by
        simp only [Kind.write, List.length_append, List.length_singleton]
        omega
      simp only [List.length_append] at hlength
      have hbefore := ih before.length (by omega) before rfl
      have hafter := ih after.length (by omega) after rfl
      rw [map_carried_around f after before hfree, rewrite_bare_around f after before hfree,
        references_around _ _ hfree]
      exact hbefore.append ((hafter.map _).cons_cons _)

def referenceContents (t : Text) : List Text := (references t).map Token.content

private theorem referenceContents_sublist_rewrite (f : Text → Option Text) (t : Text) :
    (referenceContents t).Sublist (referenceContents (rewrite .bare f t)) := by
  have h := (references_carried f t).map Token.content
  rwa [List.map_map] at h

variable {σ : Type}

/-- The first and the third stage keep every reference: whatever the texts of the arguments, by
whatever conversion, and whatever the rules make of contents, the references of the text are among
those of what comes out, in their order. -/
theorem references_survive (key t : Text) (args : Option Arguments) (chain : Chain σ) (s : σ) :
    (referenceContents t).Sublist (referenceContents (fillPlaceholders key args t).1) ∧
      (∀ convert : Conversion σ,
        (referenceContents t).Sublist
          (referenceContents (fillConverting convert key args t s).value)) ∧
      (referenceContents t).Sublist (referenceContents (chain.resolve t s).value) := by
  refine ⟨?_, fun convert => ?_, ?_⟩
  · rw [fillPlaceholders_fst]
    exact referenceContents_sublist_rewrite _ t
  · cases args with
    | none => rw [fillConverting_of_none]
    | some args =>
      rw [fillConverting_of_some, fillAtOnce_fst]
      exact referenceContents_sublist_rewrite _ t
  · rw [Chain.resolve_value]
    exact referenceContents_sublist_rewrite _ t

/-- Values with braces and marks stand at both sides of a reference, and bring another one. -/
example :
    let args : Arguments := .ofList [("a".toList, .text "@\x7bx\x7d\x7b@".toList)]
    referenceContents (fillPlaceholders "k" (some args) "\x7ba\x7d@\x7bb\x7d\x7ba\x7d").1 =
      ["x".toList, "b".toList, "x".toList] := by
  rfl

end Phrasebook.Template
