import Phrasebook.Proofs.Template.Stages
import Phrasebook.Rule.Sample

/-!
What becomes of a bare token that the first stage leaves. Every stage scans the text anew, so that the
character before a brace may have come from a replacement. A token stays bare exactly as long as what
has become of the text before it does not end in a mark.
-/

set_option autoImplicit false
set_option relaxedAutoImplicit false

namespace Phrasebook.Template

def Token.behind (kind : Kind) (before content : Text) : Token :=
  ⟨before.length, (before ++ kind.write content).length, content⟩

private theorem behind_mem_tokensOf_iff {kind : Kind} {before content : Text} (hfree : BraceFree content)
    (after : Text) :
    Token.behind kind before content ∈ tokensOf kind (before ++ kind.write content ++ after) ↔
      kind.StandsAfter before := by
  rw [mem_tokensOf]
  constructor
  · intro hmem
    obtain ⟨pre, post, htext, -, hstands, hstart, -⟩ := written_of_mem_scan hmem
    have hlength : before.length = pre.length := hstart
    have hbefore : before = pre := by
      rw [List.append_assoc, List.append_assoc] at htext
      exact List.append_inj_left htext hlength
    rw [hbefore]
    exact hstands
  · intro hstands
    rw [scan_around hfree hstands]
    exact List.mem_append_right _ List.mem_cons_self

section Stages

variable {σ : Type} (source : Source σ) (request : Request) (template : Text)

/-- What the first stage makes of a template. -/
def filled : Text := (fillPlaceholders request.key request.args template).1

/-- What the second stage makes of that, which is what the rules get. -/
def prepared (s : σ) : Text :=
  (fillReferences source.row request.key request.ids (filled request template) s).value

def filledBefore (token : Token) : Text := filled request (template.take token.start)

/-- What the second stage makes of the text before a token, with the texts that it has found for the
whole. -/
def preparedBefore (token : Token) (s : σ) : Text :=
  rewrite .reference
    (tabled (foundTexts source.row request.key request.ids (filled request template) s))
    (filledBefore request template token)

/-- A bare token is still one where it stands after the first stage and where it stands after the
second. -/
def StaysBare (token : Token) (s : σ) : Prop :=
  Token.behind .bare (filledBefore request template token) token.content ∈
      bareTokens (filled request template) ∧
    Token.behind .bare (preparedBefore source request template token s) token.content ∈
      bareTokens (prepared source request template s)

instance (token : Token) (s : σ) : Decidable (StaysBare source request template token s) :=
  inferInstanceAs (Decidable (_ ∧ _))

end Stages

variable {σ : Type}

theorem render_eq_resolve_prepared (source : Source σ) (chain : Chain σ) (policy : Text)
    (request : Request) (s : σ) :
    (render source chain policy request s).value =
      let fetched := fetch source policy request.key s
      let referred := fillReferences source.row request.key request.ids
        (filled request fetched.value) fetched.state
      (chain.resolve (prepared source request fetched.value fetched.state) referred.state).value :=
  rfl

private theorem StaysBare.mem_contents {source : Source σ} {request : Request} {template : Text}
    {token : Token} {s : σ} (h : StaysBare source request template token s) :
    token.content ∈ contents (bareTokens (prepared source request template s)) :=
  Template.mem_contents.mpr (List.mem_map.mpr ⟨_, h.2, rfl⟩)

/-- A bare token that the first stage leaves stays one exactly if no text ending in a mark has come to
stand before it, and if it does, its content is offered to the rules. -/
theorem staysBare_iff {source : Source σ} {request : Request} {template : Text} {token : Token}
    (htoken : token ∈ bareTokens template)
    (hliteral : argumentText request.args token.content = none) (s : σ) :
    (StaysBare source request template token s ↔
      ¬ EndsInMark (filledBefore request template token) ∧
        ¬ EndsInMark (preparedBefore source request template token s)) ∧
    (StaysBare source request template token s →
      token.content ∈ contents (bareTokens (prepared source request template s))) := by
  refine ⟨?_, StaysBare.mem_contents⟩
  obtain ⟨pre, post, htemplate, hfree, hstands, hstart, -⟩ :=
    written_of_mem_scan (mem_tokensOf.mp htoken)
  have hpre : template.take token.start = pre := by
    rw [htemplate, hstart, List.append_assoc, List.take_left]
  have hbefore : filledBefore request template token =
      rewrite .bare (argumentText request.args) pre := by
    rw [filledBefore, hpre, filled, fillPlaceholders_fst]
  have hfilled : filled request template =
      filledBefore request template token ++ Kind.bare.write token.content ++
        rewrite .bare (argumentText request.args) post := by
    rw [hbefore, filled, fillPlaceholders_fst, htemplate, rewrite_around _ _ _ hfree hstands]
    simp [Kind.rewritten, hliteral]
  have hfirst : Token.behind .bare (filledBefore request template token) token.content ∈
      bareTokens (filled request template) ↔ ¬ EndsInMark (filledBefore request template token) := by
    rw [bareTokens, hfilled, behind_mem_tokensOf_iff hfree]
    simp [Kind.StandsAfter]
  unfold StaysBare
  rw [hfirst]
  -- only a token that is still bare after the first stage is one to the second
  refine and_congr_right fun hunmarked => ?_
  have hprepared : prepared source request template s =
      preparedBefore source request template token s ++ Kind.bare.write token.content ++
        rewrite .reference
          (tabled (foundTexts source.row request.key request.ids (filled request template) s))
          (rewrite .bare (argumentText request.args) post) := by
    rw [prepared, fillReferences_value]
    conv_lhs => rw [hfilled]
    rw [rewrite_around _ _ _ hfree fun _ => hunmarked, ← hfilled]
    simp [Kind.rewritten, preparedBefore]
  rw [bareTokens, hprepared, behind_mem_tokensOf_iff hfree]
  simp [Kind.StandsAfter]

def noRows : Source Unit where
  template := fun _ => pure (.error (.notFound none))
  row := fun _ => pure (.ok none)

def requestWith (t : Text) : Request where
  key := ['k']
  args := some (.ofList [(['a'], .text t)])
  ids := some ∅

theorem staysBare_behind_letter :
    StaysBare noRows (requestWith "m") "\x7ba\x7d\x7bup:x\x7d" ⟨3, 9, "up:x"⟩ () :=
  (staysBare_iff (by decide) (by decide) ()).1.mpr (by decide)

/-- A value that ends in a mark makes a reference of the token after it: no bare token is left, and
the rule that would have changed its content is never asked. -/
theorem not_staysBare_behind_mark :
    ⟨3, 9, "up:x"⟩ ∈ bareTokens "\x7ba\x7d\x7bup:x\x7d" ∧
      argumentText (requestWith "m@").args "up:x" = none ∧
      ¬ StaysBare noRows (requestWith "m@") "\x7ba\x7d\x7bup:x\x7d" ⟨3, 9, "up:x"⟩ () ∧
      contents (bareTokens (prepared noRows (requestWith "m@") "\x7ba\x7d\x7bup:x\x7d" ())) = [] ∧
      Rule.Sample.afterMark Text.upper "up:x" ≠ "up:x".toList := by
  decide

end Phrasebook.Template
