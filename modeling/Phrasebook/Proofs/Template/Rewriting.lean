import Phrasebook.Proofs.Template.Scanning

/-!
Rewriting: all tokens of one kind are replaced by texts that depend on their contents alone. Each of
the three stages is a rewriting, and a rewriting works on the parts of a text independently where no
token crosses the seams between them.
-/

set_option autoImplicit false
set_option relaxedAutoImplicit false

namespace Phrasebook.Template

/-- A text with every token of a kind replaced whose content has a replacement. -/
def rewrite (kind : Kind) (f : Text → Option Text) (t : Text) : Text :=
  splice t (tokensOf kind t) fun token => f token.content

/-- What becomes of one written token when the tokens of a kind are rewritten. -/
def Kind.rewritten (kind : Kind) (f : Text → Option Text) (written : Kind) (content : Text) :
    Text :=
  if written = kind then (f content).getD (written.write content) else written.write content

theorem rewrite_eq_expandFrom (kind : Kind) (f : Text → Option Text) (t : Text) :
    rewrite kind f t =
      expandFrom t (Token.written t fun token => f token.content) 0 (tokensOf kind t) :=
  spliceFrom_eq_expandFrom t _ (inOrder_tokensOf kind t)

theorem rewrite_congr {kind : Kind} {f g : Text → Option Text} {t : Text}
    (h : ∀ content ∈ (tokensOf kind t).map Token.content, f content = g content) :
    rewrite kind f t = rewrite kind g t := by
  rw [rewrite_eq_expandFrom, rewrite_eq_expandFrom]
  refine expandFrom_congr (fun token htoken => ?_) 0
  simp only [Token.written, h token.content (List.mem_map_of_mem htoken)]

private theorem rewrite_of_tokensOf_eq_nil {kind : Kind} {t : Text} (h : tokensOf kind t = [])
    (f : Text → Option Text) : rewrite kind f t = t := by
  simp [rewrite, h, splice, spliceFrom]

theorem rewrite_none (kind : Kind) (t : Text) : rewrite kind (fun _ => none) t = t :=
  splice_none t _

theorem expandFrom_literal (kind : Kind) (t : Text) :
    expandFrom t (fun token => token.literal t) 0 (tokensOf kind t) = t :=
  (rewrite_eq_expandFrom kind (fun _ => none) t).symm.trans (rewrite_none kind t)

theorem rewrite_of_braceFree {kind : Kind} {t : Text} (h : BraceFree t)
    (f : Text → Option Text) : rewrite kind f t = t := by
  apply rewrite_of_tokensOf_eq_nil
  simp [tokensOf, scan, scanFrom_of_braceFree h]

private theorem tokensOf_append {kind : Kind} {s t : Text}
    (h : scan (s ++ t) = scan s ++ (scan t).map (Prod.map id (Token.shift s.length))) :
    tokensOf kind (s ++ t) =
      tokensOf kind s ++ (tokensOf kind t).map (Token.shift s.length) := by
  unfold tokensOf
  rw [h, List.filter_append, List.map_append, List.filter_map, List.map_map, List.map_map]
  rfl

private theorem rewrite_append {kind : Kind} {f : Text → Option Text} {s t : Text}
    (hmark : EndsInMark s → t.head? ≠ some openBrace) (hopen : Closed s ∨ OpensFirst t) :
    rewrite kind f (s ++ t) = rewrite kind f s ++ rewrite kind f t := by
  have horder := inOrder_tokensOf kind s
  simp only [rewrite_eq_expandFrom]
  rw [tokensOf_append (scan_append hmark hopen), expandFrom_append s t _ _ horder]
  congr 1
  · refine expandFrom_congr (fun token htoken => ?_) 0
    simp only [Token.written, Token.literal]
    rw [slice_append_left (horder.stop_le htoken)]
  · refine expandFrom_congr (fun token _ => ?_) 0
    simp only [Token.written, Token.literal, Token.shift_content]
    exact congrArg _ (slice_append_right s t token.start token.stop)

private theorem rewrite_write (kind : Kind) (f : Text → Option Text) (written : Kind) {content : Text}
    (h : BraceFree content) :
    rewrite kind f (written.write content) = kind.rewritten f written content := by
  by_cases hk : written = kind
  · subst hk
    have htokens : tokensOf written (written.write content) =
        [⟨0, (written.write content).length, content⟩] := by
      simp [tokensOf, scan_write written h]
    rw [rewrite_eq_expandFrom, htokens]
    simp [expandFrom, Token.written, Token.literal, Text.slice, Kind.rewritten]
  · rw [Kind.rewritten, if_neg hk]
    apply rewrite_of_tokensOf_eq_nil
    simp [tokensOf, scan_write written h, hk]

/-- A written token is rewritten by itself, and so is what stands before and after it. -/
theorem rewrite_around (kind : Kind) (f : Text → Option Text) {written : Kind}
    {before content : Text} (after : Text) (hfree : BraceFree content)
    (hstands : written.StandsAfter before) :
    rewrite kind f (before ++ written.write content ++ after) =
      rewrite kind f before ++ kind.rewritten f written content ++ rewrite kind f after := by
  rw [List.append_assoc, List.append_assoc,
    rewrite_append (fun hmark => hstands.head hmark content after)
      (Or.inr (written.opensFirst_write content after)),
    rewrite_append (fun hmark => absurd hmark (written.not_endsInMark_write content))
      (Or.inl (written.closed_write content)),
    rewrite_write kind f written hfree]

theorem rewrite_text_append {kind : Kind} {f : Text → Option Text} {t rest : Text}
    (hfree : BraceFree t) (hmark : EndsInMark t → rest.head? ≠ some openBrace) :
    rewrite kind f (t ++ rest) = t ++ rewrite kind f rest := by
  rw [rewrite_append hmark (Or.inl (.of_braceFree hfree)), rewrite_of_braceFree hfree]

theorem rewrite_close_cons (kind : Kind) (f : Text → Option Text) (rest : Text) :
    rewrite kind f (closeBrace :: rest) = closeBrace :: rewrite kind f rest := by
  have hmark : ¬ EndsInMark [closeBrace] := not_endsInMark_close []
  change rewrite kind f ([closeBrace] ++ rest) = [closeBrace] ++ rewrite kind f rest
  rw [rewrite_append (fun h => absurd h hmark) (Or.inl (closed_append_close [])),
    rewrite_of_tokensOf_eq_nil rfl]

theorem rewrite_opener_append (kind : Kind) (f : Text → Option Text) (written : Kind)
    {rest : Text} (h : OpensFirst rest) :
    rewrite kind f (written.opener ++ rest) = written.opener ++ rewrite kind f rest := by
  have hmark : ¬ EndsInMark written.opener := by cases written <;> decide
  have htokens : tokensOf kind written.opener = [] := by cases written <;> rfl
  rw [rewrite_append (fun h => absurd h hmark) (Or.inr h), rewrite_of_tokensOf_eq_nil htokens]

/-! ## Tables of texts by content -/

/-- The replacement that a table of texts by content gives to a token. -/
def tabled (table : List (Text × Option Text)) (content : Text) : Option Text :=
  (table.lookup content).join

theorem mem_contents {tokens : List Token} {content : Text} :
    content ∈ contents tokens ↔ content ∈ tokens.map Token.content := by
  simp [contents]

private theorem lookup_map_self (f : Text → Option Text) {contents : List Text} {content : Text}
    (h : content ∈ contents) :
    (contents.map fun c => (c, f c)).lookup content = some (f content) := by
  induction contents with
  | nil => cases h
  | cons c contents ih =>
    rw [List.map_cons, List.lookup_cons]
    by_cases hc : content = c
    · simp [hc]
    · have hmem : content ∈ contents := (List.mem_cons.mp h).resolve_left hc
      simp [beq_false_of_ne hc, ih hmem]

theorem rewrite_tabled (kind : Kind) (f : Text → Option Text) (t : Text) :
    rewrite kind (tabled ((contents (tokensOf kind t)).map fun c => (c, f c))) t =
      rewrite kind f t := by
  apply rewrite_congr
  intro content hcontent
  simp [tabled, lookup_map_self f (mem_contents.mpr hcontent)]

end Phrasebook.Template
