import Mathlib.Tactic.Tauto
import Phrasebook.Proofs.Template.Splicing

/-!
Scanning a concatenation. Where no token runs across the seam and no mark stands before it, the
tokens of two texts put together are the tokens of the first and, moved on, those of the second.
-/

set_option autoImplicit false
set_option relaxedAutoImplicit false

namespace Phrasebook.Template

def BraceFree (t : Text) : Prop := openBrace ∉ t ∧ closeBrace ∉ t

/-- A text ends in the mark that makes a reference of the token after it. -/
def EndsInMark (t : Text) : Prop := t.getLast? = some referenceMark

/-- What a token of a kind begins with. -/
def Kind.opener : Kind → Text
  | bare => [openBrace]
  | reference => [referenceMark, openBrace]

def Kind.write (kind : Kind) (content : Text) : Text := kind.opener ++ content ++ [closeBrace]

/-- No closing brace comes before the first opening one. -/
def OpensFirst : Text → Prop
  | [] => True
  | c :: rest => c = openBrace ∨ (c ≠ closeBrace ∧ OpensFirst rest)

/-- The brace that is still open after a text. -/
def openingAfter (position : Nat) (previous : Option Char) (opening : Option Opening) :
    Text → Option Opening
  | [] => opening
  | c :: rest =>
    if c = openBrace then
      openingAfter (position + 1) (some c) (some (Opening.after previous position)) rest
    else if c = closeBrace then openingAfter (position + 1) (some c) none rest
    else openingAfter (position + 1) (some c) (opening.map (·.push c)) rest

def Closed (t : Text) : Prop := openingAfter 0 none none t = none

def Opening.shift (before : Nat) (opening : Opening) : Opening :=
  { opening with start := opening.start + before }

instance (t : Text) : Decidable (BraceFree t) := inferInstanceAs (Decidable (_ ∧ _))

instance (t : Text) : Decidable (EndsInMark t) := inferInstanceAs (Decidable (_ = _))

@[simp] theorem braceFree_nil : BraceFree [] := by simp [BraceFree]

theorem braceFree_cons {c : Char} {t : Text} :
    BraceFree (c :: t) ↔ c ≠ openBrace ∧ c ≠ closeBrace ∧ BraceFree t := by
  simp only [BraceFree, List.mem_cons, not_or]
  constructor
  · rintro ⟨⟨h1, h2⟩, h3, h4⟩
    exact ⟨fun h => h1 h.symm, fun h => h3 h.symm, h2, h4⟩
  · rintro ⟨h1, h2, h3, h4⟩
    exact ⟨⟨fun h => h1 h.symm, h3⟩, fun h => h2 h.symm, h4⟩

theorem braceFree_append {s t : Text} : BraceFree (s ++ t) ↔ BraceFree s ∧ BraceFree t := by
  simp only [BraceFree, List.mem_append, not_or]
  tauto

@[simp] theorem endsInMark_nil : ¬ EndsInMark [] := by simp [EndsInMark]

theorem endsInMark_append {s t : Text} :
    EndsInMark (s ++ t) ↔ if t = [] then EndsInMark s else EndsInMark t := by
  unfold EndsInMark
  rcases List.eq_nil_or_concat t with rfl | ⟨u, c, rfl⟩
  · simp
  · simp

theorem not_endsInMark_close (t : Text) : ¬ EndsInMark (t ++ [closeBrace]) := by
  simp [EndsInMark, closeBrace, referenceMark]

theorem opensFirst_append {s t : Text} (hs : BraceFree s) (ht : OpensFirst t) :
    OpensFirst (s ++ t) := by
  induction s with
  | nil => exact ht
  | cons c s ih =>
    rw [braceFree_cons] at hs
    exact Or.inr ⟨hs.2.1, ih hs.2.2⟩

private theorem scanFrom_of_opensFirst {t : Text} (h : OpensFirst t) (position : Nat)
    (previous : Option Char) (opening : Option Opening) :
    scanFrom position previous opening t = scanFrom position previous none t := by
  induction t generalizing position previous opening with
  | nil => rfl
  | cons c t ih =>
    simp only [scanFrom]
    by_cases ho : c = openBrace
    · simp [ho]
    · obtain ⟨hc, ht⟩ := h.resolve_left ho
      simp only [ho, hc, if_false]
      rw [ih ht, Option.map_none]

private theorem scanFrom_of_unmarked {t : Text} {previous : Option Char}
    (h : previous = some referenceMark → t.head? ≠ some openBrace) (position : Nat)
    (opening : Option Opening) :
    scanFrom position previous opening t = scanFrom position none opening t := by
  cases t with
  | nil => rfl
  | cons c t =>
    by_cases ho : c = openBrace
    · have hp : previous ≠ some referenceMark := fun hp => h hp (by simp [ho])
      simp [scanFrom, ho, Opening.after, hp]
    · simp [scanFrom, ho]

private theorem getLast?_cons_or (c : Char) (t : Text) (previous : Option Char) :
    (c :: t).getLast?.or previous = t.getLast?.or (some c) := by
  cases h : t.getLast? <;> simp [List.getLast?_cons, h]

private theorem scanFrom_append (s t : Text) (position : Nat) (previous : Option Char)
    (opening : Option Opening) :
    scanFrom position previous opening (s ++ t) =
      scanFrom position previous opening s ++
        scanFrom (position + s.length) (s.getLast?.or previous)
          (openingAfter position previous opening s) t := by
  induction s generalizing position previous opening with
  | nil => simp [scanFrom, openingAfter]
  | cons c s ih =>
    have hlength : position + (c :: s).length = position + 1 + s.length := by
      simp only [List.length_cons]
      omega
    rw [List.cons_append, hlength, getLast?_cons_or]
    simp only [scanFrom, openingAfter]
    by_cases ho : c = openBrace
    · simp only [ho, if_true]
      rw [ih]
    · by_cases hc : c = closeBrace
      · have hne : closeBrace ≠ openBrace := by decide
        simp only [hc, hne, if_true, if_false]
        rw [ih, List.append_assoc]
      · simp only [ho, hc, if_false]
        rw [ih]

private theorem Opening.shift_after {previous : Option Char} {position : Nat}
    (h : previous = some referenceMark → 0 < position) (before : Nat) :
    Opening.after previous (position + before) =
      (Opening.after previous position).shift before := by
  unfold Opening.after
  by_cases hp : previous = some referenceMark
  · have hpos := h hp
    simp only [hp, if_true, Opening.shift]
    congr 1
    omega
  · simp only [hp, if_false, Opening.shift]

private theorem scanFrom_shift (before : Nat) (t : Text) (position : Nat) (previous : Option Char)
    (opening : Option Opening) (h : previous = some referenceMark → 0 < position) :
    scanFrom (position + before) previous (opening.map (Opening.shift before)) t =
      (scanFrom position previous opening t).map (Prod.map id (Token.shift before)) := by
  induction t generalizing position previous opening with
  | nil => rfl
  | cons c t ih =>
    have hnext : position + before + 1 = position + 1 + before := by omega
    simp only [scanFrom]
    by_cases ho : c = openBrace
    · simp only [ho, if_true]
      rw [Opening.shift_after h, hnext]
      exact ih (position + 1) (some openBrace) (some (Opening.after previous position))
        (fun _ => Nat.succ_pos _)
    · by_cases hc : c = closeBrace
      · have hne : closeBrace ≠ openBrace := by decide
        simp only [hc, hne, if_true, if_false, List.map_append]
        rw [hnext, ← ih (position + 1) (some closeBrace) none (fun _ => Nat.succ_pos _)]
        cases opening with
        | none => rfl
        | some o =>
          simp [Opening.close, Opening.shift, Token.shift]
          omega
      · simp only [ho, hc, if_false]
        rw [hnext, ← ih (position + 1) (some c) _ (fun _ => Nat.succ_pos _)]
        cases opening <;> rfl

private theorem openingAfter_append_close (t : Text) (position : Nat) (previous : Option Char)
    (opening : Option Opening) :
    openingAfter position previous opening (t ++ [closeBrace]) = none := by
  induction t generalizing position previous opening with
  | nil =>
    have hne : closeBrace ≠ openBrace := by decide
    simp [openingAfter, hne]
  | cons c t ih =>
    simp only [List.cons_append, openingAfter]
    split
    · exact ih _ _ _
    · split
      · exact ih _ _ _
      · exact ih _ _ _

theorem closed_append_close (t : Text) : Closed (t ++ [closeBrace]) :=
  openingAfter_append_close t 0 none none

theorem Closed.of_braceFree {t : Text} (h : BraceFree t) : Closed t := by
  have general : ∀ position previous, openingAfter position previous none t = none := by
    induction t with
    | nil => exact fun _ _ => rfl
    | cons c t ih =>
      rw [braceFree_cons] at h
      intro position previous
      simp only [openingAfter, h.1, h.2.1, if_false, Option.map_none]
      exact ih h.2.2 _ _
  exact general 0 none

theorem scanFrom_of_braceFree {t : Text} (h : BraceFree t) (position : Nat)
    (previous : Option Char) (opening : Option Opening) :
    scanFrom position previous opening t = [] := by
  induction t generalizing position previous opening with
  | nil => rfl
  | cons c t ih =>
    rw [braceFree_cons] at h
    simp only [scanFrom, h.1, h.2.1, if_false]
    exact ih h.2.2 _ _ _

private theorem scanFrom_token {content : Text} (h : BraceFree content) (position : Nat)
    (previous : Option Char) (opening : Opening) :
    scanFrom position previous (some opening) (content ++ [closeBrace]) =
      [(opening.kind,
        ⟨opening.start, position + content.length + 1, opening.reversed.reverse ++ content⟩)] := by
  induction content generalizing position previous opening with
  | nil =>
    have hne : closeBrace ≠ openBrace := by decide
    simp [scanFrom, hne, Opening.close]
  | cons c content ih =>
    rw [braceFree_cons] at h
    simp only [List.cons_append, scanFrom, h.1, h.2.1, if_false, Option.map_some]
    rw [ih h.2.2]
    simp only [Opening.push, List.reverse_cons, List.append_assoc, List.length_cons,
      List.singleton_append]
    congr 3
    omega

theorem scan_write (kind : Kind) {content : Text} (h : BraceFree content) :
    scan (kind.write content) = [(kind, ⟨0, (kind.write content).length, content⟩)] := by
  cases kind with
  | bare =>
    simp only [scan, Kind.write, Kind.opener, List.cons_append, List.nil_append, scanFrom, if_true]
    rw [scanFrom_token h]
    simp only [Opening.after, reduceCtorEq, if_false, List.reverse_nil, List.nil_append,
      List.length_cons, List.length_append, List.length_nil]
    congr 3
    omega
  | reference =>
    have hopen : referenceMark ≠ openBrace := by decide
    have hclose : referenceMark ≠ closeBrace := by decide
    simp only [scan, Kind.write, Kind.opener, List.cons_append, List.nil_append, scanFrom, hopen,
      hclose, if_true, if_false]
    rw [scanFrom_token h]
    simp only [Opening.after, if_true, List.reverse_nil, List.nil_append, List.length_cons,
      List.length_append, List.length_nil]
    congr 3
    omega

/-- The tokens of a concatenation whose seam no token can cross. -/
theorem scan_append {s t : Text} (hmark : EndsInMark s → t.head? ≠ some openBrace)
    (hopen : Closed s ∨ OpensFirst t) :
    scan (s ++ t) = scan s ++ (scan t).map (Prod.map id (Token.shift s.length)) := by
  have hrest : scanFrom (0 + s.length) (s.getLast?.or none) (openingAfter 0 none none s) t =
      scanFrom (0 + s.length) none none t := by
    rw [scanFrom_of_unmarked (by simpa [EndsInMark] using hmark)]
    rcases hopen with hclosed | hfirst
    · rw [hclosed]
    · rw [scanFrom_of_opensFirst hfirst]
  unfold scan
  rw [scanFrom_append, hrest, ← scanFrom_shift s.length t 0 none none (by simp)]
  rfl

/-- A token of a kind can only stand where no mark makes a reference of it. -/
def Kind.StandsAfter (kind : Kind) (before : Text) : Prop := kind = .bare → ¬ EndsInMark before

instance (kind : Kind) (before : Text) : Decidable (kind.StandsAfter before) :=
  inferInstanceAs (Decidable (_ → _))

theorem Kind.opensFirst_write (kind : Kind) (content rest : Text) :
    OpensFirst (kind.write content ++ rest) := by
  cases kind with
  | bare => exact Or.inl rfl
  | reference => exact Or.inr ⟨by decide, Or.inl rfl⟩

theorem Kind.closed_write (kind : Kind) (content : Text) : Closed (kind.write content) :=
  closed_append_close _

theorem Kind.not_endsInMark_write (kind : Kind) (content : Text) :
    ¬ EndsInMark (kind.write content) :=
  not_endsInMark_close _

theorem Kind.StandsAfter.head {kind : Kind} {before : Text} (h : kind.StandsAfter before)
    (hmark : EndsInMark before) (content rest : Text) :
    (kind.write content ++ rest).head? ≠ some openBrace := by
  cases kind with
  | bare => exact absurd hmark (h rfl)
  | reference => exact fun heq => absurd (Option.some.inj heq) (by decide)

theorem scan_around {kind : Kind} {before content after : Text} (hfree : BraceFree content)
    (hstands : kind.StandsAfter before) :
    scan (before ++ kind.write content ++ after) =
      scan before ++
        (kind, ⟨before.length, (before ++ kind.write content).length, content⟩) ::
          (scan after).map
            (Prod.map id (Token.shift (before ++ kind.write content).length)) := by
  have hleft : scan (before ++ kind.write content) =
      scan before ++ [(kind, ⟨before.length, (before ++ kind.write content).length, content⟩)] := by
    have hhead : EndsInMark before → (kind.write content).head? ≠ some openBrace := fun hmark => by
      simpa using hstands.head hmark content []
    have hopens : OpensFirst (kind.write content) := by
      simpa using kind.opensFirst_write content []
    rw [scan_append hhead (Or.inr hopens), scan_write kind hfree]
    simp [Token.shift, Nat.add_comm]
  have hclosed : Closed (before ++ kind.write content) := by
    rw [Kind.write, ← List.append_assoc]
    exact closed_append_close _
  have hmark : ¬ EndsInMark (before ++ kind.write content) := by
    rw [Kind.write, ← List.append_assoc]
    exact not_endsInMark_close _
  rw [scan_append (fun h => absurd h hmark) (Or.inl hclosed), hleft, List.append_assoc]
  rfl

private theorem inOrder_scanFrom (t : Text) (position cursor : Nat) (previous : Option Char)
    (opening : Option Opening) (hcursor : cursor ≤ position)
    (hmark : previous = some referenceMark → cursor < position)
    (hopening : ∀ o, opening = some o → cursor ≤ o.start ∧ o.start ≤ position) :
    InOrder (position + t.length) cursor
      ((scanFrom position previous opening t).map Prod.snd) := by
  induction t generalizing position cursor previous opening with
  | nil => exact hcursor
  | cons c t ih =>
    have hlength : position + (c :: t).length = position + 1 + t.length := by
      simp only [List.length_cons]
      omega
    rw [hlength]
    simp only [scanFrom]
    by_cases ho : c = openBrace
    · simp only [ho, if_true]
      apply ih
      · omega
      · intro _
        omega
      · rintro o ho'
        obtain rfl := Option.some.inj ho'
        unfold Opening.after
        by_cases hp : previous = some referenceMark
        · have hlt := hmark hp
          simp only [hp, if_true]
          omega
        · simp only [hp, if_false]
          omega
    · by_cases hc : c = closeBrace
      · have hne : closeBrace ≠ openBrace := by decide
        have hmarked : some closeBrace ≠ some referenceMark := by decide
        simp only [hc, hne, if_true, if_false]
        cases opening with
        | none =>
          exact ih (position + 1) cursor _ none (by omega) (fun h => absurd h hmarked)
            (by simp)
        | some o =>
          obtain ⟨hstart, hstop⟩ := hopening o rfl
          refine ⟨hstart, by simp only [Opening.close]; omega, ?_⟩
          exact ih (position + 1) (position + 1) _ none (Nat.le_refl _)
            (fun h => absurd h hmarked) (by simp)
      · simp only [ho, hc, if_false]
        apply ih
        · omega
        · intro _
          omega
        · rintro o ho'
          obtain ⟨o', rfl, rfl⟩ := Option.map_eq_some_iff.mp ho'
          obtain ⟨hstart, hstop⟩ := hopening o' rfl
          simp only [Opening.push]
          omega

theorem inOrder_scan (t : Text) : InOrder t.length 0 ((scan t).map Prod.snd) := by
  have h := inOrder_scanFrom t 0 0 none none (Nat.le_refl _) (by simp) (by simp)
  rwa [Nat.zero_add] at h

private theorem tokensOf_sublist (kind : Kind) (t : Text) :
    (tokensOf kind t).Sublist ((scan t).map Prod.snd) :=
  List.filter_sublist.map _

theorem inOrder_tokensOf (kind : Kind) (t : Text) : InOrder t.length 0 (tokensOf kind t) :=
  (inOrder_scan t).sublist (tokensOf_sublist kind t)

theorem mem_tokensOf {kind : Kind} {token : Token} {t : Text} :
    token ∈ tokensOf kind t ↔ (kind, token) ∈ scan t := by
  simp [tokensOf]

/-- An open brace as it stands at the end of a text: its opener, and what has come since. -/
private def Opening.IsAfter (opening : Opening) (before : Text) : Prop :=
  ∃ pre : Text, before = pre ++ opening.kind.opener ++ opening.reversed.reverse ∧
    opening.start = pre.length ∧ BraceFree opening.reversed ∧ opening.kind.StandsAfter pre

private theorem Opening.isAfter_after (before : Text) :
    (Opening.after before.getLast? before.length).IsAfter (before ++ [openBrace]) := by
  unfold Opening.after
  by_cases hmark : before.getLast? = some referenceMark
  · rw [if_pos hmark]
    obtain ⟨pre, rfl⟩ : ∃ pre, before = pre ++ [referenceMark] :=
      ⟨before.dropLast, (List.dropLast_append_getLast? _ hmark).symm⟩
    exact ⟨pre, by simp [Kind.opener], by simp, braceFree_nil, fun h => nomatch h⟩
  · rw [if_neg hmark]
    exact ⟨before, by simp [Kind.opener], rfl, braceFree_nil, fun _ => hmark⟩

private theorem written_of_mem_scanFrom {kind : Kind} {token : Token} (t before : Text)
    (opening : Option Opening) (hopening : ∀ o, opening = some o → o.IsAfter before)
    (hmem : (kind, token) ∈ scanFrom before.length before.getLast? opening t) :
    ∃ pre post, before ++ t = pre ++ kind.write token.content ++ post ∧
      BraceFree token.content ∧ kind.StandsAfter pre ∧ token.start = pre.length ∧
      token.stop = (pre ++ kind.write token.content).length := by
  induction t generalizing before opening with
  | nil => cases hmem
  | cons c t ih =>
    have hstep : ∀ opening' : Option Opening,
        (∀ o, opening' = some o → o.IsAfter (before ++ [c])) →
        (kind, token) ∈ scanFrom (before.length + 1) (some c) opening' t →
        ∃ pre post, before ++ c :: t = pre ++ kind.write token.content ++ post ∧
          BraceFree token.content ∧ kind.StandsAfter pre ∧ token.start = pre.length ∧
          token.stop = (pre ++ kind.write token.content).length := by
      intro opening' ho' hmem'
      have h := ih (before ++ [c]) opening' ho' (by simpa using hmem')
      simpa using h
    simp only [scanFrom] at hmem
    by_cases ho : c = openBrace
    · subst ho
      simp only [if_true] at hmem
      refine hstep _ ?_ hmem
      rintro o ho'
      obtain rfl := Option.some.inj ho'
      exact Opening.isAfter_after before
    · by_cases hc : c = closeBrace
      · subst hc
        simp only [ho, if_true, if_false] at hmem
        rcases List.mem_append.mp hmem with hhere | hlater
        · cases opening with
          | none => cases hhere
          | some o =>
            obtain ⟨pre, hbefore, hstart, hfree, hstands⟩ := hopening o rfl
            have heq := List.mem_singleton.mp hhere
            simp only [Opening.close, Prod.mk.injEq] at heq
            obtain ⟨rfl, rfl⟩ := heq
            have hreverse : BraceFree o.reversed.reverse := by simpa [BraceFree] using hfree
            refine ⟨pre, t, ?_, hreverse, hstands, hstart, ?_⟩
            · simp [hbefore, Kind.write]
            · simp only [hbefore, Kind.write, List.length_append, List.length_cons,
                List.length_nil]
              omega
        · exact hstep none (by simp) hlater
      · simp only [ho, hc, if_false] at hmem
        refine hstep _ ?_ hmem
        rintro o ho'
        obtain ⟨o', rfl, rfl⟩ := Option.map_eq_some_iff.mp ho'
        obtain ⟨pre, hbefore, hstart, hfree, hstands⟩ := hopening o' rfl
        refine ⟨pre, ?_, hstart, ?_, hstands⟩
        · simp [hbefore, Opening.push]
        · exact braceFree_cons.mpr ⟨ho, hc, hfree⟩

/-- Every token that is found is written at its place, with no brace between its own two. -/
theorem written_of_mem_scan {kind : Kind} {token : Token} {t : Text}
    (h : (kind, token) ∈ scan t) :
    ∃ pre post, t = pre ++ kind.write token.content ++ post ∧ BraceFree token.content ∧
      kind.StandsAfter pre ∧ token.start = pre.length ∧
      token.stop = (pre ++ kind.write token.content).length :=
  written_of_mem_scanFrom t [] none (by simp) h

end Phrasebook.Template
