import Phrasebook.Proofs.Dict.Order
import Phrasebook.Proofs.Template.Splicing

/-!
Splices one after the other. A splice copies the gaps between the tokens and writes every token anew, or
as it was. So the tokens that were left as they were are still there, each moved by as much as the text
before it has grown, and to replace them later is the same as to replace all tokens at once.
-/

set_option autoImplicit false
set_option relaxedAutoImplicit false

namespace Phrasebook.Template

/-- Tokens that lie in a text, each behind the one before it. -/
structure LieIn (text : Text) (tokens : List Token) : Prop where
  within : ∀ token ∈ tokens, token.start ≤ token.stop ∧ token.stop ≤ text.length
  apart : tokens.Pairwise fun a b => a.stop ≤ b.start

private theorem inOrder_of_pairwise {limit cursor : Nat} {tokens : List Token} (hcursor : cursor ≤ limit)
    (hwithin : ∀ token ∈ tokens,
      cursor ≤ token.start ∧ token.start ≤ token.stop ∧ token.stop ≤ limit)
    (hapart : tokens.Pairwise fun a b => a.stop ≤ b.start) : InOrder limit cursor tokens := by
  induction tokens generalizing cursor with
  | nil => exact hcursor
  | cons token tokens ih =>
    rw [List.forall_mem_cons] at hwithin
    obtain ⟨⟨hstart, hspan, hstop⟩, hrest⟩ := hwithin
    rw [List.pairwise_cons] at hapart
    refine ⟨hstart, hspan, ih hstop (fun other hmem => ?_) hapart.2⟩
    exact ⟨hapart.1 other hmem, (hrest other hmem).2⟩

private theorem lieIn_iff_inOrder {text : Text} {tokens : List Token} :
    LieIn text tokens ↔ InOrder text.length 0 tokens := by
  constructor
  · intro h
    refine inOrder_of_pairwise (Nat.zero_le _) (fun token hmem => ?_) h.apart
    exact ⟨Nat.zero_le _, h.within token hmem⟩
  · intro h
    exact ⟨fun token hmem => ⟨h.start_le_stop hmem, h.stop_le hmem⟩, h.pairwise⟩

/-! ## Literal texts -/

private theorem splice_literal {text : Text} {tokens : List Token} (h : InOrder text.length 0 tokens)
    (chosen : Token → Bool) :
    splice text tokens (fun token => if chosen token then some (token.literal text) else none) =
      text := by
  have hwritten : ∀ token ∈ tokens,
      Token.written text (fun token => if chosen token then some (token.literal text) else none)
        token = Token.written text (fun _ => none) token := by
    intro token _
    dsimp only [Token.written]
    cases chosen token <;> rfl
  calc splice text tokens (fun token => if chosen token then some (token.literal text) else none)
      = expandFrom text (Token.written text fun _ => none) 0 tokens := by
        rw [splice_eq_expandFrom h, expandFrom_congr hwritten]
    _ = splice text tokens (fun _ => none) := (splice_eq_expandFrom h _).symm
    _ = text := splice_none text tokens

/-! ## Tokens that move -/

/-- A token as it stands when the text before it has grown by a number of characters, or shrunk. -/
def Token.move (distance : Int) (token : Token) : Token :=
  ⟨(token.start + distance).toNat, (token.stop + distance).toNat, token.content⟩

def Token.growth (token : Token) (new : Text) : Int := new.length - (token.stop - token.start)

/-- The tokens that have no replacement, each with where it stands once the others are replaced: it moves
by what the replaced tokens before it have grown together. -/
def movedFrom (replacement : Token → Option Text) : Int → List Token → List (Token × Token)
  | _, [] => []
  | distance, token :: tokens =>
    match replacement token with
    | some new => movedFrom replacement (distance + token.growth new) tokens
    | none => (token, token.move distance) :: movedFrom replacement distance tokens

def moved (replacement : Token → Option Text) (tokens : List Token) : List (Token × Token) :=
  movedFrom replacement 0 tokens

private theorem map_fst_moved (replacement : Token → Option Text) (tokens : List Token) :
    (moved replacement tokens).map Prod.fst =
      tokens.filter fun token => (replacement token).isNone := by
  have general : ∀ distance, (movedFrom replacement distance tokens).map Prod.fst =
      tokens.filter fun token => (replacement token).isNone := by
    induction tokens with
    | nil => exact fun _ => rfl
    | cons token tokens ih =>
      intro distance
      cases hr : replacement token with
      | some new => simp [movedFrom, hr, ih]
      | none => simp [movedFrom, hr, ih]
  exact general 0

section

variable {text : Text} {first : Token → Option Text} {cursor : Nat} {token : Token}
  {tokens : List Token} {done : Text} {distance : Int}

private theorem append_expandFrom_cons (write : Token → Text) (done : Text) :
    done ++ expandFrom text write cursor (token :: tokens) =
      (done ++ text.slice cursor token.start ++ write token) ++
        expandFrom text write token.stop tokens := by
  simp only [expandFrom, List.append_assoc]

private theorem length_done_of_some (h : InOrder text.length cursor (token :: tokens))
    (hdone : (done.length : Int) = cursor + distance) (new : Text) :
    ((done ++ text.slice cursor token.start ++ new).length : Int) =
      token.stop + (distance + token.growth new) := by
  have hgap := length_slice (i := cursor) (Nat.le_trans h.2.1 h.2.2.cursor_le)
  have hstart := h.1
  simp only [List.length_append, hgap, Token.growth]
  omega

private theorem length_done_of_none (h : InOrder text.length cursor (token :: tokens))
    (hdone : (done.length : Int) = cursor + distance) :
    (done ++ text.slice cursor token.start).length = (token.move distance).start ∧
      (done ++ text.slice cursor token.start ++ token.literal text).length =
        (token.move distance).stop ∧
      ((done ++ text.slice cursor token.start ++ token.literal text).length : Int) =
        token.stop + distance := by
  have hgap := length_slice (i := cursor) (Nat.le_trans h.2.1 h.2.2.cursor_le)
  have hliteral : (token.literal text).length = token.stop - token.start :=
    length_slice h.2.2.cursor_le
  have hstart := h.1
  have hspan := h.2.1
  simp only [List.length_append, hgap, hliteral, Token.move]
  omega

private theorem inOrder_movedFrom (h : InOrder text.length cursor tokens)
    (hdone : (done.length : Int) = cursor + distance) :
    InOrder (done ++ expandFrom text (Token.written text first) cursor tokens).length done.length
      ((movedFrom first distance tokens).map Prod.snd) := by
  -- the part `done` of the output before the tokens is longer by the distance than the text before them
  induction tokens generalizing cursor done distance with
  | nil =>
    simp only [movedFrom, List.map_nil, InOrder, List.length_append]
    omega
  | cons token tokens ih =>
    rw [append_expandFrom_cons]
    cases hfirst : first token with
    | some new =>
      simp only [movedFrom, hfirst, Token.written, Option.getD_some]
      refine (ih h.2.2 (length_done_of_some h hdone new)).weaken ?_
      simp only [List.length_append]
      omega
    | none =>
      obtain ⟨hstart, hstop, hnext⟩ := length_done_of_none h hdone
      have hrest := ih h.2.2 hnext
      simp only [movedFrom, hfirst, Token.written, Option.getD_none, List.map_cons]
      refine ⟨?_, ?_, ?_⟩
      · rw [← hstart, List.length_append]
        omega
      · rw [← hstart, ← hstop]
        simp only [List.length_append]
        omega
      · rw [← hstop]
        exact hrest

private theorem literal_movedFrom (h : InOrder text.length cursor tokens)
    (hdone : (done.length : Int) = cursor + distance) :
    ∀ pair ∈ movedFrom first distance tokens,
      pair.2.literal (done ++ expandFrom text (Token.written text first) cursor tokens) =
        pair.1.literal text := by
  induction tokens generalizing cursor done distance with
  | nil => exact nofun
  | cons token tokens ih =>
    rw [append_expandFrom_cons]
    cases hfirst : first token with
    | some new =>
      simp only [movedFrom, hfirst, Token.written, Option.getD_some]
      exact ih h.2.2 (length_done_of_some h hdone new)
    | none =>
      obtain ⟨hstart, hstop, hnext⟩ := length_done_of_none h hdone
      simp only [movedFrom, hfirst, Token.written, Option.getD_none]
      rw [List.forall_mem_cons]
      refine ⟨?_, ih h.2.2 hnext⟩
      have hwithin : (token.move distance).stop ≤
          (done ++ text.slice cursor token.start ++ token.literal text).length := Nat.le_of_eq hstop.symm
      rw [Token.literal, slice_append_left hwithin, ← hstart, ← hstop, Text.slice, List.take_length,
        List.drop_left]

private theorem spliceFrom_movedFrom {second later : Token → Option Text}
    (h : InOrder text.length cursor tokens) (hdone : (done.length : Int) = cursor + distance)
    (hlater : ∀ pair ∈ movedFrom first distance tokens, later pair.2 = second pair.1) {copied : Nat}
    (hcopied : copied ≤ done.length) :
    spliceFrom (done ++ expandFrom text (Token.written text first) cursor tokens) later copied
        ((movedFrom first distance tokens).map Prod.snd) =
      done.drop copied ++
        expandFrom text (Token.written text fun token => (first token).or (second token)) cursor
          tokens := by
  -- of what is done the later splice has copied the part before `copied`
  induction tokens generalizing cursor done distance copied with
  | nil =>
    simp only [movedFrom, List.map_nil, spliceFrom, expandFrom]
    rw [List.drop_append_of_le_length hcopied]
  | cons token tokens ih =>
    have hdrop : ∀ new : Text, (done ++ text.slice cursor token.start ++ new).drop copied =
        done.drop copied ++ text.slice cursor token.start ++ new := by
      intro new
      rw [List.append_assoc, List.drop_append_of_le_length hcopied, List.append_assoc]
    have hlonger : ∀ new : Text,
        copied ≤ (done ++ text.slice cursor token.start ++ new).length := by
      intro new
      simp only [List.length_append]
      omega
    rw [append_expandFrom_cons, append_expandFrom_cons]
    cases hfirst : first token with
    | some new =>
      simp only [movedFrom, hfirst] at hlater
      simp only [movedFrom, hfirst, Token.written, Option.getD_some, Option.some_or]
      rw [ih h.2.2 (length_done_of_some h hdone new) hlater (hlonger new), hdrop]
    | none =>
      obtain ⟨hstart, hstop, hnext⟩ := length_done_of_none h hdone
      simp only [movedFrom, hfirst, List.forall_mem_cons] at hlater
      simp only [movedFrom, hfirst, Token.written, Option.getD_none, Option.none_or, List.map_cons,
        spliceFrom, hlater.1]
      cases second token with
      | some new =>
        -- the gap is copied up to the token, and the part after it by the induction
        have hgap : ∀ more : Text, (done ++ text.slice cursor token.start ++ more).slice copied
            (token.move distance).start = done.drop copied ++ text.slice cursor token.start := by
          intro more
          rw [← hstart, slice_append_left (Nat.le_refl _), Text.slice, List.take_length,
            List.drop_append_of_le_length hcopied]
        simp only [Option.getD_some]
        rw [← hstop, ih h.2.2 hnext hlater.2 (Nat.le_refl _), List.drop_length, List.nil_append,
          List.append_assoc (done ++ _), hgap]
      | none =>
        simp only [Option.getD_none]
        rw [ih h.2.2 hnext hlater.2 (hlonger _), hdrop]

end

/-! ## The later splice -/

section

variable {text : Text} {tokens : List Token}

private theorem length_done_nil : (([] : Text).length : Int) = (0 : Nat) + 0 := rfl

private theorem lieIn_moved (h : InOrder text.length 0 tokens) (first : Token → Option Text) :
    LieIn (splice text tokens first) ((moved first tokens).map Prod.snd) := by
  rw [lieIn_iff_inOrder, splice_eq_expandFrom h]
  exact inOrder_movedFrom h length_done_nil

private theorem literal_moved (h : InOrder text.length 0 tokens) (first : Token → Option Text) :
    ∀ pair ∈ moved first tokens,
      pair.2.literal (splice text tokens first) = pair.1.literal text := by
  rw [splice_eq_expandFrom h]
  exact literal_movedFrom h length_done_nil

private theorem splice_moved (h : InOrder text.length 0 tokens) {first second later : Token → Option Text}
    (hlater : ∀ pair ∈ moved first tokens, later pair.2 = second pair.1) :
    splice (splice text tokens first) ((moved first tokens).map Prod.snd) later =
      splice text tokens fun token => (first token).or (second token) := by
  rw [splice_eq_expandFrom h, splice_eq_expandFrom h]
  exact spliceFrom_movedFrom h length_done_nil hlater (Nat.zero_le _)

private theorem nodup_moved (h : InOrder text.length 0 tokens)
    (hspan : ∀ token ∈ tokens, token.start < token.stop) (first : Token → Option Text) :
    ((moved first tokens).map Prod.snd).Nodup := by
  have hlie := lieIn_moved h first
  have hspans : ∀ token ∈ (moved first tokens).map Prod.snd, token.start < token.stop := by
    intro token hmem
    obtain ⟨pair, hpair, rfl⟩ := List.mem_map.mp hmem
    have horigin : pair.1 ∈ tokens := by
      have hfst : pair.1 ∈ (moved first tokens).map Prod.fst := List.mem_map_of_mem hpair
      rw [map_fst_moved] at hfst
      exact List.mem_of_mem_filter hfst
    have hlength := congrArg List.length (literal_moved h first pair hpair)
    rw [Token.literal, Token.literal, length_slice (hlie.within _ hmem).2,
      length_slice (h.stop_le horigin)] at hlength
    have hpositive := hspan pair.1 horigin
    omega
  refine List.Pairwise.imp_of_mem ?_ hlie.apart
  rintro token other htoken _ hle rfl
  have hpositive := hspans token htoken
  omega

private theorem exists_later (h : InOrder text.length 0 tokens)
    (hspan : ∀ token ∈ tokens, token.start < token.stop) (first second : Token → Option Text) :
    ∃ later : Token → Option Text,
      ∀ pair ∈ moved first tokens, later pair.2 = second pair.1 := by
  have hkeys : ((moved first tokens).map Prod.swap).map Prod.fst =
      (moved first tokens).map Prod.snd := by
    rw [List.map_map]
    rfl
  let origins : Dict Token Token :=
    ⟨(moved first tokens).map Prod.swap, hkeys ▸ nodup_moved h hspan first⟩
  refine ⟨fun token => (origins.get? token).bind second, fun pair hpair => ?_⟩
  have horigin : origins.get? pair.2 = some pair.1 :=
    Dict.mem_entries.mp (List.mem_map.mpr ⟨pair, hpair, rfl⟩)
  simp only [horigin, Option.bind_some]

end

/-- Where tokens lie in a text one behind the other, a splice writes the gaps between them as they are, and
for every token its replacement or, if it has none, its literal text. So any tokens replaced by their own
literal texts change nothing. When some tokens are replaced first, the others lie in the new text, moved by
what it has grown before them, and replacing them there is replacing all in one splice. -/
theorem splice_exact {text : Text} {tokens : List Token} (h : LieIn text tokens) :
    (∀ replacement : Token → Option Text, splice text tokens replacement =
      expandFrom text (Token.written text replacement) 0 tokens) ∧
    (∀ chosen : Token → Bool, splice text tokens
      (fun token => if chosen token then some (token.literal text) else none) = text) ∧
    (∀ first second : Token → Option Text,
      let between := splice text tokens first
      (moved first tokens).map Prod.fst = tokens.filter (fun token => (first token).isNone) ∧
      LieIn between ((moved first tokens).map Prod.snd) ∧
      (∀ pair ∈ moved first tokens, pair.2.literal between = pair.1.literal text) ∧
      (∀ later : Token → Option Text,
        (∀ pair ∈ moved first tokens, later pair.2 = second pair.1) →
        splice between ((moved first tokens).map Prod.snd) later =
          splice text tokens fun token => (first token).or (second token)) ∧
      ((∀ token ∈ tokens, token.start < token.stop) →
        ∃ later : Token → Option Text,
          ∀ pair ∈ moved first tokens, later pair.2 = second pair.1)) := by
  have horder := lieIn_iff_inOrder.mp h
  refine ⟨splice_eq_expandFrom horder, splice_literal horder, fun first second => ?_⟩
  exact ⟨map_fst_moved first tokens, lieIn_moved horder first, literal_moved horder first,
    fun _ hlater => splice_moved horder hlater, fun hspan => exists_later horder hspan first second⟩

/-- A token before two others is replaced by nothing. Of the two, which stand side by side and have moved,
one is replaced by a brace and a mark and the other one by its literal text. -/
theorem splice_exact_sideBySide :
    let text := "\x7bx\x7d, @\x7by\x7d\x7bz\x7d!".toList
    let x : Token := ⟨0, 3, ['x']⟩
    let y : Token := ⟨5, 9, ['y']⟩
    let z : Token := ⟨9, 12, ['z']⟩
    let first : Token → Option Text := fun token => if token = x then some [] else none
    let second : Token → Option Text := fun token =>
      if token = y then some "\x7b@".toList else if token = z then some "\x7bz\x7d".toList else none
    let between := splice text [x, y, z] first
    LieIn text [x, y, z] ∧
      (moved first [x, y, z]).map Prod.snd = [⟨2, 6, ['y']⟩, ⟨6, 9, ['z']⟩] ∧
      (∃ later : Token → Option Text,
        (∀ pair ∈ moved first [x, y, z], later pair.2 = second pair.1) ∧
        splice between [⟨2, 6, ['y']⟩, ⟨6, 9, ['z']⟩] later = ", \x7b@\x7bz\x7d!".toList) ∧
      splice text [x, y, z] (fun token => if token = z then some (token.literal text) else none) =
        text := by
  intro text x y z first second between
  have hlie : LieIn text [x, y, z] := ⟨by decide, by decide⟩
  obtain ⟨-, hliteral, hsteps⟩ := splice_exact hlie
  obtain ⟨-, -, -, htogether, hexists⟩ := hsteps first second
  obtain ⟨later, hlater⟩ := hexists (by decide)
  refine ⟨hlie, by decide, ⟨later, hlater, ?_⟩, hliteral fun token => token = z⟩
  exact (htogether later hlater).trans (by decide)

end Phrasebook.Template
