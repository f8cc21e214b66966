import Mathlib.Data.List.Basic
import Mathlib.Tactic.Common
import Phrasebook.Template.Splice

/-!
Splicing is exact. Where the tokens follow one another in the text, what comes out is the gaps
between them as they are and, in the place of every token, its replacement or its own literal text.
-/

set_option autoImplicit false
set_option relaxedAutoImplicit false

namespace Phrasebook.Template

/-- Tokens in the order of their positions, between a cursor and a limit, none reaching into the
next. -/
def InOrder (limit : Nat) : Nat → List Token → Prop
  | cursor, [] => cursor ≤ limit
  | cursor, token :: tokens =>
    cursor ≤ token.start ∧ token.start ≤ token.stop ∧ InOrder limit token.stop tokens

/-- The rest of a text from a position on, with a text of its own in the place of every token. -/
def expandFrom (text : Text) (write : Token → Text) : Nat → List Token → Text
  | cursor, [] => text.drop cursor
  | cursor, token :: tokens =>
    text.slice cursor token.start ++ write token ++ expandFrom text write token.stop tokens

/-- What stands for a token: its replacement or, without one, its literal text. -/
def Token.written (text : Text) (replacement : Token → Option Text) (token : Token) : Text :=
  (replacement token).getD (token.literal text)

def Token.shift (before : Nat) (token : Token) : Token :=
  ⟨token.start + before, token.stop + before, token.content⟩

@[simp] theorem Token.shift_content (before : Nat) (token : Token) :
    (token.shift before).content = token.content := rfl

theorem length_slice {t : Text} {i j : Nat} (hj : j ≤ t.length) : (t.slice i j).length = j - i := by
  rw [Text.slice, List.length_drop, List.length_take, Nat.min_eq_left hj]

private theorem slice_append_drop (t : Text) {i j : Nat} (h : i ≤ j) :
    t.slice i j ++ t.drop j = t.drop i := by
  conv_rhs => rw [← List.take_append_drop j t, List.drop_append]
  by_cases hj : j ≤ t.length
  · rw [List.length_take, Nat.min_eq_left hj, Nat.sub_eq_zero_of_le h, List.drop_zero]
    rfl
  · have hdrop : t.drop j = [] := List.drop_eq_nil_of_le (by omega)
    rw [hdrop, List.drop_nil]
    rfl

private theorem slice_append_slice (t : Text) {i j k : Nat} (hij : i ≤ j) (hjk : j ≤ k) :
    t.slice i j ++ t.slice j k = t.slice i k := by
  have h := slice_append_drop (List.take k t) hij
  have htake : Text.slice (List.take k t) i j = t.slice i j := by
    simp only [Text.slice, List.take_take, Nat.min_eq_left hjk]
  rw [htake] at h
  exact h

theorem slice_append_left {s t : Text} {i j : Nat} (h : j ≤ s.length) :
    (s ++ t).slice i j = s.slice i j := by
  simp only [Text.slice, List.take_append_of_le_length h]

theorem slice_append_right (s t : Text) (i j : Nat) :
    (s ++ t).slice (i + s.length) (j + s.length) = t.slice i j := by
  simp only [Text.slice]
  rw [Nat.add_comm j, Nat.add_comm i, List.take_length_add_append, List.drop_length_add_append]

theorem InOrder.weaken {limit cursor cursor' : Nat} {tokens : List Token}
    (h : InOrder limit cursor tokens) (hle : cursor' ≤ cursor) : InOrder limit cursor' tokens := by
  cases tokens with
  | nil => exact Nat.le_trans hle h
  | cons token tokens => exact ⟨Nat.le_trans hle h.1, h.2⟩

private theorem InOrder.tail {limit cursor : Nat} {token : Token} {tokens : List Token}
    (h : InOrder limit cursor (token :: tokens)) : InOrder limit cursor tokens :=
  h.2.2.weaken (Nat.le_trans h.1 h.2.1)

theorem InOrder.cursor_le {limit cursor : Nat} {tokens : List Token}
    (h : InOrder limit cursor tokens) : cursor ≤ limit := by
  induction tokens generalizing cursor with
  | nil => exact h
  | cons token tokens ih => exact Nat.le_trans h.1 (Nat.le_trans h.2.1 (ih h.2.2))

theorem InOrder.stop_le {limit cursor : Nat} {tokens : List Token}
    (h : InOrder limit cursor tokens) {token : Token} (hmem : token ∈ tokens) :
    token.stop ≤ limit := by
  induction tokens generalizing cursor with
  | nil => cases hmem
  | cons first tokens ih =>
    rcases List.mem_cons.mp hmem with rfl | hmem
    · exact h.2.2.cursor_le
    · exact ih h.2.2 hmem

private theorem InOrder.le_start {limit cursor : Nat} {tokens : List Token}
    (h : InOrder limit cursor tokens) {token : Token} (hmem : token ∈ tokens) :
    cursor ≤ token.start := by
  induction tokens generalizing cursor with
  | nil => cases hmem
  | cons first tokens ih =>
    rcases List.mem_cons.mp hmem with rfl | hmem
    · exact h.1
    · exact ih h.tail hmem

theorem InOrder.start_le_stop {limit cursor : Nat} {tokens : List Token}
    (h : InOrder limit cursor tokens) {token : Token} (hmem : token ∈ tokens) :
    token.start ≤ token.stop := by
  induction tokens generalizing cursor with
  | nil => cases hmem
  | cons first tokens ih =>
    rcases List.mem_cons.mp hmem with rfl | hmem
    · exact h.2.1
    · exact ih h.2.2 hmem

theorem InOrder.pairwise {limit cursor : Nat} {tokens : List Token}
    (h : InOrder limit cursor tokens) : tokens.Pairwise fun a b => a.stop ≤ b.start := by
  induction tokens generalizing cursor with
  | nil => exact .nil
  | cons token tokens ih => exact .cons (fun _ hmem => h.2.2.le_start hmem) (ih h.2.2)

theorem InOrder.sublist {limit cursor : Nat} {tokens some : List Token}
    (hsub : some.Sublist tokens) (h : InOrder limit cursor tokens) :
    InOrder limit cursor some := by
  induction hsub generalizing cursor with
  | slnil => exact h
  | cons _ _ ih => exact ih h.tail
  | cons_cons _ _ ih => exact ⟨h.1, h.2.1, ih h.2.2⟩

private theorem slice_append_expandFrom (text : Text) (write : Token → Text) {i j : Nat}
    {tokens : List Token} (hij : i ≤ j) (h : InOrder text.length j tokens) :
    text.slice i j ++ expandFrom text write j tokens = expandFrom text write i tokens := by
  cases tokens with
  | nil => exact slice_append_drop text hij
  | cons token tokens =>
    simp only [expandFrom]
    rw [← slice_append_slice text hij h.1]
    simp only [List.append_assoc]

theorem spliceFrom_eq_expandFrom (text : Text) (replacement : Token → Option Text) {cursor : Nat}
    {tokens : List Token} (h : InOrder text.length cursor tokens) :
    spliceFrom text replacement cursor tokens =
      expandFrom text (Token.written text replacement) cursor tokens := by
  induction tokens generalizing cursor with
  | nil => rfl
  | cons token tokens ih =>
    simp only [spliceFrom, expandFrom]
    cases hr : replacement token with
    | some new => simp only [ih h.2.2, Token.written, hr, Option.getD_some]
    | none =>
      have hstop : cursor ≤ token.stop := Nat.le_trans h.1 h.2.1
      simp only [ih h.tail, Token.written, hr, Option.getD_none, Token.literal]
      rw [slice_append_slice text h.1 h.2.1, slice_append_expandFrom text _ hstop h.2.2]

theorem splice_eq_expandFrom {text : Text} {tokens : List Token} (h : InOrder text.length 0 tokens)
    (replacement : Token → Option Text) :
    splice text tokens replacement = expandFrom text (Token.written text replacement) 0 tokens :=
  spliceFrom_eq_expandFrom text replacement h

theorem splice_none (text : Text) (tokens : List Token) :
    splice text tokens (fun _ => none) = text := by
  unfold splice
  induction tokens with
  | nil => rfl
  | cons token tokens ih => exact ih

theorem splice_congr {text : Text} {replacement replacement' : Token → Option Text}
    {tokens : List Token} (h : ∀ token ∈ tokens, replacement token = replacement' token) :
    splice text tokens replacement = splice text tokens replacement' := by
  have general : ∀ cursor,
      spliceFrom text replacement cursor tokens = spliceFrom text replacement' cursor tokens := by
    induction tokens with
    | nil => exact fun _ => rfl
    | cons token tokens ih =>
      rw [List.forall_mem_cons] at h
      intro cursor
      simp only [spliceFrom, h.1, ih h.2]
  exact general 0

theorem expandFrom_congr {text : Text} {write write' : Token → Text} {tokens : List Token}
    (h : ∀ token ∈ tokens, write token = write' token) (cursor : Nat) :
    expandFrom text write cursor tokens = expandFrom text write' cursor tokens := by
  induction tokens generalizing cursor with
  | nil => rfl
  | cons token tokens ih =>
    simp only [expandFrom]
    rw [h token List.mem_cons_self, ih fun t ht => h t (List.mem_cons_of_mem _ ht)]

private theorem expandFrom_shift (s t : Text) (write : Token → Text) (tokens : List Token)
    (cursor : Nat) :
    expandFrom (s ++ t) write (cursor + s.length) (tokens.map (Token.shift s.length)) =
      expandFrom t (fun token => write (token.shift s.length)) cursor tokens := by
  induction tokens generalizing cursor with
  | nil =>
    simp only [List.map_nil, expandFrom]
    rw [Nat.add_comm, List.drop_length_add_append]
  | cons token tokens ih =>
    simp only [List.map_cons, expandFrom]
    rw [← ih]
    exact congrArg (· ++ _ ++ _) (slice_append_right s t cursor token.start)

theorem expandFrom_append (s t : Text) (write : Token → Text) {cursor : Nat}
    {left : List Token} (right : List Token) (h : InOrder s.length cursor left) :
    expandFrom (s ++ t) write cursor (left ++ right.map (Token.shift s.length)) =
      expandFrom s write cursor left ++
        expandFrom t (fun token => write (token.shift s.length)) 0 right := by
  induction left generalizing cursor with
  | nil =>
    have hgap : s.drop cursor = (s ++ t).slice cursor s.length := by
      rw [slice_append_left (Nat.le_refl _), Text.slice, List.take_length]
    rw [← expandFrom_shift s t write right 0, Nat.zero_add, List.nil_append]
    simp only [expandFrom]
    rw [hgap]
    cases right with
    | nil => exact (slice_append_drop (s ++ t) h).symm
    | cons token right =>
      have hstart : s.length ≤ (token.shift s.length).start := Nat.le_add_left _ _
      simp only [List.map_cons, expandFrom]
      rw [← slice_append_slice (s ++ t) h hstart]
      simp only [List.append_assoc]
  | cons token left ih =>
    have hstart : token.start ≤ s.length := Nat.le_trans h.2.1 h.2.2.cursor_le
    simp only [List.cons_append, expandFrom]
    rw [ih h.2.2, slice_append_left hstart]
    simp only [List.append_assoc]

end Phrasebook.Template
