import Phrasebook.Effect
import Phrasebook.Proofs.Template.Rewriting
import Phrasebook.Proofs.Text.Order

/-!
Filling the tokens of a text one after the other, where the text for a content is asked for when it
is met first and remembered from then on, be it a text or that there is none. That is to ask for every
distinct content once, in the order of first occurrence, and to rewrite the text with the answers.
-/

set_option autoImplicit false
set_option relaxedAutoImplicit false

namespace Phrasebook.Template

variable {σ : Type}

/-- A way to ask for the text that stands for a content. -/
abbrev Query (σ : Type) := Text → Effect σ (Option Text)

/-- The answers given so far by content. -/
abbrev Memo := List (Text × Option Text)

/-- The answer for a content, asked for unless it has been given before. -/
def askOnce (ask : Query σ) (content : Text) (memo : Memo) : Effect σ (Option Text × Memo) :=
  match memo.lookup content with
  | some answer => pure (answer, memo)
  | none => do
    let answer ← ask content
    return (answer, (content, answer) :: memo)

def askEach (ask : Query σ) : List Token → Memo → Effect σ (List (Token × Option Text))
  | [], _ => return []
  | token :: tokens, memo => do
    let (answer, memo) ← askOnce ask token.content memo
    return (token, answer) :: (← askEach ask tokens memo)

/-- A text with its tokens of a kind filled one after the other. -/
def fillInTurn (ask : Query σ) (kind : Kind) (t : Text) : Effect σ Text := do
  let tokens := tokensOf kind t
  let answers ← askEach ask tokens []
  return splice t tokens fun token => (answers.lookup token).join

def askAll (ask : Query σ) : List Text → Effect σ Memo
  | [] => return []
  | content :: more => do
    let answer ← ask content
    return (content, answer) :: (← askAll ask more)

theorem nodup_contents (tokens : List Token) : (contents tokens).Nodup := Text.nodup_eraseDups _

section

variable {α : Type}

/-- The names that have no entry in a memo yet, each once. -/
def unanswered (memo : List (Text × α)) (names : List Text) : List Text :=
  (names.filter fun name => (memo.lookup name).isNone).eraseDups

theorem lookup_memo_cons (content other : Text) (answer : α) (memo : List (Text × α)) :
    ((content, answer) :: memo).lookup other =
      if other = content then some answer else memo.lookup other := by
  rw [List.lookup_cons]
  by_cases h : other = content
  · simp [h]
  · simp [h, beq_false_of_ne h]

theorem unanswered_cons_of_some {memo : List (Text × α)} {name : Text} {answer : α}
    (h : memo.lookup name = some answer) (names : List Text) :
    unanswered memo (name :: names) = unanswered memo names := by
  simp [unanswered, h]

theorem unanswered_cons_of_none {memo : List (Text × α)} {name : Text}
    (h : memo.lookup name = none) (answer : α) (names : List Text) :
    unanswered memo (name :: names) = name :: unanswered ((name, answer) :: memo) names := by
  unfold unanswered
  rw [List.filter_cons_of_pos (by simp [h]), List.eraseDups_cons, List.filter_filter]
  congr 2
  refine List.filter_congr fun other _ => ?_
  rw [lookup_memo_cons]
  by_cases hother : other = name
  · simp [hother]
  · simp [hother]

end

private theorem lookup_append_cons {memo : Memo} {content : Text}
    (h : memo.lookup content = none) (answer : Option Text) (answers : Memo) (other : Text) :
    (memo ++ (content, answer) :: answers).lookup other =
      (((content, answer) :: memo) ++ answers).lookup other := by
  rw [List.cons_append, lookup_memo_cons, List.lookup_append, List.lookup_append, lookup_memo_cons]
  by_cases hother : other = content
  · simp [hother, h]
  · simp [hother]

private theorem askEach_apply (ask : Query σ) (tokens : List Token) (memo : Memo) (s : σ) :
    let asked := askAll ask (unanswered memo (tokens.map Token.content)) s
    askEach ask tokens memo s =
      ⟨tokens.map fun token => (token, ((memo ++ asked.value).lookup token.content).join),
        asked.state, asked.reports⟩ := by
  induction tokens generalizing memo s with
  | nil => rfl
  | cons token tokens ih =>
    cases hlookup : memo.lookup token.content with
    | some answer =>
      have hhere : ∀ answers : Memo,
          ((memo ++ answers).lookup token.content).join = answer := by
        intro answers
        rw [List.lookup_append, hlookup]
        rfl
      simp only [askEach, askOnce, hlookup, List.map_cons, unanswered_cons_of_some hlookup,
        Effect.bind_apply, Effect.pure_apply, ih, hhere, List.nil_append, List.append_nil]
    | none =>
      have hhere : ∀ answers : Memo,
          (((token.content, (ask token.content s).value) :: memo ++ answers).lookup
            token.content).join = (ask token.content s).value := by
        intro answers
        rw [List.cons_append, lookup_memo_cons, if_pos rfl]
        rfl
      simp only [askEach, askOnce, hlookup, List.map_cons,
        unanswered_cons_of_none hlookup (ask token.content s).value, askAll, Effect.bind_apply,
        Effect.pure_apply, ih, lookup_append_cons hlookup, hhere, List.append_nil]

private theorem lookup_map_of_mem (f : Token → Option Text) {tokens : List Token} {token : Token}
    (h : token ∈ tokens) :
    ((tokens.map fun token => (token, f token)).lookup token).join = f token := by
  induction tokens with
  | nil => cases h
  | cons first tokens ih =>
    rw [List.map_cons, List.lookup_cons]
    by_cases hfirst : token = first
    · simp [hfirst]
    · simpa [beq_false_of_ne hfirst] using ih ((List.mem_cons.mp h).resolve_left hfirst)

/-- To fill tokens one after the other is to ask for the distinct contents, each once and in order of
first occurrence, and then to replace every token by the answer for its content. -/
theorem fillInTurn_apply (ask : Query σ) (kind : Kind) (t : Text) (s : σ) :
    let asked := askAll ask (contents (tokensOf kind t)) s
    fillInTurn ask kind t s = ⟨rewrite kind (tabled asked.value) t, asked.state, asked.reports⟩ := by
  have hcontents : unanswered ([] : Memo) ((tokensOf kind t).map Token.content) =
      contents (tokensOf kind t) := by
    simp [unanswered, contents]
  simp only [fillInTurn, Effect.bind_apply, Effect.pure_apply, askEach_apply, hcontents,
    List.nil_append, List.append_nil]
  congr 1
  refine splice_congr fun token htoken => ?_
  rw [lookup_map_of_mem _ htoken]
  rfl

end Phrasebook.Template
