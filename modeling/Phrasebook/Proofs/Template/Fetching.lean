import Mathlib.Logic.Function.Basic
import Phrasebook.Proofs.Template.References

/-!
What the tables are asked for in the second stage, whatever they answer. They need not answer a lookup
key alike when they are asked again, and may fail: the row of an identifier is asked for when the
identifier is met first, and what comes of that, be it a row or not, stands for all references with the
identifier.
-/

set_option autoImplicit false
set_option relaxedAutoImplicit false

namespace Phrasebook.Template

variable {σ : Type}

def identifierOf (content : Text) : Text := content.takeWhile (· ≠ '.')

def tagOf (content : Text) : Text := (content.dropWhile (· ≠ '.')).drop 1

private theorem splitReference_eq (content : Text) :
    splitReference content = (identifierOf content, tagOf content) := by
  have hbreak : ∀ t : Text, (Text.breakAt '.' t).1 = identifierOf t ∧
      (Text.breakAt '.' t).2.getD [] = tagOf t := by
    intro t
    induction t with
    | nil => exact ⟨rfl, rfl⟩
    | cons c t ih =>
      by_cases hc : c = '.'
      · simp [Text.breakAt, identifierOf, tagOf, hc]
      · simpa [Text.breakAt, identifierOf, tagOf, hc] using ih
  exact Prod.ext (hbreak content).1 (hbreak content).2

/-- The identifiers of the references of a text, each once and in the order of first occurrence. -/
def distinctIdentifiers (t : Text) : List Text :=
  ((references t).map fun token => identifierOf token.content).eraseDups

/-- Tables that keep a record, beside the state, of what they are asked for and what they answer. -/
def noting (fetch : Text → Effect σ RowAnswer) (lookupKey : Text) :
    Effect (List (Text × RowAnswer) × σ) RowAnswer := fun s =>
  ⟨(fetch lookupKey s.2).value,
    (s.1 ++ [(lookupKey, (fetch lookupKey s.2).value)], (fetch lookupKey s.2).state),
    (fetch lookupKey s.2).reports⟩

/-- The record made of some identifiers: each that has a lookup key is asked for under it, and gets an
answer of its own. -/
def exchanges (ids : LookupKeys) (answers : Text → RowAnswer) (identifiers : List Text) :
    List (Text × RowAnswer) :=
  identifiers.filterMap fun identifier =>
    (ids.get? identifier).join.map fun lookupKey => (lookupKey, answers identifier)

def entryText (content : Text) (row : Option Row) : Option Text :=
  row.bind fun row => row.get? (if (tagOf content).isEmpty then defaultTag else tagOf content)

/-- The text of a reference whose identifier has a lookup key, in the row of the answer to that. -/
def answeredText (ids : LookupKeys) (answers : Text → RowAnswer) (content : Text) : Option Text :=
  (ids.get? (identifierOf content)).join.bind fun _ =>
    entryText content (answers (identifierOf content)).toOption.join

/-! ## One reference -/

section

variable {fetch : Text → Effect σ RowAnswer} {ids : LookupKeys} {content lookupKey : Text}

def entryComplaint (key lookupKey content : Text) (row : Option Row) : List Report :=
  match row.map (entryOf key lookupKey (tagOf content)) with
  | some (.error report) => [report]
  | _ => []

private theorem answeredText_of_unkeyed (hkey : (ids.get? (identifierOf content)).join = none)
    (answers : Text → RowAnswer) : answeredText ids answers content = none := by
  simp [answeredText, hkey]

private theorem answeredText_of_keyed (hkey : (ids.get? (identifierOf content)).join = some lookupKey)
    (answers : Text → RowAnswer) :
    answeredText ids answers content =
      entryText content (answers (identifierOf content)).toOption.join := by
  simp [answeredText, hkey]

private theorem resolveReference_of_no_key (hkey : (ids.get? (identifierOf content)).join = none)
    (key : Text) (rows : FetchedRows) (s : σ) :
    resolveReference fetch key ids content rows s =
      ⟨(none, rows), s, [.missingLocalizedArgumentId key (identifierOf content)]⟩ := by
  simp only [resolveReference, splitReference_eq, hkey]
  rfl

private theorem resolveReference_of_key (hkey : (ids.get? (identifierOf content)).join = some lookupKey)
    (key : Text) (rows : FetchedRows) (s : σ) :
    let found := rowOf fetch key (identifierOf content) lookupKey rows s
    resolveReference fetch key ids content rows s =
      ⟨(entryText content found.value.1, found.value.2), found.state,
        found.reports ++ entryComplaint key lookupKey content found.value.1⟩ := by
  simp only [resolveReference, splitReference_eq, hkey, Effect.bind_apply, entryComplaint, entryText]
  rcases (rowOf fetch key (identifierOf content) lookupKey rows s).value with ⟨row, rows'⟩
  cases row with
  | none => rfl
  | some row =>
    simp only [Option.map_some, Option.bind_some, entryOf]
    by_cases htag : (tagOf content).isEmpty
    · cases hget : row.get? defaultTag <;> simp [htag, hget, Effect.report, Effect.tell]
    · cases hget : row.get? (tagOf content) <;> simp [htag, hget, Effect.report, Effect.tell]

variable {rows : FetchedRows} {identifier : Text}

private theorem rowOf_of_fetched {row : Option Row} (hrow : rows.lookup identifier = some row)
    (key lookupKey : Text) (s : σ) :
    rowOf fetch key identifier lookupKey rows s = ⟨(row, rows), s, []⟩ := by
  simp [rowOf, hrow]

private theorem rowOf_of_new (fetch : Text → Effect σ RowAnswer) (hnew : rows.lookup identifier = none)
    (key lookupKey : Text) (s : σ) :
    let row := (fetch lookupKey s).value.toOption.join
    (rowOf fetch key identifier lookupKey rows s).value = (row, (identifier, row) :: rows) ∧
      (rowOf fetch key identifier lookupKey rows s).state = (fetch lookupKey s).state := by
  simp only [rowOf, hnew, Effect.bind_apply]
  cases (fetch lookupKey s).value <;> exact ⟨rfl, rfl⟩

private theorem rowOf_noting_of_new (hnew : rows.lookup identifier = none) (key lookupKey : Text)
    (noted : List (Text × RowAnswer)) (s : σ) :
    let found := rowOf fetch key identifier lookupKey rows s
    rowOf (noting fetch) key identifier lookupKey rows (noted, s) =
      ⟨found.value, (noted ++ [(lookupKey, (fetch lookupKey s).value)], found.state),
        found.reports⟩ := by
  simp only [rowOf, hnew, Effect.bind_apply, noting]
  cases (fetch lookupKey s).value <;> rfl

end

/-! ## All references -/

/-- The rows fetched so far are those of some answers. -/
def RowsFrom (answers : Text → RowAnswer) (rows : FetchedRows) : Prop :=
  ∀ identifier row, rows.lookup identifier = some row → row = (answers identifier).toOption.join

private theorem RowsFrom.cons {answers : Text → RowAnswer} {rows : FetchedRows} (h : RowsFrom answers rows)
    (identifier : Text) (answer : RowAnswer) :
    RowsFrom (Function.update answers identifier answer)
      ((identifier, answer.toOption.join) :: rows) := by
  intro other row hlookup
  rw [lookup_memo_cons] at hlookup
  by_cases hother : other = identifier
  · subst hother
    rw [Function.update_self]
    simpa using hlookup.symm
  · rw [if_neg hother] at hlookup
    rw [Function.update_of_ne hother]
    exact h other row hlookup

private theorem exchanges_cons_of_key {ids : LookupKeys} {identifier lookupKey : Text}
    (hkey : (ids.get? identifier).join = some lookupKey) (answers : Text → RowAnswer)
    (more : List Text) :
    exchanges ids answers (identifier :: more) =
      (lookupKey, answers identifier) :: exchanges ids answers more := by
  simp [exchanges, hkey]

private theorem resolveReferences_noting (fetch : Text → Effect σ RowAnswer) (key : Text) (ids : LookupKeys)
    (contents : List Text) {known : Text → RowAnswer} {rows : FetchedRows}
    (hrows : RowsFrom known rows) (noted : List (Text × RowAnswer)) (s : σ) :
    let resolved := resolveReferences fetch key ids contents rows s
    ∃ answers : Text → RowAnswer,
      (∀ identifier, (rows.lookup identifier).isSome → answers identifier = known identifier) ∧
      resolveReferences (noting fetch) key ids contents rows (noted, s) =
          ⟨resolved.value,
            (noted ++ exchanges ids answers (unanswered rows (keyedIdentifiers ids contents)),
              resolved.state),
            resolved.reports⟩ ∧
        resolved.value = contents.map fun content => (content, answeredText ids answers content) := by
  induction contents generalizing known rows noted s with
  | nil =>
    exact ⟨known, fun _ _ => rfl,
      by simp [resolveReferences, keyedIdentifiers, unanswered, exchanges], rfl⟩
  | cons content contents ih =>
    have hsplit : (splitReference content).1 = identifierOf content := by rw [splitReference_eq]
    simp only [resolveReferences, Effect.bind_apply, Effect.pure_apply, List.map_cons,
      List.append_nil]
    cases hkey : (ids.get? (identifierOf content)).join with
    | none =>
      obtain ⟨answers, hknown, hrun, hvalue⟩ := ih hrows noted s
      rw [resolveReference_of_no_key hkey, resolveReference_of_no_key hkey,
        keyedIdentifiers_cons_of_unkeyed (hsplit ▸ hkey)]
      refine ⟨answers, hknown, ?_, ?_⟩
      · simp only [hrun]
      · rw [hvalue, answeredText_of_unkeyed hkey]
    | some lookupKey =>
      rw [keyedIdentifiers_cons_of_keyed (hsplit ▸ hkey), hsplit, resolveReference_of_key hkey,
        resolveReference_of_key hkey]
      cases hrow : rows.lookup (identifierOf content) with
      | some row =>
        obtain ⟨answers, hknown, hrun, hvalue⟩ := ih hrows noted s
        have hanswer : row = (answers (identifierOf content)).toOption.join := by
          rw [hknown _ (by simp [hrow])]
          exact hrows _ row hrow
        rw [unanswered_cons_of_some hrow]
        refine ⟨answers, hknown, ?_, ?_⟩
        · simp only [rowOf_of_fetched hrow, hrun]
        · simp only [rowOf_of_fetched hrow]
          rw [hvalue, answeredText_of_keyed hkey, ← hanswer]
      | none =>
        obtain ⟨hfound, hstate⟩ := rowOf_of_new fetch hrow key lookupKey s
        obtain ⟨answers, hknown, hrun, hvalue⟩ :=
          ih (hrows.cons (identifierOf content) (fetch lookupKey s).value)
            (noted ++ [(lookupKey, (fetch lookupKey s).value)]) (fetch lookupKey s).state
        have hanswer : answers (identifierOf content) = (fetch lookupKey s).value := by
          rw [hknown _ (by simp), Function.update_self]
        refine ⟨answers, fun other hother => ?_, ?_, ?_⟩
        · have hne : other ≠ identifierOf content := by
            rintro rfl
            simp [hrow] at hother
          rw [hknown other (by rwa [lookup_memo_cons, if_neg hne]), Function.update_of_ne hne]
        · rw [unanswered_cons_of_none hrow (fetch lookupKey s).value.toOption.join,
            exchanges_cons_of_key hkey, hanswer]
          simp only [rowOf_noting_of_new hrow, hfound, hstate, hrun, List.append_assoc,
            List.singleton_append]
        · simp only [hfound, hstate]
          rw [hvalue, answeredText_of_keyed hkey, hanswer]

/-! ## The stage -/

private theorem exchanges_keyedIdentifiers (ids : LookupKeys) (answers : Text → RowAnswer) (t : Text) :
    exchanges ids answers (keyedIdentifiers ids (contents (references t))).eraseDups =
      exchanges ids answers (distinctIdentifiers t) := by
  have hdistinct :
      ((contents (references t)).map fun content => (splitReference content).1).eraseDups =
        distinctIdentifiers t := by
    simp only [splitReference_eq]
    rw [contents, Text.eraseDups_map_eraseDups, List.map_map]
    rfl
  rw [keyedIdentifiers, Text.eraseDups_filter, hdistinct, exchanges, exchanges, List.filterMap_filter]
  refine List.filterMap_congr fun identifier _ => ?_
  cases (ids.get? identifier).join <;> rfl

private theorem map_fst_exchanges (ids : LookupKeys) (answers : Text → RowAnswer) (identifiers : List Text) :
    (exchanges ids answers identifiers).map Prod.fst = lookupKeysOf ids identifiers := by
  rw [exchanges, lookupKeysOf, List.map_filterMap]
  refine List.filterMap_congr fun identifier _ => ?_
  cases (ids.get? identifier).join <;> rfl

private theorem fillReferences_noting (fetch : Text → Effect σ RowAnswer) (key : Text) (ids : LookupKeys)
    (t : Text) (s : σ) :
    let filled := fillReferences fetch key (some ids) t s
    ∃ answers : Text → RowAnswer,
      fillReferences (noting fetch) key (some ids) t ([], s) =
          ⟨filled.value, (exchanges ids answers (distinctIdentifiers t), filled.state),
            filled.reports⟩ ∧
        filled.value = rewrite .reference (answeredText ids answers) t := by
  have hrows : RowsFrom (fun _ => .ok none) [] := fun _ _ hlookup => by cases hlookup
  obtain ⟨answers, -, hrun, hvalue⟩ :=
    resolveReferences_noting fetch key ids (contents (references t)) hrows [] s
  have hasked : unanswered ([] : FetchedRows) (keyedIdentifiers ids (contents (references t))) =
      (keyedIdentifiers ids (contents (references t))).eraseDups := by
    simp [unanswered]
  rw [hasked, exchanges_keyedIdentifiers, List.nil_append] at hrun
  refine ⟨answers, ?_, ?_⟩
  · simp only [fillReferences, Effect.bind_apply, Effect.pure_apply, hrun]
  · rw [fillReferences_value, foundTexts, hvalue]
    exact rewrite_tabled .reference _ t

/-- The second stage asks for rows once for an identifier. Without lookup keys it asks for nothing.
With lookup keys it asks, for each distinct identifier of the references that has one, in the order of
first occurrence, for the row under it, whatever the tables answer and even if two identifiers have one
lookup key; and so does going through the tokens with both memories. Every reference becomes the text
that it names in what its identifier was answered then, or stays as it is. -/
theorem rows_fetched_once (fetch : Text → Effect σ RowAnswer) (key t : Text) (s : σ) :
    fillReferences (noting fetch) key none t ([], s) =
        ⟨t, ([], s), (fillReferences fetch key none t s).reports⟩ ∧
    (distinctIdentifiers t).Nodup ∧
    ∀ ids : LookupKeys, ∃ answers : Text → RowAnswer,
      let filled := fillReferences fetch key (some ids) t s
      let recorded := fillReferences (noting fetch) key (some ids) t ([], s)
      let looped := fillInTurn (askReference (noting fetch) key ids) .reference t (([], s), [])
      recorded = ⟨filled.value, (exchanges ids answers (distinctIdentifiers t), filled.state),
          filled.reports⟩ ∧
        recorded.state.1.map Prod.fst = lookupKeysOf ids (distinctIdentifiers t) ∧
        (looped.value = recorded.value ∧ looped.state.1 = recorded.state ∧
          looped.reports = recorded.reports) ∧
        filled.value = expandFrom t
          (Token.written t fun token => answeredText ids answers token.content) 0 (references t) := by
  refine ⟨by rw [fillReferences_of_none, fillReferences_of_none], Text.nodup_eraseDups _,
    fun ids => ?_⟩
  obtain ⟨answers, hrecorded, hvalue⟩ := fillReferences_noting fetch key ids t s
  refine ⟨answers, hrecorded, ?_, fillInTurn_askReference (noting fetch) key ids t ([], s), ?_⟩
  · rw [hrecorded]
    exact map_fst_exchanges ids answers (distinctIdentifiers t)
  · exact hvalue.trans (rewrite_eq_expandFrom .reference _ t)

/-- Tables that fail when they are asked first and have a row when they are asked again. -/
example :
    let fickle : Text → Effect Nat RowAnswer := fun lookupKey asked =>
      ⟨if asked = 0 then .error "torn".toList
        else .ok (some (.ofList [(defaultTag, lookupKey), ("x".toList, "y".toList)])), asked + 1, []⟩
    let ids : LookupKeys := .ofList [("a".toList, some "K".toList), ("b".toList, some "K".toList)]
    let filled := fillReferences (noting fickle) "k" (some ids)
      "@\x7ba\x7d@\x7bb.x\x7d@\x7ba.x\x7d@\x7bb\x7d" ([], 0)
    filled.value = "@\x7ba\x7dy@\x7ba.x\x7dK".toList ∧
      filled.state.1.map Prod.fst = ["K".toList, "K".toList] := by
  decide +kernel

end Phrasebook.Template
