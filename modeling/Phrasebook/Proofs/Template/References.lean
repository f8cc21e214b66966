import Phrasebook.Proofs.Template.Asking
import Phrasebook.Proofs.Text.Cutting
import Phrasebook.Template.Reference

/-!
The second stage as the replacement of every reference by itself. On the way two things are
remembered: what came of a reference, by its content, and the row of an identifier, by the identifier;
both also where nothing came of them. Where the tables answer a lookup key alike whenever they are
asked, the places of a reference get the text that its content alone designates, and the reports are
those on the distinct contents, of which several with one failing identifier share the first.
-/

set_option autoImplicit false
set_option relaxedAutoImplicit false

namespace Phrasebook.Template

variable {σ : Type}

/-! ## What the tables have for a reference -/

/-- The row of an identifier: the caller gives a lookup key, and the tables have a row under it. -/
def rowText (answer : Text → RowAnswer) (ids : LookupKeys) (identifier : Text) : Option Row := do
  let lookupKey ← (ids.get? identifier).join
  (answer lookupKey).toOption.join

/-- The text of a reference: the entry that its tag names in the row of its identifier. -/
def tableText (answer : Text → RowAnswer) (ids : Option LookupKeys) (content : Text) :
    Option Text := do
  let row ← rowText answer (← ids) (splitReference content).1
  let tag := (splitReference content).2
  row.get? (if tag.isEmpty then defaultTag else tag)

/-- The report on a reference by itself, if there is to be one: none is made of a row that is not
found. -/
def complaintOf (key : Text) (answer : Text → RowAnswer) (ids : LookupKeys) (content : Text) :
    Option Report :=
  let (identifier, tag) := splitReference content
  match (ids.get? identifier).join with
  | none => some (.missingLocalizedArgumentId key identifier)
  | some lookupKey =>
    match answer lookupKey with
    | .error error => some (.dictionaryFetchFailed key lookupKey error)
    | .ok none => none
    | .ok (some row) =>
      if (row.get? (if tag.isEmpty then defaultTag else tag)).isSome then none
      else if tag.isEmpty then some (.missingDictionaryValue key lookupKey)
      else some (.missingDictionaryTag key lookupKey tag)

/-- The tables fail for an identifier: they answer its lookup key with an error. -/
def failsFor (answer : Text → RowAnswer) (ids : LookupKeys) (identifier : Text) : Bool :=
  match (ids.get? identifier).join with
  | none => false
  | some lookupKey => !(answer lookupKey).isOk

/-- Two references that share one report: they name one identifier, and the tables fail for it. -/
def sharesFailure (answer : Text → RowAnswer) (ids : LookupKeys) (first second : Text) : Bool :=
  (splitReference first).1 == (splitReference second).1 &&
    failsFor answer ids (splitReference first).1

/-- The reports on some references, each taken by itself, without those on a failure that was
reported before. -/
def complaints (key : Text) (answer : Text → RowAnswer) (ids : LookupKeys) (contents : List Text) :
    List Report :=
  (contents.eraseDupsBy (sharesFailure answer ids)).filterMap (complaintOf key answer ids)

/-! ## What is asked of the tables -/

/-- Tables that answer by the lookup key alone, whatever that does to the state. -/
def AnsweredBy (fetch : Text → Effect σ RowAnswer) (answer : Text → RowAnswer) : Prop :=
  ∀ lookupKey s, (fetch lookupKey s).value = answer lookupKey

/-- Tables that give certain answers while they are asked for some lookup keys in turn. -/
def AnsweredInTurn (fetch : Text → Effect σ RowAnswer) (answer : Text → RowAnswer) :
    List Text → σ → Prop
  | [], _ => True
  | lookupKey :: more, s =>
    (fetch lookupKey s).value = answer lookupKey ∧
      AnsweredInTurn fetch answer more (fetch lookupKey s).state

def stateAfter (fetch : Text → Effect σ RowAnswer) (lookupKeys : List Text) (s : σ) : σ :=
  lookupKeys.foldl (fun s lookupKey => (fetch lookupKey s).state) s

private theorem AnsweredBy.inTurn {fetch : Text → Effect σ RowAnswer} {answer : Text → RowAnswer}
    (h : AnsweredBy fetch answer) (lookupKeys : List Text) (s : σ) :
    AnsweredInTurn fetch answer lookupKeys s := by
  induction lookupKeys generalizing s with
  | nil => trivial
  | cons lookupKey more ih => exact ⟨h lookupKey s, ih _⟩

def keyedIdentifiers (ids : LookupKeys) (contents : List Text) : List Text :=
  (contents.map fun content => (splitReference content).1).filter fun identifier =>
    (ids.get? identifier).join.isSome

def lookupKeysOf (ids : LookupKeys) (identifiers : List Text) : List Text :=
  identifiers.filterMap fun identifier => (ids.get? identifier).join

def questions (ids : LookupKeys) (t : Text) : List Text :=
  lookupKeysOf ids (keyedIdentifiers ids (contents (references t))).eraseDups

/-! ## One reference after the other -/

/-- The rows fetched so far are those that the tables give. -/
private def RowsAnsweredBy (answer : Text → RowAnswer) (ids : LookupKeys) (rows : FetchedRows) :
    Prop :=
  ∀ identifier row, rows.lookup identifier = some row →
    (ids.get? identifier).join.isSome → row = rowText answer ids identifier

private theorem RowsAnsweredBy.cons {answer : Text → RowAnswer} {ids : LookupKeys}
    {rows : FetchedRows} (h : RowsAnsweredBy answer ids rows) (identifier : Text) :
    RowsAnsweredBy answer ids ((identifier, rowText answer ids identifier) :: rows) := by
  intro other row hlookup hids
  rw [lookup_memo_cons] at hlookup
  by_cases heq : other = identifier
  · subst heq
    simpa using hlookup.symm
  · exact h other row (by simpa [heq] using hlookup) hids

section

variable {fetch : Text → Effect σ RowAnswer} {answer : Text → RowAnswer} {ids : LookupKeys}
  {rows : FetchedRows} {content lookupKey : Text}

private theorem tableText_of_unkeyed (hkey : (ids.get? (splitReference content).1).join = none) :
    tableText answer (some ids) content = none := by
  simp [tableText, rowText, hkey]

private theorem tableText_of_keyed
    (hkey : (ids.get? (splitReference content).1).join = some lookupKey) :
    tableText answer (some ids) content = (answer lookupKey).toOption.join.bind fun row =>
      row.get? (if (splitReference content).2.isEmpty then defaultTag
        else (splitReference content).2) := by
  simp [tableText, rowText, hkey]

private theorem resolveReference_of_unkeyed (hkey : (ids.get? (splitReference content).1).join = none)
    (key : Text) (s : σ) :
    resolveReference fetch key ids content rows s =
      ⟨(tableText answer (some ids) content, rows), s,
        (complaintOf key answer ids content).toList⟩ := by
  simp only [tableText_of_unkeyed hkey, complaintOf, resolveReference, hkey]
  rfl

private theorem resolveReference_of_row {key : Text} {s : σ}
    {outcome : Outcome σ (Option Row × FetchedRows)}
    (hkey : (ids.get? (splitReference content).1).join = some lookupKey)
    (hrow : rowOf fetch key (splitReference content).1 lookupKey rows s = outcome)
    (hvalue : outcome.value.1 = (answer lookupKey).toOption.join) :
    resolveReference fetch key ids content rows s =
      ⟨(tableText answer (some ids) content, outcome.value.2), outcome.state,
        outcome.reports ++ if failsFor answer ids (splitReference content).1 then []
          else (complaintOf key answer ids content).toList⟩ := by
  rcases hsplit : splitReference content with ⟨identifier, tag⟩
  rw [tableText_of_keyed hkey]
  rw [hsplit] at hkey hrow
  simp only [resolveReference, complaintOf, failsFor, hsplit, hkey, Effect.bind_apply, hrow,
    hvalue]
  cases answer lookupKey with
  | error error => rfl
  | ok row =>
    cases row with
    | none => rfl
    | some row =>
      have hfound : (Except.ok (some row) : RowAnswer).toOption.join = some row := rfl
      have hok : (Except.ok (some row) : RowAnswer).isOk = true := rfl
      simp only [hfound, hok, Option.map_some, Option.bind_some, entryOf]
      by_cases htag : tag.isEmpty
      · cases hget : row.get? defaultTag <;> simp [htag, hget, Effect.report, Effect.tell]
      · cases hget : row.get? tag <;> simp [htag, hget, Effect.report, Effect.tell]

private theorem resolveReference_of_fetched {row : Option Row}
    (hrows : RowsAnsweredBy answer ids rows)
    (hkey : (ids.get? (splitReference content).1).join = some lookupKey)
    (hfetched : rows.lookup (splitReference content).1 = some row) (key : Text) (s : σ) :
    resolveReference fetch key ids content rows s =
      ⟨(tableText answer (some ids) content, rows), s,
        if failsFor answer ids (splitReference content).1 then []
          else (complaintOf key answer ids content).toList⟩ := by
  have hrow : row = (answer lookupKey).toOption.join := by
    rw [hrows _ _ hfetched (by simp [hkey]), rowText, hkey]
    rfl
  have hrowOf : rowOf fetch key (splitReference content).1 lookupKey rows s =
      ⟨(row, rows), s, []⟩ := by
    simp [rowOf, hfetched]
  exact resolveReference_of_row hkey hrowOf hrow

private theorem resolveReference_of_new {s : σ}
    (hkey : (ids.get? (splitReference content).1).join = some lookupKey)
    (hnew : rows.lookup (splitReference content).1 = none)
    (hanswer : (fetch lookupKey s).value = answer lookupKey) (key : Text) :
    resolveReference fetch key ids content rows s =
      ⟨(tableText answer (some ids) content,
          ((splitReference content).1, rowText answer ids (splitReference content).1) :: rows),
        (fetch lookupKey s).state,
        (fetch lookupKey s).reports ++ (complaintOf key answer ids content).toList⟩ := by
  have hrow : rowText answer ids (splitReference content).1 = (answer lookupKey).toOption.join := by
    simp [rowText, hkey]
  cases hfails : answer lookupKey with
  | error error =>
    have hrowOf : rowOf fetch key (splitReference content).1 lookupKey rows s =
        ⟨(none, ((splitReference content).1, none) :: rows), (fetch lookupKey s).state,
          (fetch lookupKey s).reports ++ [.dictionaryFetchFailed key lookupKey error]⟩ := by
      simp [rowOf, hnew, hanswer, hfails, Effect.report, Effect.tell]
    have hreport : complaintOf key answer ids content =
        some (.dictionaryFetchFailed key lookupKey error) := by
      simp [complaintOf, hkey, hfails]
    have hfailsFor : failsFor answer ids (splitReference content).1 = true := by
      simp [failsFor, hkey, hfails, Except.isOk, Except.toBool]
    have hfound : none = (answer lookupKey).toOption.join := by
      rw [hfails]
      rfl
    rw [resolveReference_of_row hkey hrowOf hfound, if_pos hfailsFor, hreport, hrow, ← hfound,
      List.append_nil]
    rfl
  | ok row =>
    have hrowOf : rowOf fetch key (splitReference content).1 lookupKey rows s =
        ⟨(row, ((splitReference content).1, row) :: rows), (fetch lookupKey s).state,
          (fetch lookupKey s).reports⟩ := by
      simp [rowOf, hnew, hanswer, hfails]
    have hfailsFor : ¬ failsFor answer ids (splitReference content).1 = true := by
      simp [failsFor, hkey, hfails, Except.isOk, Except.toBool]
    have hfound : row = (answer lookupKey).toOption.join := by
      rw [hfails]
      rfl
    rw [resolveReference_of_row hkey hrowOf hfound, if_neg hfailsFor, hrow, ← hfound]

end

/-! ## All references -/

section

variable {answer : Text → RowAnswer} {ids : LookupKeys}

theorem keyedIdentifiers_cons_of_unkeyed {content : Text}
    (h : (ids.get? (splitReference content).1).join = none) (contents : List Text) :
    keyedIdentifiers ids (content :: contents) = keyedIdentifiers ids contents := by
  simp [keyedIdentifiers, h]

theorem keyedIdentifiers_cons_of_keyed {content lookupKey : Text}
    (h : (ids.get? (splitReference content).1).join = some lookupKey) (contents : List Text) :
    keyedIdentifiers ids (content :: contents) =
      (splitReference content).1 :: keyedIdentifiers ids contents := by
  simp [keyedIdentifiers, h]

/-- The references that may still be reported, when failures for some identifiers have been. -/
def stillReported (answer : Text → RowAnswer) (ids : LookupKeys) (rows : FetchedRows)
    (contents : List Text) : List Text :=
  contents.filter fun content =>
    !(failsFor answer ids (splitReference content).1 &&
      (rows.lookup (splitReference content).1).isSome)

private theorem complaints_cons (key : Text) (content : Text) (contents : List Text) :
    complaints key answer ids (content :: contents) =
      (complaintOf key answer ids content).toList ++ complaints key answer ids
        (contents.filter fun other => !sharesFailure answer ids other content) := by
  have hfilter : (contents.filter fun other => (sharesFailure answer ids other content = false)) =
      contents.filter fun other => !sharesFailure answer ids other content := by
    refine List.filter_congr fun other _ => ?_
    cases sharesFailure answer ids other content <;> rfl
  rw [complaints, List.eraseDupsBy_cons, hfilter, List.filterMap_cons]
  cases complaintOf key answer ids content <;> rfl

private theorem stillReported_cons_of_reported {content : Text} {rows : FetchedRows}
    (hfails : failsFor answer ids (splitReference content).1 = true)
    (hfetched : (rows.lookup (splitReference content).1).isSome) (contents : List Text) :
    stillReported answer ids rows (content :: contents) = stillReported answer ids rows contents :=
  List.filter_cons_of_neg (by simp [hfails, hfetched])

private theorem complaints_cons_of_not_fails {content : Text}
    (hfails : failsFor answer ids (splitReference content).1 = false) (key : Text)
    (rows : FetchedRows) (contents : List Text) :
    complaints key answer ids (stillReported answer ids rows (content :: contents)) =
      (complaintOf key answer ids content).toList ++
        complaints key answer ids (stillReported answer ids rows contents) := by
  have hcons : stillReported answer ids rows (content :: contents) =
      content :: stillReported answer ids rows contents := by
    simp [stillReported, hfails]
  rw [hcons, complaints_cons, List.filter_eq_self.mpr]
  intro other _
  by_cases hother : (splitReference other).1 = (splitReference content).1
  · simp [sharesFailure, hother, hfails]
  · simp [sharesFailure, hother]

private theorem complaints_cons_of_new {content : Text} {rows : FetchedRows}
    (hnew : rows.lookup (splitReference content).1 = none) (row : Option Row) (key : Text)
    (contents : List Text) :
    complaints key answer ids (stillReported answer ids rows (content :: contents)) =
      (complaintOf key answer ids content).toList ++ complaints key answer ids
        (stillReported answer ids (((splitReference content).1, row) :: rows) contents) := by
  have hcons : stillReported answer ids rows (content :: contents) =
      content :: stillReported answer ids rows contents := by
    simp [stillReported, hnew]
  rw [hcons, complaints_cons, stillReported, List.filter_filter, stillReported]
  congr 2
  refine List.filter_congr fun other _ => ?_
  rw [lookup_memo_cons]
  by_cases hother : (splitReference other).1 = (splitReference content).1
  · simp [sharesFailure, hother, hnew]
  · simp [sharesFailure, hother]

private theorem complaintOf_component {key content : Text} {report : Report}
    (h : complaintOf key answer ids content = some report) :
    report.entry.component = .references := by
  rcases hsplit : splitReference content with ⟨identifier, tag⟩
  simp only [complaintOf, hsplit] at h
  cases hkey : (ids.get? identifier).join with
  | none =>
    simp only [hkey, Option.some.injEq] at h
    exact h ▸ rfl
  | some lookupKey =>
    cases hanswer : answer lookupKey with
    | error error =>
      simp only [hkey, hanswer, Option.some.injEq] at h
      exact h ▸ rfl
    | ok row =>
      cases row with
      | none => simp [hkey, hanswer] at h
      | some row =>
        simp only [hkey, hanswer, ite_eq_iff, Option.some.injEq, reduceCtorEq, and_false,
          false_or] at h
        obtain ⟨-, ⟨-, rfl⟩ | ⟨-, rfl⟩⟩ := h <;> rfl

end

/-- Tables that make no report in the name of the second stage. -/
def ReportsElsewhere (fetch : Text → Effect σ RowAnswer) : Prop :=
  ∀ lookupKey s, ∀ report ∈ (fetch lookupKey s).reports, report.entry.component ≠ .references

def ownReports (reports : List Report) : List Report :=
  reports.filter fun report => report.entry.component = .references

private theorem ownReports_append (reports more : List Report) :
    ownReports (reports ++ more) = ownReports reports ++ ownReports more :=
  List.filter_append ..

private theorem ownReports_complaint (key : Text) (answer : Text → RowAnswer) (ids : LookupKeys)
    (content : Text) : ownReports (complaintOf key answer ids content).toList =
      (complaintOf key answer ids content).toList := by
  refine List.filter_eq_self.mpr fun report hreport => ?_
  simpa using complaintOf_component (Option.mem_toList.mp hreport)

private theorem ReportsElsewhere.ownReports_eq_nil {fetch : Text → Effect σ RowAnswer}
    (h : ReportsElsewhere fetch) (lookupKey : Text) (s : σ) :
    ownReports (fetch lookupKey s).reports = [] :=
  List.filter_eq_nil_iff.mpr fun report hreport => by simpa using h lookupKey s report hreport

/-- What is resolved one after the other is what each reference by itself comes to; and so are the
reports, without those on failures reported before. Only the identifiers without a row are asked
for. -/
private theorem resolveReferences_apply {fetch : Text → Effect σ RowAnswer}
    {answer : Text → RowAnswer} {ids : LookupKeys} (key : Text) {contents : List Text}
    {rows : FetchedRows} (hrows : RowsAnsweredBy answer ids rows) {s : σ}
    (hanswer : AnsweredInTurn fetch answer
      (lookupKeysOf ids (unanswered rows (keyedIdentifiers ids contents))) s) :
    (resolveReferences fetch key ids contents rows s).value =
        contents.map (fun content => (content, tableText answer (some ids) content)) ∧
      (resolveReferences fetch key ids contents rows s).state = stateAfter fetch
        (lookupKeysOf ids (unanswered rows (keyedIdentifiers ids contents))) s ∧
      (ReportsElsewhere fetch →
        ownReports (resolveReferences fetch key ids contents rows s).reports =
          complaints key answer ids (stillReported answer ids rows contents)) := by
  induction contents generalizing rows s with
  | nil => exact ⟨rfl, rfl, fun _ => rfl⟩
  | cons content contents ih =>
    simp only [resolveReferences, Effect.bind_apply, Effect.pure_apply, List.map_cons,
      List.append_nil, ownReports_append]
    cases hkey : (ids.get? (splitReference content).1).join with
    | none =>
      have hfails : failsFor answer ids (splitReference content).1 = false := by
        simp [failsFor, hkey]
      rw [keyedIdentifiers_cons_of_unkeyed hkey] at hanswer ⊢
      obtain ⟨hvalue, hstate, hreports⟩ := ih hrows hanswer
      rw [resolveReference_of_unkeyed hkey, complaints_cons_of_not_fails hfails,
        ownReports_complaint]
      exact ⟨congrArg _ hvalue, hstate, fun hself => congrArg _ (hreports hself)⟩
    | some lookupKey =>
      rw [keyedIdentifiers_cons_of_keyed hkey] at hanswer ⊢
      cases hlookup : rows.lookup (splitReference content).1 with
      | some row =>
        rw [unanswered_cons_of_some hlookup] at hanswer ⊢
        obtain ⟨hvalue, hstate, hreports⟩ := ih hrows hanswer
        rw [resolveReference_of_fetched hrows hkey hlookup]
        refine ⟨congrArg _ hvalue, hstate, fun hself => ?_⟩
        cases hfails : failsFor answer ids (splitReference content).1 with
        | true =>
          rw [stillReported_cons_of_reported hfails (by simp [hlookup])]
          exact hreports hself
        | false =>
          rw [complaints_cons_of_not_fails hfails]
          simp only [Bool.false_eq_true, if_false, ownReports_complaint]
          exact congrArg _ (hreports hself)
      | none =>
        rw [unanswered_cons_of_none hlookup (rowText answer ids (splitReference content).1),
          lookupKeysOf, List.filterMap_cons, hkey] at hanswer ⊢
        obtain ⟨hvalue, hstate, hreports⟩ := ih (hrows.cons _) hanswer.2
        rw [resolveReference_of_new hkey hlookup hanswer.1]
        refine ⟨congrArg _ hvalue, hstate, fun hself => ?_⟩
        rw [complaints_cons_of_new hlookup (rowText answer ids (splitReference content).1),
          ownReports_append, hself.ownReports_eq_nil, List.nil_append, ownReports_complaint]
        exact congrArg _ (hreports hself)

/-! ## The stage -/

/-- The texts that the second stage finds for the references of a text. -/
def foundTexts (fetch : Text → Effect σ RowAnswer) (key : Text) (ids : Option LookupKeys)
    (t : Text) (s : σ) : List (Text × Option Text) :=
  match ids with
  | none => []
  | some ids => (resolveReferences fetch key ids (contents (references t)) [] s).value

theorem fillReferences_of_none (fetch : Text → Effect σ RowAnswer) (key t : Text) (s : σ) :
    fillReferences fetch key none t s =
      ⟨t, s, if references t = [] then []
        else [.missingLocalizedArguments key
          (Text.sortedDistinct ((references t).map Token.content))]⟩ := by
  simp only [fillReferences]
  by_cases h : references t = []
  · simp [h]
  · simp [h, Effect.report, Effect.tell]

theorem fillReferences_value (fetch : Text → Effect σ RowAnswer) (key : Text)
    (ids : Option LookupKeys) (t : Text) (s : σ) :
    (fillReferences fetch key ids t s).value =
      rewrite .reference (tabled (foundTexts fetch key ids t s)) t := by
  cases ids with
  | none => rw [fillReferences_of_none]; exact (rewrite_none .reference t).symm
  | some ids => rfl

section

variable {fetch : Text → Effect σ RowAnswer} {answer : Text → RowAnswer}

private theorem fillReferences_apply {ids : LookupKeys} {t : Text} {s : σ}
    (h : AnsweredInTurn fetch answer (questions ids t) s) (key : Text) :
    (fillReferences fetch key (some ids) t s).value =
        rewrite .reference (tableText answer (some ids)) t ∧
      (fillReferences fetch key (some ids) t s).state = stateAfter fetch (questions ids t) s ∧
      (ReportsElsewhere fetch → ownReports (fillReferences fetch key (some ids) t s).reports =
        complaints key answer ids (contents (references t))) := by
  have hasked : questions ids t = lookupKeysOf ids
      (unanswered ([] : FetchedRows) (keyedIdentifiers ids (contents (references t)))) := by
    simp [questions, unanswered]
  have hreported : stillReported answer ids [] (contents (references t)) =
      contents (references t) := by
    simp [stillReported]
  have hrows : RowsAnsweredBy answer ids [] := fun _ _ hlookup => by cases hlookup
  rw [hasked] at h ⊢
  obtain ⟨hvalue, hstate, hreports⟩ := resolveReferences_apply key hrows h
  rw [hreported] at hreports
  refine ⟨?_, hstate, fun hself => ?_⟩
  · rw [fillReferences_value, foundTexts, hvalue]
    exact rewrite_tabled .reference _ t
  · simpa only [fillReferences, Effect.bind_apply, Effect.pure_apply, List.append_nil]
      using hreports hself

theorem fillReferences_value_of_answeredBy (hfetch : AnsweredBy fetch answer) (key : Text)
    (ids : Option LookupKeys) (t : Text) (s : σ) :
    (fillReferences fetch key ids t s).value = rewrite .reference (tableText answer ids) t := by
  cases ids with
  | none => rw [fillReferences_of_none]; exact (rewrite_none .reference t).symm
  | some ids => exact (fillReferences_apply (hfetch.inTurn _ s) key).1

end

/-- The text for a reference, with the rows fetched so far as a part of the state. -/
def askReference (fetch : Text → Effect σ RowAnswer) (key : Text) (ids : LookupKeys) :
    Query (σ × FetchedRows) := fun content s =>
  let outcome := resolveReference fetch key ids content s.2 s.1
  ⟨outcome.value.1, (outcome.state, outcome.value.2), outcome.reports⟩

private theorem askAll_askReference (fetch : Text → Effect σ RowAnswer) (key : Text) (ids : LookupKeys)
    (contents : List Text) (rows : FetchedRows) (s : σ) :
    let resolved := resolveReferences fetch key ids contents rows s
    let asked := askAll (askReference fetch key ids) contents (s, rows)
    asked.value = resolved.value ∧ asked.state.1 = resolved.state ∧
      asked.reports = resolved.reports := by
  induction contents generalizing rows s with
  | nil => exact ⟨rfl, rfl, rfl⟩
  | cons content contents ih =>
    obtain ⟨hvalue, hstate, hreports⟩ := ih
      (resolveReference fetch key ids content rows s).value.2
      (resolveReference fetch key ids content rows s).state
    simp only [askAll, resolveReferences, Effect.bind_apply, Effect.pure_apply, List.append_nil]
    exact ⟨congrArg _ hvalue, hstate, congrArg _ hreports⟩

theorem fillInTurn_askReference (fetch : Text → Effect σ RowAnswer) (key : Text)
    (ids : LookupKeys) (t : Text) (s : σ) :
    let filled := fillReferences fetch key (some ids) t s
    let looped := fillInTurn (askReference fetch key ids) .reference t (s, [])
    looped.value = filled.value ∧ looped.state.1 = filled.state ∧
      looped.reports = filled.reports := by
  obtain ⟨hvalue, hstate, hreports⟩ :=
    askAll_askReference fetch key ids (contents (references t)) [] s
  simp only [fillInTurn_apply]
  refine ⟨?_, hstate, ?_⟩
  · rw [fillReferences_value]
    exact congrArg (fun table => rewrite .reference (tabled table) t) hvalue
  · simp only [fillReferences, Effect.bind_apply, Effect.pure_apply, List.append_nil]
    exact hreports

/-! ## Identifier and tag -/

private theorem splitReference_append_dot {identifier : Text} (h : '.' ∉ identifier) (tag : Text) :
    splitReference (identifier ++ '.' :: tag) = (identifier, tag) := by
  simp [splitReference, Text.breakAt_append h, Text.breakAt]

private theorem splitReference_of_dot_not_mem {identifier : Text} (h : '.' ∉ identifier) :
    splitReference identifier = (identifier, []) := by
  have hbreak := Text.breakAt_append h []
  rw [List.append_nil] at hbreak
  simp [splitReference, hbreak, Text.breakAt]

private theorem tableText_eq_some_iff {answer : Text → RowAnswer} {ids : LookupKeys}
    {content text : Text} :
    tableText answer (some ids) content = some text ↔
      ∃ lookupKey row, ids.get? (splitReference content).1 = some (some lookupKey) ∧
        answer lookupKey = .ok (some row) ∧
        row.get? (if (splitReference content).2 = [] then defaultTag
          else (splitReference content).2) = some text := by
  simp only [tableText, rowText, Option.bind_eq_bind, Option.bind_some, Option.bind_eq_some_iff,
    Option.join_eq_some_iff, List.isEmpty_iff]
  constructor
  · rintro ⟨row, ⟨lookupKey, hkey, hrow⟩, htext⟩
    refine ⟨lookupKey, row, hkey, ?_, htext⟩
    cases hanswer : answer lookupKey with
    | error error => simp [hanswer, Except.toOption] at hrow
    | ok found => simpa [hanswer, Except.toOption] using hrow
  · rintro ⟨lookupKey, row, hkey, hrow, htext⟩
    exact ⟨row, ⟨lookupKey, hkey, by rw [hrow]; rfl⟩, htext⟩

/-- The second stage replaces references by themselves. Without lookup keys it leaves the text and
fetches nothing, and reports the contents of the references, if there are any, in their order. With
lookup keys it comes to what going through the tokens with two memories comes to: the rows of the
distinct identifiers are fetched in turn. If the tables answer a lookup key alike throughout, every
reference becomes the text that its identifier and its tag designate, or stays as it is; and the
reports are those on the distinct contents, a failure being reported once for an identifier. -/
theorem references_resolved_independently (fetch : Text → Effect σ RowAnswer) (key t : Text)
    (s : σ) :
    (∃ names : List Text, names.Pairwise (List.Lex (· < ·)) ∧
      (∀ name, name ∈ names ↔ ∃ token ∈ references t, token.content = name) ∧
      fillReferences fetch key none t s =
        ⟨t, s, if references t = [] then [] else [.missingLocalizedArguments key names]⟩) ∧
    expandFrom t (fun token => token.literal t) 0 (references t) = t ∧
    (contents (references t)).Nodup ∧
    ∀ ids : LookupKeys,
      let filled := fillReferences fetch key (some ids) t s
      let looped := fillInTurn (askReference fetch key ids) .reference t (s, [])
      (looped.value = filled.value ∧ looped.state.1 = filled.state ∧
        looped.reports = filled.reports) ∧
      ∀ answer : Text → RowAnswer,
        (AnsweredInTurn fetch answer (questions ids t) s →
          filled.value = expandFrom t
              (Token.written t fun token => tableText answer (some ids) token.content) 0
              (references t) ∧
            filled.state = stateAfter fetch (questions ids t) s ∧
            (ReportsElsewhere fetch →
              ownReports filled.reports = complaints key answer ids (contents (references t)))) ∧
        ∀ identifier : Text, '.' ∉ identifier →
          (∀ tag text, tableText answer (some ids) (identifier ++ '.' :: tag) = some text ↔
            ∃ lookupKey row, ids.get? identifier = some (some lookupKey) ∧
              answer lookupKey = .ok (some row) ∧
              row.get? (if tag = [] then defaultTag else tag) = some text) ∧
          ∀ tag ∈ [[], defaultTag], tableText answer (some ids) (identifier ++ '.' :: tag) =
            tableText answer (some ids) identifier := by
  refine ⟨⟨Text.sortedDistinct ((references t).map Token.content),
    Text.sortedDistinct_pairwise _, fun name => ?_, fillReferences_of_none fetch key t s⟩,
    expandFrom_literal .reference t, nodup_contents _, fun ids =>
    ⟨fillInTurn_askReference fetch key ids t s, fun answer => ⟨fun hanswer => ?_, ?_⟩⟩⟩
  · rw [Text.mem_sortedDistinct, List.mem_map]
  · obtain ⟨hvalue, hstate, hreports⟩ := fillReferences_apply hanswer key
    exact ⟨hvalue.trans (rewrite_eq_expandFrom .reference _ t), hstate, hreports⟩
  · intro identifier hdot
    refine ⟨fun tag text => ?_, fun tag htag => ?_⟩
    · rw [tableText_eq_some_iff, splitReference_append_dot hdot]
    · simp only [tableText, splitReference_append_dot hdot, splitReference_of_dot_not_mem hdot]
      rcases List.mem_pair.mp htag with rfl | rfl <;> rfl

/-- A shelf with one book that is there and one that cannot be read, which notes what it is asked
for. -/
def shelf (lookupKey : Text) : Effect (List Text) RowAnswer := fun asked =>
  ⟨if lookupKey = "SWORD".toList then
      .ok (some (.ofList [("value".toList, "blade".toList), ("plural".toList, "blades".toList)]))
    else if lookupKey = "CURSED".toList then .error "torn page".toList
    else .ok none,
    asked ++ [lookupKey], []⟩

def shelfKeys : LookupKeys :=
  .ofList [("a".toList, some "SWORD".toList), ("b".toList, some "CURSED".toList),
    ("c".toList, some "LOST".toList), ("d".toList, none)]

/-- References of every outcome: found, without such an entry, on a failure twice, not found, and
without a lookup key. -/
def shelfText : Text :=
  ("@\x7ba\x7d @\x7ba.plural\x7d @\x7ba.x\x7d @\x7bb\x7d @\x7bb.x\x7d @\x7bc\x7d " ++
    "@\x7bd\x7d @\x7ba.value\x7d").toList

theorem shelf_references_resolved :
    let filled := fillReferences shelf "k".toList (some shelfKeys) shelfText []
    filled.value =
        "blade blades @\x7ba.x\x7d @\x7bb\x7d @\x7bb.x\x7d @\x7bc\x7d @\x7bd\x7d blade".toList ∧
      filled.state = ["SWORD".toList, "CURSED".toList, "LOST".toList] ∧
      ownReports filled.reports =
        [.missingDictionaryTag "k".toList "SWORD".toList "x".toList,
          .dictionaryFetchFailed "k".toList "CURSED".toList "torn page".toList,
          .missingLocalizedArgumentId "k".toList "d".toList] := by
  have hanswer : AnsweredBy shelf fun lookupKey => (shelf lookupKey []).value := fun _ _ => rfl
  have helsewhere : ReportsElsewhere shelf := fun _ _ _ hreport => by cases hreport
  obtain ⟨-, -, -, hkeyed⟩ := references_resolved_independently shelf "k".toList shelfText []
  obtain ⟨hvalue, hstate, hreports⟩ := ((hkeyed shelfKeys).2 _).1 (hanswer.inTurn _ _)
  exact ⟨hvalue.trans (by decide +kernel), hstate.trans (by decide +kernel),
    (hreports helsewhere).trans rfl⟩

end Phrasebook.Template
