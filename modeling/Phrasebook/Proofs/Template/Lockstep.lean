import Phrasebook.Proofs.Template.Simulation
import Phrasebook.Proofs.Template.TokenClass

/-!
Renderings in lockstep. Two renderings of requests under the same key display the same text and
report the same errors if they agree on what the template names: on the arguments of its
placeholders, on the lookup keys of the identifiers in the references left after the first stage,
and on the rows found under these. Of the reports only the errors count.
-/

set_option autoImplicit false
set_option relaxedAutoImplicit false

namespace Phrasebook

/-- The errors among reports, in order. -/
def Report.errors (reports : List Report) : List Report :=
  reports.filter fun report => report.entry.level = .error

private theorem Report.errors_append (reports reports' : List Report) :
    Report.errors (reports ++ reports') = Report.errors reports ++ Report.errors reports' :=
  List.filter_append reports reports'

variable {σ τ α β γ δ : Type} {P Q R : σ → τ → Prop} {V : α → β → Prop} {W : γ → δ → Prop}

/-- Computations that, begun in states of which `P` holds, give values of which `V` holds, end in
states of which `Q` holds, and report the same errors. -/
def Effect.InStep (P Q : σ → τ → Prop) (V : α → β → Prop) (x : Effect σ α) (y : Effect τ β) :
    Prop :=
  ∀ s t, P s t → V (x s).value (y t).value ∧ Q (x s).state (y t).state ∧
    Report.errors (x s).reports = Report.errors (y t).reports

namespace Effect.InStep

private theorem pure {a : α} {b : β} (h : V a b) : Effect.InStep P P V (Pure.pure a) (Pure.pure b) :=
  fun _ _ hst => ⟨h, hst, rfl⟩

private theorem tell {reports reports' : List Report} (h : Report.errors reports = Report.errors reports') :
    Effect.InStep P P Eq (Effect.tell reports) (Effect.tell reports') :=
  fun _ _ hst => ⟨rfl, hst, h⟩

private theorem bind {x : Effect σ α} {y : Effect τ β} {f : α → Effect σ γ} {g : β → Effect τ δ}
    (h : Effect.InStep P Q V x y) (hnext : ∀ a b, V a b → Effect.InStep Q R W (f a) (g b)) :
    Effect.InStep P R W (x >>= f) (y >>= g) := by
  intro s t hst
  obtain ⟨hvalue, hstate, herrors⟩ := h s t hst
  obtain ⟨hvalue', hstate', herrors'⟩ := hnext _ _ hvalue _ _ hstate
  refine ⟨hvalue', hstate', ?_⟩
  rw [Effect.bind_apply, Effect.bind_apply, Report.errors_append, Report.errors_append, herrors,
    herrors']

private theorem of_imp {P' : σ → τ → Prop} {x : Effect σ α} {y : Effect τ β}
    (h : Effect.InStep P Q V x y) (himp : ∀ s t, P' s t → P s t) : Effect.InStep P' Q V x y :=
  fun s t hst => h s t (himp s t hst)

end Effect.InStep

/-- Rules of one name that make the same of every content. -/
def Rule.InStep (R : σ → τ → Prop) (rule : Rule σ) (rule' : Rule τ) : Prop :=
  rule.name = rule'.name ∧ ∀ content s t, R s t →
    (rule.apply content s).1 = (rule'.apply content t).1 ∧
      R (rule.apply content s).2 (rule'.apply content t).2

namespace Template

/-! ## The first stage -/

/-- Arguments between which some identifiers make no difference: there are none, or each of the
identifiers has the same text in both, the same failure to give one, or no value at all. -/
def ArgumentsAgree (identifiers : List Text) : Option Arguments → Option Arguments → Prop
  | none, none => True
  | some args, some args' => ∀ identifier ∈ identifiers,
      (args.get? identifier).map Value.toText = (args'.get? identifier).map Value.toText
  | _, _ => False

theorem ArgumentsAgree.refl (identifiers : List Text) (args : Option Arguments) :
    ArgumentsAgree identifiers args args := by
  cases args with
  | none => trivial
  | some args => exact fun _ _ => rfl

theorem ArgumentsAgree.insert {identifiers : List Text} {identifier : Text}
    (h : identifier ∉ identifiers) (args : Arguments) (value : Value) :
    ArgumentsAgree identifiers (some args) (some (args.insert identifier value)) := by
  intro other hmem
  have hne : other ≠ identifier := fun heq => h (heq ▸ hmem)
  rw [Dict.get?_insert, if_neg hne]

private theorem fill_congr {args args' : Arguments} {identifier : Text}
    (h : (args.get? identifier).map Value.toText = (args'.get? identifier).map Value.toText)
    (key : Text) : fill key args identifier = fill key args' identifier := by
  unfold fill
  cases hvalue : args.get? identifier with
  | none =>
    have hvalue' : args'.get? identifier = none := by simpa [hvalue] using h.symm
    rw [hvalue']
  | some value =>
    rw [hvalue] at h
    obtain ⟨value', hvalue', htext⟩ := Option.map_eq_some_iff.mp h.symm
    simp only [hvalue', htext]

private theorem fillPlaceholders_congr {args args' : Option Arguments} {template : Text}
    (h : ArgumentsAgree (contents (bareTokens template)) args args') (key : Text) :
    fillPlaceholders key args template = fillPlaceholders key args' template := by
  cases args with
  | none =>
    cases args' with
    | none => rfl
    | some args' => exact h.elim
  | some args =>
    cases args' with
    | none => exact h.elim
    | some args' =>
      have hfill : ∀ identifier ∈ contents (bareTokens template),
          fill key args identifier = fill key args' identifier :=
        fun identifier hmem => fill_congr (h identifier hmem) key
      refine Prod.ext ?_ ?_
      · change rewrite .bare (fun identifier => (fill key args identifier).toOption) template =
          rewrite .bare (fun identifier => (fill key args' identifier).toOption) template
        refine rewrite_congr fun identifier hmem => ?_
        rw [hfill identifier (mem_contents.mpr hmem)]
      · refine List.filterMap_congr fun identifier hmem => ?_
        rw [hfill identifier hmem]

/-! ## The second stage -/

def identifiers (text : Text) : List Text :=
  (contents (references text)).map fun content => (splitReference content).1

/-- Lookup keys between which some identifiers make no difference. -/
def KeysAgree (identifiers : List Text) : Option LookupKeys → Option LookupKeys → Prop
  | none, none => True
  | some ids, some ids' => ∀ identifier ∈ identifiers,
      (ids.get? identifier).join = (ids'.get? identifier).join
  | _, _ => False

theorem KeysAgree.refl (identifiers : List Text) (ids : Option LookupKeys) :
    KeysAgree identifiers ids ids := by
  cases ids with
  | none => trivial
  | some ids => exact fun _ _ => rfl

theorem KeysAgree.insert {identifiers : List Text} {identifier : Text}
    (h : identifier ∉ identifiers) (ids : LookupKeys) (lookupKey : Option Text) :
    KeysAgree identifiers (some ids) (some (ids.insert identifier lookupKey)) := by
  intro other hmem
  have hne : other ≠ identifier := fun heq => h (heq ▸ hmem)
  rw [Dict.get?_insert, if_neg hne]

/-- Rows that have the same text under every tag, where a row is not the same as none. -/
def RowsAgree (row row' : Option Row) : Prop := row.map Dict.get? = row'.map Dict.get?

/-- The lookup keys that the references of a text lead to. -/
def lookedUp (ids : Option LookupKeys) (text : Text) : List Text :=
  (identifiers text).filterMap fun identifier => (ids.bind (·.get? identifier)).join

/-- Answers of tables between which there is no difference. -/
def AnswersAgree : RowAnswer → RowAnswer → Prop
  | .ok row, .ok row' => RowsAgree row row'
  | .error error, .error error' => error = error'
  | _, _ => False

def FetchedAgree (rows rows' : FetchedRows) : Prop :=
  List.Forall₂ (fun entry entry' => entry.1 = entry'.1 ∧ RowsAgree entry.2 entry'.2) rows rows'

private theorem FetchedAgree.lookup {rows rows' : FetchedRows} (h : FetchedAgree rows rows')
    (identifier : Text) :
    Option.Rel RowsAgree (rows.lookup identifier) (rows'.lookup identifier) := by
  induction h with
  | nil => exact .none
  | @cons entry entry' rows rows' hentry _ ih =>
    obtain ⟨other, row⟩ := entry
    obtain ⟨other', row'⟩ := entry'
    obtain ⟨rfl, hrow⟩ : other = other' ∧ RowsAgree row row' := hentry
    rw [List.lookup_cons, List.lookup_cons]
    by_cases heq : identifier = other
    · simpa [heq] using Option.Rel.some hrow
    · simpa [beq_false_of_ne heq] using ih

private theorem entryOf_congr {row row' : Row} (h : row.get? = row'.get?)
    (key lookupKey tag : Text) :
    entryOf key lookupKey tag row = entryOf key lookupKey tag row' := by
  simp only [entryOf, h]

private theorem map_entryOf_congr {row row' : Option Row} (h : RowsAgree row row')
    (key lookupKey tag : Text) :
    row.map (entryOf key lookupKey tag) = row'.map (entryOf key lookupKey tag) := by
  cases row with
  | none =>
    obtain rfl : row' = none := Option.map_eq_none_iff.mp h.symm
    rfl
  | some row =>
    obtain ⟨row', rfl, hget⟩ := Option.map_eq_some_iff.mp (Eq.symm h)
    rw [Option.map_some, Option.map_some, entryOf_congr hget.symm]

variable {fetch : Text → Effect σ RowAnswer} {fetch' : Text → Effect τ RowAnswer}

private theorem rowOf_inStep {lookupKey : Text}
    (hfetch : Effect.InStep P P AnswersAgree (fetch lookupKey) (fetch' lookupKey))
    (key identifier : Text) {rows rows' : FetchedRows} (hrows : FetchedAgree rows rows') :
    Effect.InStep P P
      (fun found found' => RowsAgree found.1 found'.1 ∧ FetchedAgree found.2 found'.2)
      (rowOf fetch key identifier lookupKey rows)
      (rowOf fetch' key identifier lookupKey rows') := by
  have hlookup := hrows.lookup identifier
  unfold rowOf
  cases hrow : rows.lookup identifier with
  | some row =>
    rw [hrow] at hlookup
    cases hrow' : rows'.lookup identifier with
    | none => rw [hrow'] at hlookup; cases hlookup
    | some row' =>
      rw [hrow'] at hlookup
      cases hlookup with
      | some hagree => exact .pure ⟨hagree, hrows⟩
  | none =>
    rw [hrow] at hlookup
    cases hrow' : rows'.lookup identifier with
    | some row' => rw [hrow'] at hlookup; cases hlookup
    | none =>
      refine hfetch.bind fun answer answer' hanswer => ?_
      rcases answer with error | row
      · rcases answer' with error' | row'
        · obtain rfl : error = error' := hanswer
          exact (Effect.InStep.tell rfl).bind fun _ _ _ => .pure ⟨rfl, .cons ⟨rfl, rfl⟩ hrows⟩
        · exact hanswer.elim
      · rcases answer' with error' | row'
        · exact hanswer.elim
        · have hrow : RowsAgree row row' := hanswer
          exact .pure ⟨hrow, .cons ⟨rfl, hrow⟩ hrows⟩

private theorem resolveReference_inStep {ids ids' : LookupKeys} {content : Text}
    (hids : (ids.get? (splitReference content).1).join =
      (ids'.get? (splitReference content).1).join)
    (hfetch : ∀ lookupKey, (ids.get? (splitReference content).1).join = some lookupKey →
      Effect.InStep P P AnswersAgree (fetch lookupKey) (fetch' lookupKey))
    (key : Text) {rows rows' : FetchedRows} (hrows : FetchedAgree rows rows') :
    Effect.InStep P P (fun found found' => found.1 = found'.1 ∧ FetchedAgree found.2 found'.2)
      (resolveReference fetch key ids content rows)
      (resolveReference fetch' key ids' content rows') := by
  unfold resolveReference
  rcases hsplit : splitReference content with ⟨identifier, tag⟩
  rw [hsplit] at hids hfetch
  simp only at hids hfetch ⊢
  rw [← hids]
  cases hkey : (ids.get? identifier).join with
  | none => exact (Effect.InStep.tell rfl).bind fun _ _ _ => .pure ⟨rfl, hrows⟩
  | some lookupKey =>
    refine (rowOf_inStep (hfetch lookupKey hkey) key identifier hrows).bind ?_
    rintro ⟨row, rows⟩ ⟨row', rows'⟩ ⟨hrow, hrows⟩
    simp only [map_entryOf_congr hrow key lookupKey tag]
    rcases row'.map (entryOf key lookupKey tag) with _ | report | text
    · exact .pure ⟨rfl, hrows⟩
    · exact (Effect.InStep.tell rfl).bind fun _ _ _ => .pure ⟨rfl, hrows⟩
    · exact .pure ⟨rfl, hrows⟩

private theorem resolveReferences_inStep {ids ids' : LookupKeys} {contents : List Text}
    (hids : ∀ content ∈ contents,
      (ids.get? (splitReference content).1).join = (ids'.get? (splitReference content).1).join)
    (hfetch : ∀ content ∈ contents, ∀ lookupKey,
      (ids.get? (splitReference content).1).join = some lookupKey →
        Effect.InStep P P AnswersAgree (fetch lookupKey) (fetch' lookupKey))
    (key : Text) {rows rows' : FetchedRows} (hrows : FetchedAgree rows rows') :
    Effect.InStep P P Eq (resolveReferences fetch key ids contents rows)
      (resolveReferences fetch' key ids' contents rows') := by
  induction contents generalizing rows rows' with
  | nil => exact .pure rfl
  | cons content contents ih =>
    rw [List.forall_mem_cons] at hids hfetch
    refine (resolveReference_inStep hids.1 hfetch.1 key hrows).bind ?_
    rintro ⟨text, rows⟩ ⟨text', rows'⟩ ⟨htext, hrows⟩
    refine (ih hids.2 hfetch.2 hrows).bind fun more more' hmore => .pure ?_
    simp only at htext
    rw [htext, hmore]

private theorem fillReferences_inStep {ids ids' : Option LookupKeys} {text : Text}
    (hids : KeysAgree (identifiers text) ids ids')
    (hfetch : ∀ lookupKey ∈ lookedUp ids text,
      Effect.InStep P P AnswersAgree (fetch lookupKey) (fetch' lookupKey)) (key : Text) :
    Effect.InStep P P Eq (fillReferences fetch key ids text)
      (fillReferences fetch' key ids' text) := by
  cases ids with
  | none =>
    cases ids' with
    | some ids' => exact hids.elim
    | none =>
      simp only [fillReferences]
      split
      · exact .pure rfl
      · exact (Effect.InStep.tell rfl).bind fun _ _ _ => .pure rfl
  | some ids =>
    cases ids' with
    | none => exact hids.elim
    | some ids' =>
      have hmem : ∀ content ∈ contents (references text),
          (splitReference content).1 ∈ identifiers text := fun content => List.mem_map_of_mem
      refine (resolveReferences_inStep (fun content h => hids _ (hmem content h))
        (fun content h lookupKey hkey => hfetch lookupKey ?_) key .nil).bind ?_
      · exact List.mem_filterMap.mpr ⟨_, hmem content h, hkey⟩
      · rintro resolved _ rfl
        exact .pure rfl

end Template

/-! ## The third stage -/

private theorem Rule.ofFunction_inStep (name : Text) (f : Text → Text) :
    Rule.InStep R (.ofFunction name f) (.ofFunction name f) :=
  ⟨rfl, fun _ _ _ hst => ⟨rfl, hst⟩⟩

private theorem Rule.Plural.rule_inStep {tag : σ → Except Text Text} {tag' : τ → Except Text Text}
    (h : ∀ s t, R s t → tag s = tag' t) : Rule.InStep R (rule tag) (rule tag') := by
  refine ⟨rfl, fun content s t hst => ⟨?_, hst⟩⟩
  change RuleResult.ofTagged (apply (tag s) content) = .ofTagged (apply (tag' t) content)
  rw [h s t hst]

theorem Chain.builtIn_inStep {tag : σ → Except Text Text} {tag' : τ → Except Text Text}
    (h : ∀ s t, R s t → tag s = tag' t) :
    List.Forall₂ (Rule.InStep R) (Chain.builtIn tag) (Chain.builtIn tag') :=
  .cons (Rule.ofFunction_inStep _ _) (.cons (Rule.Plural.rule_inStep h) .nil)

namespace Chain

variable {chain : Chain σ} {chain' : Chain τ}

private theorem attempt_inStep {rule : Rule σ} {rule' : Rule τ} (h : rule.InStep R rule')
    (content : Text) : Effect.InStep R R Eq (attempt rule content) (attempt rule' content) := by
  intro s t hst
  obtain ⟨hresult, hstate⟩ := h.2 content s t hst
  unfold attempt
  rcases hrule : rule.apply content s with ⟨result, s'⟩
  rcases hrule' : rule'.apply content t with ⟨result', t'⟩
  rw [hrule, hrule'] at hresult hstate
  obtain rfl : result = result' := hresult
  cases result <;> exact ⟨rfl, hstate, rfl⟩

private theorem apply_inStep (h : List.Forall₂ (Rule.InStep R) chain chain') (content : Text) :
    Effect.InStep R R Eq (chain.apply content) (chain'.apply content) := by
  induction h with
  | nil => exact .pure rfl
  | @cons rule rule' chain chain' hrule _ ih =>
    refine (attempt_inStep hrule content).bind ?_
    rintro (error | output) _ rfl
    · simp only [hrule.1]
      exact (Effect.InStep.tell rfl).bind fun _ _ _ => ih
    · by_cases hout : output = content
      · simpa only [hout, if_true] using ih
      · simpa only [hout, if_false] using Effect.InStep.pure rfl

private theorem applyAll_inStep (h : List.Forall₂ (Rule.InStep R) chain chain')
    (contents : List Text) :
    Effect.InStep R R Eq (chain.applyAll contents) (chain'.applyAll contents) := by
  induction contents with
  | nil => exact .pure rfl
  | cons content contents ih =>
    refine (apply_inStep h content).bind ?_
    rintro output _ rfl
    refine ih.bind ?_
    rintro more _ rfl
    exact .pure rfl

private theorem resolve_inStep (h : List.Forall₂ (Rule.InStep R) chain chain') (text : Text) :
    Effect.InStep R R Eq (chain.resolve text) (chain'.resolve text) := by
  refine (applyAll_inStep h _).bind ?_
  rintro outputs _ rfl
  exact .pure rfl

end Chain

/-! ## All stages -/

namespace Template

def textOf (policy key : Text) (answer : Except TemplateFault Text) : Text :=
  answer.toOption.getD (substitute policy key)

variable {source : Source σ} {source' : Source τ}

private theorem fetch_inStep {key : Text} {answer : Except TemplateFault Text}
    (h : Effect.InStep P P (fun found found' => found = answer ∧ found' = answer)
      (source.template key) (source'.template key)) (policy : Text) :
    Effect.InStep P P
      (fun found found' => found = textOf policy key answer ∧ found' = textOf policy key answer)
      (fetch source policy key) (fetch source' policy key) := by
  refine h.bind fun found found' hfound => ?_
  rw [hfound.1, hfound.2]
  rcases answer with (locale | message) | template
  · exact (Effect.InStep.tell rfl).bind fun _ _ _ => .pure ⟨rfl, rfl⟩
  · exact (Effect.InStep.tell rfl).bind fun _ _ _ => .pure ⟨rfl, rfl⟩
  · exact .pure ⟨rfl, rfl⟩

/-- Renderings that agree on what their common template names end with the same text and report the
same errors. Up to the third stage they stay in states of which `P` holds. -/
theorem render_inStep {chain : Chain σ} {chain' : Chain τ} {policy : Text}
    {request request' : Request} {answer : Except TemplateFault Text}
    (hkey : request.key = request'.key)
    (htemplate : Effect.InStep P P (fun found found' => found = answer ∧ found' = answer)
      (source.template request.key) (source'.template request.key))
    (hargs : ArgumentsAgree (contents (bareTokens (textOf policy request.key answer)))
      request.args request'.args)
    (hids : KeysAgree (identifiers (filled request (textOf policy request.key answer)))
      request.ids request'.ids)
    (hrows : ∀ lookupKey ∈
      lookedUp request.ids (filled request (textOf policy request.key answer)),
        Effect.InStep P P AnswersAgree (source.row lookupKey) (source'.row lookupKey))
    (hrules : ∀ s t, P s t → R s t) (hchain : List.Forall₂ (Rule.InStep R) chain chain') :
    Effect.InStep P R Eq (render source chain policy request)
      (render source' chain' policy request') := by
  have hfilled := fillPlaceholders_congr hargs request.key
  rw [render_eq, render_eq, ← hkey]
  refine (fetch_inStep htemplate policy).bind ?_
  rintro _ _ ⟨rfl, rfl⟩
  rw [← hfilled]
  refine (Effect.InStep.tell rfl).bind fun _ _ _ => ?_
  refine (fillReferences_inStep hids hrows request.key).bind ?_
  rintro resolved _ rfl
  exact (Chain.resolve_inStep hchain resolved).of_imp hrules

end Template

end Phrasebook
