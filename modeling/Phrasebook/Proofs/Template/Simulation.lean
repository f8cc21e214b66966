import Mathlib.Data.List.Forall2
import Phrasebook.Proofs.Template.Stages

/-!
Renderings side by side. Where two sources and two chains answer alike in related states, so do the
renderings made of them. Reports do not count, nor does the difference between a failure and the
harmless answer that is taken in its place.
-/

set_option autoImplicit false
set_option relaxedAutoImplicit false

namespace Phrasebook

variable {σ τ α β : Type} {R : σ → τ → Prop}

/-- Computations that give the same value in related states, and leave related states. -/
def Effect.Simulates (R : σ → τ → Prop) (x : Effect σ α) (y : Effect τ α) : Prop :=
  ∀ s t, R s t → (x s).value = (y t).value ∧ R (x s).state (y t).state

namespace Effect.Simulates

private theorem pure (a : α) : Effect.Simulates R (Pure.pure a) (Pure.pure a) := fun _ _ h => ⟨rfl, h⟩

private theorem tell (reports reports' : List Report) :
    Effect.Simulates R (Effect.tell reports) (Effect.tell reports') := fun _ _ h => ⟨rfl, h⟩

private theorem bind {x : Effect σ α} {y : Effect τ α} {f : α → Effect σ β} {g : α → Effect τ β}
    (h : Effect.Simulates R x y) (hnext : ∀ a, Effect.Simulates R (f a) (g a)) :
    Effect.Simulates R (x >>= f) (y >>= g) := by
  intro s t hst
  obtain ⟨hvalue, hstate⟩ := h s t hst
  rw [Effect.bind_apply, Effect.bind_apply, hvalue]
  exact hnext _ _ _ hstate

end Effect.Simulates

/-- Rules that make the same of a content, where giving it back and failing are the same. -/
def Rule.Simulates (R : σ → τ → Prop) (rule : Rule σ) (rule' : Rule τ) : Prop :=
  ∀ content s t, R s t →
    Rule.changeOf content (rule.apply content s).1 =
        Rule.changeOf content (rule'.apply content t).1 ∧
      R (rule.apply content s).2 (rule'.apply content t).2

/-- Tables that give the same rows, where having none and failing are the same. -/
def RowsSimulate (R : σ → τ → Prop) (fetch : Text → Effect σ Template.RowAnswer)
    (fetch' : Text → Effect τ Template.RowAnswer) : Prop :=
  ∀ lookupKey s t, R s t →
    (fetch lookupKey s).value.toOption.join = (fetch' lookupKey t).value.toOption.join ∧
      R (fetch lookupKey s).state (fetch' lookupKey t).state

namespace Template

variable {fetch : Text → Effect σ RowAnswer} {fetch' : Text → Effect τ RowAnswer}

private theorem rowOf_simulates (h : RowsSimulate R fetch fetch')
    (key identifier lookupKey : Text) (rows : FetchedRows) :
    Effect.Simulates R (rowOf fetch key identifier lookupKey rows)
      (rowOf fetch' key identifier lookupKey rows) := by
  -- what is kept of an answer, be it a failure or not, is its row
  have general : ∀ {σ : Type} (fetch : Text → Effect σ RowAnswer) (s : σ),
      rows.lookup identifier = none →
        (rowOf fetch key identifier lookupKey rows s).value =
            ((fetch lookupKey s).value.toOption.join,
              (identifier, (fetch lookupKey s).value.toOption.join) :: rows) ∧
          (rowOf fetch key identifier lookupKey rows s).state = (fetch lookupKey s).state := by
    intro σ fetch s hlookup
    simp only [rowOf, hlookup, Effect.bind_apply]
    cases (fetch lookupKey s).value <;> exact ⟨rfl, rfl⟩
  cases hlookup : rows.lookup identifier with
  | some row =>
    simp only [rowOf, hlookup]
    exact .pure _
  | none =>
    intro s t hst
    obtain ⟨hvalue, hstate⟩ := general fetch s hlookup
    obtain ⟨hvalue', hstate'⟩ := general fetch' t hlookup
    obtain ⟨hrow, hnext⟩ := h lookupKey s t hst
    rw [hvalue, hvalue', hstate, hstate', hrow]
    exact ⟨rfl, hnext⟩

private theorem resolveReference_simulates (h : RowsSimulate R fetch fetch') (key : Text)
    (ids : LookupKeys) (content : Text) (rows : FetchedRows) :
    Effect.Simulates R (resolveReference fetch key ids content rows)
      (resolveReference fetch' key ids content rows) := by
  unfold resolveReference
  rcases splitReference content with ⟨identifier, tag⟩
  cases hids : (ids.get? identifier).join with
  | none =>
    simp only [hids]
    exact (Effect.Simulates.tell _ _).bind fun _ => .pure _
  | some lookupKey =>
    simp only [hids]
    refine (rowOf_simulates h key identifier lookupKey rows).bind ?_
    rintro ⟨row, rows⟩
    rcases row.map (entryOf key lookupKey tag) with _ | report | text
    · exact .pure _
    · exact (Effect.Simulates.tell _ _).bind fun _ => .pure _
    · exact .pure _

private theorem resolveReferences_simulates (h : RowsSimulate R fetch fetch') (key : Text)
    (ids : LookupKeys) (contents : List Text) (rows : FetchedRows) :
    Effect.Simulates R (resolveReferences fetch key ids contents rows)
      (resolveReferences fetch' key ids contents rows) := by
  induction contents generalizing rows with
  | nil => exact .pure _
  | cons content contents ih =>
    exact (resolveReference_simulates h key ids content rows).bind fun found =>
      (ih found.2).bind fun _ => .pure _

private theorem fillReferences_simulates (h : RowsSimulate R fetch fetch') (key : Text)
    (ids : Option LookupKeys) (t : Text) :
    Effect.Simulates R (fillReferences fetch key ids t) (fillReferences fetch' key ids t) := by
  cases ids with
  | none =>
    simp only [fillReferences]
    split
    · exact .pure _
    · exact (Effect.Simulates.tell _ _).bind fun _ => .pure _
  | some ids => exact (resolveReferences_simulates h key ids _ []).bind fun _ => .pure _

end Template

namespace Chain

variable {chain : Chain σ} {chain' : Chain τ}

private theorem apply_cons (rule : Rule σ) (rules : Chain σ) (content : Text) (s : σ) :
    let s' := (rule.apply content s).2
    (apply content (rule :: rules) s).value =
        (Rule.changeOf content (rule.apply content s).1).elim (apply content rules s').value some ∧
      (apply content (rule :: rules) s).state =
        (Rule.changeOf content (rule.apply content s).1).elim (apply content rules s').state
          fun _ => s' := by
  simp only [apply, Effect.bind_apply, attempt]
  rcases rule.apply content s with ⟨t | type | message | message, s'⟩
  case text =>
    by_cases houtput : t = content
    · simp [Rule.changeOf, houtput]
    · simp [Rule.changeOf, houtput]
  all_goals exact ⟨rfl, rfl⟩

private theorem apply_simulates (h : List.Forall₂ (Rule.Simulates R) chain chain') (content : Text) :
    Effect.Simulates R (chain.apply content) (chain'.apply content) := by
  induction h with
  | nil => exact .pure _
  | @cons rule rule' chain chain' hrule _ ih =>
    intro s t hst
    obtain ⟨hvalue, hstate⟩ := apply_cons rule chain content s
    obtain ⟨hvalue', hstate'⟩ := apply_cons rule' chain' content t
    obtain ⟨hchange, hnext⟩ := hrule content s t hst
    rw [hvalue, hvalue', hstate, hstate', hchange]
    cases Rule.changeOf content (rule'.apply content t).1 with
    | none => exact ih _ _ hnext
    | some output => exact ⟨rfl, hnext⟩

private theorem applyAll_simulates (h : List.Forall₂ (Rule.Simulates R) chain chain')
    (contents : List Text) :
    Effect.Simulates R (chain.applyAll contents) (chain'.applyAll contents) := by
  induction contents with
  | nil => exact .pure _
  | cons content contents ih =>
    exact (apply_simulates h content).bind fun _ => ih.bind fun _ => .pure _

private theorem resolve_simulates (h : List.Forall₂ (Rule.Simulates R) chain chain') (t : Text) :
    Effect.Simulates R (chain.resolve t) (chain'.resolve t) :=
  (applyAll_simulates h _).bind fun _ => .pure _

end Chain

namespace Template

/-- Requests under the same key, with the same texts for arguments and the same lookup keys, are
rendered alike from sources and by chains that answer alike. -/
theorem render_simulates {source : Source σ} {source' : Source τ} {chain : Chain σ}
    {chain' : Chain τ} {policy : Text} {request request' : Request}
    (hfetch : Effect.Simulates R (fetch source policy request.key)
      (fetch source' policy request'.key))
    (hrows : RowsSimulate R source.row source'.row)
    (hchain : List.Forall₂ (Rule.Simulates R) chain chain')
    (hkey : request'.key = request.key) (hids : request'.ids = request.ids)
    (hargs : ∀ identifier, argumentText request'.args identifier =
      argumentText request.args identifier) :
    Effect.Simulates R (render source chain policy request)
      (render source' chain' policy request') := by
  have hfilled : ∀ template, (fillPlaceholders request'.key request'.args template).1 =
      (fillPlaceholders request.key request.args template).1 := by
    intro template
    rw [fillPlaceholders_fst, fillPlaceholders_fst]
    exact rewrite_congr fun identifier _ => hargs identifier
  rw [render_eq, render_eq]
  refine hfetch.bind fun template => ?_
  refine (Effect.Simulates.tell _ _).bind fun _ => ?_
  rw [hfilled, hkey, hids]
  exact (fillReferences_simulates hrows request.key request.ids _).bind (Chain.resolve_simulates hchain)

end Template

end Phrasebook
