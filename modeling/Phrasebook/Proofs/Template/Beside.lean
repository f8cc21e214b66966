import Phrasebook.Template.Render

/-!
Rendering beside a state. Whatever else there is, a rendering works on the state of its source and its
rules alone: with a further state beside that, which neither of them touches, it comes to the same and
leaves the further state as it is.
-/

set_option autoImplicit false
set_option relaxedAutoImplicit false

namespace Phrasebook

variable {σ τ α β : Type}

namespace Effect

private theorem pure_beside (a : α) : (Pure.pure a : Effect (τ × σ) α) = (Pure.pure a : Effect σ α).beside :=
  rfl

private theorem report_beside (r : Report) :
    (Effect.report r : Effect (τ × σ) Unit) = (Effect.report r : Effect σ Unit).beside :=
  rfl

private theorem tell_beside (reports : List Report) :
    (Effect.tell reports : Effect (τ × σ) Unit) = (Effect.tell reports : Effect σ Unit).beside :=
  rfl

private theorem bind_beside {x : Effect (τ × σ) α} {y : Effect σ α} {f : α → Effect (τ × σ) β}
    {g : α → Effect σ β} (h : x = y.beside) (hnext : ∀ a, f a = (g a).beside) :
    x >>= f = (y >>= g).beside := by
  obtain rfl : f = fun a => (g a).beside := funext hnext
  rw [h]
  rfl

end Effect

/-- A rule beside a state in which it has no part. -/
def Rule.beside (rule : Rule σ) : Rule (τ × σ) where
  name := rule.name
  apply content s := ((rule.apply content s.2).1, (s.1, (rule.apply content s.2).2))

namespace Template

variable (τ) (fetch : Text → Effect σ RowAnswer)

private theorem rowOf_beside (key identifier lookupKey : Text) (rows : FetchedRows) :
    rowOf (fun lookupKey => ((fetch lookupKey).beside : Effect (τ × σ) RowAnswer)) key identifier
      lookupKey rows = (rowOf fetch key identifier lookupKey rows).beside := by
  unfold rowOf
  cases rows.lookup identifier with
  | some row => exact Effect.pure_beside _
  | none =>
    refine Effect.bind_beside rfl fun answer => ?_
    cases answer with
    | ok row => exact Effect.pure_beside _
    | error error =>
      exact Effect.bind_beside (Effect.report_beside _) fun _ => Effect.pure_beside _

private theorem resolveReference_beside (key : Text) (ids : LookupKeys) (content : Text)
    (rows : FetchedRows) :
    resolveReference (fun lookupKey => ((fetch lookupKey).beside : Effect (τ × σ) RowAnswer)) key
      ids content rows = (resolveReference fetch key ids content rows).beside := by
  unfold resolveReference
  rcases splitReference content with ⟨identifier, tag⟩
  cases hids : (ids.get? identifier).join with
  | none =>
    simp only [hids]
    exact Effect.bind_beside (Effect.report_beside _) fun _ => Effect.pure_beside _
  | some lookupKey =>
    simp only [hids]
    refine Effect.bind_beside (rowOf_beside τ fetch key identifier lookupKey rows) ?_
    rintro ⟨row, rows'⟩
    dsimp only
    rcases row.map (entryOf key lookupKey tag) with _ | (report | text)
    · exact Effect.pure_beside _
    · exact Effect.bind_beside (Effect.report_beside _) fun _ => Effect.pure_beside _
    · exact Effect.pure_beside _

private theorem resolveReferences_beside (key : Text) (ids : LookupKeys) (contents : List Text)
    (rows : FetchedRows) :
    resolveReferences (fun lookupKey => ((fetch lookupKey).beside : Effect (τ × σ) RowAnswer)) key
      ids contents rows = (resolveReferences fetch key ids contents rows).beside := by
  induction contents generalizing rows with
  | nil => exact Effect.pure_beside _
  | cons content contents ih =>
    exact Effect.bind_beside (resolveReference_beside τ fetch key ids content rows) fun found =>
      Effect.bind_beside (ih found.2) fun _ => Effect.pure_beside _

private theorem fillReferences_beside (key : Text) (ids : Option LookupKeys) (t : Text) :
    fillReferences (fun lookupKey => ((fetch lookupKey).beside : Effect (τ × σ) RowAnswer)) key ids
      t = (fillReferences fetch key ids t).beside := by
  cases ids with
  | none =>
    simp only [fillReferences]
    split
    · exact Effect.pure_beside _
    · exact Effect.bind_beside (Effect.report_beside _) fun _ => Effect.pure_beside _
  | some ids =>
    exact Effect.bind_beside (resolveReferences_beside τ fetch key ids _ []) fun _ =>
      Effect.pure_beside _

end Template

namespace Chain

variable (τ) (chain : Chain σ)

private theorem attempt_beside (rule : Rule σ) (content : Text) :
    attempt (rule.beside : Rule (τ × σ)) content = (attempt rule content).beside := by
  funext s
  simp only [attempt, Rule.beside, Effect.beside]
  rcases rule.apply content s.2 with ⟨result, s'⟩
  cases result <;> rfl

private theorem apply_beside (content : Text) :
    apply content (chain.map Rule.beside : Chain (τ × σ)) = (chain.apply content).beside := by
  induction chain with
  | nil => exact Effect.pure_beside _
  | cons rule rules ih =>
    refine Effect.bind_beside (attempt_beside τ rule content) fun attempted => ?_
    cases attempted with
    | error error => exact Effect.bind_beside (Effect.report_beside _) fun _ => ih
    | ok output =>
      by_cases h : output = content
      · simp only [h, if_true]
        exact ih
      · simp only [h, if_false]
        exact Effect.pure_beside _

private theorem applyAll_beside (contents : List Text) :
    applyAll (chain.map Rule.beside : Chain (τ × σ)) contents =
      (chain.applyAll contents).beside := by
  induction contents with
  | nil => exact Effect.pure_beside _
  | cons content contents ih =>
    exact Effect.bind_beside (apply_beside τ chain content) fun _ =>
      Effect.bind_beside ih fun _ => Effect.pure_beside _

private theorem resolve_beside (t : Text) :
    resolve (chain.map Rule.beside : Chain (τ × σ)) t = (chain.resolve t).beside :=
  Effect.bind_beside (applyAll_beside τ chain _) fun _ => Effect.pure_beside _

theorem builtIn_beside (tag : σ → Except Text Text) :
    (builtIn tag).map Rule.beside = (builtIn fun s => tag s.2 : Chain (τ × σ)) :=
  rfl

end Chain

namespace Template

variable (τ) (source : Source σ)

private theorem fetch_beside (policy key : Text) :
    fetch (source.beside : Source (τ × σ)) policy key = (fetch source policy key).beside := by
  refine Effect.bind_beside rfl fun answer => ?_
  rcases answer with (_ | _) | _
  · exact Effect.bind_beside (Effect.report_beside _) fun _ => Effect.pure_beside _
  · exact Effect.bind_beside (Effect.report_beside _) fun _ => Effect.pure_beside _
  · exact Effect.pure_beside _

theorem render_beside (chain : Chain σ) (policy : Text) (request : Request) :
    render (source.beside : Source (τ × σ)) (chain.map Rule.beside) policy request =
      (render source chain policy request).beside := by
  refine Effect.bind_beside (fetch_beside τ source policy request.key) fun template => ?_
  refine Effect.bind_beside (Effect.tell_beside _) fun _ => ?_
  exact Effect.bind_beside (fillReferences_beside τ source.row _ _ _) fun resolved =>
    Chain.resolve_beside τ chain resolved

end Template

end Phrasebook
