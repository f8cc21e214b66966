import Phrasebook.Manager
import Phrasebook.Proofs.Dict.Merging
import Phrasebook.Proofs.Display.Refresh
import Phrasebook.Proofs.Template.Lockstep

/-!
The two levels of a manager as one catalog. Looking up in the catalog of the active locale and then
in that of the fallback locale is looking up once in the one laid over the other: templates are
overridden key by key, and rows as a whole, so that a row of the active locale hides all entries of
the fallback's.
-/

set_option autoImplicit false
set_option relaxedAutoImplicit false

namespace Phrasebook

/-- The catalog laid over another one. No row has entries of both. -/
def Catalog.overlay (c below : Catalog) : Catalog :=
  { c with strings := below.strings.update c.strings, tables := below.tables.update c.tables }

/-- A catalog alone as a source of templates and rows. -/
def Catalog.source {σ : Type} (c : Catalog) : Source σ where
  template key := pure ((c.template? key).elim (.error (.notFound (some c.locale.tag))) .ok)
  row lookupKey := pure (.ok (c.row? lookupKey))

private theorem Catalog.template?_overlay (c below : Catalog) (key : Text) :
    (c.overlay below).template? key = (c.template? key).or (below.template? key) :=
  Dict.get?_update below.strings c.strings key

private theorem Catalog.row?_overlay (c below : Catalog) (lookupKey : Text) :
    (c.overlay below).row? lookupKey = (c.row? lookupKey).or (below.row? lookupKey) :=
  Dict.get?_update below.tables c.tables lookupKey

namespace Manager

variable {ε σ τ α : Type}

/-- What is held of a locale: its catalog, or an empty one if none is loaded. -/
def holding (m : Manager) (locale : Locale) : Catalog := (m.catalogs.get? locale).getD { locale }

/-- The catalog of the active locale laid over that of the fallback locale. -/
def overlaid (m : Manager) : Catalog :=
  { (m.holding m.active).overlay (m.holding m.fallback) with locale := m.active }

private theorem template?_holding (m : Manager) (locale : Locale) (key : Text) :
    (m.holding locale).template? key = m.find locale (·.template? key) := by
  unfold holding find
  cases m.catalogs.get? locale <;> rfl

private theorem row?_holding (m : Manager) (locale : Locale) (lookupKey : Text) :
    (m.holding locale).row? lookupKey = m.find locale (·.row? lookupKey) := by
  unfold holding find
  cases m.catalogs.get? locale <;> rfl

private theorem template?_overlaid (m : Manager) (key : Text) :
    m.overlaid.template? key =
      (m.find m.active (·.template? key)).or (m.find m.fallback (·.template? key)) := by
  rw [← template?_holding, ← template?_holding]
  exact Catalog.template?_overlay _ _ key

private theorem row?_overlaid (m : Manager) (lookupKey : Text) :
    m.overlaid.row? lookupKey =
      (m.find m.active (·.row? lookupKey)).or (m.find m.fallback (·.row? lookupKey)) := by
  rw [← row?_holding, ← row?_holding]
  exact Catalog.row?_overlay _ _ lookupKey

theorem lookUp_fst (m : Manager) (look : Catalog → Option α) (key : Text) :
    (m.lookUp look key).1 = (m.find m.active look).or (m.find m.fallback look) := by
  unfold lookUp
  cases hactive : m.find m.active look with
  | some found => rfl
  | none =>
    by_cases hsame : m.active = m.fallback
    · rw [← hsame, hactive]
      simp
    · simp only [hsame, if_false]
      cases m.find m.fallback look <;> rfl

theorem errors_lookUp (m : Manager) (look : Catalog → Option α) (key : Text) :
    Report.errors (m.lookUp look key).2 = [] := by
  unfold lookUp
  cases m.find m.active look with
  | some found => rfl
  | none =>
    by_cases hsame : m.active = m.fallback
    · simp only [hsame, if_true]
      rfl
    · simp only [hsame, if_false]
      cases m.find m.fallback look <;> rfl

private theorem template?_fst (m : Manager) (key : Text) :
    (m.template? key).1 = m.overlaid.template? key := by
  rw [template?_overlaid]
  exact lookUp_fst m _ key

private theorem row?_fst (m : Manager) (lookupKey : Text) :
    (m.row? lookupKey).1 = m.overlaid.row? lookupKey := by
  rw [row?_overlaid]
  exact lookUp_fst m _ lookupKey

/-- What comes of a request for a template. -/
def answer (m : Manager) (key : Text) : Except TemplateFault Text :=
  (m.template? key).1.elim (.error (.notFound (some m.active.tag))) .ok

private theorem answer_overlaid (m : Manager) (key : Text) :
    m.answer key =
      (m.overlaid.template? key).elim (.error (.notFound (some m.active.tag))) .ok := by
  rw [answer, template?_fst]

/-- Rendering through a manager is rendering from its two catalogs as one, up to the reports on
templates and rows found in the fallback locale. -/
private theorem render_overlaid_inStep (manager : σ → Manager) (chain : Chain σ) (policy : Text)
    (request : Request) (s : σ) :
    Effect.InStep (fun s' t' => s' = s ∧ t' = s) Eq Eq
      (Template.render (source manager) chain policy request)
      (Template.render (manager s).overlaid.source chain policy request) := by
  have htemplate : Effect.InStep (fun s' t' => s' = s ∧ t' = s) (fun s' t' => s' = s ∧ t' = s)
      (fun found found' =>
        found = (manager s).answer request.key ∧ found' = (manager s).answer request.key)
      ((source manager).template request.key)
      ((manager s).overlaid.source.template request.key) := by
    rintro _ _ ⟨rfl, rfl⟩
    exact ⟨⟨rfl, (answer_overlaid _ _).symm⟩, ⟨rfl, rfl⟩, errors_lookUp _ _ _⟩
  refine Template.render_inStep rfl htemplate (.refl _ _) (.refl _ _) ?_ ?_ ?_
  · rintro lookupKey - _ _ ⟨rfl, rfl⟩
    exact ⟨congrArg _ (row?_fst _ _), ⟨rfl, rfl⟩, errors_lookUp _ _ _⟩
  · rintro _ _ ⟨rfl, rfl⟩
    rfl
  · refine List.forall₂_same.mpr fun rule _ => ⟨rfl, ?_⟩
    rintro content s' _ rfl
    exact ⟨rfl, rfl⟩

/-- A source of what the catalogs of the active and of the fallback locale have together. A template
or a row is that of the active locale, where it has one, else that of the fallback locale, and there
is none exactly where both have none. -/
structure Joins (m : Manager) (single : Source σ) : Prop where
  template : ∀ key s template, (single.template key s).value = .ok template ↔
    m.find m.active (·.template? key) = some template ∨
      m.find m.active (·.template? key) = none ∧ m.find m.fallback (·.template? key) = some template
  noTemplate : ∀ key s, (single.template key s).value = .error (.notFound (some m.active.tag)) ↔
    m.find m.active (·.template? key) = none ∧ m.find m.fallback (·.template? key) = none
  row : ∀ lookupKey s row, (single.row lookupKey s).value = .ok (some row) ↔
    m.find m.active (·.row? lookupKey) = some row ∨
      m.find m.active (·.row? lookupKey) = none ∧ m.find m.fallback (·.row? lookupKey) = some row
  noRow : ∀ lookupKey s, (single.row lookupKey s).value = .ok none ↔
    m.find m.active (·.row? lookupKey) = none ∧ m.find m.fallback (·.row? lookupKey) = none

private theorem joins_overlaid (m : Manager) : m.Joins (m.overlaid.source : Source σ) where
  template key s template := by
    change (m.overlaid.template? key).elim _ _ = _ ↔ _
    rw [template?_overlaid]
    cases m.find m.active (·.template? key) <;> cases m.find m.fallback (·.template? key) <;> simp
  noTemplate key s := by
    change (m.overlaid.template? key).elim _ _ = _ ↔ _
    rw [template?_overlaid]
    cases m.find m.active (·.template? key) <;> cases m.find m.fallback (·.template? key) <;>
      simp [overlaid]
  row lookupKey s row := by
    change Except.ok (m.overlaid.row? lookupKey) = _ ↔ _
    rw [row?_overlaid]
    cases m.find m.active (·.row? lookupKey) <;> simp
  noRow lookupKey s := by
    change Except.ok (m.overlaid.row? lookupKey) = _ ↔ _
    rw [row?_overlaid]
    cases m.find m.active (·.row? lookupKey) <;> simp

/-- The two levels of a manager are one catalog. The catalog of the active locale laid over that of
the fallback locale joins them, and whatever is displayed through the manager is displayed from that
one catalog, with the same errors reported on the way. -/
theorem shows_iff_shows_overlaid (manager : σ → Manager) (chain : Chain σ) (policy : Text)
    (sink : Text → Attempt ε σ Unit) (escape : Text → ε) (display : Display) (s : σ) :
    let single : Source σ := (manager s).overlaid.source
    (manager s).Joins single ∧
      (∀ text, Display.Shows ⟨source manager, chain, policy, sink, escape⟩ display s text ↔
        Display.Shows ⟨single, chain, policy, sink, escape⟩ display s text) ∧
      ∀ request, Report.errors (Template.render (source manager) chain policy request s).reports =
        Report.errors (Template.render single chain policy request s).reports := by
  intro single
  refine ⟨joins_overlaid (manager s), fun text => ?_, fun request => ?_⟩
  · simp only [Display.shows_iff]
    refine exists_congr fun request => and_congr_right fun _ => ?_
    obtain ⟨hvalue, -, -⟩ := render_overlaid_inStep manager chain policy request s s s ⟨rfl, rfl⟩
    rw [hvalue]
  · obtain ⟨-, -, herrors⟩ := render_overlaid_inStep manager chain policy request s s s ⟨rfl, rfl⟩
    exact herrors

end Manager

end Phrasebook
