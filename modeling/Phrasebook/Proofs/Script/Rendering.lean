import Phrasebook.Proofs.Manager.Loading
import Phrasebook.Proofs.Template.Simulation
import Phrasebook.Script.Delivery

/-!
What a rendering in a world depends on: of the manager, the active locale, the fallback locale and the
catalogs; beside that, the policy for missing templates and the rules. It leaves the world as it is.
-/

set_option autoImplicit false
set_option relaxedAutoImplicit false

namespace Phrasebook

namespace Rule.Sample

/-- Whether a rule goes by the content and the tag of the locale alone. -/
def isStateless : Sample → Bool
  | counting => false
  | _ => true

/-- A tag that is in force, and nothing else. -/
def Access.ofTag (tag : Text) : Access Unit := ⟨fun _ => .ok tag, fun _ => ∅, fun _ _ => ()⟩

private theorem apply_of_isStateless {σ : Type} {access : Access σ} {sample : Sample}
    (h : sample.isStateless = true) (instanceId : Nat) {s : σ} {tag : Text}
    (htag : access.tag s = .ok tag) (content : Text) :
    (sample.rule access instanceId).apply content s =
      (((sample.rule (Access.ofTag tag) instanceId).apply content ()).1, s) := by
  cases sample with
  | counting => cases h
  | plural =>
    change (RuleResult.ofTagged (Plural.apply (access.tag s) content), s) = _
    rw [htag]
    rfl
  | custom name apply =>
    change (apply (access.tag s) content, s) = _
    rw [htag]
    rfl
  | _ => rfl

end Rule.Sample

namespace Manager

/-- Managers between which no template and no row makes a difference. -/
structure AnswersLike (m m' : Manager) : Prop where
  active : m.active = m'.active
  fallback : m.fallback = m'.fallback
  catalogs : m.catalogs = m'.catalogs

theorem AnswersLike.refl (m : Manager) : m.AnswersLike m := ⟨rfl, rfl, rfl⟩

/-- The text that the three stages make for a request under a manager. -/
def rendering (m : Manager) (policy : Text) (rules : List (Nat × Rule.Sample)) (request : Request) :
    Text :=
  (Template.render (source fun () => m)
    (rules.map fun rule => rule.2.rule (.ofTag m.active.tag) rule.1) policy request ()).value

theorem AnswersLike.rendering_eq {m m' : Manager} (h : m.AnswersLike m') (policy : Text)
    (rules : List (Nat × Rule.Sample)) (request : Request) :
    m.rendering policy rules request = m'.rendering policy rules request := by
  obtain ⟨loader, active, fallback, catalogs⟩ := m
  obtain ⟨loader', active', fallback', catalogs'⟩ := m'
  obtain ⟨hactive, hfallback, hcatalogs⟩ := h
  obtain rfl : active = active' := hactive
  obtain rfl : fallback = fallback' := hfallback
  obtain rfl : catalogs = catalogs' := hcatalogs
  rfl

theorem answersLike_of_activate_error [Globbing] {disk : Directory} {locale : Locale} {m : Manager}
    {e : Fault}
    (h : ((activate disk locale).run m).value = .error e) :
    ((activate disk locale).run m).state.AnswersLike m := by
  obtain ⟨hcontains, hload⟩ := activate_value_eq_error_iff.mp h
  rw [activate_run_of_error hcontains hload]
  exact ⟨rfl, rfl, rfl⟩

end Manager

namespace Script.World

private theorem source_of_managed {w : World} {m : Managed} (h : w.backing = .managed m) :
    (∀ key, source.template key w = (Manager.source fun _ => m.manager).template key w) ∧
      ∀ lookupKey, source.row lookupKey w = (Manager.source fun _ => m.manager).row lookupKey w := by
  constructor
  · intro key
    simp only [source, h]
  · intro lookupKey
    simp only [source, h]

/-- A rendering in a world is that under its manager, and leaves the world as it is. -/
theorem render_of_managed {w : World} {m : Managed} (h : w.backing = .managed m)
    {rules : List (Nat × Rule.Sample)} (hrules : ∀ rule ∈ rules, rule.2.isStateless = true)
    (policy : Text) (request : Request) :
    let rendered := Template.render source (Act.chainOf rules) policy request w
    rendered.value = m.manager.rendering policy rules request ∧ rendered.state = w := by
  obtain ⟨htemplate, hrow⟩ := source_of_managed h
  have htag : tag w = .ok m.manager.active.tag := by simp only [tag, h]
  refine Template.render_simulates (R := fun (w' : World) (_ : Unit) => w' = w) ?_ ?_ ?_ rfl rfl
    (fun _ => rfl) w () rfl
  · rintro s t rfl
    simp only [Template.fetch, Effect.bind_apply, htemplate, Manager.source]
    cases (m.manager.template? request.key).1 <;> exact ⟨rfl, rfl⟩
  · rintro lookupKey s t rfl
    rw [hrow]
    exact ⟨rfl, rfl⟩
  · rw [Act.chainOf, List.forall₂_map_left_iff, List.forall₂_map_right_iff, List.forall₂_same]
    rintro rule hrule content s t rfl
    rw [Rule.Sample.apply_of_isStateless (hrules rule hrule) rule.1 htag]
    exact ⟨rfl, rfl⟩

end Script.World

end Phrasebook
