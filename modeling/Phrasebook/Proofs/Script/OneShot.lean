import Phrasebook.Proofs.Script.Invariant

/-!
Rendering once. The text is that of a display which is made for the request, shows it in a sink of its
own, and is gone. A renderer with the usual rules that is given the request in the same world, be it
one that follows the locale or not, holds the same text; and to render once leaves no trace.
-/

set_option autoImplicit false
set_option relaxedAutoImplicit false

namespace Phrasebook.Script

/-! ## In a renderer -/

namespace Act

variable {w : World} {m : Managed}

private theorem renderOnce_value (hbacking : w.backing = .managed m) (request : Request) :
    ((renderOnce request).run w).value =
      .ok (m.manager.rendering w.policy [(0, .index), (0, .plural)] request) := by
  have hrules : ∀ rule ∈ ([(0, .index), (0, .plural)] : List (Nat × Rule.Sample)),
      rule.2.isStateless = true := by decide
  rw [renderOnce_run, rendered_run]
  exact congrArg Except.ok (World.render_of_managed hbacking hrules w.policy request).1

private theorem makeRenderer_value (name : Text) (options : RendererOptions) (usual : List Rule.Sample)
    (hbacking : w.backing = .managed m) :
    ((makeRenderer name options usual).run w).value = .ok w.fresh := by
  obtain ⟨refuses, follow, rules⟩ := options
  obtain ⟨backing⟩ := w
  obtain rfl : backing = .managed m := hbacking
  cases follow with
  | false => rfl
  | true =>
    simp only [makeRenderer, fresh, setRenderer, followedNotifier, ExceptT.run_bind,
      Effect.bind_apply, Attempt.run_pure, Attempt.run_read, Attempt.run_change, if_true, rendererOf,
      expect, openFollower_run, Dict.get?_insert_self]

private theorem makeRenderer_state (name : Text) (options : RendererOptions) (usual : List Rule.Sample)
    (hbacking : w.backing = .managed m) :
    ∃ made : World, ((makeRenderer name options usual).run w).state = made ∧
      made.backing = .managed m ∧ made.policy = w.policy ∧
      ∃ follower, made.renderers.get? w.fresh =
        some { newRenderer w name options usual with follower } := by
  cases hfollow : options.follow with
  | false =>
    exact ⟨_, makeRenderer_state_of_not_follow name usual hfollow w, hbacking, rfl, none,
      Dict.get?_insert_self _ _ _⟩
  | true =>
    exact ⟨_, makeRenderer_state_of_follow name usual hfollow hbacking, hbacking, rfl, _,
      Dict.get?_insert_self _ _ _⟩

private theorem setString_state_of_some {id : Nat} {r : Renderer} (hr : w.renderers.get? id = some r)
    (hbacking : w.backing = .managed m) (hrules : ∀ rule ∈ r.rules, rule.2.isStateless = true)
    (request : Request) :
    ((setString id request).run w).state =
      let text := m.manager.rendering w.policy r.rules request
      { w with
        happenings := w.happenings ++ [.shown r.name text]
        renderers := w.renderers.insert id
          { r with sink := r.sink.give text, display := ⟨some request, some text⟩ } } := by
  let r₁ := { r with display := { r.display with request := some request } }
  let w₁ : World := { w with renderers := w.renderers.insert id r₁ }
  have hr₁ : w₁.renderers.get? id = some r₁ := Dict.get?_insert_self _ _ _
  rw [setString_state hr]
  change ((refresh id).run w₁).state = _
  rw [refresh_state_of_request hr₁ hbacking hrules rfl]
  simp only [w₁, Dict.insert_insert_self]
  rfl

section

variable (run : Runner)

private theorem takeRenderer_state (name : Text) (options : RendererOptions)
    (hbacking : w.backing = .managed m) :
    ∃ made : World, ((takeOnRenderer run (.renderer name options)).run w).state = made ∧
      made.backing = .managed m ∧ made.policy = w.policy ∧
      made.rendererNames.get? name = some w.fresh ∧
      ∃ follower, made.renderers.get? w.fresh =
        some { newRenderer w name options [.index, .plural] with follower } := by
  obtain ⟨made, hmade, hmanaged, hpolicy, hr⟩ :=
    makeRenderer_state name options [.index, .plural] hbacking
  refine ⟨{ made with rendererNames := made.rendererNames.insert name w.fresh }, ?_, hmanaged, hpolicy,
    Dict.get?_insert_self _ _ _, hr⟩
  unfold takeOnRenderer
  rw [Attempt.run_read_bind]
  simp only [hbacking]
  rw [Attempt.run_bind_of_ok (makeRenderer_value name options _ hbacking), ← hmade]
  rfl

private theorem takeSetString_state {name : Text} {id : Nat} (h : w.rendererNames.get? name = some id)
    (request : Request) :
    ((takeOnRenderer run (.setString name request)).run w).state =
      ((setString id request).run w).state := by
  unfold takeOnRenderer
  rw [Attempt.run_bind_of_run_eq (renderer_run_of_some h)]
  exact run_bind_state (fun _ => rendererOf_bind_pure_state id _) w

private theorem exists_renderer_of_setString (hbacking : w.backing = .managed m) (name : Text)
    {options : RendererOptions} (hrules : options.rules = none) (request : Request) :
    let made := ((takeOnRenderer run (.renderer name options)).run w).state
    let given := ((takeOnRenderer run (.setString name request)).run made).state
    ∃ id r, given.rendererNames.get? name = some id ∧ given.renderers.get? id = some r ∧
      r.display = ⟨some request,
        some (m.manager.rendering w.policy [(0, .index), (0, .plural)] request)⟩ := by
  obtain ⟨made, hmade, hmanaged, hpolicy, hnamed, follower, hr⟩ :=
    takeRenderer_state run name options hbacking
  have husual : (newRenderer w name options [.index, .plural]).rules =
      [(w.fresh + 1 + 0, .index), (w.fresh + 1 + 1, .plural)] := by
    simp only [newRenderer, hrules]
    rfl
  have hstateless : ∀ rule ∈ (newRenderer w name options [.index, .plural]).rules,
      rule.2.isStateless = true :=
    newRenderer_isStateless w name (by rw [hrules]; decide)
  rw [hmade]
  dsimp only
  rw [takeSetString_state run hnamed, setString_state_of_some hr hmanaged hstateless, husual,
    hpolicy]
  exact ⟨w.fresh, _, hnamed, Dict.get?_insert_self _ _ _, rfl⟩

end

end Act

/-! ## Without a trace -/

variable {w : World} {m : Managed}

private theorem take_render_run (hbacking : w.backing = .managed m) (depth : Nat) (told : Text)
    (request : Request) :
    let rendered := (take (depth + 1) (.onManager told (.render request))).run w
    rendered.value =
        .ok (.text (m.manager.rendering w.policy [(0, .index), (0, .plural)] request)) ∧
      rendered.state = w := by
  have hvalue := Act.renderOnce_value hbacking request
  intro rendered
  have hrendered : rendered = (Act.renderOnce request >>= fun text => pure (.text text)).run w := rfl
  rw [hrendered, Act.run_bind_pure_value, hvalue]
  refine ⟨rfl, ?_⟩
  rw [Act.run_bind_state (fun _ _ => rfl)]
  exact Act.renderOnce_state hbacking request

private theorem runScript_forget (steps : List Step) (w : World) :
    runScript steps { w with happenings := [] } = runScript steps w := by
  cases steps with
  | nil => rfl
  | cons step steps => rfl

private theorem exists_managed_after (hbacking : w.backing = .managed m) (depth : Nat) (steps : List Step) :
    ∃ m', (World.after depth steps w).backing = .managed m' :=
  World.invariant_managed.after depth steps ⟨m, hbacking⟩

private theorem runScript_render_cons (hbacking : w.backing = .managed m) (told : Text)
    (request : Request) (steps : List Step) :
    ∃ record : Record, record.happenings = [] ∧
      runScript (.onManager told (.render request) :: steps) w = record :: runScript steps w := by
  have hbegun : ({ w with happenings := [] } : World).backing = .managed m := hbacking
  have hafter : (takeOne (.onManager told (.render request)) w).2 = { w with happenings := [] } :=
    (take_render_run hbegun (depthLimit - 1) told request).2
  refine ⟨(takeOne (.onManager told (.render request)) w).1, congrArg World.happenings hafter, ?_⟩
  rw [← runScript_forget steps w, ← hafter]
  rfl

private theorem runScript_render (hbacking : w.backing = .managed m) (told : Text) (request : Request)
    (earlier later : List Step) :
    ∃ record : Record, ∃ after : List Record, record.happenings = [] ∧
      runScript (earlier ++ later) w = runScript earlier w ++ after ∧
      runScript (earlier ++ .onManager told (.render request) :: later) w =
        runScript earlier w ++ record :: after := by
  obtain ⟨m', hm'⟩ := exists_managed_after hbacking depthLimit earlier
  obtain ⟨record, hquiet, hrecords⟩ := runScript_render_cons hm' told request later
  refine ⟨record, _, hquiet, runScript_append earlier later w, ?_⟩
  rw [runScript_append, hrecords]

/-- Rendering once and rendering for good agree and do not meet. In whatever state a service is, and it
remains a service through all steps, to render a request gives the text that a display of its own
shows in a sink of its own, and that a renderer with the usual rules holds once it is made in that
state and given the request, be it one that follows the locale or not. The world is left as it is, at
any depth of callbacks, and wherever it stands in a script, the other records are the same without
it. -/
theorem renderOnce_agrees_with_renderers (hbacking : w.backing = .managed m) (request : Request) :
    (∀ depth steps, ∃ m', (World.after depth steps w).backing = .managed m') ∧
    (Act.renderOnce request).run w =
      (Act.rendered (Chain.builtIn World.tag) request).run w ∧
    ∃ text : Text,
      (∀ depth told,
        let rendered := (take (depth + 1) (.onManager told (.render request))).run w
        rendered.value = .ok (.text text) ∧ rendered.state = w) ∧
      (∀ depth told told' name options, options.rules = none →
        let made := ((take (depth + 1) (.onRenderer told (.renderer name options))).run w).state
        let given :=
          ((take (depth + 1) (.onRenderer told' (.setString name request))).run made).state
        ∃ id r, given.rendererNames.get? name = some id ∧ given.renderers.get? id = some r ∧
          r.display = ⟨some request, some text⟩) ∧
      ∀ told earlier later, ∃ record : Record, ∃ after : List Record, record.happenings = [] ∧
        runScript (earlier ++ later) w = runScript earlier w ++ after ∧
        runScript (earlier ++ .onManager told (.render request) :: later) w =
          runScript earlier w ++ record :: after := by
  refine ⟨exists_managed_after hbacking, Act.renderOnce_run request w, _,
    fun depth told => take_render_run hbacking depth told request, ?_,
    fun told => runScript_render hbacking told request⟩
  intro depth _ _ name options hrules
  exact Act.exists_renderer_of_setString (takeAll (take depth)) hbacking name hrules request

theorem renderOnce_agrees_with_renderers_greeting :
    let w : World := { backing := .managed greetingManager, policy := [] }
    let request : Request := { key := "greet".toList }
    let made := ((take 1 (.onRenderer [] (.renderer "r".toList {}))).run w).state
    let given := ((take 1 (.onRenderer [] (.setString "r".toList request))).run made).state
    ((take 1 (.onManager [] (.render request))).run w).value = .ok (.text "Hello".toList) ∧
      ∃ id r, given.rendererNames.get? "r".toList = some id ∧ given.renderers.get? id = some r ∧
        r.display.text = some "Hello".toList := by
  intro w request made given
  have hbacking : w.backing = .managed greetingManager := rfl
  obtain ⟨-, -, text, hrendered, hgiven, -⟩ := renderOnce_agrees_with_renderers hbacking request
  have hvalue : ((take 1 (.onManager [] (.render request))).run w).value =
      .ok (.text "Hello".toList) := by
    have htext : greetingManager.manager.rendering w.policy [(0, .index), (0, .plural)] request =
        "Hello".toList := by decide +kernel
    rw [(take_render_run hbacking 0 [] request).1, htext]
  obtain rfl : text = "Hello".toList := by
    injection (hrendered 0 []).1.symm.trans hvalue with htext
    injection htext
  have hsame : given = ((take (0 + 1) (.onRenderer [] (.setString "r".toList request))).run
      ((take (0 + 1) (.onRenderer [] (.renderer "r".toList {}))).run w).state).state := rfl
  obtain ⟨id, r, hname, hr, hdisplay⟩ := hgiven 0 [] [] "r".toList {} rfl
  rw [← hsame] at hname hr
  exact ⟨hvalue, id, r, hname, hr, by rw [hdisplay]⟩

end Phrasebook.Script
