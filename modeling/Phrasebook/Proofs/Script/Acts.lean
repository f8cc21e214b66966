import Phrasebook.Proofs.Display.Refresh
import Phrasebook.Proofs.Notifier.Delivery
import Phrasebook.Proofs.Notifier.Registry
import Phrasebook.Proofs.Script.Rendering
import Phrasebook.Proofs.Template.Beside
import Phrasebook.Script.Run

/-!
What the acts of a script do to its world, each as one equation for the world after it.
-/

set_option autoImplicit false
set_option relaxedAutoImplicit false

namespace Phrasebook.Script.Act

variable {α β : Type}

/-- Whatever comes of it, a computation keeps a property of the world. -/
def Keeps (P : World → Prop) (x : Act α) : Prop := ∀ w, P w → P (x.run w).state

namespace Keeps

variable {P : World → Prop}

theorem pure (a : α) : Keeps P (Pure.pure a : Act α) := fun _ h => h

theorem throw (fault : Fault) : Keeps P (MonadExcept.throw fault : Act α) := fun _ h => h

theorem bind {x : Act α} {f : α → Act β} (hx : Keeps P x) (hf : ∀ a, Keeps P (f a)) :
    Keeps P (x >>= f) := by
  intro w hw
  cases hvalue : (x.run w).value with
  | ok a =>
    rw [Attempt.run_bind_of_ok hvalue]
    exact hf a _ (hx w hw)
  | error e =>
    rw [Attempt.run_bind_of_error hvalue]
    exact hx w hw

theorem read_bind {f : World → Act α} (h : ∀ w, P w → P ((f w).run w).state) :
    Keeps P (Attempt.read >>= f) := by
  intro w hw
  rw [Attempt.run_read_bind]
  exact h w hw

theorem change {f : World → World} (h : ∀ w, P w → P (f w)) : Keeps P (Attempt.change f : Act Unit) :=
  h

theorem expect (name : Text) (found : Option α) : Keeps P (Act.expect name found) := by
  cases found with
  | none => exact .throw _
  | some a => exact .pure a

theorem read : Keeps P (Attempt.read : Act World) := fun _ h => h

theorem ofExcept (result : Except Fault α) : Keeps P (Attempt.ofExcept result : Act α) :=
  fun _ h => h

theorem report (r : Report) : Keeps P (Attempt.report r : Act Unit) := fun _ h => h

theorem tell (reports : List Report) : Keeps P (ExceptT.lift (Effect.tell reports) : Act Unit) :=
  fun _ h => h

theorem outcome {x : Act α} (hx : Keeps P x) :
    Keeps P (Attempt.outcome x : Act (Except Fault α)) := by
  intro w hw
  simp only [Attempt.outcome, Attempt.run_lift]
  exact hx w hw

private theorem lookUp (name : Text) (find : World → Option α) :
    Keeps P (do Act.expect name (find (← Attempt.read))) :=
  read.bind fun w => .expect name (find w)

theorem notifierNamed (name : Text) : Keeps P (notifier name) := lookUp name _

theorem handleNamed (name : Text) : Keeps P (handle name) := lookUp name _

theorem followerNamed (name : Text) : Keeps P (follower name) := lookUp name _

theorem rendererNamed (name : Text) : Keeps P (renderer name) := lookUp name _

theorem rendererOf (id : Nat) : Keeps P (Act.rendererOf id) := lookUp [] _

theorem managed : Keeps P Act.managed := by
  refine read.bind fun w => ?_
  cases w.backing with
  | managed m => exact .pure m
  | stubs stubs => exact .throw _

theorem isFollowing (id : Nat) : Keeps P (Act.isFollowing id) := read.bind fun _ => .pure _

theorem followedNotifier : Keeps P Act.followedNotifier := by
  refine read.bind fun w => ?_
  cases w.backing with
  | stubs stubs => exact notifierNamed mainName
  | managed m => exact .pure _

end Keeps

theorem run_bind_state {x : Act α} {f : α → Act β} (hf : ∀ a w, ((f a).run w).state = w) (w : World) :
    ((x >>= f).run w).state = (x.run w).state := by
  cases hvalue : (x.run w).value with
  | ok a =>
    rw [Attempt.run_bind_of_ok hvalue]
    exact hf a _
  | error fault => rw [Attempt.run_bind_of_error hvalue]

theorem rendererOf_bind_pure_state (id : Nat) (f : Renderer → α) (w : World) :
    ((rendererOf id >>= fun r => pure (f r)).run w).state = w := by
  have hkeeps : Keeps (· = w) (rendererOf id >>= fun r => pure (f r)) :=
    .bind (.rendererOf id) fun _ => .pure _
  exact hkeeps w rfl

theorem run_bind_pure_value (x : Act α) (f : α → β) (w : World) :
    ((x >>= fun a => pure (f a)).run w).value = (x.run w).value.map f := by
  cases hvalue : (x.run w).value with
  | ok a =>
    rw [Attempt.run_bind_of_ok hvalue]
    rfl
  | error fault =>
    rw [Attempt.run_bind_of_error hvalue]
    rfl

private theorem rendererOf_run_of_some {w : World} {id : Nat} {r : Renderer}
    (h : w.renderers.get? id = some r) : (rendererOf id).run w = ⟨.ok r, w, []⟩ := by
  simp [rendererOf, expect, h]

private theorem rendererOf_run_of_none {w : World} {id : Nat} (h : w.renderers.get? id = none) :
    (rendererOf id).run w = ⟨.error (.unknownName []), w, []⟩ := by
  simp [rendererOf, expect, h]

private theorem handle_run_of_some {w : World} {name : Text} {handle : Handle}
    (h : w.handleNames.get? name = some handle) : (Act.handle name).run w = ⟨.ok handle, w, []⟩ := by
  simp [Act.handle, expect, h]

private theorem handle_run_of_none {w : World} {name : Text} (h : w.handleNames.get? name = none) :
    (Act.handle name).run w = ⟨.error (.unknownName name), w, []⟩ := by
  simp [Act.handle, expect, h]

theorem renderer_run_of_some {w : World} {name : Text} {id : Nat}
    (h : w.rendererNames.get? name = some id) : (renderer name).run w = ⟨.ok id, w, []⟩ := by
  simp [renderer, expect, h]

theorem renderer_run_of_none {w : World} {name : Text} (h : w.rendererNames.get? name = none) :
    (renderer name).run w = ⟨.error (.unknownName name), w, []⟩ := by
  simp [renderer, expect, h]

private theorem managed_run {w : World} {m : Managed} (h : w.backing = .managed m) :
    managed.run w = ⟨.ok m, w, []⟩ := by
  unfold managed
  rw [Attempt.run_read_bind, h]
  rfl

theorem managing_run {w : World} {m : Managed} (h : w.backing = .managed m)
    (x : Directory → Manager.Managing α) :
    (managing x).run w =
      let outcome := (x m.disk).run m.manager
      ⟨outcome.value, { w with backing := .managed { m with manager := outcome.state } },
        outcome.reports⟩ := by
  unfold managing
  rw [Attempt.run_bind_of_run_eq (managed_run h)]
  simp only [setManaged, Attempt.run_change_bind, ExceptT.run_bind, Effect.bind_apply,
    Attempt.run_lift, Effect.tell, ExceptT.run_mk, Effect.pure_apply, List.nil_append,
    List.append_nil]

theorem managing_bind_run_of_error {w : World} {m : Managed} {fault : Fault}
    {x : Directory → Manager.Managing α}
    (hbacking : w.backing = .managed m) (h : ((x m.disk).run m.manager).value = .error fault)
    (f : α → Act β) :
    (managing x >>= f).run w =
      let outcome := (x m.disk).run m.manager
      ⟨.error fault, { w with backing := .managed { m with manager := outcome.state } },
        outcome.reports⟩ := by
  have hvalue : ((managing x).run w).value = .error fault := by
    rw [managing_run hbacking]
    exact h
  rw [Attempt.run_bind_of_error hvalue, managing_run hbacking]

theorem managing_bind_run_of_ok {w : World} {m : Managed} {x : Directory → Manager.Managing α} {a : α}
    (hbacking : w.backing = .managed m) (h : ((x m.disk).run m.manager).value = .ok a)
    (f : α → Act β) :
    (managing x >>= f).run w =
      let outcome := (x m.disk).run m.manager
      let next := (f a).run { w with backing := .managed { m with manager := outcome.state } }
      ⟨next.value, next.state, outcome.reports ++ next.reports⟩ := by
  have hvalue : ((managing x).run w).value = .ok a := by
    rw [managing_run hbacking]
    exact h
  rw [Attempt.run_bind_of_ok hvalue, managing_run hbacking]

private theorem setRenderer_run (id : Nat) (r : Renderer) (w : World) :
    (setRenderer id r).run w = ⟨.ok (), { w with renderers := w.renderers.insert id r }, []⟩ := rfl

theorem subscribe_run (notifier : Nat) (eventType : Text) (subscriber : Subscriber) (w : World) :
    (subscribe notifier eventType subscriber).run w =
      let new := (registry notifier w).subscribe eventType subscriber
      ⟨.ok new.1, { w with registries := w.registries.insert new.2.id new.2 },
        [.subscribedEventHandler subscriber.name eventType (new.2.count eventType)]⟩ := rfl

theorem clear_run (notifier : Nat) (w : World) :
    (clear notifier).run w =
      let r := (registry notifier w).clear
      ⟨.ok (), { w with registries := w.registries.insert r.id r }, [.clearedAllSubscriptions]⟩ := rfl

theorem unsubscribe_run_of_registered {w : World} {notifier : Nat} {handle : Handle}
    (h : (registry notifier w).isRegistered handle = true) :
    (unsubscribe notifier handle).run w =
      let r := (registry notifier w).unsubscribe handle
      ⟨.ok true, { w with registries := w.registries.insert r.id r },
        [.unsubscribedEventHandler handle.eventType]⟩ := by
  unfold unsubscribe
  rw [Attempt.run_read_bind, if_pos h]
  rfl

theorem unsubscribe_run_of_not_registered {w : World} {notifier : Nat} {handle : Handle}
    (h : ¬ (registry notifier w).isRegistered handle = true) :
    (unsubscribe notifier handle).run w = ⟨.ok false, w, []⟩ := by
  unfold unsubscribe
  rw [Attempt.run_read_bind, if_neg h]
  rfl

theorem openFollower_run (notifier : Nat) (target : Target) (w : World) :
    (openFollower notifier target).run w =
      let new := (registry notifier w).subscribe localeChanged (.follower w.fresh)
      ⟨.ok w.fresh,
        { w with
          fresh := w.fresh + 1
          registries := w.registries.insert new.2.id new.2
          followers := w.followers.insert w.fresh ⟨notifier, some new.1, target⟩ },
        [.subscribedEventHandler (Subscriber.follower w.fresh).name localeChanged
          (new.2.count localeChanged)]⟩ := rfl

def newRenderer (w : World) (name : Text) (options : RendererOptions) (usual : List Rule.Sample) :
    Renderer where
  name := name
  rules := (options.rules.getD usual).mapIdx fun i sample => (w.fresh + 1 + i, sample)
  sink := { refuses := options.refuses }

theorem newRenderer_isStateless (w : World) (name : Text) {options : RendererOptions}
    {usual : List Rule.Sample}
    (h : ∀ sample ∈ options.rules.getD usual, sample.isStateless = true) :
    ∀ rule ∈ (newRenderer w name options usual).rules, rule.2.isStateless = true := by
  intro rule hrule
  obtain ⟨i, hi, rfl⟩ := List.mem_mapIdx.mp hrule
  exact h _ (List.getElem_mem hi)

theorem isStateless_of_mem_getD {options : RendererOptions}
    (h : ∀ samples ∈ options.rules, ∀ sample ∈ samples, sample.isStateless = true) :
    ∀ sample ∈ options.rules.getD [.index, .plural], sample.isStateless = true := by
  cases hsamples : options.rules with
  | none => decide
  | some samples => exact h samples hsamples

theorem makeRenderer_state_of_not_follow (name : Text) {options : RendererOptions}
    (usual : List Rule.Sample) (h : options.follow = false) (w : World) :
    ((makeRenderer name options usual).run w).state =
      { w with
        fresh := w.fresh + 1 + (options.rules.getD usual).length
        renderers := w.renderers.insert w.fresh (newRenderer w name options usual) } := by
  obtain ⟨refuses, follow, rules⟩ := options
  obtain rfl : follow = false := h
  rfl

theorem makeRenderer_state_of_follow (name : Text) {options : RendererOptions}
    (usual : List Rule.Sample) (h : options.follow = true) {w : World} {m : Managed}
    (hbacking : w.backing = .managed m) :
    ((makeRenderer name options usual).run w).state =
      let r := newRenderer w name options usual
      let follower := w.fresh + 1 + (options.rules.getD usual).length
      let new := (registry mainNotifier w).subscribe localeChanged (.follower follower)
      { w with
        fresh := follower + 1
        registries := w.registries.insert new.2.id new.2
        followers := w.followers.insert follower ⟨mainNotifier, some new.1, .renderer w.fresh⟩
        renderers := (w.renderers.insert w.fresh r).insert w.fresh
          { r with follower := some follower } } := by
  obtain ⟨refuses, follow, rules⟩ := options
  obtain rfl : follow = true := h
  obtain ⟨backing⟩ := w
  obtain rfl : backing = .managed m := hbacking
  simp only [makeRenderer, fresh, setRenderer, followedNotifier, ExceptT.run_bind,
    Effect.bind_apply, Attempt.run_pure, Attempt.run_read, Attempt.run_change, if_true, rendererOf,
    expect, openFollower_run, Dict.get?_insert_self]
  rfl

theorem closeRenderer_state_of_not_following {w : World} {id : Nat}
    (h : ∀ r, w.renderers.get? id = some r → r.follower = none) :
    ((closeRenderer id).run w).state = w := by
  unfold closeRenderer
  cases hr : w.renderers.get? id with
  | none =>
    rw [Attempt.run_bind_of_error (by rw [rendererOf_run_of_none hr])]
    rw [rendererOf_run_of_none hr]
  | some r =>
    rw [Attempt.run_bind_of_run_eq (rendererOf_run_of_some hr), h r hr]
    rfl

private theorem closeFollower_run {w : World} {id : Nat} {handle : Handle} {target : Target}
    (hopen : w.followers.get? id = some ⟨mainNotifier, some handle, target⟩)
    (hregistered : (registry mainNotifier w).isRegistered handle = true) :
    let r := (registry mainNotifier w).unsubscribe handle
    (closeFollower id).run w =
      ⟨.ok (),
        { w with
          registries := w.registries.insert r.id r
          followers := w.followers.insert id ⟨mainNotifier, none, target⟩ },
        [.unsubscribedEventHandler handle.eventType]⟩ := by
  unfold closeFollower
  rw [Attempt.run_read_bind]
  simp only [hopen]
  rw [Attempt.run_bind_of_run_eq (unsubscribe_run_of_registered hregistered)]
  rfl

theorem closeRenderer_state_of_following {w : World} {id follower : Nat} {r : Renderer}
    {handle : Handle} {target : Target} (hr : w.renderers.get? id = some r)
    (hfollower : r.follower = some follower)
    (hopen : w.followers.get? follower = some ⟨mainNotifier, some handle, target⟩)
    (hregistered : (registry mainNotifier w).isRegistered handle = true) :
    ((closeRenderer id).run w).state =
      let registry := (registry mainNotifier w).unsubscribe handle
      { w with
        registries := w.registries.insert registry.id registry
        followers := w.followers.insert follower ⟨mainNotifier, none, target⟩
        renderers := w.renderers.insert id { r with follower := none } } := by
  let registry := (registry mainNotifier w).unsubscribe handle
  let closed : World :=
    { w with
      registries := w.registries.insert registry.id registry
      followers := w.followers.insert follower ⟨mainNotifier, none, target⟩ }
  have hclosed : (closeFollower follower).run w =
      ⟨.ok (), closed, [.unsubscribedEventHandler handle.eventType]⟩ :=
    closeFollower_run hopen hregistered
  have hr' : closed.renderers.get? id = some r := hr
  unfold closeRenderer
  rw [Attempt.run_bind_of_run_eq (rendererOf_run_of_some hr)]
  simp only [hfollower]
  rw [Attempt.run_bind_of_run_eq hclosed,
    Attempt.run_bind_of_run_eq (rendererOf_run_of_some hr')]
  rfl

theorem rendered_run (chain : Chain World) (request : Request) (w : World) :
    (rendered chain request).run w =
      let text := Template.render World.source chain w.policy request w
      ⟨.ok text.value, text.state, text.reports⟩ := by
  unfold rendered
  rw [Attempt.run_read_bind]
  simp only [Display.render_usual, Attempt.run_mapFault, Attempt.run_lift]
  rfl

private theorem display_state {w : World} {id : Nat} {r : Renderer} (hr : w.renderers.get? id = some r)
    (text : Text) :
    ((display id text).run w).state =
      { w with
        happenings := w.happenings ++ [.shown r.name text]
        renderers := w.renderers.insert id { r with sink := r.sink.give text } } := by
  unfold display
  rw [Attempt.run_bind_of_run_eq (rendererOf_run_of_some hr)]
  cases r.sink.refusesNext text <;> rfl

theorem refresh_state_of_no_request {w : World} {id : Nat} {r : Renderer}
    (hr : w.renderers.get? id = some r) (hrequest : r.display.request = none) :
    ((refresh id).run w).state = { w with renderers := w.renderers.insert id r } := by
  unfold refresh
  rw [Attempt.run_bind_of_run_eq (rendererOf_run_of_some hr), Attempt.run_read_bind,
    Attempt.run_within, Display.refresh_of_none _ hrequest]
  simp only [World.keep, hr]

theorem refresh_state_of_request {w : World} {id : Nat} {r : Renderer} {m : Managed}
    {request : Request} (hr : w.renderers.get? id = some r) (hbacking : w.backing = .managed m)
    (hrules : ∀ rule ∈ r.rules, rule.2.isStateless = true)
    (hrequest : r.display.request = some request) :
    ((refresh id).run w).state =
      let text := m.manager.rendering w.policy r.rules request
      { w with
        happenings := w.happenings ++ [.shown r.name text]
        renderers := w.renderers.insert id
          { r with sink := r.sink.give text, display := { r.display with text := some text } } } := by
  obtain ⟨hvalue, hstate⟩ := World.render_of_managed hbacking hrules w.policy request
  unfold refresh
  rw [Attempt.run_bind_of_run_eq (rendererOf_run_of_some hr), Attempt.run_read_bind,
    Attempt.run_within, Display.refresh_of_some _ hrequest]
  simp only [outlet, hvalue, hstate, display_state hr, World.keep, Dict.get?_insert_self,
    Dict.insert_insert_self]

theorem setString_state {w : World} {id : Nat} {r : Renderer} (hr : w.renderers.get? id = some r)
    (request : Request) :
    ((setString id request).run w).state =
      ((refresh id).run
        { w with
          renderers := w.renderers.insert id
            { r with display := { r.display with request := some request } } }).state := by
  unfold setString
  rw [Attempt.run_bind_of_run_eq (rendererOf_run_of_some hr),
    Attempt.run_bind_of_run_eq (setRenderer_run id _ w)]

theorem setString_state_of_none {w : World} {id : Nat} (hr : w.renderers.get? id = none)
    (request : Request) : ((setString id request).run w).state = w := by
  unfold setString
  rw [Attempt.run_bind_of_error (by rw [rendererOf_run_of_none hr]), rendererOf_run_of_none hr]

theorem refresh_state_of_none {w : World} {id : Nat} (hr : w.renderers.get? id = none) :
    ((refresh id).run w).state = w := by
  unfold refresh
  rw [Attempt.run_bind_of_error (by rw [rendererOf_run_of_none hr]), rendererOf_run_of_none hr]

/-- Refreshing a renderer changes what it shows and nothing else in the world: afterwards its text is
that of its request. -/
theorem exists_refresh_state {w : World} {id : Nat} {r : Renderer} {m : Managed}
    (hr : w.renderers.get? id = some r) (hbacking : w.backing = .managed m)
    (hrules : ∀ rule ∈ r.rules, rule.2.isStateless = true) :
    ∃ happenings r',
      ((refresh id).run w).state = { w with happenings, renderers := w.renderers.insert id r' } ∧
      r'.follower = r.follower ∧ r'.rules = r.rules ∧
      ∀ request, r'.display.request = some request →
        r'.display.text = some (m.manager.rendering w.policy r.rules request) := by
  cases hrequest : r.display.request with
  | none =>
    refine ⟨w.happenings, r, refresh_state_of_no_request hr hrequest, rfl, rfl, ?_⟩
    intro request hsome
    rw [hrequest] at hsome
    cases hsome
  | some request =>
    let text := m.manager.rendering w.policy r.rules request
    refine ⟨w.happenings ++ [.shown r.name text],
      { r with sink := r.sink.give text, display := { r.display with text := some text } },
      refresh_state_of_request hr hbacking hrules hrequest, rfl, rfl, ?_⟩
    intro other hsome
    obtain rfl : request = other := Option.some.inj (hrequest.symm.trans hsome)
    rfl

/-- To render once comes to what the three stages make, although it is a display that shows it. -/
theorem renderOnce_run (request : Request) (w : World) :
    (renderOnce request).run w = (rendered (Chain.builtIn World.tag) request).run w := by
  have hrender := Template.render_beside Sink World.source (Chain.builtIn World.tag) w.policy request
  rw [Chain.builtIn_beside] at hrender
  have hrequest : (⟨some request, none⟩ : Display).request = some request := rfl
  have hshown := Display.refresh_of_some (besideWorld w.policy) hrequest ({}, w)
  simp only [besideWorld, hrender, Effect.beside, Attempt.run_change, List.append_nil] at hshown
  have hgiven : (renderOnce request).run w =
      let shown := (Display.refresh (besideWorld w.policy)).run (⟨some request, none⟩, {}, w)
      ⟨shown.value.map fun () => shown.state.2.1.text, shown.state.2.2, shown.reports⟩ := rfl
  rw [hgiven, rendered_run]
  simp only [besideWorld, hshown]
  rfl

theorem renderOnce_state {w : World} {m : Managed} (hbacking : w.backing = .managed m)
    (request : Request) : ((renderOnce request).run w).state = w := by
  have hrules : ∀ rule ∈ ([(0, .index), (0, .plural)] : List (Nat × Rule.Sample)),
      rule.2.isStateless = true := by decide
  rw [renderOnce_run, rendered_run]
  exact (World.render_of_managed hbacking hrules w.policy request).2

variable {run : Runner}

theorem call_state (id : Nat) (callback : Callback Step) (event : Option Event) (w : World) :
    ((call run id callback event).run w).state =
      let calls := (w.calls.get? id).getD 0 + 1
      ((run (callback.actions calls)).run
        { w with
          happenings := w.happenings ++ [.called callback.name event]
          calls := w.calls.insert id calls }).state := rfl

theorem invoke_follower_state {w : World} {id r : Nat} {f : Follower}
    (hopen : w.followers.get? id = some f) (htarget : f.target = .renderer r) (event : Event) :
    ((invoke run event (.follower id)).run w).state = ((refresh r).run w).state := by
  obtain ⟨notifier, handle, target⟩ := f
  obtain rfl : target = .renderer r := htarget
  unfold invoke
  rw [Attempt.run_bind_of_run_eq (Attempt.run_report _ w), Attempt.run_read_bind]
  simp only [hopen]

theorem invoke_follower_state_of_none {w : World} {id : Nat} (hnone : w.followers.get? id = none)
    (event : Event) : ((invoke run event (.follower id)).run w).state = w := by
  unfold invoke
  rw [Attempt.run_bind_of_run_eq (Attempt.run_report _ w), Attempt.run_read_bind]
  simp only [hnone]
  rfl

theorem channel_call_state (notifier : Nat) (subscriber : Subscriber) (event : Event) (w : World) :
    ((channel run notifier).call subscriber event w).state =
      ((invoke run event subscriber).run w).state := by
  simp only [channel, Effect.bind_apply]
  cases ((invoke run event subscriber).run w).value <;> rfl

/-- The event that tells of a change of the locale. -/
def announcement (previous locale : Locale) : Event where
  eventType := localeChanged
  metadata :=
    .ofList [("locale".toList, .text locale.tag), ("previous_locale".toList, .text previous.tag)]

theorem announcement_eventType (previous locale : Locale) :
    (announcement previous locale).eventType = localeChanged := rfl

section

variable {w : World} {m : Managed} {given : Value} {locale : Locale}

section

variable [FailureTexts] [Globbing] {fault : Fault}

theorem setLocale_run_of_unsupported (h : given.asLocale = .error fault) :
    (setLocale run given).run w = ⟨.error fault, w, []⟩ := by
  have hgiven : ((Attempt.ofExcept given.asLocale : Act Locale).run w).value = .error fault := h
  unfold setLocale
  rw [Attempt.run_bind_of_error hgiven, Attempt.run_ofExcept]

theorem setLocale_run_of_active (hbacking : w.backing = .managed m)
    (h : given.asLocale = .ok m.manager.active) :
    (setLocale run given).run w = ⟨.ok false, w, []⟩ := by
  unfold setLocale
  rw [h, Attempt.run_bind_of_run_eq (Attempt.run_ofExcept _ w),
    Attempt.run_bind_of_run_eq (managed_run hbacking), if_pos rfl]
  rfl

theorem setLocale_run_of_activate_error (hbacking : w.backing = .managed m)
    (h : given.asLocale = .ok locale) (hother : locale ≠ m.manager.active)
    (hactivate : ((Manager.activate m.disk locale).run m.manager).value = .error fault) :
    (setLocale run given).run w =
      let activated := (Manager.activate m.disk locale).run m.manager
      ⟨.error fault, { w with backing := .managed { m with manager := activated.state } },
        activated.reports⟩ := by
  unfold setLocale
  rw [h, Attempt.run_bind_of_run_eq (Attempt.run_ofExcept _ w),
    Attempt.run_bind_of_run_eq (managed_run hbacking), if_neg hother,
    managing_bind_run_of_error hbacking hactivate]
  rfl

theorem setLocale_of_activate_ok (run : Runner) {previous : Locale}
    (hbacking : w.backing = .managed m) (h : given.asLocale = .ok locale)
    (hother : locale ≠ m.manager.active)
    (hactivate : ((Manager.activate m.disk locale).run m.manager).value = .ok previous) :
    let published := (publish run mainNotifier (announcement previous locale)).run { w with
      backing := .managed
        { m with manager := ((Manager.activate m.disk locale).run m.manager).state } }
    ((setLocale run given).run w).value = published.value.map (fun _ => true) ∧
      ((setLocale run given).run w).state = published.state := by
  intro published
  unfold setLocale
  rw [h, Attempt.run_bind_of_run_eq (Attempt.run_ofExcept _ w),
    Attempt.run_bind_of_run_eq (managed_run hbacking), if_neg hother,
    managing_bind_run_of_ok hbacking hactivate]
  exact ⟨run_bind_pure_value _ _ _, run_bind_state (fun _ _ => rfl) _⟩

end

theorem publish_run (run : Runner) (notifier : Nat) (event : Event) (w : World) :
    (publish run notifier event).run w =
      let published := (channel run notifier).publish event w
      ⟨.ok published.value, published.state, published.reports⟩ := by
  unfold publish
  rw [(Asking.publish_follows _ event).eq_lift, Attempt.run_mapFault, Attempt.run_lift]
  rfl

theorem setLocale_of_switch [Globbing] (run : Runner) {previous : Locale}
    (hbacking : w.backing = .managed m) (h : given.asLocale = .ok locale)
    (hother : locale ≠ m.manager.active)
    (hactivate : ((Manager.activate m.disk locale).run m.manager).value = .ok previous) :
    ((setLocale run given).run w).value = .ok true ∧
      ((setLocale run given).run w).state =
        ((channel run mainNotifier).publish (announcement previous locale) { w with
          backing := .managed
            { m with manager := ((Manager.activate m.disk locale).run m.manager).state } }).state := by
  obtain ⟨hvalue, hstate⟩ := setLocale_of_activate_ok run hbacking h hother hactivate
  rw [publish_run] at hvalue hstate
  exact ⟨hvalue, hstate⟩

end

variable [Globbing]

/-- An attempt to change the locale changes nothing, or stops on the way for want of a catalog, or is
told to the subscribers. -/
theorem setLocale_cases (run : Runner) {w : World} {m : Managed} (hbacking : w.backing = .managed m)
    (given : Value) :
    let state := ((setLocale run given).run w).state
    state = w ∨
      (∃ locale e, ((Manager.activate m.disk locale).run m.manager).value = .error e ∧
        state =
          { w with
            backing := .managed
              { m with manager := ((Manager.activate m.disk locale).run m.manager).state } }) ∨
      ∃ manager, state =
        ((channel run mainNotifier).publish (announcement m.manager.active manager.active)
          { w with backing := .managed { m with manager } }).state := by
  cases hgiven : given.asLocale with
  | error e =>
    left
    rw [setLocale_run_of_unsupported hgiven]
  | ok locale =>
    by_cases hactive : locale = m.manager.active
    · left
      rw [setLocale_run_of_active hbacking (hactive ▸ hgiven)]
    · right
      cases hvalue : ((Manager.activate m.disk locale).run m.manager).value with
      | error e =>
        left
        refine ⟨locale, e, hvalue, ?_⟩
        rw [setLocale_run_of_activate_error hbacking hgiven hactive hvalue]
      | ok previous =>
        right
        obtain ⟨-, hstate⟩ := setLocale_of_switch run hbacking hgiven hactive hvalue
        obtain ⟨hprevious, hnow⟩ := Manager.activate_of_ok hvalue
        rw [hprevious] at hstate
        refine ⟨((Manager.activate m.disk locale).run m.manager).state, ?_⟩
        rw [hnow]
        exact hstate

theorem listen_state (handle : Text) (callback : Callback Step) (w : World) :
    ((takeOnManager run (.listen handle callback)).run w).state =
      let new := (registry mainNotifier w).subscribe localeChanged (.callback w.fresh callback)
      { w with
        fresh := w.fresh + 1
        registries := w.registries.insert new.2.id new.2
        handleNames := w.handleNames.insert handle new.1 } := rfl

theorem unlisten_cases (run : Runner) (name : Text) (w : World) :
    let state := ((takeOnManager run (.unlisten name)).run w).state
    state = w ∨
      ∃ handle, w.handleNames.get? name = some handle ∧
        let r := (registry mainNotifier w).unsubscribe handle
        state = { w with registries := w.registries.insert r.id r } := by
  unfold takeOnManager
  cases hname : w.handleNames.get? name with
  | none =>
    left
    rw [Attempt.run_bind_of_error (by rw [handle_run_of_none hname]), handle_run_of_none hname]
  | some handle =>
    rw [Attempt.run_bind_of_run_eq (handle_run_of_some hname)]
    by_cases hregistered : (registry mainNotifier w).isRegistered handle = true
    · right
      refine ⟨handle, rfl, ?_⟩
      rw [Attempt.run_bind_of_run_eq (unsubscribe_run_of_registered hregistered)]
      rfl
    · left
      rw [Attempt.run_bind_of_run_eq (unsubscribe_run_of_not_registered hregistered)]
      rfl

theorem write_state (changes : List (Text × Option FileContent)) {w : World} {m : Managed}
    (hbacking : w.backing = .managed m) :
    ((takeOnManager run (.write changes)).run w).state =
      if m.writable then { w with backing := .managed { m with disk := m.disk.change changes } }
      else w := by
  unfold takeOnManager
  rw [Attempt.run_bind_of_run_eq (managed_run hbacking)]
  by_cases hwritable : m.writable = true
  · rw [if_pos hwritable, if_pos hwritable]
    rfl
  · rw [if_neg hwritable, if_neg hwritable]
    rfl

end Phrasebook.Script.Act
