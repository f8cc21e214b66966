import Phrasebook.Proofs.Script.Followers

/-!
Worlds in which callbacks do nothing but fail and sinks take every text. Every follower that is
registered is that of a renderer that follows, and every renderer shows the last text of its sink.
-/

set_option autoImplicit false
set_option relaxedAutoImplicit false

namespace Phrasebook.Script

open Act (registry)

/-- A step that does nothing but fail. -/
inductive IsRaise : Step → Prop
  | raise (told message : Text) : IsRaise (.onNotifier told (.raise message))

/-- A callback that uses nothing of the service when it is called. -/
def Callback.IsIdle (callback : Callback Step) : Prop :=
  ∀ calls, ∀ step ∈ callback.actions calls, IsRaise step

private theorem Callback.IsIdle.serves {callback : Callback Step} (h : callback.IsIdle) :
    ∀ calls, ∀ step ∈ callback.actions calls, InService step := by
  intro calls step hstep
  cases h calls step hstep with
  | raise told message => exact .raise told message

/-- The sink takes every text, and what is shown is the last one it took. -/
structure Renderer.Shows (r : Renderer) : Prop where
  willing : ∀ given text, r.sink.refuses given text = false
  display : r.display.text = r.sink.history.getLast?
  sink : r.sink.text = r.sink.history.getLast?.getD []

structure SinksMatch (w : World) : Prop where
  managed : ∃ m, w.backing = .managed m
  linked : FollowersLinked w
  reached : ∀ {handle follower},
    ⟨handle, .follower follower⟩ ∈ (registry mainNotifier w).of localeChanged →
      ∃ id r, w.renderers.get? id = some r ∧ r.follower = some follower ∧
        w.followers.get? follower = some ⟨mainNotifier, some handle, .renderer id⟩
  idle : ∀ {handle id callback},
    ⟨handle, .callback id callback⟩ ∈ (registry mainNotifier w).of localeChanged → callback.IsIdle
  shows : ∀ {id r}, w.renderers.get? id = some r → r.Shows

namespace Renderer

def refreshed (m : Manager) (policy : Text) (r : Renderer) : Renderer :=
  match r.display.request with
  | none => r
  | some request =>
    let text := m.rendering policy r.rules request
    { r with sink := r.sink.give text, display := { r.display with text := some text } }

variable {m : Manager} {policy : Text} {r : Renderer}

@[simp] theorem refreshed_follower : (r.refreshed m policy).follower = r.follower := by
  unfold refreshed
  split <;> rfl

@[simp] theorem refreshed_rules : (r.refreshed m policy).rules = r.rules := by
  unfold refreshed
  split <;> rfl

private theorem Shows.give {text : Text} (h : r.Shows) :
    r.sink.give text =
      { r.sink with given := r.sink.given + 1, text, history := r.sink.history ++ [text] } := by
  have htakes : r.sink.refusesNext text = false := h.willing _ _
  rw [Sink.give, htakes]
  rfl

theorem Shows.refreshed_history (h : r.Shows) :
    (r.refreshed m policy).sink.history =
      r.sink.history ++ (r.display.request.map (m.rendering policy r.rules)).toList := by
  unfold refreshed
  cases hrequest : r.display.request with
  | none => simp
  | some request => simp [h.give]

private theorem Shows.refreshed (h : r.Shows) : (r.refreshed m policy).Shows := by
  unfold Renderer.refreshed
  cases hrequest : r.display.request with
  | none => exact h
  | some request =>
    refine ⟨?_, ?_, ?_⟩
    · simp [h.give, h.willing]
    · simp [h.give]
    · simp [h.give]

end Renderer

theorem Act.refresh_state {w : World} {id : Nat} {r : Renderer} {m : Managed}
    (hr : w.renderers.get? id = some r) (hbacking : w.backing = .managed m)
    (hrules : ∀ rule ∈ r.rules, rule.2.isStateless = true) :
    ∃ texts : List Text, ((refresh id).run w).state =
      { w with
        happenings := w.happenings ++ texts.map (.shown r.name)
        renderers := w.renderers.insert id (r.refreshed m.manager w.policy) } := by
  cases hrequest : r.display.request with
  | none =>
    refine ⟨[], ?_⟩
    rw [refresh_state_of_no_request hr hrequest, Renderer.refreshed, hrequest, List.map_nil,
      List.append_nil]
  | some request =>
    refine ⟨[m.manager.rendering w.policy r.rules request], ?_⟩
    rw [refresh_state_of_request hr hbacking hrules hrequest, Renderer.refreshed, hrequest]
    rfl

namespace SinksMatch

variable {w w' : World}

theorem start (m : Managed) (policy : Text) : SinksMatch { backing := .managed m, policy } where
  managed := ⟨m, rfl⟩
  linked := FollowersLinked.start m policy
  reached h := by cases h
  idle h := by cases h
  shows h := by cases h

theorem congr (h : SinksMatch w) (hmanaged : ∃ m, w'.backing = .managed m)
    (hregistries : w'.registries = w.registries) (hfollowers : w'.followers = w.followers)
    (hrenderers : w'.renderers = w.renderers) (hnames : w'.handleNames = w.handleNames)
    (hfresh : w.fresh ≤ w'.fresh) : SinksMatch w' := by
  have hregistry : registry mainNotifier w' = registry mainNotifier w := by
    simp only [registry, hregistries]
  refine ⟨hmanaged, h.linked.congr hregistries hfollowers hrenderers hnames hfresh, ?_, ?_, ?_⟩
  · rw [hregistry, hfollowers, hrenderers]
    exact h.reached
  · rw [hregistry]
    exact h.idle
  · rw [hrenderers]
    exact h.shows

theorem replace (h : SinksMatch w) {id : Nat} {r r' : Renderer} (hr : w.renderers.get? id = some r)
    (hfollower : r'.follower = r.follower) (hrules : r'.rules = r.rules) (hshows : r'.Shows) :
    SinksMatch { w with renderers := w.renderers.insert id r' } := by
  refine ⟨h.managed, h.linked.replace hr hfollower hrules, ?_, h.idle, ?_⟩
  · intro handle follower hmem
    obtain ⟨other, s, hs, hfollows, hopen⟩ := h.reached hmem
    by_cases hother : other = id
    · subst hother
      rw [hr] at hs
      obtain rfl := Option.some.inj hs
      exact ⟨other, r', Dict.get?_insert_self .., hfollower.trans hfollows, hopen⟩
    · exact ⟨other, s, Dict.get?_insert_eq_some.mpr (Or.inr ⟨hother, hs⟩), hfollows, hopen⟩
  · intro other s hs
    rcases Dict.get?_insert_eq_some.mp hs with ⟨-, rfl⟩ | ⟨-, hs⟩
    · exact hshows
    · exact h.shows hs

theorem refresh (h : SinksMatch w) (id : Nat) : SinksMatch ((Act.refresh id).run w).state := by
  cases hr : w.renderers.get? id with
  | none =>
    rw [Act.refresh_state_of_none hr]
    exact h
  | some r =>
    obtain ⟨m, hm⟩ := h.managed
    obtain ⟨texts, hstate⟩ := Act.refresh_state hr hm (h.linked.stateless hr)
    have hshows : (r.refreshed m.manager w.policy).Shows := (h.shows hr).refreshed
    have hreplaced := h.replace hr Renderer.refreshed_follower Renderer.refreshed_rules hshows
    rw [hstate]
    exact hreplaced.congr h.managed rfl rfl rfl rfl (Nat.le_refl _)

theorem addRenderer (h : SinksMatch w) {r : Renderer} (hfollower : r.follower = none)
    (hrules : ∀ rule ∈ r.rules, rule.2.isStateless = true) (hshows : r.Shows) {next : Nat}
    (hnext : w.fresh < next) :
    SinksMatch { w with fresh := next, renderers := w.renderers.insert w.fresh r } := by
  refine ⟨h.managed, h.linked.addRenderer hfollower hrules hnext, ?_, h.idle, ?_⟩
  · intro handle follower hmem
    obtain ⟨id, s, hs, hfollows, hopen⟩ := h.reached hmem
    have hid : id ≠ w.fresh := Nat.ne_of_lt (h.linked.renderer_lt hs)
    exact ⟨id, s, Dict.get?_insert_eq_some.mpr (Or.inr ⟨hid, hs⟩), hfollows, hopen⟩
  · intro id s hs
    rcases Dict.get?_insert_eq_some.mp hs with ⟨-, rfl⟩ | ⟨-, hs⟩
    · exact hshows
    · exact h.shows hs

theorem follow (h : SinksMatch w) {id : Nat} {r : Renderer} (hr : w.renderers.get? id = some r)
    (hfollower : r.follower = none) :
    let new := (registry mainNotifier w).subscribe localeChanged (.follower w.fresh)
    let w' : World :=
      { w with
        fresh := w.fresh + 1
        registries := w.registries.insert new.2.id new.2
        followers := w.followers.insert w.fresh ⟨mainNotifier, some new.1, .renderer id⟩
        renderers := w.renderers.insert id { r with follower := some w.fresh } }
    SinksMatch w' := by
  intro new w'
  have hregistry : registry mainNotifier w' = new.2 := registry_of_insert rfl h.linked.main
  refine ⟨h.managed, h.linked.follow hr, ?_, ?_, ?_⟩
  · intro handle follower hmem
    rw [hregistry] at hmem
    rcases Registry.mem_subscribe.mp hmem with hmem | ⟨-, heq⟩
    · obtain ⟨other, s, hs, hfollows, hopen⟩ := h.reached hmem
      -- the renderer did not follow before, so no earlier follower is its own
      have hother : other ≠ id := by
        rintro rfl
        rw [hr] at hs
        obtain rfl := Option.some.inj hs
        rw [hfollower] at hfollows
        cases hfollows
      have hne : follower ≠ w.fresh := Nat.ne_of_lt (h.linked.follower_lt hopen)
      exact ⟨other, s, Dict.get?_insert_eq_some.mpr (Or.inr ⟨hother, hs⟩), hfollows,
        Dict.get?_insert_eq_some.mpr (Or.inr ⟨hne, hopen⟩)⟩
    · cases heq
      exact ⟨id, _, Dict.get?_insert_self .., rfl, Dict.get?_insert_self ..⟩
  · intro handle other callback hmem
    rw [hregistry] at hmem
    rcases Registry.mem_subscribe.mp hmem with hmem | ⟨-, heq⟩
    · exact h.idle hmem
    · cases heq
  · intro other s hs
    rcases Dict.get?_insert_eq_some.mp hs with ⟨-, rfl⟩ | ⟨-, hs⟩
    · obtain ⟨hwilling, hdisplay, hsink⟩ := h.shows hr
      exact ⟨hwilling, hdisplay, hsink⟩
    · exact h.shows hs

theorem close (h : SinksMatch w) {id follower : Nat} {r : Renderer} {handle : Handle}
    (hr : w.renderers.get? id = some r) (hfollows : r.follower = some follower)
    (hopen : w.followers.get? follower = some ⟨mainNotifier, some handle, .renderer id⟩)
    (hmem : ⟨handle, .follower follower⟩ ∈ (registry mainNotifier w).of localeChanged) :
    let kept := (registry mainNotifier w).unsubscribe handle
    let w' : World :=
      { w with
        registries := w.registries.insert kept.id kept
        followers := w.followers.insert follower ⟨mainNotifier, none, .renderer id⟩
        renderers := w.renderers.insert id { r with follower := none } }
    SinksMatch w' := by
  intro kept w'
  have hmain : kept.id = mainNotifier := (Registry.id_unsubscribe _ _).trans h.linked.main
  have hregistry : registry mainNotifier w' = kept := registry_of_insert rfl hmain
  refine ⟨h.managed, h.linked.close hr hfollows hopen hmem, ?_, ?_, ?_⟩
  · intro handle' follower' hmem'
    rw [hregistry] at hmem'
    obtain ⟨other, s, hs, hfollows', hopen'⟩ := h.reached (Registry.mem_of_mem_unsubscribe hmem')
    have hne : follower' ≠ follower := by
      rintro rfl
      rw [hopen] at hopen'
      cases hopen'
      exact h.linked.sound.not_mem_unsubscribe hmem'
    have hother : other ≠ id := by
      rintro rfl
      rw [hr] at hs
      obtain rfl := Option.some.inj hs
      exact hne (Option.some.inj (hfollows'.symm.trans hfollows))
    exact ⟨other, s, Dict.get?_insert_eq_some.mpr (Or.inr ⟨hother, hs⟩), hfollows',
      Dict.get?_insert_eq_some.mpr (Or.inr ⟨hne, hopen'⟩)⟩
  · intro handle' other callback hmem'
    rw [hregistry] at hmem'
    exact h.idle (Registry.mem_of_mem_unsubscribe hmem')
  · intro other s hs
    rcases Dict.get?_insert_eq_some.mp hs with ⟨-, rfl⟩ | ⟨-, hs⟩
    · obtain ⟨hwilling, hdisplay, hsink⟩ := h.shows hr
      exact ⟨hwilling, hdisplay, hsink⟩
    · exact h.shows hs

theorem listen (h : SinksMatch w) (name : Text) {callback : Callback Step} (hidle : callback.IsIdle) :
    let new := (registry mainNotifier w).subscribe localeChanged (.callback w.fresh callback)
    let w' : World :=
      { w with
        fresh := w.fresh + 1
        registries := w.registries.insert new.2.id new.2
        handleNames := w.handleNames.insert name new.1 }
    SinksMatch w' := by
  intro new w'
  have hregistry : registry mainNotifier w' = new.2 := registry_of_insert rfl h.linked.main
  refine ⟨h.managed, h.linked.listen name hidle.serves, ?_, ?_, h.shows⟩
  · intro handle follower hmem
    rw [hregistry] at hmem
    rcases Registry.mem_subscribe.mp hmem with hmem | ⟨-, heq⟩
    · exact h.reached hmem
    · cases heq
  · intro handle id other hmem
    rw [hregistry] at hmem
    rcases Registry.mem_subscribe.mp hmem with hmem | ⟨-, heq⟩
    · exact h.idle hmem
    · cases heq
      exact hidle

theorem unlisten (h : SinksMatch w) {name : Text} {handle : Handle}
    (hname : w.handleNames.get? name = some handle) :
    let kept := (registry mainNotifier w).unsubscribe handle
    let w' : World := { w with registries := w.registries.insert kept.id kept }
    SinksMatch w' := by
  intro kept w'
  have hmain : kept.id = mainNotifier := (Registry.id_unsubscribe _ _).trans h.linked.main
  have hregistry : registry mainNotifier w' = kept := registry_of_insert rfl hmain
  refine ⟨h.managed, h.linked.unlisten hname, ?_, ?_, h.shows⟩
  · intro other follower hmem
    rw [hregistry] at hmem
    exact h.reached (Registry.mem_of_mem_unsubscribe hmem)
  · intro other id callback hmem
    rw [hregistry] at hmem
    exact h.idle (Registry.mem_of_mem_unsubscribe hmem)

end SinksMatch

end Phrasebook.Script
