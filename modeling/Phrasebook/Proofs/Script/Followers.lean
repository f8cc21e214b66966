import Phrasebook.Proofs.Script.Acts

/-!
How renderers hang on to the locale. A renderer that follows has an open follower of its own, which is
registered with the main notifier, and no handle that a script can name gives that registration up.
-/

set_option autoImplicit false
set_option relaxedAutoImplicit false

namespace Phrasebook.Script

open Act (registry)

/-- The steps by which a localization service is used: making renderers with rules that go by the
content and the locale, giving them texts, closing them, rendering once, changing the locale, and
listening to such changes with callbacks that take steps of this kind themselves. Sinks may fail, steps
may fail, and files may change. -/
inductive InService : Step → Prop
  | makeRenderer (told name : Text) (options : RendererOptions)
    (h : ∀ samples ∈ options.rules, ∀ sample ∈ samples, sample.isStateless = true) :
    InService (.onRenderer told (.renderer name options))
  | setString (told name : Text) (request : Request) :
    InService (.onRenderer told (.setString name request))
  | refresh (told name : Text) : InService (.onRenderer told (.refresh name))
  | text (told name : Text) : InService (.onRenderer told (.text name))
  | close (told name : Text) : InService (.onRenderer told (.close name))
  | render (told : Text) (request : Request) : InService (.onManager told (.render request))
  | setLocale (told : Text) (given : Value) : InService (.onManager told (.setLocale given))
  | listen (told handle : Text) (callback : Callback Step)
    (h : ∀ calls, ∀ step ∈ callback.actions calls, InService step) :
    InService (.onManager told (.listen handle callback))
  | unlisten (told handle : Text) : InService (.onManager told (.unlisten handle))
  | write (told : Text) (changes : List (Text × Option FileContent)) :
    InService (.onManager told (.write changes))
  | raise (told message : Text) : InService (.onNotifier told (.raise message))

/-- A callback takes steps of a service only. -/
def Subscriber.Serves : Subscriber → Prop
  | .callback _ c => ∀ calls, ∀ step ∈ c.actions calls, InService step
  | .follower _ => True

/-- The world of a service holds together. -/
structure FollowersLinked (w : World) : Prop where
  sound : (registry mainNotifier w).Sound
  main : (registry mainNotifier w).id = mainNotifier
  /-- A renderer that follows has an open follower, which is registered. -/
  followed : ∀ {id r follower}, w.renderers.get? id = some r → r.follower = some follower →
    ∃ handle, w.followers.get? follower = some ⟨mainNotifier, some handle, .renderer id⟩ ∧
      ⟨handle, .follower follower⟩ ∈ (registry mainNotifier w).of localeChanged
  /-- Every follower is that of a renderer. -/
  target : ∀ {follower f}, w.followers.get? follower = some f → ∃ id, f.target = .renderer id
  serves : ∀ {eventType s}, s ∈ (registry mainNotifier w).of eventType → s.subscriber.Serves
  /-- A handle with a name has been given out, and not to a follower. -/
  named : ∀ {name handle}, w.handleNames.get? name = some handle →
    handle.serial < (registry mainNotifier w).next ∧
      ∀ {eventType follower}, ⟨handle, .follower follower⟩ ∉ (registry mainNotifier w).of eventType
  freshRenderer : ∀ {id}, w.fresh ≤ id → w.renderers.get? id = none
  freshFollower : ∀ {id}, w.fresh ≤ id → w.followers.get? id = none
  stateless : ∀ {id r}, w.renderers.get? id = some r → ∀ rule ∈ r.rules, rule.2.isStateless = true

theorem registry_of_insert {w : World} {registries : Dict Nat (Registry Subscriber)}
    {r : Registry Subscriber} {notifier : Nat} (h : w.registries = registries.insert r.id r)
    (hid : r.id = notifier) : registry notifier w = r := by
  subst hid
  simp [registry, h]

namespace FollowersLinked

theorem start (m : Managed) (policy : Text) : FollowersLinked { backing := .managed m, policy } := by
  have hregistry : registry mainNotifier { backing := .managed m, policy } = { id := mainNotifier } :=
    rfl
  refine ⟨?_, ?_, ?_, ?_, ?_, ?_, fun _ => rfl, fun _ => rfl, ?_⟩
  · rw [hregistry]
    exact Registry.Sound.empty mainNotifier
  · rw [hregistry]
  · intro id r follower hr
    cases hr
  · intro follower f hf
    cases hf
  · intro eventType s hs
    rw [hregistry] at hs
    cases hs
  · intro name handle hname
    cases hname
  · intro id r hr
    cases hr

theorem follower_inj {w : World} (h : FollowersLinked w) {id id' follower : Nat} {r r' : Renderer}
    (hr : w.renderers.get? id = some r) (hfollower : r.follower = some follower)
    (hr' : w.renderers.get? id' = some r') (hfollower' : r'.follower = some follower) : id = id' := by
  obtain ⟨handle, hopen, -⟩ := h.followed hr hfollower
  obtain ⟨handle', hopen', -⟩ := h.followed hr' hfollower'
  rw [hopen] at hopen'
  simp only [Option.some.injEq, Follower.mk.injEq, Target.renderer.injEq] at hopen'
  exact hopen'.2.2

theorem follower_lt {w : World} (h : FollowersLinked w) {follower : Nat} {f : Follower}
    (hf : w.followers.get? follower = some f) : follower < w.fresh := by
  by_contra hge
  rw [h.freshFollower (Nat.le_of_not_lt hge)] at hf
  cases hf

theorem renderer_lt {w : World} (h : FollowersLinked w) {id : Nat} {r : Renderer}
    (hr : w.renderers.get? id = some r) : id < w.fresh := by
  by_contra hge
  rw [h.freshRenderer (Nat.le_of_not_lt hge)] at hr
  cases hr

private theorem stateless_insert {w : World} (h : FollowersLinked w) {id : Nat} {r : Renderer}
    (hrules : ∀ rule ∈ r.rules, rule.2.isStateless = true) {other : Nat} {s : Renderer}
    (hs : (w.renderers.insert id r).get? other = some s) :
    ∀ rule ∈ s.rules, rule.2.isStateless = true := by
  rcases Dict.get?_insert_eq_some.mp hs with ⟨-, rfl⟩ | ⟨-, hs⟩
  · exact hrules
  · exact h.stateless hs

private theorem renderer_insert_of_lt {w : World} (h : FollowersLinked w) {id other : Nat} (r : Renderer)
    (hid : id < other) (hother : w.fresh ≤ other) :
    (w.renderers.insert id r).get? other = none := by
  rw [Dict.get?_insert, if_neg (Nat.ne_of_gt hid)]
  exact h.freshRenderer hother

private theorem follower_insert_of_lt {w : World} (h : FollowersLinked w) {id other : Nat} (f : Follower)
    (hid : id < other) (hother : w.fresh ≤ other) :
    (w.followers.insert id f).get? other = none := by
  rw [Dict.get?_insert, if_neg (Nat.ne_of_gt hid)]
  exact h.freshFollower hother

private theorem target_insert {w : World} (h : FollowersLinked w) {id own : Nat} {handle : Option Handle}
    {follower : Nat} {f : Follower}
    (hf : (w.followers.insert own ⟨mainNotifier, handle, .renderer id⟩).get? follower = some f) :
    ∃ id, f.target = .renderer id := by
  rcases Dict.get?_insert_eq_some.mp hf with ⟨-, rfl⟩ | ⟨-, hf⟩
  · exact ⟨id, rfl⟩
  · exact h.target hf

theorem congr {w w' : World} (h : FollowersLinked w) (hregistries : w'.registries = w.registries)
    (hfollowers : w'.followers = w.followers) (hrenderers : w'.renderers = w.renderers)
    (hnames : w'.handleNames = w.handleNames) (hfresh : w.fresh ≤ w'.fresh) : FollowersLinked w' := by
  have hregistry : registry mainNotifier w' = registry mainNotifier w := by
    simp only [registry, hregistries]
  refine ⟨?_, ?_, ?_, ?_, ?_, ?_, ?_, ?_, ?_⟩
  · rw [hregistry]
    exact h.sound
  · rw [hregistry]
    exact h.main
  · rw [hregistry, hfollowers, hrenderers]
    exact h.followed
  · rw [hfollowers]
    exact h.target
  · rw [hregistry]
    exact h.serves
  · rw [hregistry, hnames]
    exact h.named
  · intro id hid
    rw [hrenderers]
    exact h.freshRenderer (Nat.le_trans hfresh hid)
  · intro id hid
    rw [hfollowers]
    exact h.freshFollower (Nat.le_trans hfresh hid)
  · rw [hrenderers]
    exact h.stateless

theorem replace {w : World} (h : FollowersLinked w) {id : Nat} {r r' : Renderer}
    (hr : w.renderers.get? id = some r) (hfollower : r'.follower = r.follower)
    (hrules : r'.rules = r.rules) : FollowersLinked { w with renderers := w.renderers.insert id r' } := by
  refine ⟨h.sound, h.main, ?_, h.target, h.serves, h.named, ?_, h.freshFollower,
    h.stateless_insert (hrules ▸ h.stateless hr)⟩
  · intro other s follower hs hfollows
    rcases Dict.get?_insert_eq_some.mp hs with ⟨rfl, rfl⟩ | ⟨-, hs⟩
    · exact h.followed hr (hfollower ▸ hfollows)
    · exact h.followed hs hfollows
  · intro other hother
    exact h.renderer_insert_of_lt r' (Nat.lt_of_lt_of_le (h.renderer_lt hr) hother) hother

theorem addRenderer {w : World} (h : FollowersLinked w) {r : Renderer} (hfollower : r.follower = none)
    (hrules : ∀ rule ∈ r.rules, rule.2.isStateless = true) {next : Nat} (hnext : w.fresh < next) :
    FollowersLinked { w with fresh := next, renderers := w.renderers.insert w.fresh r } := by
  refine ⟨h.sound, h.main, ?_, h.target, h.serves, h.named, ?_, ?_, h.stateless_insert hrules⟩
  · intro other s follower hs hfollows
    rcases Dict.get?_insert_eq_some.mp hs with ⟨-, rfl⟩ | ⟨-, hs⟩
    · rw [hfollower] at hfollows
      cases hfollows
    · exact h.followed hs hfollows
  · intro other hother
    have hlt : w.fresh < other := Nat.lt_of_lt_of_le hnext hother
    exact h.renderer_insert_of_lt r hlt (Nat.le_of_lt hlt)
  · intro follower hge
    exact h.freshFollower (Nat.le_trans (Nat.le_of_lt hnext) hge)

theorem follow {w : World} (h : FollowersLinked w) {id : Nat} {r : Renderer}
    (hr : w.renderers.get? id = some r) :
    let new := (registry mainNotifier w).subscribe localeChanged (.follower w.fresh)
    let w' : World :=
      { w with
        fresh := w.fresh + 1
        registries := w.registries.insert new.2.id new.2
        followers := w.followers.insert w.fresh ⟨mainNotifier, some new.1, .renderer id⟩
        renderers := w.renderers.insert id { r with follower := some w.fresh } }
    FollowersLinked w' := by
  intro new w'
  have hregistry : registry mainNotifier w' = new.2 := registry_of_insert rfl h.main
  have hrules : ∀ rule ∈ r.rules, rule.2.isStateless = true := h.stateless hr
  refine ⟨?_, ?_, ?_, h.target_insert, ?_, ?_, ?_, ?_,
    h.stateless_insert (r := { r with follower := some w.fresh }) hrules⟩
  · rw [hregistry]
    exact h.sound.subscribe _ _
  · rw [hregistry]
    exact h.main
  · intro other s follower hs hfollows
    rw [hregistry]
    rcases Dict.get?_insert_eq_some.mp hs with ⟨rfl, rfl⟩ | ⟨-, hs⟩
    · obtain rfl : w.fresh = follower := Option.some.inj hfollows
      exact ⟨new.1, Dict.get?_insert_self .., Registry.mem_subscribe.mpr (Or.inr ⟨rfl, rfl⟩)⟩
    · obtain ⟨handle, hopen, hmem⟩ := h.followed hs hfollows
      have hne : follower ≠ w.fresh := Nat.ne_of_lt (h.follower_lt hopen)
      exact ⟨handle, Dict.get?_insert_eq_some.mpr (Or.inr ⟨hne, hopen⟩),
        Registry.mem_subscribe.mpr (Or.inl hmem)⟩
  · intro eventType s hs
    rw [hregistry] at hs
    rcases Registry.mem_subscribe.mp hs with hs | ⟨-, rfl⟩
    · exact h.serves hs
    · trivial
  · intro name handle hname
    obtain ⟨hserial, hnone⟩ := h.named hname
    rw [hregistry]
    refine ⟨Nat.lt_succ_of_lt hserial, ?_⟩
    intro eventType follower hmem
    rcases Registry.mem_subscribe.mp hmem with hmem | ⟨-, heq⟩
    · exact hnone hmem
    · obtain rfl : handle = ⟨_, _, _⟩ := congrArg Subscription.handle heq
      exact Nat.lt_irrefl _ hserial
  · intro other hge
    have hlt : w.fresh < other := hge
    exact h.renderer_insert_of_lt _ (Nat.lt_trans (h.renderer_lt hr) hlt) (Nat.le_of_lt hlt)
  · intro follower hge
    exact h.follower_insert_of_lt _ hge (Nat.le_of_succ_le hge)

theorem listen {w : World} (h : FollowersLinked w) (name : Text) {callback : Callback Step}
    (hserves : ∀ calls, ∀ step ∈ callback.actions calls, InService step) :
    let new := (registry mainNotifier w).subscribe localeChanged (.callback w.fresh callback)
    let w' : World :=
      { w with
        fresh := w.fresh + 1
        registries := w.registries.insert new.2.id new.2
        handleNames := w.handleNames.insert name new.1 }
    FollowersLinked w' := by
  intro new w'
  have hregistry : registry mainNotifier w' = new.2 := registry_of_insert rfl h.main
  -- the new subscription is that of a callback
  have hfollower : ∀ {eventType handle follower}, ⟨handle, .follower follower⟩ ∈ new.2.of eventType →
      ⟨handle, .follower follower⟩ ∈ (registry mainNotifier w).of eventType := by
    intro eventType handle follower hmem
    rcases Registry.mem_subscribe.mp hmem with hmem | ⟨-, heq⟩
    · exact hmem
    · cases congrArg Subscription.subscriber heq
  refine ⟨?_, ?_, ?_, h.target, ?_, ?_, ?_, ?_, h.stateless⟩
  · rw [hregistry]
    exact h.sound.subscribe _ _
  · rw [hregistry]
    exact h.main
  · intro id r follower hr hfollows
    obtain ⟨handle, hopen, hmem⟩ := h.followed hr hfollows
    rw [hregistry]
    exact ⟨handle, hopen, Registry.mem_subscribe.mpr (Or.inl hmem)⟩
  · intro eventType s hs
    rw [hregistry] at hs
    rcases Registry.mem_subscribe.mp hs with hs | ⟨-, rfl⟩
    · exact h.serves hs
    · exact hserves
  · intro other handle hname
    rw [hregistry]
    rcases Dict.get?_insert_eq_some.mp hname with ⟨-, rfl⟩ | ⟨-, hname⟩
    · refine ⟨Nat.lt_succ_self _, ?_⟩
      intro eventType follower hmem
      obtain ⟨-, -, hserial⟩ := h.sound.given _ _ (hfollower hmem)
      exact Nat.lt_irrefl _ hserial
    · obtain ⟨hserial, hnone⟩ := h.named hname
      exact ⟨Nat.lt_succ_of_lt hserial, fun hmem => hnone (hfollower hmem)⟩
  · intro id hge
    exact h.freshRenderer (Nat.le_of_succ_le hge)
  · intro follower hge
    exact h.freshFollower (Nat.le_of_succ_le hge)

theorem unlisten {w : World} (h : FollowersLinked w) {name : Text} {handle : Handle}
    (hname : w.handleNames.get? name = some handle) :
    let kept := (registry mainNotifier w).unsubscribe handle
    let w' : World := { w with registries := w.registries.insert kept.id kept }
    FollowersLinked w' := by
  intro kept w'
  have hmain : kept.id = mainNotifier := (Registry.id_unsubscribe _ _).trans h.main
  have hregistry : registry mainNotifier w' = kept := registry_of_insert rfl hmain
  refine ⟨?_, ?_, ?_, h.target, ?_, ?_, h.freshRenderer, h.freshFollower, h.stateless⟩
  · rw [hregistry]
    exact h.sound.unsubscribe handle
  · rw [hregistry]
    exact hmain
  · intro id s follower hs hfollows
    obtain ⟨own, hopen, hmem⟩ := h.followed hs hfollows
    rw [hregistry]
    refine ⟨own, hopen, (Registry.mem_unsubscribe ?_).mpr hmem⟩
    rintro rfl
    exact (h.named hname).2 hmem
  · intro eventType s hs
    rw [hregistry] at hs
    exact h.serves (Registry.mem_of_mem_unsubscribe hs)
  · intro other handle' hother
    obtain ⟨hserial, hnone⟩ := h.named hother
    rw [hregistry, Registry.next_unsubscribe]
    exact ⟨hserial, fun hmem => hnone (Registry.mem_of_mem_unsubscribe hmem)⟩

theorem close {w : World} (h : FollowersLinked w) {id follower : Nat} {r : Renderer} {handle : Handle}
    (hr : w.renderers.get? id = some r) (hfollows : r.follower = some follower)
    (hopen : w.followers.get? follower = some ⟨mainNotifier, some handle, .renderer id⟩)
    (hmem : ⟨handle, .follower follower⟩ ∈ (registry mainNotifier w).of localeChanged) :
    let kept := (registry mainNotifier w).unsubscribe handle
    let w' : World :=
      { w with
        registries := w.registries.insert kept.id kept
        followers := w.followers.insert follower ⟨mainNotifier, none, .renderer id⟩
        renderers := w.renderers.insert id { r with follower := none } }
    FollowersLinked w' := by
  intro kept w'
  have hmain : kept.id = mainNotifier := (Registry.id_unsubscribe _ _).trans h.main
  have hregistry : registry mainNotifier w' = kept := registry_of_insert rfl hmain
  have hrules : ∀ rule ∈ r.rules, rule.2.isStateless = true := h.stateless hr
  refine ⟨?_, ?_, ?_, h.target_insert, ?_, ?_, ?_, ?_,
    h.stateless_insert (r := { r with follower := none }) hrules⟩
  · rw [hregistry]
    exact h.sound.unsubscribe handle
  · rw [hregistry]
    exact hmain
  · intro other s follower' hs hfollows'
    rcases Dict.get?_insert_eq_some.mp hs with ⟨-, rfl⟩ | ⟨hother, hs⟩
    · cases hfollows'
    · obtain ⟨handle', hopen', hmem'⟩ := h.followed hs hfollows'
      have hne : follower' ≠ follower := by
        intro heq
        exact hother (h.follower_inj hs hfollows' hr (heq ▸ hfollows))
      rw [hregistry]
      refine ⟨handle', Dict.get?_insert_eq_some.mpr (Or.inr ⟨hne, hopen'⟩),
        (Registry.mem_unsubscribe ?_).mpr hmem'⟩
      rintro rfl
      have hsame := h.sound.eq_of_handle_eq hmem' hmem rfl
      exact hne (Subscriber.follower.inj (congrArg Subscription.subscriber hsame))
  · intro eventType s hs
    rw [hregistry] at hs
    exact h.serves (Registry.mem_of_mem_unsubscribe hs)
  · intro name handle' hname
    obtain ⟨hserial, hnone⟩ := h.named hname
    rw [hregistry, Registry.next_unsubscribe]
    exact ⟨hserial, fun hmem' => hnone (Registry.mem_of_mem_unsubscribe hmem')⟩
  · intro other hge
    exact h.renderer_insert_of_lt _ (Nat.lt_of_lt_of_le (h.renderer_lt hr) hge) hge
  · intro other hge
    exact h.follower_insert_of_lt _ (Nat.lt_of_lt_of_le (h.follower_lt hopen) hge) hge

end FollowersLinked

end Phrasebook.Script
