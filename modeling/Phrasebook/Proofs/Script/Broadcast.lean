import Phrasebook.Proofs.Notifier.Delivery
import Phrasebook.Proofs.Script.Sinks

/-!
One delivery of a change of the locale, as the renderers live it: each one that follows is refreshed
exactly once, and no other is touched.
-/

set_option autoImplicit false
set_option relaxedAutoImplicit false

namespace Phrasebook.Script

open Act (registry)

private theorem takeAll_state_of_isRaise (depth : Nat) {steps : List Step} (h : ∀ step ∈ steps, IsRaise step)
    (w : World) : ((takeAll (take depth) steps).run w).state = w := by
  cases steps with
  | nil => rfl
  | cons step steps =>
    cases h step List.mem_cons_self with
    | raise told message =>
      have hfails : ∃ fault, ((take depth (.onNotifier told (.raise message))).run w) =
          ⟨.error fault, w, []⟩ := by
        cases depth with
        | zero => exact ⟨_, rfl⟩
        | succ depth => exact ⟨_, rfl⟩
      obtain ⟨fault, hfails⟩ := hfails
      unfold takeAll
      rw [Attempt.run_bind_of_error (by rw [hfails]), hfails]

private theorem invoke_state_of_isIdle (depth : Nat) (id : Nat) {callback : Callback Step} (h : callback.IsIdle)
    (event : Event) (w : World) :
    ∃ happenings calls,
      ((Act.invoke (takeAll (take depth)) event (.callback id callback)).run w).state =
        { w with happenings, calls } := by
  let calls := (w.calls.get? id).getD 0 + 1
  refine ⟨w.happenings ++ [.called callback.name (some event)], w.calls.insert id calls, ?_⟩
  exact takeAll_state_of_isRaise depth (h calls) _

def Renderer.isServedBy (r : Renderer) : Subscriber → Bool
  | .follower follower => r.follower = some follower
  | .callback .. => false

/-- Whether the turn of a renderer is still to come. -/
def Renderer.waits (pending : List (Subscription Subscriber)) (r : Renderer) : Bool :=
  pending.any fun s => r.isServedBy s.subscriber

/-- What has become of a renderer in the middle of a delivery: until its turn it is as it was before,
and then it has been refreshed once if it follows. -/
def Renderer.midway (m : Manager) (policy : Text) (pending : List (Subscription Subscriber))
    (r : Renderer) : Renderer :=
  if r.waits pending then r else if r.follower.isSome then r.refreshed m policy else r

@[simp] theorem Renderer.midway_follower {m : Manager} {policy : Text}
    {pending : List (Subscription Subscriber)} {r : Renderer} :
    (r.midway m policy pending).follower = r.follower := by
  unfold midway
  split
  · rfl
  · split
    · exact refreshed_follower
    · rfl

/-- A delivery has refreshed the renderers that follow, but for those that pending subscriptions are still
to reach, and has touched no other. -/
structure RefreshedExcept (before : World) (m : Managed) (pending : List (Subscription Subscriber))
    (w : World) : Prop where
  matching : SinksMatch w
  backing : w.backing = .managed m
  policy : w.policy = before.policy
  pending_sub : ∀ s ∈ pending, s ∈ (registry mainNotifier w).of localeChanged
  distinct : (pending.map Subscription.handle).Nodup
  renderer : ∀ id, w.renderers.get? id =
    (before.renderers.get? id).map (·.midway m.manager before.policy pending)

namespace RefreshedExcept

variable {before w : World} {m : Managed} {pending : List (Subscription Subscriber)} {depth : Nat}

private theorem start (h : SinksMatch w) (hbacking : w.backing = .managed m) :
    RefreshedExcept w m ((registry mainNotifier w).of localeChanged) w := by
  refine ⟨h, hbacking, rfl, fun s hs => hs, h.linked.sound.distinct _, fun id => ?_⟩
  cases hr : w.renderers.get? id with
  | none => rfl
  | some r =>
    cases hfollower : r.follower with
    | none => simp [Renderer.midway, hfollower]
    | some follower =>
      obtain ⟨handle, -, hmem⟩ := h.linked.followed hr hfollower
      have hwaits : r.waits ((registry mainNotifier w).of localeChanged) = true :=
        List.any_eq_true.mpr ⟨_, hmem, by simp [Renderer.isServedBy, hfollower]⟩
      simp [Renderer.midway, hwaits]

private theorem served_callback {handle : Handle} {id : Nat} {callback : Callback Step} (event : Event)
    (h : RefreshedExcept before m (⟨handle, .callback id callback⟩ :: pending) w) :
    RefreshedExcept before m pending
      ((Act.invoke (takeAll (take depth)) event (.callback id callback)).run w).state := by
  have hidle := h.matching.idle (h.pending_sub _ List.mem_cons_self)
  obtain ⟨happenings, calls, hstate⟩ := invoke_state_of_isIdle depth id hidle event w
  rw [hstate]
  refine ⟨h.matching.congr h.matching.managed rfl rfl rfl rfl (Nat.le_refl _), h.backing, h.policy,
    fun s hs => h.pending_sub s (List.mem_cons_of_mem _ hs), (List.nodup_cons.mp h.distinct).2, ?_⟩
  exact h.renderer

private theorem served_follower {handle : Handle} {follower : Nat} (event : Event)
    (h : RefreshedExcept before m (⟨handle, .follower follower⟩ :: pending) w) :
    RefreshedExcept before m pending
      ((Act.invoke (takeAll (take depth)) event (.follower follower)).run w).state := by
  have hpending : ∀ s ∈ pending, s ∈ (registry mainNotifier w).of localeChanged :=
    fun s hs => h.pending_sub s (List.mem_cons_of_mem _ hs)
  obtain ⟨hfirst, hdistinct⟩ := List.nodup_cons.mp h.distinct
  obtain ⟨id, r, hr, hfollows, hopen⟩ := h.matching.reached (h.pending_sub _ List.mem_cons_self)
  rw [Act.invoke_follower_state hopen rfl]
  have hmatching := h.matching.refresh id
  obtain ⟨texts, hstate⟩ := Act.refresh_state hr h.backing (h.matching.linked.stateless hr)
  rw [hstate] at hmatching ⊢
  refine ⟨hmatching, h.backing, h.policy, hpending, hdistinct, fun other => ?_⟩
  rw [Dict.get?_insert]
  by_cases hother : other = id
  · subst hother
    rw [h.renderer other] at hr
    obtain ⟨r₀, hr₀, rfl⟩ := Option.map_eq_some_iff.mp hr
    rw [Renderer.midway_follower] at hfollows
    have hwaited : r₀.waits (⟨handle, .follower follower⟩ :: pending) = true := by
      simp [Renderer.waits, Renderer.isServedBy, hfollows]
    have hserved : r₀.waits pending = false := by
      refine eq_false_of_ne_true fun hwaits => ?_
      obtain ⟨⟨handle', subscriber⟩, hs, hserves⟩ := List.any_eq_true.mp hwaits
      cases subscriber with
      | callback id callback => cases hserves
      | follower own =>
        -- a follower has one handle only
        obtain rfl : follower = own :=
          Option.some.inj (hfollows.symm.trans (of_decide_eq_true hserves))
        obtain ⟨_, _, -, -, hopen'⟩ := h.matching.reached (hpending _ hs)
        rw [hopen] at hopen'
        cases hopen'
        exact hfirst (List.mem_map_of_mem hs)
    rw [if_pos rfl, hr₀, h.policy]
    simp [Renderer.midway, hwaited, hserved, hfollows]
  · rw [if_neg hother, h.renderer other]
    refine Option.map_congr fun r₀ hr₀ => ?_
    have hnot : r₀.isServedBy (.follower follower) = false := by
      refine eq_false_of_ne_true fun hserves => hother ?_
      obtain ⟨r', hr', hfollower⟩ : ∃ r', w.renderers.get? other = some r' ∧
          r'.follower = r₀.follower := by
        rw [h.renderer other, hr₀]
        exact ⟨_, rfl, Renderer.midway_follower⟩
      have hfollows' : r'.follower = some follower := hfollower.trans (of_decide_eq_true hserves)
      exact h.matching.linked.follower_inj hr' hfollows' hr hfollows
    simp [Renderer.midway, Renderer.waits, hnot]

private theorem served {s : Subscription Subscriber} (event : Event) (h : RefreshedExcept before m (s :: pending) w) :
    RefreshedExcept before m pending
      ((Act.channel (takeAll (take depth)) mainNotifier).call s.subscriber event w).state := by
  rw [Act.channel_call_state]
  obtain ⟨handle, subscriber⟩ := s
  cases subscriber with
  | callback id callback => exact h.served_callback event
  | follower follower => exact h.served_follower event

end RefreshedExcept

/-- A delivery refreshes every renderer that follows, and each of them once. -/
theorem SinksMatch.publish {w : World} {m : Managed} (h : SinksMatch w) (hbacking : w.backing = .managed m)
    {event : Event} (hevent : event.eventType = localeChanged) (depth : Nat) :
    RefreshedExcept w m [] ((Act.channel (takeAll (take depth)) mainNotifier).publish event w).state := by
  rw [Channel.publish_state, hevent]
  refine Channel.deliver_keeps ?_ ?_ (RefreshedExcept.start h hbacking)
  · intro s more w' _ hrefreshed
    exact hrefreshed.served event
  · intro s more w' hgone hrefreshed
    have hmem := hrefreshed.pending_sub s List.mem_cons_self
    exact absurd (hrefreshed.matching.linked.sound.isRegistered_of_mem hmem) hgone

end Phrasebook.Script
