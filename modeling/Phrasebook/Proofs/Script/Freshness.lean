import Phrasebook.Proofs.Script.Followers

/-!
Renderers that follow the locale are never stale. While a change of the locale is being delivered, a
renderer may still hold the text of an earlier locale, but then its own turn is yet to come. No step
that a service takes, in the middle of a delivery or not, makes any other renderer stale.
-/

set_option autoImplicit false
set_option relaxedAutoImplicit false

namespace Phrasebook.Script

open Act (registry Keeps)

/-- The renderers that follow the locale hold the texts of their requests, but for those that some
pending subscriptions are still to reach. -/
structure UpToDate (pending : List (Subscription Subscriber)) (w : World) : Prop where
  managed : ∃ m, w.backing = .managed m
  linked : FollowersLinked w
  text : ∀ {m id r follower request}, w.backing = .managed m → w.renderers.get? id = some r →
    r.follower = some follower → r.display.request = some request →
    r.display.text = some (m.manager.rendering w.policy r.rules request) ∨
      ∃ handle, w.followers.get? follower = some ⟨mainNotifier, some handle, .renderer id⟩ ∧
        ⟨handle, .follower follower⟩ ∈ pending

namespace UpToDate

variable {pending rest : List (Subscription Subscriber)} {w w' : World}

/-- A world is up to date after a change if every renderer that follows either holds the text of its
request or is as it was before, its turn being still to come if it was so before. -/
private theorem transfer (h : UpToDate pending w) (hlinked : FollowersLinked w') {m m' : Managed}
    (hbacking : w.backing = .managed m) (hbacking' : w'.backing = .managed m')
    (hanswers : m'.manager.AnswersLike m.manager) (hpolicy : w'.policy = w.policy)
    (hlive : ∀ {id r follower request}, w'.renderers.get? id = some r → r.follower = some follower →
      r.display.request = some request →
      r.display.text = some (m'.manager.rendering w'.policy r.rules request) ∨
        (w.renderers.get? id = some r ∧
          ∀ handle, w.followers.get? follower = some ⟨mainNotifier, some handle, .renderer id⟩ →
            ⟨handle, .follower follower⟩ ∈ pending →
              w'.followers.get? follower = some ⟨mainNotifier, some handle, .renderer id⟩ ∧
                ⟨handle, .follower follower⟩ ∈ rest)) :
    UpToDate rest w' := by
  refine ⟨⟨m', hbacking'⟩, hlinked, ?_⟩
  intro other id r follower request hother hr hfollows hrequest
  obtain rfl : m' = other := Backing.managed.inj (hbacking'.symm.trans hother)
  rcases hlive hr hfollows hrequest with htext | ⟨hr', hkept⟩
  · exact Or.inl htext
  · rcases h.text hbacking hr' hfollows hrequest with htext | ⟨handle, hopen, hmem⟩
    · rw [htext, hpolicy, hanswers.rendering_eq]
      exact Or.inl rfl
    · exact Or.inr ⟨handle, hkept handle hopen hmem⟩

theorem of_same (h : UpToDate pending w) (hlinked : FollowersLinked w') {m m' : Managed}
    (hbacking : w.backing = .managed m) (hbacking' : w'.backing = .managed m')
    (hanswers : m'.manager.AnswersLike m.manager) (hpolicy : w'.policy = w.policy)
    (hrenderers : w'.renderers = w.renderers) (hfollowers : w'.followers = w.followers) :
    UpToDate pending w' := by
  refine h.transfer hlinked hbacking hbacking' hanswers hpolicy ?_
  intro id r follower request hr _ _
  rw [hrenderers] at hr
  rw [hfollowers]
  exact Or.inr ⟨hr, fun _ hopen hmem => ⟨hopen, hmem⟩⟩

theorem note (h : UpToDate pending w) (happenings : List Happening) (calls : Dict Nat Nat)
    (rendererNames : Dict Text Nat) : UpToDate pending { w with happenings, calls, rendererNames } := by
  obtain ⟨m, hm⟩ := h.managed
  exact h.of_same (h.linked.congr rfl rfl rfl rfl (Nat.le_refl _)) hm hm (.refl _) rfl rfl rfl

theorem weaken (h : UpToDate pending w) (hsub : ∀ s ∈ pending, s ∈ rest) : UpToDate rest w := by
  obtain ⟨m, hm⟩ := h.managed
  refine h.transfer h.linked hm hm (.refl _) rfl ?_
  intro id r follower request hr _ _
  exact Or.inr ⟨hr, fun handle hopen hmem => ⟨hopen, hsub _ hmem⟩⟩

theorem skip {s : Subscription Subscriber} (h : UpToDate (s :: pending) w)
    (hs : ∀ {handle follower id r}, s = ⟨handle, .follower follower⟩ →
      w.renderers.get? id = some r → r.follower = some follower →
        w.followers.get? follower ≠ some ⟨mainNotifier, some handle, .renderer id⟩) :
    UpToDate pending w := by
  obtain ⟨m, hm⟩ := h.managed
  refine h.transfer h.linked hm hm (.refl _) rfl ?_
  intro id r follower request hr hfollows _
  refine Or.inr ⟨hr, fun handle hopen hmem => ⟨hopen, ?_⟩⟩
  rcases List.mem_cons.mp hmem with heq | hmem
  · exact absurd hopen (hs heq.symm hr hfollows)
  · exact hmem

theorem refresh (h : UpToDate pending w) (id : Nat)
    (hrest : ∀ {handle follower other},
      w.followers.get? follower = some ⟨mainNotifier, some handle, .renderer other⟩ →
        ⟨handle, .follower follower⟩ ∈ pending →
          other = id ∨ ⟨handle, .follower follower⟩ ∈ rest) :
    UpToDate rest ((Act.refresh id).run w).state := by
  obtain ⟨m, hm⟩ := h.managed
  cases hr : w.renderers.get? id with
  | none =>
    rw [Act.refresh_state_of_none hr]
    refine h.transfer h.linked hm hm (.refl _) rfl ?_
    intro other r follower request hother _ _
    refine Or.inr ⟨hother, fun handle hopen hmem => ⟨hopen, ?_⟩⟩
    rcases hrest hopen hmem with rfl | hmem
    · rw [hr] at hother
      cases hother
    · exact hmem
  | some r =>
    obtain ⟨happenings, r', hstate, hfollower, hrules, htext⟩ :=
      Act.exists_refresh_state hr hm (h.linked.stateless hr)
    have hlinked : FollowersLinked { w with happenings, renderers := w.renderers.insert id r' } :=
      (h.linked.replace hr hfollower hrules).congr rfl rfl rfl rfl (Nat.le_refl _)
    rw [hstate]
    refine h.transfer hlinked hm hm (.refl _) rfl ?_
    intro other s follower request hs _ hrequest
    rcases Dict.get?_insert_eq_some.mp hs with ⟨-, rfl⟩ | ⟨hother, hs⟩
    · rw [hrules]
      exact Or.inl (htext request hrequest)
    · refine Or.inr ⟨hs, fun handle hopen hmem => ⟨hopen, ?_⟩⟩
      exact (hrest hopen hmem).resolve_left hother

private theorem replace (h : UpToDate pending w) {id : Nat} {r : Renderer}
    (hr : w.renderers.get? id = some r) (request : Request)
    (hsub : ∀ s ∈ pending, s ∈ rest)
    (hown : ∀ {handle follower}, r.follower = some follower →
      w.followers.get? follower = some ⟨mainNotifier, some handle, .renderer id⟩ →
        ⟨handle, .follower follower⟩ ∈ rest) :
    let r' := { r with display := { r.display with request := some request } }
    UpToDate rest { w with renderers := w.renderers.insert id r' } := by
  intro r'
  have hlinked : FollowersLinked { w with renderers := w.renderers.insert id r' } :=
    h.linked.replace hr (show r'.follower = r.follower from rfl) rfl
  refine ⟨h.managed, hlinked, ?_⟩
  intro m other s follower request' hm hs hfollows hrequest
  rcases Dict.get?_insert_eq_some.mp hs with ⟨rfl, rfl⟩ | ⟨-, hs⟩
  · obtain ⟨handle, hopen, -⟩ := h.linked.followed hr hfollows
    exact Or.inr ⟨handle, hopen, hown hfollows hopen⟩
  · rcases h.text hm hs hfollows hrequest with htext | ⟨handle, hopen, hmem⟩
    · exact Or.inl htext
    · exact Or.inr ⟨handle, hopen, hsub _ hmem⟩

theorem setString (h : UpToDate pending w) (id : Nat) (request : Request) :
    UpToDate pending ((Act.setString id request).run w).state := by
  cases hr : w.renderers.get? id with
  | none =>
    rw [Act.setString_state_of_none hr]
    exact h
  | some r =>
    rw [Act.setString_state hr]
    by_cases hfollower : r.follower = none
    · have hnew := h.replace hr request (fun _ hs => hs) fun hfollows =>
        absurd (hfollower.symm.trans hfollows) (Option.some_ne_none _).symm
      exact hnew.refresh id fun _ hmem => Or.inr hmem
    · -- until it is refreshed the renderer waits for a turn of its own
      obtain ⟨own, hown⟩ := Option.ne_none_iff_exists'.mp hfollower
      obtain ⟨handle, hopen, -⟩ := h.linked.followed hr hown
      have hnew : UpToDate (⟨handle, .follower own⟩ :: pending) _ :=
        h.replace hr request (fun _ hs => List.mem_cons_of_mem _ hs) <| by
          intro handle' follower hfollows hopen'
          obtain rfl : own = follower := Option.some.inj (hown.symm.trans hfollows)
          rw [hopen] at hopen'
          cases hopen'
          exact List.mem_cons_self
      refine hnew.refresh id ?_
      intro handle' follower other hopen' hmem
      rcases List.mem_cons.mp hmem with heq | hmem
      · cases heq
        have hsame : some (Follower.mk mainNotifier (some handle) (.renderer id)) =
            some ⟨mainNotifier, some handle, .renderer other⟩ := hopen.symm.trans hopen'
        cases hsame
        exact Or.inl rfl
      · exact Or.inr hmem

theorem makeRenderer (h : UpToDate pending w) (name : Text) {options : RendererOptions}
    {usual : List Rule.Sample}
    (hrules : ∀ sample ∈ options.rules.getD usual, sample.isStateless = true) :
    UpToDate pending ((Act.makeRenderer name options usual).run w).state := by
  obtain ⟨m, hm⟩ := h.managed
  let r := Act.newRenderer w name options usual
  let next := w.fresh + 1 + (options.rules.getD usual).length
  have hstateless : ∀ rule ∈ r.rules, rule.2.isStateless = true :=
    Act.newRenderer_isStateless w name hrules
  have hadded : FollowersLinked { w with fresh := next, renderers := w.renderers.insert w.fresh r } :=
    h.linked.addRenderer rfl hstateless (by omega)
  cases hfollow : options.follow with
  | false =>
    rw [Act.makeRenderer_state_of_not_follow name usual hfollow]
    refine h.transfer hadded hm hm (.refl _) rfl ?_
    intro id s follower request hs hfollows _
    rcases Dict.get?_insert_eq_some.mp hs with ⟨-, rfl⟩ | ⟨-, hs⟩
    · cases hfollows
    · exact Or.inr ⟨hs, fun _ hopen hmem => ⟨hopen, hmem⟩⟩
  | true =>
    rw [Act.makeRenderer_state_of_follow name usual hfollow hm]
    refine h.transfer (hadded.follow (Dict.get?_insert_self ..)) hm hm (.refl _) rfl ?_
    intro id s follower request hs hfollows hrequest
    rcases Dict.get?_insert_eq_some.mp hs with ⟨-, rfl⟩ | ⟨hid, hs⟩
    · cases hrequest
    · obtain ⟨-, hs⟩ := (Dict.get?_insert_eq_some.mp hs).resolve_left fun hsame => hid hsame.1
      refine Or.inr ⟨hs, fun handle hopen hmem => ⟨?_, hmem⟩⟩
      have hlt : follower < w.fresh := h.linked.follower_lt hopen
      exact Dict.get?_insert_eq_some.mpr (Or.inr ⟨by omega, hopen⟩)

theorem closeRenderer (h : UpToDate pending w) (id : Nat) :
    UpToDate pending ((Act.closeRenderer id).run w).state := by
  by_cases hnone : ∀ r, w.renderers.get? id = some r → r.follower = none
  · rw [Act.closeRenderer_state_of_not_following hnone]
    exact h
  · push Not at hnone
    obtain ⟨r, hr, hsome⟩ := hnone
    obtain ⟨own, hown⟩ := Option.ne_none_iff_exists'.mp hsome
    obtain ⟨m, hm⟩ := h.managed
    obtain ⟨handle, hopen, hmem⟩ := h.linked.followed hr hown
    rw [Act.closeRenderer_state_of_following hr hown hopen
      (h.linked.sound.isRegistered_of_mem hmem)]
    refine h.transfer (h.linked.close hr hown hopen hmem) hm hm (.refl _) rfl ?_
    intro other s follower request hs hfollows _
    rcases Dict.get?_insert_eq_some.mp hs with ⟨-, rfl⟩ | ⟨hother, hs⟩
    · cases hfollows
    · refine Or.inr ⟨hs, fun handle' hopen' hmem' => ⟨?_, hmem'⟩⟩
      have hne : follower ≠ own := by
        intro heq
        exact hother (h.linked.follower_inj hs hfollows hr (heq ▸ hown))
      exact Dict.get?_insert_eq_some.mpr (Or.inr ⟨hne, hopen'⟩)

end UpToDate

end Phrasebook.Script
