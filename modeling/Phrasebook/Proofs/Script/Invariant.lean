import Phrasebook.Proofs.Notifier.Evolution
import Phrasebook.Proofs.Script.Service

/-!
Invariants of a world. A step changes a world in few ways, however deep callbacks call each other: a
property that lasts through each of these ways lasts through every step.
-/

set_option autoImplicit false
set_option relaxedAutoImplicit false

namespace Phrasebook.Script

open Act (registry)

namespace World

/-- Worlds that differ in neither the registries nor what renderers draw on, the second of which may
have given out more numbers. -/
structure Alike (w w' : World) : Prop where
  backing : w'.backing = w.backing
  policy : w'.policy = w.policy
  registries : w'.registries = w.registries
  fresh : w.fresh ≤ w'.fresh

/-- A property that lasts through every change which steps make to a world. -/
structure Invariant (P : World → Prop) : Prop where
  alike : ∀ {w w'}, P w → Alike w w' → P w'
  manage : ∀ {w} managed, P w → P { w with backing := .managed managed }
  stub : ∀ {w stubs}, w.backing = .stubs stubs → ∀ stubs', P w →
    P { w with backing := .stubs stubs' }
  change : ∀ {w} notifier {r}, Registry.Change (registry notifier w) r → P w →
    P { w with registries := w.registries.insert r.id r }
  found : ∀ {w}, P w →
    P { w with
      fresh := w.fresh + 1
      registries := w.registries.insert w.fresh { id := w.fresh } }

private theorem fetch_state (policy key : Text) (w : World) :
    (Template.fetch source policy key w).state = w := by
  have htemplate : (source.template key w).state = w := by
    simp only [source]
    cases w.backing <;> rfl
  simp only [Template.fetch, Effect.bind_apply, htemplate]
  rcases (source.template key w).value with ⟨_ | _⟩ | _ <;> rfl

private theorem alike_rule (sample : Rule.Sample) (instanceId : Nat) (content : Text) (w : World) :
    Alike w ((sample.rule access instanceId).apply content w).2 := by
  cases sample <;> exact ⟨rfl, rfl, rfl, Nat.le_refl _⟩

namespace Invariant

open Act (Keeps)
open Act.Keeps (notifierNamed handleNamed followerNamed rendererNamed rendererOf isFollowing
  followedNotifier)

variable {P : World → Prop} {α : Type} (inv : Invariant P)

include inv

private theorem row (lookupKey : Text) {w : World} (hw : P w) : P (source.row lookupKey w).state := by
  simp only [source]
  cases hbacking : w.backing with
  | stubs stubs => exact inv.stub hbacking _ hw
  | managed m => exact hw

private theorem render (rules : List (Nat × Rule.Sample)) (policy : Text) (request : Request) {w : World}
    (hw : P w) : P (Template.render source (Act.chainOf rules) policy request w).state := by
  -- the rendering agrees with itself, where states agree if they are one that has the property
  let rendering := Template.render source (Act.chainOf rules) policy request
  have hself : Effect.Simulates (fun s t => s = t ∧ P s) rendering rendering := by
    refine Template.render_simulates ?_ ?_ ?_ rfl rfl fun _ => rfl
    · rintro s t ⟨rfl, hs⟩
      rw [fetch_state]
      exact ⟨rfl, rfl, hs⟩
    · rintro lookupKey s t ⟨rfl, hs⟩
      exact ⟨rfl, rfl, inv.row lookupKey hs⟩
    · rw [Act.chainOf, List.forall₂_map_left_iff, List.forall₂_map_right_iff, List.forall₂_same]
      rintro rule - content s t ⟨rfl, hs⟩
      exact ⟨rfl, rfl, inv.alike hs (alike_rule rule.2 rule.1 content s)⟩
  obtain ⟨-, -, hrendered⟩ := hself w w ⟨rfl, hw⟩
  exact hrendered

private theorem elsewhere {f : World → World} (hf : ∀ w, Alike w (f w)) : Keeps P (Attempt.change f) :=
  fun w hw => inv.alike hw (hf w)

private theorem fresh : Keeps P Act.fresh :=
  inv.elsewhere fun _ => ⟨rfl, rfl, rfl, Nat.le_succ _⟩

private theorem happens (h : Happening) : Keeps P (Act.happens h) :=
  inv.elsewhere fun _ => ⟨rfl, rfl, rfl, Nat.le_refl _⟩

private theorem setRenderer (id : Nat) (r : Renderer) : Keeps P (Act.setRenderer id r) :=
  inv.elsewhere fun _ => ⟨rfl, rfl, rfl, Nat.le_refl _⟩

private theorem setManaged (m : Managed) : Keeps P (Act.setManaged m) := fun _ hw => inv.manage m hw

private theorem managing (x : Directory → Manager.Managing α) : Keeps P (Act.managing x) :=
  Keeps.managed.bind fun _ => (inv.setManaged _).bind fun _ => (Keeps.tell _).bind fun _ => .ofExcept _

private theorem rendered (rules : List (Nat × Rule.Sample)) (request : Request) :
    Keeps P (Act.rendered (Act.chainOf rules) request) := by
  intro w hw
  rw [Act.rendered_run]
  exact inv.render rules w.policy request hw

private theorem display (id : Nat) (text : Text) : Keeps P (Act.display id text) := by
  refine (rendererOf id).bind fun r => (inv.happens _).bind fun _ => (inv.setRenderer id _).bind fun _ => ?_
  split
  · exact .throw _
  · exact .pure _

private theorem refresh (id : Nat) : Keeps P (Act.refresh id) := by
  have hkeep : ∀ {w : World} display, P w → P (w.keep id display) := by
    intro w display hw
    unfold World.keep
    cases w.renderers.get? id with
    | none => exact hw
    | some r => exact inv.alike hw ⟨rfl, rfl, rfl, Nat.le_refl _⟩
  refine (rendererOf id).bind fun r => .read_bind fun w hw => ?_
  rw [Attempt.run_within]
  cases hrequest : r.display.request with
  | none =>
    rw [Display.refresh_of_none _ hrequest]
    exact hkeep r.display hw
  | some request =>
    rw [Display.refresh_of_some _ hrequest]
    exact hkeep _ (inv.display id _ _ (inv.render r.rules w.policy request hw))

private theorem setString (id : Nat) (request : Request) : Keeps P (Act.setString id request) :=
  (rendererOf id).bind fun _ => (inv.setRenderer id _).bind fun _ => inv.refresh id

theorem subscribe (notifier : Nat) (eventType : Text) (subscriber : Subscriber) :
    Keeps P (Act.subscribe notifier eventType subscriber) :=
  fun w hw => inv.change notifier (.subscribe (registry notifier w) eventType subscriber) hw

theorem unsubscribe (notifier : Nat) (handle : Handle) :
    Keeps P (Act.unsubscribe notifier handle) := by
  intro w hw
  by_cases hregistered : (registry notifier w).isRegistered handle = true
  · rw [Act.unsubscribe_run_of_registered hregistered]
    exact inv.change notifier (.unsubscribe (registry notifier w) handle) hw
  · rw [Act.unsubscribe_run_of_not_registered hregistered]
    exact hw

theorem clear (notifier : Nat) : Keeps P (Act.clear notifier) :=
  fun w hw => inv.change notifier (.clear (registry notifier w)) hw

private theorem openFollower (notifier : Nat) (target : Target) :
    Keeps P (Act.openFollower notifier target) := by
  refine inv.fresh.bind fun id => (inv.subscribe _ _ _).bind fun handle => ?_
  exact .bind (inv.elsewhere fun _ => ⟨rfl, rfl, rfl, Nat.le_refl _⟩) fun _ => .pure _

private theorem closeFollower (id : Nat) : Keeps P (Act.closeFollower id) := by
  refine Keeps.read.bind fun w => ?_
  rcases w.followers.get? id with _ | ⟨notifier, _ | handle, target⟩
  · exact .pure _
  · exact .pure _
  · refine (inv.unsubscribe notifier handle).bind fun _ => ?_
    exact inv.elsewhere fun _ => ⟨rfl, rfl, rfl, Nat.le_refl _⟩

private theorem makeRenderer (name : Text) (options : RendererOptions) (usual : List Rule.Sample) :
    Keeps P (Act.makeRenderer name options usual) := by
  let count := (options.rules.getD usual).length
  have hfollow : ∀ id r, Keeps P (do
      Act.setRenderer id r
      if options.follow then
        let follower ← Act.openFollower (← Act.followedNotifier) (.renderer id)
        Act.setRenderer id { (← Act.rendererOf id) with follower := some follower }
      return id) := by
    intro id r
    refine (inv.setRenderer id r).bind fun _ => ?_
    split
    · refine followedNotifier.bind fun _ => (inv.openFollower _ _).bind fun _ => ?_
      exact (rendererOf id).bind fun _ => (inv.setRenderer id _).bind fun _ => .pure _
    · exact .pure _
  refine inv.fresh.bind fun id w hw => ?_
  -- the rules take numbers that are new in the world at hand
  have hnumbered : P { w with fresh := w.fresh + count } :=
    inv.alike hw ⟨rfl, rfl, rfl, Nat.le_add_right _ _⟩
  exact hfollow id _ _ hnumbered

private theorem closeRenderer (id : Nat) : Keeps P (Act.closeRenderer id) := by
  refine (rendererOf id).bind fun r => ?_
  cases r.follower with
  | none => exact .pure _
  | some follower =>
    refine (inv.closeFollower follower).bind fun _ => (rendererOf id).bind fun _ => ?_
    exact inv.setRenderer id _

private theorem renderOnce (request : Request) : Keeps P (Act.renderOnce request) := by
  intro w hw
  rw [Act.renderOnce_run]
  exact inv.rendered [(0, .index), (0, .plural)] request w hw

private theorem keepHandle (name : Text) (handle : Handle) :
    Keeps P (Script.keepHandle name handle) :=
  .bind (inv.elsewhere fun _ => ⟨rfl, rfl, rfl, Nat.le_refl _⟩) fun _ => .pure _

private theorem newCallback (callback : Callback Step) : Keeps P (Script.newCallback callback) :=
  inv.fresh.bind fun _ => .pure _

private theorem changeStubs (f : Stubs → Stubs) : Keeps P (Script.changeStubs f) := by
  refine .change fun w hw => ?_
  cases hbacking : w.backing with
  | stubs stubs => exact inv.stub hbacking (f stubs) hw
  | managed m => exact hw

private theorem foundNotifier (run : Runner) (name : Text) :
    Keeps P (Script.takeOnNotifier run (.notifier name)) :=
  fun _ hw => inv.alike (inv.found hw) ⟨rfl, rfl, rfl, Nat.le_refl _⟩

section

variable {run : Runner} (hrun : ∀ steps, Keeps P (run steps))

include hrun

private theorem call (id : Nat) (callback : Callback Step) (event : Option Event) :
    Keeps P (Act.call run id callback event) := by
  refine (inv.happens _).bind fun _ => Keeps.read.bind fun w => ?_
  exact .bind (inv.elsewhere fun _ => ⟨rfl, rfl, rfl, Nat.le_refl _⟩) fun _ => hrun _

theorem invoke (event : Event) (subscriber : Subscriber) :
    Keeps P (Act.invoke run event subscriber) := by
  cases subscriber with
  | callback id callback => exact inv.call hrun id callback (some event)
  | follower id =>
    refine (Keeps.report _).bind fun _ => Keeps.read.bind fun w => ?_
    rcases w.followers.get? id with _ | ⟨notifier, handle, r | ⟨c, callback⟩⟩
    · exact .pure _
    · exact inv.refresh r
    · exact inv.call hrun c callback none

theorem publish (notifier : Nat) (event : Event) :
    Keeps P (Act.publish run notifier event) := by
  intro w h
  rw [Act.publish_run]
  change P ((Act.channel run notifier).publish event w).state
  rw [Channel.publish_state]
  refine Channel.deliver_keeps (P := fun _ => P) ?_ ?_ h
  · intro s more w' _ h'
    rw [Act.channel_call_state]
    exact inv.invoke hrun event s.subscriber w' h'
  · intro s more w' _ h'
    exact h'

private theorem setLocale (given : Value) : Keeps P (Act.setLocale run given) := by
  refine (Keeps.ofExcept _).bind fun locale => Keeps.managed.bind fun m => ?_
  split
  · exact .pure _
  · exact (inv.managing _).bind fun previous => (inv.publish hrun _ _).bind fun _ => .pure _

omit inv in
private theorem takeInside (actions : List Step) {atEnd : Act α} (hatEnd : Keeps P atEnd)
    {close : Act Unit} (hclose : Keeps P close) :
    Keeps P (Script.takeInside run actions atEnd close) :=
  (Keeps.outcome ((hrun actions).bind fun _ => hatEnd)).bind fun _ => hclose.bind fun _ => .ofExcept _

private theorem takeOnNotifier (step : NotifierStep Step) :
    Keeps P (Script.takeOnNotifier run step) := by
  cases step with
  | notifier name => exact inv.foundNotifier run name
  | subscribe handle eventType callback on =>
    refine (inv.newCallback _).bind fun _ => (notifierNamed on).bind fun _ => ?_
    exact (inv.subscribe _ _ _).bind fun _ => inv.keepHandle _ _
  | unsubscribe name on =>
    refine (notifierNamed on).bind fun _ => (handleNamed name).bind fun _ => ?_
    exact (inv.unsubscribe _ _).bind fun _ => .pure _
  | publish event on =>
    exact (notifierNamed on).bind fun _ => (inv.publish hrun _ _).bind fun _ => .pure _
  | count eventType on => exact (notifierNamed on).bind fun _ => Keeps.read.bind fun _ => .pure _
  | clear on => exact (notifierNamed on).bind fun _ => (inv.clear _).bind fun _ => .pure _
  | raise message => exact .throw _
  | follower name callback on =>
    refine (notifierNamed on).bind fun _ => inv.fresh.bind fun _ => (inv.openFollower _ _).bind fun _ => ?_
    refine .bind (inv.elsewhere fun _ => ⟨rfl, rfl, rfl, Nat.le_refl _⟩) fun _ => ?_
    exact (isFollowing _).bind fun _ => .pure _
  | isFollowing name => exact (followerNamed name).bind fun _ => (isFollowing _).bind fun _ => .pure _
  | closeFollower name =>
    refine (followerNamed name).bind fun _ => (inv.closeFollower _).bind fun _ => ?_
    exact (isFollowing _).bind fun _ => .pure _
  | withFollower name actions =>
    refine (followerNamed name).bind fun _ => ?_
    refine (takeInside hrun _ (isFollowing _) (inv.closeFollower _)).bind fun _ => ?_
    exact (isFollowing _).bind fun _ => .pure _

private theorem takeOnRenderer (step : RendererStep Step) :
    Keeps P (Script.takeOnRenderer run step) := by
  cases step with
  | renderer name options =>
    refine Keeps.read.bind fun _ => (inv.makeRenderer _ _ _).bind fun _ => ?_
    exact .bind (inv.elsewhere fun _ => ⟨rfl, rfl, rfl, Nat.le_refl _⟩) fun _ => .pure _
  | setString name request =>
    refine (rendererNamed name).bind fun _ => (inv.setString _ _).bind fun _ => ?_
    exact (rendererOf _).bind fun _ => .pure _
  | refresh name =>
    refine (rendererNamed name).bind fun _ => (inv.refresh _).bind fun _ => ?_
    exact (rendererOf _).bind fun _ => .pure _
  | text name => exact (rendererNamed name).bind fun _ => (rendererOf _).bind fun _ => .pure _
  | request name => exact (rendererNamed name).bind fun _ => (rendererOf _).bind fun _ => .pure _
  | close name => exact (rendererNamed name).bind fun _ => (inv.closeRenderer _).bind fun _ => .pure _
  | withRenderer name actions =>
    refine (rendererNamed name).bind fun _ => ?_
    exact (takeInside hrun _ (.pure _) (inv.closeRenderer _)).bind fun _ => .pure _
  | rules name => exact (rendererNamed name).bind fun _ => (rendererOf _).bind fun _ => .pure _
  | register name rule =>
    refine (rendererNamed name).bind fun _ => (rendererOf _).bind fun _ => inv.fresh.bind fun _ => ?_
    exact (inv.setRenderer _ _).bind fun _ => .pure _
  | locale new =>
    cases new with
    | none => exact Keeps.read.bind fun _ => (Keeps.ofExcept _).bind fun _ => .pure _
    | some new =>
      refine (inv.changeStubs _).bind fun _ => Keeps.read.bind fun _ => ?_
      exact (Keeps.ofExcept _).bind fun _ => .pure _
  | putTemplate key entry => exact (inv.changeStubs _).bind fun _ => .pure _
  | putTable lookupKey answer => exact (inv.changeStubs _).bind fun _ => .pure _
  | fetches =>
    refine Keeps.read.bind fun w => ?_
    cases w.backing with
    | stubs stubs => exact (inv.changeStubs _).bind fun _ => .pure _
    | managed m => exact .pure _

private theorem takeOnManager (step : ManagerStep Step) :
    Keeps P (Script.takeOnManager run step) := by
  cases step with
  | setLocale given => exact (inv.setLocale hrun given).bind fun _ => .pure _
  | render request => exact (inv.renderOnce request).bind fun _ => .pure _
  | fallback => exact Keeps.read.bind fun _ => Keeps.managed.bind fun _ => .pure _
  | listen handle callback =>
    exact (inv.newCallback _).bind fun _ => (inv.subscribe _ _ _).bind fun _ => inv.keepHandle _ _
  | unlisten name => exact (handleNamed name).bind fun _ => (inv.unsubscribe _ _).bind fun _ => .pure _
  | loadAll => exact (inv.managing _).bind fun _ => .pure _
  | reload => exact (inv.managing _).bind fun _ => .pure _
  | loadLocale given => exact (Keeps.ofExcept _).bind fun _ => (inv.managing _).bind fun _ => .pure _
  | available => exact Keeps.managed.bind fun _ => .pure _
  | catalog given => exact (Keeps.ofExcept _).bind fun _ => Keeps.managed.bind fun _ => .pure _
  | template key =>
    refine Keeps.managed.bind fun m => (Keeps.tell _).bind fun _ => ?_
    split
    · exact .pure _
    · exact .throw _
  | row lookupKey => exact Keeps.managed.bind fun _ => (Keeps.tell _).bind fun _ => .pure _
  | hasTemplate key given =>
    refine Keeps.managed.bind fun m => ?_
    cases given with
    | none => exact (Keeps.pure _).bind fun _ => .pure _
    | some given => exact (Keeps.ofExcept _).bind fun _ => .pure _
  | putString given key text =>
    refine (Keeps.ofExcept _).bind fun _ => Keeps.managed.bind fun _ => ?_
    exact (Keeps.expect _ _).bind fun _ => (inv.setManaged _).bind fun _ => .pure _
  | dropCatalogs => exact Keeps.managed.bind fun _ => (inv.setManaged _).bind fun _ => .pure _
  | write changes =>
    refine Keeps.managed.bind fun m => ?_
    split
    · exact (inv.setManaged _).bind fun _ => .pure _
    · exact .pure _
  | cached => exact Keeps.managed.bind fun _ => .pure _
  | usesCache => exact Keeps.managed.bind fun _ => .pure _
  | clearCache => exact (inv.managing _).bind fun _ => .pure _
  | calls => exact Keeps.managed.bind fun _ => .pure _

end

theorem takeAll {take : Taking} (htake : ∀ step, Keeps P (take step)) (steps : List Step) :
    Keeps P (Script.takeAll take steps) := by
  induction steps with
  | nil => exact .pure ()
  | cons step steps ih => exact (htake step).bind fun _ => (inv.happens _).bind fun _ => ih

theorem take (depth : Nat) (step : Step) : Keeps P (Script.take depth step) := by
  induction depth generalizing step with
  | zero => exact .throw _
  | succ depth ih =>
    cases step with
    | onNotifier told step => exact inv.takeOnNotifier (inv.takeAll ih) step
    | onRenderer told step => exact inv.takeOnRenderer (inv.takeAll ih) step
    | onManager told step => exact inv.takeOnManager (inv.takeAll ih) step

theorem after (depth : Nat) (steps : List Step) {w : World} (hw : P w) :
    P (World.after depth steps w) := by
  induction steps generalizing w with
  | nil => exact hw
  | cons step steps ih =>
    have hbegun : P { w with happenings := [] } := inv.alike hw ⟨rfl, rfl, rfl, Nat.le_refl _⟩
    exact ih (inv.take depth step _ hbegun)

end Invariant

theorem invariant_managed : Invariant fun w => ∃ m, w.backing = .managed m where
  alike := fun ⟨m, hm⟩ h => ⟨m, h.backing.trans hm⟩
  manage m _ := ⟨m, rfl⟩
  stub h _ := fun ⟨m, hm⟩ => by
    rw [h] at hm
    cases hm
  change _ _ _ h := h
  found h := h

end World

end Phrasebook.Script
