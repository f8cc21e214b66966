import Phrasebook.Proofs.Notifier.Delivery
import Phrasebook.Proofs.Script.Failures
import Phrasebook.Proofs.Script.Freshness

/-!
A localization service at work. One delivery of a change of the locale serves every renderer that
follows, whatever callbacks do meanwhile, so between the steps of a service all of them are up to date.
-/

set_option autoImplicit false
set_option relaxedAutoImplicit false

namespace Phrasebook.Script

open Act (registry Keeps)

/-- Taking the steps of a service keeps a world up to date, in the middle of a delivery too. -/
def Runner.KeepsUpToDate (run : Runner) : Prop :=
  ∀ {steps}, (∀ step ∈ steps, InService step) → ∀ pending, Keeps (UpToDate pending) (run steps)

variable {run : Runner} {pending : List (Subscription Subscriber)} {w : World}

namespace UpToDate

private theorem call (hrun : run.KeepsUpToDate) (id : Nat) {callback : Callback Step}
    (hserves : (Subscriber.callback id callback).Serves) (event : Option Event) :
    Keeps (UpToDate pending) (Act.call run id callback event) := by
  unfold Act.call
  refine .bind (.change fun w h => h.note _ _ _) fun _ => .read_bind fun w h => ?_
  exact Keeps.bind (.change fun w h => h.note _ _ _) (fun _ => hrun (hserves _) pending) w h

private theorem invoke (hrun : run.KeepsUpToDate) (event : Event) {s : Subscription Subscriber}
    (hserves : s.subscriber.Serves) (h : UpToDate (s :: pending) w) :
    UpToDate pending ((Act.invoke run event s.subscriber).run w).state := by
  obtain ⟨handle, subscriber⟩ := s
  cases subscriber with
  | callback id callback =>
    have hskip : UpToDate pending w := by
      refine h.skip ?_
      intro handle' follower id' r heq
      cases heq
    exact call hrun id hserves (some event) w hskip
  | follower own =>
    cases hopen : w.followers.get? own with
    | none =>
      rw [Act.invoke_follower_state_of_none hopen]
      refine h.skip ?_
      intro handle' follower id r heq _ _
      cases heq
      rw [hopen]
      exact (Option.some_ne_none _).symm
    | some f =>
      obtain ⟨id, htarget⟩ := h.linked.target hopen
      rw [Act.invoke_follower_state hopen htarget]
      refine h.refresh id ?_
      intro handle' follower other hopen' hmem
      rcases List.mem_cons.mp hmem with heq | hmem
      · cases heq
        obtain rfl := Option.some.inj (hopen.symm.trans hopen')
        exact Or.inl (Target.renderer.inj htarget)
      · exact Or.inr hmem

private theorem skip_unregistered {s : Subscription Subscriber} (h : UpToDate (s :: pending) w)
    (hgone : ¬ (registry mainNotifier w).isRegistered s.handle = true) : UpToDate pending w := by
  refine h.skip ?_
  intro handle follower id r heq hr hfollows hopen
  obtain ⟨handle', hopen', hmem⟩ := h.linked.followed hr hfollows
  rw [hopen] at hopen'
  cases hopen'
  subst heq
  exact hgone (h.linked.sound.isRegistered_of_mem hmem)

end UpToDate

/-- A world in the middle of a delivery to subscribers of a service. -/
structure Delivering (pending : List (Subscription Subscriber)) (w : World) : Prop where
  serves : ∀ s ∈ pending, s.subscriber.Serves
  upToDate : UpToDate pending w

namespace Delivering

theorem start (hmanaged : ∃ m, w.backing = .managed m) (hlinked : FollowersLinked w) :
    Delivering ((registry mainNotifier w).of localeChanged) w := by
  refine ⟨fun s hs => hlinked.serves hs, hmanaged, hlinked, ?_⟩
  intro m id r follower request _ hr hfollows _
  exact Or.inr (hlinked.followed hr hfollows)

private theorem served {s : Subscription Subscriber} (hrun : run.KeepsUpToDate) (event : Event)
    (h : Delivering (s :: pending) w) :
    Delivering pending ((Act.channel run mainNotifier).call s.subscriber event w).state := by
  rw [Act.channel_call_state]
  exact ⟨fun t ht => h.serves t (List.mem_cons_of_mem _ ht),
    h.upToDate.invoke hrun event (h.serves s List.mem_cons_self)⟩

private theorem passed {s : Subscription Subscriber}
    (hgone : ¬ (registry mainNotifier w).isRegistered s.handle = true)
    (h : Delivering (s :: pending) w) : Delivering pending w :=
  ⟨fun t ht => h.serves t (List.mem_cons_of_mem _ ht), h.upToDate.skip_unregistered hgone⟩

end Delivering

namespace UpToDate

private theorem publish (hrun : run.KeepsUpToDate) {event : Event} (hevent : event.eventType = localeChanged)
    (hmanaged : ∃ m, w.backing = .managed m) (hlinked : FollowersLinked w) :
    UpToDate [] ((Act.channel run mainNotifier).publish event w).state := by
  rw [Channel.publish_state, hevent]
  have hdelivered : Delivering [] ((Act.channel run mainNotifier).deliver event
      ((registry mainNotifier w).of localeChanged) w).state := by
    refine Channel.deliver_keeps ?_ ?_ (Delivering.start hmanaged hlinked)
    · intro s more w _ h
      exact h.served hrun event
    · intro s more w hgone h
      exact h.passed hgone
  exact hdelivered.upToDate

private theorem setLocale [Globbing] (hrun : run.KeepsUpToDate) (given : Value) :
    Keeps (UpToDate pending) (Act.setLocale run given) := by
  intro w h
  obtain ⟨m, hm⟩ := h.managed
  rcases Act.setLocale_cases run hm given with
    hstate | ⟨locale, e, hfailed, hstate⟩ | ⟨manager, hstate⟩
  · rw [hstate]
    exact h
  · rw [hstate]
    exact h.of_same (h.linked.congr rfl rfl rfl rfl (Nat.le_refl _)) hm rfl
      (Manager.answersLike_of_activate_error hfailed) rfl rfl rfl
  · rw [hstate]
    have hlinked : FollowersLinked { w with backing := .managed { m with manager } } :=
      h.linked.congr rfl rfl rfl rfl (Nat.le_refl _)
    have hpublished := publish hrun
      (Act.announcement_eventType m.manager.active manager.active) ⟨_, rfl⟩ hlinked
    exact hpublished.weaken fun s hs => absurd hs List.not_mem_nil

end UpToDate

private theorem takeAll_keepsUpToDate {take : Taking}
    (htake : ∀ {step}, InService step → ∀ pending, Keeps (UpToDate pending) (take step)) :
    Runner.KeepsUpToDate (takeAll take) := by
  intro steps hsteps pending
  induction steps with
  | nil => exact .pure ()
  | cons step steps ih =>
    refine .bind (htake (hsteps step List.mem_cons_self) pending) fun answer => ?_
    refine .bind (.change fun w h => h.note _ _ _) fun _ => ?_
    exact ih fun s hs => hsteps s (List.mem_cons_of_mem _ hs)

section

variable [Globbing]

private theorem listen_keeps (run : Runner) (name : Text) {callback : Callback Step}
    (hserves : ∀ calls, ∀ step ∈ callback.actions calls, InService step) :
    Keeps (UpToDate pending) (takeOnManager run (.listen name callback)) := by
  intro w h
  obtain ⟨m, hm⟩ := h.managed
  rw [Act.listen_state]
  exact h.of_same (h.linked.listen name hserves) hm hm (.refl _) rfl rfl rfl

private theorem unlisten_keeps (run : Runner) (name : Text) :
    Keeps (UpToDate pending) (takeOnManager run (.unlisten name)) := by
  intro w h
  obtain ⟨m, hm⟩ := h.managed
  rcases Act.unlisten_cases run name w with hstate | ⟨handle, hname, hstate⟩
  · rw [hstate]
    exact h
  · rw [hstate]
    exact h.of_same (h.linked.unlisten hname) hm hm (.refl _) rfl rfl rfl

private theorem write_keeps (run : Runner) (changes : List (Text × Option FileContent)) :
    Keeps (UpToDate pending) (takeOnManager run (.write changes)) := by
  intro w h
  obtain ⟨m, hm⟩ := h.managed
  rw [Act.write_state changes hm]
  by_cases hwritable : m.writable = true
  · rw [if_pos hwritable]
    exact h.of_same (h.linked.congr rfl rfl rfl rfl (Nat.le_refl _)) hm rfl (.refl _) rfl rfl rfl
  · rw [if_neg hwritable]
    exact h

/-- A property of the world of a service that lasts while renderers come, go and show something, while
files change, and when a subscription is given up. -/
structure Lasting (P : World → Prop) : Prop where
  managed : ∀ {w}, P w → ∃ m, w.backing = .managed m
  named : ∀ {w} rendererNames, P w → P { w with rendererNames }
  makeRenderer : ∀ name {options usual},
    (∀ sample ∈ options.rules.getD usual, sample.isStateless = true) →
      Keeps P (Act.makeRenderer name options usual)
  setString : ∀ id request, Keeps P (Act.setString id request)
  refresh : ∀ id, Keeps P (Act.refresh id)
  closeRenderer : ∀ id, Keeps P (Act.closeRenderer id)
  unlisten : ∀ run name, Keeps P (takeOnManager run (.unlisten name))
  write : ∀ run changes, Keeps P (takeOnManager run (.write changes))

/-- The steps of a service keep such a property, if that is so for those by which callbacks come into
play: a change of the locale, and listening. -/
theorem Lasting.take {P : World → Prop} (h : Lasting P) (depth : Nat) {step : Step}
    (hstep : InService step)
    (hsetLocale : ∀ told given, step = .onManager told (.setLocale given) →
      Keeps P (Act.setLocale (takeAll (take depth)) given))
    (hlisten : ∀ told name callback, step = .onManager told (.listen name callback) →
      (∀ calls, ∀ step ∈ callback.actions calls, InService step) →
        Keeps P (takeOnManager (takeAll (take depth)) (.listen name callback))) :
    Keeps P (Script.take (depth + 1) step) := by
  cases hstep with
  | makeRenderer told name options hrules =>
    refine .read_bind fun w hw => ?_
    obtain ⟨m, hm⟩ := h.managed hw
    simp only [hm]
    have hmade := h.makeRenderer name (Act.isStateless_of_mem_getD hrules)
    refine Keeps.bind hmade (fun id => ?_) w hw
    exact .bind (.change fun w hw => h.named _ hw) fun _ => .pure _
  | setString told name request =>
    refine .bind (.rendererNamed name) fun id => .bind (h.setString id request) fun _ => ?_
    exact .bind (.rendererOf id) fun _ => .pure _
  | refresh told name =>
    refine .bind (.rendererNamed name) fun id => .bind (h.refresh id) fun _ => ?_
    exact .bind (.rendererOf id) fun _ => .pure _
  | text told name =>
    exact .bind (.rendererNamed name) fun id => .bind (.rendererOf id) fun _ => .pure _
  | close told name =>
    exact .bind (.rendererNamed name) fun id => .bind (h.closeRenderer id) fun _ => .pure _
  | render told request =>
    refine .bind (fun w hw => ?_) fun _ => .pure _
    obtain ⟨m, hm⟩ := h.managed hw
    rw [Act.renderOnce_state hm]
    exact hw
  | setLocale told given => exact .bind (hsetLocale told given rfl) fun _ => .pure _
  | listen told name callback hserves => exact hlisten told name callback rfl hserves
  | unlisten told name => exact h.unlisten (takeAll (Script.take depth)) name
  | write told changes => exact h.write (takeAll (Script.take depth)) changes
  | raise told message => exact .throw _

private theorem UpToDate.lasting (pending : List (Subscription Subscriber)) : Lasting (UpToDate pending) where
  managed h := h.managed
  named _ h := h.note _ _ _
  makeRenderer name _ _ hrules _ h := h.makeRenderer name hrules
  setString id request _ h := h.setString id request
  refresh id _ h := h.refresh id fun _ hmem => Or.inr hmem
  closeRenderer id _ h := h.closeRenderer id
  unlisten := unlisten_keeps
  write := write_keeps

private theorem take_keepsUpToDate (depth : Nat) {step : Step} (hstep : InService step)
    (pending : List (Subscription Subscriber)) :
    Keeps (UpToDate pending) (take depth step) := by
  induction depth generalizing step pending with
  | zero => exact .throw _
  | succ depth ih =>
    have hrun : Runner.KeepsUpToDate (takeAll (take depth)) := takeAll_keepsUpToDate ih
    refine (UpToDate.lasting pending).take depth hstep ?_ ?_
    · intro told given _
      exact UpToDate.setLocale hrun given
    · intro told name callback _ hserves
      exact listen_keeps (takeAll (take depth)) name hserves

/-- The world after the steps of a script, whatever came of each, with callbacks called within each
other up to a depth. -/
def World.after [FailureTexts] (depth : Nat) : List Step → World → World
  | [], w => w
  | step :: steps, w => after depth steps ((take depth step).run { w with happenings := [] }).state

private theorem World.after_eq_usual [FailureTexts] (hgiven : FailureTexts.AllGiven) (depth : Nat)
    (steps : List Step) (w : World) :
    World.after depth steps w = @World.after _ .usual depth steps w := by
  induction steps generalizing w with
  | nil => rfl
  | cons step steps ih =>
    obtain ⟨-, hstate⟩ := take_agrees hgiven depth step { w with happenings := [] }
    rw [World.after, hstate]
    exact ih _

theorem runScript_append (steps more : List Step) (w : World) :
    runScript (steps ++ more) w =
      runScript steps w ++ runScript more (World.after depthLimit steps w) := by
  induction steps generalizing w with
  | nil => rfl
  | cons step steps ih =>
    rw [List.cons_append, runScript, runScript, List.cons_append]
    exact congrArg _ (ih _)

theorem UpToDate.after {steps : List Step} (hsteps : ∀ step ∈ steps, InService step) (depth : Nat)
    (h : UpToDate [] w) : UpToDate [] (World.after depth steps w) := by
  induction steps generalizing w with
  | nil => exact h
  | cons step steps ih =>
    have hbegun : UpToDate [] { w with happenings := [] } := h.note _ _ _
    have htaken := take_keepsUpToDate depth (hsteps step List.mem_cons_self) [] _ hbegun
    exact ih (fun s hs => hsteps s (List.mem_cons_of_mem _ hs)) htaken

/-- Every renderer that follows the locale and has a request holds the text that the three stages make
of it under the manager as it is. -/
def World.IsCurrent (w : World) : Prop :=
  ∃ m, w.backing = .managed m ∧
    ∀ {id r request}, w.renderers.get? id = some r → r.follower.isSome = true →
      r.display.request = some request →
        r.display.text = some (m.manager.rendering w.policy r.rules request)

/-- Renderers that follow the locale are never stale, whatever steps a service has taken, as long as all
failures have texts. -/
theorem isCurrent_after [FailureTexts] (hgiven : FailureTexts.AllGiven) (m : Managed) (policy : Text)
    (depth : Nat) {steps : List Step} (hsteps : ∀ step ∈ steps, InService step) :
    (World.after depth steps { backing := .managed m, policy }).IsCurrent := by
  have hstart : UpToDate [] { backing := .managed m, policy } := by
    refine ⟨⟨m, rfl⟩, FollowersLinked.start m policy, ?_⟩
    intro m' id r follower request _ hr
    cases hr
  rw [World.after_eq_usual hgiven]
  have hafter := hstart.after hsteps depth
  obtain ⟨m', hm'⟩ := hafter.managed
  refine ⟨m', hm', ?_⟩
  intro id r request hr hfollows hrequest
  obtain ⟨follower, hfollower⟩ := Option.isSome_iff_exists.mp hfollows
  rcases hafter.text hm' hr hfollower hrequest with htext | ⟨handle, -, hmem⟩
  · exact htext
  · cases hmem

end

def greetingManager : Managed where
  manager :=
    { loader := .memory { catalogs := ∅ }
      active := .enUS
      fallback := .enUS
      catalogs := .ofList [
        (.enUS, { locale := .enUS, strings := .ofList [("greet".toList, "Hello".toList)] }),
        (.frFR, { locale := .frFR, strings := .ofList [("greet".toList, "Salut".toList)] }),
        (.deDE, { locale := .deDE, strings := .ofList [("greet".toList, "Hallo".toList)] })] }
  writable := false

/-- A callback that answers the first change of the locale with another one, and then fails. -/
def contrary : Callback Step where
  name := "contrary".toList
  actions
    | 1 => [.onManager [] (.setLocale (.text "de-DE".toList)), .onNotifier [] (.raise [])]
    | _ => []

/-- A renderer, whose sink fails on every text, is told of a change that another one has overtaken. -/
def overtakenSteps : List Step :=
  [.onManager [] (.listen "h".toList contrary),
    .onRenderer [] (.renderer "r".toList { refuses := fun _ _ => true }),
    .onRenderer [] (.setString "r".toList { key := "greet".toList }),
    .onManager [] (.setLocale (.text "fr-FR".toList))]

private theorem inService_overtakenSteps : ∀ step ∈ overtakenSteps, InService step := by
  have hcontrary : ∀ calls, ∀ step ∈ contrary.actions calls, InService step := by
    intro calls step hstep
    match calls with
    | 0 => cases hstep
    | 1 =>
      rcases List.mem_pair.mp hstep with rfl | rfl
      · exact .setLocale _ _
      · exact .raise _ _
    | _ + 2 => cases hstep
  simp only [overtakenSteps, List.forall_mem_cons]
  refine ⟨.listen _ _ _ hcontrary, .makeRenderer _ _ _ ?_, .setString _ _ _, .setLocale _ _, ?_⟩
  · intro samples hsamples
    cases hsamples
  · intro step hstep
    cases hstep

theorem isCurrent_after_overtakenSteps :
    let w := World.after 3 overtakenSteps { backing := .managed greetingManager, policy := [] }
    w.IsCurrent ∧ (w.renderers.get? 2).bind (·.display.text) = some "Hallo".toList :=
  ⟨isCurrent_after FailureTexts.usual_allGiven greetingManager [] 3 inService_overtakenSteps,
    by decide +kernel⟩

/-- A failure that raises itself ends the delivery: the locale is another one then, and the renderer,
whose turn was yet to come, shows the text of the earlier one. -/
example :
    let texts : FailureTexts := ⟨.error⟩
    let failing : Callback Step :=
      { name := [], actions := fun _ => [.onNotifier [] (.raise "boom".toList)] }
    let w := @World.after _ texts 3
      [.onManager [] (.listen [] failing),
        .onRenderer [] (.renderer [] {}),
        .onRenderer [] (.setString [] { key := "greet".toList }),
        .onManager [] (.setLocale (.text "fr-FR".toList))]
      { backing := .managed greetingManager, policy := [] }
    w.tag = .ok "fr-FR".toList ∧
      (w.renderers.get? 2).bind (·.display.text) = some "Hello".toList := by
  decide +kernel

end Phrasebook.Script
