import Phrasebook.Proofs.Script.Announcements
import Phrasebook.Proofs.Script.Service
import Phrasebook.Proofs.Script.Sinks

/-!
What a listener receives while callbacks change the locale in the middle of a delivery. Each change is
told to it once. Where nobody ahead of it changes the locale, a delivery reaches it before the next one
begins, and the events come in the order of the changes.
-/

set_option autoImplicit false
set_option relaxedAutoImplicit false

namespace Phrasebook.Script

open Act (registry Keeps announcement)

/-- As long as a listener is registered, it is told of all changes of the locale: in steps that are
over, in the one at hand, and by events that it is still owed. -/
structure Informed (l : Listener) (inOrder : Prop) (start : Locale) (past owed : List Event)
    (w : World) : Prop where
  managed : ∃ m, w.backing = .managed m
  linked : FollowersLinked w
  placed : Placed l inOrder (registry mainNotifier w)
  leads : ∀ {m}, w.backing = .managed m → (registry mainNotifier w).isRegistered l.handle = true →
    LeadsInSomeOrder inOrder start m.manager.active (past ++ w.receivedBy l.name ++ owed)

/-- Taking the steps of a service keeps a listener informed. Where order is asked for, a step that
changes the locale has to wait until nothing is owed. -/
def Runner.KeepsInformed (run : Runner) (l : Listener) (inOrder : Prop) (start : Locale) : Prop :=
  ∀ {steps past owed}, (∀ step ∈ steps, InService step ∧ Spares l.name step) →
    (inOrder → owed = [] ∨ ∀ told given, .onManager told (.setLocale given) ∉ steps) →
    Keeps (Informed l inOrder start past owed) (run steps)

variable {l : Listener} {inOrder : Prop} {start : Locale} {past owed : List Event} {w w' : World}
  {run : Runner}

namespace Informed

private theorem upToDate (h : Informed l inOrder start past owed w) :
    UpToDate ((registry mainNotifier w).of localeChanged) w :=
  (Delivering.start h.managed h.linked).upToDate

private theorem transfer (h : Informed l inOrder start past owed w) (hlinked : FollowersLinked w') {m m' : Managed}
    (hbacking : w.backing = .managed m) (hbacking' : w'.backing = .managed m')
    (hactive : m'.manager.active = m.manager.active)
    (hplaced : Placed l inOrder (registry mainNotifier w'))
    (hevolves : (registry mainNotifier w).Evolves (registry mainNotifier w'))
    (hreceived : w'.receivedBy l.name = w.receivedBy l.name) :
    Informed l inOrder start past owed w' := by
  refine ⟨⟨m', hbacking'⟩, hlinked, hplaced, ?_⟩
  intro other hother hnow
  obtain rfl : m' = other := Backing.managed.inj (hbacking'.symm.trans hother)
  rw [hactive, hreceived]
  exact h.leads hbacking (Registry.Evolves.isRegistered hevolves h.placed.old hnow)

private theorem of_same (h : Informed l inOrder start past owed w) (hlinked : FollowersLinked w') {m m' : Managed}
    (hbacking : w.backing = .managed m) (hbacking' : w'.backing = .managed m')
    (hactive : m'.manager.active = m.manager.active) (hregistries : w'.registries = w.registries)
    (hreceived : w'.receivedBy l.name = w.receivedBy l.name) :
    Informed l inOrder start past owed w' := by
  have hregistry : registry mainNotifier w' = registry mainNotifier w := by
    simp only [registry, hregistries]
  refine h.transfer hlinked hbacking hbacking' hactive ?_ ?_ hreceived
  · rw [hregistry]
    exact h.placed
  · rw [hregistry]

private theorem joined (h : Informed l inOrder start past owed w) (hlinked : FollowersLinked w')
    (hbacking : w'.backing = w.backing) {subscriber : Subscriber} (hspares : subscriber.Spares l.name)
    (hregistries : w'.registries =
      let new := ((registry mainNotifier w).subscribe localeChanged subscriber).2
      w.registries.insert new.id new)
    (hhappenings : w'.happenings = w.happenings) : Informed l inOrder start past owed w' := by
  obtain ⟨m, hm⟩ := h.managed
  have hregistry : registry mainNotifier w' =
      ((registry mainNotifier w).subscribe localeChanged subscriber).2 :=
    registry_of_insert hregistries h.linked.main
  refine h.transfer hlinked hm (hbacking.trans hm) rfl ?_ ?_ ?_
  · rw [hregistry]
    exact h.placed.subscribe hspares
  · rw [hregistry]
    exact .single (.subscribe _ _ _)
  · rw [World.receivedBy, hhappenings]
    rfl

private theorem left (h : Informed l inOrder start past owed w) (hlinked : FollowersLinked w')
    (hbacking : w'.backing = w.backing) {handle : Handle}
    (hregistries : w'.registries =
      let kept := (registry mainNotifier w).unsubscribe handle
      w.registries.insert kept.id kept)
    (hhappenings : w'.happenings = w.happenings) : Informed l inOrder start past owed w' := by
  obtain ⟨m, hm⟩ := h.managed
  have hmain : ((registry mainNotifier w).unsubscribe handle).id = mainNotifier :=
    (Registry.id_unsubscribe _ _).trans h.linked.main
  have hregistry : registry mainNotifier w' = (registry mainNotifier w).unsubscribe handle :=
    registry_of_insert hregistries hmain
  refine h.transfer hlinked hm (hbacking.trans hm) rfl ?_ ?_ ?_
  · rw [hregistry]
    exact h.placed.unsubscribe handle
  · rw [hregistry]
    exact .single (.unsubscribe _ _)
  · rw [World.receivedBy, hhappenings]
    rfl

private theorem note (h : Informed l inOrder start past owed w) {more : List Happening}
    (hmore : more.filterMap (Happening.received l.name) = []) (calls : Dict Nat Nat) :
    Informed l inOrder start past owed
      { w with happenings := w.happenings ++ more, calls } := by
  obtain ⟨m, hm⟩ := h.managed
  refine h.of_same (h.linked.congr rfl rfl rfl rfl (Nat.le_refl _)) hm hm rfl rfl ?_
  rw [World.receivedBy_append rfl, hmore, List.append_nil]

private theorem refresh (h : Informed l inOrder start past owed w) (id : Nat) :
    Informed l inOrder start past owed ((Act.refresh id).run w).state := by
  cases hr : w.renderers.get? id with
  | none =>
    rw [Act.refresh_state_of_none hr]
    exact h
  | some r =>
    obtain ⟨m, hm⟩ := h.managed
    obtain ⟨texts, hstate⟩ := Act.refresh_state hr hm (h.linked.stateless hr)
    have hlinked := (h.upToDate.refresh id fun _ hmem => Or.inr hmem).linked
    have hshown : (texts.map (Happening.shown r.name)).filterMap (Happening.received l.name) = [] := by
      simp [List.filterMap_map, Function.comp_def, Happening.received]
    rw [hstate] at hlinked ⊢
    refine h.of_same hlinked hm hm rfl rfl ?_
    rw [World.receivedBy_append rfl, hshown, List.append_nil]

private theorem setString (h : Informed l inOrder start past owed w) (id : Nat) (request : Request) :
    Informed l inOrder start past owed ((Act.setString id request).run w).state := by
  cases hr : w.renderers.get? id with
  | none =>
    rw [Act.setString_state_of_none hr]
    exact h
  | some r =>
    obtain ⟨m, hm⟩ := h.managed
    rw [Act.setString_state hr]
    let given : Renderer := { r with display := { r.display with request := some request } }
    have hlinked : FollowersLinked { w with renderers := w.renderers.insert id given } :=
      h.linked.replace hr rfl rfl
    exact (h.of_same hlinked hm hm rfl rfl rfl).refresh id

private theorem makeRenderer (h : Informed l inOrder start past owed w) (name : Text)
    {options : RendererOptions} {usual : List Rule.Sample}
    (hrules : ∀ sample ∈ options.rules.getD usual, sample.isStateless = true) :
    Informed l inOrder start past owed ((Act.makeRenderer name options usual).run w).state := by
  obtain ⟨m, hm⟩ := h.managed
  have hlinked := (h.upToDate.makeRenderer name hrules).linked
  cases hfollow : options.follow with
  | false =>
    rw [Act.makeRenderer_state_of_not_follow name usual hfollow] at hlinked ⊢
    exact h.of_same hlinked hm hm rfl rfl rfl
  | true =>
    rw [Act.makeRenderer_state_of_follow name usual hfollow hm] at hlinked ⊢
    have hspares : (Subscriber.follower (w.fresh + 1 + (options.rules.getD usual).length)).Spares
        l.name := trivial
    exact h.joined hlinked rfl hspares rfl rfl

private theorem closeRenderer (h : Informed l inOrder start past owed w) (id : Nat) :
    Informed l inOrder start past owed ((Act.closeRenderer id).run w).state := by
  by_cases hnone : ∀ r, w.renderers.get? id = some r → r.follower = none
  · rw [Act.closeRenderer_state_of_not_following hnone]
    exact h
  · have hlinked := (h.upToDate.closeRenderer id).linked
    push Not at hnone
    obtain ⟨r, hr, hsome⟩ := hnone
    obtain ⟨own, hown⟩ := Option.ne_none_iff_exists'.mp hsome
    obtain ⟨handle, hopen, hmem⟩ := h.linked.followed hr hown
    rw [Act.closeRenderer_state_of_following hr hown hopen
      (h.linked.sound.isRegistered_of_mem hmem)] at hlinked ⊢
    exact h.left hlinked rfl rfl rfl

private theorem listen (h : Informed l inOrder start past owed w) (run : Runner) (name : Text)
    {callback : Callback Step} (hserves : ∀ calls, ∀ step ∈ callback.actions calls, InService step)
    (hname : callback.name ≠ l.name)
    (hspares : ∀ calls, ∀ step ∈ callback.actions calls, Spares l.name step) :
    Informed l inOrder start past owed
      ((takeOnManager run (.listen name callback)).run w).state := by
  rw [Act.listen_state]
  have hother : (Subscriber.callback w.fresh callback).Spares l.name := ⟨hname, hspares⟩
  exact h.joined (h.linked.listen name hserves) rfl hother rfl rfl

private theorem unlisten (h : Informed l inOrder start past owed w) (run : Runner) (name : Text) :
    Informed l inOrder start past owed ((takeOnManager run (.unlisten name)).run w).state := by
  rcases Act.unlisten_cases run name w with hstate | ⟨handle, hname, hstate⟩
  · rw [hstate]
    exact h
  · rw [hstate]
    exact h.left (h.linked.unlisten hname) rfl rfl rfl

private theorem write (h : Informed l inOrder start past owed w) (run : Runner)
    (changes : List (Text × Option FileContent)) :
    Informed l inOrder start past owed ((takeOnManager run (.write changes)).run w).state := by
  obtain ⟨m, hm⟩ := h.managed
  rw [Act.write_state changes hm]
  by_cases hwritable : m.writable = true
  · rw [if_pos hwritable]
    exact h.of_same (h.linked.congr rfl rfl rfl rfl (Nat.le_refl _)) hm rfl rfl rfl rfl
  · rw [if_neg hwritable]
    exact h

private theorem call (hrun : run.KeepsInformed l inOrder start) (h : Informed l inOrder start past owed w)
    (id : Nat) {callback : Callback Step} (hserves : (Subscriber.callback id callback).Serves)
    (hspares : (Subscriber.callback id callback).Spares l.name)
    (hquiet : inOrder → owed = [] ∨ (Subscriber.callback id callback).Heeds) (event : Option Event) :
    Informed l inOrder start past owed ((Act.call run id callback event).run w).state := by
  obtain ⟨hname, hspared⟩ := hspares
  have hcalled : [Happening.called callback.name event].filterMap (Happening.received l.name) = [] := by
    simp [Happening.received, hname]
  rw [Act.call_state]
  refine hrun ?_ ?_ _ (h.note hcalled _)
  · intro step hstep
    exact ⟨hserves _ step hstep, hspared _ step hstep⟩
  · intro hin
    exact (hquiet hin).imp_right fun hheeds => hheeds _

private theorem callOwn (hrun : run.KeepsInformed l inOrder start) {event : Event}
    (h : Informed l inOrder start past (event :: owed) w) (hserves : l.subscription.subscriber.Serves)
    (hown : ∀ calls, ∀ step ∈ l.callback.actions calls, Spares l.name step)
    (howed : inOrder → owed = []) :
    Informed l inOrder start past owed
      ((Act.call run l.id l.callback (some event)).run w).state := by
  rw [Act.call_state]
  refine hrun ?_ (fun hin => Or.inl (howed hin)) _ ?_
  · intro step hstep
    exact ⟨hserves _ step hstep, hown _ step hstep⟩
  · refine ⟨h.managed, h.linked.congr rfl rfl rfl rfl (Nat.le_refl _), h.placed, ?_⟩
    intro m hm hnow
    have hcalled : [Happening.called l.callback.name (some event)].filterMap
        (Happening.received l.name) = [event] := by
      simp [Happening.received, Listener.name]
    have hleads := h.leads hm hnow
    rw [World.receivedBy_append rfl, hcalled]
    simpa using hleads

private theorem invoke (hrun : run.KeepsInformed l inOrder start) (h : Informed l inOrder start past owed w)
    {subscriber : Subscriber} (hserves : subscriber.Serves) (hspares : subscriber.Spares l.name)
    (hquiet : inOrder → owed = [] ∨ subscriber.Heeds) (event : Event) :
    Informed l inOrder start past owed ((Act.invoke run event subscriber).run w).state := by
  cases subscriber with
  | callback id callback => exact h.call hrun id hserves hspares hquiet (some event)
  | follower own =>
    cases hopen : w.followers.get? own with
    | none =>
      rw [Act.invoke_follower_state_of_none hopen]
      exact h
    | some f =>
      obtain ⟨id, htarget⟩ := h.linked.target hopen
      rw [Act.invoke_follower_state hopen htarget]
      exact h.refresh id

end Informed

/-- The middle of a delivery: the listener is owed the event until its turn. -/
structure Reaching (l : Listener) (inOrder : Prop) (start : Locale) (past owed : List Event)
    (event : Event) (pending : List (Subscription Subscriber)) (w : World) : Prop where
  serves : ∀ s ∈ pending, s.subscriber.Serves
  spares : ∀ s ∈ pending, s.handle ≠ l.handle → s.subscriber.Spares l.name
  distinct : (pending.map Subscription.handle).Nodup
  turn : (∃ ahead behind, pending = ahead ++ l.subscription :: behind ∧
      (inOrder → ∀ s ∈ ahead, s.subscriber.Heeds) ∧
      Informed l inOrder start past (event :: owed) w) ∨
    ((∀ s ∈ pending, s.handle ≠ l.handle) ∧ Informed l inOrder start past owed w)

namespace Reaching

variable {event : Event} {s : Subscription Subscriber} {pending : List (Subscription Subscriber)}

/-- The turn of a subscriber brings a delivery nearer to the listener, or is the turn of the listener,
or is of no matter to it. -/
private theorem advance (h : Reaching l inOrder start past owed event (s :: pending) w)
    (hahead : s.handle ≠ l.handle → (inOrder → s.subscriber.Heeds) →
      Informed l inOrder start past (event :: owed) w →
        Informed l inOrder start past (event :: owed) w')
    (hturn : s = l.subscription → Informed l inOrder start past (event :: owed) w →
      Informed l inOrder start past owed w')
    (hbehind : s.handle ≠ l.handle → Informed l inOrder start past owed w →
      Informed l inOrder start past owed w') :
    Reaching l inOrder start past owed event pending w' := by
  obtain ⟨hfirst, hdistinct⟩ := List.nodup_cons.mp h.distinct
  refine ⟨fun t ht => h.serves t (List.mem_cons_of_mem _ ht),
    fun t ht => h.spares t (List.mem_cons_of_mem _ ht), hdistinct, ?_⟩
  rcases h.turn with ⟨_ | ⟨first, ahead⟩, behind, hsplit, hheeds, hinformed⟩ | ⟨hnone, hinformed⟩
  · -- nobody is ahead of the listener any more
    obtain ⟨rfl, rfl⟩ := List.cons.inj hsplit
    refine Or.inr ⟨?_, hturn rfl hinformed⟩
    intro t ht heq
    have hmem := List.mem_map_of_mem (f := Subscription.handle) ht
    rw [heq] at hmem
    exact hfirst hmem
  · -- the turn is that of a subscriber ahead of it
    obtain ⟨rfl, rfl⟩ := List.cons.inj hsplit
    have hother : s.handle ≠ l.handle := by
      intro heq
      rw [heq] at hfirst
      exact hfirst (List.mem_map.mpr ⟨l.subscription, by simp, rfl⟩)
    refine Or.inl ⟨ahead, behind, rfl, fun hin t ht => hheeds hin t (List.mem_cons_of_mem _ ht), ?_⟩
    exact hahead hother (fun hin => hheeds hin s List.mem_cons_self) hinformed
  · exact Or.inr ⟨fun t ht => hnone t (List.mem_cons_of_mem _ ht),
      hbehind (hnone s List.mem_cons_self) hinformed⟩

private theorem served (hrun : run.KeepsInformed l inOrder start)
    (hown : ∀ calls, ∀ step ∈ l.callback.actions calls, Spares l.name step)
    (howed : inOrder → owed = []) (h : Reaching l inOrder start past owed event (s :: pending) w) :
    Reaching l inOrder start past owed event pending
      ((Act.channel run mainNotifier).call s.subscriber event w).state := by
  have hserves := h.serves s List.mem_cons_self
  have hspares := h.spares s List.mem_cons_self
  rw [Act.channel_call_state]
  refine h.advance ?_ ?_ ?_
  · intro hother hheeds hinformed
    exact hinformed.invoke hrun hserves (hspares hother) (fun hin => Or.inr (hheeds hin)) event
  · rintro rfl hinformed
    exact hinformed.callOwn hrun hserves hown howed
  · intro hother hinformed
    exact hinformed.invoke hrun hserves (hspares hother) (fun hin => Or.inl (howed hin)) event

private theorem passed (hgone : ¬ (registry mainNotifier w).isRegistered s.handle = true)
    (h : Reaching l inOrder start past owed event (s :: pending) w) :
    Reaching l inOrder start past owed event pending w := by
  refine h.advance (fun _ _ hinformed => hinformed) ?_ fun _ hinformed => hinformed
  -- a listener that has gone is owed nothing
  rintro rfl hinformed
  exact ⟨hinformed.managed, hinformed.linked, hinformed.placed, fun _ hnow => absurd hnow hgone⟩

end Reaching

namespace Informed

private theorem switch (h : Informed l inOrder start past owed w) (howed : inOrder → owed = []) {m : Managed}
    (hbacking : w.backing = .managed m) (manager : Manager) :
    let event := announcement m.manager.active manager.active
    let w' : World := { w with backing := .managed { m with manager } }
    Reaching l inOrder start past owed event ((registry mainNotifier w').of localeChanged) w' := by
  intro event w'
  have hlinked : FollowersLinked w' := h.linked.congr rfl rfl rfl rfl (Nat.le_refl _)
  refine ⟨fun s hs => hlinked.serves hs, h.placed.others, hlinked.sound.distinct _, ?_⟩
  by_cases hregistered : (registry mainNotifier w).isRegistered l.handle = true
  · obtain ⟨ahead, behind, hsplit, hheeds⟩ := h.placed.place hregistered
    refine Or.inl ⟨ahead, behind, hsplit, hheeds, ⟨_, rfl⟩, hlinked, h.placed, ?_⟩
    intro m' hm' _
    obtain rfl := Backing.managed.inj hm'
    exact (h.leads hbacking hregistered).announce howed manager.active
  · refine Or.inr ⟨?_, ⟨_, rfl⟩, hlinked, h.placed, fun _ hnow => absurd hnow hregistered⟩
    intro s hs heq
    exact hregistered (heq ▸ h.linked.sound.isRegistered_of_mem hs)

private theorem setLocale (hrun : run.KeepsInformed l inOrder start)
    (hown : ∀ calls, ∀ step ∈ l.callback.actions calls, Spares l.name step)
    (howed : inOrder → owed = []) (given : Value) :
    Keeps (Informed l inOrder start past owed) (Act.setLocale run given) := by
  intro w h
  obtain ⟨m, hm⟩ := h.managed
  rcases Act.setLocale_cases run hm given with
    hstate | ⟨locale, e, hfailed, hstate⟩ | ⟨manager, hstate⟩
  · rw [hstate]
    exact h
  · rw [hstate]
    exact h.of_same (h.linked.congr rfl rfl rfl rfl (Nat.le_refl _)) hm rfl
      (Manager.answersLike_of_activate_error hfailed).active rfl rfl
  · let event := announcement m.manager.active manager.active
    rw [hstate, Channel.publish_state, Act.announcement_eventType]
    have hdelivered : Reaching l inOrder start past owed event [] _ :=
      Channel.deliver_keeps (fun s more w _ h => h.served hrun hown howed)
        (fun s more w hgone h => h.passed hgone) (h.switch howed hm manager)
    rcases hdelivered.turn with ⟨ahead, behind, hsplit, -⟩ | ⟨-, hinformed⟩
    · simp at hsplit
    · exact hinformed

end Informed

private theorem takeAll_keepsInformed {take : Taking}
    (htake : ∀ {step past owed}, InService step → Spares l.name step →
      (inOrder → owed = [] ∨ ∀ told given, step ≠ .onManager told (.setLocale given)) →
      Keeps (Informed l inOrder start past owed) (take step)) :
    Runner.KeepsInformed (takeAll take) l inOrder start := by
  intro steps past owed hsteps hquiet
  induction steps with
  | nil => exact .pure ()
  | cons step steps ih =>
    obtain ⟨⟨hstep, hspares⟩, hmore⟩ := List.forall_mem_cons.mp hsteps
    refine .bind (htake hstep hspares ?_) fun answer => ?_
    · intro hin
      refine (hquiet hin).imp_right fun hnone told given heq => ?_
      exact hnone told given (heq ▸ List.mem_cons_self)
    · refine .bind (.change fun w h => h.note rfl w.calls) fun _ => ?_
      refine ih hmore fun hin => ?_
      exact (hquiet hin).imp_right fun hnone told given hmem =>
        hnone told given (List.mem_cons_of_mem _ hmem)

private theorem Informed.lasting : Lasting (Informed l inOrder start past owed) where
  managed h := h.managed
  named _ h := by
    obtain ⟨m, hm⟩ := h.managed
    exact h.of_same (h.linked.congr rfl rfl rfl rfl (Nat.le_refl _)) hm hm rfl rfl rfl
  makeRenderer name _ _ hrules _ h := h.makeRenderer name hrules
  setString id request _ h := h.setString id request
  refresh id _ h := h.refresh id
  closeRenderer id _ h := h.closeRenderer id
  unlisten run name _ h := h.unlisten run name
  write run changes _ h := h.write run changes

private theorem take_keepsInformed (hown : ∀ calls, ∀ step ∈ l.callback.actions calls, Spares l.name step)
    (depth : Nat) {step : Step} (hstep : InService step) (hspares : Spares l.name step)
    (hquiet : inOrder → owed = [] ∨ ∀ told given, step ≠ .onManager told (.setLocale given)) :
    Keeps (Informed l inOrder start past owed) (take depth step) := by
  induction depth generalizing step past owed with
  | zero => exact .throw _
  | succ depth ih =>
    have hrun : Runner.KeepsInformed (takeAll (take depth)) l inOrder start :=
      takeAll_keepsInformed ih
    refine Informed.lasting.take depth hstep ?_ ?_
    · intro told given hstep
      have howed : inOrder → owed = [] := fun hin =>
        (hquiet hin).resolve_right fun hnone => hnone told given hstep
      exact Informed.setLocale hrun hown howed given
    · rintro told name callback rfl hserves w h
      cases hspares with
      | listen _ _ _ hname hspared =>
        exact h.listen (takeAll (take depth)) name hserves hname hspared
      | other hnone => exact absurd rfl (hnone told name callback)

namespace Informed

private theorem settle (h : Informed l inOrder start past [] w) :
    Informed l inOrder start (past ++ w.receivedBy l.name) [] { w with happenings := [] } := by
  refine ⟨h.managed, h.linked.congr rfl rfl rfl rfl (Nat.le_refl _), h.placed, ?_⟩
  intro m hm hnow
  have hleads := h.leads hm hnow
  simpa [World.receivedBy] using hleads

private theorem after (hown : ∀ calls, ∀ step ∈ l.callback.actions calls, Spares l.name step) (depth : Nat)
    {steps : List Step} (hsteps : ∀ step ∈ steps, InService step ∧ Spares l.name step)
    (h : Informed l inOrder start past [] { w with happenings := [] }) :
    Informed l inOrder start (past ++ World.received depth l.name steps w) []
      { World.after depth steps w with happenings := [] } := by
  induction steps generalizing past w with
  | nil =>
    rw [World.received, List.append_nil]
    exact h
  | cons step steps ih =>
    obtain ⟨⟨hstep, hspares⟩, hmore⟩ := List.forall_mem_cons.mp hsteps
    have htaken := take_keepsInformed hown depth hstep hspares (fun _ => Or.inl rfl) _ h
    rw [World.received, ← List.append_assoc]
    exact ih hmore htaken.settle

end Informed

/-- However deep callbacks change the locale within each other, the events of a callback that stays
subscribed lead, in some order, from the locale that was active to the one that is. Where no subscriber
ahead of it changes the locale, whatever it does itself and those behind it do, they do so in the order
in which they come: each one goes on from the one before, and the last one names the active locale. -/
theorem leads_received (m : Managed) (policy : Text) (depth : Nat) {earlier steps : List Step}
    (hearlier : ∀ step ∈ earlier, InService step) {l : Listener}
    (hsteps : ∀ step ∈ steps, InService step ∧ Spares l.name step)
    {ahead behind : List (Subscription Subscriber)} :
    let w := World.after depth earlier { backing := .managed m, policy }
    let w' := World.after depth steps w
    let events := World.received depth l.name steps w
    (registry mainNotifier w).of localeChanged = ahead ++ l.subscription :: behind →
      (∀ s ∈ ahead ++ behind, s.subscriber.Spares l.name) →
      (∀ calls, ∀ step ∈ l.callback.actions calls, Spares l.name step) →
      (registry mainNotifier w').isRegistered l.handle = true →
      ∃ before after, w.backing = .managed before ∧ w'.backing = .managed after ∧
        (∃ changes, events.Perm changes ∧
          Leads before.manager.active changes after.manager.active) ∧
        ((∀ s ∈ ahead, s.subscriber.Heeds) →
          Leads before.manager.active events after.manager.active) := by
  intro w w' events hsubscribed hspares hown hstays
  have hstart : UpToDate [] { backing := .managed m, policy } :=
    (Delivering.start ⟨m, rfl⟩ (FollowersLinked.start m policy)).upToDate
  have hbegun : UpToDate [] w := hstart.after hearlier depth
  obtain ⟨before, hbefore⟩ := hbegun.managed
  have hsound := hbegun.linked.sound
  have hmem : l.subscription ∈ (registry mainNotifier w).of localeChanged := by
    simp [hsubscribed]
  let inOrder := ∀ s ∈ ahead, s.subscriber.Heeds
  have hplaced : Placed l inOrder (registry mainNotifier w) := by
    refine ⟨(hsound.given _ _ hmem).2.2, ?_, fun _ => ⟨ahead, behind, hsubscribed, id⟩⟩
    intro s hs hother
    refine hspares s ?_
    rw [hsubscribed] at hs
    rcases List.mem_append.mp hs with hs | hs
    · exact List.mem_append_left _ hs
    · rcases List.mem_cons.mp hs with rfl | hs
      · exact absurd rfl hother
      · exact List.mem_append_right _ hs
  -- before the first step nothing has been received, and no change has been made
  have hinformed : Informed l inOrder before.manager.active [] [] { w with happenings := [] } := by
    refine ⟨⟨before, hbefore⟩, hbegun.linked.congr rfl rfl rfl rfl (Nat.le_refl _), hplaced, ?_⟩
    intro other hother _
    obtain rfl := Backing.managed.inj (hbefore.symm.trans hother)
    exact ⟨[], .nil _, .refl _, fun _ => rfl⟩
  have hafter := hinformed.after hown depth hsteps
  obtain ⟨after, hm⟩ := hafter.managed
  obtain ⟨changes, hleads, hperm, hsame⟩ := hafter.leads hm hstays
  simp only [World.receivedBy, List.filterMap_nil, List.nil_append, List.append_nil] at hperm hsame
  refine ⟨before, after, hbefore, hm, ⟨changes, hperm, hleads⟩, ?_⟩
  intro hin
  rw [show events = changes from hsame hin]
  exact hleads

/-- A callback that answers its first call with another change of the locale. -/
def restless (name tag : String) : Callback Step where
  name := name.toList
  actions
    | 1 => [.onManager [] (.setLocale (.text tag.toList))]
    | _ => []

def silent (name : String) : Callback Step where
  name := name.toList
  actions _ := []

def listening (callbacks : List (Callback Step)) : List Step :=
  callbacks.map fun callback => .onManager [] (.listen callback.name callback)

/-- A service with some callbacks that listen to the changes of the locale. -/
def listened (callbacks : List (Callback Step)) : World :=
  World.after 4 (listening callbacks) { backing := .managed greetingManager, policy := [] }

def toFrench : List Step := [.onManager [] (.setLocale (.text "fr-FR".toList))]

private theorem eq_setLocale_of_mem_restless {name tag : String} {calls : Nat} {step : Step}
    (h : step ∈ (restless name tag).actions calls) :
    step = .onManager [] (.setLocale (.text tag.toList)) := by
  match calls with
  | 0 => cases h
  | 1 => exact List.mem_singleton.mp h
  | _ + 2 => cases h

private theorem spares_setLocale (name told : Text) (given : Value) :
    Spares name (.onManager told (.setLocale given)) := .other nofun

theorem leads_received_restless :
    let events := World.received 4 "first".toList toFrench
      (listened [restless "first" "de-DE", restless "second" "en-US"])
    events = [announcement .enUS .frFR, announcement .frFR .deDE, announcement .deDE .enUS] ∧
      Leads .enUS events .enUS := by
  have hevents : World.received 4 "first".toList toFrench
      (listened [restless "first" "de-DE", restless "second" "en-US"]) =
        [announcement .enUS .frFR, announcement .frFR .deDE, announcement .deDE .enUS] := rfl
  refine ⟨hevents, ?_⟩
  have hserves : ∀ {name tag} calls, ∀ step ∈ (restless name tag).actions calls, InService step := by
    intro name tag calls step hstep
    rw [eq_setLocale_of_mem_restless hstep]
    exact .setLocale _ _
  have hspared : ∀ {name tag} calls, ∀ step ∈ (restless name tag).actions calls,
      Spares "first".toList step := by
    intro name tag calls step hstep
    rw [eq_setLocale_of_mem_restless hstep]
    exact spares_setLocale _ _ _
  have hearlier : ∀ step ∈ listening [restless "first" "de-DE", restless "second" "en-US"],
      InService step := by
    simp only [listening, List.map_cons, List.map_nil, List.forall_mem_cons]
    exact ⟨.listen _ _ _ hserves, .listen _ _ _ hserves, List.forall_mem_nil _⟩
  have hsteps : ∀ step ∈ toFrench, InService step ∧ Spares "first".toList step := by
    intro step hstep
    rw [List.mem_singleton.mp hstep]
    exact ⟨.setLocale _ _, spares_setLocale _ _ _⟩
  have hother : ∀ s ∈ [(⟨⟨mainNotifier, 1, localeChanged⟩,
      .callback 2 (restless "second" "en-US")⟩ : Subscription Subscriber)],
      s.subscriber.Spares "first".toList := by
    intro s hs
    rw [List.mem_singleton.mp hs]
    exact ⟨by decide, hspared⟩
  obtain ⟨before, after, hbefore, hafter, -, hleads⟩ :=
    leads_received greetingManager [] 4 hearlier
      (l := ⟨⟨mainNotifier, 0, localeChanged⟩, 1, restless "first" "de-DE"⟩) hsteps rfl
      (List.forall_mem_append.mpr ⟨List.forall_mem_nil _, hother⟩) hspared rfl
  obtain rfl : greetingManager = before := Backing.managed.inj hbefore
  obtain rfl : greetingManager = after := Backing.managed.inj hafter
  exact hleads (List.forall_mem_nil _)

/-- A subscriber behind one that answers a change of the locale with another is told of the other one
first. -/
theorem not_leads_received_behind :
    let w := listened [restless "first" "de-DE", silent "second"]
    let w' := World.after 4 toFrench w
    let events := World.received 4 "second".toList toFrench w
    let handle : Handle := ⟨mainNotifier, 1, localeChanged⟩
    ((registry mainNotifier w).isRegistered handle = true ∧
      (registry mainNotifier w').isRegistered handle = true) ∧
      w'.tag = .ok "de-DE".toList ∧
      (¬ ∀ e ∈ events.getLast?, e.locale = some (.text "de-DE".toList)) ∧
      ¬ events.IsChain fun e next => next.previousLocale = e.locale := by
  have hevents : World.received 4 "second".toList toFrench
      (listened [restless "first" "de-DE", silent "second"]) =
        [announcement .frFR .deDE, announcement .enUS .frFR] := rfl
  have hlast : (announcement .enUS .frFR).locale ≠ some (.text "de-DE".toList) := by
    rw [announcement_locale]
    exact fun h => absurd (Value.text.inj (Option.some.inj h)) (by decide)
  have hbroken : (announcement .enUS .frFR).previousLocale ≠ (announcement .frFR .deDE).locale := by
    rw [announcement_locale, announcement_previousLocale]
    exact fun h => absurd (Value.text.inj (Option.some.inj h)) (by decide)
  refine ⟨⟨by decide +kernel, by decide +kernel⟩, by decide +kernel, ?_, ?_⟩
  · rw [hevents]
    exact fun h => hlast (h _ rfl)
  · rw [hevents, List.isChain_pair]
    exact hbroken

end Phrasebook.Script
