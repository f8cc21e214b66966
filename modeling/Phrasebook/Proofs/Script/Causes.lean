import Phrasebook.Proofs.Script.Broadcast
import Phrasebook.Proofs.Script.Service

/-!
What makes a renderer show a text: a text that it is given, a refresh, and a change of the locale that
it follows. Each of them makes it show exactly one text, and nothing else does.
-/

set_option autoImplicit false
set_option relaxedAutoImplicit false

namespace Phrasebook.Script

/-- The steps of a service whose callbacks do not use it themselves and whose sinks take every text. -/
inductive Plain : Step → Prop
  | makeRenderer (told name : Text) (options : RendererOptions)
    (hrules : ∀ samples ∈ options.rules, ∀ sample ∈ samples, sample.isStateless = true)
    (hwilling : ∀ given text, options.refuses given text = false) :
    Plain (.onRenderer told (.renderer name options))
  | setString (told name : Text) (request : Request) :
    Plain (.onRenderer told (.setString name request))
  | refresh (told name : Text) : Plain (.onRenderer told (.refresh name))
  | text (told name : Text) : Plain (.onRenderer told (.text name))
  | close (told name : Text) : Plain (.onRenderer told (.close name))
  | render (told : Text) (request : Request) : Plain (.onManager told (.render request))
  | setLocale (told : Text) (given : Value) : Plain (.onManager told (.setLocale given))
  | loadLocale (told : Text) (given : Value) : Plain (.onManager told (.loadLocale given))
  | loadAll (told : Text) : Plain (.onManager told .loadAll)
  | reload (told : Text) : Plain (.onManager told .reload)
  | listen (told handle : Text) (callback : Callback Step) (h : callback.IsIdle) :
    Plain (.onManager told (.listen handle callback))
  | unlisten (told handle : Text) : Plain (.onManager told (.unlisten handle))
  | write (told : Text) (changes : List (Text × Option FileContent)) :
    Plain (.onManager told (.write changes))

/-- The texts that the sink of a renderer has taken so far. -/
def World.history (w : World) (id : Nat) : List Text :=
  ((w.renderers.get? id).map (·.sink.history)).getD []

/-- What the three stages make of a request for a renderer in a world. -/
def World.rendering (w : World) (id : Nat) (request : Request) : Option Text :=
  match w.backing, w.renderers.get? id with
  | .managed m, some r => some (m.manager.rendering w.policy r.rules request)
  | _, _ => none

/-- The request that a renderer is to show because of a step with an answer: one that it is given, the
one it has when it is refreshed, and the one it has when the locale changes while it follows. -/
def World.cause (w : World) (answer : Except Fault Answer) (id : Nat) : Step → Option Request
  | .onRenderer _ (.setString name request) =>
    if w.rendererNames.get? name = some id then some request else none
  | .onRenderer _ (.refresh name) =>
    if w.rendererNames.get? name = some id then (w.renderers.get? id).bind (·.display.request)
    else none
  | .onManager _ (.setLocale _) =>
    match answer with
    | .ok (.flag true) =>
      (w.renderers.get? id).bind fun r => if r.follower.isSome then r.display.request else none
    | _ => none
  | _ => none

/-- The text that a renderer shows because of a step, as it is rendered in the world after it. -/
def World.shownBy (before : World) (answer : Except Fault Answer) (after : World) (id : Nat)
    (step : Step) : List Text :=
  ((before.cause answer id step).bind (after.rendering id)).toList

/-- The texts that a renderer shows because of the steps of a script, one after the other. -/
def World.renderings (depth id : Nat) : List Step → World → List Text
  | [], _ => []
  | step :: steps, w =>
    let outcome := (take depth step).run { w with happenings := [] }
    w.shownBy outcome.value outcome.state id step ++ renderings depth id steps outcome.state

section

variable {w w' : World} {texts : Nat → List Text}

private theorem World.history_of_same (h : w'.renderers = w.renderers) (id : Nat) :
    w'.history id = w.history id := by
  simp only [World.history, h]

private theorem World.history_insert {id : Nat} {r : Renderer} (h : w'.renderers = w.renderers.insert id r)
    (other : Nat) :
    w'.history other = if other = id then r.sink.history else w.history other := by
  simp only [World.history, h, Dict.get?_insert]
  split <;> rfl

/-- What renderers show matches their sinks, and the sinks have taken these texts. -/
structure SinksHold (texts : Nat → List Text) (w : World) : Prop where
  matching : SinksMatch w
  history : ∀ id, w.history id = texts id

namespace SinksHold

private theorem of_same (h : SinksHold texts w) (hmatching : SinksMatch w') (hrenderers : w'.renderers = w.renderers) :
    SinksHold texts w' :=
  ⟨hmatching, fun id => (World.history_of_same hrenderers id).trans (h.history id)⟩

private theorem insert (h : SinksHold texts w) (hmatching : SinksMatch w') {id : Nat} {r : Renderer}
    (hrenderers : w'.renderers = w.renderers.insert id r) (hr : r.sink.history = w.history id) :
    SinksHold texts w' := by
  refine ⟨hmatching, fun other => ?_⟩
  rw [World.history_insert hrenderers, ← h.history other]
  by_cases hother : other = id
  · rw [if_pos hother, hother, hr]
  · rw [if_neg hother]

private theorem makeRenderer (h : SinksHold texts w) (name : Text) {options : RendererOptions}
    {usual : List Rule.Sample}
    (hrules : ∀ sample ∈ options.rules.getD usual, sample.isStateless = true)
    (hwilling : ∀ given text, options.refuses given text = false) :
    SinksHold texts ((Act.makeRenderer name options usual).run w).state := by
  obtain ⟨m, hm⟩ := h.matching.managed
  let r := Act.newRenderer w name options usual
  let next := w.fresh + 1 + (options.rules.getD usual).length
  have hstateless : ∀ rule ∈ r.rules, rule.2.isStateless = true :=
    Act.newRenderer_isStateless w name hrules
  have hadded : SinksMatch { w with fresh := next, renderers := w.renderers.insert w.fresh r } :=
    h.matching.addRenderer rfl hstateless ⟨hwilling, rfl, rfl⟩ (by omega)
  have hnew : w.history w.fresh = [] := by
    rw [World.history, h.matching.linked.freshRenderer (Nat.le_refl _)]
    rfl
  cases hfollow : options.follow with
  | false =>
    rw [Act.makeRenderer_state_of_not_follow name usual hfollow]
    exact h.insert hadded rfl hnew.symm
  | true =>
    have hfollowing := hadded.follow (Dict.get?_insert_self ..) rfl
    rw [Act.makeRenderer_state_of_follow name usual hfollow hm]
    exact h.insert hfollowing (Dict.insert_insert_self ..) hnew.symm

private theorem closeRenderer (h : SinksHold texts w) (id : Nat) :
    SinksHold texts ((Act.closeRenderer id).run w).state := by
  by_cases hnone : ∀ r, w.renderers.get? id = some r → r.follower = none
  · rw [Act.closeRenderer_state_of_not_following hnone]
    exact h
  · push Not at hnone
    obtain ⟨r, hr, hsome⟩ := hnone
    obtain ⟨own, hown⟩ := Option.ne_none_iff_exists'.mp hsome
    obtain ⟨handle, hopen, hmem⟩ := h.matching.linked.followed hr hown
    rw [Act.closeRenderer_state_of_following hr hown hopen
      (h.matching.linked.sound.isRegistered_of_mem hmem)]
    refine h.insert (h.matching.close hr hown hopen hmem) rfl ?_
    simp [World.history, hr]

private theorem managing {α : Type} (h : SinksHold texts w) (x : Directory → Manager.Managing α) :
    SinksHold texts ((Act.managing x).run w).state := by
  obtain ⟨m, hm⟩ := h.matching.managed
  rw [Act.managing_run hm]
  exact h.of_same (h.matching.congr ⟨_, rfl⟩ rfl rfl rfl rfl (Nat.le_refl _)) rfl

private theorem keeps_managing {α : Type} (x : Directory → Manager.Managing α) (answer : Answer) :
    Act.Keeps (SinksHold texts) (do let _ ← Act.managing x; return answer) :=
  .bind (fun _ h => h.managing x) fun _ => .pure _

private theorem listen (h : SinksHold texts w) (run : Runner) (name : Text) {callback : Callback Step}
    (hidle : callback.IsIdle) :
    SinksHold texts ((takeOnManager run (.listen name callback)).run w).state := by
  rw [Act.listen_state]
  exact h.of_same (h.matching.listen name hidle) rfl

private theorem unlisten (h : SinksHold texts w) (run : Runner) (name : Text) :
    SinksHold texts ((takeOnManager run (.unlisten name)).run w).state := by
  rcases Act.unlisten_cases run name w with hstate | ⟨handle, hname, hstate⟩
  · rw [hstate]
    exact h
  · rw [hstate]
    exact h.of_same (h.matching.unlisten hname) rfl

private theorem write (h : SinksHold texts w) (run : Runner) (changes : List (Text × Option FileContent)) :
    SinksHold texts ((takeOnManager run (.write changes)).run w).state := by
  obtain ⟨m, hm⟩ := h.matching.managed
  rw [Act.write_state changes hm]
  by_cases hwritable : m.writable = true
  · rw [if_pos hwritable]
    exact h.of_same (h.matching.congr ⟨_, rfl⟩ rfl rfl rfl rfl (Nat.le_refl _)) rfl
  · rw [if_neg hwritable]
    exact h

private theorem note (h : SinksHold texts w) (happenings : List Happening) (rendererNames : Dict Text Nat) :
    SinksHold texts { w with happenings, rendererNames } :=
  h.of_same (h.matching.congr h.matching.managed rfl rfl rfl rfl (Nat.le_refl _)) rfl

end SinksHold

/-- A step has made every renderer show what it was to show because of the step, and nothing else. -/
structure ShowsJustCauses (w : World) (step : Step) (outcome : Outcome World (Except Fault Answer)) : Prop where
  matching : SinksMatch outcome.state
  history : ∀ id, outcome.state.history id =
    w.history id ++ w.shownBy outcome.value outcome.state id step

private theorem ShowsJustCauses.of_sinksHold {step : Step} {outcome : Outcome World (Except Fault Answer)}
    (h : SinksHold w.history outcome.state) (hcause : ∀ id, w.cause outcome.value id step = none) :
    ShowsJustCauses w step outcome := by
  refine ⟨h.matching, fun id => ?_⟩
  rw [h.history, World.shownBy, hcause]
  exact (List.append_nil _).symm

private theorem ShowsJustCauses.of_keeps {step : Step} {x : Act Answer} (h : SinksMatch w)
    (hkeeps : Act.Keeps (SinksHold w.history) x) (hcause : ∀ id, w.cause (x.run w).value id step = none) :
    ShowsJustCauses w step (x.run w) :=
  .of_sinksHold (hkeeps w ⟨h, fun _ => rfl⟩) hcause

namespace SinksMatch

private theorem sinksHold (h : SinksMatch w) : SinksHold w.history w := ⟨h, fun _ => rfl⟩

private theorem refresh_history (h : SinksMatch w) (id other : Nat) :
    let w' := ((Act.refresh id).run w).state
    w'.history other = w.history other ++
      ((if other = id then (w.renderers.get? other).bind (·.display.request) else none).bind
        (w'.rendering other)).toList := by
  intro w'
  cases hr : w.renderers.get? id with
  | none =>
    have hsame : w' = w := Act.refresh_state_of_none hr
    by_cases hother : other = id
    · rw [hsame, if_pos hother, hother, hr]
      exact (List.append_nil _).symm
    · rw [hsame, if_neg hother]
      exact (List.append_nil _).symm
  | some r =>
    obtain ⟨m, hm⟩ := h.managed
    obtain ⟨texts, hstate⟩ := Act.refresh_state hr hm (h.linked.stateless hr)
    have hrenderers : w'.renderers = w.renderers.insert id (r.refreshed m.manager w.policy) := by
      simp only [w', hstate]
    rw [World.history_insert hrenderers]
    by_cases hother : other = id
    · subst hother
      have hrendering : w'.rendering other = fun request =>
          some (m.manager.rendering w.policy r.rules request) := by
        funext request
        have hbacking : w'.backing = .managed m := by
          simp only [w', hstate, hm]
        have hpolicy : w'.policy = w.policy := by
          simp only [w', hstate]
        simp [World.rendering, hbacking, hrenderers, hpolicy]
      rw [if_pos rfl, if_pos rfl, hr, hrendering, (h.shows hr).refreshed_history, World.history, hr]
      cases hrequest : r.display.request <;> simp [hrequest]
    · rw [if_neg hother, if_neg hother]
      exact (List.append_nil _).symm

private theorem setString_history (h : SinksMatch w) (id : Nat) (request : Request) :
    let w' := ((Act.setString id request).run w).state
    SinksMatch w' ∧ ∀ other, w'.history other = w.history other ++
      ((if other = id then some request else none).bind (w'.rendering other)).toList := by
  intro w'
  cases hr : w.renderers.get? id with
  | none =>
    have hsame : w' = w := Act.setString_state_of_none hr request
    rw [hsame]
    refine ⟨h, fun other => ?_⟩
    by_cases hother : other = id
    · have hrendering : w.rendering id request = none := by
        simp only [World.rendering, hr]
        split <;> simp_all
      rw [if_pos hother, Option.bind_some, hother, hrendering]
      exact (List.append_nil _).symm
    · rw [if_neg hother]
      exact (List.append_nil _).symm
  | some r =>
    let r₁ := { r with display := { r.display with request := some request } }
    let w₁ : World := { w with renderers := w.renderers.insert id r₁ }
    have hstate : w' = ((Act.refresh id).run w₁).state := Act.setString_state hr request
    obtain ⟨hwilling, hdisplay, hsink⟩ := h.shows hr
    have hmatching : SinksMatch w₁ := h.replace hr rfl rfl ⟨hwilling, hdisplay, hsink⟩
    rw [hstate]
    refine ⟨hmatching.refresh id, fun other => ?_⟩
    have hhistory : w₁.history other = w.history other := by
      have hheld := h.sinksHold.insert hmatching rfl (show r₁.sink.history = w.history id by
        simp [World.history, hr, r₁])
      exact hheld.history other
    refine (hmatching.refresh_history id other).trans ?_
    rw [hhistory]
    by_cases hother : other = id
    · rw [if_pos hother, if_pos hother, hother, Dict.get?_insert_self]
      rfl
    · rw [if_neg hother, if_neg hother]

private theorem takeRefresh (h : SinksMatch w) (run : Runner) (told name : Text) :
    ShowsJustCauses w (.onRenderer told (.refresh name)) ((takeOnRenderer run (.refresh name)).run w) := by
  unfold takeOnRenderer
  cases hname : w.rendererNames.get? name with
  | none =>
    rw [Attempt.run_bind_of_error (by rw [Act.renderer_run_of_none hname]),
      Act.renderer_run_of_none hname]
    exact .of_sinksHold h.sinksHold fun id => by simp [World.cause, hname]
  | some id =>
    rw [Attempt.run_bind_of_run_eq (Act.renderer_run_of_some hname)]
    have hstate := Act.run_bind_state (fun _ => Act.rendererOf_bind_pure_state id
      fun r => Answer.optionalText r.display.text) w (x := Act.refresh id)
    have hhistory := h.refresh_history id
    simp only [← hstate] at hhistory
    refine ⟨?_, fun other => ?_⟩
    · exact (congrArg SinksMatch hstate).mpr (h.refresh id)
    · refine (hhistory other).trans ?_
      simp only [World.shownBy, World.cause, hname, Option.some.injEq, eq_comm (a := id)]

private theorem takeSetString (h : SinksMatch w) (run : Runner) (told name : Text) (request : Request) :
    ShowsJustCauses w (.onRenderer told (.setString name request))
      ((takeOnRenderer run (.setString name request)).run w) := by
  unfold takeOnRenderer
  cases hname : w.rendererNames.get? name with
  | none =>
    rw [Attempt.run_bind_of_error (by rw [Act.renderer_run_of_none hname]),
      Act.renderer_run_of_none hname]
    exact .of_sinksHold h.sinksHold fun id => by simp [World.cause, hname]
  | some id =>
    rw [Attempt.run_bind_of_run_eq (Act.renderer_run_of_some hname)]
    have hstate := Act.run_bind_state (fun _ => Act.rendererOf_bind_pure_state id
      fun r => Answer.optionalText r.display.text) w (x := Act.setString id request)
    have hset := h.setString_history id request
    simp only [← hstate] at hset
    refine ⟨hset.1, fun other => (hset.2 other).trans ?_⟩
    simp only [World.shownBy, World.cause, hname, Option.some.injEq, eq_comm (a := id)]

private theorem published_history {m : Managed} (h : SinksMatch w) (hpublished : RefreshedExcept w m [] w') (id : Nat) :
    w'.history id = w.history id ++
      (((w.renderers.get? id).bind fun r =>
        if r.follower.isSome then r.display.request else none).bind (w'.rendering id)).toList := by
  have hr' := hpublished.renderer id
  cases hr : w.renderers.get? id with
  | none =>
    rw [hr] at hr'
    simp [World.history, hr, hr']
  | some r =>
    rw [hr] at hr'
    have hmidway : r.midway m.manager w.policy [] =
        if r.follower.isSome then r.refreshed m.manager w.policy else r := rfl
    cases hfollower : r.follower with
    | none => simp [World.history, hr, hr', hmidway, hfollower]
    | some follower =>
      have hrendering : w'.rendering id = fun request =>
          some (m.manager.rendering w.policy r.rules request) := by
        funext request
        simp [World.rendering, hpublished.backing, hr', hpublished.policy, hmidway, hfollower]
      rw [Option.bind_some, if_pos (by simp [hfollower]), hrendering]
      cases hrequest : r.display.request <;>
        simp [World.history, hr, hr', hmidway, hfollower, (h.shows hr).refreshed_history, hrequest]

private theorem cause_setLocale_of_ne {result : Except Fault Bool} (h : result ≠ .ok true) (told : Text)
    (given : Value) (id : Nat) :
    w.cause (result.map Answer.flag) id (.onManager told (.setLocale given)) = none := by
  match result with
  | .error fault => rfl
  | .ok false => rfl
  | .ok true => exact absurd rfl h

private theorem takeSetLocale (h : SinksMatch w) (depth : Nat) (told : Text) (given : Value) :
    ShowsJustCauses w (.onManager told (.setLocale given))
      ((takeOnManager (takeAll (take depth)) (.setLocale given)).run w) := by
  obtain ⟨m, hm⟩ := h.managed
  let run := takeAll (take depth)
  have hvalue := Act.run_bind_pure_value (Act.setLocale run given) Answer.flag w
  have hstate : ((takeOnManager run (.setLocale given)).run w).state =
      ((Act.setLocale run given).run w).state := Act.run_bind_state (fun _ _ => rfl) w
  -- a change that is none, or that fails, is no cause for anybody
  have hsilent (hne : ((Act.setLocale run given).run w).value ≠ .ok true)
      (hheld : SinksHold w.history ((Act.setLocale run given).run w).state) :
      ShowsJustCauses w (.onManager told (.setLocale given))
        ((takeOnManager run (.setLocale given)).run w) := by
    refine .of_sinksHold (hstate ▸ hheld) fun id => ?_
    exact (congrArg (w.cause · id _) hvalue).trans (cause_setLocale_of_ne hne told given id)
  cases hgiven : given.asLocale with
  | error fault =>
    rw [Act.setLocale_run_of_unsupported hgiven] at hsilent
    exact hsilent nofun h.sinksHold
  | ok locale =>
    by_cases hactive : locale = m.manager.active
    · rw [Act.setLocale_run_of_active hm (hactive ▸ hgiven)] at hsilent
      exact hsilent nofun h.sinksHold
    · cases hactivate : ((Manager.activate m.disk locale).run m.manager).value with
      | error fault =>
        rw [Act.setLocale_run_of_activate_error hm hgiven hactive hactivate] at hsilent
        exact hsilent nofun
          (h.sinksHold.of_same (h.congr ⟨_, rfl⟩ rfl rfl rfl rfl (Nat.le_refl _)) rfl)
      | ok previous =>
        obtain ⟨htrue, hpublished⟩ :=
          Act.setLocale_of_switch run hm hgiven hactive hactivate
        let activated := (Manager.activate m.disk locale).run m.manager
        let m' : Managed := { m with manager := activated.state }
        have hswitched : SinksMatch { w with backing := .managed m' } :=
          h.congr ⟨_, rfl⟩ rfl rfl rfl rfl (Nat.le_refl _)
        have hdelivered := hswitched.publish rfl (Act.announcement_eventType previous locale) depth
        rw [← hpublished, ← hstate] at hdelivered
        rw [htrue] at hvalue
        refine ⟨hdelivered.matching, fun id => ?_⟩
        rw [World.shownBy, show ((takeOnManager run (.setLocale given)).run w).value = _ from hvalue]
        exact hswitched.published_history hdelivered id

private theorem take (h : SinksMatch w) {step : Step} (hstep : Plain step) (depth : Nat) :
    ShowsJustCauses w step ((take (depth + 1) step).run w) := by
  let run := takeAll (Script.take depth)
  have hheld := h.sinksHold
  cases hstep with
  | makeRenderer told name options hrules hwilling =>
    refine .of_keeps h (.read_bind fun w h => ?_) fun id => rfl
    have hstateless := Act.isStateless_of_mem_getD hrules
    obtain ⟨m, hm⟩ := h.matching.managed
    simp only [hm]
    refine Act.Keeps.bind (fun w h => h.makeRenderer name hstateless hwilling) (fun id => ?_) w h
    exact .bind (.change fun w h => h.note _ _) fun _ => .pure _
  | setString told name request => exact h.takeSetString run told name request
  | refresh told name => exact h.takeRefresh run told name
  | text told name =>
    refine .of_keeps h (.bind (.rendererNamed name) fun id => ?_) fun id => rfl
    exact .bind (.rendererOf id) fun _ => .pure _
  | close told name =>
    refine .of_keeps h (.bind (.rendererNamed name) fun id => ?_) fun id => rfl
    exact .bind (fun w h => h.closeRenderer id) fun _ => .pure _
  | render told request =>
    refine .of_sinksHold ?_ fun id => rfl
    obtain ⟨m, hm⟩ := h.managed
    have hstate : ((takeOnManager run (.render request)).run w).state = w :=
      (Act.run_bind_state (fun _ _ => rfl) w).trans (Act.renderOnce_state hm request)
    exact (congrArg (SinksHold w.history) hstate).mpr hheld
  | setLocale told given => exact h.takeSetLocale depth told given
  | loadLocale told given =>
    exact .of_keeps h (.bind (.ofExcept _) fun locale => SinksHold.keeps_managing _ _) fun id => rfl
  | loadAll told => exact .of_keeps h (SinksHold.keeps_managing _ _) fun id => rfl
  | reload told => exact .of_keeps h (SinksHold.keeps_managing _ _) fun id => rfl
  | listen told handle callback hidle =>
    exact .of_sinksHold (hheld.listen run handle hidle) fun id => rfl
  | unlisten told handle => exact .of_sinksHold (hheld.unlisten run handle) fun id => rfl
  | write told changes => exact .of_sinksHold (hheld.write run changes) fun id => rfl

private theorem after (h : SinksMatch w) (depth : Nat) {steps : List Step} (hsteps : ∀ step ∈ steps, Plain step) :
    let w' := World.after (depth + 1) steps w
    SinksMatch w' ∧ ∀ id, w'.history id = w.history id ++ World.renderings (depth + 1) id steps w := by
  induction steps generalizing w with
  | nil => exact ⟨h, fun id => (List.append_nil _).symm⟩
  | cons step steps ih =>
    -- what happened in the step before is forgotten, but not what has been shown
    let begun : World := { w with happenings := [] }
    have hbegun : SinksMatch begun := h.congr h.managed rfl rfl rfl rfl (Nat.le_refl _)
    obtain ⟨htaken, hshown⟩ := hbegun.take (hsteps step List.mem_cons_self) depth
    obtain ⟨hafter, hmore⟩ := ih htaken fun s hs => hsteps s (List.mem_cons_of_mem _ hs)
    refine ⟨hafter, fun id => ?_⟩
    rw [World.after, hmore, hshown, World.renderings, List.append_assoc]
    rfl

end SinksMatch

end

/-- What the sink of a renderer has taken in a run of a service are the texts rendered for it because
of the steps, each once and in their order; and the renderer and its sink show the last of them. -/
theorem history_after (m : Managed) (policy : Text) (depth : Nat) {steps : List Step}
    (hsteps : ∀ step ∈ steps, Plain step) {id : Nat} {r : Renderer} :
    let start : World := { backing := .managed m, policy }
    (World.after (depth + 1) steps start).renderers.get? id = some r →
      r.sink.history = World.renderings (depth + 1) id steps start ∧
        r.display.text = r.sink.history.getLast? ∧
        r.sink.text = r.sink.history.getLast?.getD [] := by
  intro start hr
  obtain ⟨hmatching, hhistory⟩ := (SinksMatch.start m policy).after depth hsteps
  obtain ⟨-, hdisplay, hsink⟩ := hmatching.shows hr
  refine ⟨?_, hdisplay, hsink⟩
  have hheld := hhistory id
  rw [World.history, hr] at hheld
  exact hheld

/-- A renderer is refreshed before it has a request, follows the only one of three changes of the locale
that is one, and is closed before the next. -/
def followedSteps : List Step :=
  [.onRenderer [] (.renderer "r".toList {}), .onRenderer [] (.refresh "r".toList),
    .onRenderer [] (.setString "r".toList { key := "greet".toList }),
    .onManager [] (.setLocale (.text "fr-FR".toList)),
    .onManager [] (.setLocale (.text "fr-FR".toList)), .onManager [] (.setLocale (.text [])),
    .onRenderer [] (.close "r".toList), .onManager [] (.setLocale (.text "de-DE".toList)),
    .onRenderer [] (.refresh "r".toList)]

private theorem plain_followedSteps : ∀ step ∈ followedSteps, Plain step := by
  simp only [followedSteps, List.forall_mem_cons]
  refine ⟨.makeRenderer _ _ _ nofun fun _ _ => rfl, .refresh _ _, .setString _ _ _, .setLocale _ _,
    .setLocale _ _, .setLocale _ _, .close _ _, .setLocale _ _, .refresh _ _, ?_⟩
  exact List.forall_mem_nil _

theorem history_after_followedSteps :
    let w := World.after 2 followedSteps { backing := .managed greetingManager, policy := [] }
    (w.renderers.get? 1).isSome = true ∧ ∀ r, w.renderers.get? 1 = some r →
      r.sink.history = ["Hello".toList, "Salut".toList, "Hallo".toList] ∧
        r.display.text = some "Hallo".toList := by
  intro w
  refine ⟨by decide +kernel, fun r hr => ?_⟩
  obtain ⟨hhistory, hdisplay, -⟩ := history_after greetingManager [] 1 plain_followedSteps hr
  have hrenderings : World.renderings 2 1 followedSteps
      { backing := .managed greetingManager, policy := [] } =
        ["Hello".toList, "Salut".toList, "Hallo".toList] := by
    decide +kernel
  rw [hrenderings] at hhistory
  rw [hhistory] at hdisplay
  exact ⟨hhistory, hdisplay⟩

end Phrasebook.Script
