import Phrasebook.Proofs.Manager.Overlay

/-!
What a rendering through a manager depends on: the template, and what it names. Which lookup keys
the references name shows only in the text after the first stage, so that the arguments have a part
in it.
-/

set_option autoImplicit false
set_option relaxedAutoImplicit false

namespace Phrasebook.Manager

open Template

/-- The text fetched for a template: itself, or what stands in for a missing one. -/
def fetched (m : Manager) (policy key : Text) : Text := textOf policy key (m.answer key)

def filled (m : Manager) (policy : Text) (request : Request) : Text :=
  Template.filled request (m.fetched policy request.key)

/-- Two managers and a request to each, between which there is no difference in what is named: in
the template, in the arguments of its placeholders, in the lookup keys of the identifiers that the
references of the filled text name, and in the rows under these lookup keys. -/
structure NamedAlike (policy : Text) (m m' : Manager) (request request' : Request) : Prop where
  active : m.active = m'.active
  key : request.key = request'.key
  template : (m.template? request.key).1 = (m'.template? request'.key).1
  args : ArgumentsAgree (contents (bareTokens (m.fetched policy request.key)))
    request.args request'.args
  ids : KeysAgree (identifiers (m.filled policy request)) request.ids request'.ids
  rows : ∀ lookupKey ∈ lookedUp request.ids (m.filled policy request),
    RowsAgree (m.row? lookupKey).1 (m'.row? lookupKey).1

private theorem namedAlike_of_catalogs {m m' : Manager} (hactive : m.active = m'.active)
    (hfallback : m.fallback = m'.fallback)
    (hcatalog : m.catalogs.get? m.active = m'.catalogs.get? m.active)
    (hcatalog' : m.catalogs.get? m.fallback = m'.catalogs.get? m.fallback) (policy : Text)
    (request : Request) : NamedAlike policy m m' request request := by
  have hlook : ∀ {α : Type} (look : Catalog → Option α) (key : Text),
      (m.lookUp look key).1 = (m'.lookUp look key).1 := by
    intro α look key
    rw [lookUp_fst, lookUp_fst, ← hactive, ← hfallback]
    simp only [find, hcatalog, hcatalog']
  exact ⟨hactive, rfl, hlook _ _, .refl _ _, .refl _ _, fun lookupKey _ => congrArg _ (hlook _ _)⟩

variable {ε σ τ : Type} {R : σ → τ → Prop} {manager : σ → Manager} {manager' : τ → Manager}
  {chain : Chain σ} {chain' : Chain τ} {policy : Text} {request request' : Request} {s : σ} {t : τ}

private theorem render_namedAlike_inStep
    (h : NamedAlike policy (manager s) (manager' t) request request') (hstates : R s t)
    (hrules : List.Forall₂ (Rule.InStep R) chain chain') :
    Effect.InStep (fun s' t' => s' = s ∧ t' = t) R Eq
      (render (source manager) chain policy request)
      (render (source manager') chain' policy request') := by
  have herrors : ∀ {α : Type} (m m' : Manager) (look : Catalog → Option α) (key key' : Text),
      Report.errors (m.lookUp look key).2 = Report.errors (m'.lookUp look key').2 :=
    fun _ _ _ _ _ => (errors_lookUp _ _ _).trans (errors_lookUp _ _ _).symm
  have htemplate : Effect.InStep (fun s' t' => s' = s ∧ t' = t) (fun s' t' => s' = s ∧ t' = t)
      (fun found found' =>
        found = (manager s).answer request.key ∧ found' = (manager s).answer request.key)
      ((source manager).template request.key) ((source manager').template request.key) := by
    rintro _ _ ⟨rfl, rfl⟩
    refine ⟨⟨rfl, ?_⟩, ⟨rfl, rfl⟩, herrors _ _ _ _ _⟩
    rw [answer, h.template, h.active, ← h.key]
    rfl
  refine render_inStep h.key htemplate h.args h.ids ?_ ?_ hrules
  · rintro lookupKey hmem _ _ ⟨rfl, rfl⟩
    exact ⟨h.rows lookupKey hmem, ⟨rfl, rfl⟩, herrors _ _ _ _ _⟩
  · rintro _ _ ⟨rfl, rfl⟩
    exact hstates

/-- Where there is no difference in what the template names, one text is displayed and the same
errors are reported, in the same order. Arguments and rows that it does not name have no part in it,
nor has anything else that differs between the states, if the rules do alike in them; and the catalogs
of other locales than the active and the fallback one make no difference in what is named. -/
theorem shows_of_namedAlike (h : NamedAlike policy (manager s) (manager' t) request request')
    (hstates : R s t) (hrules : List.Forall₂ (Rule.InStep R) chain chain')
    {display display' : Display} (hrequest : display.request = some request)
    (hrequest' : display'.request = some request') (sink : Text → Attempt ε σ Unit)
    (sink' : Text → Attempt ε τ Unit) (escape : Text → ε) :
    (∃ text, Display.Shows ⟨source manager, chain, policy, sink, escape⟩ display s text ∧
      Display.Shows ⟨source manager', chain', policy, sink', escape⟩ display' t text) ∧
    Report.errors (render (source manager) chain policy request s).reports =
      Report.errors (render (source manager') chain' policy request' t).reports ∧
    ∀ m m' : Manager, m.active = m'.active → m.fallback = m'.fallback →
      m.catalogs.get? m.active = m'.catalogs.get? m.active →
        m.catalogs.get? m.fallback = m'.catalogs.get? m.fallback →
          NamedAlike policy m m' request request := by
  obtain ⟨hvalue, -, herrors⟩ := render_namedAlike_inStep h hstates hrules s t ⟨rfl, rfl⟩
  refine ⟨⟨(render (source manager) chain policy request s).value, ?_, ?_⟩, herrors,
    fun m m' hactive hfallback hcatalog hcatalog' =>
      namedAlike_of_catalogs hactive hfallback hcatalog hcatalog' policy request⟩
  · exact Display.shows_rendered _ hrequest s
  · rw [hvalue]
    exact Display.shows_rendered _ hrequest' t

/-- French is active and has a template; the noun is found in English. -/
def frenchDesk : Manager where
  loader := .memory { catalogs := ∅ }
  active := .frFR
  fallback := .enUS
  catalogs := .ofList [
    (.frFR, { locale := .frFR, strings := .ofList [
      ("find".toList, "\x7bwho\x7d: @\x7bit.form\x7d, @\x7bwhere\x7d".toList)] }),
    (.enUS, { locale := .enUS, tables := .ofList [
      ("KEY".toList, .ofList [("form".toList, "keys".toList)])] })]

/-- The same with a German catalog, and with one more noun in all others. -/
def crowdedDesk : Manager :=
  let lock (catalog : Catalog) := catalog.putTag "LOCK".toList "form".toList "locks".toList
  { frenchDesk with
    catalogs := (frenchDesk.catalogs.mapValues lock).insert .deDE
      { locale := .deDE, strings := .ofList [("find".toList, "gefunden".toList)] } }

def findRequest : Request where
  key := "find".toList
  args := some (.ofList [("who".toList, .text "Ann".toList)])
  ids := some (.ofList [("it".toList, some "KEY".toList)])

/-- The same with an argument and a lookup key too many. -/
def wordyRequest : Request :=
  { findRequest with
    args := findRequest.args.map (·.insert "when".toList (.int 3))
    ids := findRequest.ids.map (·.insert "them".toList (some "LOCK".toList)) }

private theorem frenchDesk_namedAlike :
    NamedAlike keyPolicy frenchDesk crowdedDesk findRequest wordyRequest where
  active := rfl
  key := rfl
  template := by decide +kernel
  args := ArgumentsAgree.insert (by decide +kernel) _ _
  ids := KeysAgree.insert (by decide +kernel) _ _
  rows := by
    have hkeys : lookedUp findRequest.ids (frenchDesk.filled keyPolicy findRequest) =
        ["KEY".toList] := by decide +kernel
    rw [hkeys, List.forall_mem_singleton]
    rfl

theorem shows_of_namedAlike_desks :
    let tag (m : Manager) : Except Text Text := .ok m.active.tag
    let sink : Text → Attempt Fault Manager Unit := fun _ => pure ()
    (∃ text,
      Display.Shows ⟨source id, Chain.builtIn tag, keyPolicy, sink, .raised⟩ ⟨some findRequest, none⟩
        frenchDesk text ∧
      Display.Shows ⟨source id, Chain.builtIn tag, keyPolicy, sink, .raised⟩ ⟨some wordyRequest, none⟩
        crowdedDesk text) ∧
    Report.errors
        (render (source id) (Chain.builtIn tag) keyPolicy findRequest frenchDesk).reports =
      Report.errors
        (render (source id) (Chain.builtIn tag) keyPolicy wordyRequest crowdedDesk).reports := by
  intro tag sink
  have hrules : List.Forall₂ (Rule.InStep fun m m' : Manager => m.active = m'.active)
      (Chain.builtIn tag) (Chain.builtIn tag) := by
    refine Chain.builtIn_inStep fun m m' hactive => ?_
    simp only [tag, hactive]
  have hrequest : ∀ request, (⟨some request, none⟩ : Display).request = some request := fun _ => rfl
  have hnamed : NamedAlike keyPolicy (id frenchDesk) (id crowdedDesk) findRequest wordyRequest :=
    frenchDesk_namedAlike
  obtain ⟨hshown, herrors, -⟩ := shows_of_namedAlike hnamed rfl hrules (hrequest findRequest)
    (hrequest wordyRequest) sink sink .raised
  exact ⟨hshown, herrors⟩

end Phrasebook.Manager
