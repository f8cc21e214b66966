import Phrasebook.Proofs.Display.Refresh
import Phrasebook.Proofs.Template.Segment
import Phrasebook.Proofs.Template.Stages

/-!
The three stages in a single pass. Each of them scans the whole text again, and yet, as long as no
text that is filled in can join its neighbours, a template means what its segments mean one by one.
-/

set_option autoImplicit false
set_option relaxedAutoImplicit false

namespace Phrasebook.Template

def templateText (segments : List Segment) : Text := Part.writtenAll bodyText segments

/-- The texts that the first two stages know for the content of a token. -/
def sourceText (args : Option Arguments) (answer : Text → RowAnswer) (ids : Option LookupKeys) :
    Kind → Text → Option Text
  | .bare => argumentText args
  | .reference => tableText answer ids

namespace Piece

variable (texts : Kind → Text → Option Text)

/-- A token in a body has a text, and one that may take its place. -/
def Resolves : Piece → Prop
  | .text _ => True
  | .token kind content => ∃ t ∈ texts kind content, kind.Admits t

instance : (piece : Piece) → Decidable (Resolves texts piece)
  | .text _ => inferInstanceAs (Decidable True)
  | .token kind content => inferInstanceAs (Decidable (∃ t ∈ texts kind content, kind.Admits t))

def value : Piece → Text
  | .text t => t
  | .token kind content => (texts kind content).getD (kind.write content)

end Piece

def filledText (texts : Kind → Text → Option Text) (body : List Piece) : Text :=
  body.flatMap (Piece.value texts)

namespace Segment

/-- A segment is brace-free text or a token around a well-formed body. -/
def Simple (segment : Segment) : Prop := Part.Simple WellFormed segment

instance (segment : Segment) : Decidable segment.Simple :=
  inferInstanceAs (Decidable (Part.Simple _ segment))

def settle (kind : Kind) (f : Text → Option Text) (segment : Segment) : Segment :=
  Part.settle plainText (List.map (Piece.settle kind f)) kind f segment

/-- Every text that a stage puts in a segment may stand where it is put. -/
def Accepts (kind : Kind) (f : Text → Option Text) : Segment → Prop
  | .text _ => True
  | .token own body =>
    Part.Accepts plainText kind f (.token own body) ∧ ∀ piece ∈ body, Piece.Accepts kind f piece

section Meaning

variable (texts : Kind → Text → Option Text)

/-- The tokens in the body of a segment have texts, and every text that is put in the segment may
stand where it is put. The content of a bare token around others is no identifier. -/
def Resolves : Segment → Prop
  | .text _ => True
  | .token kind body =>
    (∀ piece ∈ body, Piece.Resolves texts piece) ∧
      ((plainText body).isSome ∨ kind = .reference →
        ∀ t ∈ texts kind (filledText texts body), kind.Admits t)

instance : (segment : Segment) → Decidable (segment.Resolves texts)
  | .text _ => inferInstanceAs (Decidable True)
  | .token _ _ => inferInstanceAs (Decidable (_ ∧ (_ → _)))

/-- What a segment means by itself. A reference stands for its text, a bare token for its text if it
holds no others, or else for what the rules make of it. What has no meaning stands for itself, with
its inner tokens filled. -/
def value (change : Text → Option Text) : Segment → Text
  | .text t => t
  | .token .bare body =>
    let filled := filledText texts body
    let known := if (plainText body).isSome then texts .bare filled else none
    (known.or (change filled)).getD (Kind.bare.write filled)
  | .token .reference body =>
    let filled := filledText texts body
    (texts .reference filled).getD (Kind.reference.write filled)

end Meaning

end Segment

/-! ## One stage over a template -/

private theorem Piece.eq_of_settle_eq_token {kind own : Kind} {f : Text → Option Text}
    {piece : Piece} {content : Text} (h : Piece.settle kind f piece = .token own content) :
    piece = .token own content := by
  cases piece with
  | text t => cases h
  | token own' content' =>
    rw [Piece.settle, Part.settle_token_of_some rfl] at h
    by_cases hown : own' = kind
    · rw [if_pos hown] at h
      cases hf : f content' with
      | none => rwa [hf] at h
      | some t =>
        rw [hf] at h
        cases h
    · rwa [if_neg hown] at h

private theorem Piece.Simple.settled {kind : Kind} {f : Text → Option Text} {piece : Piece}
    (h : Piece.Simple piece) (haccepts : Piece.Accepts kind f piece) :
    Piece.Simple (Piece.settle kind f piece) := by
  have hsettles : Part.SettlesTo piece (Piece.settle kind f piece) := Part.settlesTo_settle haccepts
  cases hpiece : Piece.settle kind f piece with
  | token own content =>
    rw [← Piece.eq_of_settle_eq_token hpiece]
    exact h
  | text t =>
    rw [hpiece] at hsettles
    cases hsettles with
    | text => exact h
    | filled _ hadmits => exact hadmits.1

private theorem WellFormed.settled {own kind : Kind} {f : Text → Option Text} {body : List Piece}
    (h : WellFormed own body) (haccepts : ∀ piece ∈ body, Piece.Accepts kind f piece) :
    WellFormed own (body.map (Piece.settle kind f)) where
  simple := by
    intro settled hsettled
    obtain ⟨piece, hpiece, rfl⟩ := List.mem_map.mp hsettled
    exact (h.simple piece hpiece).settled (haccepts piece hpiece)
  stand := h.stand.settled (fun piece hpiece => Part.settlesTo_settle (haccepts piece hpiece)) id
  inner := by
    intro hown settled hsettled
    obtain ⟨piece, hpiece, rfl⟩ := List.mem_map.mp hsettled
    cases hsettle : Piece.settle kind f piece with
    | text t => simp [Piece.kind?]
    | token other content =>
      rw [← Piece.eq_of_settle_eq_token hsettle]
      exact h.inner hown piece hpiece

namespace Segment

private theorem settlesTo_settle {kind : Kind} {f : Text → Option Text} {segment : Segment}
    (h : segment.Accepts kind f) : Part.SettlesTo segment (segment.settle kind f) := by
  refine Part.settlesTo_settle ?_
  cases segment with
  | text t => trivial
  | token own body => exact h.1

private theorem Simple.settled {kind : Kind} {f : Text → Option Text} {segment : Segment}
    (h : segment.Simple) (haccepts : segment.Accepts kind f) : (segment.settle kind f).Simple := by
  have hsettles := settlesTo_settle haccepts
  cases segment with
  | text t => exact h
  | token own body =>
    cases hplain : plainText body with
    | none =>
      have hsettle : settle kind f (.token own body) =
          .token own (body.map (Piece.settle kind f)) := Part.settle_token_of_none hplain _ kind f own
      rw [hsettle]
      exact WellFormed.settled h haccepts.2
    | some content =>
      have hsettle : settle kind f (.token own body) =
          if own = kind then (f content).elim (.token own body) .text else .token own body :=
        Part.settle_token_of_some hplain _ kind f own
      rw [hsettle] at hsettles ⊢
      by_cases hown : own = kind
      · rw [if_pos hown] at hsettles ⊢
        cases hf : f content with
        | none => exact h
        | some t =>
          rw [hf] at hsettles
          cases hsettles with
          | filled _ hadmits => exact hadmits.1
      · rw [if_neg hown]
        exact h

private theorem rewrite_token (kind : Kind) (f : Text → Option Text) {own : Kind}
    {body : List Piece} (h : WellFormed own body) (hplain : plainText body = none) (rest : Text) :
    rewrite kind f (own.write (bodyText body) ++ rest) =
      own.write (bodyText (body.map (Piece.settle kind f))) ++ rewrite kind f rest := by
  have hopens : OpensFirst (bodyText body ++ closeBrace :: rest) :=
    opensFirst_bodyText hplain h.simple _
  have hwrite : ∀ inner after : Text,
      own.write inner ++ after = own.opener ++ (inner ++ closeBrace :: after) := by
    intro inner after
    simp [Kind.write]
  rw [hwrite, rewrite_opener_append kind f own hopens, rewrite_bodyText kind f h, ← hwrite]

private theorem rewrite_templateText (kind : Kind) (f : Text → Option Text) {segments : List Segment}
    (hsimple : ∀ segment ∈ segments, segment.Simple)
    (hstand : Part.StandAfter bodyText [] segments) :
    rewrite kind f (templateText segments) = templateText (segments.map (settle kind f)) := by
  have hplain : ∀ own body, WellFormed own body → ∀ content, plainText body = some content →
      bodyText body = content ∧ BraceFree content := by
    intro own body hbody content hcontent
    exact ⟨bodyText_of_plainText hcontent, braceFree_of_plainText hcontent hbody.simple⟩
  have hinside : ∀ own body, WellFormed own body → plainText body = none → ∀ rest,
      rewrite kind f (own.write (bodyText body) ++ rest) =
        own.write (bodyText (body.map (Piece.settle kind f))) ++ rewrite kind f rest :=
    fun _ _ => rewrite_token kind f
  have hend : ([] : Text).head? ≠ some openBrace := by simp
  have hsegments := Part.rewrite_writtenAll kind f (Part.rewrite_settle kind f hplain hinside)
    hsimple hstand hend
  rw [rewrite_of_braceFree braceFree_nil, List.append_nil, List.append_nil] at hsegments
  exact hsegments

end Segment

/-! ## Three stages over one segment -/

section ThreeStages

variable {texts : Kind → Text → Option Text}

private theorem Piece.Resolves.accepts {piece : Piece} (h : Piece.Resolves texts piece)
    (kind : Kind) : Piece.Accepts kind (texts kind) piece := by
  cases piece with
  | text t => trivial
  | token own content =>
    obtain ⟨t, ht, hadmits⟩ := h
    rintro rfl _ ⟨⟩ t' ht'
    obtain rfl : t = t' := Option.some.inj (ht.symm.trans ht')
    exact hadmits

private theorem Piece.Accepts.settled {kind other : Kind} {f g : Text → Option Text} {piece : Piece}
    (h : Piece.Accepts other g piece) : Piece.Accepts other g (Piece.settle kind f piece) := by
  cases hpiece : Piece.settle kind f piece with
  | text t => trivial
  | token own content =>
    rw [← Piece.eq_of_settle_eq_token hpiece]
    exact h

private theorem Piece.settle_settle {piece : Piece} (h : Piece.Resolves texts piece) :
    Piece.settle .reference (texts .reference) (Piece.settle .bare (texts .bare) piece) =
      .text (Piece.value texts piece) := by
  cases piece with
  | text t => rfl
  | token kind content =>
    obtain ⟨t, ht, -⟩ := h
    have htext : texts kind content = some t := ht
    cases kind <;> simp [Piece.settle, Part.settle, Piece.value, htext]

private theorem plainText_settle_settle {body : List Piece}
    (h : ∀ piece ∈ body, Piece.Resolves texts piece) :
    plainText ((body.map (Piece.settle .bare (texts .bare))).map
      (Piece.settle .reference (texts .reference))) = some (filledText texts body) := by
  induction body with
  | nil => rfl
  | cons piece body ih =>
    have hbody : ∀ other ∈ body, Piece.Resolves texts other := fun other hother =>
      h other (List.mem_cons_of_mem piece hother)
    rw [List.map_cons, List.map_cons, Piece.settle_settle (h piece List.mem_cons_self), plainText,
      ih hbody]
    rfl

private theorem filledText_of_plainText (texts : Kind → Text → Option Text) {body : List Piece}
    {content : Text} (h : plainText body = some content) : filledText texts body = content := by
  induction body generalizing content with
  | nil => exact Option.some.inj h
  | cons piece body ih =>
    cases piece with
    | token kind inner => cases h
    | text t =>
      obtain ⟨rest, hrest, rfl⟩ := Option.map_eq_some_iff.mp h
      have htail := ih hrest
      simp only [filledText, List.flatMap_cons, Piece.value] at htail ⊢
      rw [htail]

private theorem plainText_settle_of_no_reference {body : List Piece}
    (h : ∀ piece ∈ body, Piece.Resolves texts piece)
    (hinner : ∀ piece ∈ body, Piece.kind? piece ≠ some .reference) :
    plainText (body.map (Piece.settle .bare (texts .bare))) = some (filledText texts body) := by
  have hsame : ∀ piece ∈ body.map (Piece.settle .bare (texts .bare)),
      Piece.settle .reference (texts .reference) piece = piece := by
    intro settled hsettled
    obtain ⟨piece, hpiece, rfl⟩ := List.mem_map.mp hsettled
    cases hsettle : Piece.settle .bare (texts .bare) piece with
    | text t => rfl
    | token own content =>
      rw [Piece.eq_of_settle_eq_token hsettle] at hpiece
      cases own with
      | bare => rfl
      | reference => exact absurd rfl (hinner _ hpiece)
  have htwice := plainText_settle_settle h
  rwa [List.map_congr_left hsame, List.map_id'] at htwice

private theorem eq_filledText_of_plainText_settle {body : List Piece} {content : Text}
    (h : ∀ piece ∈ body, Piece.Resolves texts piece)
    (hcontent : plainText (body.map (Piece.settle .bare (texts .bare))) = some content) :
    content = filledText texts body := by
  have htwice := plainText_settle_settle h
  rw [settle_eq_self_of_plainText hcontent] at htwice
  exact Option.some.inj (hcontent.symm.trans htwice)

namespace Segment

private theorem Resolves.accepts_bare {segment : Segment} (h : segment.Resolves texts) :
    segment.Accepts .bare (texts .bare) := by
  cases segment with
  | text t => trivial
  | token own body =>
    refine ⟨?_, fun piece hpiece => (h.1 piece hpiece).accepts .bare⟩
    rintro rfl content hcontent t ht
    refine h.2 (Or.inl (by simp [hcontent])) t ?_
    rw [filledText_of_plainText texts hcontent]
    exact ht

private theorem Resolves.accepts_reference {segment : Segment} (h : segment.Resolves texts) :
    (segment.settle .bare (texts .bare)).Accepts .reference (texts .reference) := by
  cases segment with
  | text t => trivial
  | token own body =>
    have hpieces : ∀ piece ∈ body, Piece.Accepts .reference (texts .reference) piece :=
      fun piece hpiece => (h.1 piece hpiece).accepts .reference
    cases hplain : plainText body with
    | none =>
      have hsettle : settle .bare (texts .bare) (.token own body) =
          .token own (body.map (Piece.settle .bare (texts .bare))) :=
        Part.settle_token_of_none hplain _ _ _ own
      rw [hsettle]
      refine ⟨?_, ?_⟩
      · rintro rfl content hcontent t ht
        rw [eq_filledText_of_plainText_settle h.1 hcontent] at ht
        exact h.2 (Or.inr rfl) t ht
      · intro settled hsettled
        obtain ⟨piece, hpiece, rfl⟩ := List.mem_map.mp hsettled
        exact (hpieces piece hpiece).settled
    | some content =>
      have hsettle : settle .bare (texts .bare) (.token own body) =
          if own = .bare then (texts .bare content).elim (.token own body) .text
          else .token own body :=
        Part.settle_token_of_some hplain _ _ _ own
      have htoken : Accepts .reference (texts .reference) (.token own body) := by
        refine ⟨?_, hpieces⟩
        rintro rfl content' hcontent t ht
        rw [← filledText_of_plainText texts hcontent] at ht
        exact h.2 (Or.inr rfl) t ht
      rw [hsettle]
      by_cases hown : own = .bare
      · rw [if_pos hown]
        cases texts .bare content with
        | none => exact htoken
        | some t => trivial
      · rw [if_neg hown]
        exact htoken

private theorem written_settled_of_plainText {own : Kind} {body : List Piece} {content : Text}
    (hplain : plainText body = some content) (change : Text → Option Text) :
    Part.written bodyText (settle .bare change
      (settle .reference (texts .reference) (settle .bare (texts .bare) (.token own body)))) =
        value texts change (.token own body) := by
  have hfilled : filledText texts body = content := filledText_of_plainText texts hplain
  have hbody : bodyText body = content := bodyText_of_plainText hplain
  cases own with
  | bare =>
    cases hbare : texts .bare content with
    | some t => simp [settle, Part.settle, hplain, hbare, Part.written, value, hfilled]
    | none =>
      cases hchange : change content <;>
        simp [settle, Part.settle, hplain, hbare, hchange, Part.written, value, hfilled, hbody]
  | reference =>
    cases hreference : texts .reference content <;>
      simp [settle, Part.settle, hplain, hreference, Part.written, value, hfilled, hbody]

private theorem settle_settle_of_nested {body : List Piece} (hplain : plainText body = none) :
    settle .reference (texts .reference) (settle .bare (texts .bare) (.token .bare body)) =
      .token .bare ((body.map (Piece.settle .bare (texts .bare))).map
        (Piece.settle .reference (texts .reference))) := by
  have hfirst : settle .bare (texts .bare) (.token .bare body) =
      .token .bare (body.map (Piece.settle .bare (texts .bare))) :=
    Part.settle_token_of_none hplain _ _ _ _
  rw [hfirst]
  cases hnext : plainText (body.map (Piece.settle .bare (texts .bare))) with
  | none => exact Part.settle_token_of_none hnext _ _ _ _
  | some content =>
    rw [settle_eq_self_of_plainText hnext]
    exact Part.settle_token_of_some hnext _ _ _ _

private theorem written_settled {segment : Segment} (hsimple : segment.Simple)
    (hresolves : segment.Resolves texts) (change : Text → Option Text) :
    Part.written bodyText (settle .bare change
      (settle .reference (texts .reference) (settle .bare (texts .bare) segment))) =
        segment.value texts change := by
  cases segment with
  | text t => rfl
  | token own body =>
    cases hplain : plainText body with
    | some content => exact written_settled_of_plainText hplain change
    | none =>
      cases own with
      | bare =>
        have hbody := plainText_settle_settle hresolves.1
        rw [settle_settle_of_nested hplain, settle, Part.settle_token_of_some hbody, if_pos rfl]
        cases hchange : change (filledText texts body) <;>
          simp [-List.map_map, Part.written, value, hplain, hchange, bodyText_of_plainText hbody]
      | reference =>
        have hbody := plainText_settle_of_no_reference hresolves.1 (hsimple.inner rfl)
        have hfirst : settle .bare (texts .bare) (.token .reference body) =
            .token .reference (body.map (Piece.settle .bare (texts .bare))) :=
          Part.settle_token_of_none hplain _ _ _ _
        rw [hfirst]
        cases htable : texts .reference (filledText texts body) <;>
          simp [settle, Part.settle, hbody, htable, Part.written, value, bodyText_of_plainText hbody]

end Segment

end ThreeStages

/-! ## Three stages over a template -/

private theorem settle_segments {kind : Kind} {f : Text → Option Text} {segments : List Segment}
    (hsimple : ∀ segment ∈ segments, segment.Simple)
    (hstand : Part.StandAfter bodyText [] segments)
    (haccepts : ∀ segment ∈ segments, segment.Accepts kind f) :
    (∀ segment ∈ segments.map (Segment.settle kind f), segment.Simple) ∧
      Part.StandAfter bodyText [] (segments.map (Segment.settle kind f)) := by
  constructor
  · intro settled hsettled
    obtain ⟨segment, hsegment, rfl⟩ := List.mem_map.mp hsettled
    exact (hsimple segment hsegment).settled (haccepts segment hsegment)
  · exact hstand.settled
      (fun segment hsegment => Segment.settlesTo_settle (haccepts segment hsegment)) id

private theorem rewrite_rewrite_rewrite {texts : Kind → Text → Option Text} {segments : List Segment}
    (hsimple : ∀ segment ∈ segments, segment.Simple)
    (hstand : Part.StandAfter bodyText [] segments)
    (hresolves : ∀ segment ∈ segments, segment.Resolves texts) (change : Text → Option Text) :
    rewrite .bare change (rewrite .reference (texts .reference)
      (rewrite .bare (texts .bare) (templateText segments))) =
        segments.flatMap (Segment.value texts change) := by
  obtain ⟨hsimple', hstand'⟩ := settle_segments hsimple hstand fun segment hsegment =>
    (hresolves segment hsegment).accepts_bare
  have haccepts : ∀ segment ∈ segments.map (Segment.settle .bare (texts .bare)),
      segment.Accepts .reference (texts .reference) := by
    intro settled hsettled
    obtain ⟨segment, hsegment, rfl⟩ := List.mem_map.mp hsettled
    exact (hresolves segment hsegment).accepts_reference
  obtain ⟨hsimple'', hstand''⟩ := settle_segments hsimple' hstand' haccepts
  rw [Segment.rewrite_templateText _ _ hsimple hstand,
    Segment.rewrite_templateText _ _ hsimple' hstand',
    Segment.rewrite_templateText _ _ hsimple'' hstand'']
  simp only [templateText, Part.writtenAll, List.flatMap_map]
  refine List.flatMap_congr fun segment hsegment => ?_
  exact Segment.written_settled (hsimple segment hsegment) (hresolves segment hsegment) change

variable {ε σ : Type}

/-- A display shows what the segments of its template mean by themselves, one after the other. -/
theorem refresh_shows_values {outlet : Display.Outlet ε σ} {display : Display} {request : Request}
    {s : σ} {segments : List Segment} {answer : Text → RowAnswer}
    {rules : List (Text → RuleResult)} (hrequest : display.request = some request)
    (htemplate : (outlet.source.template request.key s).value = .ok (templateText segments))
    (hrows : AnsweredBy outlet.source.row answer)
    (hrules : List.Forall₂ Rule.GivenBy outlet.chain rules)
    (hsimple : ∀ segment ∈ segments, segment.Simple)
    (hstand : Part.StandAfter bodyText [] segments)
    (hresolves : ∀ segment ∈ segments,
      segment.Resolves (sourceText request.args answer request.ids)) :
    Display.Shows outlet display s
      (segments.flatMap
        (Segment.value (sourceText request.args answer request.ids) (Rule.firstChange rules))) := by
  have hvalue := render_value_of_answers htemplate hrows hrules outlet.policy
  have hpass := rewrite_rewrite_rewrite hsimple hstand hresolves (Rule.firstChange rules)
  rw [← hpass]
  exact hvalue ▸ Display.shows_rendered outlet hrequest s

/-- A greeting with a name, a noun in the form that an argument names, a call of a rule with an
argument in it, and a reference to nothing. -/
def greeting : List Segment :=
  [.token .bare [.text "who"], .text " found ",
    .token .reference [.text "it.", .token .bare "form"], .text " ",
    .token .bare [.text "plural:", .token .bare "count", .text "|once|# times"],
    .text "@", .token .reference [.text "gone"]]

def greetingRequest : Request where
  key := "greeting"
  args := some (.ofList [("who", .text "Ann"), ("form", .text "many"), ("count", .int 3)])
  ids := some (.ofList [("it", some "key")])

def nouns (lookupKey : Text) : RowAnswer :=
  .ok (if lookupKey = "key" then some (.ofList [("value", "key"), ("many", "keys")]) else none)

/-- An outlet that has the greeting and the noun, chooses English plurals and collects what it is
given. -/
def greetingOutlet : Display.Outlet Text (List Text) where
  source := ⟨fun _ => pure (.ok (templateText greeting)), fun lookupKey => pure (nouns lookupKey)⟩
  chain := [Rule.Plural.rule fun _ => .ok "en"]
  policy := keyPolicy
  sink := fun text => Attempt.change (text :: ·)
  escape := id

theorem greeting_shown :
    templateText greeting = "\x7bwho\x7d found @\x7bit.\x7bform\x7d\x7d \x7bplural:\x7bcount\x7d|once|# times\x7d@@\x7bgone\x7d".toList ∧
      Display.Shows greetingOutlet ⟨some greetingRequest, none⟩ []
        "Ann found keys 3 times@@\x7bgone\x7d".toList := by
  refine ⟨by decide +kernel, ?_⟩
  let english : Text → RuleResult := fun content =>
    .ofTagged (Rule.Plural.apply (.ok "en".toList) content)
  have hvalue : greeting.flatMap
      (Segment.value (sourceText greetingRequest.args nouns greetingRequest.ids)
        (Rule.firstChange [english])) =
      "Ann found keys 3 times@@\x7bgone\x7d".toList := by decide +kernel
  rw [← hvalue]
  refine refresh_shows_values rfl rfl (fun _ _ => rfl) (.cons (fun _ _ => rfl) .nil) ?_ ?_ ?_
  · decide +kernel
  · decide +kernel
  · decide +kernel

end Phrasebook.Template
