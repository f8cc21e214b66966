import Phrasebook.Proofs.Template.Rewriting

/-!
Templates as they are written: text without braces and tokens side by side, where the body of a token
is again text with tokens in it. A stage settles every part by itself, as long as nothing that takes
the place of a token can join what stands around it.
-/

set_option autoImplicit false
set_option relaxedAutoImplicit false

namespace Phrasebook.Template

/-- A part of a template: text, or a token of a kind around something. -/
inductive Part (β : Type) where
  | text (t : Text)
  | token (kind : Kind) (inner : β)

/-- A part of the body of a token. The tokens in it hold nothing but text. -/
abbrev Piece := Part Text

/-- A part of a template. The tokens in it may hold further tokens. -/
abbrev Segment := Part (List Piece)

/-- A text that may take the place of a token of a kind: it opens and closes nothing, and neither its
end nor, where there may be a mark before the token, its absence makes a reference of what follows. -/
def Kind.Admits (kind : Kind) (t : Text) : Prop :=
  BraceFree t ∧ ¬ EndsInMark t ∧ (kind = .reference → t ≠ [])

instance (kind : Kind) (t : Text) : Decidable (kind.Admits t) :=
  inferInstanceAs (Decidable (_ ∧ _))

namespace Part

variable {β : Type}

def written (write : β → Text) : Part β → Text
  | text t => t
  | token kind inner => kind.write (write inner)

def writtenAll (write : β → Text) (parts : List (Part β)) : Text := parts.flatMap (written write)

/-- No mark before a part makes a reference of it. -/
def StandsAfter (before : Text) : Part β → Prop
  | text _ => True
  | token kind _ => kind.StandsAfter before

instance (before : Text) : (part : Part β) → Decidable (part.StandsAfter before)
  | text _ => inferInstanceAs (Decidable True)
  | token kind _ => inferInstanceAs (Decidable (kind.StandsAfter before))

/-- No mark anywhere before a bare token makes a reference of it. -/
def StandAfter (write : β → Text) : Text → List (Part β) → Prop
  | _, [] => True
  | before, part :: parts =>
    part.StandsAfter before ∧ StandAfter write (before ++ part.written write) parts

instance decidableStandAfter (write : β → Text) :
    (before : Text) → (parts : List (Part β)) → Decidable (StandAfter write before parts)
  | _, [] => inferInstanceAs (Decidable True)
  | before, part :: parts =>
    have := decidableStandAfter write (before ++ part.written write) parts
    inferInstanceAs (Decidable (_ ∧ _))

/-- The text of a part has no braces, and what its token holds is as it should be. -/
def Simple (holds : Kind → β → Prop) : Part β → Prop
  | text t => BraceFree t
  | token kind inner => holds kind inner

instance (holds : Kind → β → Prop) [h : ∀ kind inner, Decidable (holds kind inner)] :
    (part : Part β) → Decidable (part.Simple holds)
  | text t => inferInstanceAs (Decidable (BraceFree t))
  | token kind inner => h kind inner

/-- What a stage makes of a part: a token of its kind that holds nothing but text gives way to its
replacement, and in a token that holds more the stage goes on. -/
def settle (plain : β → Option Text) (inside : β → β) (kind : Kind) (f : Text → Option Text) :
    Part β → Part β
  | text t => text t
  | token own inner =>
    match plain inner with
    | none => token own (inside inner)
    | some content => if own = kind then (f content).elim (token own inner) text else token own inner

theorem settle_token_of_none {plain : β → Option Text} {inner : β} (h : plain inner = none)
    (inside : β → β) (kind : Kind) (f : Text → Option Text) (own : Kind) :
    settle plain inside kind f (token own inner) = token own (inside inner) := by
  simp only [settle, h]

theorem settle_token_of_some {plain : β → Option Text} {inner : β} {content : Text}
    (h : plain inner = some content) (inside : β → β) (kind : Kind) (f : Text → Option Text)
    (own : Kind) :
    settle plain inside kind f (token own inner) =
      if own = kind then (f content).elim (token own inner) text else token own inner := by
  simp only [settle, h]

/-- A stage has kept a part, or changed the inside of a token, or put text in its place that the kind
of the token admits. -/
inductive SettlesTo : Part β → Part β → Prop
  | text (t : Text) : SettlesTo (.text t) (.text t)
  | token (kind : Kind) (inner inner' : β) : SettlesTo (.token kind inner) (.token kind inner')
  | filled {kind : Kind} (inner : β) {t : Text} (h : kind.Admits t) :
    SettlesTo (.token kind inner) (.text t)

private theorem head?_writtenAll {write : β → Text} {holds : Kind → β → Prop} {before : Text}
    {parts : List (Part β)} (hsimple : ∀ part ∈ parts, part.Simple holds)
    (hstand : StandAfter write before parts) (hmark : EndsInMark before) {rest : Text}
    (hrest : rest.head? ≠ some openBrace) :
    (writtenAll write parts ++ rest).head? ≠ some openBrace := by
  induction parts generalizing before with
  | nil => exact hrest
  | cons part parts ih =>
    have hpart : part.Simple holds := hsimple part List.mem_cons_self
    have hparts : ∀ other ∈ parts, other.Simple holds := fun other h =>
      hsimple other (List.mem_cons_of_mem part h)
    simp only [writtenAll, List.flatMap_cons, List.append_assoc]
    cases part with
    | token kind inner => exact hstand.1.head hmark (write inner) _
    | text t =>
      cases t with
      | nil =>
        have hafter : StandAfter write before parts := by
          simpa [written] using hstand.2
        exact ih hparts hafter hmark
      | cons c t =>
        have hc : c ≠ openBrace := (braceFree_cons.mp hpart).1
        simpa [written] using hc

theorem rewrite_writtenAll (kind : Kind) (f : Text → Option Text) {write : β → Text}
    {holds : Kind → β → Prop} {change : Part β → Part β} {before : Text} {parts : List (Part β)}
    (hpart : ∀ part, part.Simple holds → ∀ rest,
      (EndsInMark (part.written write) → rest.head? ≠ some openBrace) →
        rewrite kind f (part.written write ++ rest) =
          (change part).written write ++ rewrite kind f rest)
    (hsimple : ∀ part ∈ parts, part.Simple holds) (hstand : StandAfter write before parts)
    {rest : Text} (hrest : rest.head? ≠ some openBrace) :
    rewrite kind f (writtenAll write parts ++ rest) =
      writtenAll write (parts.map change) ++ rewrite kind f rest := by
  induction parts generalizing before with
  | nil => rfl
  | cons part parts ih =>
    have hparts : ∀ other ∈ parts, other.Simple holds := fun other h =>
      hsimple other (List.mem_cons_of_mem part h)
    have hseam : EndsInMark (part.written write) →
        (writtenAll write parts ++ rest).head? ≠ some openBrace := by
      intro hmark
      refine head?_writtenAll hparts hstand.2 ?_ hrest
      rw [endsInMark_append]
      split
      · next hnil =>
        rw [hnil] at hmark
        exact absurd hmark endsInMark_nil
      · exact hmark
    have htail := ih hparts hstand.2
    simp only [writtenAll, List.flatMap_cons, List.map_cons, List.append_assoc] at htail hseam ⊢
    rw [hpart part (hsimple part List.mem_cons_self) _ hseam, htail]

theorem StandAfter.settled {write : β → Text} {change : Part β → Part β} {before before' : Text}
    {parts : List (Part β)} (h : StandAfter write before parts)
    (hchange : ∀ part ∈ parts, SettlesTo part (change part))
    (hmark : EndsInMark before' → EndsInMark before) :
    StandAfter write before' (parts.map change) := by
  induction parts generalizing before before' with
  | nil => trivial
  | cons part parts ih =>
    have hparts : ∀ other ∈ parts, SettlesTo other (change other) := fun other hother =>
      hchange other (List.mem_cons_of_mem part hother)
    have hsettles : SettlesTo part (change part) := hchange part List.mem_cons_self
    obtain ⟨hstands, hafter⟩ := h
    rw [List.map_cons]
    generalize change part = part' at hsettles
    cases hsettles with
    | text t =>
      refine ⟨trivial, ih hafter hparts ?_⟩
      simp only [written, endsInMark_append]
      split
      · exact hmark
      · exact id
    | token kind inner inner' =>
      refine ⟨fun hbare hends => hstands hbare (hmark hends), ih hafter hparts ?_⟩
      intro hends
      rw [written, Kind.write, ← List.append_assoc] at hends
      exact absurd hends (not_endsInMark_close _)
    | @filled kind inner t hadmits =>
      obtain ⟨-, hend, hempty⟩ := hadmits
      refine ⟨trivial, ih hafter hparts ?_⟩
      intro hends
      rw [written, endsInMark_append] at hends
      split at hends
      · next hnil =>
        -- only a bare token may vanish, and before that there is no mark
        cases kind with
        | bare => exact absurd (hmark hends) (hstands rfl)
        | reference => exact absurd hnil (hempty rfl)
      · exact absurd hends hend

/-- What a stage puts in the place of a part is a text that the part admits. -/
def Accepts (plain : β → Option Text) (kind : Kind) (f : Text → Option Text) : Part β → Prop
  | text _ => True
  | token own inner =>
    own = kind → ∀ content, plain inner = some content → ∀ t, f content = some t → own.Admits t

theorem settlesTo_settle {plain : β → Option Text} {inside : β → β} {kind : Kind}
    {f : Text → Option Text} {part : Part β} (h : part.Accepts plain kind f) :
    SettlesTo part (part.settle plain inside kind f) := by
  cases part with
  | text t => exact .text t
  | token own inner =>
    cases hplain : plain inner with
    | none =>
      rw [settle_token_of_none hplain]
      exact .token own inner _
    | some content =>
      rw [settle_token_of_some hplain]
      by_cases hown : own = kind
      · rw [if_pos hown]
        cases hf : f content with
        | none => exact .token own inner inner
        | some t => exact .filled inner (h hown content hplain t hf)
      · rw [if_neg hown]
        exact .token own inner inner

/-- A rewriting does to a part what settling it does, if it does so inside the tokens that hold more
than text. -/
theorem rewrite_settle (kind : Kind) (f : Text → Option Text) {plain : β → Option Text}
    {inside : β → β} {write : β → Text} {holds : Kind → β → Prop}
    (hplain : ∀ own inner, holds own inner → ∀ content, plain inner = some content →
      write inner = content ∧ BraceFree content)
    (hinside : ∀ own inner, holds own inner → plain inner = none → ∀ rest,
      rewrite kind f (own.write (write inner) ++ rest) =
        own.write (write (inside inner)) ++ rewrite kind f rest)
    (part : Part β) (hpart : part.Simple holds) (rest : Text)
    (hseam : EndsInMark (part.written write) → rest.head? ≠ some openBrace) :
    rewrite kind f (part.written write ++ rest) =
      (part.settle plain inside kind f).written write ++ rewrite kind f rest := by
  cases part with
  | text t => exact rewrite_text_append hpart hseam
  | token own inner =>
    cases hcontent : plain inner with
    | none =>
      rw [settle_token_of_none hcontent]
      exact hinside own inner hpart hcontent rest
    | some content =>
      obtain ⟨hwrite, hfree⟩ := hplain own inner hpart content hcontent
      have hstands : own.StandsAfter [] := fun _ => endsInMark_nil
      have haround := rewrite_around kind f rest hfree hstands
      rw [List.nil_append, rewrite_of_braceFree braceFree_nil, List.nil_append] at haround
      rw [settle_token_of_some hcontent, written, hwrite, haround]
      congr 1
      unfold Kind.rewritten
      by_cases hown : own = kind
      · rw [if_pos hown, if_pos hown]
        cases f content <;> simp [written, hwrite]
      · rw [if_neg hown, if_neg hown, written, hwrite]

end Part

/-! ## Bodies of tokens -/

namespace Piece

def kind? : Piece → Option Kind
  | .text _ => none
  | .token kind _ => some kind

def Simple (piece : Piece) : Prop := Part.Simple (fun _ content => BraceFree content) piece

instance (piece : Piece) : Decidable (Simple piece) :=
  inferInstanceAs (Decidable (Part.Simple _ piece))

def Accepts (kind : Kind) (f : Text → Option Text) (piece : Piece) : Prop :=
  Part.Accepts some kind f piece

def settle (kind : Kind) (f : Text → Option Text) (piece : Piece) : Piece :=
  Part.settle some id kind f piece

end Piece

def bodyText (body : List Piece) : Text := Part.writtenAll id body

def plainText : List Piece → Option Text
  | [] => some []
  | .text t :: body => (plainText body).map (t ++ ·)
  | .token _ _ :: _ => none

/-- What the body of a token of a kind may be: text and tokens, none of which a mark would make a
reference, and no reference in a reference. -/
structure WellFormed (kind : Kind) (body : List Piece) : Prop where
  simple : ∀ piece ∈ body, Piece.Simple piece
  stand : Part.StandAfter id [] body
  inner : kind = .reference → ∀ piece ∈ body, Piece.kind? piece ≠ some .reference

instance (kind : Kind) (body : List Piece) : Decidable (WellFormed kind body) :=
  decidable_of_iff ((∀ piece ∈ body, Piece.Simple piece) ∧ Part.StandAfter id [] body ∧
      (kind = .reference → ∀ piece ∈ body, Piece.kind? piece ≠ some .reference))
    ⟨fun ⟨simple, stand, inner⟩ => ⟨simple, stand, inner⟩,
      fun ⟨simple, stand, inner⟩ => ⟨simple, stand, inner⟩⟩

theorem bodyText_of_plainText {body : List Piece} {content : Text}
    (h : plainText body = some content) : bodyText body = content := by
  induction body generalizing content with
  | nil =>
    obtain rfl : [] = content := Option.some.inj h
    rfl
  | cons piece body ih =>
    cases piece with
    | token kind inner => cases h
    | text t =>
      obtain ⟨rest, hrest, rfl⟩ := Option.map_eq_some_iff.mp h
      rw [← ih hrest]
      rfl

theorem braceFree_of_plainText {body : List Piece} {content : Text}
    (h : plainText body = some content) (hsimple : ∀ piece ∈ body, Piece.Simple piece) :
    BraceFree content := by
  induction body generalizing content with
  | nil =>
    obtain rfl : [] = content := Option.some.inj h
    exact braceFree_nil
  | cons piece body ih =>
    have hbody : ∀ other ∈ body, Piece.Simple other := fun other hother =>
      hsimple other (List.mem_cons_of_mem piece hother)
    cases piece with
    | token kind inner => cases h
    | text t =>
      obtain ⟨rest, hrest, rfl⟩ := Option.map_eq_some_iff.mp h
      exact braceFree_append.mpr ⟨hsimple _ List.mem_cons_self, ih hrest hbody⟩

theorem opensFirst_bodyText {body : List Piece} (h : plainText body = none)
    (hsimple : ∀ piece ∈ body, Piece.Simple piece) (rest : Text) :
    OpensFirst (bodyText body ++ rest) := by
  induction body with
  | nil => cases h
  | cons piece body ih =>
    have hbody : ∀ other ∈ body, Piece.Simple other := fun other hother =>
      hsimple other (List.mem_cons_of_mem piece hother)
    have hwritten : bodyText (piece :: body) ++ rest =
        Part.written id piece ++ (bodyText body ++ rest) := by
      simp [bodyText, Part.writtenAll]
    rw [hwritten]
    cases piece with
    | token kind content => exact kind.opensFirst_write content _
    | text t =>
      have hfree : BraceFree t := hsimple _ List.mem_cons_self
      exact opensFirst_append hfree (ih (Option.map_eq_none_iff.mp h) hbody)

theorem settle_eq_self_of_plainText {body : List Piece} {content : Text}
    (h : plainText body = some content) (kind : Kind) (f : Text → Option Text) :
    body.map (Piece.settle kind f) = body := by
  induction body generalizing content with
  | nil => rfl
  | cons piece body ih =>
    cases piece with
    | token kind inner => cases h
    | text t =>
      obtain ⟨rest, hrest, -⟩ := Option.map_eq_some_iff.mp h
      rw [List.map_cons, ih hrest]
      rfl

theorem rewrite_bodyText (kind : Kind) (f : Text → Option Text) {own : Kind} {body : List Piece}
    (h : WellFormed own body) (rest : Text) :
    rewrite kind f (bodyText body ++ closeBrace :: rest) =
      bodyText (body.map (Piece.settle kind f)) ++ closeBrace :: rewrite kind f rest := by
  have hhead : (closeBrace :: rest).head? ≠ some openBrace := by
    intro heq
    exact absurd (Option.some.inj heq) (by decide)
  have hplain : ∀ (_ : Kind) (inner : Text), BraceFree inner → ∀ content, some inner = some content →
      id inner = content ∧ BraceFree content := by
    rintro _ inner hfree content ⟨⟩
    exact ⟨rfl, hfree⟩
  have hinside : ∀ (own : Kind) (inner : Text), BraceFree inner → some inner = none → ∀ rest,
      rewrite kind f (own.write (id inner) ++ rest) =
        own.write (id (id inner)) ++ rewrite kind f rest := by
    rintro _ _ _ ⟨⟩
  have hpieces := Part.rewrite_writtenAll kind f (Part.rewrite_settle kind f hplain hinside)
    h.simple h.stand hhead
  rw [rewrite_close_cons] at hpieces
  exact hpieces

end Phrasebook.Template
