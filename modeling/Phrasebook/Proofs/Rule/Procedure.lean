import Phrasebook.Rule.Basic

/-!
Rules told as procedures. A procedure may stop at any of its operations; it asks for values, which may
change a state, and it takes items from lists, of which an account is kept. So one can say that a
procedure returns from every state, whatever it is answered on the way, and that every item that it
took was there.
-/

set_option autoImplicit false
set_option relaxedAutoImplicit false

namespace Phrasebook.Rule

/-- Why a procedure stops before its end. -/
inductive Mishap
  /-- A value has not the form that is asked for: a text is no numeral, a list has no first item to be
  parted from the others. -/
  | unfit
  /-- A list has no item at an index. -/
  | outOfRange
  deriving DecidableEq, Repr

namespace Procedure

/-- An item that is taken from a list of some length by its index. -/
structure Access where
  length : Nat
  index : Int
  deriving DecidableEq, Repr

/-- There is an item at the index. An index below zero counts from the end of the list. -/
def Access.InRange (access : Access) : Prop :=
  -(access.length : Int) ≤ access.index ∧ access.index < access.length

/-- How a procedure ends, with the items that it took or tried to take. -/
structure Ending (σ α : Type) where
  result : Except Mishap α
  state : σ
  accesses : List Access

end Procedure

def Procedure (σ α : Type) : Type := σ → Procedure.Ending σ α

namespace Procedure

variable {σ α β : Type}

/-! ## Operations -/

protected def pure (a : α) : Procedure σ α := fun s => ⟨.ok a, s, []⟩

/-- One procedure after the other. After a mishap nothing more is done. -/
protected def bind (x : Procedure σ α) (f : α → Procedure σ β) : Procedure σ β := fun s =>
  match x s with
  | ⟨.error mishap, s, accesses⟩ => ⟨.error mishap, s, accesses⟩
  | ⟨.ok a, s, accesses⟩ =>
    let next := f a s
    ⟨next.result, next.state, accesses ++ next.accesses⟩

instance : Monad (Procedure σ) where
  pure := Procedure.pure
  bind := Procedure.bind

def stop (mishap : Mishap) : Procedure σ α := fun s => ⟨.error mishap, s, []⟩

/-- A value that is there only if something had the form asked for. -/
def fit : Option α → Procedure σ α
  | some a => pure a
  | none => stop .unfit

/-- The value of a procedure, or none if it stops for want of a form. Where an item is missing it stops
all the same. -/
def ifFit (x : Procedure σ α) : Procedure σ (Option α) := fun s =>
  match x s with
  | ⟨.ok a, s, accesses⟩ => ⟨.ok (some a), s, accesses⟩
  | ⟨.error .unfit, s, accesses⟩ => ⟨.ok none, s, accesses⟩
  | ⟨.error .outOfRange, s, accesses⟩ => ⟨.error .outOfRange, s, accesses⟩

/-- Asking whoever answers from the state, and may change it. -/
def ask (answer : σ → α × σ) : Procedure σ α := fun s => ⟨.ok (answer s).1, (answer s).2, []⟩

def item? (xs : List α) : Int → Option α
  | .ofNat place => xs[place]?
  | .negSucc place => xs.reverse[place]?

def item (xs : List α) (index : Int) : Procedure σ α := fun s =>
  ⟨(item? xs index).elim (.error .outOfRange) .ok, s, [⟨xs.length, index⟩]⟩

/-- The first item of a list, and the others. -/
def takeApart (xs : List α) : Procedure σ (α × List α) :=
  fit (xs.head?.map fun x => (x, xs.tail))

private theorem procedure_assoc {γ : Type} (x : Procedure σ α) (f : α → Procedure σ β)
    (g : β → Procedure σ γ) : x >>= f >>= g = x >>= fun a => f a >>= g := by
  funext s
  change Procedure.bind (Procedure.bind x f) g s = Procedure.bind x (fun a => Procedure.bind (f a) g) s
  unfold Procedure.bind
  rcases x s with ⟨mishap | a, s', accesses⟩
  · rfl
  · dsimp only
    rcases f a s' with ⟨mishap | b, s'', accesses'⟩
    · rfl
    · simp only [List.append_assoc]

private theorem procedure_map_id (x : Procedure σ α) : id <$> x = x := by
  funext s
  change Procedure.bind x (fun a => Procedure.pure (id a)) s = x s
  unfold Procedure.bind
  rcases x s with ⟨mishap | a, s', accesses⟩
  · rfl
  · simp only [Procedure.pure, id, List.append_nil]

instance : LawfulMonad (Procedure σ) :=
  LawfulMonad.mk' (Procedure σ) procedure_map_id (fun _ _ => rfl) procedure_assoc

@[simp] theorem fit_some (a : α) : (fit (some a) : Procedure σ α) = Pure.pure a := rfl

private theorem bind_of_ok {x : Procedure σ α} {s s' : σ} {a : α} {accesses : List Access}
    (h : x s = ⟨.ok a, s', accesses⟩) (f : α → Procedure σ β) :
    (x >>= f) s = ⟨(f a s').result, (f a s').state, accesses ++ (f a s').accesses⟩ := by
  change Procedure.bind x f s = _
  rw [Procedure.bind, h]

@[simp] theorem ifFit_fit_none_bind (f : α → Procedure σ β) :
    ifFit (fit none >>= f) = Pure.pure none := rfl

@[simp] theorem ifFit_fit (a : Option α) : (ifFit (fit a) : Procedure σ (Option α)) = Pure.pure a := by
  cases a <;> rfl

@[simp] theorem takeApart_cons (x : α) (xs : List α) :
    (takeApart (x :: xs) : Procedure σ (α × List α)) = Pure.pure (x, xs) := rfl

theorem inRange_iff_isSome_item? (xs : List α) (index : Int) :
    (⟨xs.length, index⟩ : Access).InRange ↔ (item? xs index).isSome = true := by
  unfold Access.InRange item?
  cases index with
  | ofNat place =>
    rw [isSome_getElem?]
    simp only [Int.ofNat_eq_natCast]
    omega
  | negSucc place =>
    rw [isSome_getElem?, List.length_reverse]
    dsimp only
    omega

theorem item?_zero (x : α) (xs : List α) : item? (x :: xs) 0 = some x := rfl

theorem item?_neg_one (xs : List α) : item? xs (-1) = xs.getLast? := by
  have hfirst : item? xs (-1) = xs.reverse.head? := List.head?_eq_getElem?.symm
  rw [hfirst, List.head?_reverse]

/-! ## Returning -/

/-- From every state that meets a condition a procedure returns, to a state that meets it too; every item
that it takes is there, and its value and the items taken are as told. -/
def Returns (inv : σ → Prop) (x : Procedure σ α) (post : α → List Access → Prop) : Prop :=
  ∀ s, inv s → ∃ a s' accesses, x s = ⟨.ok a, s', accesses⟩ ∧ inv s' ∧
    (∀ access ∈ accesses, access.InRange) ∧ post a accesses

namespace Returns

variable {inv : σ → Prop} {x : Procedure σ α} {post post' : α → List Access → Prop}

theorem weaken (hx : Returns inv x post) (h : ∀ a accesses, post a accesses → post' a accesses) :
    Returns inv x post' := by
  intro s hs
  obtain ⟨a, s', accesses, hrun, hs', hrange, hpost⟩ := hx s hs
  exact ⟨a, s', accesses, hrun, hs', hrange, h a accesses hpost⟩

protected theorem pure {a : α} (h : post a []) : Returns inv (Pure.pure a) post := by
  intro s hs
  exact ⟨a, s, [], rfl, hs, nofun, h⟩

protected theorem bind {f : α → Procedure σ β} {post' : β → List Access → Prop} (hx : Returns inv x post)
    (hf : ∀ a first, post a first →
      Returns inv (f a) fun b second => post' b (first ++ second)) :
    Returns inv (x >>= f) post' := by
  intro s hs
  obtain ⟨a, s', first, hrun, hs', hfirst, hpost⟩ := hx s hs
  obtain ⟨b, s'', second, hnext, hs'', hsecond, hpost'⟩ := hf a first hpost s' hs'
  refine ⟨b, s'', first ++ second, ?_, hs'', ?_, hpost'⟩
  · rw [bind_of_ok hrun, hnext]
  · intro access haccess
    rcases List.mem_append.mp haccess with haccess | haccess
    · exact hfirst access haccess
    · exact hsecond access haccess

protected theorem ifFit (hx : Returns inv x post) :
    Returns inv x.ifFit fun found accesses => ∃ a, found = some a ∧ post a accesses := by
  intro s hs
  obtain ⟨a, s', accesses, hrun, hs', hrange, hpost⟩ := hx s hs
  refine ⟨some a, s', accesses, ?_, hs', hrange, a, rfl, hpost⟩
  unfold Procedure.ifFit
  rw [hrun]

protected theorem ask {answer : σ → α × σ} {p : α → Prop} (hanswer : ∀ s, inv s → p (answer s).1)
    (hstate : ∀ s, inv s → inv (answer s).2) :
    Returns inv (ask answer) fun a accesses => p a ∧ accesses = [] := by
  intro s hs
  exact ⟨(answer s).1, (answer s).2, [], rfl, hstate s hs, nofun, hanswer s hs, rfl⟩

protected theorem item {xs : List α} {index : Int} {a : α} (h : item? xs index = some a) :
    Returns inv (item xs index) fun b accesses => b = a ∧ accesses = [⟨xs.length, index⟩] := by
  intro s hs
  have hrange : (⟨xs.length, index⟩ : Access).InRange := by
    rw [inRange_iff_isSome_item?, h]
    rfl
  refine ⟨a, s, [⟨xs.length, index⟩], ?_, hs, ?_, rfl, rfl⟩
  · unfold Procedure.item
    rw [h]
    rfl
  · intro access haccess
    obtain rfl := List.mem_singleton.mp haccess
    exact hrange

end Returns

end Procedure

end Phrasebook.Rule
