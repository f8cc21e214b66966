import Phrasebook.Report

/-!
Computations that may change a state and leave reports behind. The reports of one computation are
part of its outcome, so that a stage can be described without the log it will end up in.
-/

set_option autoImplicit false
set_option relaxedAutoImplicit false

namespace Phrasebook

/-- What a computation leaves behind: its value, the new state, and its reports in order. -/
structure Outcome (σ α : Type) where
  value : α
  state : σ
  reports : List Report := []

/-- A computation over a state. -/
def Effect (σ α : Type) : Type := σ → Outcome σ α

namespace Effect

variable {σ α β : Type}

def pure (a : α) : Effect σ α := fun s => ⟨a, s, []⟩

def bind (x : Effect σ α) (f : α → Effect σ β) : Effect σ β := fun s =>
  let first := x s
  let second := f first.value first.state
  ⟨second.value, second.state, first.reports ++ second.reports⟩

instance : Monad (Effect σ) where
  pure := pure
  bind := bind

@[simp] theorem pure_apply (a : α) (s : σ) : (Pure.pure a : Effect σ α) s = ⟨a, s, []⟩ := rfl

@[simp] theorem bind_apply (x : Effect σ α) (f : α → Effect σ β) (s : σ) :
    (x >>= f) s = ⟨(f (x s).value (x s).state).value, (f (x s).value (x s).state).state,
      (x s).reports ++ (f (x s).value (x s).state).reports⟩ := rfl

def read : Effect σ σ := fun s => ⟨s, s, []⟩

@[simp] theorem read_bind_apply (f : σ → Effect σ α) (s : σ) : (read >>= f) s = f s s := rfl

def change (f : σ → σ) : Effect σ Unit := fun s => ⟨(), f s, []⟩

def tell (reports : List Report) : Effect σ Unit := fun s => ⟨(), s, reports⟩

def report (r : Report) : Effect σ Unit := tell [r]

/-- A computation over a part of the state. -/
def within {τ : Type} (part : σ → τ) (putBack : τ → σ → σ) (x : Effect τ α) : Effect σ α := fun s =>
  let inner := x (part s)
  ⟨inner.value, putBack inner.state s, inner.reports⟩

/-- A computation beside a state in which it has no part. -/
def beside {τ : Type} (x : Effect σ α) : Effect (τ × σ) α := fun s =>
  let outcome := x s.2
  ⟨outcome.value, (s.1, outcome.state), outcome.reports⟩

end Effect

/-- A computation that may stop with a fault. What it changed and reported before stays. -/
abbrev Attempt (ε σ α : Type) : Type := ExceptT ε (Effect σ) α

namespace Attempt

variable {ε σ α β : Type}

def ofExcept (result : Except ε α) : Attempt ε σ α := ExceptT.mk (pure result)

def read : Attempt ε σ σ := ExceptT.lift Effect.read

def change (f : σ → σ) : Attempt ε σ Unit := ExceptT.lift (Effect.change f)

def report (r : Report) : Attempt ε σ Unit := ExceptT.lift (Effect.report r)

/-- What comes of a computation, be it a result or a fault. -/
def outcome (x : Attempt ε σ α) : Attempt ε σ (Except ε α) := ExceptT.lift x.run

def within {τ : Type} (part : σ → τ) (putBack : τ → σ → σ) (x : Attempt ε τ α) : Attempt ε σ α :=
  ExceptT.mk (Effect.within part putBack x.run)

def mapFault {ε' : Type} (f : ε → ε') (x : Attempt ε σ α) : Attempt ε' σ α :=
  ExceptT.mk fun s =>
    let outcome := x.run s
    ⟨outcome.value.mapError f, outcome.state, outcome.reports⟩

/-- The state into which a computation turns a first one. -/
def building {τ : Type} (first : τ) (x : Attempt ε τ Unit) : Attempt ε σ τ :=
  ExceptT.mk fun s =>
    let outcome := x.run first
    ⟨outcome.value.map fun () => outcome.state, s, outcome.reports⟩

@[simp] theorem run_pure (a : α) (s : σ) :
    (Pure.pure a : Attempt ε σ α).run s = ⟨.ok a, s, []⟩ := rfl

@[simp] theorem run_ofExcept (result : Except ε α) (s : σ) :
    (ofExcept result : Attempt ε σ α).run s = ⟨result, s, []⟩ := rfl

@[simp] theorem run_lift (x : Effect σ α) (s : σ) :
    (ExceptT.lift x : Attempt ε σ α).run s = ⟨.ok (x s).value, (x s).state, (x s).reports⟩ := by
  simp [ExceptT.lift, ExceptT.run_mk, Functor.map, Effect.bind, Effect.pure]

@[simp] theorem run_read (s : σ) : (read : Attempt ε σ σ).run s = ⟨.ok s, s, []⟩ := rfl

@[simp] theorem run_change (f : σ → σ) (s : σ) :
    (change f : Attempt ε σ Unit).run s = ⟨.ok (), f s, []⟩ := rfl

@[simp] theorem run_report (r : Report) (s : σ) :
    (report r : Attempt ε σ Unit).run s = ⟨.ok (), s, [r]⟩ := rfl

@[simp] theorem run_within {τ : Type} (part : σ → τ) (putBack : τ → σ → σ) (x : Attempt ε τ α)
    (s : σ) : (within part putBack x).run s =
      ⟨(x.run (part s)).value, putBack (x.run (part s)).state s, (x.run (part s)).reports⟩ := rfl

@[simp] theorem run_mapFault {ε' : Type} (f : ε → ε') (x : Attempt ε σ α) (s : σ) :
    (mapFault f x).run s = ⟨(x.run s).value.mapError f, (x.run s).state, (x.run s).reports⟩ := rfl

theorem run_bind_of_ok {x : Attempt ε σ α} {s : σ} {a : α} (h : (x.run s).value = .ok a)
    (f : α → Attempt ε σ β) :
    (x >>= f).run s =
      ⟨((f a).run (x.run s).state).value, ((f a).run (x.run s).state).state,
        (x.run s).reports ++ ((f a).run (x.run s).state).reports⟩ := by
  rw [ExceptT.run_bind, Effect.bind_apply, h]

theorem run_bind_of_error {x : Attempt ε σ α} {s : σ} {e : ε} (h : (x.run s).value = .error e)
    (f : α → Attempt ε σ β) : (x >>= f).run s = ⟨.error e, (x.run s).state, (x.run s).reports⟩ := by
  rw [ExceptT.run_bind, Effect.bind_apply, h]
  simp

theorem run_bind_of_run_eq {x : Attempt ε σ α} {s s' : σ} {a : α} {reports : List Report}
    (h : x.run s = ⟨.ok a, s', reports⟩) (f : α → Attempt ε σ β) :
    (x >>= f).run s =
      ⟨((f a).run s').value, ((f a).run s').state, reports ++ ((f a).run s').reports⟩ := by
  rw [ExceptT.run_bind, Effect.bind_apply, h]

@[simp] theorem run_read_bind (f : σ → Attempt ε σ α) (s : σ) :
    (read >>= f).run s = (f s).run s := by
  rw [run_bind_of_ok (a := s) rfl]
  rfl

@[simp] theorem run_change_bind (g : σ → σ) (f : Unit → Attempt ε σ α) (s : σ) :
    (change g >>= f).run s = (f ()).run (g s) := by
  rw [run_bind_of_ok (a := ()) rfl]
  rfl

end Attempt

end Phrasebook
