import Phrasebook.Loader.Basic
import Phrasebook.Proofs.Loader.Files

/-!
Loading tells of itself in the reports only; it publishes no event.
-/

set_option autoImplicit false
set_option relaxedAutoImplicit false

namespace Phrasebook

/-- Whether a report tells that an event is being published. -/
def Report.isPublication : Report → Bool
  | publishingEvent .. => true
  | _ => false

/-- Whatever comes of it, a computation reports of no publication. -/
def Attempt.Quiet {ε σ α : Type} (x : Attempt ε σ α) : Prop :=
  ∀ s, ∀ r ∈ (x.run s).reports, r.isPublication = false

namespace Attempt.Quiet

variable {ε σ τ α β : Type}

theorem pure (a : α) : Quiet (Pure.pure a : Attempt ε σ α) := nofun

theorem throw (e : ε) : Quiet (MonadExcept.throw e : Attempt ε σ α) := nofun

theorem ofExcept (result : Except ε α) : Quiet (Attempt.ofExcept result : Attempt ε σ α) := nofun

theorem read : Quiet (Attempt.read : Attempt ε σ σ) := nofun

theorem change (f : σ → σ) : Quiet (Attempt.change f : Attempt ε σ Unit) := nofun

theorem report {r : Report} (h : r.isPublication = false) :
    Quiet (Attempt.report r : Attempt ε σ Unit) := by
  intro s r' hr'
  rw [Attempt.run_report] at hr'
  exact List.mem_singleton.mp hr' ▸ h

theorem bind {x : Attempt ε σ α} {f : α → Attempt ε σ β} (hx : Quiet x) (hf : ∀ a, Quiet (f a)) :
    Quiet (x >>= f) := by
  intro s r hr
  cases hvalue : (x.run s).value with
  | ok a =>
    rw [Attempt.run_bind_of_ok hvalue] at hr
    rcases List.mem_append.mp hr with hr | hr
    · exact hx s r hr
    · exact hf a _ r hr
  | error e =>
    rw [Attempt.run_bind_of_error hvalue] at hr
    exact hx s r hr

theorem forM {f : α → Attempt ε σ PUnit} (h : ∀ a, Quiet (f a)) (as : List α) :
    Quiet (as.forM f) := by
  induction as with
  | nil => exact .pure _
  | cons a as ih => exact (h a).bind fun _ => ih

theorem building {x : Attempt ε τ Unit} (hx : Quiet x) (first : τ) :
    Quiet (Attempt.building first x : Attempt ε σ τ) := fun _ => hx first

theorem within {x : Attempt ε τ α} (hx : Quiet x) (part : σ → τ) (putBack : τ → σ → σ) :
    Quiet (Attempt.within part putBack x) := fun s => hx (part s)

end Attempt.Quiet

open Attempt (Quiet)

namespace Document

private theorem quiet_addStrings (file : Text) (part : Value) : Quiet (addStrings file part) := by
  unfold addStrings
  split
  · exact (Quiet.ofExcept _).bind fun _ => Quiet.forM (fun _ => Quiet.change _) _
  · split
    · exact .pure _
    · exact .report rfl

private theorem quiet_addRow (file : Text) (name value : Value) : Quiet (addRow file name value) := by
  unfold addRow
  split
  · exact (Quiet.ofExcept _).bind fun _ => (Quiet.ofExcept _).bind fun _ => .change _
  · exact (Quiet.ofExcept _).bind fun _ => .change _
  · exact (Quiet.ofExcept _).bind fun _ => .report rfl

private theorem quiet_addTables (file : Text) (part : Value) : Quiet (addTables file part) := by
  unfold addTables
  split
  · exact Quiet.forM (fun _ => quiet_addRow _ _ _) _
  · split
    · exact .pure _
    · exact .report rfl

private theorem quiet_addTo (file : Text) (document : Value) : Quiet (addTo file document) := by
  unfold addTo
  split
  · exact (quiet_addStrings _ _).bind fun _ => quiet_addTables _ _
  · split
    · exact .pure _
    · exact .report rfl

end Document

namespace FileLoader

private theorem quiet_addFile (directory : Text) (disk : Directory) (name : Text) :
    Quiet (addFile directory disk name) := by
  intro c
  cases hread : ((disk.get? name).getD .dangling).read (Directory.pathOf directory name) with
  | ok document =>
    rw [addFile_run_of_ok hread]
    exact Document.quiet_addTo _ document c
  | error fault =>
    unfold addFile
    simp only [hread]
    cases fault with
    | unparsable _ => exact ((Quiet.report rfl).bind fun _ => .throw _) c
    | _ => exact Quiet.throw _ c

private theorem quiet_addFiles (directory : Text) (disk : Directory) (names : List Text) :
    Quiet (addFiles directory disk names) := Quiet.forM (quiet_addFile directory disk) names

private theorem quiet_load [Globbing] (disk : Directory) (locale : Locale) : Quiet (load disk locale) := by
  have hread : Quiet (readFiles disk locale) := by
    refine Quiet.read.bind fun loader => (Quiet.change _).bind fun _ => ?_
    extract_lets names blank merge
    have hmerge : ∀ u, Quiet (merge u) := by
      intro u
      refine (Quiet.building (quiet_addFiles _ _ _) blank).bind fun catalog => ?_
      exact (Quiet.report rfl).bind fun _ => .pure catalog
    split
    · exact (Quiet.throw _).bind hmerge
    · exact hmerge ()
  refine Quiet.read.bind fun loader => ?_
  split
  · exact (Quiet.report rfl).bind fun _ => .pure _
  · refine hread.bind fun catalog => ?_
    split
    · exact (Quiet.change _).bind fun _ => .pure _
    · exact .pure _

end FileLoader

theorem Loader.quiet_load [Globbing] (disk : Directory) (locale : Locale) :
    Quiet (Loader.load disk locale) := by
  intro loader
  cases loader with
  | files loader => exact FileLoader.quiet_load disk locale loader
  | memory loader => exact nofun

end Phrasebook
