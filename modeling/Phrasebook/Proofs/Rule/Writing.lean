import Phrasebook.Proofs.Text.Cutting
import Phrasebook.Rule.Call

/-!
Calls as they are written: what is read from a written call, and by which rules.
-/

set_option autoImplicit false
set_option relaxedAutoImplicit false

namespace Phrasebook.Rule.Call

variable {name argument first : Text} {more : List Text}

theorem getLast?_forms (call : Call) : call.forms.getLast? = some call.lastForm := by
  rw [forms, List.getLast?_cons, lastForm, List.getLastD_eq_getLast?]

theorem parse?_write (hargument : '|' ∉ argument) (hforms : ∀ form ∈ first :: more, '|' ∉ form) :
    parse? name (write name argument first more) = some ⟨argument.strip, first, more⟩ := by
  have hwritten : write name argument first more =
      (name ++ [':']) ++ Text.join '|' argument (first :: more) := by simp [write]
  have hpieces := Text.pieces_join hargument hforms
  simp only [parse?, hwritten, Text.dropStart?_append, hpieces]

/-- What is read as a call has been written as one, and by no other way than this. -/
theorem parse?_eq_some_iff {content : Text} {call : Call} :
    parse? name content = some call ↔
      ∃ argument, '|' ∉ argument ∧ (∀ form ∈ call.forms, '|' ∉ form) ∧
        call.argument = argument.strip ∧ content = write name argument call.first call.more := by
  constructor
  · intro h
    unfold parse? at h
    split at h
    · cases h
    · next written hwritten =>
      obtain ⟨hargument, hforms, hjoin⟩ := Text.join_pieces '|' written
      split at h
      · cases h
      · next argument first more hpieces =>
        rw [hpieces] at hargument hforms hjoin
        obtain rfl := Option.some.inj h
        refine ⟨argument, hargument, hforms, rfl, ?_⟩
        rw [Text.eq_append_of_dropStart? hwritten, ← hjoin, write, List.append_assoc]
        rfl
  · rintro ⟨argument, hargument, hforms, hstrip, rfl⟩
    rw [parse?_write hargument hforms, ← hstrip]

/-- A content is a call as it is written: the name and a colon, then the argument and at least one
form, with a bar in front of every form and no other bar after the colon. -/
structure Written (name argument : Text) (forms : List Text) (content : Text) : Prop where
  someForm : forms ≠ []
  argumentPlain : '|' ∉ argument
  formsPlain : ∀ form ∈ forms, '|' ∉ form
  spelling : content = name ++ [':'] ++ argument ++ ['|'] ++ ['|'].intercalate forms

private theorem write_eq_append (name argument first : Text) (more : List Text) :
    write name argument first more =
      name ++ [':'] ++ argument ++ ['|'] ++ ['|'].intercalate (first :: more) := by
  rw [write, Text.join, Text.join_eq_intercalate]
  simp

private theorem Written.parse?_eq {forms : List Text} {content : Text}
    (h : Written name argument forms content) :
    ∃ call, parse? name content = some call ∧ Text.TrimsTo argument call.argument ∧
      call.forms = forms := by
  obtain ⟨hsome, hargument, hforms, rfl⟩ := h
  obtain ⟨first, more, rfl⟩ := List.exists_cons_of_ne_nil hsome
  refine ⟨⟨argument.strip, first, more⟩, ?_, Text.trimsTo_strip argument, rfl⟩
  rw [← write_eq_append, parse?_write hargument hforms]

private theorem exists_written_of_parse? {content : Text} {call : Call}
    (h : parse? name content = some call) :
    ∃ argument, Text.TrimsTo argument call.argument ∧ Written name argument call.forms content := by
  obtain ⟨argument, hargument, hforms, hstrip, rfl⟩ := parse?_eq_some_iff.mp h
  have hwritten := write_eq_append name argument call.first call.more
  exact ⟨argument, Text.strip_eq_iff.mp hstrip.symm,
    List.cons_ne_nil call.first call.more, hargument, hforms, hwritten⟩

/-- Reading a call inverts writing it: from every written call come its argument without the white
space around it and exactly its forms, blank and empty ones too; whatever is read as a call has been
written as one with these forms; and every other content is no call. -/
theorem parse?_inverts_writing (name : Text) :
    (∀ argument forms content, Written name argument forms content →
      ∃ call, parse? name content = some call ∧ Text.TrimsTo argument call.argument ∧
        call.forms = forms) ∧
    (∀ content call, parse? name content = some call →
      ∃ argument, Text.TrimsTo argument call.argument ∧
        Written name argument call.forms content) ∧
    ∀ content, (∀ argument forms, ¬ Written name argument forms content) →
      parse? name content = none := by
  refine ⟨?_, ?_, ?_⟩
  · intro argument forms content h
    exact h.parse?_eq
  · intro content call h
    exact exists_written_of_parse? h
  · intro content hnone
    rw [Option.eq_none_iff_forall_ne_some]
    intro call hcall
    obtain ⟨argument, -, hwritten⟩ := exists_written_of_parse? hcall
    exact hnone argument call.forms hwritten

theorem parse?_inverts_writing_blankForms :
    (∃ call, parse? "index" "index: 1\t|| |b " = some call ∧ Text.TrimsTo " 1\t" call.argument ∧
      call.forms = ["", " ", "b "].map String.toList) ∧
    parse? "index" "index:1" = none := by
  obtain ⟨hread, -, hother⟩ := parse?_inverts_writing "index"
  refine ⟨hread _ _ _ ⟨by decide, by decide, by decide, by decide⟩, hother _ ?_⟩
  intro argument forms hwritten
  have hbar : '|' ∈ ("index:1" : Text) := by
    rw [hwritten.spelling]
    simp
  revert hbar
  decide

theorem bar_of_parse? {content : Text} {call : Call} (h : parse? name content = some call) :
    '|' ∈ content ∧ '|' ∉ call.argument ∧ ∀ form ∈ call.forms, '|' ∉ form := by
  obtain ⟨argument, hargument, hforms, hstrip, rfl⟩ := parse?_eq_some_iff.mp h
  refine ⟨by simp [write, Text.join], ?_, hforms⟩
  rw [hstrip]
  exact mt Text.mem_of_mem_strip hargument

theorem parse?_write_of_ne {other : Text} (hname : ':' ∉ name) (hother : ':' ∉ other)
    (hne : other ≠ name) (argument first : Text) (more : List Text) :
    parse? name (write other argument first more) = none := by
  have hstart : Text.dropStart? (name ++ [':']) (write other argument first more) = none := by
    rw [Option.eq_none_iff_forall_ne_some]
    intro rest hrest
    -- both names would be what stands before the first colon
    have hwritten : Text.breakAt ':' (write other argument first more) =
        (other, some (Text.join '|' argument (first :: more))) :=
      Text.breakAt_eq_some_iff.mpr ⟨hother, rfl⟩
    have hcalled : Text.breakAt ':' (write other argument first more) = (name, some rest) :=
      Text.breakAt_eq_some_iff.mpr ⟨hname, by simp [Text.eq_append_of_dropStart? hrest]⟩
    exact hne (Prod.mk.inj (hwritten.symm.trans hcalled)).1
  rw [parse?, hstart]

theorem not_mem_write {c : Char} (hcolon : c ≠ ':') (hbar : c ≠ '|') (hname : c ∉ name)
    (hpieces : ∀ piece ∈ argument :: first :: more, c ∉ piece) :
    c ∉ write name argument first more := by
  rw [write, List.mem_append, List.mem_cons, not_or, not_or]
  refine ⟨hname, hcolon, fun h => ?_⟩
  obtain heq | ⟨piece, hpiece, hc⟩ := Text.mem_join h
  · exact hbar heq
  · exact hpieces piece hpiece hc

theorem ne_write {t : Text} (h : '|' ∉ t) (name argument first : Text) (more : List Text) :
    t ≠ write name argument first more := by
  rintro rfl
  simp [write, Text.join] at h

end Phrasebook.Rule.Call
