import Phrasebook.Proofs.Dict.Order

/-!
Maps merged entry by entry, where a value is combined with the one that is there before. If combining is
associative, it does not matter whether an entry is merged into the second map first or into both maps
together, and not even the order of the keys can tell.
-/

set_option autoImplicit false
set_option relaxedAutoImplicit false

namespace Phrasebook

variable {α β : Type} [DecidableEq α]

private theorem insertEntry_comm {key key' : α} {entries : List (α × β)}
    (hkey : key ∈ entries.map Prod.fst) (hne : key ≠ key') (value value' : β) :
    insertEntry key' value' (insertEntry key value entries) =
      insertEntry key value (insertEntry key' value' entries) := by
  induction entries with
  | nil => cases hkey
  | cons entry entries ih =>
    by_cases hfirst : entry.1 = key
    · simp [insertEntry, hfirst, hne]
    · rw [List.map_cons, List.mem_cons] at hkey
      have hrest := hkey.resolve_left (Ne.symm hfirst)
      by_cases hsecond : entry.1 = key'
      · simp [insertEntry, hsecond, Ne.symm hne]
      · simp [insertEntry, hfirst, hsecond, ih hrest]

namespace Dict

private theorem insert_comm_of_mem {d : Dict α β} {key key' : α} (hkey : key ∈ d.keys) (hne : key ≠ key')
    (value value' : β) :
    (d.insert key value).insert key' value' = (d.insert key' value').insert key value := by
  unfold insert
  congr 1
  exact insertEntry_comm hkey hne value value'

section

variable (combine : Option β → β → β)

def combineAt (d : Dict α β) (key : α) (value : β) : Dict α β :=
  d.insert key (combine (d.get? key) value)

def combineAll (d : Dict α β) (entries : List (α × β)) : Dict α β :=
  entries.foldl (fun d entry => d.combineAt combine entry.1 entry.2) d

/-- The first map with every entry of the second merged into it. -/
def mergeWith (d e : Dict α β) : Dict α β := d.combineAll combine e.entries

/-- A value that is the first for its key is taken as it is, and it does not matter which two of three
values are combined first. -/
structure Associative : Prop where
  first : ∀ value, combine none value = value
  assoc : ∀ before value value',
    combine before (combine (some value) value') = combine (some (combine before value)) value'

end

variable {combine : Option β → β → β}

private theorem combineAt_combineAt (h : Associative combine) (d : Dict α β) (key : α) (value value' : β) :
    (d.combineAt combine key value).combineAt combine key value' =
      d.combineAt combine key (combine (some value) value') := by
  rw [combineAt, combineAt, combineAt, insert_insert_self, get?_insert_self, h.assoc]

private theorem combineAt_comm_of_mem {d : Dict α β} {key key' : α} (hkey : key ∈ d.keys) (hne : key ≠ key')
    (value value' : β) :
    (d.combineAt combine key value).combineAt combine key' value' =
      (d.combineAt combine key' value').combineAt combine key value := by
  simp only [combineAt, get?_insert, if_neg hne, if_neg (Ne.symm hne)]
  exact insert_comm_of_mem hkey hne _ _

private theorem mem_keys_combineAt {d : Dict α β} {key key' : α} {value : β} :
    key ∈ (d.combineAt combine key' value).keys ↔ key = key' ∨ key ∈ d.keys :=
  mem_keys_insertEntry

private theorem combineAll_combineAt {entries : List (α × β)} {d : Dict α β} {key : α} (hkey : key ∈ d.keys)
    (hentries : key ∉ entries.map Prod.fst) (value : β) :
    (d.combineAt combine key value).combineAll combine entries =
      (d.combineAll combine entries).combineAt combine key value := by
  induction entries generalizing d with
  | nil => rfl
  | cons entry entries ih =>
    rw [List.map_cons, List.mem_cons, not_or] at hentries
    have hthere : key ∈ (d.combineAt combine entry.1 entry.2).keys :=
      mem_keys_combineAt.mpr (Or.inr hkey)
    calc (d.combineAt combine key value).combineAll combine (entry :: entries)
        = ((d.combineAt combine entry.1 entry.2).combineAt combine key value).combineAll combine
            entries := by
          rw [← combineAt_comm_of_mem hkey hentries.1]
          rfl
      _ = (d.combineAll combine (entry :: entries)).combineAt combine key value :=
          ih hthere hentries.2

private theorem combineAll_insertEntry (h : Associative combine) {entries : List (α × β)}
    (hnodup : (entries.map Prod.fst).Nodup) (d : Dict α β) (key : α) (value : β) :
    d.combineAll combine (insertEntry key (combine (entries.lookup key) value) entries) =
      (d.combineAll combine entries).combineAt combine key value := by
  induction entries generalizing d with
  | nil =>
    rw [List.lookup_nil, h.first]
    rfl
  | cons entry entries ih =>
    obtain ⟨key', value'⟩ := entry
    rw [List.map_cons, List.nodup_cons] at hnodup
    by_cases hkey : key' = key
    · subst hkey
      have hthere : key' ∈ (d.combineAt combine key' value').keys :=
        mem_keys_combineAt.mpr (Or.inl rfl)
      rw [List.lookup_cons_self, insertEntry, if_pos rfl]
      calc (d.combineAt combine key' (combine (some value') value)).combineAll combine entries
          = ((d.combineAt combine key' value').combineAt combine key' value).combineAll combine
              entries := by rw [combineAt_combineAt h]
        _ = ((d.combineAt combine key' value').combineAll combine entries).combineAt combine key'
              value := combineAll_combineAt hthere hnodup.1 value
    · rw [List.lookup_cons, beq_false_of_ne (Ne.symm hkey), insertEntry, if_neg hkey]
      exact ih hnodup.2 (d.combineAt combine key' value')

/-- What is merged into the second map comes out the same when it is merged into both together. -/
theorem mergeWith_combineAt (h : Associative combine) (d e : Dict α β) (key : α) (value : β) :
    d.mergeWith combine (e.combineAt combine key value) =
      (d.mergeWith combine e).combineAt combine key value :=
  combineAll_insertEntry h e.nodup d key value

theorem mergeWith_assoc (h : Associative combine) (d e f : Dict α β) :
    d.mergeWith combine (e.mergeWith combine f) =
      (d.mergeWith combine e).mergeWith combine f := by
  have general : ∀ entries : List (α × β), d.mergeWith combine (e.combineAll combine entries) =
      (d.mergeWith combine e).combineAll combine entries := by
    intro entries
    induction entries using List.reverseRecOn with
    | nil => rfl
    | append_singleton entries entry ih =>
      simp only [combineAll, List.foldl_append, List.foldl_cons, List.foldl_nil] at ih ⊢
      rw [mergeWith_combineAt h, ih]
  exact general f.entries

/-! ## What a merged map has -/

private theorem get?_combineAll {entries : List (α × β)} (hnodup : (entries.map Prod.fst).Nodup)
    (d : Dict α β) (key : α) :
    (d.combineAll combine entries).get? key =
      ((entries.lookup key).map (combine (d.get? key))).or (d.get? key) := by
  induction entries generalizing d with
  | nil => rfl
  | cons entry entries ih =>
    obtain ⟨key', value⟩ := entry
    rw [List.map_cons, List.nodup_cons] at hnodup
    have hrest : (d.combineAll combine ((key', value) :: entries)).get? key =
        ((entries.lookup key).map (combine ((d.combineAt combine key' value).get? key))).or
          ((d.combineAt combine key' value).get? key) :=
      ih hnodup.2 (d.combineAt combine key' value)
    rw [hrest, combineAt, get?_insert, List.lookup_cons]
    by_cases hkey : key = key'
    · -- the key does not come again
      subst hkey
      have habsent : entries.lookup key = none := by
        rw [List.lookup_eq_none_iff]
        intro other hother
        have hne : key ≠ other.1 := by
          rintro rfl
          exact hnodup.1 (List.mem_map.mpr ⟨other, hother, rfl⟩)
        simpa using hne
      simp [habsent]
    · rw [if_neg hkey, beq_false_of_ne hkey]

theorem get?_mergeWith (d e : Dict α β) (key : α) :
    (d.mergeWith combine e).get? key =
      ((e.get? key).map (combine (d.get? key))).or (d.get? key) :=
  get?_combineAll e.nodup d key

theorem mergeWith_of_absorbed {d e : Dict α β}
    (h : ∀ key value, e.get? key = some value →
      ∃ before, d.get? key = some before ∧ combine (some before) value = before) :
    d.mergeWith combine e = d := by
  have general : ∀ entries : List (α × β), entries ⊆ e.entries →
      d.combineAll combine entries = d := by
    intro entries hsub
    induction entries with
    | nil => rfl
    | cons entry entries ih =>
      rw [List.cons_subset] at hsub
      obtain ⟨before, hbefore, hcombine⟩ := h entry.1 entry.2 (mem_entries.mp hsub.1)
      have hstep : d.combineAt combine entry.1 entry.2 = d := by
        rw [combineAt, hbefore, hcombine]
        exact insert_of_get? hbefore
      calc d.combineAll combine (entry :: entries)
          = (d.combineAt combine entry.1 entry.2).combineAll combine entries := rfl
        _ = d.combineAll combine entries := by rw [hstep]
        _ = d := ih hsub.2
  exact general e.entries (List.Subset.refl _)

/-! ## The later value wins -/

private theorem associative_overwrite : Associative (fun (_ : Option β) (value : β) => value) where
  first _ := rfl
  assoc _ _ _ := rfl

theorem update_insert (d e : Dict α β) (key : α) (value : β) :
    d.update (e.insert key value) = (d.update e).insert key value :=
  mergeWith_combineAt associative_overwrite d e key value

theorem update_assoc (d e f : Dict α β) : d.update (e.update f) = (d.update e).update f :=
  mergeWith_assoc associative_overwrite d e f

private theorem update_eq_mergeWith (d e : Dict α β) :
    d.update e = d.mergeWith (fun _ value => value) e := rfl

theorem get?_update (d e : Dict α β) (key : α) :
    (d.update e).get? key = (e.get? key).or (d.get? key) := by
  rw [update_eq_mergeWith, get?_mergeWith, Option.map_id']

theorem update_self (d : Dict α β) : d.update d = d := by
  rw [update_eq_mergeWith]
  exact mergeWith_of_absorbed fun _ value hvalue => ⟨value, hvalue, rfl⟩

private theorem empty_update (d : Dict α β) : (∅ : Dict α β).update d = d := by
  have hentries : ((∅ : Dict α β).update d).entries = d.entries := entries_ofList_of_nodup d.nodup
  cases hd : (∅ : Dict α β).update d with
  | mk entries hnodup =>
    rw [hd] at hentries
    cases d
    cases hentries
    rfl

theorem associative_update {γ : Type} [DecidableEq γ] :
    Associative (fun (before : Option (Dict γ β)) (value : Dict γ β) =>
      (before.getD ∅).update value) where
  first := empty_update
  assoc before value value' := update_assoc (before.getD ∅) value value'

end Dict

end Phrasebook
