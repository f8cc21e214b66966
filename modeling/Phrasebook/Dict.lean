import Phrasebook.Text.Basic

/-!
Finite maps that remember the order in which their keys came in. A later value for a known key
replaces the earlier one in its place.
-/

set_option autoImplicit false
set_option relaxedAutoImplicit false

namespace Phrasebook

def insertEntry {α β : Type} [DecidableEq α] (key : α) (value : β) : List (α × β) → List (α × β)
  | [] => [(key, value)]
  | (k, v) :: rest =>
    if k = key then (key, value) :: rest else (k, v) :: insertEntry key value rest

theorem mem_keys_insertEntry {α β : Type} [DecidableEq α] {key k : α} {value : β}
    {entries : List (α × β)} :
    k ∈ (insertEntry key value entries).map Prod.fst ↔ k = key ∨ k ∈ entries.map Prod.fst := by
  induction entries with
  | nil => simp [insertEntry]
  | cons entry rest ih =>
    obtain ⟨k', v'⟩ := entry
    by_cases h : k' = key
    · simp [insertEntry, h]
    · simp only [insertEntry, h, if_false, List.map_cons, List.mem_cons, ih]
      constructor
      · rintro (h1 | h1 | h1) <;> simp [h1]
      · rintro (h1 | h1 | h1) <;> simp [h1]

private theorem nodup_keys_insertEntry {α β : Type} [DecidableEq α] {key : α} {value : β}
    {entries : List (α × β)} (h : (entries.map Prod.fst).Nodup) :
    ((insertEntry key value entries).map Prod.fst).Nodup := by
  induction entries with
  | nil => simp [insertEntry]
  | cons entry rest ih =>
    obtain ⟨k', v'⟩ := entry
    simp only [List.map_cons, List.nodup_cons] at h
    by_cases hk : k' = key
    · subst hk
      simpa [insertEntry] using h
    · simp only [insertEntry, hk, if_false, List.map_cons, List.nodup_cons]
      refine ⟨?_, ih h.2⟩
      rw [mem_keys_insertEntry]
      rintro (h1 | h1)
      · exact hk h1
      · exact h.1 h1

/-- A finite map whose entries keep the order in which their keys came in. -/
structure Dict (α β : Type) where
  entries : List (α × β) := []
  nodup : (entries.map Prod.fst).Nodup := by simp

namespace Dict

variable {α β : Type}

instance : EmptyCollection (Dict α β) := ⟨⟨[], by simp⟩⟩

instance : Inhabited (Dict α β) := ⟨∅⟩

def keys (d : Dict α β) : List α := d.entries.map Prod.fst

def size (d : Dict α β) : Nat := d.entries.length

variable [DecidableEq α]

def get? (d : Dict α β) (key : α) : Option β := d.entries.lookup key

def contains (d : Dict α β) (key : α) : Bool := (d.get? key).isSome

def insert (d : Dict α β) (key : α) (value : β) : Dict α β where
  entries := insertEntry key value d.entries
  nodup := nodup_keys_insertEntry d.nodup

/-- The map built from a list of entries, of which a later one replaces an earlier one. -/
def ofList (entries : List (α × β)) : Dict α β :=
  entries.foldl (fun d entry => d.insert entry.1 entry.2) ∅

/-- The first map with every entry of the second written over it. -/
def update (d e : Dict α β) : Dict α β :=
  e.entries.foldl (fun d entry => d.insert entry.1 entry.2) d

def mapValues {γ : Type} (d : Dict α β) (f : β → γ) : Dict α γ where
  entries := d.entries.map fun entry => (entry.1, f entry.2)
  nodup := by
    have h : (d.entries.map fun entry => (entry.1, f entry.2)).map Prod.fst
        = d.entries.map Prod.fst := by simp [Function.comp_def]
    rw [h]
    exact d.nodup

def filter (d : Dict α β) (keep : α × β → Bool) : Dict α β where
  entries := d.entries.filter keep
  nodup := d.nodup.sublist (List.filter_sublist.map _)

private theorem lookup_filter (keep : α × β → Bool) {entries : List (α × β)}
    (h : (entries.map Prod.fst).Nodup) (key : α) :
    (entries.filter keep).lookup key =
      (entries.lookup key).filter fun value => keep (key, value) := by
  induction entries with
  | nil => rfl
  | cons entry entries ih =>
    obtain ⟨k, value⟩ := entry
    rw [List.map_cons, List.nodup_cons] at h
    have hrest := ih h.2
    by_cases hk : key = k
    · subst hk
      have habsent : entries.lookup key = none := by
        rw [List.lookup_eq_none_iff]
        intro other hother
        have hne : key ≠ other.1 := by
          rintro rfl
          exact h.1 (List.mem_map.mpr ⟨other, hother, rfl⟩)
        simpa using hne
      by_cases hkeep : keep (key, value)
      · simp [Option.filter, hkeep]
      · simp [Option.filter, hkeep, hrest, habsent]
    · by_cases hkeep : keep (k, value)
      · simp [hkeep, List.lookup_cons, beq_false_of_ne hk, hrest]
      · simp [hkeep, List.lookup_cons, beq_false_of_ne hk, hrest]

theorem get?_filter (d : Dict α β) (keep : α × β → Bool) (key : α) :
    (d.filter keep).get? key = (d.get? key).filter fun value => keep (key, value) :=
  lookup_filter keep d.nodup key

def erase (d : Dict α β) (key : α) : Dict α β := d.filter fun entry => !decide (entry.1 = key)

private theorem lookup_cons (k other : α) (v : β) (entries : List (α × β)) :
    ((k, v) :: entries).lookup other = if other = k then some v else entries.lookup other := by
  by_cases h : other = k
  · simp [h]
  · simp [List.lookup_cons, beq_false_of_ne h, h]

private theorem lookup_insertEntry (entries : List (α × β)) (key other : α) (value : β) :
    (insertEntry key value entries).lookup other =
      if other = key then some value else entries.lookup other := by
  induction entries with
  | nil => exact lookup_cons key other value []
  | cons entry entries ih =>
    obtain ⟨k, v⟩ := entry
    by_cases hk : k = key
    · subst hk
      simp only [insertEntry, if_true, lookup_cons]
      split <;> rfl
    · simp only [insertEntry, hk, if_false, lookup_cons, ih]
      by_cases hother : other = k
      · simp [hother, hk]
      · simp [hother]

theorem get?_insert (d : Dict α β) (key other : α) (value : β) :
    (d.insert key value).get? other = if other = key then some value else d.get? other :=
  lookup_insertEntry d.entries key other value

theorem mem_entries {d : Dict α β} {key : α} {value : β} :
    (key, value) ∈ d.entries ↔ d.get? key = some value := by
  obtain ⟨entries, hdistinct⟩ := d
  change (key, value) ∈ entries ↔ entries.lookup key = some value
  induction entries with
  | nil => simp
  | cons entry entries ih =>
    obtain ⟨k, v⟩ := entry
    rw [List.map_cons, List.nodup_cons] at hdistinct
    rw [List.mem_cons, ih hdistinct.2, lookup_cons]
    by_cases hk : key = k
    · subst hk
      have habsent : ¬ entries.lookup key = some value := by
        rw [← ih hdistinct.2]
        exact fun hmem => hdistinct.1 (List.mem_map.mpr ⟨_, hmem, rfl⟩)
      simp [habsent, eq_comm]
    · simp [hk]

theorem eq_empty_of_get? {d : Dict α β} (h : ∀ key, d.get? key = none) : d = ∅ := by
  obtain ⟨entries, hdistinct⟩ := d
  cases entries with
  | nil => rfl
  | cons entry entries =>
    have hfirst : get? ⟨entry :: entries, hdistinct⟩ entry.1 = some entry.2 :=
      mem_entries.mp List.mem_cons_self
    rw [h] at hfirst
    cases hfirst

theorem get?_insert_eq_some {d : Dict α β} {key other : α} {value v : β} :
    (d.insert key value).get? other = some v ↔
      (other = key ∧ value = v) ∨ (other ≠ key ∧ d.get? other = some v) := by
  rw [get?_insert]
  by_cases h : other = key
  · simp [h]
  · simp [h]

private theorem insertEntry_insertEntry (entries : List (α × β)) (key : α) (value value' : β) :
    insertEntry key value' (insertEntry key value entries) = insertEntry key value' entries := by
  induction entries with
  | nil => simp [insertEntry]
  | cons entry entries ih =>
    obtain ⟨k, v⟩ := entry
    by_cases hk : k = key
    · simp [insertEntry, hk]
    · simp [insertEntry, hk, ih]

@[simp] theorem insert_insert_self (d : Dict α β) (key : α) (value value' : β) :
    (d.insert key value).insert key value' = d.insert key value' := by
  simp only [insert, insertEntry_insertEntry]

@[simp] theorem get?_insert_self (d : Dict α β) (key : α) (value : β) :
    (d.insert key value).get? key = some value := by
  rw [get?_insert, if_pos rfl]

theorem insert_of_get? {d : Dict α β} {key : α} {value : β} (h : d.get? key = some value) :
    d.insert key value = d := by
  have general : ∀ entries : List (α × β), entries.lookup key = some value →
      insertEntry key value entries = entries := by
    intro entries hlookup
    induction entries with
    | nil => cases hlookup
    | cons entry entries ih =>
      obtain ⟨k, v⟩ := entry
      rw [lookup_cons] at hlookup
      by_cases hk : k = key
      · subst hk
        rw [if_pos rfl, Option.some_inj] at hlookup
        simp [insertEntry, hlookup]
      · rw [if_neg (Ne.symm hk)] at hlookup
        simp [insertEntry, hk, ih hlookup]
  obtain ⟨entries, hdistinct⟩ := d
  simp only [insert, general entries h]

theorem erase_of_get? {d : Dict α β} {key : α} (h : d.get? key = none) : d.erase key = d := by
  obtain ⟨entries, hdistinct⟩ := d
  have hkept : entries.filter (fun entry => !decide (entry.1 = key)) = entries := by
    rw [List.filter_eq_self]
    intro entry hentry
    have hne : key ≠ entry.1 := bne_iff_ne.mp (List.lookup_eq_none_iff.mp h entry hentry)
    simpa using hne.symm
  unfold erase filter
  congr 1

theorem get?_erase (d : Dict α β) (key other : α) :
    (d.erase key).get? other = if other = key then none else d.get? other := by
  rw [erase, get?_filter]
  by_cases h : other = key
  · cases d.get? other <;> simp [Option.filter, h]
  · cases d.get? other <;> simp [Option.filter, h]

end Dict

end Phrasebook
