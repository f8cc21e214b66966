import Mathlib.Data.List.Induction
import Phrasebook.Dict

/-!
Maps made of a list of entries: the keys stand in the order in which they are met first, and each has
the value that it is given last. Where no key is given twice, the entries are kept as they are.
-/

set_option autoImplicit false
set_option relaxedAutoImplicit false

namespace Phrasebook

variable {α β : Type} [DecidableEq α]

private theorem insertEntry_of_not_mem {key : α} {entries : List (α × β)}
    (h : key ∉ entries.map Prod.fst) (value : β) :
    insertEntry key value entries = entries ++ [(key, value)] := by
  induction entries with
  | nil => rfl
  | cons entry entries ih =>
    rw [List.map_cons, List.mem_cons, not_or] at h
    simp [insertEntry, Ne.symm h.1, ih h.2]

private theorem map_fst_insertEntry_of_mem {key : α} {entries : List (α × β)}
    (h : key ∈ entries.map Prod.fst) (value : β) :
    (insertEntry key value entries).map Prod.fst = entries.map Prod.fst := by
  induction entries with
  | nil => cases h
  | cons entry entries ih =>
    by_cases hkey : entry.1 = key
    · simp [insertEntry, hkey]
    · rw [List.map_cons, List.mem_cons] at h
      simp [insertEntry, hkey, ih (h.resolve_left (Ne.symm hkey))]

namespace Dict

private theorem keys_insert_of_mem {d : Dict α β} {key : α} (h : key ∈ d.keys) (value : β) :
    (d.insert key value).keys = d.keys :=
  map_fst_insertEntry_of_mem h value

private theorem entries_insert_of_not_mem {d : Dict α β} {key : α} (h : key ∉ d.keys) (value : β) :
    (d.insert key value).entries = d.entries ++ [(key, value)] :=
  insertEntry_of_not_mem h value

theorem get?_eq_of_perm {d e : Dict α β} (h : d.entries.Perm e.entries) (key : α) :
    d.get? key = e.get? key := by
  refine Option.ext fun value => ?_
  rw [← mem_entries, ← mem_entries]
  exact h.mem_iff

private theorem ofList_append_singleton (entries : List (α × β)) (entry : α × β) :
    ofList (entries ++ [entry]) = (ofList entries).insert entry.1 entry.2 := by
  simp only [ofList, List.foldl_append, List.foldl_cons, List.foldl_nil]

/-- A key has the value that it is given last. -/
theorem get?_ofList (entries : List (α × β)) (key : α) :
    (ofList entries).get? key = entries.reverse.lookup key := by
  induction entries using List.reverseRecOn with
  | nil => rfl
  | append_singleton entries entry ih =>
    rw [ofList_append_singleton, get?_insert, ih, List.reverse_append, List.reverse_singleton,
      List.singleton_append, List.lookup_cons]
    by_cases hkey : key = entry.1
    · simp [hkey]
    · rw [if_neg hkey, beq_false_of_ne hkey]

theorem keys_ofList (entries : List (α × β)) :
    (ofList entries).keys = (entries.map Prod.fst).eraseDups := by
  induction entries using List.reverseRecOn with
  | nil => rfl
  | append_singleton entries entry ih =>
    rw [ofList_append_singleton, List.map_append, List.eraseDups_append, ← ih, List.map_singleton]
    have hmem : entry.1 ∈ (ofList entries).keys ↔ entry.1 ∈ entries.map Prod.fst := by
      rw [ih, List.mem_eraseDups]
    by_cases hkey : entry.1 ∈ entries.map Prod.fst
    · rw [keys_insert_of_mem (hmem.mpr hkey)]
      simp [List.removeAll, hkey]
    · rw [keys, entries_insert_of_not_mem (mt hmem.mp hkey), List.map_append, ← keys]
      simp [List.removeAll, hkey, List.eraseDups_cons]

theorem entries_ofList_of_nodup {entries : List (α × β)} (h : (entries.map Prod.fst).Nodup) :
    (ofList entries).entries = entries := by
  induction entries using List.reverseRecOn with
  | nil => rfl
  | append_singleton entries entry ih =>
    rw [List.map_append, List.nodup_append] at h
    obtain ⟨hentries, -, hdisjoint⟩ := h
    have hnew : entry.1 ∉ (ofList entries).keys := by
      rw [keys, ih hentries]
      exact fun hmem => hdisjoint _ hmem _ (List.mem_singleton_self _) rfl
    rw [ofList_append_singleton, entries_insert_of_not_mem hnew, ih hentries]

theorem exists_getLast?_entries_ofList {entries : List (α × β)} (h : entries ≠ []) :
    ∃ key value, (ofList entries).entries.getLast? = some (key, value) ∧
      (entries.map Prod.fst).eraseDups.getLast? = some key ∧
      entries.reverse.lookup key = some value := by
  have hkeys : (ofList entries).entries ≠ [] := by
    obtain ⟨entry, hentry⟩ := List.exists_mem_of_ne_nil entries h
    have hkey : entry.1 ∈ (ofList entries).keys := by
      rw [keys_ofList, List.mem_eraseDups]
      exact List.mem_map_of_mem hentry
    rintro hnil
    rw [keys, hnil] at hkey
    cases hkey
  obtain ⟨⟨key, value⟩, hlast⟩ := Option.ne_none_iff_exists'.mp (mt List.getLast?_eq_none_iff.mp hkeys)
  refine ⟨key, value, hlast, ?_, ?_⟩
  · rw [← keys_ofList, keys, List.getLast?_map, hlast]
    rfl
  · rw [← get?_ofList, ← mem_entries]
    exact List.mem_of_getLast? hlast

end Dict

end Phrasebook
