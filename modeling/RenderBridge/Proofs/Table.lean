import Mathlib.Tactic
import RenderBridge.Table
/-!
The keys of a table, each of which has one entry.

* `Table.keys`, `Table.values`: the keys and the values, newest first.
* `Table.entries_perm`: an entry, and the entries of the other keys.
* `Table.keys_insert_perm`, `insert_of_free`: what an insertion does where the key was there, and
  where it was free.
-/

set_option autoImplicit false

namespace RenderBridge.Table

variable {κ ν : Type}

/-- The keys, newest first. -/
def keys (t : Table κ ν) : List κ := t.entries.map (·.1)

/-- The values, newest first. -/
def values (t : Table κ ν) : List ν := t.entries.map (·.2)

lemma length_keys (t : Table κ ν) : t.keys.length = t.size := List.length_map _

lemma length_values (t : Table κ ν) : t.values.length = t.size := List.length_map _

variable [DecidableEq κ] {t : Table κ ν} {k : κ} {v : ν}

lemma mem_keys_iff : k ∈ t.keys ↔ ∃ v, t.get? k = some v := by
  rw [keys, get?, List.mem_map]
  constructor
  · rintro ⟨e, he, rfl⟩
    obtain ⟨found, hfound⟩ : ∃ found, t.entries.find? (fun e' => e'.1 = e.1) = some found :=
      Option.isSome_iff_exists.mp (List.find?_isSome.mpr ⟨e, he, by simp⟩)
    exact ⟨found.2, by rw [hfound]; rfl⟩
  · rintro ⟨v, hv⟩
    obtain ⟨e, hfound, -⟩ := Option.map_eq_some_iff.mp hv
    exact ⟨e, List.mem_of_find?_eq_some hfound, by simpa using List.find?_some hfound⟩

lemma not_mem_keys (hfree : t.get? k = none) : k ∉ t.keys := by
  rw [mem_keys_iff]
  rintro ⟨v, hv⟩
  cases hfree.symm.trans hv

lemma keys_erase (t : Table κ ν) (k : κ) : (t.erase k).keys = t.keys.filter (· ≠ k) := by
  rw [keys, keys, List.filter_map]
  rfl

lemma erase_of_free (hfree : k ∉ t.keys) : t.erase k = t := by
  have hentries : (t.erase k).entries = t.entries := by
    refine List.filter_eq_self.mpr fun e he => ?_
    have hne : e.1 ≠ k := fun heq => hfree (List.mem_map.mpr ⟨e, he, heq⟩)
    simpa using hne
  exact congrArg Table.mk hentries

lemma nodup_keys_erase (ht : t.keys.Nodup) (k : κ) : (t.erase k).keys.Nodup := by
  rw [keys_erase]
  exact ht.filter _

lemma nodup_keys_insert (ht : t.keys.Nodup) (k : κ) (v : ν) : (t.insert k v).keys.Nodup := by
  have hnot : k ∉ (t.erase k).keys := by
    rw [keys_erase]
    simp
  exact List.nodup_cons.mpr ⟨hnot, nodup_keys_erase ht k⟩

/-- The entry under a key, and those of the others. -/
lemma entries_perm (ht : t.keys.Nodup) (hk : t.get? k = some v) :
    t.entries.Perm ((k, v) :: (t.erase k).entries) := by
  obtain ⟨⟨k', v'⟩, hfound, rfl⟩ := Option.map_eq_some_iff.mp hk
  obtain rfl : k' = k := by simpa using List.find?_some hfound
  obtain ⟨before, after, hentries⟩ := List.append_of_mem (List.mem_of_find?_eq_some hfound)
  rw [keys, hentries, List.map_append, List.map_cons, List.nodup_middle, List.nodup_cons,
    ← List.map_append] at ht
  have herase : (t.erase k').entries = before ++ after := by
    rw [erase, hentries, List.filter_append, List.filter_cons_of_neg (by simp),
      ← List.filter_append]
    refine List.filter_eq_self.mpr fun e he => ?_
    have hne : e.1 ≠ k' := fun heq => ht.1 (List.mem_map.mpr ⟨e, he, heq⟩)
    simpa using hne
  rw [herase, hentries]
  exact List.perm_middle

lemma values_perm (ht : t.keys.Nodup) (hk : t.get? k = some v) :
    t.values.Perm (v :: (t.erase k).values) := (entries_perm ht hk).map _

lemma mem_values (hk : t.get? k = some v) : v ∈ t.values := by
  obtain ⟨e, hfound, rfl⟩ := Option.map_eq_some_iff.mp hk
  exact List.mem_map_of_mem (List.mem_of_find?_eq_some hfound)

/-- Replacing a value leaves the keys. -/
lemma keys_insert_perm (ht : t.keys.Nodup) (hk : k ∈ t.keys) (v : ν) :
    (t.insert k v).keys.Perm t.keys := by
  obtain ⟨w, hw⟩ := mem_keys_iff.mp hk
  have hkeys : t.keys.Perm (k :: (t.erase k).keys) := (entries_perm ht hw).map _
  exact hkeys.symm

/-- A new entry under a key that was free. -/
lemma insert_of_free (hfree : k ∉ t.keys) (v : ν) : t.insert k v = ⟨(k, v) :: t.entries⟩ := by
  rw [insert, erase_of_free hfree]

/-- A key that was free adds one entry. -/
lemma size_insert_of_free (hfree : t.get? k = none) (v : ν) :
    (t.insert k v).size = t.size + 1 := by
  rw [insert_of_free (not_mem_keys hfree)]
  rfl

end RenderBridge.Table
