import Mathlib.Data.List.Nodup
import Mathlib.Data.List.Perm.Basic
import Mathlib.Logic.Function.Basic

/-!
# Lists with keys

What is found under a key of a list of pairs, where no key comes twice.

* `lookup_eq_some_iff_mem` — what is listed under a key is found there.
* `lookup_eq_of_perm` — the order of a list does not matter.
* `lookup_set` — what stands at one place is replaced, and nothing else.
-/

namespace Hotplug

variable {α β : Type} {entries entries' : List (String × α)} {key other : String} {v : α}

theorem lookup_cons_eq_ite :
    ((other, v) :: entries).lookup key = if key = other then some v else entries.lookup key := by
  rw [List.lookup_cons]
  by_cases h : key = other
  · simp [h]
  · simp [h, beq_false_of_ne h]

theorem lookup_map_snd (f : α → β) (entries : List (String × α)) (key : String) :
    (entries.map fun (key, v) => (key, f v)).lookup key = (entries.lookup key).map f := by
  induction entries with
  | nil => rfl
  | cons e entries ih =>
    obtain ⟨other, v⟩ := e
    rw [List.map_cons, lookup_cons_eq_ite, lookup_cons_eq_ite, ih]
    split <;> rfl

theorem mem_of_lookup_eq_some (h : entries.lookup key = some v) : (key, v) ∈ entries := by
  obtain ⟨before, after, rfl, -⟩ := List.lookup_eq_some_iff.1 h
  simp

theorem lookup_eq_none_iff_not_mem : entries.lookup key = none ↔ key ∉ entries.map (·.1) := by
  rw [List.lookup_eq_none_iff]
  simp only [bne_iff_ne, List.mem_map, not_exists, not_and]
  exact forall₂_congr fun e _ => ne_comm

theorem lookup_eq_some_iff_mem (h : (entries.map (·.1)).Nodup) :
    entries.lookup key = some v ↔ (key, v) ∈ entries := by
  refine ⟨mem_of_lookup_eq_some, fun hmem => ?_⟩
  cases hlookup : entries.lookup key with
  | none => exact absurd (List.mem_map_of_mem hmem) (lookup_eq_none_iff_not_mem.1 hlookup)
  | some w =>
    have heq := List.inj_on_of_nodup_map h (mem_of_lookup_eq_some hlookup) hmem rfl
    rw [(Prod.mk.inj heq).2]

theorem lookup_eq_of_perm (h : (entries.map (·.1)).Nodup) (hperm : entries.Perm entries') :
    entries.lookup key = entries'.lookup key := by
  have h' : (entries'.map (·.1)).Nodup := (hperm.map _).nodup_iff.1 h
  ext v
  rw [lookup_eq_some_iff_mem h, lookup_eq_some_iff_mem h', hperm.mem_iff]

/-- What a list holds under its keys, after what stands at one place is replaced. -/
theorem lookup_set (h : (entries.map (·.1)).Nodup) {i : Nat}
    (hkey : (entries.map (·.1))[i]? = some key) (v : α) :
    (fun other => (entries.set i (key, v)).lookup other) =
      Function.update (fun other => entries.lookup other) key (some v) := by
  funext other
  rw [Function.update_apply]
  induction entries generalizing i with
  | nil => cases hkey
  | cons e entries ih =>
    obtain ⟨first, w⟩ := e
    obtain ⟨hnew, h⟩ := List.nodup_cons.1 h
    cases i with
    | zero =>
      obtain rfl : first = key := Option.some.inj hkey
      rw [List.set_cons_zero, lookup_cons_eq_ite, lookup_cons_eq_ite]
      split <;> rfl
    | succ i =>
      -- The key stands further on, so it is not the first one.
      have hne : key ≠ first := by
        rintro rfl
        exact hnew (List.mem_of_getElem? hkey)
      rw [List.set_cons_succ, lookup_cons_eq_ite, lookup_cons_eq_ite, ih h hkey]
      by_cases hother : other = key
      · subst hother
        rw [if_neg hne, if_pos rfl, if_pos rfl]
      · simp only [if_neg hother]

/-- Lists with the same keys in the same order are equal if the same is found under each key. -/
theorem eq_of_lookup_eq (h : (entries.map (·.1)).Nodup)
    (hkeys : entries.map (·.1) = entries'.map (·.1))
    (hlookup : ∀ key, entries.lookup key = entries'.lookup key) : entries = entries' := by
  induction entries generalizing entries' with
  | nil => exact (List.map_eq_nil_iff.1 hkeys.symm).symm
  | cons e entries ih =>
    cases entries' with
    | nil => cases hkeys
    | cons e' entries' =>
      obtain ⟨key, v⟩ := e
      obtain ⟨key', v'⟩ := e'
      obtain ⟨hkey, htail⟩ := List.cons.inj hkeys
      obtain rfl : key = key' := hkey
      obtain ⟨hnew, h⟩ := List.nodup_cons.1 h
      obtain rfl : v = v' := by simpa using hlookup key
      congr 1
      refine ih h htail fun other => ?_
      by_cases hother : other = key
      · subst hother
        rw [lookup_eq_none_iff_not_mem.2 hnew, lookup_eq_none_iff_not_mem.2 (htail ▸ hnew)]
      · simpa only [lookup_cons_eq_ite, if_neg hother] using hlookup other

end Hotplug
