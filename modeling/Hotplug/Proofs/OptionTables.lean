import Hotplug.Library.Options
import Hotplug.Proofs.Keyed
import Mathlib.Data.List.Sort

/-!
# What an option table holds

A table is known by the values of its names.

* `OptionTable.get?_eq_some` — a name has the value that is listed with it.
* `OptionTable.ext_get?` — tables in which each name has the same value are equal.
* `OptionTable.get?_ofList` — settings made one after the other leave the last one for each name.
-/

namespace Hotplug.OptionTable

variable {t u : OptionTable} {name : String} {x : OptionValue}

theorem get?_eq_some : t.get? name = some x ↔ (name, x) ∈ t.entries := by
  obtain ⟨entries, ordered⟩ := t
  unfold get?
  simp only [Option.map_eq_some_iff]
  constructor
  · rintro ⟨e, hfind, rfl⟩
    have hname : e.1 = name := by simpa using List.find?_some hfind
    exact hname ▸ List.mem_of_find?_eq_some hfind
  · intro hmem
    -- No entry before it has the name, since names increase.
    obtain ⟨before, after, rfl⟩ := List.append_of_mem hmem
    have hbefore : before.find? (·.1 = name) = none := by
      rw [List.find?_eq_none]
      intro e he
      have hlt : e.1 < name := (List.pairwise_append.1 ordered).2.2 e he _ List.mem_cons_self
      simpa using String.ne_of_lt hlt
    exact ⟨(name, x), by simp [List.find?_append, hbefore], rfl⟩

/-- Tables in which each name has the same value are equal. -/
theorem ext_get? (h : ∀ name, t.get? name = u.get? name) : t = u := by
  have hmem : ∀ e, e ∈ t.entries ↔ e ∈ u.entries := by
    rintro ⟨name, x⟩
    rw [← get?_eq_some, ← get?_eq_some, h]
  have hentries : t.entries = u.entries := by
    have : Std.Irrefl fun e e' : String × OptionValue => e.1 < e'.1 :=
      ⟨fun e => String.lt_irrefl e.1⟩
    have : Std.Antisymm fun e e' : String × OptionValue => e.1 < e'.1 :=
      ⟨fun e e' hlt hgt => absurd hgt (String.lt_asymm hlt)⟩
    exact t.ordered.eq_of_mem_iff u.ordered hmem
  obtain ⟨_, _⟩ := t
  obtain ⟨_, _⟩ := u
  simpa using hentries

theorem get?_foldl_insert (settings : List (String × OptionValue)) (t : OptionTable) :
    (settings.foldl (fun t (name, value) => t.insert name value) t).get? name =
      (settings.reverse.lookup name).or (t.get? name) := by
  induction settings generalizing t with
  | nil => rfl
  | cons e settings ih =>
    rw [List.foldl_cons, ih, get?_insert, List.reverse_cons, List.lookup_append, Option.or_assoc,
      lookup_cons_eq_ite]
    by_cases h : name = e.1 <;> simp [h]

/-- Settings made one after the other leave the last one for each name. -/
theorem get?_ofList (settings : List (String × OptionValue)) :
    (ofList settings).get? name = settings.reverse.lookup name := by
  rw [ofList, get?_foldl_insert]
  exact Option.or_none

/-- Of settings with different names all are left. -/
theorem get?_ofList_eq_some {settings : List (String × OptionValue)}
    (h : (settings.map (·.1)).Nodup) :
    (ofList settings).get? name = some x ↔ (name, x) ∈ settings := by
  rw [get?_ofList, lookup_eq_some_iff_mem, List.mem_reverse]
  rwa [List.map_reverse, List.nodup_reverse]

end Hotplug.OptionTable
