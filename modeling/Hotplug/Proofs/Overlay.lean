import Hotplug.Proofs.Keyed
import Hotplug.Settings.Field
import Mathlib.Logic.Function.Basic

/-!
# Tables laid over a section

A section is seen as rows with names.  What a table makes of it can be told from the rows and the
table alone: each row that the table has a value for takes it, and the others stay as they are.
Neither the order of the table nor its other names matter.

* `Overlaid` — some rows with a table laid over them.
* `Field.Fills` — a field puts a value into the row of its name, or the value does not fit.
* `Field.readTable_eq_ok` — reading a table lays it over the rows of a section.
-/

namespace Hotplug

variable {σ δ : Type}

theorem bind_eq_ok {ε α β : Type} {x : Except ε α} {f : α → Except ε β} {b : β} :
    x >>= f = .ok b ↔ ∃ a, x = .ok a ∧ f a = .ok b := by
  cases x with
  | error e => simp [bind, Except.bind]
  | ok a => simp [bind, Except.bind]

/-! ## Rows -/

/-- The rows `row'` are the rows `row` with a table laid over them; `gives` says what a value of
the table makes of the row with its name. -/
structure Overlaid (names : List String) (gives : String → Toml.Value → δ → Prop)
    (entries : List (String × Toml.Value)) (row row' : String → Option δ) : Prop where
  given : ∀ name ∈ names, ∀ v, entries.lookup name = some v →
    ∃ x, row' name = some x ∧ gives name v x
  kept : ∀ name, (name ∈ names → entries.lookup name = none) → row' name = row name

namespace Overlaid

variable {names : List String} {gives : String → Toml.Value → δ → Prop}
  {entries : List (String × Toml.Value)} {row row' : String → Option δ} {name : String}
  {v : Toml.Value}

theorem nil_iff : Overlaid names gives [] row row' ↔ row' = row := by
  constructor
  · intro h
    funext name
    exact h.kept name fun _ => rfl
  · rintro rfl
    exact ⟨by simp, fun _ _ => rfl⟩

/-- A name that no row has does not matter. -/
theorem cons_of_not_mem (hname : name ∉ names) :
    Overlaid names gives ((name, v) :: entries) row row' ↔
      Overlaid names gives entries row row' := by
  have hlookup : ∀ key ∈ names, ((name, v) :: entries).lookup key = entries.lookup key := by
    intro key hkey
    rw [lookup_cons_eq_ite, if_neg]
    rintro rfl
    exact hname hkey
  constructor
  · intro h
    exact ⟨fun key hkey w hw => h.given key hkey w ((hlookup key hkey).trans hw),
      fun key hnone => h.kept key fun hkey => (hlookup key hkey).trans (hnone hkey)⟩
  · intro h
    exact ⟨fun key hkey w hw => h.given key hkey w ((hlookup key hkey).symm.trans hw),
      fun key hnone => h.kept key fun hkey => (hlookup key hkey).symm.trans (hnone hkey)⟩

/-- A value is laid over the row of its name, once. -/
theorem cons_iff (hmem : name ∈ names) (hnew : name ∉ entries.map (·.1)) :
    Overlaid names gives ((name, v) :: entries) row row' ↔
      ∃ x, gives name v x ∧
        Overlaid names gives entries (Function.update row name (some x)) row' := by
  have hnone := lookup_eq_none_iff_not_mem.2 hnew
  constructor
  · intro h
    obtain ⟨x, hx, hgives⟩ := h.given name hmem v (by simp)
    refine ⟨x, hgives, fun key hkey w hw => ?_, fun key hkept => ?_⟩
    · refine h.given key hkey w ?_
      rw [lookup_cons_eq_ite, if_neg, hw]
      rintro rfl
      rw [hnone] at hw
      cases hw
    · by_cases hkey : key = name
      · rw [hkey, hx, Function.update_self]
      · rw [Function.update_of_ne hkey]
        refine h.kept key fun hmem => ?_
        rw [lookup_cons_eq_ite, if_neg hkey, hkept hmem]
  · rintro ⟨x, hgives, h⟩
    have hrow : row' name = some x := by
      rw [h.kept name fun _ => hnone, Function.update_self]
    refine ⟨fun key hkey w hw => ?_, fun key hkept => ?_⟩
    · rw [lookup_cons_eq_ite] at hw
      split at hw
      · next heq =>
        obtain rfl := Option.some.inj hw
        exact ⟨x, heq ▸ hrow, heq ▸ hgives⟩
      · exact h.given key hkey w hw
    · have hne : key ≠ name := by
        rintro rfl
        simpa using hkept hmem
      rw [← Function.update_of_ne hne (some x) row]
      refine h.kept key fun hkey => ?_
      have hlookup := hkept hkey
      rwa [lookup_cons_eq_ite, if_neg hne] at hlookup

/-- A table can be laid over rows if each of its values gives something for the row with its
name. -/
theorem exists_iff : (∃ row', Overlaid names gives entries row row') ↔
    ∀ name ∈ names, ∀ v, entries.lookup name = some v → ∃ x, gives name v x := by
  classical
  constructor
  · rintro ⟨row', h⟩ name hname v hv
    obtain ⟨x, -, hgives⟩ := h.given name hname v hv
    exact ⟨x, hgives⟩
  · intro h
    have hgiven : ∀ name, ∃ x, ∀ v, name ∈ names → entries.lookup name = some v →
        ∃ y, x = some y ∧ gives name v y := by
      intro name
      cases hlookup : entries.lookup name with
      | none => exact ⟨none, nofun⟩
      | some v =>
        by_cases hname : name ∈ names
        · obtain ⟨y, hgives⟩ := h name hname v hlookup
          exact ⟨some y, by rintro _ - ⟨⟩; exact ⟨y, rfl, hgives⟩⟩
        · exact ⟨none, fun _ hmem => absurd hmem hname⟩
    -- Rows that the table gives nothing for keep what they hold, so `given` may be anything there.
    choose given hgiven using hgiven
    refine ⟨fun name => if name ∈ names ∧ entries.lookup name ≠ none then given name else row name,
      fun name hname v hv => ?_, fun name hkept => ?_⟩
    · obtain ⟨y, hy, hgives⟩ := hgiven name v hname hv
      exact ⟨y, by simp only [hname, hv, ne_eq, reduceCtorEq, not_false_iff, and_self, if_true, hy],
        hgives⟩
    · exact if_neg fun hmem => hmem.2 (hkept hmem.1)

end Overlaid

/-! ## Reading -/

namespace Field

/-- A field puts `v` into the row of its name, as one of the things that `v` gives, or else `v`
does not fit. -/
structure Fills (row : σ → String → Option δ) (gives : String → Toml.Value → δ → Prop)
    (f : Field σ) (v : Toml.Value) : Prop where
  of_put : ∀ {s t}, f.put v s = .ok t →
    ∃ x, gives f.name v x ∧ row t = Function.update (row s) f.name (some x)
  put_of : ∀ {x}, gives f.name v x → ∀ s, ∃ t, f.put v s = .ok t ∧
    row t = Function.update (row s) f.name (some x)

variable {row : σ → String → Option δ} {fields : List (Field σ)}
  {gives : String → Toml.Value → δ → Prop} {entries : List (String × Toml.Value)} {s : σ}

theorem readTable_cons (fields : List (Field σ)) (e : String × Toml.Value)
    (entries : List (String × Toml.Value)) (s : σ) :
    readTable fields (e :: entries) s = readEntry fields s e >>= readTable fields entries :=
  List.foldlM_cons

theorem readEntry_of_not_mem {name : String} (hname : name ∉ fields.map (·.name))
    (v : Toml.Value) (s : σ) : readEntry fields s (name, v) = .ok s := by
  have hfind : fields.find? (·.name = name) = none := by
    rw [List.find?_eq_none]
    intro f hf
    simp only [decide_eq_true_eq]
    rintro rfl
    exact hname (List.mem_map_of_mem hf)
  simp [readEntry, hfind]

/-- Reading a table lays it over the rows of a section. -/
theorem readTable_eq_ok (hnames : (fields.map (·.name)).Nodup)
    (hkeys : (entries.map (·.1)).Nodup)
    (hfills : ∀ f ∈ fields, ∀ v, (f.name, v) ∈ entries → f.Fills row gives v)
    {row' : String → Option δ} :
    (∃ t, readTable fields entries s = .ok t ∧ row t = row') ↔
      Overlaid (fields.map (·.name)) gives entries (row s) row' := by
  induction entries generalizing s with
  | nil =>
    rw [Overlaid.nil_iff]
    exact ⟨by rintro ⟨t, ⟨⟩, rfl⟩; rfl, fun h => ⟨s, rfl, h.symm⟩⟩
  | cons e entries ih =>
    obtain ⟨name, v⟩ := e
    obtain ⟨hnew, hkeys⟩ := List.nodup_cons.1 hkeys
    have ih := fun {s : σ} => ih (s := s) hkeys
      fun f hf w hw => hfills f hf w (List.mem_cons_of_mem _ hw)
    by_cases hname : name ∈ fields.map (·.name)
    · obtain ⟨f, hf, rfl⟩ := List.mem_map.1 hname
      have hfill := hfills f hf v List.mem_cons_self
      rw [Overlaid.cons_iff hname hnew]
      constructor
      · rintro ⟨t, hread, rfl⟩
        rw [readTable_cons, readEntry_of_mem hnames hf] at hread
        obtain ⟨s', hput, hread⟩ := bind_eq_ok.1 hread
        obtain ⟨x, hgives, hrow⟩ := hfill.of_put hput
        exact ⟨x, hgives, hrow ▸ ih.1 ⟨t, hread, rfl⟩⟩
      · rintro ⟨x, hgives, hover⟩
        obtain ⟨s', hput, hrow⟩ := hfill.put_of hgives s
        obtain ⟨t, hread, ht⟩ := ih.2 (hrow.symm ▸ hover)
        refine ⟨t, ?_, ht⟩
        rw [readTable_cons, readEntry_of_mem hnames hf, hput]
        exact hread
    · rw [Overlaid.cons_of_not_mem hname, ← ih, readTable_cons, readEntry_of_not_mem hname]
      rfl

end Field

end Hotplug
