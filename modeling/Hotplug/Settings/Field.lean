import Hotplug.Settings.Misfit

/-!
# Fields of a section

A section is described by its fields in order.  The same description serves a section that is
written as a table and one that is written as a plain list of values.

This file models how the configuration component makes a section out of the values of a
document.

* `Field` — a name and the way a value becomes part of a section.
* `Field.readTable` — the entries of a table, one after the other; unknown names are skipped.
* `Field.readList` — values in the order of the fields; what is left over is skipped.
* `Field.readList_eq_readTable` — a list reads as the table that gives its values to the
  fields in order.
-/

namespace Hotplug

/-- A field of a section. -/
structure Field (σ : Type) where
  name : String
  /-- Puts a value into the section, if it fits. -/
  put : Toml.Value → σ → Except Misfit σ

namespace Field

variable {σ : Type}

/-! ## Kinds of fields -/

/-- A field that takes text. -/
def text (name : String) (set : String → σ → σ) : Field σ where
  name := name
  put v s :=
    match v with
    | .string t => .ok (set t s)
    | v => .error (.unexpected v .text)

/-- A field that takes a number that is not negative. -/
def count (name : String) (set : Nat → σ → σ) : Field σ where
  name := name
  put v s :=
    match v with
    | .integer (.ofNat n) => .ok (set n s)
    | .integer n => .error (.negative n)
    | v => .error (.unexpected v .count)

/-- A field that takes a truth value. -/
def truth (name : String) (set : Bool → σ → σ) : Field σ where
  name := name
  put v s :=
    match v with
    | .boolean b => .ok (set b s)
    | v => .error (.unexpected v .truth)

/-- A field that takes whatever `read` takes. -/
def other {α : Type} (name : String) (read : Toml.Value → Except Misfit α) (set : α → σ → σ) :
    Field σ where
  name := name
  put v s := do return set (← read v) s

/-! ## Sections -/

/-- Puts one entry of a table into a section. -/
def readEntry (fields : List (Field σ)) (s : σ) (entry : String × Toml.Value) :
    Except Misfit σ :=
  match fields.find? (·.name = entry.1) with
  | some f => f.put entry.2 s
  | none => .ok s

/-- Puts the entries of a table into a section, in order. -/
def readTable (fields : List (Field σ)) (entries : List (String × Toml.Value)) (s : σ) :
    Except Misfit σ :=
  entries.foldlM (readEntry fields) s

/-- Puts values into a section, one for each field. -/
def readList (fields : List (Field σ)) (values : List Toml.Value) (s : σ) : Except Misfit σ :=
  (fields.zip values).foldlM (fun s (f, v) => f.put v s) s

/-- The section that a value stands for, every field that is not given being as in `s`. -/
def readSection (name : String) (fields : List (Field σ)) (s : σ) :
    Toml.Value → Except Misfit σ
  | .table entries => readTable fields entries s
  | .array values | .tables values => readList fields values s
  | .moment => .ok s
  | v => .error (.unexpected v (.record name))

theorem readEntry_of_mem {fields : List (Field σ)} (h : (fields.map (·.name)).Nodup)
    {f : Field σ} (hf : f ∈ fields) (v : Toml.Value) (s : σ) :
    readEntry fields s (f.name, v) = f.put v s := by
  have hfind : fields.find? (·.name = f.name) = some f := by
    induction fields with
    | nil => simp at hf
    | cons g fields ih =>
      simp only [List.map_cons, List.nodup_cons, List.mem_map] at h
      rcases List.mem_cons.1 hf with rfl | hf
      · simp
      · have hne : g.name ≠ f.name := fun he => h.1 ⟨f, hf, he.symm⟩
        rw [List.find?_cons_of_neg (by simpa using hne)]
        exact ih h.2 hf
  simp [readEntry, hfind]

/-- Values in the order of the fields read as the table that gives them to those fields. -/
theorem readList_eq_readTable {fields : List (Field σ)} (h : (fields.map (·.name)).Nodup)
    (values : List Toml.Value) (s : σ) :
    readList fields values s = readTable fields ((fields.map (·.name)).zip values) s := by
  suffices ∀ (part : List (Field σ)), (∀ f ∈ part, f ∈ fields) → ∀ (values : List Toml.Value) s,
      (part.zip values).foldlM (fun s (f, v) => f.put v s) s =
        ((part.map (·.name)).zip values).foldlM (readEntry fields) s from
    this fields (fun _ hf => hf) values s
  intro part
  induction part with
  | nil => intros; rfl
  | cons f part ih =>
    intro hpart values s
    cases values with
    | nil => rfl
    | cons v values =>
      simp only [List.map_cons, List.zip_cons_cons, List.foldlM_cons,
        readEntry_of_mem h (hpart f (by simp))]
      congr 1
      funext t
      exact ih (fun g hg => hpart g (by simp [hg])) values t

end Field

end Hotplug
