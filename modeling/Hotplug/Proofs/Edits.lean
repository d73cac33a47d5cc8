import Hotplug.Proofs.Merging

/-!
# Edits of a document

What a document may be changed in without a change of what is read from it: keys that no setting
has come and go, and the order of all keys is free.

* `Settings.Edited` — one such edit, of a document or of one of its sections.
* `Settings.Edited.given_eq` — it leaves alone what the document says about settings.
* `Settings.merged` — what is read from a document, and from each that comes of it by edits.
-/

namespace Hotplug.Settings

open Toml (Value)

variable {document document' : List (String × Value)}

/-! ## Tables and documents -/

/-- An edit of a table that does not change what it has under the keys `known`: its entries are
put into another order, or an entry with another key comes in or goes out. -/
inductive Edit (known : List String) :
    List (String × Value) → List (String × Value) → Prop
  | reorder {entries entries' : List (String × Value)} (hperm : entries.Perm entries') :
      Edit known entries entries'
  | add {before after : List (String × Value)} {key : String} {v : Value} (hkey : key ∉ known)
      (hnew : key ∉ (before ++ after).map (·.1)) (hv : v.Distinct) :
      Edit known (before ++ after) (before ++ (key, v) :: after)
  | remove {before after : List (String × Value)} {key : String} {v : Value} (hkey : key ∉ known) :
      Edit known (before ++ (key, v) :: after) (before ++ after)

/-- An edit of a document, or of one section of it, that does not change what the document has
under the keys of sections. -/
inductive Edited : List (String × Value) → List (String × Value) → Prop
  | around {entries entries' : List (String × Value)}
      (h : Edit (layout.map (·.1)) entries entries') : Edited entries entries'
  | within {name : String} {keys : List String} {before after : List (String × Value)}
      {entries entries' : List (String × Value)} (hsection : (name, keys) ∈ layout)
      (h : Edit keys entries entries') :
      Edited (before ++ (name, .table entries) :: after)
        (before ++ (name, .table entries') :: after)

/-! ## Edited tables -/

namespace Edit

variable {known : List String} {entries entries' : List (String × Value)}

theorem distinct (h : Edit known entries entries') (hentries : (Value.table entries).Distinct) :
    (Value.table entries').Distinct := by
  cases hentries with
  | table hkeys hvalues =>
    cases h with
    | reorder hperm =>
      exact .table ((hperm.map _).nodup_iff.1 hkeys) fun e he => hvalues e (hperm.mem_iff.2 he)
    | @add before after key v _ hnew hv =>
      have hperm : (before ++ (key, v) :: after).Perm ((key, v) :: (before ++ after)) :=
        List.perm_middle
      refine .table ((hperm.map _).nodup_iff.2 (List.nodup_cons.2 ⟨hnew, hkeys⟩)) fun e he => ?_
      rcases List.mem_cons.1 (hperm.mem_iff.1 he) with rfl | he
      · exact hv
      · exact hvalues e he
    | @remove before after key v _ =>
      have hperm : (before ++ (key, v) :: after).Perm ((key, v) :: (before ++ after)) :=
        List.perm_middle
      exact .table (List.nodup_cons.1 ((hperm.map _).nodup_iff.1 hkeys)).2
        fun e he => hvalues e (hperm.mem_iff.2 (List.mem_cons_of_mem _ he))

theorem lookup_eq (h : Edit known entries entries') (hentries : (Value.table entries).Distinct)
    {key : String} (hkey : key ∈ known) : entries'.lookup key = entries.lookup key := by
  have hkeys : (entries.map (·.1)).Nodup := by
    cases hentries with
    | table hkeys _ => exact hkeys
  cases h with
  | reorder hperm => exact (lookup_eq_of_perm hkeys hperm).symm
  | @add before after other v hother hnew hv =>
    have hne : key ≠ other := fun heq => hother (heq ▸ hkey)
    rw [List.lookup_append, List.lookup_append, lookup_cons_eq_ite, if_neg hne]
  | @remove before after other v hother =>
    have hne : key ≠ other := fun heq => hother (heq ▸ hkey)
    rw [List.lookup_append, List.lookup_append, lookup_cons_eq_ite, if_neg hne]

theorem mem_iff (h : Edit known entries entries') {e : String × Value} (he : e.1 ∈ known) :
    e ∈ entries' ↔ e ∈ entries := by
  cases h with
  | reorder hperm => exact hperm.mem_iff.symm
  | @add before after key v hkey _ _ =>
    have hne : e ≠ (key, v) := by
      rintro rfl
      exact hkey he
    simp [hne]
  | @remove before after key v hkey =>
    have hne : e ≠ (key, v) := by
      rintro rfl
      exact hkey he
    simp [hne]

end Edit

/-! ## Edited documents -/

namespace Edited

/-- In an edited document the sections are tables still. -/
theorem sectioned (h : Edited document document') (hsectioned : Sectioned document) :
    Sectioned document' := by
  cases h with
  | around h =>
    exact ⟨h.distinct hsectioned.distinct, fun name hname v hv =>
      hsectioned.tables name hname v ((h.mem_iff hname).1 hv)⟩
  | @within name keys before after entries entries' _ h =>
    cases hsectioned.distinct with
    | table hkeys hvalues =>
      refine ⟨.table ?_ fun e he => ?_, fun other hother v hv => ?_⟩
      · simpa using hkeys
      · rcases List.mem_append.1 he with he | he
        · exact hvalues e (List.mem_append_left _ he)
        · rcases List.mem_cons.1 he with rfl | he
          · exact h.distinct (hvalues (name, .table entries) (by simp))
          · exact hvalues e (List.mem_append_right _ (List.mem_cons_of_mem _ he))
      · rcases List.mem_append.1 hv with hv | hv
        · exact hsectioned.tables other hother v (List.mem_append_left _ hv)
        · rcases List.mem_cons.1 hv with heq | hv
          · exact ⟨entries', (Prod.mk.inj heq).2⟩
          · exact hsectioned.tables other hother v
              (List.mem_append_right _ (List.mem_cons_of_mem _ hv))

/-- An edited document says the same about every setting. -/
theorem given_eq (h : Edited document document') (hsectioned : Sectioned document)
    {name key : String} (hkind : kind? name key ≠ none) :
    given document' name key = given document name key := by
  obtain ⟨keys, hkeys, hkey⟩ := kind?_ne_none_iff.1 hkind
  cases h with
  | around h =>
    rw [given, given, entriesOf, entriesOf,
      h.lookup_eq hsectioned.distinct (List.mem_map_of_mem (f := Prod.fst) hkeys)]
  | @within other keys' before after entries entries' hother h =>
    cases hsectioned.distinct with
    | table hnames hvalues =>
      have hlookup : ∀ content : Value, (before ++ (other, content) :: after).lookup name =
          if name = other then some content else (before ++ after).lookup name := by
        intro content
        rw [lookup_eq_of_perm (by simpa using hnames) List.perm_middle, lookup_cons_eq_ite]
      rw [given, given, entriesOf, entriesOf, hlookup, hlookup]
      split_ifs with hname
      · subst hname
        -- The keys of a section are fixed, so the edit leaves `key` alone.
        have hsame : (name, keys') = (name, keys) :=
          List.inj_on_of_nodup_map nodup_layout hother hkeys rfl
        obtain rfl := (Prod.mk.inj hsame).2
        exact h.lookup_eq (hvalues (name, .table entries) (by simp)) hkey
      · rfl

end Edited

/-! ## What is read -/

theorem Merges.of_given_eq
    (h : ∀ {name key}, kind? name key ≠ none →
      given document' name key = given document name key) {s : Settings} :
    Merges document' s ↔ Merges document s := by
  refine forall₄_congr fun name key default hdefault => ?_
  have hgiven : (entriesOf document' name).lookup key = (entriesOf document name).lookup key :=
    h (by simp [kind?, hdefault])
  rw [hgiven]

/-- An edited document is read as it was, or is not read as it was not. -/
theorem Edited.ofTable_eq_ok (h : Edited document document') (hsectioned : Sectioned document)
    {s : Settings} : ofTable document' = .ok s ↔ ofTable document = .ok s := by
  rw [(h.sectioned hsectioned).ofTable_eq_ok_iff_merges, hsectioned.ofTable_eq_ok_iff_merges,
    Merges.of_given_eq (h.given_eq hsectioned)]

theorem ofTable_eq_ok_of_edits (hsectioned : Sectioned document)
    (h : Relation.ReflTransGen Edited document document') :
    Sectioned document' ∧ ∀ s, ofTable document' = .ok s ↔ ofTable document = .ok s := by
  induction h with
  | refl => exact ⟨hsectioned, fun _ => .rfl⟩
  | tail _ hlast ih =>
    exact ⟨hlast.sectioned ih.1, fun s => (hlast.ofTable_eq_ok ih.1).trans (ih.2 s)⟩

/-- A document whose sections are tables is merged with the defaults setting by setting.  It is
read if and only if what it says about settings fits them; the settings then hold what it says,
and their defaults where it says nothing; and no edits of what it has besides, nor of the order of
what it has, change anything. -/
theorem merged (hsectioned : Sectioned document) :
    ((∃ s, ofTable document = .ok s) ↔ Fits document) ∧
      (∀ s, ofTable document = .ok s ↔ Merges document s) ∧
      ∀ document', Relation.ReflTransGen Edited document document' →
        ∀ s, ofTable document' = .ok s ↔ ofTable document = .ok s :=
  ⟨hsectioned.exists_ofTable_eq_ok_iff_fits, fun _ => hsectioned.ofTable_eq_ok_iff_merges,
    fun _ h => (ofTable_eq_ok_of_edits hsectioned h).2⟩

/-- A text that says little: two keys that no setting has, two settings and an option. -/
def sparse : String :=
  "v = 1\n[device]\nid = true\npath = 'bus'\n[manager]\noptions = \x7b Retry = 3 \x7d\n" ++
    "[driver]\non_activation_failure.skip_cycle = []\n"

/-- The table of `sparse`. -/
def sparseTable : List (String × Value) :=
  [("v", .integer 1), ("device", .table [("id", .boolean true), ("path", .string "bus")]),
    ("manager", .table [("options", .table [("Retry", .integer 3)])]),
    ("driver", .table [("on_activation_failure", .table [("skip_cycle", .array [])])])]

theorem parse?_sparse : Toml.Document.parse? sparse = some sparseTable := by decide +kernel

theorem sectioned_sparse : Sectioned sparseTable where
  distinct := Toml.Document.distinct_of_parse? parse?_sparse
  tables name hname v hv := by
    simp only [sparseTable, List.mem_cons, Prod.mk.injEq, List.not_mem_nil, or_false] at hv
    rcases hv with ⟨rfl, -⟩ | ⟨-, rfl⟩ | ⟨-, rfl⟩ | ⟨-, rfl⟩
    · exact absurd hname (by decide)
    all_goals exact ⟨_, rfl⟩

/-- The settings of `sparse`. -/
def sparseSettings : Settings :=
  { device := { path := "bus" }, driver := { onActivationFailure := .skipCycle },
    manager := { options := OptionTable.empty.insert "Retry" (.int 3) } }

theorem merged_sparse :
    Toml.Document.parse? sparse = some sparseTable ∧ Sectioned sparseTable ∧
    ofTable sparseTable = .ok sparseSettings ∧ Merges sparseTable sparseSettings ∧
    ∀ document, Relation.ReflTransGen Edited sparseTable document →
      ofTable document = .ok sparseSettings := by
  obtain ⟨-, hmerges, hedits⟩ := merged sectioned_sparse
  have hread : ofTable sparseTable = .ok sparseSettings := rfl
  exact ⟨parse?_sparse, sectioned_sparse, hread, (hmerges _).1 hread,
    fun document hedit => (hedits document hedit _).2 hread⟩

end Hotplug.Settings
