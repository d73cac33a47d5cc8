import Hotplug.Toml.Document
import Mathlib.Data.List.Nodup
import Mathlib.Data.Option.Basic

/-!
# Documents without repeated keys

No table of a document has a key twice, at any depth: a key that is there cannot be assigned to or
defined again, and whatever else happens to a table leaves its keys alone.

* `Value.Distinct` — a value in which no table has a key twice.
* `Reader.Yields` — what a reader takes has a property.
* `Draft.Distinct` — the same of a table in the making; nothing that is done to one breaks it.
* `Document.distinct_of_parse?` — the tables of a text.
-/

namespace Hotplug

/-! ## Readers -/

namespace Reader

variable {α β : Type} {r : Reader α} {p : α → Prop} {q : β → Prop}

/-- Everything that a reader takes has a property. -/
def Yields (r : Reader α) (p : α → Prop) : Prop :=
  ∀ cs a rest, r cs = some (a, rest) → p a

namespace Yields

theorem pure {a : α} (h : p a) : Yields (Pure.pure a) p := by
  rintro cs _ _ ⟨⟩
  exact h

theorem mono {p' : α → Prop} (h : Yields r p) (himp : ∀ a, p a → p' a) : Yields r p' :=
  fun cs a rest hr => himp a (h cs a rest hr)

theorem bind {f : α → Reader β} (hr : Yields r p) (hf : ∀ a, p a → Yields (f a) q) :
    Yields (r >>= f) q := by
  intro cs b rest h
  obtain ⟨⟨a, mid⟩, ha, hb⟩ := Option.bind_eq_some_iff.1 h
  exact hf a (hr cs a mid ha) mid b rest hb

/-- Where the first of two readers takes anything. -/
theorem then_ {f : α → Reader β} (hf : ∀ a, Yields (f a) q) : Yields (r >>= f) q :=
  bind (p := fun _ => True) (fun _ _ _ _ => trivial) fun a _ => hf a

theorem map {f : α → β} (h : Yields r fun a => q (f a)) : Yields (f <$> r) q := by
  rw [map_eq_pure_bind]
  exact bind h fun a ha => pure ha

theorem orElse {s : Reader α} (hr : Yields r p) (hs : Yields s p) : Yields (r <|> s) p := by
  intro cs a rest h
  have heq : (r <|> s) cs = (r cs <|> s cs) := rfl
  rw [heq] at h
  cases hcs : r cs with
  | none =>
    rw [hcs] at h
    exact hs cs a rest h
  | some taken =>
    rw [hcs] at h
    obtain rfl := Option.some.inj h
    exact hr cs a rest hcs

theorem lift {o : Option α} (h : ∀ a, o = some a → p a) :
    Yields (StateT.lift o : Reader α) p := by
  intro cs a rest hlift
  obtain ⟨b, hb, heq⟩ := Option.bind_eq_some_iff.1 hlift
  obtain ⟨rfl, -⟩ := Prod.mk.inj (Option.some.inj heq)
  exact h b hb

theorem seqRight {s : Reader β} (hs : Yields s q) : Yields (r *> s) q := by
  rw [seqRight_eq_bind]
  exact then_ fun _ => hs

theorem seqLeft {s : Reader β} (hr : Yields r p) : Yields (r <* s) p := by
  rw [seqLeft_eq_bind]
  exact bind hr fun a ha => then_ fun _ => pure ha

theorem optional? (h : Yields r p) : Yields (Reader.optional? r) fun o => ∀ a ∈ o, p a :=
  orElse (map (h.mono fun _ ha _ hb => Option.some.inj hb ▸ ha)) (pure nofun)

theorem collect (h : Yields r p) (cs : List Char) : ∀ a ∈ (Reader.collect r cs).1, p a := by
  fun_induction Reader.collect r cs with
  | case1 => exact List.forall_mem_nil _
  | case2 cs a rest hr _ as rest' hcollect ih =>
    rw [hcollect] at ih
    exact List.forall_mem_cons.2 ⟨h cs a rest hr, ih⟩
  | case3 => exact List.forall_mem_nil _

theorem repeated (h : Yields r p) : Yields (Reader.repeated r) fun as => ∀ a ∈ as, p a := by
  intro cs as rest hr
  obtain ⟨rfl, -⟩ := Prod.mk.inj (Option.some.inj hr)
  exact h.collect cs

theorem separated {separator : Reader Unit} (h : Yields r p) :
    Yields (Reader.separated separator r) fun as => ∀ a ∈ as, p a :=
  bind h fun _ ha => bind (seqRight h).repeated fun _ has => pure (List.forall_mem_cons.2 ⟨ha, has⟩)

end Yields

end Reader

namespace Toml

/-! ## Values -/

/-- A value in which no table has a key twice. -/
inductive Value.Distinct : Value → Prop
  | string (s : String) : Distinct (.string s)
  | integer (n : Int) : Distinct (.integer n)
  | float (x : Double) : Distinct (.float x)
  | boolean (b : Bool) : Distinct (.boolean b)
  | moment : Distinct .moment
  | array {items : List Value} (hitems : ∀ v ∈ items, Distinct v) : Distinct (.array items)
  | tables {items : List Value} (hitems : ∀ v ∈ items, Distinct v) : Distinct (.tables items)
  | table {entries : List (String × Value)} (hkeys : (entries.map (·.1)).Nodup)
      (hentries : ∀ e ∈ entries, Distinct e.2) : Distinct (.table entries)

/-! ## Tables in the making -/

namespace Draft

/-- A draft in which no table has a key twice. -/
inductive Distinct : Draft → Prop
  | value {v : Value} (h : v.Distinct) : Distinct (.value v)
  | table {isImplicit isDotted : Bool} {es : Entries} (hkeys : (es.map (·.1)).Nodup)
      (hentries : ∀ e ∈ es, Distinct e.2) : Distinct (.table isImplicit isDotted es)
  | tables {items : List Entries} (hkeys : ∀ es ∈ items, (es.map (·.1)).Nodup)
      (hentries : ∀ es ∈ items, ∀ e ∈ es, Distinct e.2) : Distinct (.tables items)

/-- Entries in which no table has a key twice. -/
structure Entries.Distinct (es : Entries) : Prop where
  keys : (es.map (·.1)).Nodup
  entries : ∀ e ∈ es, e.2.Distinct

variable {key : String} {d : Draft} {v : Value} {es es' : Entries}

namespace Entries.Distinct

theorem nil : Distinct [] := ⟨List.nodup_nil, nofun⟩

theorem table (h : Distinct es) (isImplicit isDotted : Bool) :
    (Draft.table isImplicit isDotted es).Distinct :=
  .table h.keys h.entries

end Entries.Distinct

theorem mem_of_find?_eq_some (h : find? key es = some d) : (key, d) ∈ es := by
  obtain ⟨e, he, rfl⟩ := Option.map_eq_some_iff.1 h
  have hkey : e.1 = key := by simpa using List.find?_some he
  exact hkey ▸ List.mem_of_find?_eq_some he

theorem not_mem_of_find?_eq_none (h : find? key es = none) : key ∉ es.map (·.1) := by
  rintro hmem
  obtain ⟨e, he, rfl⟩ := List.mem_map.1 hmem
  simpa using List.find?_eq_none.1 (Option.map_eq_none_iff.1 h) e he

/-! ### Entries -/

theorem mem_put {e : String × Draft} (he : e ∈ put key d es) : e = (key, d) ∨ e ∈ es := by
  induction es with
  | nil => exact .inl (List.mem_singleton.1 he)
  | cons e' es ih =>
    rw [put] at he
    split at he
    · next hkey =>
      rcases List.mem_cons.1 he with rfl | he
      · exact .inl (by rw [hkey])
      · exact .inr (List.mem_cons_of_mem _ he)
    · rcases List.mem_cons.1 he with rfl | he
      · exact .inr List.mem_cons_self
      · exact (ih he).imp_right (List.mem_cons_of_mem _)

theorem Entries.Distinct.put (h : es.Distinct) (hd : d.Distinct) : (put key d es).Distinct where
  entries e he := by
    rcases mem_put he with rfl | he
    · exact hd
    · exact h.entries e he
  keys := by
    obtain ⟨hkeys, -⟩ := h
    induction es with
    | nil => simp [Draft.put]
    | cons e es ih =>
      obtain ⟨hnew, hkeys⟩ := List.nodup_cons.1 hkeys
      rw [Draft.put]
      split
      · exact List.nodup_cons.2 ⟨hnew, hkeys⟩
      · next hne =>
        refine List.nodup_cons.2 ⟨fun hmem => ?_, ih hkeys⟩
        obtain ⟨e', he', heq⟩ := List.mem_map.1 hmem
        rcases mem_put he' with rfl | he'
        · exact hne heq.symm
        · exact hnew (heq ▸ List.mem_map_of_mem he')

theorem Entries.Distinct.append_singleton (h : es.Distinct) (hkey : key ∉ es.map (·.1))
    (hd : d.Distinct) : Entries.Distinct (es ++ [(key, d)]) where
  keys := by
    rw [List.map_append]
    exact h.keys.append (List.nodup_singleton _) (by simpa using hkey)
  entries := List.forall_mem_append.2 ⟨h.entries, by simpa using hd⟩

theorem Entries.Distinct.erase (h : es.Distinct) : Entries.Distinct (erase key es) where
  keys := h.keys.sublist (List.filter_sublist.map _)
  entries e he := h.entries e (List.mem_of_mem_filter he)

theorem not_mem_erase : key ∉ (erase key es).map (·.1) := by
  simp [Draft.erase]

/-! ### Paths -/

theorem Distinct.of_items {items : List Entries} (h : ∀ es ∈ items, es.Distinct) :
    (Draft.tables items).Distinct :=
  .tables (fun es hes => (h es hes).keys) fun es hes => (h es hes).entries

theorem distinct_getLastD {items : List Entries} (h : ∀ es ∈ items, es.Distinct) :
    Entries.Distinct (items.getLastD []) := by
  cases hitems : items.getLast? with
  | none => rw [List.getLastD_eq_getLast?, hitems]; exact .nil
  | some es => rw [List.getLastD_eq_getLast?, hitems]; exact h es (List.mem_of_getLast? hitems)

/-- A change that keeps the keys of a table apart does so at the end of a path. -/
theorem Entries.Distinct.at? {isDotted : Bool} {change : Bool → Entries → Option Entries}
    (hchange : ∀ {here es es'}, es.Distinct → change here es = some es' → es'.Distinct)
    {path : List String} {here : Bool} (h : es.Distinct)
    (hat : Draft.at? isDotted change path here es = some es') : es'.Distinct := by
  induction path generalizing here es es' with
  | nil => exact hchange h hat
  | cons key path ih =>
    rw [Draft.at?] at hat
    cases hfind : find? key es with
    | none =>
      rw [hfind] at hat
      obtain ⟨inner, hinner, heq⟩ := Option.bind_eq_some_iff.1 hat
      obtain rfl := Option.some.inj heq
      exact h.put ((ih .nil hinner).table _ _)
    | some d =>
      have hd : d.Distinct := h.entries _ (mem_of_find?_eq_some hfind)
      rw [hfind] at hat
      cases hd with
      | value _ => cases hat
      | @tables items hkeys hentries =>
        obtain ⟨inner, hinner, heq⟩ := Option.bind_eq_some_iff.1 hat
        obtain rfl := Option.some.inj heq
        have hitems : ∀ es ∈ items, Entries.Distinct es := fun es hes =>
          ⟨hkeys es hes, hentries es hes⟩
        refine h.put (Distinct.of_items (List.forall_mem_append.2 ⟨fun es hes => ?_, ?_⟩))
        · exact hitems es (List.dropLast_subset _ hes)
        · exact List.forall_mem_singleton.2 (ih (distinct_getLastD hitems) hinner)
      | table hkeys hentries =>
        obtain ⟨_, -, hat⟩ := Option.bind_eq_some_iff.1 hat
        obtain ⟨inner, hinner, heq⟩ := Option.bind_eq_some_iff.1 hat
        obtain rfl := Option.some.inj heq
        exact h.put ((ih ⟨hkeys, hentries⟩ hinner).table _ _)

theorem Entries.Distinct.assign? {path : List String} (h : es.Distinct) (hv : v.Distinct)
    (hassign : Draft.assign? path v es = some es') : es'.Distinct := by
  obtain ⟨key, -, hat⟩ := Option.bind_eq_some_iff.1 hassign
  refine h.at? (fun {here es es'} h hchange => ?_) hat
  obtain ⟨_, -, hchange⟩ := Option.bind_eq_some_iff.1 hchange
  obtain ⟨_, hguard, heq⟩ := Option.bind_eq_some_iff.1 hchange
  obtain rfl := Option.some.inj heq
  have hnone : find? key es = none := by
    cases hfind : find? key es with
    | none => rfl
    | some d =>
      rw [hfind] at hguard
      cases hguard
  exact h.append_singleton (not_mem_of_find?_eq_none hnone) (.value hv)

theorem Entries.Distinct.assignAll? {pairs : List (List String × Value)} (h : es.Distinct)
    (hpairs : ∀ pair ∈ pairs, pair.2.Distinct)
    (hassign : Draft.assignAll? pairs es = some es') : es'.Distinct := by
  induction pairs generalizing es with
  | nil => exact Option.some.inj hassign ▸ h
  | cons pair pairs ih =>
    obtain ⟨hpair, hpairs⟩ := List.forall_mem_cons.1 hpairs
    obtain ⟨mid, hmid, hassign⟩ := Option.bind_eq_some_iff.1 hassign
    exact ih (h.assign? hpair hmid) hpairs hassign

/-! ### Headers -/

theorem Entries.Distinct.define? {path : List String} {pairs : List (List String × Value)}
    (h : es.Distinct) (hpairs : ∀ pair ∈ pairs, pair.2.Distinct)
    (hdefine : Draft.define? path pairs es = some es') : es'.Distinct := by
  obtain ⟨key, -, hat⟩ := Option.bind_eq_some_iff.1 hdefine
  refine h.at? (fun {here es es'} h hchange => ?_) hat
  -- Whatever the header finds, the table goes on from entries without repeated keys.
  have hadd : ∀ {start : Entries}, start.Distinct →
      (do return Draft.erase key es ++
        [(key, .table false false (← Draft.assignAll? pairs start))]) = some es' →
        es'.Distinct := by
    intro start hstart hadd
    obtain ⟨inner, hinner, heq⟩ := Option.bind_eq_some_iff.1 hadd
    obtain rfl := Option.some.inj heq
    exact h.erase.append_singleton not_mem_erase ((hstart.assignAll? hpairs hinner).table _ _)
  dsimp only at hchange
  split at hchange
  · exact hadd .nil hchange
  · next inner hfind =>
    cases h.entries _ (mem_of_find?_eq_some hfind) with
    | table hkeys hentries => exact hadd ⟨hkeys, hentries⟩ hchange
  · cases hchange

theorem Entries.Distinct.append? {path : List String} {pairs : List (List String × Value)}
    (h : es.Distinct) (hpairs : ∀ pair ∈ pairs, pair.2.Distinct)
    (happend : Draft.append? path pairs es = some es') : es'.Distinct := by
  obtain ⟨key, -, hat⟩ := Option.bind_eq_some_iff.1 happend
  refine h.at? (fun {here es es'} h hchange => ?_) hat
  have hadd : ∀ {items : List Entries}, (∀ es ∈ items, es.Distinct) →
      (do return Draft.put key (.tables (items ++ [← Draft.assignAll? pairs []])) es) = some es' →
        es'.Distinct := by
    intro items hitems hadd
    obtain ⟨inner, hinner, heq⟩ := Option.bind_eq_some_iff.1 hadd
    obtain rfl := Option.some.inj heq
    exact h.put (.of_items (List.forall_mem_append.2
      ⟨hitems, List.forall_mem_singleton.2 (Entries.Distinct.nil.assignAll? hpairs hinner)⟩))
  dsimp only at hchange
  split at hchange
  · exact hadd (List.forall_mem_nil _) hchange
  · next items hfind =>
    cases h.entries _ (mem_of_find?_eq_some hfind) with
    | tables hkeys hentries =>
      exact hadd (fun es hes => ⟨hkeys es hes, hentries es hes⟩) hchange
  · cases hchange

/-! ### The finished table -/

theorem map_fst_finishEntries (es : Entries) : (finishEntries es).map (·.1) = es.map (·.1) := by
  induction es with
  | nil => rfl
  | cons e es ih => rw [finishEntries, List.map_cons, List.map_cons, ih]

theorem mem_finishEntries {e : String × Value} (he : e ∈ finishEntries es) :
    ∃ d, (e.1, d) ∈ es ∧ e.2 = d.finish := by
  induction es with
  | nil => cases he
  | cons e' es ih =>
    obtain ⟨key, d⟩ := e'
    rw [finishEntries] at he
    rcases List.mem_cons.1 he with rfl | he
    · exact ⟨d, List.mem_cons_self, rfl⟩
    · obtain ⟨d, hd, heq⟩ := ih he
      exact ⟨d, List.mem_cons_of_mem _ hd, heq⟩

theorem mem_finishTables {items : List Entries} (hv : v ∈ finishTables items) :
    ∃ es ∈ items, v = .table (finishEntries es) := by
  induction items with
  | nil => cases hv
  | cons es items ih =>
    rw [finishTables] at hv
    rcases List.mem_cons.1 hv with rfl | hv
    · exact ⟨es, List.mem_cons_self, rfl⟩
    · obtain ⟨es, hes, heq⟩ := ih hv
      exact ⟨es, List.mem_cons_of_mem _ hes, heq⟩

theorem Entries.Distinct.finish_of (h : es.Distinct)
    (hfinish : ∀ e ∈ es, e.2.finish.Distinct) : (Value.table (finishEntries es)).Distinct := by
  refine .table (by rw [map_fst_finishEntries]; exact h.keys) fun e he => ?_
  obtain ⟨d, hd, heq⟩ := mem_finishEntries he
  exact heq ▸ hfinish _ hd

theorem Distinct.finish (h : d.Distinct) : d.finish.Distinct := by
  induction h with
  | value h => exact h
  | table hkeys hentries ih => exact Entries.Distinct.finish_of ⟨hkeys, hentries⟩ ih
  | tables hkeys hentries ih =>
    refine .tables fun v hv => ?_
    obtain ⟨es, hes, rfl⟩ := mem_finishTables hv
    exact Entries.Distinct.finish_of ⟨hkeys es hes, hentries es hes⟩ (ih es hes)

theorem Entries.Distinct.finish (h : es.Distinct) : (Value.table (finishEntries es)).Distinct :=
  h.finish_of fun e he => (h.entries e he).finish

end Draft

/-! ## Documents -/

namespace Scalar

theorem yields_value : value.Yields Value.Distinct :=
  .orElse (.map fun _ _ _ _ => .string _) <|
  .orElse (.seqRight (.pure (.boolean _))) <|
  .orElse (.seqRight (.pure (.boolean _))) <|
  .orElse (.seqRight (.pure .moment)) <|
  .orElse (.map fun _ _ _ _ => .float _) (.map fun _ _ _ _ => .integer _)

end Scalar

namespace Document

open Reader

/-- A key with a value in which no table has a key twice. -/
def DistinctPair (pair : List String × Value) : Prop :=
  pair.2.Distinct

variable {v : Reader Value}

theorem yields_pair (h : v.Yields Value.Distinct) : (pair v).Yields DistinctPair :=
  .then_ fun _ => .then_ fun _ => .then_ fun _ => .bind h fun _ hv => .pure hv

theorem yields_array (h : v.Yields Value.Distinct) : (array v).Yields Value.Distinct := by
  have hitems : (optional? (separated (char ',') (Lexeme.filler *> v <* Lexeme.filler) <*
      optional? (char ','))).Yields fun o => ∀ items ∈ o, ∀ v ∈ items, v.Distinct :=
    .optional? (.seqLeft (.separated (.seqLeft (.seqRight h))))
  refine .then_ fun _ => .bind hitems fun items hitems => .then_ fun _ => .then_ fun _ => .pure ?_
  cases items with
  | none => exact .array nofun
  | some items => exact .array (hitems items rfl)

theorem yields_inlineTable (h : v.Yields Value.Distinct) :
    (inlineTable v).Yields Value.Distinct := by
  have hpairs : (optional? (separated (char ',') (pair v <* Lexeme.blanks))).Yields
      fun o => ∀ pairs ∈ o, ∀ pair ∈ pairs, DistinctPair pair :=
    .optional? (.separated (.seqLeft (yields_pair h)))
  refine .then_ fun _ => .bind hpairs fun pairs hpairs => .then_ fun _ => .then_ fun _ =>
    .bind (.lift fun entries hassign => ?_) fun entries h => .pure (Draft.Entries.Distinct.finish h)
  refine Draft.Entries.Distinct.nil.assignAll? (fun pair hpair => ?_) hassign
  cases pairs with
  | none => cases hpair
  | some pairs => exact hpairs pairs rfl pair hpair

theorem yields_value (depth : Nat) : (value depth).Yields Value.Distinct := by
  induction depth with
  | zero => exact Scalar.yields_value
  | succ depth ih =>
    exact .orElse (yields_array ih) (.orElse (yields_inlineTable ih) Scalar.yields_value)

/-- A block in which no value has a table with a key twice. -/
def DistinctBlock (b : Block) : Prop :=
  ∀ pair ∈ b.pairs, DistinctPair pair

theorem yields_pairLine : pairLine.Yields DistinctPair :=
  .seqLeft (.seqLeft (yields_pair (yields_value _)))

theorem yields_block : block.Yields DistinctBlock :=
  .then_ fun _ => .bind yields_pairLine.repeated fun _ hpairs => .pure hpairs

theorem yields_read :
    read.Yields fun d => (∀ pair ∈ d.pairs, DistinctPair pair) ∧ ∀ b ∈ d.blocks, DistinctBlock b :=
  .then_ fun _ => .then_ fun _ => .bind yields_pairLine.repeated fun _ hpairs =>
    .bind yields_block.repeated fun _ hblocks => .pure ⟨hpairs, hblocks⟩

theorem distinct_of_table? {d : Document} {entries : List (String × Value)}
    (hpairs : ∀ pair ∈ d.pairs, DistinctPair pair) (hblocks : ∀ b ∈ d.blocks, DistinctBlock b)
    (h : d.table? = some entries) : (Value.table entries).Distinct := by
  obtain ⟨start, hstart, h⟩ := Option.bind_eq_some_iff.1 h
  obtain ⟨all, hall, h⟩ := Option.bind_eq_some_iff.1 h
  obtain rfl := Option.some.inj h
  have hstart := Draft.Entries.Distinct.nil.assignAll? hpairs hstart
  suffices ∀ (blocks : List Block) (es : Draft.Entries), (∀ b ∈ blocks, DistinctBlock b) →
      es.Distinct → blocks.foldlM (fun es b =>
        if b.isItem then Draft.append? b.path b.pairs es else Draft.define? b.path b.pairs es) es =
          some all → all.Distinct from (this d.blocks start hblocks hstart hall).finish
  intro blocks
  induction blocks with
  | nil =>
    rintro es - hes ⟨⟩
    exact hes
  | cons b blocks ih =>
    intro es hblocks hes hfold
    obtain ⟨hb, hblocks⟩ := List.forall_mem_cons.1 hblocks
    obtain ⟨mid, hmid, hfold⟩ := Option.bind_eq_some_iff.1 hfold
    refine ih mid hblocks ?_ hfold
    dsimp only at hmid
    split at hmid
    · exact hes.append? hb hmid
    · exact hes.define? hb hmid

/-- In the table of a text no table has a key twice. -/
theorem distinct_of_parse? {s : String} {entries : List (String × Value)}
    (h : parse? s = some entries) : (Value.table entries).Distinct := by
  obtain ⟨d, hread, htable⟩ := Option.bind_eq_some_iff.1 h
  unfold whole? at hread
  split at hread
  · next d' hrun =>
    obtain rfl := Option.some.inj hread
    obtain ⟨hpairs, hblocks⟩ := yields_read _ _ _ hrun
    exact distinct_of_table? hpairs hblocks htable
  · cases hread

end Document

end Toml

end Hotplug
