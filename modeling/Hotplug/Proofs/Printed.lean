import Hotplug.Notification.Text
import Hotplug.Text.Reader
import Mathlib.Data.Option.Basic

/-!
# What a printed event tells

An event can be read from its printed form.  Each number ends where the text goes on with a
character that is no digit, and zeros in front of it do not count; so padding to a least width
does no harm, nor does a number that is wider.

The subject is the printed notifications of the manager component.

* `Reader.Takes` — what a reader takes from the front of a text.
* `Reader.takes_number` — a padded number is read back.
* `Event.ofText?` — the event of a text.
* `Event.text_identifies` — events are equal if their printed forms are.
-/

namespace Hotplug

/-! ## Readers -/

namespace Reader

variable {α β : Type} {r : Reader α} {p : Char → Bool} {cs ds rest : List Char} {a : α} {b : β}

/-- A reader takes `cs` from the front of a text, reads `a` in it, and leaves the `rest`. -/
def Takes (r : Reader α) (cs : List Char) (a : α) (rest : List Char) : Prop :=
  r (cs ++ rest) = some (a, rest)

theorem takes_pure (a : α) (rest : List Char) : Takes (pure a) [] a rest := rfl

theorem Takes.bind {f : α → Reader β} (hr : r.Takes cs a (ds ++ rest))
    (hf : (f a).Takes ds b rest) : (r >>= f).Takes (cs ++ ds) b rest := by
  have hbind : (r >>= f) (cs ++ (ds ++ rest)) = (f a) (ds ++ rest) := by
    change (r (cs ++ (ds ++ rest))).bind _ = _
    rw [show r (cs ++ (ds ++ rest)) = some (a, ds ++ rest) from hr]
    rfl
  rw [Takes, List.append_assoc, hbind]
  exact hf

theorem takes_char (c : Char) (rest : List Char) : (char c).Takes [c] () rest := by
  have hone : (one (· = c)).Takes [c] c rest := by
    simp [Takes, one]
  exact hone.bind (f := fun _ => pure ()) (takes_pure () rest)

theorem takes_word (cs rest : List Char) : (word cs).Takes cs () rest := by
  induction cs with
  | nil => rfl
  | cons c cs ih => exact (takes_char c (cs ++ rest)).bind ih

theorem Takes.after (hr : r.Takes ds a rest) (cs : List Char) :
    (word cs *> r).Takes (cs ++ ds) a rest := by
  rw [seqRight_eq_bind]
  exact (takes_word cs (ds ++ rest)).bind hr

/-- What is taken may have to pass a check. -/
theorem Takes.check {q : α → Prop} [DecidablePred q] (hr : r.Takes cs a rest) (hq : q a)
    (f : α → β) : (do let a ← r; guard (q a); return f a : Reader β).Takes cs (f a) rest := by
  have hguard : (do guard (q a); return f a : Reader β).Takes [] (f a) rest := by
    simp only [guard, if_pos hq]
    rfl
  have h := hr.bind (f := fun a => do guard (q a); return f a) hguard
  rwa [List.append_nil] at h

/-! ## Runs -/

/-- A text does not go on with a character for which `p` holds. -/
def Bars (p : Char → Bool) (cs : List Char) : Prop :=
  ∀ c ∈ cs.head?, p c = false

theorem Bars.of_head {c : Char} (hhead : cs.head? = some c) (hc : p c = false) : Bars p cs := by
  rintro d hd
  rw [hhead] at hd
  exact Option.some.inj hd ▸ hc

theorem takes_someRun (hne : cs ≠ []) (hall : ∀ c ∈ cs, p c = true) (hbars : Bars p rest) :
    (someRun p).Takes cs cs rest := by
  have hrest : rest.takeWhile p = [] ∧ rest.dropWhile p = rest := by
    cases rest with
    | nil => exact ⟨rfl, rfl⟩
    | cons c rest =>
      have hc := hbars c rfl
      simp [hc]
  have hrun : (run p).Takes cs cs rest := by
    rw [Takes, run, List.takeWhile_append_of_pos hall, List.dropWhile_append_of_pos hall,
      hrest.1, hrest.2, List.append_nil]
  exact hrun.check (by simpa using hne) id

/-! ## Numbers -/

/-- Whether a character is a digit in a base. -/
def isDigit (base : Nat) (c : Char) : Bool :=
  ((Numeral.digitValue? c).filter (· < base)).isSome

/-- Takes a number below `limit`, with all digits that are there. -/
def number (base limit : Nat) : Reader Nat := do
  let ds ← repeated (digit base)
  guard (Numeral.value base ds < limit ∧ ds ≠ [])
  return Numeral.value base ds

variable {base limit n : Nat} {ns : List Nat}

theorem digit_digitChar (hbase : base ≤ 16) (hn : n < base) :
    (digit base).Takes [Numeral.digitChar n] n rest := by
  simp [Takes, digit, Numeral.digitValue?_digitChar (Nat.lt_of_lt_of_le hn hbase), hn]

/-- Digits are taken one by one until there are no more. -/
theorem collect_digits (hbase : base ≤ 16) (hns : ∀ n ∈ ns, n < base)
    (hbars : Bars (isDigit base) rest) :
    collect (digit base) (ns.map Numeral.digitChar ++ rest) = (ns, rest) := by
  induction ns with
  | nil =>
    have hnone : digit base rest = none := by
      cases rest with
      | nil => rfl
      | cons c rest =>
        have hc : isDigit base c = false := hbars c rfl
        simp only [isDigit, Option.isSome_eq_false_iff, Option.isNone_iff_eq_none] at hc
        simp [digit, hc]
    rw [List.map_nil, List.nil_append]
    unfold collect
    rw [hnone]
  | cons n ns ih =>
    obtain ⟨hn, hns⟩ := List.forall_mem_cons.1 hns
    have hfirst : digit base (Numeral.digitChar n :: (ns.map Numeral.digitChar ++ rest)) =
        some (n, ns.map Numeral.digitChar ++ rest) := digit_digitChar hbase hn
    rw [List.map_cons, List.cons_append]
    unfold collect
    rw [hfirst]
    simp [ih hns]

end Reader

namespace Numeral

/-- Padding is done with zeros. -/
theorem padded_eq_map (base width n : Nat) :
    padded base width n =
      (List.replicate (width - (digits base n).length) 0 ++ digits base n).map digitChar := by
  simp [padded, show digitChar 0 = '0' from by decide]

/-- Zeros in front of a number do not count. -/
theorem value_replicate_append (base k : Nat) (ns : List Nat) :
    value base (List.replicate k 0 ++ ns) = value base ns := by
  induction k with
  | zero => rfl
  | succ k ih => simpa [value, List.replicate_succ] using ih

end Numeral

namespace Reader

variable {base limit n width : Nat} {rest : List Char}

/-- A padded number is read back, however wide it is. -/
theorem takes_number (htwo : 2 ≤ base) (hbase : base ≤ 16) (hn : n < limit)
    (hbars : Bars (isDigit base) rest) :
    (number base limit).Takes (Numeral.padded base width n) n rest := by
  rw [Numeral.padded_eq_map]
  generalize hns : List.replicate _ 0 ++ Numeral.digits base n = ns
  have hdigits : ∀ d ∈ ns, d < base := by
    rw [← hns]
    intro d hd
    rcases List.mem_append.1 hd with hd | hd
    · rw [List.eq_of_mem_replicate hd]
      exact Nat.lt_of_lt_of_le Nat.two_pos htwo
    · exact Numeral.digits_lt htwo n d hd
  have hvalue : Numeral.value base ns = n := by
    rw [← hns, Numeral.value_replicate_append, Numeral.value_digits]
  have hsome : ns ≠ [] := by
    rw [← hns]
    exact List.append_ne_nil_of_right_ne_nil _ (Numeral.digits_ne_nil base n)
  have hall : (repeated (digit base)).Takes (ns.map Numeral.digitChar) ns rest :=
    congrArg some (collect_digits hbase hdigits hbars)
  have h := hall.check (q := fun ns => Numeral.value base ns < limit ∧ ns ≠ [])
    ⟨hvalue ▸ hn, hsome⟩ (Numeral.value base)
  rwa [hvalue] at h

end Reader

/-! ## Kinds -/

namespace EventKind

/-- Takes the number of a numbered kind. -/
def numberReader : Reader EventKind := do
  let n ← Reader.word ['('] *> Reader.number 10 UInt8.size
  Reader.char ')'
  return other (.ofNat n)

/-- Takes what follows the name of a kind. -/
def readerAfter (name : List Char) : Reader EventKind :=
  match ofLabel? (String.ofList name) with
  | some k => pure k
  | none => if name = "Other".toList then numberReader else failure

/-- Takes a kind. -/
def reader : Reader EventKind := do
  readerAfter (← Reader.someRun Char.isAlpha)

theorem mem_named_or_eq_other (k : EventKind) : k ∈ named ∨ ∃ n, k = other n := by
  cases k with
  | other n => exact .inr ⟨n, rfl⟩
  | _ => exact .inl (by decide)

/-- The names of kinds are made of letters, and no two kinds have the same. -/
theorem label_of_mem_named : ∀ k ∈ named, ofLabel? k.label = some k ∧ k.chars = k.label.toList ∧
    k.label.toList ≠ [] ∧ k.label.toList.all Char.isAlpha = true := by
  decide

theorem takes_numberReader (n : UInt8) (rest : List Char) :
    numberReader.Takes (['('] ++ Numeral.padded 10 1 n.toNat ++ [')']) (other n) rest := by
  have hend : (do Reader.char ')'; return other (.ofNat n.toNat) : Reader EventKind).Takes [')']
      (other n) rest := by
    rw [UInt8.ofNat_toNat]
    exact (Reader.takes_char ')' rest).bind (f := fun _ => pure (other n)) (Reader.takes_pure _ _)
  have hnumber : (Reader.number 10 UInt8.size).Takes (Numeral.padded 10 1 n.toNat) n.toNat
      ([')'] ++ rest) :=
    Reader.takes_number (by decide) (by decide) n.toNat_lt (.of_head (c := ')') rfl (by decide))
  exact (hnumber.after ['(']).bind hend

theorem takes_reader (k : EventKind) {rest : List Char} (hbars : Reader.Bars Char.isAlpha rest) :
    reader.Takes k.chars k rest := by
  rcases mem_named_or_eq_other k with hk | ⟨n, rfl⟩
  · obtain ⟨hlabel, hchars, hne, hall⟩ := label_of_mem_named k hk
    have hafter : readerAfter k.label.toList = pure k := by
      rw [readerAfter, String.ofList_toList, hlabel]
    have h := (Reader.takes_someRun hne (List.all_eq_true.1 hall) hbars).bind (f := readerAfter)
      (hafter ▸ Reader.takes_pure k rest)
    rwa [List.append_nil, ← hchars] at h
  · have hafter : readerAfter "Other".toList = numberReader := by
      rw [readerAfter, show ofLabel? (String.ofList "Other".toList) = none from by decide]
      exact if_pos rfl
    have hname : (Reader.someRun Char.isAlpha).Takes "Other".toList "Other".toList
        (['('] ++ Numeral.padded 10 1 n.toNat ++ [')'] ++ rest) :=
      Reader.takes_someRun (by decide) (List.all_eq_true.1 rfl)
        (.of_head (c := '(') rfl (by decide))
    exact hname.bind (f := readerAfter) (hafter ▸ takes_numberReader n rest)

end EventKind

/-! ## Events -/

namespace Event

/-- Takes an event. -/
def reader : Reader Event := do
  let kind ← Reader.word "Notification[notificationType=".toList *> EventKind.reader
  let code ← Reader.word ", notificationCode=".toList *> Reader.number 10 UInt8.size
  let homeId ← Reader.word ", homeId=0x".toList *> Reader.number 16 UInt32.size
  let nodeId ← Reader.word ", nodeId=0x".toList *> Reader.number 16 UInt8.size
  let valueType ← Reader.word ", valueType=".toList *> Reader.number 10 UInt8.size
  let valueId ← Reader.word ", valueId=0x".toList *> Reader.number 16 UInt64.size
  Reader.char ']'
  return {
    kind := kind
    code := .ofNat code
    homeId := .ofNat homeId
    nodeId := .ofNat nodeId
    valueType := .ofNat valueType
    valueId := .ofNat valueId }

/-- The event that a text shows. -/
def ofText? (s : String) : Option Event :=
  Reader.whole? reader s

/-- The printed form, part by part. -/
theorem chars_eq (e : Event) : e.chars =
    ("Notification[notificationType=".toList ++ e.kind.chars) ++
    ((", notificationCode=".toList ++ Numeral.padded 10 1 e.code.toNat) ++
    ((", homeId=0x".toList ++ Numeral.padded 16 8 e.homeId.toNat) ++
    ((", nodeId=0x".toList ++ Numeral.padded 16 2 e.nodeId.toNat) ++
    ((", valueType=".toList ++ Numeral.padded 10 1 e.valueType.toNat) ++
    ((", valueId=0x".toList ++ Numeral.padded 16 8 e.valueId.toNat) ++ [']']))))) := by
  unfold chars
  simp only [List.append_assoc]

/-- A field with a number, after which another field comes or the end. -/
theorem takes_field {base limit n : Nat} (hbase : 2 ≤ base ∧ base ≤ 16) (hn : n < limit)
    (width : Nat) (words : List Char) {rest : List Char}
    (hhead : rest.head? = some ',' ∨ rest.head? = some ']') :
    (Reader.word words *> Reader.number base limit).Takes
      (words ++ Numeral.padded base width n) n rest := by
  have hbars : Reader.Bars (Reader.isDigit base) rest := by
    rcases hhead with hhead | hhead <;>
      exact .of_head hhead (by simp [Reader.isDigit, Numeral.digitValue?])
  exact (Reader.takes_number hbase.1 hbase.2 hn hbars).after words

theorem takes_reader (e : Event) (rest : List Char) : reader.Takes e.chars e rest := by
  rw [chars_eq]
  refine ((EventKind.takes_reader e.kind (.of_head (c := ',') rfl (by decide))).after _).bind ?_
  refine (takes_field (by decide) e.code.toNat_lt 1 _ (.inl rfl)).bind ?_
  refine (takes_field (by decide) e.homeId.toNat_lt 8 _ (.inl rfl)).bind ?_
  refine (takes_field (by decide) e.nodeId.toNat_lt 2 _ (.inl rfl)).bind ?_
  refine (takes_field (by decide) e.valueType.toNat_lt 1 _ (.inl rfl)).bind ?_
  refine (takes_field (by decide) e.valueId.toNat_lt 8 _ (.inr rfl)).bind ?_
  have hend := (Reader.takes_char ']' rest).bind (f := fun _ => pure e) (Reader.takes_pure e rest)
  simp only [UInt8.ofNat_toNat, UInt32.ofNat_toNat, UInt64.ofNat_toNat]
  exact hend

/-- An event can be read from its printed form. -/
theorem ofText?_text (e : Event) : ofText? e.text = some e := by
  have h := takes_reader e []
  rw [Reader.Takes, List.append_nil] at h
  rw [ofText?, Reader.whole?, text, String.toList_ofList, h]

/-- **The printed form of an event identifies it.**  Events are equal if their printed forms are,
and each can be read back from its own. -/
theorem text_identifies (e e' : Event) : (e.text = e'.text ↔ e = e') ∧ ofText? e.text = some e := by
  refine ⟨⟨fun htext => ?_, congrArg text⟩, e.ofText?_text⟩
  have hread := congrArg ofText? htext
  rw [ofText?_text, ofText?_text] at hread
  exact Option.some.inj hread

/-- A number that is wider than its padding, and one that is not. -/
example : Numeral.padded 16 8 0x123456789a = "123456789a".toList ∧
    Numeral.padded 16 8 0x1a = "0000001a".toList := by
  decide +kernel

end Event

end Hotplug
