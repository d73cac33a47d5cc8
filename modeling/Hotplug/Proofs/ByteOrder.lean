import Hotplug.Text.Utf8
import Mathlib.Data.String.Basic

/-!
# The order of bytes

Texts are compared character by character.  Their UTF-8 bytes, compared byte by byte, come in the
same order: no character's bytes begin another one's, and of two characters the larger one has the
larger bytes.

* `Utf8.bytes` — the bytes of a text.
* `Utf8.Precedes` — the order of two byte strings whatever follows them.
* `Utf8.bytes_lt_bytes` — texts are in the order of their bytes.
-/

namespace Hotplug.Utf8

/-- The bytes of a text. -/
def bytes (s : String) : List UInt8 :=
  s.toByteArray.data.toList

theorem bytes_eq_flatMap (s : String) : bytes s = s.toList.flatMap String.utf8EncodeChar := by
  conv_lhs => rw [bytes, ← String.ofList_toList (s := s), String.toByteArray_ofList]
  simp [List.utf8Encode]

/-! ## One character -/

/-- The first byte string comes before the second one, whatever follows them. -/
def Precedes (u v : List UInt8) : Prop :=
  ∀ s t, u ++ s < v ++ t

theorem Precedes.ofNat {a b : Nat} {u v : List UInt8} (hb : b < 256) (hle : a ≤ b)
    (h : a = b → Precedes u v) : Precedes (.ofNat a :: u) (.ofNat b :: v) := by
  intro s t
  rcases Nat.lt_or_eq_of_le hle with hlt | rfl
  · refine List.Lex.rel ?_
    rw [UInt8.lt_iff_toNat_lt, UInt8.toNat_ofNat_of_lt' hb, UInt8.toNat_ofNat_of_lt' (hlt.trans hb)]
    exact hlt
  · exact List.Lex.cons (h rfl s t)

/-- A smaller character has smaller bytes. -/
theorem precedes_utf8EncodeChar {c d : Char} (h : c < d) :
    Precedes (String.utf8EncodeChar c) (String.utf8EncodeChar d) := by
  have hlt : c.val.toNat < d.val.toNat := h
  have hd : d.val.toNat < 0x110000 := by
    rcases d.valid with hvalid | hvalid
    · exact Nat.lt_trans hvalid (by decide)
    · exact hvalid.2
  unfold String.utf8EncodeChar
  generalize c.val.toNat = m at hlt
  generalize d.val.toNat = n at hlt hd
  dsimp only
  split_ifs
  -- Of two lengths the longer one has the larger first byte; two characters of one length are
  -- compared byte by byte.
  all_goals
    repeat' first
      | (exfalso; omega)
      | refine .ofNat (by omega) (by omega) fun _ => ?_

/-! ## Texts -/

theorem flatMap_utf8EncodeChar_lt {cs ds : List Char} (h : cs < ds) :
    cs.flatMap String.utf8EncodeChar < ds.flatMap String.utf8EncodeChar := by
  induction h with
  | @nil d ds =>
    obtain ⟨b, bs, hbs⟩ :=
      List.exists_cons_of_ne_nil (String.utf8EncodeChar_ne_nil : String.utf8EncodeChar d ≠ [])
    rw [List.flatMap_nil, List.flatMap_cons, hbs]
    exact List.Lex.nil
  | rel h =>
    rw [List.flatMap_cons, List.flatMap_cons]
    exact precedes_utf8EncodeChar h _ _
  | cons h ih => exact List.append_left_lt ih

/-- Texts are in the order of their bytes. -/
theorem bytes_lt_bytes {s t : String} : bytes s < bytes t ↔ s < t := by
  have hmono : ∀ {s t : String}, s < t → bytes s < bytes t := by
    intro s t h
    rw [bytes_eq_flatMap, bytes_eq_flatMap]
    exact flatMap_utf8EncodeChar_lt (String.lt_iff_toList_lt.1 h)
  refine ⟨fun h => ?_, hmono⟩
  rcases lt_trichotomy s t with hlt | rfl | hgt
  · exact hlt
  · exact absurd h (List.lt_irrefl _)
  · exact absurd (hmono hgt) (List.lt_asymm h)

end Hotplug.Utf8
