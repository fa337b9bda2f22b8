import CardPress.Digest
import CardPress.Proofs.Json.Strings

/-!
# Digests in hexadecimal

The hexadecimal form of a digest keeps all of it, so texts with one such form are equal, or they are
a collision of the digest.

## Main definitions

* `Sha256.Collide` — different messages with one digest.

## Main results

* `Sha256.hex_injective` — no two byte strings have one hexadecimal form.
* `Sha256.eq_or_collide` — what one digest of two texts says about them.
-/

namespace CardPress.Sha256

/-! ## Bytes -/

theorem toList_loop (bytes : ByteArray) (i : ℕ) (acc : List UInt8) :
    ByteArray.toList.loop bytes i acc = acc.reverse ++ bytes.data.toList.drop i := by
  fun_induction ByteArray.toList.loop bytes i acc with
  | case1 i acc h ih =>
    have hlt : i < bytes.data.toList.length := by simpa using h
    have hget : bytes.get! i = bytes.data.toList[i] := by simp [ByteArray.get!, h]
    rw [ih, List.drop_eq_getElem_cons hlt, hget, List.reverse_cons, List.append_assoc,
      List.singleton_append]
  | case2 i acc h =>
    have hlast : bytes.data.toList.drop i = [] := List.drop_of_length_le (by simpa using h)
    rw [hlast, List.append_nil]

theorem toList_injective {bytes bytes' : ByteArray} (h : bytes.toList = bytes'.toList) :
    bytes = bytes' := by
  rw [ByteArray.toList, ByteArray.toList, toList_loop, toList_loop] at h
  exact ByteArray.ext (Array.toList_inj.1 (by simpa using h))

/-! ## Hexadecimal form -/

def byteDigits (b : UInt8) : List Char :=
  [(b.toNat / 16).digitChar, (b.toNat % 16).digitChar]

theorem toList_hex (bytes : ByteArray) : (hex bytes).toList = bytes.toList.flatMap byteDigits := by
  have hbyte : ∀ (b : UInt8) (out : String),
      (out ++ (if b < 16 then "0" else "") ++ Text.hex b.toNat).toList =
        out.toList ++ byteDigits b := by
    intro b out
    have hhex : (Text.hex b.toNat).toList = Nat.toDigits 16 b.toNat := String.toList_ofList
    have hpad : (if b < 16 then "0" else "").toList = if b.toNat < 0x10 then ['0'] else [] := by
      simp only [UInt8.lt_iff_toNat_lt]
      exact apply_ite String.toList _ _ _
    rw [String.toList_append, String.toList_append, List.append_assoc, hhex, hpad,
      Json.toDigits_byte b.toNat_lt, byteDigits]
  have hfold : ∀ (bs : List UInt8) (out : String),
      (bs.foldl (fun out b => out ++ (if b < 16 then "0" else "") ++ Text.hex b.toNat) out).toList =
        out.toList ++ bs.flatMap byteDigits := by
    intro bs
    induction bs with
    | nil => simp
    | cons b bs ih =>
      intro out
      rw [List.foldl_cons, ih, hbyte, List.flatMap_cons, List.append_assoc]
  exact hfold _ _

theorem digitChar_inj {m n : ℕ} (hm : m < 16) (hn : n < 16) (h : m.digitChar = n.digitChar) :
    m = n := by
  have hdigit := Json.hexDigit?_digitChar hm
  rw [h, Json.hexDigit?_digitChar hn] at hdigit
  exact (Option.some.inj hdigit).symm

theorem flatMap_byteDigits_injective {bs bs' : List UInt8}
    (h : bs.flatMap byteDigits = bs'.flatMap byteDigits) : bs = bs' := by
  induction bs generalizing bs' with
  | nil =>
    cases bs' with
    | nil => rfl
    | cons b bs' => simp [byteDigits] at h
  | cons b bs ih =>
    cases bs' with
    | nil => simp [byteDigits] at h
    | cons b' bs' =>
      simp only [List.flatMap_cons, byteDigits, List.cons_append, List.nil_append,
        List.cons.injEq] at h
      obtain ⟨hhigh, hlow, hrest⟩ := h
      have hb := b.toNat_lt
      have hb' := b'.toNat_lt
      have hhigh := digitChar_inj (by omega) (by omega) hhigh
      have hlow := digitChar_inj (by omega) (by omega) hlow
      rw [UInt8.toNat_inj.1 (show b.toNat = b'.toNat by omega), ih hrest]

theorem hex_injective {bytes bytes' : ByteArray} (h : hex bytes = hex bytes') : bytes = bytes' := by
  refine toList_injective (flatMap_byteDigits_injective ?_)
  rw [← toList_hex, ← toList_hex, h]

/-- Different messages with one digest. -/
structure Collide (message message' : ByteArray) : Prop where
  ne : message ≠ message'
  digest_eq : digest message = digest message'

/-- Texts with one digest are equal unless they are a collision. -/
theorem eq_or_collide {s t : String} (h : hexOfText s = hexOfText t) :
    s = t ∨ Collide s.toUTF8 t.toUTF8 := by
  by_cases hst : s = t
  · exact .inl hst
  · exact .inr ⟨fun hbytes => hst (String.toByteArray_inj.1 hbytes), hex_injective h⟩

end CardPress.Sha256
