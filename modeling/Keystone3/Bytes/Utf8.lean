import Mathlib.Data.UInt

/-!
# Texts as bytes

The bytes of a text in UTF-8, and the text of bytes that are some text's. A text is read
as it is written (`ofUtf8_utf8`), and what is read was written so (`utf8_of_ofUtf8`).
-/

namespace Keystone3.Bytes

def utf8 (text : List Char) : List UInt8 := text.flatMap String.utf8EncodeChar

def ofUtf8 (bytes : List UInt8) : Option (List Char) :=
  bytes.toByteArray.utf8Decode?.map Array.toList

theorem toByteArray_utf8 (text : List Char) : (utf8 text).toByteArray = text.utf8Encode := rfl

theorem ofUtf8_utf8 (text : List Char) : ofUtf8 (utf8 text) = some text := by
  rw [ofUtf8, toByteArray_utf8, List.utf8Decode?_utf8Encode]
  rfl

theorem utf8_inj {s t : List Char} (h : utf8 s = utf8 t) : s = t := by
  have hread := ofUtf8_utf8 s
  rw [h, ofUtf8_utf8] at hread
  exact (Option.some.inj hread).symm

theorem utf8_of_ofUtf8 {bytes : List UInt8} {text : List Char} (h : ofUtf8 bytes = some text) :
    utf8 text = bytes := by
  obtain ⟨chars, hchars, rfl⟩ := Option.map_eq_some_iff.mp h
  have hsome : (bytes.toByteArray.utf8Decode?).isSome := by
    rw [hchars]
    rfl
  have hencode := ByteArray.utf8Encode_get_utf8Decode? (h := hsome)
  have hget : bytes.toByteArray.utf8Decode?.get hsome = chars := by
    rw [Option.get_of_eq_some hsome hchars]
  rw [hget, ← toByteArray_utf8] at hencode
  have hdata := congrArg (fun b : ByteArray => b.data.toList) hencode
  simpa using hdata

theorem utf8_of_ascii {text : List Char} (h : ∀ c ∈ text, c.toNat < 128) :
    utf8 text = text.map fun c => UInt8.ofNat c.toNat := by
  induction text with
  | nil => rfl
  | cons c text ih =>
    have hencode : String.utf8EncodeChar c = [UInt8.ofNat c.toNat] :=
      if_pos (Nat.le_of_lt_succ (h c (.head _)))
    rw [utf8, List.flatMap_cons, hencode, List.map_cons]
    exact congrArg (_ :: ·) (ih fun d hd => h d (List.mem_cons_of_mem c hd))

theorem first_of_utf8EncodeChar (c : Char) :
    ∃ b bytes, String.utf8EncodeChar c = b :: bytes
      ∧ (c.toNat < 0x80 ∧ b.toNat = c.toNat ∧ bytes = [] ∨ 0x80 ≤ c.toNat ∧ 0xc0 ≤ b.toNat) := by
  have hbyte : ∀ n < 256, (UInt8.ofNat n).toNat = n := fun n hn => UInt8.toNat_ofNat_of_lt' hn
  have hval : c.toNat = c.val.toNat := rfl
  unfold String.utf8EncodeChar
  dsimp only
  split
  · exact ⟨_, _, rfl, .inl ⟨by omega, hbyte _ (by omega), rfl⟩⟩
  split
  · exact ⟨_, _, rfl, .inr ⟨by omega, by rw [hbyte _ (by omega)]; omega⟩⟩
  split
  · exact ⟨_, _, rfl, .inr ⟨by omega, by rw [hbyte _ (by omega)]; omega⟩⟩
  · exact ⟨_, _, rfl, .inr ⟨by omega, by rw [hbyte _ (by omega)]; omega⟩⟩

theorem first_of_utf8 {text : List Char} {b : UInt8} {bytes : List UInt8}
    (h : utf8 text = b :: bytes) : b.toNat < 0x80 ∨ 0xc0 ≤ b.toNat := by
  cases text with
  | nil => cases h
  | cons c text =>
    obtain ⟨b', bytes', hchar, hb'⟩ := first_of_utf8EncodeChar c
    rw [utf8, List.flatMap_cons, hchar, List.cons_append, List.cons.injEq] at h
    rw [← h.1]
    rcases hb' with ⟨hc, hb, -⟩ | ⟨-, hb⟩
    · exact .inl (hb ▸ hc)
    · exact .inr hb

/-- The ideographs from `0x4e00` on are not in ASCII. -/
theorem ideograph_ascii (c : Char) (hc : c.toNat < 128) :
    (decide (0x4e00 ≤ c.toNat) && decide (c.toNat < 0xa000)) = false := by
  rw [Bool.and_eq_false_iff]
  exact .inl (decide_eq_false (by omega))

end Keystone3.Bytes
