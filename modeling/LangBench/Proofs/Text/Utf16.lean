import LangBench.Proofs.Text.Utf8
import LangBench.Text.Utf16

/-!
# UTF-16 read back

The bytes of a text in either order decode to the text.

* `ByteOrder.unit_bytes`: two bytes make the unit that they come from;
* `decodeFrom_units`: the units of a character are read as that character;
* `decode_encode`: the bytes of a text decode to the text, and their number is even.
-/

namespace LangBench.Text.Utf16

variable (order : ByteOrder)

/-- The bytes of a unit make that unit. -/
theorem ByteOrder.unit_bytes {u : Nat} (h : u < 65536) :
    ∃ a b, order.bytes u = [a, b] ∧ order.unit a b = u := by
  have low : (UInt8.ofNat (u % 256)).toNat = u % 256 := Utf8.toNat_ofNat (by omega)
  have high : (UInt8.ofNat (u / 256)).toNat = u / 256 := Utf8.toNat_ofNat (by omega)
  cases order with
  | little => exact ⟨_, _, rfl, by simp only [unit, low, high]; omega⟩
  | big => exact ⟨_, _, rfl, by simp only [unit, low, high]; omega⟩

/-- A unit that is no surrogate is a character. -/
theorem decodeFrom_unit {u : Nat} (h : u < 0xD800 ∨ 0xE000 ≤ u ∧ u < 65536) (done : List Char)
    (rest : List UInt8) : decodeFrom order done (order.bytes u ++ rest) =
      decodeFrom order (Char.ofNat u :: done) rest := by
  obtain ⟨a, b, bytes, unit⟩ := order.unit_bytes (show u < 65536 by omega)
  have notHigh : isHigh u = false := by simp [isHigh]; omega
  have notLow : isLow u = false := by simp [isLow]; omega
  rw [bytes, List.cons_append, List.cons_append, List.nil_append, decodeFrom.eq_def]
  simp [unit, notHigh, notLow]

/-- A high surrogate and a low one are a character. -/
theorem decodeFrom_pair {i j : Nat} (hi : i < 1024) (hj : j < 1024) (done : List Char)
    (rest : List UInt8) :
    decodeFrom order done (order.bytes (0xD800 + i) ++ (order.bytes (0xDC00 + j) ++ rest)) =
      decodeFrom order (Char.ofNat (0x10000 + i * 1024 + j) :: done) rest := by
  obtain ⟨a, b, bytes, unit⟩ := order.unit_bytes (show 0xD800 + i < 65536 by omega)
  obtain ⟨c, d, bytes', unit'⟩ := order.unit_bytes (show 0xDC00 + j < 65536 by omega)
  have high : isHigh (0xD800 + i) = true := by simp [isHigh]; omega
  have low : isLow (0xDC00 + j) = true := by simp [isLow]; omega
  simp only [bytes, bytes', List.cons_append, List.nil_append]
  rw [decodeFrom.eq_def]
  simp [unit, unit', high, low]

/-- The units of a character are read as that character. -/
theorem decodeFrom_units (c : Char) (done : List Char) (rest : List UInt8) :
    decodeFrom order done ((units c).flatMap order.bytes ++ rest) =
      decodeFrom order (c :: done) rest := by
  have scalar := Utf8.isScalar c
  unfold units
  dsimp only
  split_ifs with basic
  · rw [List.flatMap_singleton, decodeFrom_unit order (by omega), Char.ofNat_toNat]
  · have value : 0x10000 + (c.toNat - 0x10000) / 1024 * 1024 + (c.toNat - 0x10000) % 1024 =
        c.toNat := by omega
    rw [List.flatMap_cons, List.flatMap_singleton, List.append_assoc,
      decodeFrom_pair order (by omega) (by omega), value, Char.ofNat_toNat]

theorem decodeFrom_encode (cs done : List Char) :
    decodeFrom order done (encode order cs) = some (done.reverse ++ cs) := by
  induction cs generalizing done with
  | nil => simp [encode, decodeFrom]
  | cons c cs ih =>
    rw [encode, List.flatMap_cons, decodeFrom_units, ← encode, ih, List.reverse_cons,
      List.append_assoc, List.singleton_append]

/-- The bytes of a text decode to the text. -/
theorem decode_encode (cs : List Char) : decode order (encode order cs) = some cs :=
  decodeFrom_encode order cs []

theorem length_bytes (u : Nat) : (order.bytes u).length = 2 := by
  cases order <;> rfl

/-- The number of bytes of a text is even. -/
theorem length_encode (cs : List Char) : (encode order cs).length % 2 = 0 := by
  induction cs with
  | nil => rfl
  | cons c cs ih =>
    have even : ((units c).flatMap order.bytes).length % 2 = 0 := by
      unfold units
      dsimp only
      split_ifs <;> simp [length_bytes]
    rw [encode, List.flatMap_cons, List.length_append, ← encode]
    omega

end LangBench.Text.Utf16
