import LangBench.Proofs.Text.Utf16

/-!
# Bytes that are text

Bytes that decode are the bytes of what they decode to, so a decoder refuses exactly what is no
text.  UTF-8 is refused at the end of the longest part that is a text.

* `Utf8.WellFormed`, `Utf16.WellFormed`: bytes that are a text;
* `Utf8.encodeChar_of_next`: a chunk that is a character is made of the bytes of that character;
* `Utf8.exists_readable`: every byte string is a text and then bytes that begin no character;
* `Utf8.decode_eq_ok_iff`, `Utf8.exists_fault`, `Utf8.isValid_iff`: what is accepted, and where the
  rest is refused;
* `Utf16.decode_eq_some_iff`, `Utf16.decode_eq_none_iff`: the same for UTF-16 of even length.
-/

namespace LangBench.Text.Utf8

/-- Whether bytes are a text in UTF-8. -/
def WellFormed (bs : List UInt8) : Prop :=
  ∃ cs, encode cs = bs

/-! ### Characters from their bytes -/

/-- The code of a character that is made from its code. -/
theorem toNat_charOfNat {n : Nat} (h : n < 0xD800 ∨ 0xE000 ≤ n ∧ n < 0x110000) :
    (Char.ofNat n).toNat = n := by
  have valid : n.isValidChar := by
    unfold Nat.isValidChar
    omega
  rw [Char.ofNat, dif_pos valid]
  rfl

/-- What may follow a lead byte. -/
theorem isSecond_bounds {lead b : UInt8} (h : isSecond lead b = true) :
    (0x80 ≤ b.toNat ∧ b.toNat ≤ 0xBF) ∧ (lead.toNat = 0xE0 → 0xA0 ≤ b.toNat) ∧
      (lead.toNat = 0xED → b.toNat ≤ 0x9F) ∧ (lead.toNat = 0xF0 → 0x90 ≤ b.toNat) ∧
      (lead.toNat = 0xF4 → b.toNat ≤ 0x8F) := by
  rw [isSecond, Bool.and_eq_true, isTail_iff] at h
  obtain ⟨tail, narrow⟩ := h
  simp only [← UInt8.toNat_inj, UInt8.le_iff_toNat_le, UInt8.reduceToNat] at narrow
  split_ifs at narrow <;> simp only [decide_eq_true_eq] at narrow <;> omega

variable {a b c d : UInt8} {n : Nat}

theorem encodeChar_one (h : a.toNat < 0x80) : encodeChar (Char.ofNat a.toNat) = [a] := by
  have value : (Char.ofNat a.toNat).toNat = a.toNat := toNat_charOfNat (by omega)
  simp only [encodeChar, value, if_pos h, UInt8.ofNat_toNat]

theorem encodeChar_two (ha : ¬ a.toNat < 0xC2) (ha' : a.toNat < 0xE0)
    (hb : isSecond a b = true) (hn : (a.toNat - 0xC0) * 64 + tailBits b = n) :
    encodeChar (Char.ofNat n) = [a, b] := by
  have bounds := isSecond_bounds hb
  unfold tailBits at hn
  have value : (Char.ofNat n).toNat = n := toNat_charOfNat (by omega)
  have first : 0xC0 + n / 64 = a.toNat := by omega
  have second : 0x80 + n % 64 = b.toNat := by omega
  simp only [encodeChar, value, first, second, UInt8.ofNat_toNat]
  rw [if_neg (by omega), if_pos (by omega)]

theorem encodeChar_three (ha : ¬ a.toNat < 0xE0) (ha' : a.toNat < 0xF0)
    (hb : isSecond a b = true) (hc : isTail c = true)
    (hn : ((a.toNat - 0xE0) * 64 + tailBits b) * 64 + tailBits c = n) :
    encodeChar (Char.ofNat n) = [a, b, c] := by
  have bounds := isSecond_bounds hb
  rw [isTail_iff] at hc
  unfold tailBits at hn
  have value : (Char.ofNat n).toNat = n := toNat_charOfNat (by omega)
  have first : 0xE0 + n / 4096 = a.toNat := by omega
  have second : 0x80 + n / 64 % 64 = b.toNat := by omega
  have third : 0x80 + n % 64 = c.toNat := by omega
  simp only [encodeChar, value, first, second, third, UInt8.ofNat_toNat]
  rw [if_neg (by omega), if_neg (by omega), if_pos (by omega)]

theorem encodeChar_four (ha : ¬ a.toNat < 0xF0) (ha' : a.toNat < 0xF5)
    (hb : isSecond a b = true) (hc : isTail c = true) (hd : isTail d = true)
    (hn : (((a.toNat - 0xF0) * 64 + tailBits b) * 64 + tailBits c) * 64 + tailBits d = n) :
    encodeChar (Char.ofNat n) = [a, b, c, d] := by
  have bounds := isSecond_bounds hb
  rw [isTail_iff] at hc hd
  unfold tailBits at hn
  have value : (Char.ofNat n).toNat = n := toNat_charOfNat (by omega)
  have first : 0xF0 + n / 262144 = a.toNat := by omega
  have second : 0x80 + n / 4096 % 64 = b.toNat := by omega
  have third : 0x80 + n / 64 % 64 = c.toNat := by omega
  have fourth : 0x80 + n % 64 = d.toNat := by omega
  simp only [encodeChar, value, first, second, third, fourth, UInt8.ofNat_toNat]
  rw [if_neg (by omega), if_neg (by omega), if_neg (by omega)]

/-- A chunk that is a character is made of the bytes of that character. -/
theorem encodeChar_of_next {b : UInt8} {rest : List UInt8} {c : Char}
    (h : (next b rest).1 = .char c) : encodeChar c ++ (next b rest).2 = b :: rest := by
  revert h
  fun_cases next b rest with
  | case1 _ _ one =>
    intro h
    rw [← Chunk.char.inj h, encodeChar_one one, List.singleton_append]
  | case4 _ _ lower two b₁ r₁ second =>
    intro h
    have bytes := encodeChar_two lower two second rfl
    rw [← Chunk.char.inj h, bytes]
    rfl
  | case8 _ _ _ lower three b₁ second b₂ r₂ third =>
    intro h
    rw [← Chunk.char.inj h, encodeChar_three lower three second third rfl]
    rfl
  | case14 _ _ _ _ lower four b₁ second b₂ third b₃ r₃ fourth =>
    intro h
    rw [← Chunk.char.inj h, encodeChar_four lower four second third fourth rfl]
    rfl
  | _ =>
    intro h
    cases h

/-! ### Texts from their bytes -/

/-- Every byte string is a text and then bytes that begin no character. -/
theorem exists_readable (bs : List UInt8) : ∃ cs rest, encode cs ++ rest = bs ∧
    ∀ b tail, rest = b :: tail → (next b tail).1.isChar = false := by
  induction bs using chunks_induct with
  | nil => exact ⟨[], [], rfl, nofun⟩
  | cons b tail ih =>
    cases first : (next b tail).1 with
    | char c =>
      obtain ⟨cs, rest, left, bad⟩ := ih
      refine ⟨c :: cs, rest, ?_, bad⟩
      rw [encode_cons, List.append_assoc, left, encodeChar_of_next first]
    | invalid w =>
      refine ⟨[], b :: tail, rfl, ?_⟩
      rintro _ _ ⟨⟩
      rw [first]
      rfl
    | truncated w =>
      refine ⟨[], b :: tail, rfl, ?_⟩
      rintro _ _ ⟨⟩
      rw [first]
      rfl

theorem length_encodeChar (c : Char) : (encodeChar c).length = c.utf8Size := by
  rw [encodeChar_eq, String.length_utf8EncodeChar]

theorem totalWidth_map_char (cs : List Char) :
    totalWidth (cs.map Chunk.char) = (encode cs).length := by
  induction cs with
  | nil => rfl
  | cons c cs ih =>
    rw [encode_cons, List.length_append, length_encodeChar, ← ih]
    rfl

/-! ### Faults -/

/-- The place of a fault. -/
def Fault.index : Fault → Nat
  | .invalid _ i => i
  | .truncated i => i

theorem index_fault (i : Nat) (chunk : Chunk) : (chunk.fault i).index = i := by
  cases chunk <;> rfl

/-- A fault is told with its place at the end. -/
theorem Fault.exists_message_eq (f : Fault) :
    ∃ kind, f.message = kind ++ " from index " ++ toString f.index := by
  cases f with
  | invalid w i =>
    refine ⟨"invalid utf-8 sequence of " ++ toString w ++ " bytes", ?_⟩
    have words : "invalid utf-8 sequence of " ++ toString w ++ " bytes" ++ " from index " =
        "invalid utf-8 sequence of " ++ toString w ++ " bytes from index " := String.append_assoc
    rw [words]
    rfl
  | truncated i => exact ⟨"incomplete utf-8 byte sequence", rfl⟩

/-- A text and then bytes that begin no character are refused where the text ends. -/
theorem decode_append {b : UInt8} {tail : List UInt8} (bad : (next b tail).1.isChar = false)
    (cs : List Char) : decode (encode cs ++ b :: tail) =
      .error ((next b tail).1.fault (encode cs).length) := by
  have chars : ∀ chunk ∈ cs.map Chunk.char, chunk.isChar = true := by
    intro chunk mem
    obtain ⟨c, -, rfl⟩ := List.mem_map.1 mem
    rfl
  simp only [decode, chunks_encode_append, chunks_cons, List.dropWhile_append_of_pos chars,
    List.takeWhile_append_of_pos chars, List.dropWhile_cons_of_neg (Bool.not_eq_true _ ▸ bad),
    List.takeWhile_cons_of_neg (Bool.not_eq_true _ ▸ bad), List.append_nil, totalWidth_map_char]

/-- What begins no character does not begin a text, however much is left out at its end. -/
theorem not_wellFormed {b : UInt8} {tail : List UInt8} (bad : (next b tail).1.isChar = false)
    (k : Nat) : ¬ WellFormed (b :: tail.take k) := by
  rintro ⟨cs, bytes⟩
  cases cs with
  | nil => cases bytes
  | cons c cs =>
    obtain ⟨b', tail', first, read⟩ := next_encodeChar c
    rw [encode_cons, first, List.cons_append] at bytes
    obtain ⟨rfl, start⟩ := List.cons.inj bytes
    rw [← List.take_append_drop k tail, ← start, List.append_assoc, read] at bad
    cases bad

/-- A text that begins with the bytes of another begins with that text. -/
theorem wellFormed_append_iff (cs : List Char) (bs : List UInt8) :
    WellFormed (encode cs ++ bs) ↔ WellFormed bs := by
  constructor
  · rintro ⟨ds, bytes⟩
    have starts : cs.isPrefixOf ds = true := by
      rw [← isPrefixOf_encode, List.isPrefixOf_iff_prefix, bytes]
      exact List.prefix_append _ _
    obtain ⟨es, rfl⟩ := List.isPrefixOf_iff_prefix.1 starts
    rw [encode_append] at bytes
    exact ⟨es, List.append_cancel_left bytes⟩
  · rintro ⟨ds, rfl⟩
    exact ⟨cs ++ ds, encode_append cs ds⟩

/-- What decodes is the text that it decodes to. -/
theorem decode_eq_ok_iff {bs : List UInt8} {cs : List Char} :
    decode bs = .ok cs ↔ encode cs = bs := by
  constructor
  · intro decoded
    obtain ⟨ds, rest, rfl, bad⟩ := exists_readable bs
    cases rest with
    | nil =>
      rw [List.append_nil, decode_encode] at decoded
      rw [List.append_nil, Except.ok.inj decoded]
    | cons b tail =>
      rw [decode_append (bad b tail rfl)] at decoded
      cases decoded
  · rintro rfl
    exact decode_encode cs

/-- Other bytes are refused, at the end of their longest part that is a text. -/
theorem exists_fault {bs : List UInt8} (h : ¬ WellFormed bs) : ∃ f, decode bs = .error f ∧
    f.index < bs.length ∧ WellFormed (bs.take f.index) ∧
    ∀ n, f.index < n → n ≤ bs.length → ¬ WellFormed (bs.take n) := by
  obtain ⟨cs, rest, rfl, bad⟩ := exists_readable bs
  cases rest with
  | nil => exact absurd ⟨cs, (List.append_nil _).symm⟩ h
  | cons b tail =>
    refine ⟨_, decode_append (bad b tail rfl) cs, ?_, ?_, ?_⟩
    · rw [index_fault, List.length_append, List.length_cons]
      omega
    · rw [index_fault, List.take_left]
      exact ⟨cs, rfl⟩
    · intro n above within
      rw [index_fault] at above
      obtain ⟨k, rfl⟩ : ∃ k, n = (encode cs).length + (k + 1) :=
        ⟨n - (encode cs).length - 1, by omega⟩
      rw [List.take_length_add_append, wellFormed_append_iff, List.take_succ_cons]
      exact not_wellFormed (bad b tail rfl) k

theorem isValid_iff (bs : List UInt8) : isValid bs = true ↔ WellFormed bs := by
  constructor
  · intro valid
    obtain ⟨cs, rest, rfl, bad⟩ := exists_readable bs
    cases rest with
    | nil => exact ⟨cs, (List.append_nil _).symm⟩
    | cons b tail =>
      rw [isValid, chunks_encode_append, chunks_cons, List.all_append, List.all_cons,
        bad b tail rfl, Bool.false_and, Bool.and_false] at valid
      cases valid
  · rintro ⟨cs, rfl⟩
    exact isValid_encode cs

end LangBench.Text.Utf8

namespace LangBench.Text.Utf16

variable (order : ByteOrder)

/-- Whether bytes are a text in UTF-16. -/
def WellFormed (bs : List UInt8) : Prop :=
  ∃ cs, encode order cs = bs

/-! ### Units -/

theorem ByteOrder.unit_lt (a b : UInt8) : order.unit a b < 65536 := by
  have ha := a.toNat_lt
  have hb := b.toNat_lt
  cases order <;> simp only [unit] <;> omega

/-- A unit is written with the bytes that make it. -/
theorem ByteOrder.bytes_unit (a b : UInt8) : order.bytes (order.unit a b) = [a, b] := by
  have ha := a.toNat_lt
  have hb := b.toNat_lt
  cases order with
  | little =>
    have low : (a.toNat + 256 * b.toNat) % 256 = a.toNat := by omega
    have high : (a.toNat + 256 * b.toNat) / 256 = b.toNat := by omega
    simp only [unit, bytes, low, high, UInt8.ofNat_toNat]
  | big =>
    have low : (256 * a.toNat + b.toNat) % 256 = b.toNat := by omega
    have high : (256 * a.toNat + b.toNat) / 256 = a.toNat := by omega
    simp only [unit, bytes, low, high, UInt8.ofNat_toNat]

/-- A unit that is no surrogate stands for a character of its own. -/
theorem units_of_not_surrogate {u : Nat} (h : u < 65536) (notHigh : ¬ isHigh u = true)
    (notLow : ¬ isLow u = true) : units (Char.ofNat u) = [u] := by
  simp only [isHigh, isLow, Bool.and_eq_true, decide_eq_true_eq] at notHigh notLow
  have value : (Char.ofNat u).toNat = u := Utf8.toNat_charOfNat (by omega)
  simp only [units, value, if_pos h]

/-- A pair of surrogates stands for one character. -/
theorem units_of_pair {u v : Nat} (high : isHigh u = true) (low : isLow v = true) :
    units (Char.ofNat (0x10000 + (u - 0xD800) * 1024 + (v - 0xDC00))) = [u, v] := by
  simp only [isHigh, isLow, Bool.and_eq_true, decide_eq_true_eq] at high low
  generalize hn : 0x10000 + (u - 0xD800) * 1024 + (v - 0xDC00) = n
  have value : (Char.ofNat n).toNat = n := Utf8.toNat_charOfNat (by omega)
  have first : 0xD800 + (n - 0x10000) / 1024 = u := by omega
  have second : 0xDC00 + (n - 0x10000) % 1024 = v := by omega
  simp only [units, value, first, second]
  rw [if_neg (by omega)]

/-! ### Texts -/

theorem encode_append (cs ds : List Char) :
    encode order (cs ++ ds) = encode order cs ++ encode order ds :=
  List.flatMap_append

theorem encode_singleton (c : Char) : encode order [c] = (units c).flatMap order.bytes :=
  List.flatMap_singleton ..

/-- Bytes of an even number that decode are the bytes of what they decode to. -/
theorem encode_of_decodeFrom {done cs : List Char} {bs : List UInt8} (even : bs.length % 2 = 0)
    (h : decodeFrom order done bs = some cs) :
    encode order done.reverse ++ bs = encode order cs := by
  fun_induction decodeFrom order done bs with
  | case1 done a b u high c d rest v low ih =>
    have read := ih (by rw [← even]; simp only [List.length_cons]; omega) h
    rw [List.reverse_cons, encode_append, encode_singleton, units_of_pair high low] at read
    simpa [ByteOrder.bytes_unit, u, v] using read
  | case2 => cases h
  | case3 => cases h
  | case4 => cases h
  | case5 done a b rest u notHigh notLow ih =>
    have read := ih (by rw [← even]; simp only [List.length_cons]; omega) h
    rw [List.reverse_cons, encode_append, encode_singleton,
      units_of_not_surrogate (order.unit_lt a b) notHigh notLow] at read
    simpa [ByteOrder.bytes_unit, u] using read
  | case6 bs done short =>
    obtain rfl := Option.some.inj h
    cases bs with
    | nil => exact List.append_nil _
    | cons a rest =>
      cases rest with
      | nil => cases even
      | cons b rest => exact absurd rfl (short a b rest)

/-- Bytes of an even number decode to a text if and only if they are its bytes. -/
theorem decode_eq_some_iff {bs : List UInt8} (even : bs.length % 2 = 0) {cs : List Char} :
    decode order bs = some cs ↔ encode order cs = bs := by
  constructor
  · intro decoded
    exact (encode_of_decodeFrom order even decoded).symm
  · rintro rfl
    exact decode_encode order cs

theorem decode_eq_none_iff {bs : List UInt8} (even : bs.length % 2 = 0) :
    decode order bs = none ↔ ¬ WellFormed order bs := by
  rw [Option.eq_none_iff_forall_ne_some, WellFormed, not_exists]
  exact forall_congr' fun cs => not_congr (decode_eq_some_iff order even)

end LangBench.Text.Utf16
