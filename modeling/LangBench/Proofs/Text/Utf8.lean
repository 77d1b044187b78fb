import LangBench.Text.Utf8
import Mathlib.Data.List.TakeWhile

/-!
# UTF-8 read back

The bytes of a text are cut into its characters again, so decoding them gives the text back.

* `encodeChar_eq`: the bytes of a character are those that core gives it;
* `next_one`, `next_two`, `next_three`, `next_four`: characters by the number of their bytes;
* `next_encodeChar`: the first chunk of the bytes of a character is that character;
* `chunks_encode_append`, `chunks_encode`: the chunks of the bytes of a text are its characters;
* `decode_encode`, `isValid_encode`, `decodeLossy_encode`: so the bytes are valid and decode to the
  text;
* `toNat_of_mem_encodeChar`: a byte below 80 stands for a character of its own;
* `takeWhile_encode`, `isPrefixOf_encode`: so a line and what a text begins with can be looked for
  among the bytes.
-/

namespace LangBench.Text.Utf8

/-! ### Bytes -/

theorem toNat_ofNat {n : Nat} (h : n < 256) : (UInt8.ofNat n).toNat = n := by
  rw [UInt8.toNat_ofNat', Nat.mod_eq_of_lt h]

theorem isTail_iff {b : UInt8} : isTail b = true ↔ 0x80 ≤ b.toNat ∧ b.toNat ≤ 0xBF := by
  simp only [isTail, Bool.and_eq_true, decide_eq_true_eq, UInt8.le_iff_toNat_le]
  rfl

theorem isTail_ofNat {k : Nat} (h : k < 64) : isTail (UInt8.ofNat (0x80 + k)) = true := by
  rw [isTail_iff, toNat_ofNat (show 0x80 + k < 256 by omega)]
  omega

theorem tailBits_ofNat {k : Nat} (h : k < 64) : tailBits (UInt8.ofNat (0x80 + k)) = k := by
  have value : (UInt8.ofNat (0x80 + k)).toNat = 0x80 + k := toNat_ofNat (by omega)
  unfold tailBits
  omega

/-- A continuing byte may follow a lead byte unless one of the four narrow lead bytes forbids it. -/
theorem isSecond_ofNat {lead k : Nat} (hlead : lead < 256) (hk : k < 64)
    (e0 : lead = 0xE0 → 0x20 ≤ k) (ed : lead = 0xED → k < 0x20) (f0 : lead = 0xF0 → 0x10 ≤ k)
    (f4 : lead = 0xF4 → k < 0x10) :
    isSecond (UInt8.ofNat lead) (UInt8.ofNat (0x80 + k)) = true := by
  have value : (UInt8.ofNat (0x80 + k)).toNat = 0x80 + k := toNat_ofNat (by omega)
  simp only [isSecond, isTail_ofNat hk, Bool.true_and, ← UInt8.toNat_inj, toNat_ofNat hlead,
    UInt8.le_iff_toNat_le, value, UInt8.reduceToNat]
  split_ifs <;> simp <;> omega

/-! ### Characters by width -/

theorem next_one {n : Nat} (h : n < 0x80) (rest : List UInt8) :
    next (UInt8.ofNat n) rest = (.char (Char.ofNat n), rest) := by
  simp only [next, toNat_ofNat (show n < 256 by omega), if_pos h]

theorem next_two {a k : Nat} (ha : 2 ≤ a) (ha' : a < 32) (hk : k < 64) (rest : List UInt8) :
    next (UInt8.ofNat (0xC0 + a)) (UInt8.ofNat (0x80 + k) :: rest) =
      (.char (Char.ofNat (a * 64 + k)), rest) := by
  have second : isSecond (UInt8.ofNat (0xC0 + a)) (UInt8.ofNat (0x80 + k)) = true :=
    isSecond_ofNat (by omega) hk (by omega) (by omega) (by omega) (by omega)
  simp only [next, toNat_ofNat (show 0xC0 + a < 256 by omega)]
  rw [if_neg (by omega), if_neg (by omega), if_pos (by omega), if_pos second, tailBits_ofNat hk,
    Nat.add_sub_cancel_left]

theorem next_three {a k l : Nat} (ha : a < 16) (hk : k < 64) (hl : l < 64)
    (overlong : a = 0 → 0x20 ≤ k) (surrogate : a = 13 → k < 0x20) (rest : List UInt8) :
    next (UInt8.ofNat (0xE0 + a)) (UInt8.ofNat (0x80 + k) :: UInt8.ofNat (0x80 + l) :: rest) =
      (.char (Char.ofNat ((a * 64 + k) * 64 + l)), rest) := by
  have second : isSecond (UInt8.ofNat (0xE0 + a)) (UInt8.ofNat (0x80 + k)) = true :=
    isSecond_ofNat (by omega) hk (by omega) (by omega) (by omega) (by omega)
  simp only [next, toNat_ofNat (show 0xE0 + a < 256 by omega)]
  rw [if_neg (by omega), if_neg (by omega), if_neg (by omega), if_pos (by omega), if_pos second,
    if_pos (isTail_ofNat hl), tailBits_ofNat hk, tailBits_ofNat hl, Nat.add_sub_cancel_left]

theorem next_four {a k l m : Nat} (ha : a < 5) (hk : k < 64) (hl : l < 64) (hm : m < 64)
    (overlong : a = 0 → 0x10 ≤ k) (large : a = 4 → k < 0x10) (rest : List UInt8) :
    next (UInt8.ofNat (0xF0 + a)) (UInt8.ofNat (0x80 + k) :: UInt8.ofNat (0x80 + l) ::
      UInt8.ofNat (0x80 + m) :: rest) =
      (.char (Char.ofNat (((a * 64 + k) * 64 + l) * 64 + m)), rest) := by
  have second : isSecond (UInt8.ofNat (0xF0 + a)) (UInt8.ofNat (0x80 + k)) = true :=
    isSecond_ofNat (by omega) hk (by omega) (by omega) (by omega) (by omega)
  simp only [next, toNat_ofNat (show 0xF0 + a < 256 by omega)]
  rw [if_neg (by omega), if_neg (by omega), if_neg (by omega), if_neg (by omega), if_pos (by omega),
    if_pos second, if_pos (isTail_ofNat hl), if_pos (isTail_ofNat hm), tailBits_ofNat hk,
    tailBits_ofNat hl, tailBits_ofNat hm, Nat.add_sub_cancel_left]

/-! ### Texts -/

/-- No character is a surrogate. -/
theorem isScalar (c : Char) : c.toNat < 0xD800 ∨ 0xE000 ≤ c.toNat ∧ c.toNat < 0x110000 := by
  have valid : c.toNat.isValidChar := c.valid
  unfold Nat.isValidChar at valid
  omega

/-- The bytes of a character are those that core gives it. -/
theorem encodeChar_eq (c : Char) : encodeChar c = String.utf8EncodeChar c := by
  have scalar := isScalar c
  unfold encodeChar String.utf8EncodeChar
  simp only [show c.val.toNat = c.toNat from rfl, Nat.add_comm]
  -- core masks the bits of the lead byte, which are few enough already
  split_ifs <;> first | omega | rfl | skip
  · have two : c.toNat / 64 % 32 = c.toNat / 64 := by omega
    rw [two]
  · have three : c.toNat / 4096 % 16 = c.toNat / 4096 := by omega
    rw [three]
  · have four : c.toNat / 262144 % 8 = c.toNat / 262144 := by omega
    rw [four]

/-- The first chunk of the bytes of a character is that character. -/
theorem next_encodeChar (c : Char) :
    ∃ b tail, encodeChar c = b :: tail ∧ ∀ rest, next b (tail ++ rest) = (.char c, rest) := by
  have scalar := isScalar c
  have same : ∀ {n}, n = c.toNat → Chunk.char (Char.ofNat n) = .char c := by
    rintro n rfl
    rw [Char.ofNat_toNat]
  unfold encodeChar
  dsimp only
  split_ifs with one two three
  · refine ⟨_, _, rfl, fun rest => ?_⟩
    rw [List.nil_append, next_one one, same rfl]
  · refine ⟨_, _, rfl, fun rest => ?_⟩
    rw [List.cons_append, List.nil_append, next_two (by omega) (by omega) (by omega),
      same (by omega)]
  · refine ⟨_, _, rfl, fun rest => ?_⟩
    simp only [List.cons_append, List.nil_append]
    rw [next_three (by omega) (by omega) (by omega) (by omega) (by omega), same (by omega)]
  · refine ⟨_, _, rfl, fun rest => ?_⟩
    simp only [List.cons_append, List.nil_append]
    rw [next_four (by omega) (by omega) (by omega) (by omega) (by omega) (by omega),
      same (by omega)]

theorem encode_cons (c : Char) (cs : List Char) : encode (c :: cs) = encodeChar c ++ encode cs :=
  List.flatMap_cons

theorem encode_append (cs ds : List Char) : encode (cs ++ ds) = encode cs ++ encode ds :=
  List.flatMap_append

/-- The bytes of a text begin with those of its first character. -/
theorem next_encode {c : Char} {cs : List Char} {b : UInt8} {rest : List UInt8}
    (h : encode (c :: cs) = b :: rest) : next b rest = (.char c, encode cs) := by
  obtain ⟨b', tail, first, read⟩ := next_encodeChar c
  rw [encode, List.flatMap_cons, first, List.cons_append, ← encode] at h
  obtain ⟨rfl, rfl⟩ := List.cons.inj h
  exact read (encode cs)

/-- The chunks of the bytes of a text are its characters, whatever stands behind them. -/
theorem chunks_encode_append (cs : List Char) (bs : List UInt8) :
    chunks (encode cs ++ bs) = cs.map Chunk.char ++ chunks bs := by
  induction cs with
  | nil => rfl
  | cons c cs ih =>
    obtain ⟨b, tail, first, read⟩ := next_encodeChar c
    rw [encode_cons, first, List.append_assoc, List.cons_append, chunks_cons, read, ih,
      List.map_cons, List.cons_append]

theorem chunks_encode (cs : List Char) : chunks (encode cs) = cs.map Chunk.char := by
  simpa using chunks_encode_append cs []

theorem isValid_encode (cs : List Char) : isValid (encode cs) = true := by
  rw [isValid, chunks_encode, List.all_map]
  exact List.all_eq_true.2 fun _ _ => rfl

/-- The bytes of a text decode to the text. -/
theorem decode_encode (cs : List Char) : decode (encode cs) = .ok cs := by
  have none : (cs.map Chunk.char).dropWhile Chunk.isChar = [] :=
    List.dropWhile_eq_nil_iff.2 fun chunk mem => by
      obtain ⟨c, -, rfl⟩ := List.mem_map.1 mem
      rfl
  have all : (cs.map Chunk.char).filterMap Chunk.char? = cs := by
    rw [List.filterMap_map]
    exact List.filterMap_some
  simp only [decode, chunks_encode, none, all]

theorem decodeLossy_encode (cs : List Char) : decodeLossy (encode cs) = cs := by
  rw [decodeLossy, chunks_encode, List.map_map]
  exact List.map_id cs

/-! ### Bytes of a text -/

/-- A byte below 80 stands for a character of its own. -/
theorem toNat_of_mem_encodeChar {c : Char} {b : UInt8} (h : b ∈ encodeChar c)
    (small : b.toNat < 0x80) : c.toNat = b.toNat := by
  have scalar := isScalar c
  unfold encodeChar at h
  dsimp only at h
  split_ifs at h
  all_goals
    simp only [List.mem_cons, List.not_mem_nil, or_false, ← UInt8.toNat_inj,
      UInt8.toNat_ofNat'] at h
    omega

/-- No zero byte stands in a text without the character zero. -/
theorem zero_notMem_encode {cs : List Char} (h : '\x00' ∉ cs) : 0 ∉ encode cs := by
  intro mem
  obtain ⟨c, member, byte⟩ := List.mem_flatMap.1 mem
  have zero : c.toNat = 0 := toNat_of_mem_encodeChar byte (by decide)
  have same : c = '\x00' := Char.toNat_inj.1 zero
  exact h (same ▸ member)

/-- The bytes before the first line feed are those of the characters before it. -/
theorem takeWhile_encode (cs : List Char) :
    (encode cs).takeWhile (· != 0x0A) = encode (cs.takeWhile (· != '\n')) := by
  induction cs with
  | nil => rfl
  | cons c cs ih =>
    by_cases hc : c = '\n'
    · subst hc
      rfl
    · have clear : ∀ b ∈ encodeChar c, (b != 0x0A) = true := by
        intro b mem
        rw [bne_iff_ne]
        rintro rfl
        exact hc (Char.toNat_inj.1 (toNat_of_mem_encodeChar mem (by decide)))
      rw [encode_cons, List.takeWhile_append_of_pos clear, ih,
        List.takeWhile_cons_of_pos (by simpa using hc), encode_cons]

/-- The bytes of a text begin with those of another one if and only if the texts do. -/
theorem isPrefixOf_encode (xs ys : List Char) :
    (encode xs).isPrefixOf (encode ys) = xs.isPrefixOf ys := by
  rw [Bool.eq_iff_iff, List.isPrefixOf_iff_prefix, List.isPrefixOf_iff_prefix]
  constructor
  · intro h
    induction xs generalizing ys with
    | nil => exact List.nil_prefix
    | cons x xs ih =>
      obtain ⟨b, tail, first, read⟩ := next_encodeChar x
      obtain ⟨rest, bytes⟩ := h
      rw [encode_cons, first, List.cons_append, List.cons_append, List.append_assoc] at bytes
      cases ys with
      | nil => cases bytes
      | cons y ys =>
        -- both texts are read from the same bytes
        have reading := next_encode bytes.symm
        rw [read, Prod.mk.injEq, Chunk.char.injEq] at reading
        obtain ⟨rfl, same⟩ := reading
        exact (List.prefix_cons_inj x).2 (ih ys ⟨rest, same⟩)
  · rintro ⟨rest, rfl⟩
    exact ⟨encode rest, (encode_append xs rest).symm⟩

end LangBench.Text.Utf8
