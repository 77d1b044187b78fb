import LangBench.Proofs.Run.Isolation
import LangBench.Proofs.Text.Malformed

/-!
# A text in files

A text can be stored in UTF-16 of either order and in UTF-8, behind a byte order mark, and mostly in
UTF-8 without one.  However it is stored, it is read back, so what is said of its lines does not
depend on how it is stored.

* `Stored`: the bytes that a text is stored as, with their encoding;
* `Stored.sniff_eq`, `Stored.decode_eq`: the encoding is noticed, and the text read back;
* `Stored.decodeLines_eq`, `Stored.answer_eq`: its lines, and what is said of them;
* `stored_text`: all of it, for every text.
-/

namespace LangBench

open Text

/-- Bytes that the text `t` can be stored as, and their encoding.  Without a mark the text must not
look like one that has a mark, nor like a binary file. -/
inductive Stored (t : List Char) : List UInt8 → Encoding → Prop
  | little : Stored t ([0xFF, 0xFE] ++ Utf16.encode .little t) (.utf16 .little)
  | big : Stored t ([0xFE, 0xFF] ++ Utf16.encode .big t) (.utf16 .big)
  | marked : Stored t ([0xEF, 0xBB, 0xBF] ++ Utf8.encode t) .utf8
  | bare : t.head? ≠ some '\uFEFF' → 0 ∉ (Utf8.encode t).take 8000 →
      Stored t (Utf8.encode t) .utf8

namespace Encoding

/-- In UTF-8 only a text that begins with U+FEFF begins with the mark of UTF-8. -/
theorem utf8Mark_isPrefixOf_encode {t : List Char} (h : t.head? ≠ some '\uFEFF') :
    utf8Mark.isPrefixOf (Utf8.encode t) = false := by
  rw [Bool.eq_false_iff, Ne, List.isPrefixOf_iff_prefix]
  rintro ⟨rest, bytes⟩
  cases t with
  | nil => cases bytes
  | cons c cs =>
    have mark : Utf8.next 0xEF ([0xBB, 0xBF] ++ rest) = (.char '\uFEFF', rest) := rfl
    obtain ⟨first, -⟩ := Prod.mk.inj (mark.symm.trans (Utf8.next_encode bytes.symm))
    cases first
    exact h rfl

/-- No text in UTF-8 begins with a mark of UTF-16. -/
theorem utf16Mark_isPrefixOf_encode (order : Utf16.ByteOrder) (t : List Char) :
    (utf16Mark order).isPrefixOf (Utf8.encode t) = false := by
  rw [Bool.eq_false_iff, Ne, List.isPrefixOf_iff_prefix]
  rintro ⟨rest, bytes⟩
  cases t with
  | nil => cases order <;> cases bytes
  | cons c cs =>
    -- neither byte of these marks begins a character
    cases order with
    | little =>
      have invalid : Utf8.next 0xFF ([0xFE] ++ rest) = (.invalid 1, [0xFE] ++ rest) := rfl
      exact nomatch invalid.symm.trans (Utf8.next_encode bytes.symm)
    | big =>
      have invalid : Utf8.next 0xFE ([0xFF] ++ rest) = (.invalid 1, [0xFF] ++ rest) := rfl
      exact nomatch invalid.symm.trans (Utf8.next_encode bytes.symm)

end Encoding

namespace Stored

variable {t : List Char} {data : List UInt8} {e : Encoding}

/-- The encoding of a stored text is noticed. -/
theorem sniff_eq (h : Stored t data e) : Encoding.sniff data = e := by
  cases h with
  | little => rfl
  | big => rfl
  | marked => rfl
  | bare head noZero =>
    have binary : ((Utf8.encode t).take Encoding.sniffLength).contains 0 = false := by
      rw [Bool.eq_false_iff, Ne, List.contains_iff_mem]
      exact noZero
    simp only [Encoding.sniff, Encoding.utf8Mark_isPrefixOf_encode head,
      Encoding.utf16Mark_isPrefixOf_encode, binary, Utf8.isValid_encode, Bool.false_eq_true,
      if_false, if_true]

/-- A stored text is read back. -/
theorem decode_eq (h : Stored t data e) : Encoding.decode data e = .ok t := by
  cases h with
  | little =>
    have body := Encoding.dropMark_append (Encoding.utf16Mark .little) (Utf16.encode .little t)
    exact (congrArg _ body).trans (Encoding.decodeUtf16_encode .little t)
  | big =>
    have body := Encoding.dropMark_append (Encoding.utf16Mark .big) (Utf16.encode .big t)
    exact (congrArg _ body).trans (Encoding.decodeUtf16_encode .big t)
  | marked =>
    have body := Encoding.dropMark_append Encoding.utf8Mark (Utf8.encode t)
    have decoded : Encoding.decode (Encoding.utf8Mark ++ Utf8.encode t) .utf8 = .ok t := by
      rw [Encoding.decode, body, Utf8.decode_encode]
      rfl
    exact decoded
  | bare head noZero =>
    rw [Encoding.decode, Encoding.dropMark, Encoding.utf8Mark_isPrefixOf_encode head,
      if_neg Bool.false_ne_true, Utf8.decode_encode]
    rfl

theorem decodeLines_eq (h : Stored t data e) :
    Encoding.decodeLines data (Encoding.sniff data) = .ok ((lines t).map String.ofList) := by
  rw [Encoding.decodeLines, h.sniff_eq, h.decode_eq]
  rfl

/-- Strategies that read lines give the same answer on all files of a path that store a text. -/
theorem answer_eq {data' : List UInt8} {e' : Encoding} (h : Stored t data e)
    (h' : Stored t data' e') (rules : RuleBook) (context : Context) (path : Path) {m : Method}
    (reads : m = .modeline ∨ m = .content) :
    m.answer rules context (Sample.new path data).toBlob =
      m.answer rules context (Sample.new path data').toBlob := by
  have same : (Sample.new path data).lines = (Sample.new path data').lines := by
    rw [Blob.lines, Blob.lines, Blob.encoding, Blob.encoding]
    exact congrArg _ (h.decodeLines_eq.trans h'.decodeLines_eq.symm)
  rcases reads with rfl | rfl
  · rw [Method.answer, same, Method.answer]
  · rw [Method.answer, same, Method.answer]
    rfl

end Stored

/-- **A text in files.**  However a text is stored, its encoding is noticed and its lines are read
back: what stands before each line feed, without one carriage return right before it, and what
stands after the last line feed, unless that is empty.  Strategies that read lines give the same
answer on all files of a path that store the text. -/
theorem stored_text (t : List Char) :
    (∀ data e, Stored t data e → Encoding.sniff data = e ∧
      ∃ ended tail, Cut t ended tail ∧ Encoding.decodeLines data (Encoding.sniff data) = .ok
        ((ended.map dropCarriageReturn ++ if tail = [] then [] else [tail]).map String.ofList)) ∧
    ∀ data e data' e', Stored t data e → Stored t data' e' →
      ∀ (W : Type) (rules : RuleBook) (context : Context) (path : Path) (m : Method) (w w' : W),
        m = .modeline ∨ m = .content →
        (m.registered rules).answer context (.new path data) w =
          (m.registered rules).answer context (.new path data') w' := by
  refine ⟨fun data e h => ⟨h.sniff_eq, ?_⟩, ?_⟩
  · obtain ⟨ended, tail, cut⟩ := exists_cut t
    exact ⟨ended, tail, cut, by rw [h.decodeLines_eq, cut.lines_eq]⟩
  · intro data e data' e' h h' W rules context path m w w' reads
    have computed := m.answer_registered rules context (Sample.new path data).toBlob w
    have computed' := m.answer_registered rules context (Sample.new path data').toBlob w'
    exact computed.trans ((h.answer_eq h' rules context path reads).trans computed'.symm)

/-- A mark inside the text, a surrogate pair and both characters of a line end, in little endian
UTF-16 and in UTF-8. -/
theorem stored_text_pair :
    Encoding.sniff [0xFF, 0xFE, 0xFF, 0xFE, 0x3D, 0xD8, 0x00, 0xDE, 0x0D, 0x00, 0x0A, 0x00] =
      .utf16 .little ∧
    ∀ (rules : RuleBook) (context : Context) (path : Path),
      (Method.modeline.registered rules).answer context
        (.new path [0xFF, 0xFE, 0xFF, 0xFE, 0x3D, 0xD8, 0x00, 0xDE, 0x0D, 0x00, 0x0A, 0x00]) () =
      (Method.modeline.registered rules).answer context
        (.new path [0xEF, 0xBB, 0xBF, 0xEF, 0xBB, 0xBF, 0xF0, 0x9F, 0x98, 0x80, 0x0D, 0x0A])
        () := by
  obtain ⟨encodings, answers⟩ := stored_text ['\uFEFF', '😀', '\r', '\n']
  refine ⟨(encodings _ _ .little).1, fun rules context path => ?_⟩
  exact answers _ _ _ _ .little .marked Unit rules context path .modeline () () (.inl rfl)

end LangBench
