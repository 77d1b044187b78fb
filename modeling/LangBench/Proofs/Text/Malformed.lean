import LangBench.Encoding
import LangBench.Proofs.Text.Line
import LangBench.Proofs.Text.WellFormed

/-!
# Content that cannot be decoded

A byte order mark promises an encoding, and the bytes behind it may break the promise.  Without a
mark the encoding is chosen so that the content can be decoded.

* `Encoding.Malformed`: content that breaks the promise of its mark;
* `Encoding.IsMarked`, `Encoding.marked_cases`: content by its mark;
* `Encoding.decode_utf8Mark`, `Encoding.decode_utf16Mark`: what is decoded behind a mark;
* `Encoding.exists_decode_of_not_marked`: content without a mark is decoded;
* `Encoding.decoding`: what is refused, and why.
-/

namespace LangBench.Encoding

open Text

/-- Content that begins with a byte order mark but is no text in that encoding behind it. -/
inductive Malformed : List UInt8 → Prop
  | utf8 {body : List UInt8} : ¬ Utf8.WellFormed body → Malformed ([0xEF, 0xBB, 0xBF] ++ body)
  | little {body : List UInt8} : body.length % 2 = 1 ∨ ¬ Utf16.WellFormed .little body →
      Malformed ([0xFF, 0xFE] ++ body)
  | big {body : List UInt8} : body.length % 2 = 1 ∨ ¬ Utf16.WellFormed .big body →
      Malformed ([0xFE, 0xFF] ++ body)

/-- Whether content begins with a byte order mark. -/
def IsMarked (data : List UInt8) : Prop :=
  utf8Mark <+: data ∨ ∃ order, utf16Mark order <+: data

/-! ### Marks -/

/-- Content by its mark. -/
theorem marked_cases (data : List UInt8) :
    (∃ body, data = utf8Mark ++ body) ∨ (∃ order body, data = utf16Mark order ++ body) ∨
      ¬ IsMarked data := by
  by_cases marked : IsMarked data
  · rcases marked with ⟨body, rfl⟩ | ⟨order, body, rfl⟩
    · exact .inl ⟨body, rfl⟩
    · exact .inr (.inl ⟨order, body, rfl⟩)
  · exact .inr (.inr marked)

theorem dropMark_append (mark body : List UInt8) : dropMark mark (mark ++ body) = body := by
  have marked : mark.isPrefixOf (mark ++ body) = true :=
    List.isPrefixOf_iff_prefix.2 (List.prefix_append mark body)
  rw [dropMark, if_pos marked, List.drop_left]

/-- Behind its mark UTF-8 is decoded. -/
theorem decode_utf8Mark (body : List UInt8) :
    decode (utf8Mark ++ body) (sniff (utf8Mark ++ body)) = (Utf8.decode body).mapError .utf8 := by
  have noticed : sniff (utf8Mark ++ body) = .utf8 := rfl
  rw [noticed, decode, dropMark_append]

/-- Behind its mark UTF-16 is decoded. -/
theorem decode_utf16Mark (order : Utf16.ByteOrder) (body : List UInt8) :
    decode (utf16Mark order ++ body) (sniff (utf16Mark order ++ body)) =
      decodeUtf16 order body := by
  have noticed : sniff (utf16Mark order ++ body) = .utf16 order := by
    cases order <;> rfl
  rw [noticed, decode, dropMark_append]

/-- Content without a mark is decoded: in UTF-8 if it is UTF-8. -/
theorem exists_decode_of_not_marked {data : List UInt8} (h : ¬ IsMarked data) :
    ∃ cs, decode data (sniff data) = .ok cs := by
  rw [IsMarked, not_or, not_exists] at h
  obtain ⟨noMark, noMark16⟩ := h
  simp only [← List.isPrefixOf_iff_prefix] at noMark noMark16
  rw [sniff, if_neg noMark, if_neg (noMark16 .little), if_neg (noMark16 .big)]
  split_ifs with zero valid
  · exact ⟨[], rfl⟩
  · obtain ⟨cs, rfl⟩ := (Utf8.isValid_iff data).1 valid
    rw [decode, dropMark, if_neg noMark, Utf8.decode_encode]
    exact ⟨cs, rfl⟩
  · exact ⟨_, rfl⟩

/-! ### Refusals -/

theorem decodeUtf16_encode (order : Utf16.ByteOrder) (t : List Char) :
    decodeUtf16 order (Utf16.encode order t) = .ok t := by
  have even := Utf16.length_encode order t
  rw [decodeUtf16, if_neg (by omega), Utf16.decode_encode]

theorem decodeUtf16_odd {order : Utf16.ByteOrder} {body : List UInt8}
    (odd : body.length % 2 = 1) : decodeUtf16 order body = .error (.oddLength body.length) :=
  if_pos odd

theorem decodeUtf16_unpaired {order : Utf16.ByteOrder} {body : List UInt8}
    (even : body.length % 2 = 0) (broken : ¬ Utf16.WellFormed order body) :
    decodeUtf16 order body = .error .unpairedSurrogate := by
  rw [decodeUtf16, if_neg (by omega), (Utf16.decode_eq_none_iff order even).2 broken]

/-- UTF-16 is refused if and only if its length is odd or it is no text. -/
theorem decodeUtf16_eq_error_iff (order : Utf16.ByteOrder) (body : List UInt8) :
    (∃ fault, decodeUtf16 order body = .error fault) ↔
      body.length % 2 = 1 ∨ ¬ Utf16.WellFormed order body := by
  constructor
  · rintro ⟨fault, refused⟩
    rw [or_iff_not_imp_right, not_not]
    rintro ⟨cs, rfl⟩
    rw [decodeUtf16_encode] at refused
    cases refused
  · rintro (odd | broken)
    · exact ⟨_, decodeUtf16_odd odd⟩
    · by_cases odd : body.length % 2 = 1
      · exact ⟨_, decodeUtf16_odd odd⟩
      · exact ⟨_, decodeUtf16_unpaired (by omega) broken⟩

/-- UTF-8 is refused if and only if it is no text. -/
theorem decodeUtf8_eq_error_iff (body : List UInt8) :
    (∃ fault, (Utf8.decode body).mapError ContentFault.utf8 = .error fault) ↔
      ¬ Utf8.WellFormed body := by
  constructor
  · rintro ⟨fault, refused⟩ ⟨cs, rfl⟩
    rw [Utf8.decode_encode] at refused
    cases refused
  · intro broken
    obtain ⟨f, refused, -⟩ := Utf8.exists_fault broken
    exact ⟨.utf8 f, by rw [refused]; rfl⟩

/-- Lines are refused for the same reason as the text. -/
theorem decodeLines_eq_error_iff {data : List UInt8} {e : Encoding} {fault : ContentFault} :
    decodeLines data e = .error fault ↔ decode data e = .error fault := by
  rw [decodeLines]
  cases decode data e with
  | ok cs => exact ⟨nofun, nofun⟩
  | error f => simp only [Except.map, Except.error.injEq]

/-- Content is refused if and only if it breaks the promise of its mark. -/
theorem exists_fault_iff_malformed (data : List UInt8) :
    (∃ fault, decode data (sniff data) = .error fault) ↔ Malformed data := by
  constructor
  · intro refused
    rcases marked_cases data with ⟨body, rfl⟩ | ⟨order, body, rfl⟩ | unmarked
    · rw [decode_utf8Mark, decodeUtf8_eq_error_iff] at refused
      exact .utf8 refused
    · rw [decode_utf16Mark, decodeUtf16_eq_error_iff] at refused
      cases order with
      | little => exact .little refused
      | big => exact .big refused
    · obtain ⟨cs, decoded⟩ := exists_decode_of_not_marked unmarked
      obtain ⟨fault, refused⟩ := refused
      cases decoded.symm.trans refused
  · rintro (broken | broken | broken)
    · have refused := (decodeUtf8_eq_error_iff _).2 broken
      rwa [← decode_utf8Mark] at refused
    · have refused := (decodeUtf16_eq_error_iff .little _).2 broken
      rwa [← decode_utf16Mark] at refused
    · have refused := (decodeUtf16_eq_error_iff .big _).2 broken
      rwa [← decode_utf16Mark] at refused

/-- Lines of content that is decoded hold no line feed. -/
theorem lineFeed_notMem_of_decodeLines {data : List UInt8} {e : Encoding} {ls : List String}
    (h : decodeLines data e = .ok ls) : ∀ l ∈ ls, '\n' ∉ l.toList := by
  rw [decodeLines] at h
  cases decoded : decode data e with
  | error f =>
    rw [decoded] at h
    cases h
  | ok cs =>
    rw [decoded] at h
    obtain rfl := Except.ok.inj h
    intro l mem
    obtain ⟨line, member, rfl⟩ := List.mem_map.1 mem
    rw [String.toList_ofList]
    exact lineFeed_notMem_of_mem_lines member

/-- **Decoding.**  Content is refused if and only if it breaks the promise of its byte order mark:
UTF-8 that is no text, UTF-16 of odd length or that is no text.  What is told of UTF-8 names the
length of its longest part from the left that is a text, and of UTF-16 an odd length comes before a
surrogate without partner.  Content without a mark is never refused, and no line holds a line
feed. -/
theorem decoding (data : List UInt8) :
    ((∃ fault, decodeLines data (sniff data) = .error fault) ↔ Malformed data) ∧
    (∀ body, data = utf8Mark ++ body → ¬ Utf8.WellFormed body →
      ∃ f kind, decodeLines data (sniff data) = .error (.utf8 f) ∧
        (ContentFault.utf8 f).message =
          "invalid UTF-8: " ++ (kind ++ " from index " ++ toString f.index) ∧
        f.index < body.length ∧ Utf8.WellFormed (body.take f.index) ∧
        ∀ n, f.index < n → n ≤ body.length → ¬ Utf8.WellFormed (body.take n)) ∧
    (∀ order body, data = utf16Mark order ++ body → body.length % 2 = 1 →
      decodeLines data (sniff data) = .error (.oddLength body.length) ∧
        (ContentFault.oddLength body.length).message =
          "UTF-16 payload has odd length " ++ toString body.length) ∧
    (∀ order body, data = utf16Mark order ++ body → body.length % 2 = 0 →
      ¬ Utf16.WellFormed order body →
        decodeLines data (sniff data) = .error .unpairedSurrogate) ∧
    (¬ IsMarked data → ∃ ls, decodeLines data (sniff data) = .ok ls) ∧
    ∀ ls, decodeLines data (sniff data) = .ok ls → ∀ l ∈ ls, '\n' ∉ l.toList := by
  simp only [decodeLines_eq_error_iff]
  refine ⟨exists_fault_iff_malformed data, ?_, ?_, ?_, ?_, ?_⟩
  · rintro body rfl broken
    obtain ⟨f, refused, within, part, longest⟩ := Utf8.exists_fault broken
    obtain ⟨kind, message⟩ := f.exists_message_eq
    refine ⟨f, kind, ?_, congrArg ("invalid UTF-8: " ++ ·) message, within, part, longest⟩
    rw [decode_utf8Mark, refused]
    rfl
  · rintro order body rfl odd
    rw [decode_utf16Mark]
    exact ⟨decodeUtf16_odd odd, rfl⟩
  · rintro order body rfl even broken
    rw [decode_utf16Mark]
    exact decodeUtf16_unpaired even broken
  · intro unmarked
    obtain ⟨cs, decoded⟩ := exists_decode_of_not_marked unmarked
    exact ⟨_, congrArg _ decoded⟩
  · intro ls
    exact lineFeed_notMem_of_decodeLines

/-- An overlong form after one character behind the mark of UTF-8, and behind the mark of UTF-16 a
surrogate without partner in three bytes. -/
theorem decoding_overlong :
    ¬ Utf8.WellFormed [0x61, 0xC0, 0x80] ∧
    (∃ f, decodeLines [0xEF, 0xBB, 0xBF, 0x61, 0xC0, 0x80]
        (sniff [0xEF, 0xBB, 0xBF, 0x61, 0xC0, 0x80]) = .error (.utf8 f) ∧ f.index = 1) ∧
    decodeLines [0xFF, 0xFE, 0x00, 0xD8, 0x41] (sniff [0xFF, 0xFE, 0x00, 0xD8, 0x41]) =
      .error (.oddLength 3) := by
  have broken : ¬ Utf8.WellFormed [0x61, 0xC0, 0x80] := by
    rw [← Utf8.isValid_iff]
    decide +kernel
  have one : Utf8.WellFormed [0x61] := ⟨['a'], rfl⟩
  have two : ¬ Utf8.WellFormed [0x61, 0xC0] := by
    rw [← Utf8.isValid_iff]
    decide +kernel
  obtain ⟨-, told, -⟩ := decoding [0xEF, 0xBB, 0xBF, 0x61, 0xC0, 0x80]
  obtain ⟨-, -, odd, -⟩ := decoding [0xFF, 0xFE, 0x00, 0xD8, 0x41]
  obtain ⟨f, kind, refused, -, within, part, longest⟩ := told [0x61, 0xC0, 0x80] rfl broken
  refine ⟨broken, ⟨f, refused, ?_⟩, (odd .little [0x00, 0xD8, 0x41] rfl rfl).1⟩
  have within : f.index < 3 := within
  have notZero : f.index ≠ 0 := fun zero => longest 1 (by omega) (by decide) one
  have notTwo : f.index ≠ 2 := fun at_ => two (by rwa [at_] at part)
  omega

end LangBench.Encoding
