import LangBench.Encoding
import LangBench.Text.Case

/-!
# File name extensions

* `extensions name`: the extensions of a file name in lower case, longest first; each begins at
  a full stop and has something after it;
* `mediaType name e`: the media type that goes with the longest known extension, or else with
  the encoding.
-/

namespace LangBench

/-- The parts of a text that begin at a full stop and go on after it, longest first. -/
def dotSuffixes : List Char → List (List Char)
  | [] => []
  | c :: cs => if c = '.' ∧ cs ≠ [] then (c :: cs) :: dotSuffixes cs else dotSuffixes cs

/-- The extensions of a file name in lower case, longest first. -/
def extensions (name : String) : List String :=
  (dotSuffixes (Text.lowerList name.toList)).map String.ofList

/-- The media types that file names tell. -/
def mediaTypes : List (String × String) :=
  [(".json", "application/json"),
   (".js", "application/javascript"), (".mjs", "application/javascript"),
   (".cjs", "application/javascript"),
   (".xml", "text/xml"), (".xsd", "text/xml"), (".xsl", "text/xml"),
   (".html", "text/html"), (".htm", "text/html"), (".xhtml", "text/html"),
   (".css", "text/css"),
   (".svg", "image/svg+xml"),
   (".png", "image/png"),
   (".jpg", "image/jpeg"), (".jpeg", "image/jpeg"),
   (".gif", "image/gif"),
   (".pdf", "application/pdf"),
   (".zip", "application/zip"),
   (".gz", "application/gzip")]

/-- The media type of a file without a telling name. -/
def Encoding.mediaType (e : Encoding) : String :=
  if e.isBinary then "application/octet-stream" else "text/plain"

/-- The media type of the longest extension that tells one, or else of the encoding. -/
def mediaType (name : String) (e : Encoding) : String :=
  ((extensions name).findSome? (List.lookup · mediaTypes)).getD e.mediaType

/-- What is a dot suffix begins with a full stop and ends the text. -/
theorem suffix_of_mem_dotSuffixes {cs s : List Char} (h : s ∈ dotSuffixes cs) :
    s <:+ cs ∧ ∃ t, t ≠ [] ∧ s = '.' :: t := by
  induction cs with
  | nil => simp [dotSuffixes] at h
  | cons c cs ih =>
    rw [dotSuffixes] at h
    split at h
    · next hc =>
      rcases List.mem_cons.1 h with rfl | h
      · exact ⟨List.suffix_refl _, cs, hc.2, by rw [hc.1]⟩
      · exact ⟨(ih h).1.trans (List.suffix_cons c cs), (ih h).2⟩
    · exact ⟨(ih h).1.trans (List.suffix_cons c cs), (ih h).2⟩

/-- Every suffix of that kind is a dot suffix. -/
theorem mem_dotSuffixes_of_suffix {cs t : List Char} (h : '.' :: t <:+ cs) (ht : t ≠ []) :
    '.' :: t ∈ dotSuffixes cs := by
  induction cs with
  | nil => simp at h
  | cons c cs ih =>
    rw [dotSuffixes]
    rcases List.suffix_cons_iff.1 h with heq | hs
    · obtain ⟨rfl, rfl⟩ := List.cons.inj heq
      simp [ht]
    · split
      · exact List.mem_cons_of_mem _ (ih hs)
      · exact ih hs

end LangBench
