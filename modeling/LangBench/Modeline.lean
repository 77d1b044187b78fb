import LangBench.Text.Blank
import LangBench.Text.Case
import LangBench.Unicode.Word

/-!
# Editor modelines

A line may tell an editor in which mode to show the file.

* `Modeline.emacsMode`: from `-*- mode: ruby; tab-width: 2 -*-` or `-*- ruby -*-`;
* `Modeline.vimMode`: from `vim: set ft=ruby:`;
* `Modeline.modeOf`: the first form that says something;
* `Modeline.window`: the lines of a file that are looked at.
-/

namespace LangBench.Modeline

open Text Unicode

/-! ### Emacs -/

/-- What stands on both sides of an Emacs modeline. -/
def fence : List Char := ['-', '*', '-']

/-- The text up to the next fence on the same line, after what is in `done`, which is listed
backwards. -/
def untilFence (done : List Char) : List Char → Option (List Char)
  | [] => none
  | c :: cs =>
    if fence.isPrefixOf (c :: cs) then some done.reverse
    else if c = '\n' then none
    else untilFence (c :: done) cs

/-- The text between an opening fence and the next one; it is not empty. -/
def closeFence : List Char → Option (List Char)
  | [] => none
  | c :: cs => if c = '\n' then none else untilFence [c] cs

/-- The text between the first two fences of a line. -/
def emacsBody : List Char → Option (List Char)
  | [] => none
  | c :: cs =>
    if fence.isPrefixOf (c :: cs) then (closeFence (cs.drop 2)).or (emacsBody cs)
    else emacsBody cs

/-- The settings in a text: the parts between semicolons, trimmed, those that are not empty. -/
def settings (body : List Char) : List (List Char) :=
  ((pieces (· == ';') body).map trim).filter (!List.isEmpty ·)

/-- The value of a setting whose key is `mode`. -/
def modeValue? (setting : List Char) : Option (List Char) :=
  match splitOnce (· == ':') setting with
  | some (key, value) =>
    if eqIgnoringAsciiCase (trim key) ['m', 'o', 'd', 'e'] then some (trim value) else none
  | none => none

/-- The first setting without a colon, unless it has a blank inside. -/
def bareMode? (parts : List (List Char)) : Option (List Char) :=
  (parts.find? fun part => !part.contains ':').filter fun part => !part.any isBlank

/-- The mode that an Emacs modeline names: the value of the first setting whose key is `mode`,
or else a setting without a key. -/
def emacsMode (line : List Char) : Option (List Char) :=
  (emacsBody line).bind fun body =>
    let parts := settings body
    (parts.findSome? modeValue?).or (bareMode? parts)

/-! ### Vim -/

/-- The rest of a text after a word that it begins with. -/
def afterWord? (word cs : List Char) : Option (List Char) :=
  if word.isPrefixOf cs then some (cs.drop word.length) else none

/-- The rest of a text after the name of the editor: `vi`, `vim`, `Vim` or `ex`, each with one
more `m` allowed. -/
def afterEditor? (cs : List Char) : Option (List Char) :=
  let optionalM (rest : List Char) : List Char := (afterWord? ['m'] rest).getD rest
  match afterWord? ['v', 'i', 'm'] cs with
  | some rest => some (optionalM rest)
  | none =>
    ((afterWord? ['v', 'i'] cs).or ((afterWord? ['V', 'i', 'm'] cs).or
      (afterWord? ['e', 'x'] cs))).map optionalM

/-- Whether a character compares versions. -/
def isComparison (c : Char) : Bool :=
  c == '<' || c == '=' || c == '>'

/-- The rest of a text after a version number and, it may be, a comparison with one. -/
def afterVersion? (cs : List Char) : Option (List Char) :=
  match cs.dropWhile isDecimalDigit with
  | [] => some []
  | c :: rest =>
    if isComparison c then
      if rest.head?.any isDecimalDigit then some (rest.dropWhile isDecimalDigit) else none
    else some (c :: rest)

/-- The options of a Vim modeline that begins right here: the line after the colon. -/
def vimOptionsHere (cs : List Char) : Option (List Char) :=
  ((afterEditor? cs).bind afterVersion?).bind fun rest =>
    match rest with
    | ':' :: options => some ((options.dropWhile isBlank).takeWhile (· != '\n'))
    | _ => none

/-- The options of the first Vim modeline that follows a blank. -/
def vimOptionsAfterBlank : List Char → Option (List Char)
  | [] => none
  | c :: cs =>
    if isBlank c then (vimOptionsHere cs).or (vimOptionsAfterBlank cs)
    else vimOptionsAfterBlank cs

/-- The options of the first Vim modeline; it stands at the beginning or after a blank. -/
def vimOptions (line : List Char) : Option (List Char) :=
  (vimOptionsHere line).or (vimOptionsAfterBlank line)

/-- Whether a character may stand in the value of a file type. -/
def isValueChar (c : Char) : Bool :=
  isWordChar c || ['+', '#', '.', '-'].contains c

/-- The options that set a file type. -/
def typeKeys : List (List Char) :=
  ["ft".toList, "filetype".toList, "syntax".toList]

/-- The value and the rest of a text that begins with the assignment of a file type. -/
def assignment? (cs : List Char) : Option (List Char × List Char) :=
  (typeKeys.findSome? (afterWord? · cs)).bind fun rest =>
    match rest.dropWhile isBlank with
    | '=' :: rest =>
      let value := rest.dropWhile isBlank
      if value.head?.any isValueChar then
        some (value.takeWhile isValueChar, value.dropWhile isValueChar)
      else none
    | _ => none

/-- Whether the last character of a text is a word character. -/
def endsInWord (cs : List Char) : Bool :=
  cs.getLast?.any isWordChar

theorem length_afterWord?_le {word cs rest : List Char} (h : afterWord? word cs = some rest) :
    rest.length ≤ cs.length := by
  unfold afterWord? at h
  split at h
  · cases h
    simp
  · cases h

/-- An assignment takes at least one character. -/
theorem length_assignment?_lt {cs value rest : List Char}
    (h : assignment? cs = some (value, rest)) : rest.length < cs.length := by
  unfold assignment? at h
  obtain ⟨after, hkey, h⟩ := Option.bind_eq_some_iff.1 h
  obtain ⟨word, -, hword⟩ := List.exists_of_findSome?_eq_some hkey
  have h₁ := length_afterWord?_le hword
  have h₂ : (after.dropWhile isBlank).length ≤ after.length :=
    (List.dropWhile_suffix _).length_le
  split at h
  · next r hr =>
    rw [hr] at h₂
    have h₃ : (r.dropWhile isBlank).length ≤ r.length := (List.dropWhile_suffix _).length_le
    dsimp only at h
    split at h
    · cases h
      have h₄ : ((r.dropWhile isBlank).dropWhile isValueChar).length ≤
          (r.dropWhile isBlank).length := (List.dropWhile_suffix _).length_le
      simp only [List.length_cons] at h₂
      omega
    · cases h
  · cases h

/-- The values that a text assigns to file types, after those in `done`, which are listed
backwards.  An assignment begins where no word character stands before it. -/
def fileTypesFrom (done : List (List Char)) (inWord : Bool) (cs : List Char) : List (List Char) :=
  match cs with
  | [] => done.reverse
  | c :: rest =>
    match _h : if inWord then none else assignment? (c :: rest) with
    | some (value, after) => fileTypesFrom (value :: done) (endsInWord value) after
    | none => fileTypesFrom done (isWordChar c) rest
termination_by cs.length
decreasing_by
  · split at _h
    · cases _h
    · exact length_assignment?_lt _h
  · simp

/-- The values that a text assigns to file types. -/
def fileTypes (cs : List Char) : List (List Char) :=
  fileTypesFrom [] false cs

/-- The last of some values, if any two neighbours are equal up to the case of ASCII letters. -/
def agreed : List (List Char) → Option (List Char)
  | [] => none
  | [v] => some v
  | v :: w :: vs => if eqIgnoringAsciiCase v w then agreed (w :: vs) else none

/-- The file type that a Vim modeline sets, if its assignments agree. -/
def vimMode (line : List Char) : Option (List Char) :=
  (vimOptions line).bind fun options => agreed (fileTypes options)

/-! ### Both editors -/

/-- The mode that a line names. -/
def modeOf (line : List Char) : Option (List Char) :=
  (emacsMode line).or (vimMode line)

/-- The number of lines at either end of a file that are looked at. -/
def scope : Nat := 5

/-- The first and the last lines of a file, none of them twice. -/
def window {α : Type _} (lines : List α) : List α :=
  lines.take scope ++ lines.drop (max (lines.length - scope) scope)

end LangBench.Modeline
