import LangBench.Text.Pieces

/-!
# Lines

* `lines`: the lines of a text.  A line feed ends a line, together with one carriage return
  right before it; after the last line feed a further line counts only if it is not empty,
  and keeps its carriage return;
* `joinLines`: lines with a line feed between any two of them.
-/

namespace LangBench.Text

/-- Whether a character is a line feed. -/
def isLineFeed (c : Char) : Bool :=
  c == '\n'

/-- A text without the carriage return at its end, if it has one. -/
def dropCarriageReturn (cs : List Char) : List Char :=
  if cs.getLast? = some '\r' then cs.dropLast else cs

/-- The lines of a text. -/
def lines (cs : List Char) : List (List Char) :=
  let ps := pieces isLineFeed cs
  ps.dropLast.map dropCarriageReturn ++ ps.getLast?.toList.filter (!List.isEmpty ·)

/-- Lines joined by line feeds. -/
def joinLines (ls : List (List Char)) : List Char :=
  (ls.intersperse ['\n']).flatten

@[simp] theorem lines_nil : lines [] = [] := rfl

/-- A text without line feed is at most one line. -/
theorem lines_of_forall {cs : List Char} (h : ∀ c ∈ cs, isLineFeed c = false) :
    lines cs = [cs].filter (!List.isEmpty ·) := by
  simp [lines, pieces_of_forall h]

/-- A line feed ends the line before it. -/
theorem lines_append_lineFeed {cs : List Char} (h : ∀ c ∈ cs, isLineFeed c = false)
    (rest : List Char) : lines (cs ++ '\n' :: rest) = dropCarriageReturn cs :: lines rest := by
  have hp := pieces_ne_nil isLineFeed rest
  have hcut : pieces isLineFeed (cs ++ '\n' :: rest) = cs :: pieces isLineFeed rest :=
    pieces_append_cons h rfl rest
  simp only [lines, hcut, List.dropLast_cons_of_ne_nil hp, List.map_cons, List.cons_append]
  rw [List.getLast?_cons_of_ne_nil hp]

end LangBench.Text
