/-!
# Texts cut at a separator

A text is cut at every occurrence of a separator (`List.splitOn`), or only at the
last one. Cutting at every occurrence loses nothing: a text with `n` separators
has `n + 1` pieces, some of them possibly empty, and joining them with the
separator gives the text back (`List.intercalate_splitOn`).
-/

namespace ModuleContainers.Text

def splitOn (separator : Char) (text : String) : List String :=
  (text.toList.splitOn separator).map String.ofList

/-- The text before the last separator and the text after it; nothing when the
separator does not occur. -/
def cutLast (separator : Char) (text : List Char) : Option (List Char × List Char) :=
  match text.reverse.span (· != separator) with
  | (_, []) => none
  | (after, _ :: before) => some (before.reverse, after.reverse)

end ModuleContainers.Text
