import ModuleContainers.Java.Fragment

/-!
# Comments

Free text of the metadata ends up in comments, so nothing of it may get out of
them. A text is cut at every line terminator that Java knows, and its backslashes
are doubled: the compiler decodes a backslash with a `u` after it even in a
comment, but only behind an even number of backslashes, and in a doubled text
there is an odd number before every second one and no `u` after the others.
-/

namespace ModuleContainers.Java

def dropCarriageReturn (line : List Char) : List Char :=
  if line.getLast? = some '\r' then line.dropLast else line

/-- The lines of a text for a comment, cut at `\r\n`, `\r` and `\n`. Blanks at the
end of the text do not count. -/
def commentLines (text : List Char) : List (List Char) :=
  ((Text.dropEnd text).splitOn '\n').flatMap fun line =>
    (dropCarriageReturn line).splitOn '\r'

def escapeBackslashes (text : List Char) : List Char :=
  text.flatMap fun c => if c = '\\' then ['\\', '\\'] else [c]

/-- A line comment; an empty line is a bare comment mark. -/
def lineComment (line : List Char) : Fragment :=
  let text := escapeBackslashes (Text.dropEnd line)
  Fragment.line (Fragment.text (if text = [] then "//" else "// " ++ String.ofList text))

def lineComments (text : String) : Fragment :=
  if Text.isBlankText text then []
  else (commentLines text.toList).flatMap lineComment

end ModuleContainers.Java
