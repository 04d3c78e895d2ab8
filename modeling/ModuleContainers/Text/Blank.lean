import ModuleContainers.Text.Ranges

/-!
# Blanks

The property White_Space, and texts without the blanks around them. Metadata is
written by hand, so names are read without the blanks at their ends; the blanks
of every script count, a no-break space and a line separator among them.
-/

namespace ModuleContainers.Text

/-- The code points with the property White_Space. -/
def blankRanges : Ranges :=
  [ (0x9, 0xD), (0x20, 0x20), (0x85, 0x85), (0xA0, 0xA0), (0x1680, 0x1680), (0x2000, 0x200A),
    (0x2028, 0x2029), (0x202F, 0x202F), (0x205F, 0x205F), (0x3000, 0x3000)]

def isBlank (c : Char) : Bool := blankRanges.has c

/-! ## Cutting blanks off -/

def dropEnd (text : List Char) : List Char :=
  (text.reverse.dropWhile isBlank).reverse

def dropEnds (text : List Char) : List Char :=
  dropEnd (text.dropWhile isBlank)

def trimEnd (text : String) : String := String.ofList (dropEnd text.toList)

def trim (text : String) : String := String.ofList (dropEnds text.toList)

def isBlankText (text : String) : Bool := text.toList.all isBlank

end ModuleContainers.Text
