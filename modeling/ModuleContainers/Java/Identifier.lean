import ModuleContainers.Text.Alphabetic
import ModuleContainers.Text.Numeric

/-!
# Java identifiers

A name may be spliced into Java source as it stands when it is an identifier: it
starts with a letter, an underscore or a dollar sign, goes on with those and
digits, and is none of the words the language keeps for itself.
-/

namespace ModuleContainers.Java

/-- Keywords and literals, which name nothing. A single underscore is one of
them. -/
def reservedWords : List String :=
  ["_", "abstract", "assert", "boolean", "break", "byte", "case", "catch", "char", "class",
    "const", "continue", "default", "do", "double", "else", "enum", "extends", "false", "final",
    "finally", "float", "for", "goto", "if", "implements", "import", "instanceof", "int",
    "interface", "long", "native", "new", "null", "package", "private", "protected", "public",
    "return", "short", "static", "strictfp", "super", "switch", "synchronized", "this", "throw",
    "throws", "transient", "true", "try", "void", "volatile", "while"]

def isIdentifierStart (c : Char) : Bool := Text.isAlphabetic c || c == '_' || c == '$'

def isIdentifierPart (c : Char) : Bool :=
  Text.isAlphabetic c || Text.isNumeric c || c == '_' || c == '$'

/-- The characters have the shape of an identifier, reserved or not. -/
def hasIdentifierShape : List Char → Bool
  | [] => false
  | c :: rest => isIdentifierStart c && rest.all isIdentifierPart

/-- The text can name a field, a method, a class or a part of a package. -/
def isIdentifier (text : String) : Bool :=
  hasIdentifierShape text.toList && !reservedWords.contains text

end ModuleContainers.Java
