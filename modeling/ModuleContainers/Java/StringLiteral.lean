/-!
# Java string literals

A text becomes a string literal that the compiler reads back as that text. The
characters with an escape of their own get it, every other control character is
written by its code unit, and all the rest stand for themselves. No line break is
left, and a backslash of the text is never the one that starts an escape.
-/

namespace ModuleContainers.Java

/-- The character is a control character: category Cc. -/
def isControl (c : Char) : Bool := c.toNat < 0x20 || (0x7F ≤ c.toNat && c.toNat ≤ 0x9F)

def hexDigit (n : Nat) : Char :=
  if n < 10 then Char.ofNat ('0'.toNat + n) else Char.ofNat ('a'.toNat + (n - 10))

/-- The escape of a character by its code unit. -/
def unitEscape (c : Char) : List Char :=
  ['\\', 'u', hexDigit (c.toNat / 4096 % 16), hexDigit (c.toNat / 256 % 16),
    hexDigit (c.toNat / 16 % 16), hexDigit (c.toNat % 16)]

def literalChar (c : Char) : List Char :=
  if c = '"' then ['\\', '"']
  else if c = '\\' then ['\\', '\\']
  else if c = '\n' then ['\\', 'n']
  else if c = '\r' then ['\\', 'r']
  else if c = '\t' then ['\\', 't']
  else if c = '\x08' then ['\\', 'b']
  else if c = '\x0c' then ['\\', 'f']
  else if isControl c then unitEscape c
  else [c]

def literalChars (text : List Char) : List Char :=
  '"' :: text.flatMap literalChar ++ ['"']

def stringLiteral (text : String) : String := String.ofList (literalChars text.toList)

end ModuleContainers.Java
