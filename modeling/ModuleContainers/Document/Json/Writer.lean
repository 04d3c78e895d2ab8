import ModuleContainers.Document.Json

/-!
# Writing JSON text

One line without blanks between the tokens. In strings the quote, the backslash
and the control characters are escaped, and every other character stands for
itself.
-/

namespace ModuleContainers.Document.Json

def hexDigit (n : Nat) : Char :=
  if n < 10 then Char.ofNat ('0'.toNat + n) else Char.ofNat ('a'.toNat + (n - 10))

def escaped (c : Char) : List Char :=
  if c = '"' then ['\\', '"']
  else if c = '\\' then ['\\', '\\']
  else if c = '\n' then ['\\', 'n']
  else if c = '\r' then ['\\', 'r']
  else if c = '\t' then ['\\', 't']
  else if c.toNat < 0x20 then
    ['\\', 'u', '0', '0', hexDigit (c.toNat / 16), hexDigit (c.toNat % 16)]
  else [c]

def writeText (text : String) : String :=
  String.ofList ('"' :: text.toList.flatMap escaped ++ ['"'])

mutual

def write : Json → String
  | .null => "null"
  | .bool true => "true"
  | .bool false => "false"
  | .int n => toString n
  | .float x => x.toText
  | .text s => writeText s
  | .list items => "[" ++ writeItems items ++ "]"
  | .object entries => "\x7b" ++ writeEntries entries ++ "\x7d"

def writeItems : List Json → String
  | [] => ""
  | [item] => write item
  | item :: rest => write item ++ "," ++ writeItems rest

def writeEntries : List (String × Json) → String
  | [] => ""
  | [(key, item)] => writeText key ++ ":" ++ write item
  | (key, item) :: rest => writeText key ++ ":" ++ write item ++ "," ++ writeEntries rest

end

end ModuleContainers.Document.Json
