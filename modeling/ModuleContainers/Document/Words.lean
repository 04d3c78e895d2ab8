/-!
# Integers of a fixed width

Documents and settings hold integers of a fixed number of bits, with a sign or
without. Values are kept as integers of any size; whether one fits is asked where
it is read.
-/

namespace ModuleContainers.Document

def wordCount (bits : Nat) : Nat := Nat.pow 2 bits

def isUnsigned (bits : Nat) (n : Int) : Bool := 0 ≤ n && n < wordCount bits

def isSigned (bits : Nat) (n : Int) : Bool :=
  -(wordCount (bits - 1) : Int) ≤ n && n < wordCount (bits - 1)

end ModuleContainers.Document
