import ModuleContainers.Java.Comment
import ModuleContainers.Proofs.Lexical.Transducer

/-!
# Unicode escapes

Before a compiler looks for words in a source text, it replaces every `\uXXXX` by
the character of that code unit. A backslash starts such an escape only when an
even number of backslashes stands directly before it, there may be more than one
`u`, and the character that comes out takes no part in further escapes.

`escapes` is that stage. What generated code relies on is that texts of three
kinds leave it settled, that is, with no backslash pending:

- text without a backslash comes out as it is (`feed_escapes_of_plain`);
- text with every backslash doubled comes out as it is (`feed_escapes_escapeBackslashes`);
- the escape of a code unit comes out as its character (`feed_escapes_unitEscape`).
-/

namespace ModuleContainers.Lexical

open ModuleContainers.Java (escapeBackslashes hexDigit unitEscape)

/-- The number that a hexadecimal digit stands for. -/
def hexValue (c : Char) : Option Nat :=
  if '0' ≤ c ∧ c ≤ '9' then some (c.toNat - '0'.toNat)
  else if 'a' ≤ c ∧ c ≤ 'f' then some (c.toNat - 'a'.toNat + 10)
  else if 'A' ≤ c ∧ c ≤ 'F' then some (c.toNat - 'A'.toNat + 10)
  else none

/-- The character of a code unit. Half of a surrogate pair is no character, and
an escape of it is refused. -/
def unitChar (code : Nat) : Option Char :=
  if h : code.isValidChar then some (Char.ofNatAux code h) else none

/-- How much of an escape has been read. -/
inductive EscapeState where
  /-- Nothing: the next backslash may start one. -/
  | settled
  /-- A backslash that starts an escape if a `u` follows. -/
  | backslash
  /-- A backslash and at least one `u`. -/
  | marker
  /-- So many hexadecimal digits, and their value. -/
  | digits (count code : Nat)
  deriving Repr, DecidableEq

/-- The state after one more hexadecimal digit, and the character if it was the
fourth one. -/
def readDigit (count code : Nat) (c : Char) : Option (List Char × EscapeState) :=
  (hexValue c).bind fun digit =>
    if count = 3 then (unitChar (16 * code + digit)).map fun c => ([c], .settled)
    else some ([], .digits (count + 1) (16 * code + digit))

/-- The stage that replaces escapes. -/
def escapes : Transducer Char Char EscapeState where
  step
    | .settled, c => if c = '\\' then some ([], .backslash) else some ([c], .settled)
    | .backslash, c => if c = 'u' then some ([], .marker) else some (['\\', c], .settled)
    | .marker, c => if c = 'u' then some ([], .marker) else readDigit 0 0 c
    | .digits count code, c => readDigit count code c
  finish
    | .settled => some []
    | .backslash => some ['\\']
    | _ => none

/-! ## What stays as it is -/

theorem feed_escapes_of_plain :
    ∀ {text : List Char}, '\\' ∉ text → escapes.feed .settled text = some (text, .settled)
  | [], _ => rfl
  | c :: rest, h => by
      have hc : c ≠ '\\' := fun heq => h (heq ▸ List.mem_cons_self ..)
      have hrest : '\\' ∉ rest := fun hmem => h (List.mem_cons_of_mem _ hmem)
      have hstep : escapes.step .settled c = some ([c], .settled) := if_neg hc
      simp [Transducer.feed, hstep, feed_escapes_of_plain hrest]

/-- A pair of backslashes leaves nothing pending, so no backslash of a doubled
text ever meets a `u` while it may start an escape. -/
theorem feed_escapes_escapeBackslashes (text : List Char) :
    escapes.feed .settled (escapeBackslashes text) = some (escapeBackslashes text, .settled) := by
  induction text with
  | nil => rfl
  | cons c rest ih =>
      have hsplit : escapeBackslashes (c :: rest)
          = (if c = '\\' then ['\\', '\\'] else [c]) ++ escapeBackslashes rest := rfl
      rw [hsplit]
      refine Transducer.feed_append_of_feed ?_ ih
      by_cases hc : c = '\\'
      · rw [if_pos hc]; rfl
      · rw [if_neg hc]; exact feed_escapes_of_plain (by simpa using fun h => hc h.symm)

/-! ## What an escape stands for -/

theorem hexValue_hexDigit : ∀ n < 16, hexValue (hexDigit n) = some n := by decide

theorem hexDigit_ne_u : ∀ n < 16, hexDigit n ≠ 'u' := by decide

theorem unitChar_toNat (c : Char) : unitChar c.toNat = some c := by
  have hvalid : c.toNat.isValidChar := c.valid
  rw [unitChar, dif_pos hvalid]
  rfl

theorem feed_escapes_unitEscape {c : Char} (h : c.toNat < 65536) :
    escapes.feed .settled (unitEscape c) = some ([c], .settled) := by
  have hcode : 16 * (16 * (16 * (c.toNat / 4096 % 16) + c.toNat / 256 % 16)
      + c.toNat / 16 % 16) + c.toNat % 16 = c.toNat := by omega
  have hdigit : ∀ n : Nat, hexValue (hexDigit (n % 16)) = some (n % 16) :=
    fun n => hexValue_hexDigit _ (Nat.mod_lt _ (by decide))
  have hfirst : hexDigit (c.toNat / 4096 % 16) ≠ 'u' :=
    hexDigit_ne_u _ (Nat.mod_lt _ (by decide))
  simp [unitEscape, Transducer.feed, escapes, readDigit, hdigit, hfirst, hcode, unitChar_toNat]

end ModuleContainers.Lexical
