import ModuleContainers.Java.ClassName
import ModuleContainers.Java.StringLiteral
import ModuleContainers.Text.Splitting

/-!
# Pieces of Java source

Source is built as a flat list of parts: text, references to classes, line
breaks and changes of indentation. How a class is spelled is only known when the
whole file is, so references stay symbolic until a fragment is rendered.

Fragments are lists, and joining them is `++`. Text never holds a line break and
is never empty (`Fragment.text` turns breaks into parts), so a line is indented
exactly when something stands on it.
-/

namespace ModuleContainers.Java

inductive Part where
  | text (text : String)
  | type (target : ClassName)
  | newline
  | indent
  | unindent
  deriving Repr, DecidableEq

abbrev Fragment := List Part

namespace Fragment

/-! ## Building -/

def ofLines : List String → Fragment
  | [] => []
  | [line] => if line = "" then [] else [.text line]
  | line :: rest => (if line = "" then [] else [.text line]) ++ .newline :: ofLines rest

/-- Plain text; its line breaks become line breaks of the source. -/
def text (text : String) : Fragment := ofLines (Text.splitOn '\n' text)

def type (target : ClassName) : Fragment := [.type target]

def typeName : TypeName → Fragment
  | .primitive keyword => text keyword
  | .reference target => type target

def classLiteral (target : ClassName) : Fragment := type target ++ text ".class"

def literal (value : String) : Fragment := text (stringLiteral value)

def newline : Fragment := [.newline]

/-- The fragment with its lines one level deeper. -/
def indented (body : Fragment) : Fragment := [.indent] ++ body ++ [.unindent]

def line (body : Fragment) : Fragment := body ++ newline

def concat (fragments : List Fragment) : Fragment := fragments.flatten

/-! ## Lists of fragments -/

def moreArguments : List Fragment → Fragment
  | [] => []
  | item :: rest => text "," ++ newline ++ item ++ moreArguments rest

/-- An argument list, one argument a line, two levels deeper than the call. No
arguments give nothing. -/
def arguments : List Fragment → Fragment
  | [] => []
  | item :: rest =>
      [.indent, .indent] ++ newline ++ item ++ moreArguments rest ++ [.unindent, .unindent]

def join (separator : String) : List Fragment → Fragment
  | [] => []
  | [item] => item
  | item :: rest => item ++ text separator ++ join separator rest

/-- Blocks with an empty line between every two of them; blocks without a part
do not count. -/
def joinBlocks (blocks : List Fragment) : Fragment :=
  separate (blocks.filter fun block => !block.isEmpty)
where
  separate : List Fragment → Fragment
    | [] => []
    | [block] => block
    | block :: rest => block ++ newline ++ separate rest

/-! ## Reading off -/

/-- The classes that are referred to, in order, repetitions kept. -/
def types (fragment : Fragment) : List ClassName :=
  fragment.filterMap fun
    | .type target => some target
    | _ => none

def padding (unit : String) : Nat → String
  | 0 => ""
  | level + 1 => unit ++ padding unit level

/-- The source of the parts, given the level of indentation and whether nothing
stands on the line yet. Indentation is written with the first text of a line, so
an empty line stays empty. A level never goes below zero. -/
def renderFrom (unit : String) (spell : ClassName → String) : Nat → Bool → Fragment → String
  | _, _, [] => ""
  | level, fresh, .text text :: rest =>
      (if fresh then padding unit level else "") ++ text ++ renderFrom unit spell level false rest
  | level, fresh, .type target :: rest =>
      (if fresh then padding unit level else "") ++ spell target
        ++ renderFrom unit spell level false rest
  | level, _, .newline :: rest => "\n" ++ renderFrom unit spell level true rest
  | level, fresh, .indent :: rest => renderFrom unit spell (level + 1) fresh rest
  | level, fresh, .unindent :: rest => renderFrom unit spell (level - 1) fresh rest

def render (unit : String) (spell : ClassName → String) (fragment : Fragment) : String :=
  renderFrom unit spell 0 true fragment

def defaultUnit : String := "    "

/-- The source of a fragment as if every class were known where it stands. -/
def display (fragment : Fragment) : String := fragment.render defaultUnit ClassName.nestedPath

end Fragment

end ModuleContainers.Java
