import ModuleContainers.Java.Comment
import ModuleContainers.Metadata.Module

/-!
# The comment of a container class

The comment repeats what a module is, so that the class can be read without the
metadata it was generated from: the banner, the name and the bootstrap mode, and
the description where there is one, its further lines set below the first. The
text cannot end the comment: the mark that would is written with a character
reference.
-/

namespace ModuleContainers.Container

open ModuleContainers.Java (Fragment commentLines escapeBackslashes)
open ModuleContainers.Metadata (Constant Module)

def descriptionLabel : String := "Description: "

/-- Replaces every end mark of a comment by one that is none. -/
def escapeCommentEnd : List Char → List Char
  | '*' :: '/' :: rest => "*&#47;".toList ++ escapeCommentEnd rest
  | c :: rest => c :: escapeCommentEnd rest
  | [] => []

/-- The lines of a description, set below one another. -/
def descriptionLines (description : String) : List (List Char) :=
  if Text.isBlankText description then []
  else
    match commentLines description.toList with
    | [] => []
    | first :: rest =>
        let margin := List.replicate descriptionLabel.length ' '
        Text.dropEnd (descriptionLabel.toList ++ first)
          :: rest.map fun line => Text.dropEnd (margin ++ line)

/-- The texts of the comment, one after the other. -/
def javadocTexts (banner : String) (module : Module) : List (List Char) :=
  (if Text.isBlankText banner then [] else [Text.dropEnds banner.toList])
    ++ ["Module: ".toList ++ module.name.toList,
      "Bootstrap mode: ".toList ++ (Constant.name module.bootstrapMode).toList]
    ++ descriptionLines module.description

def javadocLine (line : List Char) : Fragment :=
  let text := escapeCommentEnd (escapeBackslashes (Text.dropEnd line))
  Fragment.line (Fragment.text (if text = [] then " *" else " * " ++ String.ofList text))

def javadoc (banner : String) (module : Module) : Fragment :=
  Fragment.line (Fragment.text "/**")
    ++ ((javadocTexts banner module).flatMap commentLines).flatMap javadocLine
    ++ Fragment.line (Fragment.text " */")

end ModuleContainers.Container
