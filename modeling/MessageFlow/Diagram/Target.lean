import MessageFlow.FileTree.Path

/-!
# Where diagrams go

The name of an output file tells what is written to it: DOT text, or an image that a layout engine
makes.
-/

namespace MessageFlow

inductive Target where
  /-- DOT text as it is -/
  | dot
  | image (format : String)
  deriving DecidableEq

namespace Target

/-- the format of an image whose name tells none -/
def standardFormat : String := "svg"

/-- what the extension of a path asks for, in letters of any case -/
def ofExtension? : Option String → Target
  | none => .image standardFormat
  | some extension =>
    let format := extension.map Char.toLower
    if format = "dot" ∨ format = "gv" then .dot
    else if format = "" then .image standardFormat
    else .image format

def ofPath (path : String) : Target := ofExtension? (Path.extension? path)

end Target

end MessageFlow
