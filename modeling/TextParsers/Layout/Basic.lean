import TextParsers.Text.Quoted

/-!
# Layouts of values

A value is shown as a tree of atoms and bracketed groups. The tree is written
on one line, or with every part on a line of its own, indented under the line
that opens its group and followed by a comma.
-/

namespace TextParsers

/-- How a value is shown, apart from its line breaks. -/
inductive Layout where
  /-- A text without parts. -/
  | atom (text : String)
  /-- Named fields in braces after the name of their structure. -/
  | record (name : String) (fields : List (String × Layout))
  /-- Parts in round brackets. -/
  | tuple (parts : List Layout)
  /-- Parts in square brackets. -/
  | list (parts : List Layout)

namespace Layout

/-- A string in quotation marks. -/
def quoted (s : String) : Layout := atom (Text.quote s)

mutual

/-- The layout on one line. -/
def inline : Layout → String
  | atom text => text
  | record name fields => name ++ " \x7b " ++ ", ".intercalate (inlineFields fields) ++ " \x7d"
  | tuple parts => "(" ++ ", ".intercalate (inlineParts parts) ++ ")"
  | list parts => "[" ++ ", ".intercalate (inlineParts parts) ++ "]"

/-- Each part on one line. -/
def inlineParts : List Layout → List String
  | [] => []
  | part :: parts => part.inline :: inlineParts parts

/-- Each field on one line. -/
def inlineFields : List (String × Layout) → List String
  | [] => []
  | (label, part) :: fields => (label ++ ": " ++ part.inline) :: inlineFields fields

end

/-- A part of a group, given by its lines: each is indented, the first begins with the label, and
a comma follows the last. -/
def indent (label : String) : List String → List String
  | [] => []
  | [line] => ["    " ++ label ++ line ++ ","]
  | line :: more => ("    " ++ label ++ line) :: indent "" more

/-- A group, given by the lines of its parts. A group without parts takes one line. -/
def bracketed (opening closing : String) : List String → List String
  | [] => [opening ++ closing]
  | lines => opening :: lines ++ [closing]

mutual

/-- The lines of the layout with every part on lines of its own. -/
def lines : Layout → List String
  | atom text => [text]
  | record name fields => bracketed (name ++ " \x7b") "\x7d" (linesOfFields fields)
  | tuple parts => bracketed "(" ")" (linesOfParts parts)
  | list parts => bracketed "[" "]" (linesOfParts parts)

/-- The lines of the parts of a group. -/
def linesOfParts : List Layout → List String
  | [] => []
  | part :: parts => indent "" part.lines ++ linesOfParts parts

/-- The lines of the fields of a structure. -/
def linesOfFields : List (String × Layout) → List String
  | [] => []
  | (label, part) :: fields => indent (label ++ ": ") part.lines ++ linesOfFields fields

end

/-- The layout over as many lines as it has parts. -/
def multiline (l : Layout) : String := "\n".intercalate l.lines

/-- The layout over several lines if `pretty`, else on one. -/
def render (pretty : Bool) (l : Layout) : String :=
  if pretty then l.multiline else l.inline

end Layout

end TextParsers
