/-!
# Values shown as records

A record is shown as its name and its fields between braces; two dots after the last field say that
some fields are not shown. A tagged value is shown as its tag with the value between parentheses.
-/
namespace VmHost.Text

/-- The text between the braces of a record. -/
def fieldList (fields : List (String × String)) : List String :=
  fields.map fun f => f.1 ++ ": " ++ f.2

/-- A record of which every field is shown: `Name { field: value, field: value }`. -/
def record (name : String) (fields : List (String × String)) : String :=
  name ++ " \x7b " ++ ", ".intercalate (fieldList fields) ++ " \x7d"

/-- A record with fields that are not shown: `Name { field: value, .. }`. -/
def openRecord (name : String) (fields : List (String × String)) : String :=
  name ++ " \x7b " ++ ", ".intercalate (fieldList fields ++ [".."]) ++ " \x7d"

/-- A tagged value: `Tag(value)`. -/
def tagged (tag value : String) : String := tag ++ "(" ++ value ++ ")"

/-- A value that may be missing: `Some(value)` or `None`. -/
def optional : Option String → String
  | some value => tagged "Some" value
  | none => "None"

end VmHost.Text
