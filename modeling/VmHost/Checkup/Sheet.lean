/-!
# Sheets of a checkup

A sheet has parts with a title each, checks that are numbered throughout, and notes. A check passes
or fails for a reason. The summary counts the checks.
-/
namespace VmHost.Checkup

/-- An entry of a sheet. -/
inductive Item
  | part (title : String)
  /-- A check, with the reason why it failed, if it did. -/
  | check (name : String) (failure : Option String)
  | note (text : String)
  deriving DecidableEq, Repr

namespace Item

/-- A check that passes if something holds. -/
def ofBool (name : String) (ok : Bool) (reason : String) : Item :=
  .check name (if ok then none else some reason)

def isCheck : Item → Bool
  | .check .. => true
  | _ => false

def isFailure : Item → Bool
  | .check _ (some _) => true
  | _ => false

end Item

def rule : String := String.ofList (List.replicate 60 '─')

/-- The width of the column with the names of checks. -/
def nameWidth : Nat := 52

/-- The number of a check, in at least two places. -/
def numberText (n : Nat) : String :=
  let digits := toString n
  String.ofList (List.replicate (2 - digits.length) ' ') ++ digits

/-- A name, with blanks up to the width of its column. -/
def padded (name : String) : String :=
  name ++ String.ofList (List.replicate (nameWidth - name.length) ' ')

def verdict : Option String → String
  | none => "PASS"
  | some reason => "FAIL: " ++ reason

/-- The lines of a sheet whose first check has the number `n`. -/
def lines : Nat → List Item → List String
  | _, [] => []
  | n, .part title :: rest => ["", rule, "  " ++ title, rule] ++ lines n rest
  | n, .note text :: rest => ("       " ++ text) :: lines n rest
  | n, .check name failure :: rest =>
    ("  [" ++ numberText n ++ "] " ++ padded name ++ " " ++ verdict failure) :: lines (n + 1) rest

/-- How many checks of a sheet failed. -/
def failures (items : List Item) : Nat := items.countP Item.isFailure

/-- The last lines of a sheet: how many checks there were, and how many passed and failed. -/
def summary (items : List Item) : List String :=
  let total := items.countP Item.isCheck
  ["", rule,
    "  Total: " ++ toString total ++ "  Passed: " ++ toString (total - failures items) ++
      "  Failed: " ++ toString (failures items),
    rule]

end VmHost.Checkup
