import VmHost.Text.Bytes
import VmHost.Text.Numeral

/-!
# The environment

Variables with byte strings as values. A typed reading takes the value as text, without the blanks
at its ends, and fails on a value that is not UTF-8 or does not parse; an unset variable and a
failed reading count the same.
-/
namespace VmHost

/-- The variables of a process, each with its value. -/
structure Environment where
  bindings : List (String × Bytes)
  deriving DecidableEq, Repr

namespace Environment

def empty : Environment := ⟨[]⟩

def get? (env : Environment) (name : String) : Option Bytes := env.bindings.lookup name

/-- The variable has a value, of whatever kind.
mirrors `env_is_set` -/
def isSet (env : Environment) (name : String) : Bool := (env.get? name).isSome

/-- The value of a variable as text, without the blanks at its ends. -/
def text? (env : Environment) (name : String) : Option (List Char) :=
  (env.get? name).bind fun v => (Text.decode? v).map Text.trim

/-- The value of a variable, read by `parse`.
mirrors `env_get_opt` -/
def read? {α : Type} (env : Environment) (name : String) (parse : List Char → Option α) :
    Option α := (env.text? name).bind parse

/-- The words that switch a setting on. No other text becomes one of them when its capitals are
made small, in whatever alphabet. -/
def onWords : List (List Char) :=
  ["1".toList, "true".toList, "yes".toList, "on".toList]

/-- A switch: a value that is text is on or off, and anything else leaves the default.
mirrors `env_get_bool` -/
def switch (env : Environment) (name : String) (unset : Bool) : Bool :=
  match env.text? name with
  | some cs => onWords.contains (Text.lowerAscii cs)
  | none => unset

/-- A path; an empty value counts as unset. The value need not be text.
mirrors `env_get_path` -/
def path? (env : Environment) (name : String) : Option Bytes :=
  (env.get? name).filter fun v => !v.isEmpty

/-- The texts `true` and `false`. -/
def boolOf? (cs : List Char) : Option Bool :=
  if cs = "true".toList then some true
  else if cs = "false".toList then some false
  else none

end Environment
end VmHost
