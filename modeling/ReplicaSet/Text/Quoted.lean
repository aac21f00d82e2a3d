import ReplicaSet.Text.Extending
import ReplicaSet.Text.Ignorable
import ReplicaSet.Text.Unprintable

/-!
Text in double quotes, as log records show keys and endpoints. What a reader could not see, or
could not tell from its neighbours, is written as an escape.
-/
namespace ReplicaSet.Text

/-- A code point in lower-case hexadecimal digits, as few as it needs. -/
def hex (n : Nat) : String :=
  String.ofList (Nat.toDigits 16 n)

/-- Whether the character is written as its code point. Printable ASCII never is. -/
def isHidden (c : Char) : Bool :=
  if ' ' ≤ c ∧ c ≤ '~' then false
  else extending.holds c || ignorable.holds c || unprintable.holds c

/-- One character between the quotes. The double quote and the backslash are escaped by a
backslash, four controls have short names, other hidden characters show their code point. -/
def escape (c : Char) : String :=
  if c = '"' then "\\\""
  else if c = '\\' then "\\\\"
  else if c = '\n' then "\\n"
  else if c = '\r' then "\\r"
  else if c = '\t' then "\\t"
  else if c = '\x00' then "\\0"
  else if isHidden c then "\\u\x7b" ++ hex c.toNat ++ "\x7d"
  else String.singleton c

/-- The text in double quotes. -/
def quote (text : String) : String :=
  "\"" ++ String.join (text.toList.map escape) ++ "\""

end ReplicaSet.Text
