import ReplicaSet.Text.Ranges

/-!
Blank text: nothing but white space, in the sense of the Unicode property White_Space. Set names
must not be blank, and a blank endpoint counts as no endpoint.
-/
namespace ReplicaSet.Text

/-- The 25 characters that have the property White_Space. -/
def whiteSpace : Ranges :=
  [(0x9, 0xd), (0x20, 0x20), (0x85, 0x85), (0xa0, 0xa0), (0x1680, 0x1680), (0x2000, 0x200a),
    (0x2028, 0x2029), (0x202f, 0x202f), (0x205f, 0x205f), (0x3000, 0x3000)]

/-- Whether every character is white space. The empty text is blank. -/
def isBlank (text : String) : Bool :=
  text.toList.all whiteSpace.holds

/-- The text, unless it is blank. It is kept as it is, white space around it included. -/
def nonBlank? (text : String) : Option String :=
  if isBlank text then none else some text

theorem nonBlank?_eq_some {text kept : String} :
    nonBlank? text = some kept ↔ isBlank text = false ∧ text = kept := by
  unfold nonBlank?
  split <;> simp_all

end ReplicaSet.Text
