/-!
The distinct texts of a list in increasing order of code points.
-/
namespace ReplicaSet.Text

/-- Puts a text into its place in an increasing list, unless it is there already. -/
def insertDistinct (text : String) : List String → List String
  | [] => [text]
  | head :: tail =>
    if text < head then text :: head :: tail
    else if text = head then head :: tail
    else head :: insertDistinct text tail

/-- The texts of the list, each once, in increasing order of code points. -/
def distinct (texts : List String) : List String :=
  texts.foldr insertDistinct []

theorem mem_insertDistinct {text other : String} {texts : List String} :
    other ∈ insertDistinct text texts ↔ other = text ∨ other ∈ texts := by
  induction texts with
  | nil => simp [insertDistinct]
  | cons head tail ih =>
    unfold insertDistinct
    split
    next => simp
    next =>
      split
      next same => subst same; simp
      next => simp only [List.mem_cons, ih]; exact or_left_comm

theorem mem_distinct {text : String} {texts : List String} :
    text ∈ distinct texts ↔ text ∈ texts := by
  induction texts with
  | nil => simp [distinct]
  | cons head tail ih =>
    show text ∈ insertDistinct head (distinct tail) ↔ _
    rw [mem_insertDistinct, ih, List.mem_cons]

end ReplicaSet.Text
