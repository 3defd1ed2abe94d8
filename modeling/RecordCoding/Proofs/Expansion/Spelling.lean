import RecordCoding.Expansion.Obstacle

/-!
# Spelling of identifiers

The identifier for a field is its name, with a mark in front where the name is a reserved word. No
two names are spelled alike, and a name that is an identifier is never refused.
-/

namespace RecordCoding.Expansion

open Source

/-- A name is one identifier without a mark, and one that a mark may be put in front of. -/
structure IsIdentifier (name : String) : Prop where
  token : tokenize? name = some [.ident name]
  unmarked : unraw name = name
  markable : name ∉ neverRawWords

/-- How a name is written as an identifier. -/
def spelling (name : String) : String := if isName name then name else "r#" ++ name

/-- A mark in front of a name is taken off again. -/
theorem unraw_marked (name : String) : unraw ("r#" ++ name) = name := by
  have chars : ("r#" ++ name).toList = 'r' :: '#' :: name.toList := by simp
  rw [unraw, chars]
  exact String.ofList_toList

/-- The name is what is left of its spelling without a mark. -/
theorem unraw_spelling {name : String} (identifier : IsIdentifier name) :
    unraw (spelling name) = name := by
  unfold spelling
  split
  · exact identifier.unmarked
  · exact unraw_marked name

/-- No two names are spelled alike. -/
theorem eq_of_spelling {first second : String} (identifier : IsIdentifier first)
    (identifierToo : IsIdentifier second) (same : spelling first = spelling second) :
    first = second := by
  rw [← unraw_spelling identifier, same, unraw_spelling identifierToo]

/-- The identifier for a field is the spelling of its name. -/
theorem fieldIdentifier_eq {name : String} (identifier : IsIdentifier name) :
    fieldIdentifier name = .ok (spelling name) := by
  unfold fieldIdentifier spelling
  rw [identifier.token]
  dsimp only
  have markable : neverRawWords.contains name = false := by simpa using identifier.markable
  rw [markable]
  split <;> rfl

end RecordCoding.Expansion
