/-!
# Key sets

The closed list of keys of a record, in order. A key is found by its text; of equal keys the
first one counts.
-/

namespace RecordCoding.KeySet

/-- The position of the key with a text. -/
def indexOf? (keys : List String) (text : String) : Option Nat := keys.findIdx? (· == text)

end RecordCoding.KeySet
