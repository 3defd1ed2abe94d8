import Mathlib.Data.String.Basic
import RecordCoding.Proofs.Json.Decimal

/-!
# The order of bytes

Texts are ordered by their characters, and that is the order of their bytes: of two characters the
greater one is written with the greater bytes, and none with the beginning of the bytes of another.
-/

namespace RecordCoding.Json

/-- Small numbers are ordered as bytes. -/
theorem cons_ofNat_lt_iff {m n : Nat} (small : m < 256) (smallToo : n < 256)
    {rest others : List UInt8} :
    UInt8.ofNat m :: rest < UInt8.ofNat n :: others ↔ m < n ∨ m = n ∧ rest < others := by
  rw [List.cons_lt_cons_iff, UInt8.lt_iff_toNat_lt, ← UInt8.toNat_inj, UInt8.toNat_ofNat',
    UInt8.toNat_ofNat', Nat.mod_eq_of_lt small, Nat.mod_eq_of_lt smallToo]

/-- A number is less if what is in front of its last six bits is, or if it is the same and the last
six bits are less. -/
theorem div_lt_or_mod_lt {m n : Nat} (less : m < n) :
    m / 64 < n / 64 ∨ m / 64 = n / 64 ∧ m % 64 < n % 64 := by
  omega

/-- Of two characters the greater one has the greater bytes, whatever follows them. -/
theorem utf8EncodeChar_append_lt {c d : Char} (before : c < d) (rest others : List UInt8) :
    String.utf8EncodeChar c ++ rest < String.utf8EncodeChar d ++ others := by
  have less : c.val.toNat < d.val.toNat := UInt32.lt_iff_toNat_lt.mp before
  have greatest : d.val.toNat < 1114112 := by
    rcases d.valid with h | h <;> omega
  unfold String.utf8EncodeChar
  dsimp only
  generalize c.val.toNat = m at less ⊢
  generalize d.val.toNat = n at less greatest ⊢
  have second (k : Nat) : k / 4096 = k / 64 / 64 := by omega
  have third (k : Nat) : k / 262144 = k / 64 / 64 / 64 := by omega
  simp only [second, third]
  split_ifs
  all_goals
    simp (disch := omega) only [List.cons_append, List.nil_append, cons_ofNat_lt_iff]
  -- bytes of the same number are compared six bits at a time, the first ones first
  all_goals
    rcases div_lt_or_mod_lt less with front | ⟨same, back⟩
    · rcases div_lt_or_mod_lt front with front | ⟨same, back⟩
      · rcases div_lt_or_mod_lt front with front | ⟨same, back⟩ <;> omega
      · omega
    · omega

/-- Texts are ordered as their bytes are. -/
theorem textBytes_lt_of_lt {text other : String} (before : text < other) :
    textBytes text < textBytes other := by
  rw [textBytes_eq, textBytes_eq]
  rw [String.lt_iff_toList_lt] at before
  generalize text.toList = chars at before ⊢
  generalize other.toList = others at before ⊢
  induction chars generalizing others with
  | nil =>
    cases others with
    | nil => exact absurd before (List.lt_irrefl [])
    | cons d rest =>
      rw [List.flatMap_nil, List.flatMap_cons]
      cases bytes : String.utf8EncodeChar d with
      | nil => exact absurd bytes (by simp)
      | cons first more => exact List.nil_lt_cons first _
  | cons c rest ih =>
    cases others with
    | nil => exact absurd before (List.not_lt_nil _)
    | cons d more =>
      rw [List.flatMap_cons, List.flatMap_cons]
      rcases List.cons_lt_cons_iff.mp before with less | ⟨rfl, behind⟩
      · exact utf8EncodeChar_append_lt less _ _
      · exact List.append_left_lt (ih more behind)

/-- Texts with the same bytes are the same. -/
theorem textBytes_inj {text other : String} (same : textBytes text = textBytes other) :
    text = other := by
  rcases lt_trichotomy text other with less | rfl | greater
  · exact absurd (same ▸ textBytes_lt_of_lt less) (List.lt_irrefl _)
  · rfl
  · exact absurd (same ▸ textBytes_lt_of_lt greater) (List.lt_irrefl _)

end RecordCoding.Json
