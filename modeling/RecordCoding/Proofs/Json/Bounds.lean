import RecordCoding.Json.Parser
import RecordCoding.Proofs.Binary64.Magnitude
import RecordCoding.Proofs.Json.Document
import RecordCoding.Proofs.Traversal

/-!
# Documents that are read are within bounds

Whatever a text spells, the numbers of the document that is read from it are within bounds: a
number that would be too large is an error or a floating point number, and one that would be
infinite is an error. The statement is proved reader by reader, by what a reader yields.
-/

namespace RecordCoding.Json

/-- The logarithms of powers of ten are ascending. -/
theorem log2_pow_ten_le {j k : Nat} (ordered : j ≤ k) :
    Nat.log2 (Nat.pow 10 j) ≤ Nat.log2 (Nat.pow 10 k) := by
  have nonzero : Nat.pow 10 j ≠ 0 := Nat.ne_of_gt (Nat.pow_pos (by decide))
  have smaller : Nat.pow 10 j ≤ Nat.pow 10 k := Nat.pow_le_pow_right (by decide) ordered
  exact Nat.le_of_lt_succ
    ((Nat.log2_lt nonzero).mpr (Nat.lt_of_le_of_lt smaller Nat.lt_log2_self))

/-- Powers of ten up to the largest that is used are large numbers. -/
theorem isLarge_pow_ten {k : Nat} (positive : 0 < k) (small : k ≤ 308) :
    (Binary64.ofNat (Nat.pow 10 k)).isLarge = true := by
  rcases Nat.eq_or_lt_of_le small with rfl | below
  · decide +kernel
  · have least := log2_pow_ten_le (j := 1) positive
    have greatest := log2_pow_ten_le (Nat.le_of_lt_succ below)
    exact Binary64.isLarge_ofNat (Nat.le_trans (by decide) least)
      (Nat.le_trans greatest (by decide +kernel))

/-- Scaling a number of moderate size never makes it infinite. -/
theorem isFinite_of_scaleByTen {x y : Binary64} {exponent : Int} (within : x.Within 65)
    (scaled : scaleByTen x exponent = some y) : y.isFinite = true := by
  fun_induction scaleByTen x exponent with
  | case1 x exponent low zero =>
    cases scaled
    exact within.isFinite
  | case2 x exponent low nonzero ih =>
    refine ih ?_ scaled
    exact within.div (by decide +kernel) (by decide) (by decide)
  | case3 x exponent high low =>
    cases scaled
    exact (within.div (isLarge_pow_ten (by omega) (by omega)) (by decide) (by decide)).isFinite
  | case4 =>
    cases scaled
    exact within.isFinite
  | case5 => cases scaled
  | case6 x exponent notLow notNegative notHigh product finite =>
    rw [← Option.some.inj scaled]
    exact finite
  | case7 => cases scaled

/-- What is in an object after an insertion was inserted or was there. -/
theorem mem_insertMember {members : List (String × Json)} {name : String} {value : Json}
    {entry : String × Json} (member : entry ∈ insertMember members name value) :
    entry = (name, value) ∨ entry ∈ members := by
  induction members with
  | nil => exact Or.inl (List.mem_singleton.mp member)
  | cons first rest ih =>
    obtain ⟨other, old⟩ := first
    unfold insertMember at member
    split at member
    · exact List.mem_cons.mp member
    · split at member
      · exact (List.mem_cons.mp member).imp_right (List.mem_cons_of_mem _)
      · rcases List.mem_cons.mp member with same | later
        · exact Or.inr (same ▸ List.mem_cons_self)
        · exact (ih later).imp_right (List.mem_cons_of_mem _)

/-- An object is within bounds if its members are, in whatever order they are put in. -/
theorem representable_ofMembers {members : List (String × Json)}
    (each : ∀ entry ∈ members, entry.2.Representable) : (ofMembers members).Representable := by
  have kept (sorted : List (String × Json)) (before : ∀ entry ∈ sorted, entry.2.Representable) :
      ∀ entry ∈ members.foldl (fun sorted entry => insertMember sorted entry.1 entry.2) sorted,
        entry.2.Representable := by
    induction members generalizing sorted with
    | nil => exact before
    | cons first rest ih =>
      refine ih (fun entry later => each entry (List.mem_cons_of_mem first later)) _ ?_
      intro entry member
      rcases mem_insertMember member with rfl | earlier
      · exact each first List.mem_cons_self
      · exact before entry earlier
  exact .object (kept [] nofun)

namespace ByteReader

/-- Whatever a reader yields has a property. -/
def Yields {α : Type} (reader : ByteReader α) (property : α → Prop) : Prop :=
  ∀ bytes value rest, reader bytes = .ok (value, rest) → property value

section Combinators

variable {α β : Type} {property : α → Prop} {other : β → Prop}

theorem yields_pure {value : α} (holds : property value) :
    Yields (pure value) property := by
  intro bytes found rest read
  cases read
  exact holds

theorem Yields.imp {reader : ByteReader α} {weaker : α → Prop} (first : reader.Yields property)
    (holds : ∀ value, property value → weaker value) : reader.Yields weaker :=
  fun bytes value rest read => holds value (first bytes value rest read)

theorem yields_fail (fault : Fault) : Yields (fail fault) property := by
  intro bytes found rest read
  cases read

theorem yields_failAhead (fault : Fault) : Yields (failAhead fault) property := by
  intro bytes found rest read
  cases read

/-- What is read after a value may depend on what that value is. -/
theorem Yields.bind {reader : ByteReader α} (first : reader.Yields property)
    {next : α → ByteReader β} (then_ : ∀ value, property value → (next value).Yields other) :
    Yields (reader >>= next) other := by
  intro bytes found rest read
  obtain ⟨⟨value, left⟩, here, again⟩ := bind_eq_ok_iff.mp read
  exact then_ value (first bytes value left here) left found rest again

/-- What is read after a value, whatever that value is. -/
theorem yields_bind {reader : ByteReader α} {next : α → ByteReader β}
    (then_ : ∀ value, (next value).Yields other) : Yields (reader >>= next) other := by
  have any : reader.Yields fun _ => True := fun _ _ _ _ => trivial
  exact any.bind fun value _ => then_ value

/-- What is read behind a step that may be left out. -/
theorem yields_optional {condition : Prop} [Decidable condition] {step : ByteReader α}
    {next : α → ByteReader β} (then_ : ∀ value, (next value).Yields other) (without : α) :
    Yields (if condition then step >>= next else next without) other := by
  split
  · exact yields_bind then_
  · exact then_ without

theorem Yields.map {reader : ByteReader α} (first : reader.Yields property) {f : α → β}
    (made : ∀ value, property value → other (f value)) : Yields (f <$> reader) other := by
  rw [← bind_pure_comp]
  exact first.bind fun value holds => yields_pure (made value holds)

end Combinators

section Numbers

/-- A number within bounds. -/
def IsBounded (number : JsonNumber) : Prop := (Json.number number).Representable

/-- A floating point number that is finite. -/
def IsFloat (number : JsonNumber) : Prop :=
  ∃ x : Binary64, number = .float x ∧ x.isFinite = true

/-- Finite floating point numbers are within bounds. -/
theorem IsFloat.isBounded {number : JsonNumber} (float : IsFloat number) : IsBounded number := by
  obtain ⟨x, rfl, finite⟩ := float
  exact .float finite

/-- Digits are read into a value within the limit. -/
theorem gatherDigits_le {limit value : Nat} (small : value ≤ limit) (count : Nat)
    (bytes : List UInt8) : (gatherDigits limit value count bytes).1.1 ≤ limit := by
  fun_induction gatherDigits limit value count bytes <;> simp_all

/-- Digits are read into a value within the limit. -/
theorem yields_digits {limit value : Nat} (small : value ≤ limit) :
    (digits limit value).Yields (·.1 ≤ limit) := by
  intro bytes found rest read
  have same : (gatherDigits limit value 0 bytes).1 = found :=
    congrArg Prod.fst (Except.ok.inj read)
  rw [← same]
  exact gatherDigits_le small 0 bytes

variable {significand : Nat} (negative : Bool)

theorem yields_float (small : significand ≤ maxUnsigned) (exponent : Int) :
    (float negative significand exponent).Yields IsFloat := by
  have within : (Binary64.ofNat significand).Within 65 := by
    refine Binary64.within_ofRatio_one false (Nat.lt_of_le_of_lt small ?_)
    decide
  unfold float
  cases scaled : scaleByTen (.ofNat significand) exponent with
  | none => exact yields_fail _
  | some x =>
    refine yields_pure ⟨_, rfl, ?_⟩
    have finite := isFinite_of_scaleByTen within scaled
    cases negative with
    | false => exact finite
    | true => exact (Binary64.isFinite_neg x).trans finite

theorem yields_exponent (small : significand ≤ maxUnsigned) (start : Int) :
    (exponent negative significand start).Yields IsFloat := by
  unfold exponent
  refine yields_bind fun sign => yields_optional (fun _ => ?_) ()
  refine yields_bind fun first => yields_optional (fun _ => ?_) ()
  refine yields_bind fun ⟨size, _⟩ => yields_bind fun more => ?_
  split
  · refine yields_bind fun _ => yields_optional (fun _ => ?_) ()
    exact yields_bind fun _ => yields_pure ⟨_, rfl, rfl⟩
  · exact yields_float negative small _

theorem yields_afterDigits (small : significand ≤ maxUnsigned) (start : Int) :
    (afterDigits negative significand start).Yields IsFloat := by
  unfold afterDigits
  refine yields_bind fun next => ?_
  split
  · exact yields_bind fun _ => yields_exponent negative small start
  · exact yields_bind fun _ => yields_exponent negative small start
  · exact yields_float negative small start

theorem yields_fraction (small : significand ≤ maxUnsigned) (start : Int) :
    (fraction negative significand start).Yields IsFloat := by
  unfold fraction
  refine (yields_digits small).bind fun ⟨digits, count⟩ within => ?_
  have rest (_ : Unit) := yields_afterDigits negative within (start - count)
  refine yields_bind fun more => ?_
  split
  · exact yields_bind fun _ => rest ()
  · split
    · exact yields_bind fun _ => yields_bind rest
    · exact rest ()

/-- A number without fraction and exponent is within bounds. -/
theorem isBounded_afterInteger (small : significand ≤ maxUnsigned) :
    IsBounded (if !negative then .integer significand
      else if significand = 0 || Nat.pow 2 63 < significand then
        .float (Binary64.ofNat significand).neg
      else .integer (-significand)) := by
  have upper : Int.pow 2 64 = 18446744073709551616 := by decide
  have lower : Int.pow 2 63 = 9223372036854775808 := by decide
  have greatest : maxUnsigned = 18446744073709551615 := by decide
  have middle : Nat.pow 2 63 = 9223372036854775808 := by decide
  cases negative with
  | false => exact .integer (by omega) (by omega)
  | true =>
    by_cases large : (significand = 0 || Nat.pow 2 63 < significand) = true
    · have within : (Binary64.ofNat significand).Within 65 :=
        Binary64.within_ofRatio_one false (Nat.lt_of_le_of_lt small (by decide))
      simp only [large]
      exact .float ((Binary64.isFinite_neg _).trans within.isFinite)
    · have bound : significand ≤ Nat.pow 2 63 := by
        simp only [Bool.or_eq_true, decide_eq_true_eq, not_or] at large
        omega
      simp only [large]
      exact .integer (by omega) (by omega)

/-- The value of a digit. -/
theorem digit_le {c : Char} (digit : c.isDigit = true) : c.toNat - 48 ≤ maxUnsigned := by
  have greatest : maxUnsigned = 18446744073709551615 := by decide
  have last : c.toNat ≤ 57 := by
    simp only [Char.isDigit, Bool.and_eq_true, decide_eq_true_eq] at digit
    exact digit.2
  omega

theorem yields_afterInteger (small : significand ≤ maxUnsigned) :
    (afterInteger negative significand).Yields IsBounded := by
  have bounded (number : JsonNumber) (float : IsFloat number) : IsBounded number := float.isBounded
  unfold afterInteger
  refine yields_bind fun more => ?_
  split
  · refine yields_bind fun extra => yields_bind fun next => ?_
    split
    · exact yields_bind fun _ => (yields_fraction negative small extra).imp bounded
    · exact (yields_afterDigits negative small extra).imp bounded
  · refine yields_bind fun next => ?_
    split
    · exact yields_bind fun _ => (yields_fraction negative small 0).imp bounded
    · exact yields_bind fun _ => (yields_exponent negative small 0).imp bounded
    · exact yields_bind fun _ => (yields_exponent negative small 0).imp bounded
    · exact yields_pure (isBounded_afterInteger negative small)

theorem yields_unsignedNumber : (unsignedNumber negative).Yields IsBounded := by
  unfold unsignedNumber
  refine yields_bind fun first => ?_
  split
  · refine yields_bind fun more => yields_optional (fun _ => ?_) ()
    exact yields_afterInteger negative (Nat.zero_le maxUnsigned)
  · split
    · rename_i digit
      refine (yields_digits (digit_le digit)).bind fun ⟨significand, count⟩ small => ?_
      exact yields_afterInteger negative small
    · exact yields_fail _

theorem yields_number : number.Yields IsBounded := by
  unfold number
  refine yields_bind fun next => ?_
  split
  · exact yields_bind fun _ => yields_unsignedNumber true
  · exact yields_unsignedNumber false

end Numbers

section Values

/-- A property that documents have if what is in them has it. -/
structure Inherited (property : Json → Prop) : Prop where
  null : property .null
  boolean : ∀ value, property (.boolean value)
  number : ∀ number, IsBounded number → property (.number number)
  text : ∀ value, property (.text value)
  array : ∀ elements, (∀ element ∈ elements, property element) → property (.array elements)
  object : ∀ members : List (String × Json), (∀ entry ∈ members, property entry.2) →
    property (ofMembers members)

variable {value : ByteReader Json} {property : Json → Prop}

theorem yields_elements (each : value.Yields property) (bound : Nat) (isFirst : Bool) :
    (elements value bound isFirst).Yields fun read => ∀ element ∈ read, property element := by
  induction bound generalizing isFirst with
  | zero => exact yields_fail _
  | succ bound ih =>
    have readOn : Yields (value >>= fun element => do
        pure (element :: (← elements value bound false)))
        fun read => ∀ element ∈ read, property element := by
      refine each.bind fun element holds => (ih false).bind fun rest others => ?_
      exact yields_pure (List.forall_mem_cons.mpr ⟨holds, others⟩)
    unfold elements
    refine yields_bind fun next => ?_
    split
    · exact yields_failAhead _
    · exact yields_bind fun _ => yields_pure nofun
    · split
      · exact readOn
      · refine yields_bind fun _ => yields_bind fun after => ?_
        split
        · exact yields_failAhead _
        · exact readOn
        · exact yields_failAhead _
    · split
      · exact readOn
      · exact yields_failAhead _

theorem yields_members (each : value.Yields property) (bound : Nat) (isFirst : Bool) :
    (members value bound isFirst).Yields fun read => ∀ entry ∈ read, property entry.2 := by
  induction bound generalizing isFirst with
  | zero => exact yields_fail _
  | succ bound ih =>
    have readOn : Yields (do
        skip
        let name ← string
        colon
        let member ← value
        pure ((name, member) :: (← members value bound false)))
        fun read => ∀ entry ∈ read, property entry.2 := by
      refine yields_bind fun _ => yields_bind fun name => yields_bind fun _ => ?_
      refine each.bind fun member holds => (ih false).bind fun rest others => ?_
      exact yields_pure (List.forall_mem_cons.mpr ⟨holds, others⟩)
    unfold members
    refine yields_bind fun next => ?_
    split
    · exact yields_failAhead _
    · exact yields_bind fun _ => yields_pure nofun
    · split
      · split
        · exact readOn
        · exact yields_failAhead _
      · split
        · refine yields_bind fun _ => yields_bind fun after => ?_
          split
          · exact readOn
          · exact yields_failAhead _
          · exact yields_failAhead _
          · exact yields_failAhead _
        · exact yields_failAhead _

/-- A layer yields documents with an inherited property if the layer below does. -/
theorem yields_valueOver (inherited : Inherited property) {inner : Option (ByteReader Json)}
    (below : ∀ value ∈ inner, value.Yields property) : (valueOver inner).Yields property := by
  unfold valueOver
  refine yields_bind fun next => ?_
  split
  · exact yields_failAhead _
  · exact yields_bind fun _ => yields_bind fun _ => yields_pure inherited.null
  · exact yields_bind fun _ => yields_bind fun _ => yields_pure (inherited.boolean true)
  · exact yields_bind fun _ => yields_bind fun _ => yields_pure (inherited.boolean false)
  · have any : string.Yields fun _ => True := fun _ _ _ _ => trivial
    exact yields_bind fun _ => any.map fun text _ => inherited.text text
  · split
    · exact yields_failAhead _
    · rename_i value
      refine yields_bind fun _ => yields_bind fun bound => ?_
      exact (yields_elements (below value rfl) bound true).map inherited.array
  · split
    · exact yields_failAhead _
    · rename_i value
      refine yields_bind fun _ => yields_bind fun bound => ?_
      exact (yields_members (below value rfl) bound true).map inherited.object
  · split
    · exact yields_number.map inherited.number
    · exact yields_failAhead _

end Values

theorem yields_value {property : Json → Prop} (inherited : Inherited property) (depth : Nat) :
    (value depth).Yields property := by
  induction depth with
  | zero =>
    refine yields_valueOver inherited ?_
    intro _ absent
    cases absent
  | succ depth ih =>
    refine yields_valueOver inherited ?_
    intro _ present
    cases present
    exact ih

/-- Bounds are inherited. -/
theorem inherited_representable : Inherited Representable where
  null := .null
  boolean := .boolean
  number _ bounded := bounded
  text := .text
  array _ each := .array each
  object _ each := representable_ofMembers each

end ByteReader

/-- Every document that is read from bytes has the inherited properties. -/
theorem inherited_of_parse {property : Json → Prop} (inherited : ByteReader.Inherited property)
    {bytes : List UInt8} {document : Json} (read : parse bytes = .ok document) :
    property document := by
  obtain ⟨⟨found, rest⟩, here, rfl⟩ := map_eq_ok_iff.mp (mapError_eq_ok_iff.mp read)
  have whole : ByteReader.document.Yields property := by
    refine (ByteReader.yields_value inherited maxDepth).bind fun document holds => ?_
    exact ByteReader.yields_bind fun _ => ByteReader.yields_pure holds
  exact whole bytes found rest here

/-- Every document that is read from bytes is within bounds. -/
theorem representable_of_parse {bytes : List UInt8} {document : Json}
    (read : parse bytes = .ok document) : document.Representable :=
  inherited_of_parse ByteReader.inherited_representable read

end RecordCoding.Json
