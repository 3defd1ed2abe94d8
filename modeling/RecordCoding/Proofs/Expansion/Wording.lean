import RecordCoding.Expansion.Code
import RecordCoding.Proofs.Expansion.Spelling
import RecordCoding.Proofs.Expansion.Tokens

/-!
# The wording of generated code

What the parts of generated code say, word by word: the value that a plan reads, the call that
writes a field, and the implementation of an interface under the conditions of a type and further
ones. The parts that are written for the artifacts of a run are worded in this way.
-/

namespace RecordCoding

open Source

/-- A text that a plan brings into the code is not what it has to be. -/
def ReadPlan.Unreadable : ReadPlan → Prop
  | .defaulted expression _ => ∃ cause, readExpression expression = .error cause
  | .compactArray element _ | .compactSet element _ => ∃ cause, readType element.text = .error cause
  | .compactMap key value _ => (∃ cause, readType key.text = .error cause) ∨
      ∃ cause, readType value.text = .error cause
  | _ => False

namespace Expansion

/-- The words for a fallback: a string literal is converted, any other expression stands as it is
written. -/
inductive FallsBack (expression : String) : List Token → Prop
  | converted {written : String} {tokens : List Token}
    (read : readExpression expression = .ok (.literal (some written), tokens))
    (string : (Literal.string? written).isSome = true) :
    FallsBack expression
      (phrase ":: core :: convert :: Into :: into" ++ [parens [.literal written]])
  | kept {form : ExpressionForm} {tokens : List Token}
    (read : readExpression expression = .ok (form, tokens))
    (other : ∀ written, form = .literal (some written) → Literal.string? written = none) :
    FallsBack expression tokens

/-- The words for the value that a plan reads under a key. -/
inductive Reads (key : List Token) : ReadPlan → List Token → Prop
  | direct : Reads key .direct (phrase "__container . decode" ++ [parens key] ++ phrase "?")
  | optional : Reads key .optional
      (phrase "__container . decode_if_present" ++ [parens key] ++ phrase "?")
  | defaulted {expression : String} {fallback : List Token}
    (fallsBack : FallsBack expression fallback) :
    Reads key (.defaulted expression false)
      (phrase "__container . decode_if_present" ++ [parens key] ++ phrase "? . unwrap_or_else" ++
        [parens (phrase "||" ++ fallback)])
  | defaultedOptional {expression : String} {fallback : List Token}
    (fallsBack : FallsBack expression fallback) :
    Reads key (.defaulted expression true)
      (phrase "__container . decode_if_present" ++ [parens key] ++ phrase "? . or_else" ++
        [parens (phrase "|| :: core :: option :: Option :: Some" ++ [parens fallback])])
  | compactArray {element : FieldType} {written : TypeExpr} (optional : Bool)
    (read : readType element.text = .ok written) :
    Reads key (.compactArray element optional)
      (phrase "__container ." ++
        [.ident (if optional then "decode_compacted_if_present" else "decode_compacted")] ++
        phrase ":: <" ++ written.tokens ++ phrase ", _ >" ++ [parens key] ++ phrase "?")
  | compactSet {element : FieldType} {written : TypeExpr} (optional : Bool)
    (read : readType element.text = .ok written) :
    Reads key (.compactSet element optional)
      (phrase "__container ." ++
        [.ident (if optional then "decode_compacted_if_present" else "decode_compacted")] ++
        phrase ":: <" ++ written.tokens ++ phrase ", _ >" ++ [parens key] ++ phrase "?")
  | compactMap {name value : FieldType} {writtenName writtenValue : TypeExpr} (optional : Bool)
    (readName : readType name.text = .ok writtenName)
    (readValue : readType value.text = .ok writtenValue) :
    Reads key (.compactMap name value optional)
      (phrase "__container ." ++
        [.ident (if optional then "decode_compacted_map_if_present" else "decode_compacted_map")] ++
        phrase ":: <" ++ writtenName.tokens ++ phrase "," ++ writtenValue.tokens ++
        phrase ", _ >" ++ [parens key] ++ phrase "?")
  | lossless (optional : Bool) :
    Reads key (.lossless optional)
      (phrase "__container ." ++
        [.ident (if optional then "decode_lossless_if_present" else "decode_lossless")] ++
        [parens key] ++ phrase "?")

/-- The words of the call for a statement of an encode routine. -/
inductive Writes (table : String) : EncodeStatement → List Token → Prop
  | always (field : String) :
    Writes table ⟨field, .always⟩
      (phrase "__container . encode" ++
        [parens (phrase "& self ." ++ [.ident (spelling field)] ++ phrase "," ++ [.ident table] ++
          phrase "::" ++ [.ident (spelling field)])] ++ phrase "? ;")
  | ifPresent (field : String) :
    Writes table ⟨field, .ifPresent⟩
      (phrase "__container . encode_if_present" ++
        [parens (phrase "self ." ++ [.ident (spelling field)] ++ phrase ". as_ref" ++ [parens []] ++
          phrase "," ++ [.ident table] ++ phrase "::" ++ [.ident (spelling field)])] ++
        phrase "? ;")

/-- An interface is implemented for a type, with a body: the implementation introduces the
parameters of some generics, and it has further conditions behind those of the type. -/
def Implements (item : TypeItem) (generics : Generics) (further : List (List Token))
    (interface body tokens : List Token) : Prop :=
  ∃ extended : Generics,
    extended.predicates.map (·.tokens) = item.generics.predicates.map (·.tokens) ++ further ∧
    Occurs (phrase "impl" ++ generics.introduction ++ interface ++ phrase "for" ++
      [.ident item.name] ++ item.generics.application ++ extended.conditions ++ [braces body]) tokens

/-- A key table is declared: the enumeration has the variants in order, and so have the wire keys
and the list of all variants. -/
structure DeclaresKeys (item : TypeItem) (table : String) (variants : List KeyVariant)
    (tokens : List Token) : Prop where
  enumeration : Occurs (item.visibility ++ phrase "enum" ++ [.ident table] ++
    [braces (variants.flatMap fun variant => [.ident variant.identifier, .punct ',' false])]) tokens
  keys : Occurs (phrase "impl :: codify :: CodingKey for" ++ [.ident table] ++
    [braces (phrase "fn string_value" ++ [parens (phrase "& self")] ++ phrase "-> & 'static str" ++
      [braces (phrase "match * self" ++ [braces (variants.flatMap fun variant =>
        phrase "Self ::" ++ [.ident variant.identifier] ++ phrase "=>" ++ [literal variant.key] ++
          phrase ",")])] ++
      phrase "fn all_keys" ++ [parens []] ++ phrase "-> & 'static" ++ [brackets (phrase "Self")] ++
      [braces (phrase "&" ++ [brackets (variants.flatMap fun variant =>
        phrase "Self ::" ++ [.ident variant.identifier] ++ phrase ",")])])]) tokens

/-- Reading is implemented for a type, on the condition that every type among the parameters can be
read: a value is constructed with the given initializers. -/
def ImplementsReading (item : TypeItem) (table : String) (initializers : List Initializer)
    (tokens : List Token) : Prop :=
  Implements item item.generics
    (item.generics.typeNames.map fun name =>
      name ++ phrase ":" ++ phrase ":: codify :: __private :: serde :: de :: DeserializeOwned")
    (phrase ":: codify :: Decodable")
    (phrase "fn from_decoder" ++ [parens (phrase "decoder : & :: codify :: Decoder ,")] ++
      phrase "->" ++ phrase ":: core :: result :: Result <" ++ phrase "Self" ++
      phrase ", :: codify :: CodingError >" ++
      [braces (phrase "let __container = decoder ." ++ phrase "container :: <" ++ [.ident table] ++
        phrase ">" ++ [parens []] ++ phrase "? ;" ++ phrase ":: core :: result :: Result :: Ok" ++
        [parens (phrase "Self" ++ [braces (initializers.flatMap fun i =>
          [.ident i.identifier] ++ phrase ":" ++ i.value ++ phrase ",")])])])
    tokens

/-- Writing is implemented for a type, on the condition that every type among the parameters can be
written: the given calls are made one after the other. -/
def ImplementsWriting (item : TypeItem) (table : String) (calls : List (List Token))
    (tokens : List Token) : Prop :=
  Implements item item.generics
    (item.generics.typeNames.map fun name =>
      name ++ phrase ":" ++ phrase ":: codify :: __private :: serde :: Serialize")
    (phrase ":: codify :: Encodable")
    (phrase "fn encode" ++ [parens (phrase "& self , encoder : & mut :: codify :: Encoder ,")] ++
      phrase "->" ++ phrase ":: core :: result :: Result <" ++ [parens []] ++
      phrase ", :: codify :: CodingError >" ++
      [braces ([.punct '#' false, brackets (phrase "allow" ++ [parens (phrase "unused_mut")])] ++
        phrase "let mut __container = encoder ." ++ phrase "container :: <" ++ [.ident table] ++
        phrase ">" ++ [parens []] ++ phrase ";" ++ calls.flatten ++
        phrase ":: core :: result :: Result :: Ok" ++ [parens [parens []]])])
    tokens

/-- The bridge is implemented for a type: both of its functions hand over to the routines of the
type, and are there on the condition that the type has these. -/
structure ImplementsBridge (item : TypeItem) (tokens : List Token) : Prop where
  writing : Implements item item.generics
    [[.ident item.name] ++ item.generics.application ++ phrase ":" ++
      phrase ":: codify :: Encodable"]
    (phrase ":: codify :: __private :: serde :: Serialize")
    (phrase "fn" ++ [.ident "serialize"] ++ phrase "<" ++ [.ident "__S"] ++ phrase ">" ++
      [parens (phrase "& self , serializer : __S ,")] ++
      phrase "-> :: core :: result :: Result <" ++ phrase "__S :: Ok" ++ phrase "," ++
      [.ident "__S"] ++ phrase ":: Error > where" ++ [.ident "__S"] ++
      phrase ": :: codify :: __private :: serde ::" ++ phrase "Serializer" ++ phrase "," ++
      [braces (phrase ":: codify :: __private ::" ++
        [.ident "serialize", parens (phrase "self , serializer")])])
    tokens
  reading : Implements item (item.generics.withLifetime "__de")
    [[.ident item.name] ++ item.generics.application ++ phrase ":" ++
      phrase ":: codify :: Decodable"]
    (phrase ":: codify :: __private :: serde :: Deserialize < '__de >")
    (phrase "fn" ++ [.ident "deserialize"] ++ phrase "<" ++ [.ident "__D"] ++ phrase ">" ++
      [parens (phrase "deserializer : __D")] ++
      phrase "-> :: core :: result :: Result <" ++ phrase "Self" ++ phrase "," ++
      [.ident "__D"] ++ phrase ":: Error > where" ++ [.ident "__D"] ++
      phrase ": :: codify :: __private :: serde ::" ++ phrase "Deserializer < '__de >" ++
      phrase "," ++
      [braces (phrase ":: codify :: __private ::" ++
        [.ident "deserialize", parens (phrase "deserializer")])])
    tokens

/-- Where an implementation is a part, it is in the whole. -/
theorem Implements.trans {item : TypeItem} {generics : Generics} {further : List (List Token)}
    {interface body tokens others : List Token}
    (implements : Implements item generics further interface body tokens)
    (within : Occurs tokens others) : Implements item generics further interface body others := by
  obtain ⟨extended, predicates, occurs⟩ := implements
  exact ⟨extended, predicates, occurs.trans within⟩

/-! ## Conditions -/

/-- A further condition stands behind those that are there. -/
theorem tokens_require (generics : Generics) (condition : List Token) :
    (generics.require condition).predicates.map (·.tokens) =
      generics.predicates.map (·.tokens) ++ [condition] := by
  obtain ⟨parameters, predicates⟩ := generics
  rcases List.eq_nil_or_concat predicates with rfl | ⟨before, last, rfl⟩
  · rfl
  · simp [Generics.require]

/-- A condition on every type among the parameters stands behind those that are there. -/
theorem tokens_requireOfTypes (generics : Generics) (bound : List Token) :
    (requireOfTypes generics bound).predicates.map (·.tokens) =
      generics.predicates.map (·.tokens) ++
        generics.typeNames.map fun name => name ++ phrase ":" ++ bound := by
  unfold requireOfTypes
  generalize generics.typeNames = names
  induction names generalizing generics with
  | nil => exact (List.append_nil _).symm
  | cons name rest ih =>
    rw [List.foldl_cons, ih, tokens_require, List.append_assoc]
    rfl

/-- The parameters alone are introduced. -/
theorem introduction_congr {first second : Generics} (same : first.parameters = second.parameters) :
    first.introduction = second.introduction := by
  unfold Generics.introduction Generics.bracketed
  rw [same]

/-- The implementation of an interface is one, with the conditions that are behind those of the
type. -/
theorem implements_implementation (item : TypeItem) {generics introduced : Generics}
    {further : List (List Token)} (parameters : generics.parameters = introduced.parameters)
    (predicates : generics.predicates.map (·.tokens) =
      item.generics.predicates.map (·.tokens) ++ further) (interface : List Token)
    {written body : List Token} (worded : written = body) :
    Implements item introduced further interface body
      (implementation item generics interface written) := by
  refine ⟨generics, predicates, ?_⟩
  rw [← introduction_congr parameters, ← worded]
  unfold implementation
  simp only [List.append_assoc]
  exact (Occurs.refl _).behind

/-! ## Values and calls -/

/-- A fallback is worded as it should be, or its text cannot be read. -/
theorem fallbackTokens_cases (field expression : String) :
    ((¬ ∃ cause, readExpression expression = .error cause) ∧
      ∃ tokens, fallbackTokens field expression = .ok tokens ∧ FallsBack expression tokens) ∨
    (∃ cause, readExpression expression = .error cause) ∧ ∃ defect,
      fallbackTokens field expression = .error (.defect defect) := by
  unfold fallbackTokens
  split
  · rename_i cause unread
    exact Or.inr ⟨⟨cause, unread⟩, _, rfl⟩
  · rename_i written tokens read
    refine Or.inl ⟨by simp [read], ?_⟩
    split
    · rename_i string
      exact ⟨_, rfl, .converted read string⟩
    · rename_i other
      refine ⟨_, rfl, .kept read ?_⟩
      rintro _ ⟨⟩
      simpa using other
  · rename_i form tokens other read
    exact Or.inl ⟨by simp [read], _, rfl,
      .kept read fun written same => absurd same (other written)⟩

/-- A type has tokens, or its text cannot be read. -/
theorem typeTokens_cases (type : FieldType) :
    (∃ written, readType type.text = .ok written ∧ typeTokens type = .ok written.tokens) ∨
    (∃ cause, readType type.text = .error cause) ∧ ∃ defect,
      typeTokens type = .error (.defect defect) := by
  unfold typeTokens
  cases readType type.text with
  | ok written => exact Or.inl ⟨written, rfl, rfl⟩
  | error cause => exact Or.inr ⟨⟨cause, rfl⟩, _, rfl⟩

/-- The call of a method with a type argument. -/
theorem callFor_typeArgument (key method written : List Token) :
    callFor key (method ++ typeArguments [written]) =
      phrase "__container ." ++ method ++ phrase ":: <" ++ written ++ phrase ", _ >" ++
        [parens key] ++ phrase "?" := by
  simp only [callFor, typeArguments, List.flatMap_cons, List.flatMap_nil, List.append_nil,
    List.append_assoc]
  rfl

/-- The call of a method with two type arguments. -/
theorem callFor_typeArguments (key method first second : List Token) :
    callFor key (method ++ typeArguments [first, second]) =
      phrase "__container ." ++ method ++ phrase ":: <" ++ first ++ phrase "," ++ second ++
        phrase ", _ >" ++ [parens key] ++ phrase "?" := by
  simp only [callFor, typeArguments, List.flatMap_cons, List.flatMap_nil, List.append_nil,
    List.append_assoc]
  rfl

/-- A plan reads a value in the words for it, unless it holds a text that cannot be read. -/
theorem readValue_cases (field : String) (key : List Token) (plan : ReadPlan) :
    (¬ plan.Unreadable ∧ ∃ value, readValue field key plan = .ok value ∧ Reads key plan value) ∨
    plan.Unreadable ∧ ∃ defect, readValue field key plan = .error (.defect defect) := by
  cases plan with
  | direct => exact Or.inl ⟨id, _, rfl, .direct⟩
  | optional => exact Or.inl ⟨id, _, rfl, .optional⟩
  | lossless optional =>
    refine Or.inl ⟨id, _, rfl, ?_⟩
    have words := @Reads.lossless key optional
    cases optional <;> exact words
  | defaulted expression optional =>
    rcases fallbackTokens_cases field expression with
      ⟨readable, fallback, found, fallsBack⟩ | ⟨unreadable, defect, failed⟩
    · refine Or.inl ⟨readable, callFor key (phrase "decode_if_present") ++
        otherwise optional fallback, ?_, ?_⟩
      · rw [readValue, found]
        rfl
      · cases optional with
        | false => exact .defaulted fallsBack
        | true => exact .defaultedOptional fallsBack
    · refine Or.inr ⟨unreadable, defect, ?_⟩
      rw [readValue, failed]
      rfl
  | compactArray element optional | compactSet element optional =>
    rcases typeTokens_cases element with ⟨written, read, found⟩ | ⟨unreadable, defect, failed⟩
    · refine Or.inl ⟨by simp [ReadPlan.Unreadable, read], callFor key
        (methodName "decode_compacted" optional ++ typeArguments [written.tokens]), ?_, ?_⟩
      · rw [readValue, found]
        rfl
      · rw [callFor_typeArgument]
        cases optional <;> constructor <;> exact read
    · refine Or.inr ⟨unreadable, defect, ?_⟩
      rw [readValue, failed]
      rfl
  | compactMap name value optional =>
    rcases typeTokens_cases name with ⟨written, read, found⟩ | ⟨unreadable, defect, failed⟩
    · rcases typeTokens_cases value with
        ⟨writtenToo, readToo, foundToo⟩ | ⟨unreadable, defect, failed⟩
      · refine Or.inl ⟨by simp [ReadPlan.Unreadable, read, readToo], callFor key
          (methodName "decode_compacted_map" optional ++
            typeArguments [written.tokens, writtenToo.tokens]), ?_, ?_⟩
        · rw [readValue, found, foundToo]
          rfl
        · rw [callFor_typeArguments]
          cases optional <;> exact .compactMap _ read readToo
      · refine Or.inr ⟨Or.inr unreadable, defect, ?_⟩
        rw [readValue, found, failed]
        rfl
    · refine Or.inr ⟨Or.inl unreadable, defect, ?_⟩
      rw [readValue, failed]
      rfl

/-- The call for a statement is in the words for it. -/
theorem writes_tokens (table : String) (statement : EncodeStatement) :
    Writes table statement
      (WriteCall.tokens table ⟨spelling statement.field, statement.rule⟩) := by
  obtain ⟨field, rule⟩ := statement
  cases rule with
  | always =>
    have words := @Writes.always table field
    simp only [List.append_assoc] at words
    exact words
  | ifPresent =>
    have words := @Writes.ifPresent table field
    simp only [List.append_assoc] at words
    simpa only [WriteCall.tokens, keyOf, List.append_assoc] using words

/-! ## Artifacts -/

section

variable (item : TypeItem)

/-- The code of a key table declares it. -/
theorem TableCode.declaresKeys (code : TableCode) :
    DeclaresKeys item code.identifier code.variants (code.tokens item) where
  enumeration := by
    suffices declared : Occurs _ (code.enumeration item) from
      declared.before.before.before.before
    unfold enumeration
    simp only [List.append_assoc]
    exact (Occurs.refl _).behind.behind.behind
  keys := by
    unfold tokens stringValue allKeys ofSelf
    simp only [List.append_assoc]
    exact (Occurs.refl _).behind.behind

/-- The code of a decode routine implements reading with its initializers. -/
theorem DecodeCode.implementsReading (code : DecodeCode) :
    ImplementsReading item code.table code.initializers (code.tokens item) := by
  refine implements_implementation item (parameters_requireOfTypes item.generics _)
    (tokens_requireOfTypes item.generics _) _ ?_
  simp only [resultOf, containerOf, succeedWith, construction, List.append_assoc]

/-- The code of an encode routine implements writing with its calls. -/
theorem EncodeCode.implementsWriting (code : EncodeCode) :
    ImplementsWriting item code.table (code.calls.map (WriteCall.tokens code.table))
      (code.tokens item) := by
  refine implements_implementation item (parameters_requireOfTypes item.generics _)
    (tokens_requireOfTypes item.generics _) _ ?_
  simp only [resultOf, containerOf, succeedWith, attribution, List.flatMap_def, List.append_assoc]

/-- The code of the bridge implements it. -/
theorem implementsBridge_bridge : ImplementsBridge item (bridge item) := by
  have writing : Implements item _ _ _ _ (writingBridge item) :=
    implements_implementation item rfl (tokens_require item.generics _) _ rfl
  have introduced : ((requireOfSelf item (phrase ":: codify :: Decodable")).withLifetime
      bridgeLifetime).parameters = (item.generics.withLifetime "__de").parameters := rfl
  have reading : Implements item _ _ _ _ (readingBridge item) :=
    implements_implementation item introduced (tokens_require item.generics _) _ rfl
  exact ⟨writing.trans (Occurs.refl _).before, reading.trans (Occurs.refl _).behind⟩

end

end Expansion

end RecordCoding
