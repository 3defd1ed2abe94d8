import RecordCoding.Commands.SourceFile
import RecordCoding.Json.Printer

/-!
# Listing keys

The key tables of the types in a file that ask for generation, as far as generation succeeds for
them, as text or as a JSON document.
-/

namespace RecordCoding.Commands

open Source

/-- The key table of one type. -/
structure KeyListing where
  typeName : String
  table : String
  /-- Whether the table is generated; otherwise the type declares it, and its keys are not known. -/
  isGenerated : Bool
  keys : List KeyEntry
  deriving Repr, DecidableEq

namespace KeyListing

/-- The listing for the outcome of a run. -/
def ofOutcome (outcome : Outcome) : KeyListing :=
  match outcome.artifacts.keyTable with
  | some table => ⟨outcome.typeName, table.name, true, table.entries⟩
  | none => ⟨outcome.typeName, outcome.keyTableName, false, []⟩

/-- The lines for a listing. -/
def lines (listing : KeyListing) : List String :=
  (listing.table ++ " (" ++ listing.typeName ++ ")") ::
    if listing.isGenerated then
      listing.keys.map fun entry => "  " ++ entry.field ++ " => \"" ++ entry.key ++ "\""
    else ["  declared by hand"]

/-- The document for a listing. -/
def json (listing : KeyListing) : Json :=
  .object [
    ("type", .text listing.typeName),
    ("table", .text listing.table),
    ("generated", .boolean listing.isGenerated),
    ("keys", .array (listing.keys.map fun entry =>
      .object [("field", .text entry.field), ("key", .text entry.key)]))]

end KeyListing

/-- The listing for a type; none where generation does not start or fails. -/
def listKeys? (type : Situated) (config : Configuration) : Option KeyListing :=
  if type.isBlocked then none
  else
    let outcome := generate type.lowered.decl config
    if outcome.isFailed then none else some (.ofOutcome outcome)

/-- The listings for a file. -/
def listKeys (file : SourceFile) (config : Configuration) : List KeyListing :=
  file.survey.derived.filterMap fun type => listKeys? (file.survey.situate type config) config

/-- Listings as text, every line with its end. -/
def listingsText (listings : List KeyListing) : String :=
  String.join ((listings.flatMap KeyListing.lines).map (· ++ "\n"))

/-- Listings as a document. -/
def listingsJson (listings : List KeyListing) : Json := .array (listings.map KeyListing.json)

end RecordCoding.Commands
