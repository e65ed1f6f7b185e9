import EventRules.Error
import EventRules.Value.Document

/-!
# Enrichment records

A store holds a record for pairs of an enrichment type and an indicator, such as the owner of an address. It is one
of the sources that can be asked for records; others, as a database, may also fail.
-/

namespace EventRules

/-- Something that can be asked for records. It answers a type and an indicator with a record, with none if there is
none, or with an error. -/
structure RecordSource where
  get : (type indicator : String) → Except Error (Option Entries)

/-- Records by enrichment type and indicator, each pair once. -/
structure EnrichmentStore where
  records : List ((String × String) × Entries) := []
  deriving Inhabited, Repr

namespace EnrichmentStore

/-- The record of an indicator. -/
def get? (store : EnrichmentStore) (type indicator : String) : Option Entries :=
  store.records.lookup (type, indicator)

/-- Puts the record of an indicator in place of what was there. -/
def insert (store : EnrichmentStore) (type indicator : String) (record : Entries) : EnrichmentStore :=
  ⟨((type, indicator), record) :: store.records.filter fun r => r.1 ≠ (type, indicator)⟩

/-- A store as a source of records, which never fails. -/
def source (store : EnrichmentStore) : RecordSource where
  get type indicator := .ok (store.get? type indicator)

/-- How many indicators have a record. -/
def size (store : EnrichmentStore) : Nat :=
  store.records.length

/-- Adds the records of one type, an object of objects. -/
def addIndicators (type : String) (store : EnrichmentStore) :
    List (String × Document) → Except Error EnrichmentStore
  | [] => .ok store
  | (indicator, .object members) :: rest =>
    addIndicators type (store.insert type indicator (Value.ofMembers [] members)) rest
  | (indicator, _) :: _ => .error (.invalidConfig (.recordNotObject type indicator))

/-- Adds the records of several types. -/
def addTypes (store : EnrichmentStore) : List (String × Document) → Except Error EnrichmentStore
  | [] => .ok store
  | (type, .object indicators) :: rest => do addTypes (← addIndicators type store indicators) rest
  | (type, _) :: _ => .error (.invalidConfig (.indicatorsNotObject type))

/-- The store of a document: types, in each of them indicators, and for each of those a record. -/
def ofDocument : Document → Except Error EnrichmentStore
  | .object types => addTypes {} types
  | _ => .error (.invalidConfig .typesNotObject)

end EnrichmentStore

end EventRules
