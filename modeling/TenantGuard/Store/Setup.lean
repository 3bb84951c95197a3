import TenantGuard.Store.Basic

/-!
# Filling and inspecting a store

These operations prepare a store before the engine sees it: they add entity
types, groups, records, identifiers and tables, arm refusals, and look at the
result.  None of them counts as a change.
-/

namespace TenantGuard.Store

def allocate (store : Store) : RecordId × Store :=
  (store.lastId + 1, { store with lastId := store.lastId + 1 })

def addEntityType (store : Store) (name : String) : EntityType × Store :=
  let (id, store) := store.allocate
  (⟨id, name⟩, { store with entityTypes := store.entityTypes ++ [⟨id, name⟩] })

/-- Add a group, or give a known one a new id. -/
def addGroup (store : Store) (reference : Reference) : RecordId × Store :=
  let (id, store) := store.allocate
  (id, { store with groups := store.groups.insert reference id })

def putRecord (store : Store) (kind : RecordKind) (id : RecordId) (values : Values) : Store :=
  { store with
    data := store.data.withRecords kind ((store.data.records kind).insert id values) }

/-- Add a record with its values as they are given. -/
def insertRecord (store : Store) (kind : RecordKind) (values : Values) : RecordId × Store :=
  let (id, store) := store.allocate
  (id, store.putRecord kind id values)

/-- Add a column to a table, or replace it. -/
def addTable (store : Store) (table column : String) (rows : Column) : Store :=
  let columns := store.data.tables[table]?.getD ∅
  { store with
    data := { store.data with
      tables := store.data.tables.insert table (columns.insert column rows) } }

/-- Bind an external identifier, whatever it stood for. -/
def insertExternalId (store : Store) (reference : Reference) (target : Target) : Store :=
  { store with
    data := { store.data with
      externalIds := store.data.externalIds.insert reference target } }

/-- Refuse to create or write records of a kind for an entity type. -/
def rejectWrites (store : Store) (kind : RecordKind) (model : RecordId) : Store :=
  { store with rejectedWrites := (kind, model) :: store.rejectedWrites }

def rejectTable (store : Store) (table : String) : Store :=
  { store with rejectedTables := table :: store.rejectedTables }

def resetCounts (store : Store) : Store :=
  { store with counts := {} }

def records (store : Store) (kind : RecordKind) : List (RecordId × Values) :=
  (store.data.records kind).toList

def recordsNamed (store : Store) (kind : RecordKind) (name : String) :
    List (RecordId × Values) :=
  (store.records kind).filter fun (_, values) => values.read "name" = .text name

def column? (store : Store) (table column : String) : Option Column :=
  store.data.tables[table]?.bind (·[column]?)

def externalId? (store : Store) (reference : Reference) : Option Target :=
  store.data.externalIds[reference]?

end TenantGuard.Store
