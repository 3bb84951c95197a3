import TenantGuard.Store.Setup

/-!
# Calls to the store

The engine talks to the store only through calls.  A call is answered with a
value or an error, and in both cases the store that remains is part of the
answer.  Every call checks what it needs before it changes anything.
-/

namespace TenantGuard

inductive Method where
  | entityTypes
  | resolveGroup
  | search
  | read
  | create
  | write
  | unlink
  | findExternalId
  | createExternalId
  | savepoint
  | releaseSavepoint
  | rollbackToSavepoint
  | tablesWithColumn
  | fillNullColumn
  deriving DecidableEq, Repr

/-- A method with its arguments, by the type of its answer. -/
inductive Call : Type → Type where
  /-- The catalog, in the order in which it was filled. -/
  | entityTypes : Call (List EntityType)
  | resolveGroup (reference : Reference) : Call (Option RecordId)
  /-- The ids of the active records that meet every criterion, ascending. -/
  | search (kind : RecordKind) (criteria : List Criterion) : Call (List RecordId)
  /-- The listed fields of each record, in the order of the ids. -/
  | read (kind : RecordKind) (ids : List RecordId) (fields : List String) :
      Call (List Values)
  | create (kind : RecordKind) (values : Values) : Call RecordId
  /-- Overwrite the given fields of a record. -/
  | write (kind : RecordKind) (id : RecordId) (values : Values) : Call Unit
  /-- Remove records, and the external identifiers that stood for them. -/
  | unlink (kind : RecordKind) (ids : List RecordId) : Call Unit
  | findExternalId (reference : Reference) : Call (Option Target)
  | createExternalId (reference : Reference) (target : Target) : Call Unit
  | savepoint (name : String) : Call Unit
  /-- Forget the latest savepoint of a name and those opened after it. -/
  | releaseSavepoint (name : String) : Call Unit
  /-- Bring back the data of the latest savepoint of a name, and forget it. -/
  | rollbackToSavepoint (name : String) : Call Unit
  /-- The tables that carry a column, in ascending order. -/
  | tablesWithColumn (column : String) : Call (List String)
  /-- Write a value where the column is null, and count those rows. -/
  | fillNullColumn (table column : String) (value : Int) : Call Nat

def Call.method {α : Type} : Call α → Method
  | .entityTypes => .entityTypes
  | .resolveGroup .. => .resolveGroup
  | .search .. => .search
  | .read .. => .read
  | .create .. => .create
  | .write .. => .write
  | .unlink .. => .unlink
  | .findExternalId .. => .findExternalId
  | .createExternalId .. => .createExternalId
  | .savepoint .. => .savepoint
  | .releaseSavepoint .. => .releaseSavepoint
  | .rollbackToSavepoint .. => .rollbackToSavepoint
  | .tablesWithColumn .. => .tablesWithColumn
  | .fillNullColumn .. => .fillNullColumn

namespace Store

/-- A value or an error, and the store that remains. -/
abbrev Answer (α : Type) := Except StoreError α × Store

/-- The entity type whose refusal stops a record from being written. -/
def rejectedModel? (store : Store) (kind : RecordKind) (values : Values) : Option RecordId :=
  match values.read "model_id" with
  | .ref model => if (kind, model) ∈ store.rejectedWrites then some model else none
  | _ => none

def search (store : Store) (kind : RecordKind) (criteria : List Criterion) : List RecordId :=
  ((store.data.records kind).filter fun _ values =>
    values.active && Criterion.allHold criteria values).keys

def read (store : Store) (kind : RecordKind) (fields : List String) (id : RecordId) :
    Except StoreError Values :=
  match (store.data.records kind)[id]? with
  | some values => .ok (values.restrict fields)
  | none => .error (.recordMissing kind id)

def create (store : Store) (kind : RecordKind) (values : Values) : Answer RecordId :=
  match store.rejectedModel? kind values with
  | some model => (.error (.writeRejected kind model), store)
  | none =>
      let (id, store) := store.insertRecord kind values.normalized
      (.ok id, { store with counts.creates := store.counts.creates + 1 })

def write (store : Store) (kind : RecordKind) (id : RecordId) (values : Values) : Answer Unit :=
  match (store.data.records kind)[id]? with
  | none => (.error (.recordMissing kind id), store)
  | some current =>
      match store.rejectedModel? kind current with
      | some model => (.error (.writeRejected kind model), store)
      | none =>
          let store := store.putRecord kind id (current.overwrite values.normalized)
          (.ok (), { store with counts.writes := store.counts.writes + 1 })

def unlink (store : Store) (kind : RecordKind) (ids : List RecordId) : Store :=
  let data := store.data.withRecords kind
    ((store.data.records kind).filter fun id _ => ¬ ids.contains id)
  { store with
    data := { data with
      externalIds := data.externalIds.filter fun _ target =>
        ¬ (target.entity = kind.entity ∧ ids.contains target.id) }
    counts.unlinks := store.counts.unlinks + 1 }

def createExternalId (store : Store) (reference : Reference) (target : Target) : Answer Unit :=
  match store.externalId? reference with
  | some _ => (.error (.identifierTaken reference), store)
  | none => (.ok (), store.insertExternalId reference target)

def savepoint (store : Store) (name : String) : Store :=
  { store with savepoints := ⟨name, store.data⟩ :: store.savepoints }

/-- The latest savepoint of a name, and those that were open when it was
opened. -/
def popTo? (name : String) : List Savepoint → Option (StoreData × List Savepoint)
  | [] => none
  | latest :: earlier =>
      if latest.name = name then some (latest.data, earlier) else popTo? name earlier

def releaseSavepoint (store : Store) (name : String) : Answer Unit :=
  match popTo? name store.savepoints with
  | none => (.error (.savepointMissing name), store)
  | some (_, earlier) => (.ok (), { store with savepoints := earlier })

def rollbackToSavepoint (store : Store) (name : String) : Answer Unit :=
  match popTo? name store.savepoints with
  | none => (.error (.savepointMissing name), store)
  | some (data, earlier) => (.ok (), { store with data, savepoints := earlier })

def tablesWithColumn (store : Store) (column : String) : List String :=
  (store.data.tables.filter fun _ columns => columns.contains column).keys

def fillNullColumn (store : Store) (table column : String) (value : Int) : Answer Nat :=
  if table ∈ store.rejectedTables then
    (.error (.tableRejected table), store)
  else
    match store.column? table column with
    | none => (.error (.columnMissing table column), store)
    | some rows =>
        (.ok (rows.countP Option.isNone),
          store.addTable table column (rows.map fun row => some (row.getD value)))

end Store

/-- The store's answer to a call. -/
def Call.run {α : Type} (store : Store) : Call α → Store.Answer α
  | .entityTypes => (.ok store.entityTypes, store)
  | .resolveGroup reference => (.ok store.groups[reference]?, store)
  | .search kind criteria => (.ok (store.search kind criteria), store)
  | .read kind ids fields => (ids.mapM (store.read kind fields), store)
  | .create kind values => store.create kind values
  | .write kind id values => store.write kind id values
  | .unlink kind ids => (.ok (), store.unlink kind ids)
  | .findExternalId reference => (.ok (store.externalId? reference), store)
  | .createExternalId reference target => store.createExternalId reference target
  | .savepoint name => (.ok (), store.savepoint name)
  | .releaseSavepoint name => store.releaseSavepoint name
  | .rollbackToSavepoint name => store.rollbackToSavepoint name
  | .tablesWithColumn column => (.ok (store.tablesWithColumn column), store)
  | .fillNullColumn table column value => store.fillNullColumn table column value

end TenantGuard
