import TenantGuard.Proofs.Engine.Tally

/-!
# Ids of created records

Two stores that hold the same records under a key are left with the same ones, but the ids of
created records depend on how many were created before.  What a list leaves in one store is
what it leaves in the other, with the ids of the created records renamed.
-/

namespace TenantGuard

/-- An id that was handed out after the last one, moved by the offset; the others stay. -/
def RecordId.moved (last offset id : RecordId) : RecordId :=
  if last < id then id + offset else id

theorem RecordId.moved_of_new {last offset id : RecordId} (new : last < id) :
    RecordId.moved last offset id = id + offset :=
  if_pos new

theorem RecordId.moved_of_old {last offset id : RecordId} (old : id ≤ last) :
    RecordId.moved last offset id = id :=
  if_neg (Int.not_lt.mpr old)

/-- Moving ids keeps their order if it moves them above those that stay. -/
theorem RecordId.moved_lt_moved {last offset now id later : RecordId} (less : id < later)
    (old : id ≤ last → id ≤ now + offset) (new : last < later → now < later) :
    RecordId.moved last offset id < RecordId.moved last offset later := by
  by_cases isOld : id ≤ last
  · rw [moved_of_old isOld]
    by_cases isOldToo : later ≤ last
    · rw [moved_of_old isOldToo]
      exact less
    · have isNew := Int.not_le.mp isOldToo
      rw [moved_of_new isNew]
      exact Int.lt_of_le_of_lt (old isOld) (Int.add_lt_add_right (new isNew) offset)
  · have isNew := Int.not_le.mp isOld
    rw [moved_of_new isNew, moved_of_new (Int.lt_trans isNew less)]
    exact Int.add_lt_add_right less offset

/-- The outcome with another id for a record that was created. -/
def RecordOutcome.renamed (rename : RecordId → RecordId) : RecordOutcome → RecordOutcome
  | .created id => .created (rename id)
  | outcome => outcome

def EntityOutcome.renamed (rename : RecordId → RecordId) (outcome : EntityOutcome) :
    EntityOutcome :=
  { outcome with
    records := outcome.records.map fun report =>
      { report with outcome := report.outcome.renamed rename } }

theorem RecordOutcome.renamed_of_not_created {rename : RecordId → RecordId}
    {outcome : RecordOutcome} (notCreated : outcome.isCreated = false) :
    outcome.renamed rename = outcome := by
  cases outcome with
  | created => cases notCreated
  | updated | unchanged | conflict => rfl

namespace RecordTable

/-- The other table holds the records of the table under their new ids. -/
def Renamed (rename : RecordId → RecordId) (table other : RecordTable) : Prop :=
  ∀ id values, other[id]? = some values ↔
    ∃ origin, table[origin]? = some values ∧ rename origin = id

variable {rename : RecordId → RecordId} {table other : RecordTable}

/-- A table whose ids stay is its own renaming. -/
theorem renamed_self (fixed : ∀ id ∈ table, rename id = id) : Renamed rename table table := by
  intro id values
  constructor
  · intro stored
    exact ⟨id, stored, fixed id (mem_of_stored stored)⟩
  · rintro ⟨origin, stored, rfl⟩
    rw [fixed origin (mem_of_stored stored)]
    exact stored

theorem renamed_single (rename : RecordId → RecordId) (id : RecordId) (values : Values) :
    Renamed rename (single id values) (single (rename id) values) := by
  intro other stored
  simp only [getElem?_single, Option.ite_none_right_eq_some, Option.some.injEq]
  constructor
  · rintro ⟨rfl, rfl⟩
    exact ⟨id, ⟨rfl, rfl⟩, rfl⟩
  · rintro ⟨origin, ⟨rfl, rfl⟩, rfl⟩
    exact ⟨rfl, rfl⟩

theorem ascending_toList (table : RecordTable) :
    table.toList.Pairwise fun first second => first.1 < second.1 := by
  have ordered := table.ascending_keys
  rw [← Std.ExtTreeMap.map_fst_toList_eq_keys, List.pairwise_map] at ordered
  exact ordered

/-- Lists of the same records in the order of their ids are the same. -/
theorem eq_of_ascending {first second : List (RecordId × Values)}
    (ascending : first.Pairwise fun entry other => entry.1 < other.1)
    (ascendingToo : second.Pairwise fun entry other => entry.1 < other.1)
    (same : ∀ entry, entry ∈ first ↔ entry ∈ second) : first = second := by
  have nodup : ∀ {list : List (RecordId × Values)},
      list.Pairwise (fun entry other => entry.1 < other.1) → list.Nodup := by
    intro list ordered
    apply ordered.imp
    rintro entry _ less rfl
    exact Int.lt_irrefl _ less
  apply List.Perm.eq_of_pairwise _ ascending ascendingToo
  · exact (List.perm_ext_iff_of_nodup (nodup ascending) (nodup ascendingToo)).mpr same
  · intro entry other _ _ less greater
    exact absurd less (Int.not_lt.mpr (Int.le_of_lt greater))

/-- A renaming that keeps the order of the ids lists the same records. -/
theorem Renamed.toList (renamed : Renamed rename table other)
    (ascending : ∀ first ∈ table, ∀ second ∈ table, first < second →
      rename first < rename second) :
    other.toList = table.toList.map fun entry => (rename entry.1, entry.2) := by
  apply eq_of_ascending other.ascending_toList
  · rw [List.pairwise_map]
    apply table.ascending_toList.imp_of_mem
    intro first second listed listedToo less
    rw [Std.ExtTreeMap.mem_toList_iff_getElem?_eq_some] at listed listedToo
    exact ascending _ (mem_of_stored listed) _ (mem_of_stored listedToo) less
  · rintro ⟨id, values⟩
    rw [Std.ExtTreeMap.mem_toList_iff_getElem?_eq_some, renamed, List.mem_map]
    constructor
    · rintro ⟨origin, stored, rfl⟩
      exact ⟨(origin, values), Std.ExtTreeMap.mem_toList_iff_getElem?_eq_some.mpr stored, rfl⟩
    · rintro ⟨⟨origin, _⟩, stored, equal⟩
      cases equal
      exact ⟨origin, Std.ExtTreeMap.mem_toList_iff_getElem?_eq_some.mp stored, rfl⟩

/-- The other table lists the same records with the ids after `last` moved by the offset.  In
the other store these ids come after `lastToo`. -/
structure Moved (last lastToo offset : RecordId) (table other : RecordTable) : Prop where
  toList : other.toList =
    table.toList.map fun record => (RecordId.moved last offset record.1, record.2)
  new : ∀ id ∈ table, last < id → lastToo < id + offset

variable {last lastToo now offset : RecordId}

theorem moved_self (old : ∀ id ∈ table, id ≤ last) : Moved last lastToo offset table table where
  toList := by
    apply (renamed_self fun id present => RecordId.moved_of_old (old id present)).toList
    intro id present later presentToo less
    rw [RecordId.moved_of_old (old id present), RecordId.moved_of_old (old later presentToo)]
    exact less
  new := fun id present new => absurd new (Int.not_lt.mpr (old id present))

/-- Ids that both stores had handed out stay behind those that are handed out from `now` on
in one store, and from `now + offset` on in the other. -/
theorem Renamed.moved (renamed : Renamed (RecordId.moved last offset) table other)
    (le : last ≤ now) (leToo : lastToo ≤ now + offset)
    (known : ∀ id ∈ table, now < id ∨ (id ≤ last ∧ id ≤ lastToo)) :
    Moved last lastToo offset table other := by
  have isNew : ∀ id ∈ table, last < id → now < id := by
    intro id present new
    rcases known id present with later | ⟨old, _⟩
    · exact later
    · exact absurd new (Int.not_lt.mpr old)
  constructor
  · apply renamed.toList
    intro id present later presentToo less
    apply RecordId.moved_lt_moved less _ (isNew later presentToo)
    intro old
    rcases known id present with new | ⟨_, oldToo⟩
    · exact absurd old (Int.not_le.mpr (Int.lt_of_le_of_lt le new))
    · exact Int.le_trans oldToo leToo
  · intro id present new
    exact Int.lt_of_le_of_lt leToo (Int.add_lt_add_right (isNew id present new) offset)

end RecordTable

namespace DesiredRecord

variable {desired : DesiredRecord} {last lastToo : RecordId} {found left leftToo : RecordTable}
  {outcome other : RecordOutcome} {rename : RecordId → RecordId}

/-- What was found under a key determines what is left there, up to the id of a record that
is created. -/
theorem Leaves.renamed (leaves : desired.Leaves last found outcome left)
    (leavesToo : desired.Leaves lastToo found other leftToo)
    (created : ∀ id, outcome = .created id → other = .created (rename id))
    (fixed : ∀ id ∈ found, rename id = id) :
    other = outcome.renamed rename ∧ RecordTable.Renamed rename left leftToo := by
  by_cases missing : found = ∅
  · rw [missing] at leaves leavesToo
    obtain ⟨id, rfl, rfl⟩ := leaves.of_missing
    obtain ⟨idToo, rfl, rfl⟩ := leavesToo.of_missing
    have sameId := created id rfl
    rw [RecordOutcome.created.injEq] at sameId
    rw [sameId]
    exact ⟨rfl, RecordTable.renamed_single rename id desired.values⟩
  · obtain ⟨rfl, rfl⟩ := leaves.determined leavesToo missing
    have notCreated : outcome.isCreated = false := by
      rw [← Bool.not_eq_true, leaves.isCreated_iff]
      exact missing
    refine ⟨(RecordOutcome.renamed_of_not_created notCreated).symm, ?_⟩
    apply RecordTable.renamed_self
    intro id present
    apply fixed
    rw [Std.ExtTreeMap.mem_iff_isSome_getElem?, Option.isSome_iff_ne_none] at present ⊢
    intro unknown
    rw [leaves.created_iff.mpr ⟨unknown, present⟩] at notCreated
    cases notCreated

end DesiredRecord

end TenantGuard
