import Credential.Proofs.Store.Calls

/-!
# Times of creation

While the clock goes on, the records of a ledger have different times of
creation, and so there is one order to list them in.
-/

namespace Credential.Store

open Credential.Time (Instant)

variable {Record : Type} {created : Record → Option Instant} {past : Instant → Prop}
  {readings : List Instant} {view : String → Option Record}

/-- Whether records were created at different past times, all of them before some readings. -/
structure Dated
    (created : Record → Option Instant)
    (past : Instant → Prop)
    (readings : List Instant)
    (view : String → Option Record) :
    Prop where
  before : ∀ {key record}, view key = some record →
    ∃ instant, created record = some instant ∧ past instant ∧
      ∀ reading ∈ readings, instant < reading
  distinct : ∀ {firstKey secondKey first second},
    view firstKey = some first → view secondKey = some second →
      created first = created second → firstKey = secondKey

namespace Dated

/-- No records are created at different times. -/
theorem empty : Dated created past readings fun _ => none where
  before := by
    intro key record present
    cases present
  distinct := by
    intro firstKey secondKey first second present
    cases present

/-- A record that is created at the first reading is dated before the other ones. -/
theorem insert
    {now : Instant}
    {record : Record}
    (dated : Dated created past (now :: readings) view)
    (isPast : past now)
    (isFirst : ∀ reading ∈ readings, now < reading)
    (key : String)
    (isCreated : created record = some now) :
    Dated created past readings (Function.update view key (some record)) where
  before := by
    intro other content present
    rw [Function.update_apply] at present
    split at present
    case isTrue _ =>
      cases present
      exact ⟨now, isCreated, isPast, isFirst⟩
    case isFalse _ =>
      obtain ⟨instant, wasCreated, wasPast, earlier⟩ := dated.before present
      exact ⟨instant, wasCreated, wasPast, fun reading member =>
        earlier reading (List.mem_cons_of_mem now member)⟩
  distinct := by
    -- Any other record was created before this reading.
    have differs : ∀ {other content}, view other = some content → created content ≠ some now := by
      intro other content present same
      obtain ⟨instant, wasCreated, _, earlier⟩ := dated.before present
      have less := earlier now List.mem_cons_self
      rw [Option.some.inj (wasCreated.symm.trans same), Instant.lt_iff] at less
      omega
    intro firstKey secondKey first second firstPresent secondPresent same
    rw [Function.update_apply] at firstPresent secondPresent
    split at firstPresent
    case isTrue firstIs =>
      cases firstPresent
      split at secondPresent
      case isTrue secondIs => rw [firstIs, secondIs]
      case isFalse _ => exact (differs secondPresent (same.symm.trans isCreated)).elim
    case isFalse _ =>
      split at secondPresent
      case isTrue secondIs =>
        cases secondPresent
        exact (differs firstPresent (same.trans isCreated)).elim
      case isFalse _ => exact dated.distinct firstPresent secondPresent same

/-- Records stay dated as the clock goes on. -/
theorem tail
    {now : Instant}
    (dated : Dated created past (now :: readings) view) :
    Dated created past readings view where
  before := by
    intro key record present
    obtain ⟨instant, wasCreated, wasPast, earlier⟩ := dated.before present
    exact ⟨instant, wasCreated, wasPast, fun reading member =>
      earlier reading (List.mem_cons_of_mem now member)⟩
  distinct := dated.distinct

/-- A record that takes the place of one with its time of creation is dated like that one. -/
theorem replace
    {key : String}
    {stored record : Record}
    (dated : Dated created past readings view)
    (present : view key = some stored)
    (sameCreated : created record = created stored) :
    Dated created past readings (Function.update view key (some record)) := by
  have found : ∀ {other content}, Function.update view key (some record) other = some content →
      ∃ original, view other = some original ∧ created content = created original := by
    intro other content updated
    rw [Function.update_apply] at updated
    split at updated
    case isTrue same =>
      cases updated
      exact ⟨stored, same ▸ present, sameCreated⟩
    case isFalse _ => exact ⟨content, updated, rfl⟩
  constructor
  · intro other content updated
    obtain ⟨original, originalPresent, same⟩ := found updated
    rw [same]
    exact dated.before originalPresent
  · intro firstKey secondKey first second firstUpdated secondUpdated same
    obtain ⟨_, firstPresent, firstSame⟩ := found firstUpdated
    obtain ⟨_, secondPresent, secondSame⟩ := found secondUpdated
    exact dated.distinct firstPresent secondPresent (by rw [← firstSame, same, secondSame])

/-- Removing a record leaves the other ones dated. -/
theorem remove
    (dated : Dated created past readings view)
    (key : String) :
    Dated created past readings (Function.update view key none) := by
  have found : ∀ {other content}, Function.update view key none other = some content →
      view other = some content := by
    intro other content updated
    rw [Function.update_apply] at updated
    split at updated
    case isTrue _ => cases updated
    case isFalse _ => exact updated
  constructor
  · intro other content updated
    exact dated.before (found updated)
  · intro firstKey secondKey first second firstUpdated secondUpdated same
    exact dated.distinct (found firstUpdated) (found secondUpdated) same

/-- There is one order of creation. -/
theorem eq_of_lists
    {first second : List Record}
    (dated : Dated created past readings view)
    (firstLists : Table.Lists view first)
    (secondLists : Table.Lists view second)
    (firstSorted : first.Pairwise fun one other =>
      MemoryTables.createdInOrder (created one) (created other) = true)
    (secondSorted : second.Pairwise fun one other =>
      MemoryTables.createdInOrder (created one) (created other) = true) :
    first = second := by
  refine List.Perm.eq_of_pairwise ?_ firstSorted secondSorted (firstLists.perm secondLists)
  intro one other oneMember otherMember forward backward
  obtain ⟨oneKey, onePresent⟩ := firstLists.exists_key oneMember
  obtain ⟨otherKey, otherPresent⟩ := secondLists.exists_key otherMember
  obtain ⟨oneInstant, oneCreated, _⟩ := dated.before onePresent
  obtain ⟨otherInstant, otherCreated, _⟩ := dated.before otherPresent
  rw [oneCreated, otherCreated] at forward backward
  have sameInstant : oneInstant = otherInstant := by
    rcases Instant.le_iff_lt_or_eq.mp forward with less | same
    · exact (less backward).elim
    · exact same
  have sameKey := dated.distinct onePresent otherPresent
    (by rw [oneCreated, otherCreated, sameInstant])
  rw [sameKey] at onePresent
  exact Option.some.inj (onePresent.symm.trans otherPresent)

end Dated

end Credential.Store
