import Credential.Proofs.Store.Agreement
import Credential.Proofs.Store.Reachable

/-!
# Tables in another order

The tables of a store in memory have no order of their own: its rows may come in
any order each time they are gone through.  Whatever order that is, the records are
the same after every call, and every answer is the same, up to the order of a
listing.  Only where several stored key pairs share a public half may the answer be
any of them.
-/

namespace Credential.Store

variable {first second store : Store} {ledger : Ledger}

/-! ## Answers of a ledger -/

/-- What one call comes to is the same whenever it is made, up to the order of a listing. -/
theorem Ledger.Performs.sameUpToOrder
    {backend : Backend}
    {occasion : Occasion}
    {call : Call}
    {one other : Except Error Answer}
    {oneAfter otherAfter : Ledger}
    (sound : ledger.Sound)
    (unique : ∀ octets, call = .keyByPublic octets → ledger.Admits occasion (.keyByPublic octets))
    (onePerforms : ledger.Performs backend occasion call one oneAfter)
    (otherPerforms : ledger.Performs backend occasion call other otherAfter) :
    SameUpToOrder one other := by
  cases call with
  | dial dialing => exact onePerforms.elim
  | close => exact onePerforms.elim
  | loadAllAccounts =>
      obtain ⟨-, oneRecords, oneLists, rfl⟩ := onePerforms
      obtain ⟨-, otherRecords, otherLists, rfl⟩ := otherPerforms
      exact oneLists.1.perm otherLists.1
  | loadAllKeys =>
      obtain ⟨-, oneRecords, oneLists, rfl⟩ := onePerforms
      obtain ⟨-, otherRecords, otherLists, rfl⟩ := otherPerforms
      exact oneLists.1.perm otherLists.1
  | accountByEmail email =>
      obtain ⟨-, oneResult, oneFinds, rfl⟩ := onePerforms
      obtain ⟨-, otherResult, otherFinds, rfl⟩ := otherPerforms
      have same : oneResult = otherResult := by
        refine Table.Finds.eq_of_unique ?_ oneFinds otherFinds
        intro oneUid otherUid one other onePresent otherPresent oneLive otherLive
        exact sound.emails onePresent otherPresent oneLive.1 otherLive.1 oneLive.2 otherLive.2
      exact .of_eq (congrArg (Except.map Answer.account) same)
  | existsAccount query =>
      obtain ⟨-, oneFlag, oneDecides, rfl⟩ := onePerforms
      obtain ⟨-, otherFlag, otherDecides, rfl⟩ := otherPerforms
      have same : oneFlag = otherFlag := by
        rw [Bool.eq_iff_iff, oneDecides, otherDecides]
      rw [same]
      rfl
  | keyByPublic octets =>
      obtain ⟨-, oneResult, oneFinds, rfl⟩ := onePerforms
      obtain ⟨-, otherResult, otherFinds, rfl⟩ := otherPerforms
      have same := Table.Finds.eq_of_unique (unique octets rfl) oneFinds otherFinds
      exact .of_eq (congrArg (Except.map Answer.key) same)
  | saveAccount account =>
      exact .of_eq (congrArg Prod.fst (onePerforms.trans otherPerforms.symm))
  | deleteAccount uid => exact .of_eq (congrArg Prod.fst (onePerforms.trans otherPerforms.symm))
  | saveKey key => exact .of_eq (congrArg Prod.fst (onePerforms.trans otherPerforms.symm))
  | deleteKey kid => exact .of_eq (congrArg Prod.fst (onePerforms.trans otherPerforms.symm))
  | saveToken uid token => exact .of_eq (congrArg Prod.fst (onePerforms.trans otherPerforms.symm))
  | deleteToken uid => exact .of_eq (congrArg Prod.fst (onePerforms.trans otherPerforms.symm))
  | _ => exact .of_eq (onePerforms.2.trans otherPerforms.2.symm)

/-- One call leaves the same ledger whenever it is made. -/
theorem Ledger.Performs.after_eq
    {backend : Backend}
    {occasion : Occasion}
    {call : Call}
    {one other : Except Error Answer}
    {oneAfter otherAfter : Ledger}
    (onePerforms : ledger.Performs backend occasion call one oneAfter)
    (otherPerforms : ledger.Performs backend occasion call other otherAfter) :
    oneAfter = otherAfter := by
  cases call with
  | dial dialing => exact onePerforms.elim
  | close => exact onePerforms.elim
  | saveAccount account => exact congrArg Prod.snd (onePerforms.trans otherPerforms.symm)
  | deleteAccount uid => exact congrArg Prod.snd (onePerforms.trans otherPerforms.symm)
  | saveKey key => exact congrArg Prod.snd (onePerforms.trans otherPerforms.symm)
  | deleteKey kid => exact congrArg Prod.snd (onePerforms.trans otherPerforms.symm)
  | saveToken uid token => exact congrArg Prod.snd (onePerforms.trans otherPerforms.symm)
  | deleteToken uid => exact congrArg Prod.snd (onePerforms.trans otherPerforms.symm)
  | _ => exact onePerforms.1.trans otherPerforms.1.symm

/-! ## Stores in another order -/

/-- Whether stores are the same, up to the order of the rows of tables in memory. -/
inductive Reorders : Store → Store → Prop where
  | refl (store : Store) : Reorders store store
  | memory
      {first second : MemoryTables}
      (accounts : first.accounts.entries.Perm second.accounts.entries)
      (keys : first.keys.entries.Perm second.keys.entries)
      (tokens : first.tokens.entries.Perm second.tokens.entries) :
      Reorders (.memory ⟨some first⟩) (.memory ⟨some second⟩)

namespace Reorders

theorem trans
    {third : Store}
    (earlier : first.Reorders second)
    (later : second.Reorders third) :
    first.Reorders third := by
  cases earlier with
  | refl => exact later
  | memory accounts keys tokens =>
      cases later with
      | refl => exact .memory accounts keys tokens
      | memory laterAccounts laterKeys laterTokens =>
          exact .memory (accounts.trans laterAccounts) (keys.trans laterKeys)
            (tokens.trans laterTokens)

/-- Stores that are the same up to order show the same ledger. -/
theorem shows (reorders : first.Reorders second) (showing : first.Shows ledger) :
    second.Shows ledger := by
  cases reorders with
  | refl => exact showing
  | memory accounts keys tokens =>
      cases showing with
      | memory tablesShow =>
          refine .memory ⟨fun uid => ?_, fun kid => ?_, fun uid => ?_⟩
          · rw [← Table.perm_entries_iff.mp accounts uid]
            exact tablesShow.accounts uid
          · rw [← Table.perm_entries_iff.mp keys kid]
            exact tablesShow.keys kid
          · rw [← Table.perm_entries_iff.mp tokens uid]
            exact tablesShow.tokens uid

/-- Stores in memory that show the same ledger are the same up to order. -/
theorem of_shows
    (firstKind : first.backend = .memory)
    (secondKind : second.backend = .memory)
    (firstShows : first.Shows ledger)
    (secondShows : second.Shows ledger) :
    first.Reorders second := by
  cases firstShows with
  | database => cases firstKind
  | memory firstShow =>
      cases secondShows with
      | database => cases secondKind
      | memory secondShow =>
          refine .memory ?_ ?_ ?_ <;> rw [Table.perm_entries_iff] <;> intro key
          · rw [MemoryTables.get?_of_shows firstShow.accounts,
              MemoryTables.get?_of_shows secondShow.accounts]
          · rw [MemoryTables.get?_of_shows firstShow.keys,
              MemoryTables.get?_of_shows secondShow.keys]
          · rw [MemoryTables.get?_of_shows firstShow.tokens,
              MemoryTables.get?_of_shows secondShow.tokens]

/-- A sound store is sound in every order. -/
theorem isSound (reorders : first.Reorders second) (sound : first.IsSound) : second.IsSound := by
  cases reorders with
  | refl => exact sound
  | memory accounts keys tokens =>
      obtain ⟨ledger, showing, ledgerSound⟩ := sound _ rfl
      have same := (Reorders.memory accounts keys tokens).shows (.memory showing)
      rintro tables ⟨⟩
      cases same with
      | memory tablesShow => exact ⟨ledger, tablesShow, ledgerSound⟩

end Reorders

/-- Whether there are not several stored key pairs that a call may find. -/
def Determines (store : Store) (call : Call) : Prop :=
  ∀ octets, call = .keyByPublic octets →
    ∀ firstKid secondKid first second,
      store.storedKey? firstKid = some (.ok first) →
        store.storedKey? secondKid = some (.ok second) →
          Text.Utf8.encode first.pubKey = octets → Text.Utf8.encode second.pubKey = octets →
            firstKid = secondKid

/-- A call is answered alike in every order, and leaves stores that are the same up to order. -/
theorem Reorders.perform
    (reorders : first.Reorders second)
    (sound : first.IsSound)
    (occasion : Occasion)
    (call : Call) :
    (first.perform occasion call).2.Reorders (second.perform occasion call).2 ∧
      (first.Determines call →
        SameUpToOrder (first.perform occasion call).1 (second.perform occasion call).1) := by
  cases reorders with
  | refl => exact ⟨.refl _, fun _ => .of_eq rfl⟩
  | @memory firstTables secondTables accounts keys tokens =>
      have again := Reorders.memory accounts keys tokens
      by_cases onTables : call.IsOnTables
      · obtain ⟨ledger, firstShows, ledgerSound⟩ := sound.exists_shows rfl
        obtain ⟨firstAfter, inFirst⟩ := firstShows.perform ledgerSound occasion onTables
        obtain ⟨secondAfter, inSecond⟩ :=
          (again.shows firstShows).perform ledgerSound occasion onTables
        obtain rfl : firstAfter = secondAfter := inFirst.performs.after_eq inSecond.performs
        refine ⟨.of_shows inFirst.backend inSecond.backend inFirst.shows inSecond.shows, ?_⟩
        intro determines
        refine inFirst.performs.sameUpToOrder ledgerSound (fun octets isPublic => ?_)
          inSecond.performs
        have admits : (Store.memory ⟨some firstTables⟩).Admits occasion (.keyByPublic octets) :=
          determines octets isPublic
        exact firstShows.admits admits
      · cases call with
        | dial dialing => exact ⟨again, fun _ => rfl⟩
        | close => exact ⟨.refl _, fun _ => rfl⟩
        | _ => exact (onTables trivial).elim

/-! ## Runs in another order -/

/-- Whether a run of calls may lead to a store if the order of rows may change before any call. -/
inductive Shuffles : Store → List (Occasion × Call) → Store → Prop where
  | nil {store after : Store} (reorders : store.Reorders after) : Shuffles store [] after
  | cons
      {store shuffled after : Store}
      {occasion : Occasion}
      {call : Call}
      {rest : List (Occasion × Call)}
      (reorders : store.Reorders shuffled)
      (shuffles : Shuffles (shuffled.perform occasion call).2 rest after) :
      Shuffles store ((occasion, call) :: rest) after

/-- A run of calls may lead where it does, with the rows in another order in the end. -/
theorem shuffles_of_reorders
    {calls : List (Occasion × Call)}
    {after : Store}
    (reorders : (store.run calls).Reorders after) :
    store.Shuffles calls after := by
  induction calls generalizing store with
  | nil => exact .nil reorders
  | cons call rest inductionHypothesis =>
      exact .cons (.refl store) (inductionHypothesis reorders)

/-- However the order of rows changes in a run, the store is the same in the end, up to order. -/
theorem Shuffles.reorders
    {calls : List (Occasion × Call)}
    {after : Store}
    (shuffles : store.Shuffles calls after)
    {plain : Store}
    (sound : plain.IsSound)
    (same : plain.Reorders store) :
    (plain.run calls).Reorders after := by
  induction shuffles generalizing plain with
  | nil reorders => exact same.trans reorders
  | @cons _ _ _ occasion call _ reorders _ inductionHypothesis =>
      have step := ((same.trans reorders).perform sound occasion call).1
      exact inductionHypothesis (sound.perform occasion call) step

end Credential.Store
