import Credential.Proofs.Store.Table
import Credential.Proofs.Text.Order
import Credential.Registry
import Mathlib.Data.List.Induction

/-!
# Registries as finite maps

After any run of calls a registry binds a name to a provider if the last call about
the name that succeeded has registered it.  Its names are listed once each, in the
order of their octets, and whether a call succeeds depends on them alone.
-/

namespace Credential.Registry

open Credential.Store (Table)
open Credential.Text

variable {Provider : Type} {registry : Registry Provider} {call last : Call Provider}
  {calls : List (Call Provider)} {name : String} {provider : Provider} {error : Error}

/-! ## What is bound -/

/-- The provider that a name is bound to. -/
def provider? (registry : Registry Provider) (name : String) : Option Provider :=
  registry.providers.get? name

/-- A provider is got by the name that is bound to it. -/
theorem get_eq_ok_iff :
    registry.get name = .ok provider ↔ registry.provider? name = some provider := by
  unfold get provider?
  cases registry.providers.get? name <;> simp

theorem get_of_unbound (unbound : registry.provider? name = none) :
    registry.get name = .error (.notRegistered name) := by
  unfold provider? at unbound
  rw [get, unbound]

/-- The names that are listed are those that are bound. -/
theorem mem_names_iff : name ∈ registry.names ↔ registry.provider? name ≠ none := by
  rw [names, List.mem_mergeSort, Table.mem_keys_iff, provider?]

theorem contains_iff : registry.providers.contains name = true ↔ name ∈ registry.names := by
  rw [mem_names_iff, Table.contains, Option.isSome_iff_ne_none, provider?]

/-- Names are listed once each, in the order of their octets. -/
theorem names_ascend (registry : Registry Provider) :
    registry.names.Pairwise fun first second => Utf8.encode first < Utf8.encode second := by
  have sorted : registry.names.Pairwise fun first second => decide (first ≤ second) = true :=
    List.pairwise_mergeSort
      (fun first second third => by
        simp only [decide_eq_true_eq]
        exact String.le_trans)
      (fun first second => by
        simp only [Bool.or_eq_true, decide_eq_true_eq]
        exact String.le_total _ _)
      registry.providers.keys
  have permuted : registry.names.Perm registry.providers.keys := List.mergeSort_perm _ _
  have distinct : registry.names.Nodup := permuted.nodup_iff.mpr registry.providers.distinct
  refine (sorted.and distinct).imp fun {first second} => ?_
  rintro ⟨ordered, differs⟩
  have notGreater : first ≤ second := of_decide_eq_true ordered
  exact Utf8.encode_lt_encode (lt_of_le_of_ne notGreater differs)

theorem nodup_names (registry : Registry Provider) : registry.names.Nodup := by
  refine registry.names_ascend.imp fun ascends => ?_
  rintro rfl
  exact List.lt_irrefl _ ascends

theorem mem_names_iff_get :
    name ∈ registry.names ↔ ∃ provider, registry.get name = .ok provider := by
  simp only [mem_names_iff, Option.ne_none_iff_exists', get_eq_ok_iff]

/-- The names do not depend on the order in which the providers are kept. -/
theorem names_congr
    {other : Registry Provider}
    (same : ∀ name, other.get name = registry.get name) :
    other.names = registry.names := by
  have sameNames : other.names.Perm registry.names := by
    rw [List.perm_ext_iff_of_nodup other.nodup_names registry.nodup_names]
    intro name
    simp only [mem_names_iff_get, same]
  refine sameNames.eq_of_pairwise ?_ other.names_ascend registry.names_ascend
  intro first second _ _ forward backward
  exact (List.lt_asymm forward backward).elim

/-! ## One call -/

namespace Call

/-- The provider that a call which succeeds binds its name to, if to any. -/
def binds? : Call Provider → Option Provider
  | .register _ provider => provider
  | .unregister _ => none

/-- Why a call is refused by a registry that lists some names. -/
def refusal? (names : List String) : Call Provider → Option Error
  | .register _ none => some .nilStore
  | .register name (some _) =>
      if name = "" then some (.nilArgument "provider name")
      else if name ∈ names then some (.alreadyRegistered name)
      else none
  | .unregister name => if name ∈ names then none else some (.notRegistered name)

end Call

/-- A call that is refused changes nothing. -/
theorem perform_of_refused
    (refused : call.refusal? registry.names = some error) :
    registry.perform call = (.error error, registry) := by
  cases call with
  | register name provider =>
      cases provider with
      | none =>
          cases refused
          rfl
      | some provider =>
          rw [Call.refusal?] at refused
          simp only [perform, register, contains_iff]
          split_ifs at refused ⊢
          · cases refused
            rfl
          · cases refused
            rfl
  | unregister name =>
      rw [Call.refusal?] at refused
      simp only [perform, unregister, contains_iff]
      split_ifs at refused ⊢
      cases refused
      rfl

/-- A call that is not refused binds its name anew, and no other name. -/
theorem perform_of_accepted
    (accepted : call.refusal? registry.names = none) :
    (registry.perform call).1 = .ok () ∧
      ∀ other, (registry.perform call).2.provider? other =
        if other = call.name then call.binds? else registry.provider? other := by
  cases call with
  | register name provider =>
      cases provider with
      | none => cases accepted
      | some provider =>
          rw [Call.refusal?] at accepted
          simp only [perform, register, contains_iff]
          split_ifs at accepted ⊢
          exact ⟨rfl, fun other => Table.get?_insert registry.providers name other provider⟩
  | unregister name =>
      rw [Call.refusal?] at accepted
      simp only [perform, unregister, contains_iff]
      split_ifs at accepted ⊢
      exact ⟨rfl, Table.get?_erase registry.providers name⟩

/-- A call is refused or comes through. -/
theorem outcome_eq (registry : Registry Provider) (call : Call Provider) :
    (registry.perform call).1 = (call.refusal? registry.names).elim (.ok ()) .error := by
  cases refusal : call.refusal? registry.names with
  | none => exact (perform_of_accepted refusal).1
  | some error => rw [perform_of_refused refusal, Option.elim_some]

/-- A call that fails changes nothing. -/
theorem perform_of_error (failed : (registry.perform call).1 = .error error) :
    (registry.perform call).2 = registry := by
  cases refusal : call.refusal? registry.names with
  | none => cases failed.symm.trans (perform_of_accepted refusal).1
  | some cause => rw [perform_of_refused refusal]

/-! ## Runs -/

theorem run_concat
    (registry : Registry Provider)
    (calls : List (Call Provider))
    (call : Call Provider) :
    registry.run (calls ++ [call]) = ((registry.run calls).perform call).2 := by
  simp [run]

/-- Whether a call of a run that began without providers is the last one about a name to succeed. -/
def IsLastSuccess (calls : List (Call Provider)) (name : String) (last : Call Provider) : Prop :=
  ∃ before later,
    calls = before ++ last :: later ∧ last.name = name ∧
      ((empty.run before).perform last).1 = .ok () ∧
        ∀ middle call rest, later = middle ++ call :: rest → call.name = name →
          ((empty.run (before ++ last :: middle)).perform call).1 ≠ .ok ()

/-- A place in a list with one item more is that of the item, or a place in the list. -/
theorem concat_eq_append_cons_iff
    {Item : Type}
    {items before later : List Item}
    {last item : Item} :
    items ++ [last] = before ++ item :: later ↔
      (items = before ∧ last = item ∧ later = []) ∨
        ∃ rest, items = before ++ item :: rest ∧ later = rest ++ [last] := by
  constructor
  · intro split
    rcases List.eq_nil_or_concat later with rfl | ⟨rest, final, rfl⟩
    · obtain ⟨rfl, same⟩ := List.append_inj' split rfl
      exact .inl ⟨rfl, List.head_eq_of_cons_eq same, rfl⟩
    · rw [List.concat_eq_append, ← List.cons_append, ← List.append_assoc] at split
      obtain ⟨rfl, same⟩ := List.append_inj' split rfl
      obtain rfl := List.head_eq_of_cons_eq same
      exact .inr ⟨rest, rfl, List.concat_eq_append⟩
  · rintro (⟨rfl, rfl, rfl⟩ | ⟨rest, rfl, rfl⟩)
    · rfl
    · simp

/-- The last success of a run with one call more is that call, or the last one before it. -/
theorem isLastSuccess_concat_iff :
    IsLastSuccess (calls ++ [call]) name last ↔
      (last = call ∧ call.name = name ∧ ((empty.run calls).perform call).1 = .ok ()) ∨
        IsLastSuccess calls name last ∧
          (call.name = name → ((empty.run calls).perform call).1 ≠ .ok ()) := by
  constructor
  · rintro ⟨before, later, split, named, succeeded, lastly⟩
    rcases concat_eq_append_cons_iff.mp split with ⟨rfl, rfl, rfl⟩ | ⟨rest, rfl, rfl⟩
    · exact .inl ⟨rfl, named, succeeded⟩
    · refine .inr ⟨⟨before, rest, rfl, named, succeeded, ?_⟩, ?_⟩
      · intro middle other more isMiddle
        exact lastly middle other (more ++ [call]) (by simp [isMiddle])
      · exact lastly rest call [] rfl
  · rintro
      (⟨rfl, named, succeeded⟩ | ⟨⟨before, later, rfl, named, succeeded, lastly⟩, fails⟩)
    · exact ⟨calls, [], rfl, named, succeeded, by simp⟩
    · refine ⟨before, later ++ [call], by simp, named, succeeded, ?_⟩
      intro middle other rest split
      rcases concat_eq_append_cons_iff.mp split with ⟨rfl, rfl, rfl⟩ | ⟨more, rfl, rfl⟩
      · exact fails
      · exact lastly middle other more rfl

/-- A name is bound to the provider that the last success about it has registered. -/
theorem provider?_run_iff :
    (empty.run calls).provider? name = some provider ↔
      IsLastSuccess calls name (.register name (some provider)) := by
  induction calls using List.reverseRecOn with
  | nil =>
      constructor
      · intro bound
        cases bound
      · rintro ⟨before, later, split, -⟩
        simp at split
  | append_singleton calls call inductionHypothesis =>
      rw [run_concat, isLastSuccess_concat_iff, ← inductionHypothesis]
      cases refusal : call.refusal? (empty.run calls).names with
      | some error => simp [perform_of_refused refusal]
      | none =>
          obtain ⟨succeeds, bound⟩ := perform_of_accepted refusal
          rw [bound, succeeds]
          by_cases same : name = call.name
          · subst same
            cases call with
            | register other given => simp [Call.binds?, Call.name, eq_comm]
            | unregister other => simp [Call.binds?]
          · simp [same, Ne.symm same]

/-! ## Registries that runs lead to -/

/-- Whether a registry is the finite map that a run of calls has made. -/
structure IsMapOf (registry : Registry Provider) (calls : List (Call Provider)) : Prop where
  ascend : registry.names.Pairwise fun first second => Utf8.encode first < Utf8.encode second
  /-- In whatever order providers are kept, the names are listed alike. -/
  unordered : ∀ other : Registry Provider,
    (∀ name, other.get name = registry.get name) → other.names = registry.names
  /-- The names are those that were registered last. -/
  names : ∀ name,
    name ∈ registry.names ↔ ∃ provider, IsLastSuccess calls name (.register name provider)
  /-- A name gets the provider that it was registered with. -/
  get : ∀ name provider,
    registry.get name = .ok provider ↔ IsLastSuccess calls name (.register name (some provider))
  missing : ∀ name, name ∉ registry.names → registry.get name = .error (.notRegistered name)
  outcome : ∀ call,
    (registry.perform call).1 = (call.refusal? registry.names).elim (.ok ()) .error
  failure : ∀ call error, (registry.perform call).1 = .error error →
    (registry.perform call).2.names = registry.names ∧
      ∀ name, (registry.perform call).2.get name = registry.get name

/-- Every run of calls on a registry without providers makes a finite map. -/
theorem isMapOf_run (calls : List (Call Provider)) : (empty.run calls).IsMapOf calls where
  ascend := names_ascend _
  unordered := fun _ => names_congr
  names := by
    intro name
    rw [mem_names_iff, Option.ne_none_iff_exists']
    simp only [provider?_run_iff]
    constructor
    · rintro ⟨provider, lastly⟩
      exact ⟨some provider, lastly⟩
    · rintro ⟨provider, lastly⟩
      cases provider with
      | some provider => exact ⟨provider, lastly⟩
      | none =>
          obtain ⟨before, later, -, -, succeeded, -⟩ := lastly
          cases succeeded
  get := fun name provider => get_eq_ok_iff.trans provider?_run_iff
  missing := by
    intro name absent
    rw [mem_names_iff, not_not] at absent
    exact get_of_unbound absent
  outcome := outcome_eq _
  failure := by
    intro call error failed
    rw [perform_of_error failed]
    exact ⟨rfl, fun _ => rfl⟩

end Credential.Registry
