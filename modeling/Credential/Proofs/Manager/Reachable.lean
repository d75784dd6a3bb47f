import Credential.Proofs.Manager.Steps
import Credential.Proofs.Store.KeysAndTokens

/-!
# Managers that runs of calls reach

Whatever calls a manager carries out, its store stays sound, and a key pair stays
as it is in all calls but those that are about it and those that disconnect the
store.
-/

namespace Credential.Manager

variable {manager : Manager} {uid : String} {key : KeyPair}

/-! ## Sound stores -/

/-- Whatever calls a manager carries out, its store stays sound. -/
theorem isSound_perform
    (sound : manager.store.IsSound)
    (occasion : Occasion)
    (call : Call) :
    (manager.perform occasion call).2.store.IsSound := by
  refine (manager.leads_perform occasion call).preserves ?_ sound
  intro store storeCall sound _
  exact sound.perform occasion storeCall

theorem isSound_run (sound : manager.store.IsSound) (calls : List (Occasion × Call)) :
    (manager.run calls).store.IsSound := by
  induction calls generalizing manager with
  | nil => exact sound
  | cons call rest inductionHypothesis =>
      exact inductionHypothesis (isSound_perform sound call.1 call.2)

/-- Whether calls of a manager, or of its store, lead to a manager from one without rows. -/
inductive Reachable : Manager → Prop where
  | start {manager : Manager} (rowless : manager.store.Rowless) : Reachable manager
  | perform
      {manager : Manager}
      (reachable : Reachable manager)
      (occasion : Occasion)
      (call : Call) :
      Reachable (manager.perform occasion call).2
  | direct
      {manager : Manager}
      (reachable : Reachable manager)
      (occasion : Occasion)
      (call : Store.Call) :
      Reachable { manager with store := (manager.store.perform occasion call).2 }

theorem Reachable.isSound (reachable : manager.Reachable) : manager.store.IsSound := by
  induction reachable with
  | start rowless => exact rowless.isSound
  | perform _ occasion call inductionHypothesis =>
      exact isSound_perform inductionHypothesis occasion call
  | direct _ occasion call inductionHypothesis => exact inductionHypothesis.perform occasion call

/-! ## Calls that leave a key pair alone -/

/-- Whether a call can neither change nor remove the key pair of an account that has one. -/
def Call.Spares (uid : String) : Call → Prop
  | .close => False
  | .saveKey key => key.kid ≠ some uid
  | .deleteKey kid => kid ≠ uid
  | _ => True

/-- A manager that carries out a call that spares a key pair makes only calls that spare it. -/
theorem Makes.spares
    {call : Call}
    {occasion : Occasion}
    {store : Store}
    {storeCall : Store.Call}
    (makes : Makes call occasion store storeCall)
    (spares : call.Spares uid) :
    storeCall.Spares uid := by
  cases storeCall with
  | close =>
      obtain rfl : call = .close := makes
      exact spares
  | saveKey key =>
      rcases makes with rfl | generated
      · exact spares
      · obtain ⟨-, signer, -, made⟩ := KeyPair.generate_eq_ok_iff.mp generated
        rw [Store.Call.Spares, made]
        exact (Option.some_ne_none uid).symm
  | deleteKey kid =>
      obtain rfl : call = .deleteKey kid := makes
      exact spares
  | _ => exact trivial

theorem storedKey?_perform
    (sound : manager.store.IsSound)
    (stored : manager.store.storedKey? uid = some (.ok key))
    (occasion : Occasion)
    {call : Call}
    (spares : call.Spares uid) :
    (manager.perform occasion call).2.store.storedKey? uid = some (.ok key) := by
  have both : ∀ store storeCall, store.IsSound ∧ store.storedKey? uid = some (.ok key) →
      Makes call occasion store storeCall →
        (store.perform occasion storeCall).2.IsSound ∧
          (store.perform occasion storeCall).2.storedKey? uid = some (.ok key) := by
    intro store storeCall before makes
    exact ⟨before.1.perform occasion storeCall,
      Store.storedKey?_of_spares before.1 occasion (makes.spares spares) before.2⟩
  exact ((manager.leads_perform occasion call).preserves both ⟨sound, stored⟩).2

/-- A key pair that is stored stays as it is in calls that spare it. -/
theorem storedKey?_run
    (sound : manager.store.IsSound)
    (stored : manager.store.storedKey? uid = some (.ok key))
    {calls : List (Occasion × Call)}
    (spare : ∀ call ∈ calls, call.2.Spares uid) :
    (manager.run calls).store.storedKey? uid = some (.ok key) := by
  induction calls generalizing manager with
  | nil => exact stored
  | cons call rest inductionHypothesis =>
      apply inductionHypothesis
      · exact isSound_perform sound call.1 call.2
      · exact storedKey?_perform sound stored call.1 (spare call List.mem_cons_self)
      · exact fun other member => spare other (List.mem_cons_of_mem call member)

end Credential.Manager
