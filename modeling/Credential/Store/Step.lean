import Credential.Error

/-!
# Steps

What an operation does to the state that it works on.  A step that fails leaves
the state as far as it had come; nothing is taken back unless the step is told
to do so.

A caller may lend a record to a step.  The step works on a copy, and what comes
out takes the place of the record that was lent.
-/

namespace Credential.Store

/-- What an operation does to a state: its outcome, and the state that it leaves. -/
def Step (State Result : Type) :=
  State → Except Error Result × State

namespace Step

variable {State Result Other : Type}

/-- Carry out a step on a state. -/
def run (step : Step State Result) (state : State) : Except Error Result × State :=
  step state

instance : Monad (Step State) where
  pure result := fun state => (.ok result, state)
  bind step next := fun state =>
    match step state with
    | (.ok result, state) => next result state
    | (.error error, state) => (.error error, state)

/-- Fail, and leave the state as it is. -/
def fail (error : Error) : Step State Result := fun state =>
  (.error error, state)

/-- Look at the state, and leave it as it is. -/
def look (view : State → Result) : Step State Result := fun state =>
  (.ok (view state), state)

/-- Ask the state for something that it may lack, and leave it as it is. -/
def ask (view : State → Except Error Result) : Step State Result := fun state =>
  (view state, state)

/-- Change the state. -/
def change (next : State → State) : Step State Unit := fun state =>
  (.ok (), next state)

/-- Carry out a step, and take back what it has done if it fails. -/
def atomically (step : Step State Result) : Step State Result := fun state =>
  match step state with
  | (.ok result, changed) => (.ok result, changed)
  | (.error error, _) => (.error error, state)

@[simp] theorem run_pure (result : Result) (state : State) :
    run (pure result) state = (.ok result, state) :=
  rfl

@[simp] theorem run_fail (error : Error) (state : State) :
    run (fail error : Step State Result) state = (.error error, state) :=
  rfl

@[simp] theorem run_look (view : State → Result) (state : State) :
    run (look view) state = (.ok (view state), state) :=
  rfl

@[simp] theorem run_ask (view : State → Except Error Result) (state : State) :
    run (ask view) state = (view state, state) :=
  rfl

@[simp] theorem run_change (next : State → State) (state : State) :
    run (change next) state = (.ok (), next state) :=
  rfl

@[simp] theorem run_look_bind
    (view : State → Result)
    (next : Result → Step State Other)
    (state : State) :
    run (look view >>= next) state = (next (view state)).run state :=
  rfl

@[simp] theorem run_change_bind
    (edit : State → State)
    (next : Unit → Step State Other)
    (state : State) :
    run (change edit >>= next) state = (next ()).run (edit state) :=
  rfl

@[simp] theorem run_fail_bind
    (error : Error)
    (next : Result → Step State Other)
    (state : State) :
    run (fail error >>= next) state = (.error error, state) :=
  rfl

/-- What the state has is handed to the next step, and what it lacks ends what was to follow. -/
theorem run_ask_bind
    (view : State → Except Error Result)
    (next : Result → Step State Other)
    (state : State) :
    run (ask view >>= next) state =
      match view state with
      | .ok result => (next result).run state
      | .error error => (.error error, state) := by
  change (match (view state, state) with
    | (.ok result, state) => (next result).run state
    | (.error error, state) => (.error error, state)) = _
  cases view state <;> rfl

/-- A step that comes through hands its result and the state that it leaves to the next one. -/
theorem run_bind_of_ok
    {step : Step State Result}
    {next : Result → Step State Other}
    {state changed : State}
    {result : Result}
    (comesThrough : step.run state = (.ok result, changed)) :
    run (step >>= next) state = (next result).run changed := by
  change (match step.run state with
    | (.ok result, state) => (next result).run state
    | (.error error, state) => (.error error, state)) = _
  rw [comesThrough]

/-- A step that fails ends what was to follow. -/
theorem run_bind_of_error
    {step : Step State Result}
    {next : Result → Step State Other}
    {state changed : State}
    {error : Error}
    (fails : step.run state = (.error error, changed)) :
    run (step >>= next) state = (.error error, changed) := by
  change (match step.run state with
    | (.ok result, state) => (next result).run state
    | (.error error, state) => (.error error, state)) = _
  rw [fails]

/-- A step that comes through is not taken back. -/
theorem run_atomically_of_ok
    {step : Step State Result}
    {state changed : State}
    {result : Result}
    (comesThrough : step.run state = (.ok result, changed)) :
    run (atomically step) state = (.ok result, changed) := by
  change (match step.run state with
    | (.ok result, changed) => (Except.ok result, changed)
    | (.error error, _) => (Except.error error, state)) = _
  rw [comesThrough]

/-- A step that fails is taken back. -/
theorem run_atomically_of_error
    {step : Step State Result}
    {state changed : State}
    {error : Error}
    (fails : step.run state = (.error error, changed)) :
    run (atomically step) state = (.error error, state) := by
  change (match step.run state with
    | (.ok result, changed) => (Except.ok result, changed)
    | (.error error, _) => (Except.error error, state)) = _
  rw [fails]

end Step

/-! ## Records that are lent -/

/-- A state together with the record that the caller has lent. -/
structure Lent (Record State : Type) where
  record : Record
  state : State
  deriving Repr

namespace Step

variable {Record State Result : Type}

/-- The record that the caller has lent. -/
def lentRecord : Step (Lent Record State) Record :=
  look Lent.record

/-- Carry out a step on the state, and leave the record alone. -/
def onState (step : Step State Result) : Step (Lent Record State) Result := fun lent =>
  let (outcome, state) := step.run lent.state
  (outcome, { lent with state })

/-- Put a record in the place of the one that was lent. -/
def giveBack (record : Record) : Step (Lent Record State) Unit :=
  change fun lent => { lent with record }

/-- Work with a copy of the record that was lent, and give back what comes out. -/
def withLent (work : Record → Step State Record) : Step (Lent Record State) Unit := do
  let record ← lentRecord
  let record ← onState (work record)
  giveBack record

/-- Work that succeeds takes the place of the record that was lent. -/
theorem run_withLent_of_ok
    {work : Record → Step State Record}
    {record result : Record}
    {state changed : State}
    (succeeds : (work record).run state = (.ok result, changed)) :
    (withLent work).run ⟨record, state⟩ = (.ok (), ⟨result, changed⟩) := by
  have worked : (onState (work record)).run ⟨record, state⟩ =
      (.ok result, (⟨record, changed⟩ : Lent Record State)) := by
    change (let (outcome, state) := (work record).run state
      (outcome, (⟨record, state⟩ : Lent Record State))) = _
    rw [succeeds]
  rw [withLent, lentRecord, run_look_bind, run_bind_of_ok worked]
  rfl

/-- Work that fails leaves the record that was lent alone. -/
theorem run_withLent_of_error
    {work : Record → Step State Record}
    {record : Record}
    {error : Error}
    {state changed : State}
    (fails : (work record).run state = (.error error, changed)) :
    (withLent work).run ⟨record, state⟩ = (.error error, ⟨record, changed⟩) := by
  have worked : (onState (work record)).run ⟨record, state⟩ =
      (.error error, (⟨record, changed⟩ : Lent Record State)) := by
    change (let (outcome, state) := (work record).run state
      (outcome, (⟨record, state⟩ : Lent Record State))) = _
    rw [fails]
  rw [withLent, lentRecord, run_look_bind, run_bind_of_error worked]

end Step

end Credential.Store
