import ModelCatalog.Fault

/-! Results with the events that were logged on the way. -/
namespace ModelCatalog

inductive Level
  | debug | info | warn | error
deriving DecidableEq, Repr

def Level.word : Level → String
  | .debug => "DEBUG"
  | .info => "INFO"
  | .warn => "WARN"
  | .error => "ERROR"

/-- The part of the library that logs. -/
inductive Source
  | loader | products | collect | validate | pipeline | commandLine
deriving DecidableEq, Repr

structure LogEvent where
  level : Level
  source : Source
  message : String
deriving DecidableEq, Repr

abbrev Log := List LogEvent

/-- A value or a fault, and what was logged before it was known. -/
structure Logged (α : Type) where
  log : Log
  result : Except Fault α

namespace Logged

variable {α β : Type}

def fail (fault : Fault) : Logged α := ⟨[], .error fault⟩

def event (level : Level) (source : Source) (message : String) : Logged Unit :=
  ⟨[⟨level, source, message⟩], .ok ()⟩

def ofExcept (result : Except Fault α) : Logged α := ⟨[], result⟩

/-- Goes on with the value; a fault ends the work. -/
def andThen (first : Logged α) (next : α → Logged β) : Logged β :=
  match first.result with
  | .error fault => ⟨first.log, .error fault⟩
  | .ok value => ⟨first.log ++ (next value).log, (next value).result⟩

instance : Monad Logged where
  pure value := ⟨[], .ok value⟩
  bind := andThen

@[simp] theorem result_pure (value : α) : (pure value : Logged α).result = .ok value := rfl

@[simp] theorem result_fail (fault : Fault) : (fail fault : Logged α).result = .error fault := rfl

@[simp] theorem result_ofExcept (result : Except Fault α) : (ofExcept result).result = result := rfl

@[simp] theorem result_event (level : Level) (source : Source) (message : String) :
    (event level source message).result = .ok () := rfl

theorem result_bind (first : Logged α) (next : α → Logged β) :
    (first >>= next).result = first.result >>= fun value => (next value).result := by
  change (andThen first next).result = _
  unfold andThen
  cases first.result <;> rfl

@[simp] theorem result_fail_bind (fault : Fault) (next : α → Logged β) :
    (fail fault >>= next).result = .error fault := rfl

@[simp] theorem result_event_bind (level : Level) (source : Source) (message : String)
    (next : Unit → Logged β) :
    (event level source message >>= next).result = (next ()).result := rfl

@[simp] theorem result_bind_pure (first : Logged α) (f : α → β) :
    (first >>= fun value => pure (f value)).result = first.result.map f := by
  rw [result_bind]
  cases first.result <;> rfl

@[simp] theorem result_bind_eq_ok {first : Logged α} {next : α → Logged β} {value : β} :
    (first >>= next).result = .ok value ↔
      ∃ a, first.result = .ok a ∧ (next a).result = .ok value := by
  rw [result_bind]
  cases first.result <;> simp [bind, Except.bind]

@[simp] theorem result_bind_eq_error {first : Logged α} {next : α → Logged β} {fault : Fault} :
    (first >>= next).result = .error fault ↔
      first.result = .error fault ∨
        ∃ a, first.result = .ok a ∧ (next a).result = .error fault := by
  rw [result_bind]
  cases first.result <;> simp [bind, Except.bind]

@[simp] theorem log_fail_bind (fault : Fault) (next : α → Logged β) :
    (fail fault >>= next).log = [] := rfl

@[simp] theorem log_event_bind (level : Level) (source : Source) (message : String)
    (next : Unit → Logged β) :
    (event level source message >>= next).log = ⟨level, source, message⟩ :: (next ()).log := rfl

@[simp] theorem log_bind_pure (first : Logged α) (f : α → β) :
    (first >>= fun value => pure (f value)).log = first.log := by
  change (andThen first _).log = _
  unfold andThen
  cases first.result with
  | error fault => rfl
  | ok value => exact List.append_nil _

theorem bind_pure_self (first : Logged α) : (first >>= fun value => pure value) = first := by
  change andThen first _ = _
  cases first with
  | mk log result =>
    cases result with
    | error fault => rfl
    | ok value => exact congrArg (Logged.mk · (.ok value)) (List.append_nil log)

theorem log_bind_of_ok {first : Logged α} {value : α} (passed : first.result = .ok value)
    (next : α → Logged β) : (first >>= next).log = first.log ++ (next value).log := by
  change (andThen first next).log = _
  unfold andThen
  rw [passed]

theorem log_bind_of_error {first : Logged α} {fault : Fault} (failed : first.result = .error fault)
    (next : α → Logged β) : (first >>= next).log = first.log := by
  change (andThen first next).log = _
  unfold andThen
  rw [failed]

end Logged

end ModelCatalog
