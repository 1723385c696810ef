import CommandBot.Error
import CommandBot.Log

/-!
Loading: a computation that may fail and tells the operator what it notices on the way. What was
noticed before a failure stays noticed.
-/

namespace CommandBot

/-- Something told to the operator while a document is loaded. -/
inductive Notice where
  | sharesClassName (command : String)
  | hooked (count : Nat)
  | unlisted (command : String)
  | loaded (count : Nat) (path : String)
  | failed (error : Error)

/-- The log record of a notice. -/
def Notice.record : Notice → LogRecord
  | sharesClassName command =>
    ⟨.warn, s!"Command '{command}' shares its name with a command class; " ++
      "array entries starting with it build a new command"⟩
  | hooked count => ⟨.info, s!"Registered {count} state change hook(s)"⟩
  | unlisted command =>
    ⟨.info, s!"Command '{command}' is not listed as public or restricted; anyone may invoke it"⟩
  | loaded count path => ⟨.info, s!"Loaded {count} command(s) from {path}"⟩
  | failed error => ⟨.error, s!"Failed to load command document: {error.message}"⟩

/-- A result or an error, and what was noticed until then. -/
structure Load (α : Type) where
  result : Except Error α
  notices : List Notice

namespace Load

variable {α β : Type}

/-- Goes on with the result, if there is one. -/
def andThen (x : Load α) (f : α → Load β) : Load β :=
  match x.result with
  | .error e => ⟨.error e, x.notices⟩
  | .ok a => ⟨(f a).result, x.notices ++ (f a).notices⟩

instance : Monad Load where
  pure a := ⟨.ok a, []⟩
  bind := andThen

/-- A computation that notices nothing. -/
def ofExcept (x : Except Error α) : Load α := ⟨x, []⟩

/-- Fails. -/
def fail (cause : Malformed) : Load α := ⟨.error (.malformed cause), []⟩

/-- Tells the operator something. -/
def tell (notices : List Notice) : Load Unit := ⟨.ok (), notices⟩

/-- Tells the operator about a failure, where the whole of a document has failed. -/
def tellFailure (x : Load α) : Load α :=
  match x.result with
  | .ok _ => x
  | .error e => { x with notices := x.notices ++ [.failed e] }

@[simp] theorem result_pure (a : α) : (pure a : Load α).result = .ok a := rfl

@[simp] theorem result_bind (x : Load α) (f : α → Load β) :
    (x >>= f).result = x.result >>= fun a => (f a).result := by
  obtain ⟨result, notices⟩ := x
  cases result <;> rfl

@[simp] theorem result_ofExcept (x : Except Error α) : (ofExcept x).result = x := rfl

@[simp] theorem result_tellFailure (x : Load α) : x.tellFailure.result = x.result := by
  obtain ⟨result, notices⟩ := x
  cases result <;> rfl

end Load

end CommandBot
