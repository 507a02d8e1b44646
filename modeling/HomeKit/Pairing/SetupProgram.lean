import HomeKit.Pairing.IdentityStore

/-!
# Steps of pair-setup on shared state

The pair-setup machines of all connections share the store of pairings, the bookkeeping of attempts
and the source of randomness. What a machine does with them is a `SetupProgram`: a sequence of
steps, each of which is atomic (`SetupStep`), with the machine's own computation between them.
`SetupProgram.run` takes all steps of one program in a row; programs of several connections may
also be run with their steps interleaved.
-/

namespace HomeKit

/-- The bookkeeping of pair-setup attempts, for the whole accessory. -/
structure SetupAttempts where
  /-- The connection that runs pair-setup. -/
  owner : Option ConnectionId := none
  failed : Nat := 0
  deriving DecidableEq, Repr

namespace SetupAttempts

/-- Refused proofs after which no attempt is allowed any more. -/
def maxFailed : Nat := 100

/-- The count of refused proofs stops here. -/
def failedLimit : Nat := UInt32.size - 1

/-- Gives the slot to a connection, unless another one has it. -/
def claim (attempts : SetupAttempts) (conn : ConnectionId) : Bool × SetupAttempts :=
  if attempts.owner.any (· != conn) then (false, attempts)
  else (true, { attempts with owner := some conn })

def release (attempts : SetupAttempts) (conn : ConnectionId) : SetupAttempts :=
  if attempts.owner = some conn then { attempts with owner := none } else attempts

def recordFailure (attempts : SetupAttempts) : SetupAttempts :=
  { attempts with failed := min (attempts.failed + 1) failedLimit }

end SetupAttempts

/-- What the pair-setup machines of an accessory share. -/
structure SetupShared where
  store : IdentityStore
  attempts : SetupAttempts := {}
  random : Entropy

inductive SetupStep where
  | isPaired
  | failed
  | claim (conn : ConnectionId)
  | release (conn : ConnectionId)
  | recordFailure
  | add (controller : PairedController)
  | draw (n : Nat)

namespace SetupStep

abbrev Answer : SetupStep → Type
  | isPaired | claim _ => Bool
  | failed => Nat
  | release _ | recordFailure => Unit
  | add _ => Except Error Unit
  | draw n => Octets n

def take (step : SetupStep) (shared : SetupShared) : step.Answer × SetupShared :=
  match step with
  | isPaired => (shared.store.isPaired, shared)
  | failed => (shared.attempts.failed, shared)
  | claim conn =>
    let (claimed, attempts) := shared.attempts.claim conn
    (claimed, { shared with attempts })
  | release conn => ((), { shared with attempts := shared.attempts.release conn })
  | recordFailure => ((), { shared with attempts := shared.attempts.recordFailure })
  | add controller =>
    let (added, store) := shared.store.add controller
    (added, { shared with store })
  | draw n =>
    let (bytes, random) := shared.random.draw n
    (bytes, { shared with random })

end SetupStep

/-- Steps on what is shared, and a result. -/
inductive SetupProgram (α : Type) where
  | done (result : α)
  | step (step : SetupStep) (next : step.Answer → SetupProgram α)

namespace SetupProgram

variable {α β : Type}

def bind : SetupProgram α → (α → SetupProgram β) → SetupProgram β
  | done result, f => f result
  | step s next, f => step s fun answer => (next answer).bind f

instance : Monad SetupProgram where
  pure := done
  bind := bind

def perform (s : SetupStep) : SetupProgram s.Answer :=
  step s done

def run : SetupProgram α → SetupShared → α × SetupShared
  | done result, shared => (result, shared)
  | step s next, shared =>
    let (answer, shared) := s.take shared
    (next answer).run shared

@[simp] theorem run_pure (result : α) (shared : SetupShared) :
    (pure result : SetupProgram α).run shared = (result, shared) :=
  rfl

@[simp] theorem run_bind (program : SetupProgram α) (f : α → SetupProgram β)
    (shared : SetupShared) :
    (program >>= f).run shared = (f (program.run shared).1).run (program.run shared).2 := by
  induction program generalizing shared with
  | done result => rfl
  | step s next ih => exact ih _ _

@[simp] theorem run_perform (s : SetupStep) (shared : SetupShared) :
    (perform s).run shared = s.take shared :=
  rfl

end SetupProgram

end HomeKit
