import HomeKit.Proofs.Pairing.SetupCalls

/-!
# The phases of a call of pair-setup

`PairSetup.handle_move` says what a call comes to if its steps are taken in a row. Here the call is
taken apart: it begins in a phase that the request and the machine decide (`CallPhase.ofRequest`),
each step on what is shared leads to a later phase, and what is left of the call in a phase is a
program (`CallPhase.program`). A call is the program of the phase it begins in
(`PairSetup.handle_eq_program`).
-/

namespace HomeKit

open PairSetup (answerM2 answerM4 responseM6)

/-- Where a call stands: what it does next with what is shared. -/
inductive CallPhase where
  /-- An M1 asks whether a controller is paired, -/
  | looking
  /-- then how many proofs were refused, -/
  | counting
  /-- then takes the slot, -/
  | claiming
  | salting
  | drawing (salt : Octets 16)
  /-- The proof of an M3 was refused and is to be counted. -/
  | recording
  /-- An M5 introduced a controller, which is to be stored. -/
  | adding (key : Octets 64) (controller : PairedController)
  /-- The exchange is over, with success or not, and the slot is to be given up. -/
  | releasing (answer : Bytes) (success : Bool)
  /-- The answer is known, and the stage of the machine after it. -/
  | answering (answer : Bytes) (stage : SetupStage)

namespace CallPhase

/-- The stage of a machine whose exchange is over. -/
def endStage (success : Bool) : SetupStage :=
  if success then .complete else .awaitingM1

theorem isActive_endStage (machine : PairSetup) (success : Bool) :
    PairSetup.isActive { machine with stage := endStage success } = false := by
  cases success with
  | true => rfl
  | false => rfl

/-- A failure ends the exchange, unless setup is busy. -/
def failing (machine : PairSetup) (number : UInt8) (error : Error) : CallPhase :=
  let answer := (Tlv.errorResponse number error.code).encode
  if error = .pairing .busy then .answering answer machine.stage
  else .releasing answer false

theorem failing_busy (machine : PairSetup) (number : UInt8) :
    failing machine number (.pairing .busy) =
      answering (Tlv.errorResponse number (Error.pairing .busy).code).encode machine.stage := by
  unfold failing
  exact if_pos rfl

theorem failing_of_ne {error : Error} (h : error ≠ .pairing .busy) (machine : PairSetup)
    (number : UInt8) :
    failing machine number error =
      releasing (Tlv.errorResponse number error.code).encode false := by
  unfold failing
  exact if_neg h

/-- A bound on the steps that are left. -/
def rank : CallPhase → Nat
  | answering .. => 0
  | releasing .. => 1
  | adding .. | recording | drawing _ => 2
  | salting => 3
  | claiming => 4
  | counting => 5
  | looking => 6

theorem rank_failing_le (machine : PairSetup) (number : UInt8) (error : Error) :
    (failing machine number error).rank ≤ 1 := by
  unfold failing
  split
  · exact Nat.zero_le 1
  · exact Nat.le_refl 1

/-- The exchange for a setup code, from what was drawn. -/
def server (suite : CipherSuite) (machine : PairSetup) (salt : Octets 16) (secret : Octets 32) :
    Srp.Server :=
  .new suite.hash PairSetup.username (utf8 machine.setupCode.dashed) salt
    (ofLittleEndian secret.bytes)

/-! ## What follows a step -/

def looked (machine : PairSetup) (paired : Bool) : CallPhase :=
  if paired then failing machine 2 (.pairing .unavailable)
  else if machine.isActive then failing machine 2 (.pairing .busy)
  else counting

def counted (machine : PairSetup) (failed : Nat) : CallPhase :=
  if SetupAttempts.maxFailed ≤ failed then failing machine 2 (.pairing .maxTries) else claiming

def claimed (machine : PairSetup) (given : Bool) : CallPhase :=
  if given then salting else failing machine 2 (.pairing .busy)

def added (suite : CipherSuite) (identity : AccessoryIdentity) (machine : PairSetup)
    (key : Octets 64) : Except Error Unit → CallPhase
  | .ok () => releasing (responseM6 suite identity key).encode true
  | .error error => failing machine 6 error

theorem rank_looked_lt (machine : PairSetup) (paired : Bool) :
    (looked machine paired).rank < 6 := by
  unfold looked
  split
  · exact Nat.lt_of_le_of_lt (rank_failing_le ..) (by decide)
  · split
    · exact Nat.lt_of_le_of_lt (rank_failing_le ..) (by decide)
    · exact Nat.lt_succ_self 5

theorem rank_counted_lt (machine : PairSetup) (failed : Nat) :
    (counted machine failed).rank < 5 := by
  unfold counted
  split
  · exact Nat.lt_of_le_of_lt (rank_failing_le ..) (by decide)
  · exact Nat.lt_succ_self 4

theorem rank_claimed_lt (machine : PairSetup) (given : Bool) :
    (claimed machine given).rank < 4 := by
  unfold claimed
  split
  · exact Nat.lt_succ_self 3
  · exact Nat.lt_of_le_of_lt (rank_failing_le ..) (by decide)

theorem rank_added_lt (suite : CipherSuite) (identity : AccessoryIdentity) (machine : PairSetup)
    (key : Octets 64) (outcome : Except Error Unit) :
    (added suite identity machine key outcome).rank < 2 := by
  cases outcome with
  | ok _ => exact Nat.lt_succ_self 1
  | error error => exact Nat.lt_succ_of_le (rank_failing_le ..)

/-- What is left of a call. -/
def program (suite : CipherSuite) (identity : AccessoryIdentity) (machine : PairSetup) :
    CallPhase → SetupProgram (Bytes × PairSetup)
  | looking => .step .isPaired fun paired => program suite identity machine (looked machine paired)
  | counting => .step .failed fun failed => program suite identity machine (counted machine failed)
  | claiming =>
    .step (.claim machine.conn) fun given => program suite identity machine (claimed machine given)
  | salting => .step (.draw 16) fun salt => program suite identity machine (drawing salt)
  | drawing salt => .step (.draw 32) fun secret =>
    program suite identity machine
      (answering (answerM2 (server suite machine salt secret)).encode
        (.awaitingM3 (server suite machine salt secret)))
  | recording => .step .recordFailure fun _ =>
    program suite identity machine (failing machine 4 (.pairing .authenticationFailed))
  | adding key controller => .step (.add controller) fun outcome =>
    program suite identity machine (added suite identity machine key outcome)
  | releasing answer success => .step (.release machine.conn) fun _ =>
    program suite identity machine (answering answer (endStage success))
  | answering answer stage => .done (answer, { machine with stage })
termination_by phase => phase.rank
decreasing_by
  · exact Nat.lt_succ_of_le (rank_failing_le ..)
  · exact rank_looked_lt ..
  · exact rank_counted_lt ..
  · exact rank_claimed_lt ..
  · exact Nat.lt_succ_self 2
  · exact Nat.zero_lt_two
  · exact rank_added_lt ..
  · exact Nat.zero_lt_one

/-! ## How a call begins -/

def ofM1 (machine : PairSetup) (request : Tlv) : CallPhase :=
  match PairSetup.checkMethod request with
  | .ok () => looking
  | .error error => failing machine 2 error

def ofM3 (suite : CipherSuite) (machine : PairSetup) (request : Tlv) : CallPhase :=
  match machine.stage with
  | .awaitingM3 server =>
    match request.require .publicKey, request.require .proof with
    | .ok publicKey, .ok proof =>
      match server.verify suite.hash publicKey proof with
      | .ok verified => answering (answerM4 verified).encode (.awaitingM5 verified.key)
      | .error _ => recording
    | .ok _, .error error | .error error, _ => failing machine 4 (.pairing error)
  | _ => failing machine 4 (machine.outOfOrder 3)

def ofM5 (suite : CipherSuite) (machine : PairSetup) (request : Tlv) : CallPhase :=
  match machine.stage with
  | .awaitingM5 key =>
    match PairSetup.introduced suite key request with
    | .ok controller => adding key controller
    | .error error => failing machine 6 error
  | _ => failing machine 6 (machine.outOfOrder 5)

/-- The phase in which a call begins. -/
def ofRequest (suite : CipherSuite) (machine : PairSetup) (request : Bytes) : CallPhase :=
  match Tlv.decode request with
  | .error _ => releasing (Tlv.errorResponse (machine.dueMessage + 1) .unknown).encode false
  | .ok tlv =>
    let number := tlv.state?.getD 0
    if number = 1 then ofM1 machine tlv
    else if number = 3 then ofM3 suite machine tlv
    else if number = 5 then ofM5 suite machine tlv
    else failing machine (number + 1) (machine.outOfOrder number)

end CallPhase

/-! ## A call is the program of its phase -/

namespace PairSetup

open CallPhase (program failing)

variable {suite : CipherSuite} {identity : AccessoryIdentity} {machine : PairSetup}

/-- What the handling of a request makes of the outcome of its dispatch. -/
def conclude (machine : PairSetup) (number : UInt8) :
    Except Error (Tlv × PairSetup) → SetupProgram (Bytes × PairSetup)
  | .ok (response, machine) => .done (response.encode, machine)
  | .error error => do
    let machine ← if error = .pairing .busy then pure machine else machine.reset
    return ((Tlv.errorResponse number error.code).encode, machine)

theorem conclude_error (number : UInt8) (error : Error) :
    conclude machine number (.error error) =
      program suite identity machine (failing machine number error) := by
  unfold conclude
  by_cases hbusy : error = .pairing .busy
  · simp only [if_pos hbusy]
    rw [hbusy, CallPhase.failing_busy, program]
    rfl
  · simp only [if_neg hbusy]
    rw [CallPhase.failing_of_ne hbusy, program, program]
    rfl

/-- A request is dispatched, and the outcome concluded. -/
theorem handle_eq_bind {request : Bytes} {tlv : Tlv} (hdecode : Tlv.decode request = .ok tlv) :
    machine.handle suite identity request =
      (dispatch suite identity machine tlv (tlv.state?.getD 0)).run.bind
        (conclude machine (tlv.state?.getD 0 + 1)) := by
  unfold handle
  rw [hdecode]
  refine congrArg (SetupProgram.bind _) (funext fun outcome => ?_)
  cases outcome with
  | ok result => rfl
  | error error => rfl

-- An attempt is a program of outcomes, and no laws of its monad are stated.
theorem bind_of_pure {α β : Type} (a : α) (f : α → Attempt β) :
    (pure a : Attempt α) >>= f = f a :=
  rfl

theorem handleM1_bind (tlv : Tlv) :
    (handleM1 suite machine tlv).run.bind (conclude machine 2) =
      program suite identity machine (CallPhase.ofM1 machine tlv) := by
  unfold CallPhase.ofM1 handleM1 handleM1.liftExcept
  cases hmethod : checkMethod tlv with
  | error error => exact conclude_error ..
  | ok _ =>
    simp only
    rw [program]
    refine congrArg (SetupProgram.step .isPaired) (funext fun paired => ?_)
    unfold CallPhase.looked
    cases paired with
    | true => exact conclude_error ..
    | false =>
      cases hactive : machine.isActive with
      | true => exact conclude_error ..
      | false =>
        simp only [Bool.false_eq_true, if_false]
        rw [program]
        refine congrArg (SetupProgram.step .failed) (funext fun failed => ?_)
        unfold CallPhase.counted
        by_cases hfailed : SetupAttempts.maxFailed ≤ failed
        · simp only [SetupProgram.bind, Function.comp, ExceptT.bindCont, if_pos hfailed]
          exact conclude_error ..
        · simp only [SetupProgram.bind, Function.comp, ExceptT.bindCont, if_neg hfailed]
          rw [program]
          refine congrArg (SetupProgram.step (.claim machine.conn)) (funext fun given => ?_)
          cases given with
          | false => exact conclude_error ..
          | true =>
            unfold CallPhase.claimed
            simp only [if_true]
            rw [program]
            refine congrArg (SetupProgram.step (.draw 16)) (funext fun salt => ?_)
            rw [program]
            refine congrArg (SetupProgram.step (.draw 32)) (funext fun secret => ?_)
            rw [program]
            rfl

theorem handleM3_bind (tlv : Tlv) :
    (handleM3 suite machine tlv).run.bind (conclude machine 4) =
      program suite identity machine (CallPhase.ofM3 suite machine tlv) := by
  unfold CallPhase.ofM3 handleM3 handleM3.required
  cases hstage : machine.stage with
  | awaitingM3 server =>
    cases hkey : tlv.require .publicKey with
    | error error => exact conclude_error ..
    | ok publicKey =>
      cases hproof : tlv.require .proof with
      | error error => exact conclude_error ..
      | ok proof =>
        cases hverify : server.verify suite.hash publicKey proof with
        | error error =>
          simp only [bind_of_pure, hverify]
          rw [program]
          exact congrArg (SetupProgram.step .recordFailure) (funext fun _ => conclude_error ..)
        | ok verified =>
          simp only [bind_of_pure, hverify]
          rw [program]
          rfl
  | awaitingM1 => exact conclude_error ..
  | awaitingM5 key => exact conclude_error ..
  | complete => exact conclude_error ..

theorem handleM5_bind (tlv : Tlv) :
    (handleM5 suite identity machine tlv).run.bind (conclude machine 6) =
      program suite identity machine (CallPhase.ofM5 suite machine tlv) := by
  unfold CallPhase.ofM5 handleM5
  cases hstage : machine.stage with
  | awaitingM5 key =>
    simp only
    cases hintro : introduced suite key tlv with
    | error error => exact conclude_error ..
    | ok controller =>
      rw [program]
      refine congrArg (SetupProgram.step (.add controller)) (funext fun outcome => ?_)
      cases outcome with
      | error error => exact conclude_error ..
      | ok _ =>
        unfold CallPhase.added
        simp only
        rw [program, program]
        rfl
  | awaitingM1 => exact conclude_error ..
  | awaitingM3 server => exact conclude_error ..
  | complete => exact conclude_error ..

/-- A call is the program of the phase in which it begins. -/
theorem handle_eq_program (suite : CipherSuite) (identity : AccessoryIdentity) (machine : PairSetup)
    (request : Bytes) :
    machine.handle suite identity request =
      program suite identity machine (CallPhase.ofRequest suite machine request) := by
  unfold CallPhase.ofRequest
  cases hdecode : Tlv.decode request with
  | error error =>
    unfold handle
    simp only [hdecode]
    rw [program, program]
    rfl
  | ok tlv =>
    rw [handle_eq_bind hdecode]
    simp only
    generalize tlv.state?.getD 0 = number
    unfold dispatch
    by_cases h1 : number = 1
    · subst h1
      exact handleM1_bind tlv
    · by_cases h3 : number = 3
      · subst h3
        exact handleM3_bind tlv
      · by_cases h5 : number = 5
        · subst h5
          exact handleM5_bind tlv
        · simp only [if_neg h1, if_neg h3, if_neg h5]
          exact conclude_error ..

end PairSetup

end HomeKit
