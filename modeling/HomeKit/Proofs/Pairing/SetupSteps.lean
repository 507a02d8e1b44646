import HomeKit.Proofs.Pairing.SetupPhases
import HomeKit.Proofs.Tlv.RoundTrip

/-!
# The steps of a call of pair-setup

The next step of a phase's program leads to the program of a phase that follows
(`CallPhase.program_step`), in one of the ways that `CallPhase.Step` lists. Of a step it is said
what it comes to for the slot, the count of refused proofs and the pairings
(`CallPhase.Step.effect`), which step can come next (`CallPhase.Step.follows`) and that no call
comes to a salt without the slot (`CallPhase.Step.leadsToSalt`); of a request, how its call can
begin (`CallPhase.Begins`).
-/

namespace HomeKit

open PairSetup (answerM2 answerM4 responseM6)

/-- The next step of a program. -/
def SetupProgram.next? {α : Type} : SetupProgram α → Option SetupStep
  | .done _ => none
  | .step first _ => some first

namespace CallPhase

variable {suite : CipherSuite} {identity : AccessoryIdentity} {machine : PairSetup}
  {shared after : SetupShared} {phase next : CallPhase}

/-! ## Steps -/

/-- The next step of a phase. -/
def step? (machine : PairSetup) : CallPhase → Option SetupStep
  | looking => some .isPaired
  | counting => some .failed
  | claiming => some (.claim machine.conn)
  | salting => some (.draw 16)
  | drawing _ => some (.draw 32)
  | recording => some .recordFailure
  | adding _ controller => some (.add controller)
  | releasing .. => some (.release machine.conn)
  | answering .. => none

@[simp] theorem next?_program (suite : CipherSuite) (identity : AccessoryIdentity)
    (machine : PairSetup) (phase : CallPhase) :
    (program suite identity machine phase).next? = phase.step? machine := by
  cases phase <;> rw [program] <;> rfl

/-- Only the last phase gives the answer. -/
theorem eq_answering_of_program {answer : Bytes} {result : PairSetup}
    (h : program suite identity machine phase = .done (answer, result)) :
    ∃ stage, phase = answering answer stage := by
  have hstep : phase.step? machine = none := by
    rw [← next?_program suite identity, h]
    rfl
  cases phase with
  | answering found stage =>
    rw [program] at h
    cases h
    exact ⟨stage, rfl⟩
  | looking => cases hstep
  | counting => cases hstep
  | claiming => cases hstep
  | salting => cases hstep
  | drawing salt => cases hstep
  | recording => cases hstep
  | adding key controller => cases hstep
  | releasing answer success => cases hstep

/-- The phase that the next step leads to, and what is shared then. -/
inductive Step (suite : CipherSuite) (identity : AccessoryIdentity) (machine : PairSetup)
    (shared : SetupShared) : CallPhase → CallPhase → SetupShared → Prop
  | lookedPaired (hpaired : shared.store.isPaired = true) :
    Step suite identity machine shared looking (failing machine 2 (.pairing .unavailable)) shared
  | lookedActive (hactive : machine.isActive = true) :
    Step suite identity machine shared looking (failing machine 2 (.pairing .busy)) shared
  | looked (hunpaired : shared.store.isPaired = false) (hidle : machine.isActive = false) :
    Step suite identity machine shared looking counting shared
  | countedAll (hfailed : SetupAttempts.maxFailed ≤ shared.attempts.failed) :
    Step suite identity machine shared counting (failing machine 2 (.pairing .maxTries)) shared
  | counted (hfailed : shared.attempts.failed < SetupAttempts.maxFailed) :
    Step suite identity machine shared counting claiming shared
  | notClaimed (htaken : (shared.attempts.claim machine.conn).1 = false) :
    Step suite identity machine shared claiming (failing machine 2 (.pairing .busy)) shared
  | claimed (hfree : (shared.attempts.claim machine.conn).1 = true) :
    Step suite identity machine shared claiming salting
      { shared with attempts := { shared.attempts with owner := some machine.conn } }
  | salted :
    Step suite identity machine shared salting (drawing (shared.random.draw 16).1)
      { shared with random := (shared.random.draw 16).2 }
  | drawn (salt : Octets 16) :
    Step suite identity machine shared (drawing salt)
      (answering (answerM2 (server suite machine salt (shared.random.draw 32).1)).encode
        (.awaitingM3 (server suite machine salt (shared.random.draw 32).1)))
      { shared with random := (shared.random.draw 32).2 }
  | recorded :
    Step suite identity machine shared recording
      (failing machine 4 (.pairing .authenticationFailed))
      { shared with attempts := shared.attempts.recordFailure }
  | added {key : Octets 64} {controller : PairedController}
      (hadd : (shared.store.add controller).1 = .ok ()) :
    Step suite identity machine shared (adding key controller)
      (releasing (responseM6 suite identity key).encode true)
      { shared with store := (shared.store.add controller).2 }
  | notAdded {key : Octets 64} {controller : PairedController} {error : Error}
      (hadd : (shared.store.add controller).1 = .error error) :
    Step suite identity machine shared (adding key controller) (failing machine 6 error)
      { shared with store := (shared.store.add controller).2 }
  | released (answer : Bytes) (success : Bool) :
    Step suite identity machine shared (releasing answer success)
      (answering answer (endStage success))
      { shared with attempts := shared.attempts.release machine.conn }

theorem claim_of_not (htaken : (shared.attempts.claim machine.conn).1 = false) :
    (shared.attempts.claim machine.conn).2 = shared.attempts := by
  unfold SetupAttempts.claim at htaken ⊢
  split
  · rfl
  · rename_i hfree
    rw [if_neg hfree] at htaken
    cases htaken

theorem claim_of_given (hfree : (shared.attempts.claim machine.conn).1 = true) :
    (shared.attempts.claim machine.conn).2 =
      { shared.attempts with owner := some machine.conn } := by
  unfold SetupAttempts.claim at hfree ⊢
  split
  · rename_i htaken
    rw [if_pos htaken] at hfree
    cases hfree
  · rfl

/-- The program of a phase gives its answer, or its next step leads to the program of a phase that
follows. -/
theorem program_step (suite : CipherSuite) (identity : AccessoryIdentity) (machine : PairSetup)
    (phase : CallPhase) (shared : SetupShared) :
    (∃ answer stage, phase = answering answer stage) ∨
    ∃ step rest next, phase.step? machine = some step ∧
      program suite identity machine phase = .step step rest ∧
      rest (step.take shared).1 = program suite identity machine next ∧
      Step suite identity machine shared phase next (step.take shared).2 := by
  cases phase with
  | answering answer stage => exact .inl ⟨answer, stage, rfl⟩
  | looking =>
    refine .inr ⟨.isPaired, _, looked machine shared.store.isPaired, rfl, by rw [program], rfl, ?_⟩
    unfold looked
    cases hpaired : shared.store.isPaired with
    | true => exact .lookedPaired hpaired
    | false =>
      cases hactive : machine.isActive with
      | true => exact .lookedActive hactive
      | false => exact .looked hpaired hactive
  | counting =>
    refine .inr ⟨.failed, _, counted machine shared.attempts.failed, rfl, by rw [program], rfl, ?_⟩
    unfold counted
    split
    · rename_i hfailed
      exact .countedAll hfailed
    · rename_i hfailed
      exact .counted (Nat.lt_of_not_le hfailed)
  | claiming =>
    refine .inr ⟨.claim machine.conn, _, claimed machine (shared.attempts.claim machine.conn).1,
      rfl, by rw [program], rfl, ?_⟩
    show Step suite identity machine shared claiming _
      { shared with attempts := (shared.attempts.claim machine.conn).2 }
    unfold claimed
    cases hgiven : (shared.attempts.claim machine.conn).1 with
    | true =>
      rw [claim_of_given hgiven]
      exact .claimed hgiven
    | false =>
      rw [claim_of_not hgiven]
      exact .notClaimed hgiven
  | salting => exact .inr ⟨.draw 16, _, _, rfl, by rw [program], rfl, .salted⟩
  | drawing salt => exact .inr ⟨.draw 32, _, _, rfl, by rw [program], rfl, .drawn salt⟩
  | recording => exact .inr ⟨.recordFailure, _, _, rfl, by rw [program], rfl, .recorded⟩
  | adding key controller =>
    refine .inr ⟨.add controller, _,
      added suite identity machine key (shared.store.add controller).1, rfl, by rw [program], rfl,
      ?_⟩
    cases hadd : (shared.store.add controller).1 with
    | ok _ => exact .added hadd
    | error error => exact .notAdded hadd
  | releasing answer success =>
    exact .inr ⟨.release machine.conn, _, _, rfl, by rw [program], rfl, .released answer success⟩

/-! ## The slot -/

/-- The exchange of the machine, which holds the slot, is under way. -/
def HoldsSlot (machine : PairSetup) : CallPhase → Prop
  | looking | counting | claiming => machine.isActive = true
  | salting | drawing _ | recording | adding .. => True
  | releasing .. => False
  | answering _ stage => PairSetup.isActive { machine with stage } = true

theorem holdsSlot_failing {number : UInt8} {error : Error}
    (h : (failing machine number error).HoldsSlot machine) : machine.isActive = true := by
  unfold failing at h
  split at h
  · exact h
  · cases h

theorem not_holdsSlot_failing {error : Error} (hbusy : error ≠ .pairing .busy) (number : UInt8) :
    ¬ (failing machine number error).HoldsSlot machine := by
  rw [failing_of_ne hbusy]
  exact id

/-- What a step comes to for the slot, the count of refused proofs and the pairings. -/
inductive Effect (machine : PairSetup) (shared : SetupShared) :
    CallPhase → CallPhase → SetupShared → Prop
  | claims (hfree : (shared.attempts.claim machine.conn).1 = true) :
    Effect machine shared claiming salting
      { shared with attempts := { shared.attempts with owner := some machine.conn } }
  | records {next : CallPhase} (hends : ¬ next.HoldsSlot machine) :
    Effect machine shared recording next
      { shared with attempts := shared.attempts.recordFailure }
  | stores {next : CallPhase} {key : Octets 64} {controller : PairedController}
      (hends : ¬ next.HoldsSlot machine) (hadd : (shared.store.add controller).1 = .ok ()) :
    Effect machine shared (adding key controller) next
      { shared with store := (shared.store.add controller).2 }
  | releases {phase next : CallPhase} (hends : ¬ next.HoldsSlot machine)
      (hstep : phase.step? machine ≠ some .recordFailure) :
    Effect machine shared phase next
      { shared with attempts := shared.attempts.release machine.conn }
  | keeps {phase next : CallPhase} {after : SetupShared}
      (hslot : next.HoldsSlot machine → phase.HoldsSlot machine)
      (hstep : phase.step? machine ≠ some .recordFailure)
      (hpaired : after.store.isPaired = shared.store.isPaired)
      (hattempts : after.attempts = shared.attempts) :
    Effect machine shared phase next after

theorem isPaired_add_of_error {store : IdentityStore} {controller : PairedController}
    {error : Error} (hadd : (store.add controller).1 = .error error) :
    (store.add controller).2.isPaired = store.isPaired := by
  rcases store.add_cases controller with ⟨hok, -⟩ | ⟨-, hcontrollers, -⟩
  · rw [hadd] at hok
    cases hok
  · rw [IdentityStore.isPaired, hcontrollers, IdentityStore.isPaired]

theorem Step.effect (h : Step suite identity machine shared phase next after) :
    Effect machine shared phase next after := by
  cases h with
  | lookedPaired hpaired => exact .keeps holdsSlot_failing nofun rfl rfl
  | lookedActive hactive => exact .keeps (fun _ => hactive) nofun rfl rfl
  | looked hunpaired hidle => exact .keeps id nofun rfl rfl
  | countedAll hfailed => exact .keeps holdsSlot_failing nofun rfl rfl
  | counted hfailed => exact .keeps id nofun rfl rfl
  | notClaimed htaken => exact .keeps holdsSlot_failing nofun rfl rfl
  | claimed hfree => exact .claims hfree
  | salted => exact .keeps id nofun rfl rfl
  | drawn salt => exact .keeps (fun _ => trivial) nofun rfl rfl
  | recorded => exact .records (not_holdsSlot_failing (by simp) 4)
  | added hadd => exact .stores id hadd
  | notAdded hadd => exact .keeps (fun _ => trivial) nofun (isPaired_add_of_error hadd) rfl
  | released answer success =>
    refine .releases (fun hactive => ?_) nofun
    rw [HoldsSlot, isActive_endStage] at hactive
    cases hactive

theorem step?_failing (machine : PairSetup) (number : UInt8) (error : Error) :
    (failing machine number error).step? machine = none ∨
      (failing machine number error).step? machine = some (.release machine.conn) := by
  unfold failing
  split
  · exact .inl rfl
  · exact .inr rfl

/-- What can come after a step. A call comes to the count after it found no controller paired, and
to the slot after it found the count below the limit. -/
inductive Follows (machine : PairSetup) (shared : SetupShared) (phase : CallPhase)
    (after : SetupShared) : Option SetupStep → Prop
  | nothing : Follows machine shared phase after none
  | release : Follows machine shared phase after (some (.release machine.conn))
  | draw (n : Nat) : Follows machine shared phase after (some (.draw n))
  | failed (hshared : after = shared) (hunpaired : shared.store.isPaired = false) :
    Follows machine shared phase after (some .failed)
  | claim (hstep : phase.step? machine = some .failed) (hshared : after = shared)
      (hfailed : shared.attempts.failed < SetupAttempts.maxFailed) :
    Follows machine shared phase after (some (.claim machine.conn))

theorem follows_failing (number : UInt8) (error : Error) :
    Follows machine shared phase after ((failing machine number error).step? machine) := by
  rcases step?_failing machine number error with hstep | hstep
  · rw [hstep]
    exact .nothing
  · rw [hstep]
    exact .release

theorem Step.follows (h : Step suite identity machine shared phase next after) :
    Follows machine shared phase after (next.step? machine) := by
  cases h with
  | lookedPaired hpaired => exact follows_failing ..
  | lookedActive hactive => exact follows_failing ..
  | looked hunpaired hidle => exact .failed rfl hunpaired
  | countedAll hfailed => exact follows_failing ..
  | counted hfailed => exact .claim rfl rfl hfailed
  | notClaimed htaken => exact follows_failing ..
  | claimed hfree => exact .draw 16
  | salted => exact .draw 32
  | drawn salt => exact .nothing
  | recorded => exact follows_failing ..
  | added hadd => exact .release
  | notAdded hadd => exact follows_failing ..
  | released answer success => exact .nothing

/-! ## What a request begins -/

/-- The answer brings a salt. -/
def OffersSalt (answer : Bytes) : Prop :=
  ∃ message salt, Tlv.decode answer = .ok message ∧ message.get? .salt = some salt

theorem not_offersSalt {tlv : Tlv} (hdecode : Tlv.decode tlv.encode = .ok tlv)
    (hnone : tlv.get? .salt = none) : ¬ OffersSalt tlv.encode := by
  rintro ⟨message, salt, hmessage, hsalt⟩
  rw [hdecode] at hmessage
  cases hmessage
  rw [hnone] at hsalt
  cases hsalt

theorem not_offersSalt_error (number : UInt8) (code : TlvErrorCode) :
    ¬ OffersSalt (Tlv.errorResponse number code).encode :=
  not_offersSalt (Tlv.decode_errorResponse number code) rfl

theorem not_offersSalt_answerM4 (verified : Srp.Verified) :
    ¬ OffersSalt (answerM4 verified).encode :=
  not_offersSalt (Tlv.decode_encode_ofList (by simp)) rfl

theorem not_offersSalt_responseM6 (suite : CipherSuite) (identity : AccessoryIdentity)
    (key : Octets 64) : ¬ OffersSalt (responseM6 suite identity key).encode :=
  not_offersSalt (Tlv.decode_encode_ofList (by simp)) rfl

/-- The call answers with a salt, or is about to. -/
def LeadsToSalt : CallPhase → Prop
  | salting | drawing _ => True
  | releasing answer _ | answering answer _ => OffersSalt answer
  | looking | counting | claiming | recording | adding .. => False

theorem not_leadsToSalt_failing (machine : PairSetup) (number : UInt8) (error : Error) :
    ¬ (failing machine number error).LeadsToSalt := by
  unfold failing
  split
  · exact not_offersSalt_error number error.code
  · exact not_offersSalt_error number error.code

/-- Only with the slot does a call come to a salt. -/
theorem Step.leadsToSalt (h : Step suite identity machine shared phase next after)
    (hsalt : next.LeadsToSalt) :
    phase.LeadsToSalt ∨ phase = claiming ∧ (shared.attempts.claim machine.conn).1 = true := by
  cases h with
  | lookedPaired hpaired => exact (not_leadsToSalt_failing _ _ _ hsalt).elim
  | lookedActive hactive => exact (not_leadsToSalt_failing _ _ _ hsalt).elim
  | looked hunpaired hidle => cases hsalt
  | countedAll hfailed => exact (not_leadsToSalt_failing _ _ _ hsalt).elim
  | counted hfailed => cases hsalt
  | notClaimed htaken => exact (not_leadsToSalt_failing _ _ _ hsalt).elim
  | claimed hfree => exact .inr ⟨rfl, hfree⟩
  | salted => exact .inl trivial
  | drawn salt => exact .inl trivial
  | recorded => exact (not_leadsToSalt_failing _ _ _ hsalt).elim
  | added hadd => exact (not_offersSalt_responseM6 _ _ _ hsalt).elim
  | notAdded hadd => exact (not_leadsToSalt_failing _ _ _ hsalt).elim
  | released answer success => exact .inl hsalt

/-- How a call can begin. -/
inductive Begins (suite : CipherSuite) (machine : PairSetup) (request : Bytes) : CallPhase → Prop
  | unreadable (number : UInt8) :
    Begins suite machine request (releasing (Tlv.errorResponse number .unknown).encode false)
  | failed (number : UInt8) (error : Error) :
    Begins suite machine request (failing machine number error)
  | looks : Begins suite machine request looking
  | proved {verified : Srp.Verified} (hactive : machine.isActive = true) :
    Begins suite machine request (answering (answerM4 verified).encode (.awaitingM5 verified.key))
  | refused {error : CryptoError}
      (hcheck : machine.proofCheck? suite request = some (.error error)) :
    Begins suite machine request recording
  | introduces {key : Octets 64} {controller : PairedController}
      (hactive : machine.isActive = true) :
    Begins suite machine request (adding key controller)

theorem ofM3_begins {request : Bytes} {tlv : Tlv} (hdecode : Tlv.decode request = .ok tlv)
    (hstate : tlv.state? = some 3) : Begins suite machine request (ofM3 suite machine tlv) := by
  unfold ofM3
  split
  · rename_i server hstage
    split
    · rename_i publicKey proof hkey hproof
      cases hverify : server.verify suite.hash publicKey proof with
      | ok verified => exact .proved (by rw [PairSetup.isActive, hstage])
      | error error =>
        refine .refused (PairSetup.proofCheck?_eq_some_iff.2
          ⟨tlv, server, hdecode, hstate, hstage, publicKey, proof, ?_, ?_, hverify⟩)
        · exact Tlv.require_eq_ok_iff.1 hkey
        · exact Tlv.require_eq_ok_iff.1 hproof
    · exact .failed ..
    · exact .failed ..
  · exact .failed ..

/-- The number of a message is what it says, or zero. -/
theorem state?_of_getD {tlv : Tlv} {number : UInt8} (hnumber : tlv.state?.getD 0 = number)
    (hne : number ≠ 0) : tlv.state? = some number := by
  cases hstate : tlv.state? with
  | none =>
    rw [hstate] at hnumber
    exact absurd hnumber.symm hne
  | some found =>
    rw [hstate] at hnumber
    exact congrArg some hnumber

theorem ofRequest_begins (suite : CipherSuite) (machine : PairSetup) (request : Bytes) :
    Begins suite machine request (ofRequest suite machine request) := by
  unfold ofRequest
  cases hdecode : Tlv.decode request with
  | error error => exact .unreadable _
  | ok tlv =>
    simp only
    split
    · unfold ofM1
      split
      · exact .looks
      · exact .failed ..
    · split
      · rename_i hnumber
        exact ofM3_begins hdecode (state?_of_getD hnumber (by decide))
      · split
        · unfold ofM5
          split
          · rename_i key hstage
            split
            · exact .introduces (by rw [PairSetup.isActive, hstage])
            · exact .failed ..
          · exact .failed ..
        · exact .failed ..

theorem failing_ne_recording (machine : PairSetup) (number : UInt8) (error : Error) :
    failing machine number error ≠ recording := by
  unfold failing
  split
  · exact nofun
  · exact nofun

/-- A call is to count a refused proof exactly if it checked one. -/
theorem ofRequest_eq_recording_iff {request : Bytes} :
    ofRequest suite machine request = recording ↔
      ∃ error, machine.proofCheck? suite request = some (.error error) := by
  constructor
  · intro hphase
    have hbegins := ofRequest_begins suite machine request
    rw [hphase] at hbegins
    generalize hrecording : recording = phase at hbegins
    cases hbegins with
    | unreadable number => cases hrecording
    | failed number error => exact absurd hrecording.symm (failing_ne_recording _ _ _)
    | looks => cases hrecording
    | proved hactive => cases hrecording
    | @refused error hcheck => exact ⟨error, hcheck⟩
    | introduces hactive => cases hrecording
  · rintro ⟨error, hcheck⟩
    obtain ⟨tlv, server, hdecode, hstate, hstage, publicKey, proof, hkey, hproof, hverify⟩ :=
      PairSetup.proofCheck?_eq_some_iff.1 hcheck
    unfold ofRequest ofM3
    simp [hdecode, hstate, hstage, Tlv.require_eq_ok_iff.2 hkey, Tlv.require_eq_ok_iff.2 hproof,
      hverify]

/-- No exchange begins with a call: the slot is held by the exchange that was under way. -/
theorem Begins.isActive {request : Bytes} (h : Begins suite machine request phase)
    (hslot : phase.HoldsSlot machine) : machine.isActive = true := by
  cases h with
  | unreadable number => cases hslot
  | failed number error => exact holdsSlot_failing hslot
  | looks => exact hslot
  | proved hactive => exact hactive
  | refused hcheck => exact PairSetup.isActive_of_proofCheck? hcheck
  | introduces hactive => exact hactive

theorem Begins.not_leadsToSalt {request : Bytes} (h : Begins suite machine request phase) :
    ¬ phase.LeadsToSalt := by
  cases h with
  | unreadable number => exact not_offersSalt_error number .unknown
  | failed number error => exact not_leadsToSalt_failing _ _ _
  | looks => exact id
  | proved hactive => exact not_offersSalt_answerM4 _
  | refused hcheck => exact id
  | introduces hactive => exact id

/-- No call begins with the count or the slot. -/
theorem Begins.step?_ne {request : Bytes} (h : Begins suite machine request phase) :
    phase.step? machine ≠ some .failed ∧ phase.step? machine ≠ some (.claim machine.conn) := by
  cases h with
  | unreadable number => exact ⟨nofun, nofun⟩
  | failed number error =>
    rcases step?_failing machine number error with hstep | hstep
    · rw [hstep]
      exact ⟨nofun, nofun⟩
    · rw [hstep]
      exact ⟨nofun, nofun⟩
  | looks => exact ⟨nofun, nofun⟩
  | proved hactive => exact ⟨nofun, nofun⟩
  | refused hcheck => exact ⟨nofun, nofun⟩
  | introduces hactive => exact ⟨nofun, nofun⟩

end CallPhase

end HomeKit
