import HomeKit.Proofs.Pairing.SetupAdmission
import HomeKit.Proofs.Pairing.SetupSound

/-!
# What the checks of an M1 are worth

In a run in which no M1 that takes the slot was overtaken, the checks of M1 hold as long as an
exchange lasts, so no controller is stored beside another and no more proofs are checked than the
limit allows (`ConcurrentSetup.admitted_iff_not_overtaken`). But an M1 can be overtaken, and then a
second controller is stored (`ConcurrentSetup.overtaken_stores_beside`).
-/

namespace HomeKit.ConcurrentSetup

variable {suite : CipherSuite} {system start : ConcurrentSetup} {conn other : ConnectionId}
  {next : SetupTurn} {turns : List SetupTurn}

/-! ## In a run without overtaking -/

/-- While an exchange is under way, an M1 would be admitted but for the exchange. -/
def Admitted (system : ConcurrentSetup) : Prop :=
  ∀ conn, system.InExchange conn → system.Admits

/-- Whoever is in an exchange after a turn was so before, or has just taken the slot. -/
theorem Effect.inExchange {after : ConcurrentSetup} (h : Effect system next after)
    (hexchange : after.InExchange next.conn) :
    system.InExchange next.conn ∨ ∃ conn, next = .advance conn ∧ system.Claims conn := by
  cases h with
  | @claims conn hnext hclaims hshared => exact .inr ⟨conn, hnext, hclaims⟩
  | records hnext hstep hbefore hends hshared => exact .inl (hnext ▸ hbefore)
  | stores hnext hstep hadd hbefore hends hshared => exact .inl (hnext ▸ hbefore)
  | releases hends hshared => exact absurd hexchange hends
  | keeps hkeeps hpaired hattempts => exact .inl (hkeeps hexchange)

theorem Move.admitted {after : ConcurrentSetup} (hmove : Move suite system next after)
    (h : Orderly suite system) (hadmitted : system.Admitted)
    (hclaims : ∀ conn, next = .advance conn → system.Claims conn → system.Admits) :
    after.Admitted := by
  intro conn hexchange
  have heffect := hmove.effect h.conn_eq
  -- The exchange that stores or counts is the only one, and it ends.
  have honly : ∀ stepping, next = .advance stepping → system.InExchange stepping →
      ¬ after.InExchange stepping → False := by
    intro stepping hnext hbefore hends
    by_cases hconn : conn = stepping
    · rw [hconn] at hexchange
      exact hends hexchange
    · have hne : conn ≠ next.conn := by
        rw [hnext]
        exact hconn
      have howner := h.owner_eq conn ((inExchange_congr (hmove.elsewhere hne)).1 hexchange)
      rw [h.owner_eq stepping hbefore] at howner
      exact hconn (Option.some.inj howner).symm
  have hbefore : system.Admits := by
    by_cases hconn : conn = next.conn
    · rw [hconn] at hexchange
      rcases heffect.inExchange hexchange with hbefore | ⟨claimant, hnext, hclaim⟩
      · exact hadmitted _ hbefore
      · exact hclaims claimant hnext hclaim
    · exact hadmitted conn ((inExchange_congr (hmove.elsewhere hconn)).1 hexchange)
  obtain ⟨hunpaired, hfailed⟩ := hbefore
  cases heffect with
  | claims hnext hclaim hshared =>
    rw [Admits, hshared]
    exact ⟨hunpaired, hfailed⟩
  | records hnext hstep hbefore hends hshared => exact (honly _ hnext hbefore hends).elim
  | stores hnext hstep hadd hbefore hends hshared => exact (honly _ hnext hbefore hends).elim
  | releases hends hshared =>
    rw [Admits, hshared]
    exact ⟨hunpaired, (SetupSystem.release_failed ..).trans_lt hfailed⟩
  | keeps hkeeps hpaired hattempts =>
    rw [Admits, hpaired, hattempts]
    exact ⟨hunpaired, hfailed⟩

/-! ## How many proofs are checked -/

section Counting

variable (suite)

/-- A call begins that checks a proof, and the proof is refused. -/
def refuses (system : ConcurrentSetup) : SetupTurn → Bool
  | .request conn body =>
    (system.calls conn).isNone &&
      match (system.machines conn).proofCheck? suite body with
      | some (.error _) => true
      | _ => false
  | .advance _ | .drop _ => false

/-- The proofs that are checked and refused in a run. -/
def refusals (system : ConcurrentSetup) : List SetupTurn → Nat
  | [] => 0
  | next :: rest =>
    (system.refuses suite next).toNat + refusals (system.turn suite next) rest

end Counting

theorem refusals_concat (suite : CipherSuite) (system : ConcurrentSetup) (turns : List SetupTurn)
    (last : SetupTurn) :
    system.refusals suite (turns ++ [last]) =
      system.refusals suite turns + ((system.run suite turns).refuses suite last).toNat := by
  induction turns generalizing system with
  | nil => exact Nat.add_comm ..
  | cons next rest ih =>
    rw [List.cons_append, refusals, refusals, ih, Nat.add_assoc]
    rfl

/-- A refused proof is to be counted by the call that checked it. -/
def IsRecording (system : ConcurrentSetup) (conn : ConnectionId) : Prop :=
  system.next? conn = some .recordFailure

theorem refuses_request_iff {body : Bytes} (hidle : system.calls conn = none) :
    system.refuses suite (.request conn body) = true ↔
      CallPhase.ofRequest suite (system.machines conn) body = .recording := by
  rw [CallPhase.ofRequest_eq_recording_iff, refuses, hidle]
  simp only [Option.isNone_none, Bool.true_and]
  split
  · rename_i error hcheck
    exact iff_of_true rfl ⟨error, hcheck⟩
  · rename_i hother
    refine iff_of_false nofun ?_
    rintro ⟨error, hcheck⟩
    exact hother error hcheck

/-- Refused proofs are counted, but for one that is about to be, and within the limit. -/
structure Counted (system : ConcurrentSetup) (count : Nat) : Prop where
  recording : ∀ conn, system.IsRecording conn → count = system.shared.attempts.failed + 1
  settled : (∀ conn, ¬ system.IsRecording conn) → count = system.shared.attempts.failed
  failed_le : system.shared.attempts.failed ≤ SetupAttempts.maxFailed

theorem Counted.congr {after : ConcurrentSetup} {count : Nat} (h : system.Counted count)
    (hrecording : ∀ conn, after.IsRecording conn ↔ system.IsRecording conn)
    (hfailed : after.shared.attempts.failed = system.shared.attempts.failed) :
    after.Counted count := by
  refine ⟨fun conn hconn => ?_, fun hnone => ?_, hfailed.trans_le h.failed_le⟩
  · rw [hfailed]
    exact h.recording conn ((hrecording conn).1 hconn)
  · rw [hfailed]
    exact h.settled fun conn hconn => hnone conn ((hrecording conn).2 hconn)

theorem IsRecording.inExchange (h : system.IsRecording conn) : system.InExchange conn := by
  unfold IsRecording next? at h
  obtain ⟨call, hcall, hstep⟩ := Option.bind_eq_some_iff.1 h
  rw [InExchange, hcall]
  cases call with
  | done result => cases hstep
  | step step rest =>
    cases hstep
    trivial

theorem InExchange.eq (h : Orderly suite system) (hconn : system.InExchange conn)
    (hother : system.InExchange other) : conn = other := by
  have howner := h.owner_eq conn hconn
  rw [h.owner_eq other hother] at howner
  exact (Option.some.inj howner).symm

theorem isRecording_congr {after : ConcurrentSetup} (hmove : Move suite system next after)
    (hself : after.IsRecording next.conn ↔ system.IsRecording next.conn) (conn : ConnectionId) :
    after.IsRecording conn ↔ system.IsRecording conn := by
  by_cases hconn : conn = next.conn
  · rw [hconn]
    exact hself
  · unfold IsRecording
    rw [next?_congr (hmove.elsewhere hconn)]

theorem eq_recording_of_step? {machine : PairSetup} {phase : CallPhase}
    (h : phase.step? machine = some .recordFailure) : phase = .recording := by
  cases phase with
  | recording => rfl
  | looking => cases h
  | counting => cases h
  | claiming => cases h
  | salting => cases h
  | drawing salt => cases h
  | adding key controller => cases h
  | releasing answer success => cases h
  | answering answer stage => cases h

/-- A call that begins by counting a refused proof is the only one that counts. -/
theorem Counted.begun {count : Nat} (hcounted : system.Counted count) (h : Orderly suite system)
    {body : Bytes} {identity : AccessoryIdentity} (hidle : system.calls conn = none) :
    (system.withCall conn system.shared
      ((CallPhase.ofRequest suite (system.machines conn) body).program suite identity
        (system.machines conn))).Counted
      (count + (system.refuses suite (.request conn body)).toNat) := by
  have hnone : ¬ system.IsRecording conn := by
    unfold IsRecording next?
    rw [hidle]
    exact nofun
  by_cases hphase : CallPhase.ofRequest suite (system.machines conn) body = .recording
  · have hexchange : system.InExchange conn := by
      refine (inExchange_of_idle hidle).2 ?_
      refine (CallPhase.ofRequest_begins suite (system.machines conn) body).isActive ?_
      rw [hphase]
      trivial
    have hbefore := hcounted.settled fun other hother =>
      hnone (hother.inExchange.eq h hexchange ▸ hother)
    rw [(refuses_request_iff hidle).2 hphase, hphase]
    refine ⟨fun other hother => ?_, fun hsettled => ?_, hcounted.failed_le⟩
    · rw [hbefore]
      rfl
    · exact absurd (next?_withCall ..) (hsettled conn)
  · have hrefuses : system.refuses suite (.request conn body) = false :=
      Bool.eq_false_iff.2 ((refuses_request_iff hidle).not.2 hphase)
    rw [hrefuses]
    refine hcounted.congr (isRecording_congr (.begun identity hidle) (iff_of_false ?_ hnone)) rfl
    intro hrecording
    unfold IsRecording at hrecording
    rw [SetupTurn.conn, next?_withCall] at hrecording
    exact hphase (eq_recording_of_step? hrecording)

/-- A step counts a refused proof, or leaves open what was open. -/
theorem Counted.stepped {count : Nat} (hcounted : system.Counted count) (h : Orderly suite system)
    (hadmitted : system.Admitted) {identity : AccessoryIdentity} {phase after : CallPhase}
    {shared : SetupShared} (hphase : InPhase suite system conn identity phase)
    (hstep : CallPhase.Step suite identity (system.machines conn) system.shared phase after
      shared) :
    (system.withCall conn shared
      (after.program suite identity (system.machines conn))).Counted count := by
  have hmove := Move.stepped hphase hstep
  have hends : ¬ (system.withCall conn shared
      (after.program suite identity (system.machines conn))).IsRecording conn := by
    have hfollows := hstep.follows
    unfold IsRecording
    rw [next?_withCall]
    generalize after.step? (system.machines conn) = step at hfollows
    cases hfollows with
    | nothing => simp
    | release => simp
    | draw n => simp
    | failed hshared hunpaired => simp
    | claim hcounting hshared hfailed => simp
  have hquiet : phase.step? (system.machines conn) ≠ some .recordFailure →
      shared.attempts.failed = system.shared.attempts.failed →
      (system.withCall conn shared
        (after.program suite identity (system.machines conn))).Counted count := by
    intro hne hfailed
    refine hcounted.congr (isRecording_congr hmove (iff_of_false hends ?_)) hfailed
    unfold IsRecording
    rw [SetupTurn.conn, hphase.next?]
    exact hne
  cases hstep.effect with
  | claims hfree => exact hquiet (by simp [CallPhase.step?]) rfl
  | records hnot =>
    have hrecording : system.IsRecording conn := hphase.next?
    have hbelow := (hadmitted conn hrecording.inExchange).2
    have hcount := hcounted.recording conn hrecording
    have hlimit : SetupAttempts.maxFailed < SetupAttempts.failedLimit := by decide
    have hnobody : ∀ other, ¬ (system.withCall conn
        { system.shared with attempts := system.shared.attempts.recordFailure }
        (after.program suite identity (system.machines conn))).IsRecording other := by
      intro other hother
      by_cases hconn : other = conn
      · exact hends (hconn ▸ hother)
      · unfold IsRecording at hother
        rw [next?_congr (hmove.elsewhere hconn)] at hother
        exact hconn (IsRecording.inExchange hother |>.eq h hrecording.inExchange)
    have hgrown : min (system.shared.attempts.failed + 1) SetupAttempts.failedLimit =
        system.shared.attempts.failed + 1 := by omega
    refine ⟨fun other hother => absurd hother (hnobody other), fun _ => ?_, ?_⟩
    · exact hcount.trans hgrown.symm
    · exact hgrown.trans_le hbelow
  | stores hnot hadd => exact hquiet (by simp [CallPhase.step?]) rfl
  | releases hnot hne => exact hquiet hne (SetupSystem.release_failed ..)
  | keeps hkeeps hne hpaired hattempts => exact hquiet hne (congrArg _ hattempts)

theorem Move.counted {after : ConcurrentSetup} (hmove : Move suite system next after)
    (h : Orderly suite system) (hadmitted : system.Admitted) {count : Nat}
    (hcounted : system.Counted count) :
    after.Counted (count + (system.refuses suite next).toNat) := by
  cases hmove with
  | void hvoid =>
    have hrefuses : system.refuses suite next = false := by
      cases next with
      | request conn body =>
        obtain ⟨call, hcall⟩ := Option.isSome_iff_exists.1 (hvoid conn body rfl)
        rw [refuses, hcall]
        rfl
      | advance conn => rfl
      | drop conn => rfl
    rw [hrefuses]
    exact hcounted
  | begun identity hidle => exact hcounted.begun h hidle
  | dropped hidle => exact hcounted.congr (fun _ => Iff.rfl) (SetupSystem.release_failed ..)
  | @ended conn identity answer stage hphase =>
    refine hcounted.congr (isRecording_congr (.ended hphase) ?_) rfl
    unfold IsRecording
    rw [SetupTurn.conn, hphase.next?, ConcurrentSetup.next?, withStage]
    simp [CallPhase.step?]
  | stepped hphase hstep => exact hcounted.stepped h hadmitted hphase hstep

theorem Counted.le {count : Nat} (h : system.Counted count) (hadmitted : system.Admitted) :
    count ≤ SetupAttempts.maxFailed := by
  by_cases hrecording : ∃ conn, system.IsRecording conn
  · obtain ⟨conn, hconn⟩ := hrecording
    rw [h.recording conn hconn]
    exact (hadmitted conn hconn.inExchange).2
  · rw [h.settled (not_exists.1 hrecording)]
    exact h.failed_le

/-! ## Who is answered with a salt -/

theorem InPhase.congr {after : ConcurrentSetup} {identity : AccessoryIdentity} {phase : CallPhase}
    (hphase : InPhase suite system conn identity phase)
    (h : after.machines conn = system.machines conn ∧ after.calls conn = system.calls conn) :
    InPhase suite after conn identity phase := by
  rw [InPhase, h.1, h.2]
  exact hphase

/-- Each call that comes to a salt took the slot. -/
def SaltsClaimed (suite : CipherSuite) (start : ConcurrentSetup) (turns : List SetupTurn) : Prop :=
  ∀ conn, ((start.run suite turns).calls conn).isSome = true →
    ∃ identity phase, InPhase suite (start.run suite turns) conn identity phase ∧
      (phase.LeadsToSalt → HasClaimed suite start turns conn)

/-- Where the call of the connection stays as it is, so does what brought it there. -/
theorem SaltsClaimed.stays (h : SaltsClaimed suite start turns)
    (hcall : ((start.run suite (turns ++ [next])).calls conn).isSome = true)
    (hsame : (start.run suite (turns ++ [next])).machines conn =
        (start.run suite turns).machines conn ∧
      (start.run suite (turns ++ [next])).calls conn = (start.run suite turns).calls conn) :
    ∃ identity phase, InPhase suite (start.run suite (turns ++ [next])) conn identity phase ∧
      (phase.LeadsToSalt → HasClaimed suite start (turns ++ [next]) conn) := by
  obtain ⟨identity, phase, hphase, hclaimed⟩ := h conn (hsame.2 ▸ hcall)
  exact ⟨identity, phase, hphase.congr hsame, fun hsalt => (hclaimed hsalt).later hcall⟩

/-- The call of a connection that takes its next step. -/
theorem SaltsClaimed.advance (h : SaltsClaimed suite start turns)
    (hconn : ∀ conn, ((start.run suite turns).machines conn).conn = conn)
    (hcall : ((start.run suite (turns ++ [.advance conn])).calls conn).isSome = true) :
    ∃ identity phase,
      InPhase suite (start.run suite (turns ++ [.advance conn])) conn identity phase ∧
      (phase.LeadsToSalt → HasClaimed suite start (turns ++ [.advance conn]) conn) := by
  cases hbefore : (start.run suite turns).calls conn with
  | none =>
    rw [run_concat, turn, hbefore, hbefore] at hcall
    cases hcall
  | some call =>
    obtain ⟨identity, phase, hphase, hclaimed⟩ := h conn (by rw [hbefore]; rfl)
    rcases turn_advance hphase with ⟨answer, stage, rfl, hturn⟩ | ⟨after, shared, hstep, hturn⟩
    · simp only [run_concat, hturn, withStage, Function.update_self] at hcall
      cases hcall
    · refine ⟨identity, after, ?_, fun hsalt => ?_⟩
      · rw [run_concat, hturn]
        exact inPhase_withCall ..
      · rcases hstep.leadsToSalt hsalt with hsalt | ⟨rfl, hfree⟩
        · exact (hclaimed hsalt).later hcall
        · have hclaiming := hphase.next?
          rw [CallPhase.step?, hconn] at hclaiming
          rw [hconn] at hfree
          exact .now ⟨rfl, hclaiming, hfree⟩ hcall

theorem run_saltsClaimed (suite : CipherSuite) (h : Orderly suite start)
    (hidle : ∀ conn, start.calls conn = none) (turns : List SetupTurn) :
    SaltsClaimed suite start turns := by
  induction turns using List.reverseRecOn with
  | nil =>
    intro conn hcall
    rw [show start.run suite [] = start from rfl, hidle conn] at hcall
    cases hcall
  | append_singleton turns next ih =>
    have horderly := run_orderly suite h turns
    intro conn hcall
    by_cases hconn : conn = next.conn
    · subst hconn
      cases next with
      | advance conn => exact ih.advance horderly.conn_eq hcall
      | request conn body =>
        cases hbefore : (start.run suite turns).calls conn with
        | some call =>
          refine ih.stays hcall ?_
          rw [run_concat, turn, SetupTurn.conn, hbefore]
          exact ⟨rfl, hbefore⟩
        | none =>
          have hbegins :=
            CallPhase.ofRequest_begins suite ((start.run suite turns).machines conn) body
          refine ⟨(start.run suite turns).shared.store.identity, _, ?_,
            fun hsalt => absurd hsalt hbegins.not_leadsToSalt⟩
          rw [run_concat, turn, SetupTurn.conn, hbefore]
          simp only
          rw [PairSetup.handle_eq_program]
          exact inPhase_withCall ..
      | drop conn =>
        cases hbefore : (start.run suite turns).calls conn with
        | some call =>
          refine ih.stays hcall ?_
          rw [run_concat, turn, SetupTurn.conn, hbefore]
          exact ⟨rfl, hbefore⟩
        | none =>
          rw [run_concat, turn, SetupTurn.conn, hbefore] at hcall
          simp only [hbefore] at hcall
          cases hcall
    · refine ih.stays hcall ?_
      rw [run_concat]
      exact (turn_move horderly.inPhases next).elsewhere hconn

/-! ## What the checks of M1 are worth -/

/-- No M1 that takes the slot in the run was overtaken. -/
def NoneOvertaken (suite : CipherSuite) (start : ConcurrentSetup) (turns : List SetupTurn) : Prop :=
  ∀ before conn, before ++ [.advance conn] <+: turns → (start.run suite before).Claims conn →
    ¬ Overtaken suite start before conn

theorem NoneOvertaken.of_isPrefix {before : List SetupTurn} (h : NoneOvertaken suite start turns)
    (hinitial : before <+: turns) : NoneOvertaken suite start before :=
  fun earlier conn hearlier => h earlier conn (hearlier.trans hinitial)

/-- In a run without overtaking, every exchange stays admitted and every refused proof is
counted. -/
theorem run_admitted (suite : CipherSuite) (setupCode : SetupCode) (store : IdentityStore)
    (random : Entropy) {turns : List SetupTurn}
    (h : NoneOvertaken suite (fresh setupCode store random) turns) :
    ((fresh setupCode store random).run suite turns).Admitted ∧
      ((fresh setupCode store random).run suite turns).Counted
        ((fresh setupCode store random).refusals suite turns) := by
  induction turns using List.reverseRecOn with
  | nil => exact ⟨nofun, nofun, fun _ => rfl, Nat.zero_le _⟩
  | append_singleton turns next ih =>
    obtain ⟨hadmitted, hcounted⟩ := ih (h.of_isPrefix (List.prefix_append ..))
    have horderly := run_orderly suite (fresh_orderly suite setupCode store random) turns
    have hmove := turn_move horderly.inPhases next
    rw [run_concat, refusals_concat]
    refine ⟨hmove.admitted horderly hadmitted ?_, hmove.counted horderly hadmitted hcounted⟩
    rintro conn rfl hclaims
    exact (claims_admits_iff suite setupCode store random turns conn hclaims).2
      (h turns conn (List.prefix_refl _) hclaims)

theorem Stores.inExchange (h : system.Stores conn) : system.InExchange conn := by
  obtain ⟨controller, hstep, -⟩ := h
  obtain ⟨call, hcall, hnext⟩ := Option.bind_eq_some_iff.1 hstep
  rw [InExchange, hcall]
  cases call with
  | done result => cases hnext
  | step step rest =>
    cases hnext
    trivial

/-- However the steps of the calls are interleaved: an M1 is answered with a salt only if its call
took the slot; when a call takes the slot, no controller is paired and fewer than 100 proofs were
refused exactly if no other call stored a controller or counted the last refusal since the M1
looked; and as long as no M1 that takes the slot was overtaken like that, no controller is stored
beside another and at most 100 proofs are checked and refused. -/
theorem admitted_iff_not_overtaken (suite : CipherSuite) (setupCode : SetupCode)
    (store : IdentityStore) (random : Entropy) (turns : List SetupTurn) :
    let start := fresh setupCode store random
    let system := start.run suite turns
    (∀ conn answer machine, system.calls conn = some (.done (answer, machine)) →
      CallPhase.OffersSalt answer → HasClaimed suite start turns conn) ∧
    (∀ conn, system.Claims conn →
      (system.Admits ↔ ¬ Overtaken suite start turns conn)) ∧
    (NoneOvertaken suite start turns →
      (∀ before conn, before ++ [.advance conn] <+: turns → (start.run suite before).Stores conn →
        (start.run suite before).shared.store.isPaired = false) ∧
      start.refusals suite turns ≤ 100) := by
  intro start system
  have hfresh := fresh_orderly suite setupCode store random
  refine ⟨fun conn answer machine hcall hsalt => ?_, fun conn hclaims => ?_, fun hnone => ⟨?_, ?_⟩⟩
  · obtain ⟨identity, phase, hphase, hclaimed⟩ :=
      run_saltsClaimed suite hfresh (fun _ => rfl) turns conn (by rw [hcall]; rfl)
    rw [InPhase, hcall, Option.some.injEq] at hphase
    obtain ⟨stage, rfl⟩ := CallPhase.eq_answering_of_program hphase.symm
    exact hclaimed hsalt
  · exact claims_admits_iff suite setupCode store random turns conn hclaims
  · intro before conn hbefore hstores
    have hinitial := (List.prefix_append before [.advance conn]).trans hbefore
    exact ((run_admitted suite setupCode store random (hnone.of_isPrefix hinitial)).1 conn
      hstores.inExchange).1
  · obtain ⟨hadmitted, hcounted⟩ := run_admitted suite setupCode store random hnone
    exact hcounted.le hadmitted

/-! ## A run without overtaking -/

/-- As long as an M1 would still be admitted, none that took the slot was overtaken. -/
theorem noneOvertaken_of_admits (suite : CipherSuite) (setupCode : SetupCode)
    (store : IdentityStore) (random : Entropy) {turns : List SetupTurn} (next : SetupTurn)
    (hadmits : ((fresh setupCode store random).run suite turns).Admits) :
    NoneOvertaken suite (fresh setupCode store random) (turns ++ [next]) := by
  intro before conn hbefore hclaims
  refine (claims_admits_iff suite setupCode store random before conn hclaims).1 ?_
  obtain ⟨later, rfl⟩ : before <+: turns := by
    rcases List.prefix_concat_iff.1 hbefore with hall | hearlier
    · exact (List.append_inj' hall rfl).1 ▸ List.prefix_refl _
    · exact (List.prefix_append ..).trans hearlier
  rw [run_append] at hadmits
  exact run_admits (run_orderly suite (fresh_orderly suite setupCode store random) before) hadmits

/-- The connection calls its machine, and the call takes a number of steps. -/
def call (conn : ConnectionId) (body : Bytes) (count : Nat) : List SetupTurn :=
  .request conn body :: List.replicate count (.advance conn)

/-- An M3 with the proof that every exchange of the transparent suite expects. -/
def onesM3 : Bytes :=
  (Tlv.ofList [(.state, [3]), (.publicKey, [1]), (.proof, List.replicate 64 1)]).encode

/-- Connection 1 is about to take the slot, and connection 2 has looked whether a controller is
paired. -/
def claimingTurns : List SetupTurn :=
  call 2 Tlv.pairSetupM1.encode 1 ++ call 1 Tlv.pairSetupM1.encode 2

/-- Connection 1 takes the slot, connection 2 finds it taken, and connection 1 comes to M5. -/
def storingTurns : List SetupTurn :=
  claimingTurns ++ [.advance 1] ++
    (List.replicate 3 (.advance 1) ++ List.replicate 3 (.advance 2) ++ call 1 onesM3 1 ++
      [.request 1 SetupSystem.sevensM5])

/-- The controller of the M5. -/
def sevens : PairedController where
  id := "c"
  publicKey := .replicate 32 7
  permissions := .admin

deriving instance DecidableEq for SetupStep

/-- Both connections have looked before one of them takes the slot, and it stores its controller
beside no other. -/
theorem admitted_iff_not_overtaken_stored :
    let start := fresh .default .unpaired (.constant 7)
    let claiming := start.run .transparent claimingTurns
    let storing := start.run .transparent storingTurns
    let turns := storingTurns ++ [.advance 1]
    NoneOvertaken .transparent start turns ∧
      claiming.Claims 1 ∧ claiming.Admits ∧
      storing.Stores 1 ∧ storing.shared.store.isPaired = false ∧
      (start.run .transparent turns).shared.store.controllerList = [sevens] ∧
      start.refusals .transparent turns ≤ 100 := by
  intro start claiming storing turns
  have hnext : claiming.next? 1 = some (.claim 1) := by decide +kernel
  have hfree : (claiming.shared.attempts.claim 1).1 = true := by decide +kernel
  have hadd : storing.next? 1 = some (.add sevens) := by decide +kernel
  have hadded : (storing.shared.store.add sevens).1 = .ok () := by decide +kernel
  have hstores : storing.Stores 1 := ⟨sevens, hadd, hadded⟩
  have hnone : NoneOvertaken .transparent start turns :=
    noneOvertaken_of_admits .transparent .default .unpaired (.constant 7) (.advance 1)
      ⟨by decide +kernel, by decide +kernel⟩
  have hclaiming : claimingTurns ++ [.advance 1] <+: turns :=
    (List.prefix_append ..).trans (List.prefix_append ..)
  have hlist : (start.run .transparent turns).shared.store.controllerList = [sevens] := by
    decide +kernel
  obtain ⟨-, hadmits, -⟩ := admitted_iff_not_overtaken .transparent .default .unpaired
    (.constant 7) claimingTurns
  obtain ⟨-, -, hkept⟩ := admitted_iff_not_overtaken .transparent .default .unpaired
    (.constant 7) turns
  obtain ⟨hbeside, hrefusals⟩ := hkept hnone
  refine ⟨hnone, ⟨hnext, hfree⟩, ?_, hstores, ?_, hlist, hrefusals⟩
  · exact (hadmits 1 ⟨hnext, hfree⟩).2 (hnone claimingTurns 1 hclaiming ⟨hnext, hfree⟩)
  · unfold storing start
    exact hbeside storingTurns 1 (List.prefix_refl _) hstores

/-! ## An M1 that is overtaken -/

/-- A controller whose public key is all eights. -/
def eights : PairedController where
  id := "d"
  publicKey := .replicate 32 8
  permissions := .admin

/-- Its M5. -/
def eightsM5 : Bytes :=
  (Tlv.ofList [(.state, [5]), (.encryptedData,
    (Tlv.ofList [(.identifier, [0x64]), (.publicKey, List.replicate 32 8),
      (.signature, List.replicate 64 8)]).encode ++ CipherSuite.emptyTag)]).encode

/-- Connection 1 gets as far as M5, connection 2 looks whether a controller is paired; then the M5
of connection 1 is handled, and the M1 of connection 2 comes to its claim. -/
def overtakingTurns : List SetupTurn :=
  call 1 Tlv.pairSetupM1.encode 6 ++ call 1 onesM3 1 ++ call 2 Tlv.pairSetupM1.encode 1 ++
    call 1 SetupSystem.sevensM5 3 ++ [.advance 2]

/-- Connection 2 takes the slot, is answered, and comes to M5. -/
def overtakenTurns : List SetupTurn :=
  List.replicate 4 (.advance 2) ++ call 2 onesM3 1 ++ [.request 2 eightsM5]

/-- Connection 2 takes the slot although connection 1 has paired a controller since it looked, and
stores a second one beside it. -/
theorem overtaken_stores_beside :
    let start := fresh .default .unpaired (.constant 7)
    let claiming := start.run .transparent overtakingTurns
    let storing := claiming.run .transparent overtakenTurns
    claiming.Claims 2 ∧ ¬ claiming.Admits ∧ storing.Stores 2 ∧
      storing.shared.store.isPaired = true := by
  intro start claiming storing
  have hnext : claiming.next? 2 = some (.claim 2) := by decide +kernel
  have hfree : (claiming.shared.attempts.claim 2).1 = true := by decide +kernel
  have hpaired : claiming.shared.store.isPaired = true := by decide +kernel
  refine ⟨⟨hnext, hfree⟩, fun hadmits => ?_, ⟨eights, ?_, ?_⟩, ?_⟩
  · exact absurd (hadmits.1.symm.trans hpaired) nofun
  · show storing.next? 2 = some (.add eights)
    decide +kernel
  · decide +kernel
  · decide +kernel

end HomeKit.ConcurrentSetup
