import HomeKit.Proofs.Pairing.ControllerSetupCalls

/-!
# The accessory that a controller pairs with knows the setup code

The controller's side of pair-setup may be called in any order, with any responses. The calls that
succeed are the first ones, and they are those of the protocol, in its order; after an error every
call fails. So when it gives out an accessory, it has been through the whole exchange exactly once:
the accessory has proved that it knows the typed setup code, and has signed its identity under the
key that both agreed on (`ControllerSetup.accessory_proven`).

What a call that succeeds does is one rule of `Step`; a series of such calls from the start is
`Reached`.
-/

namespace HomeKit.ControllerSetup

variable {suite : CipherSuite} {setup : ControllerSetup} {client : Srp.Client}
  {answer : Srp.Answer} {response : Bytes}

/-! ## What is checked -/

/-- The response is an M2 with a salt and a public value, which the client has answered. -/
def Challenged (suite : CipherSuite) (client : Srp.Client) (response : Bytes)
    (answer : Srp.Answer) : Prop :=
  ∃ tlv salt publicKey, Responds response 2 tlv ∧ tlv.get? .salt = some (Octets.bytes salt) ∧
    tlv.get? .publicKey = some publicKey ∧ publicKey.length ≤ Srp.width ∧
    client.Answers suite.hash salt (ofBigEndian publicKey) answer

/-- The response is an M4 with the server's proof of the client's answer. -/
def Proven (suite : CipherSuite) (client : Srp.Client) (answer : Srp.Answer)
    (response : Bytes) : Prop :=
  ∃ tlv, Responds response 4 tlv ∧ tlv.get? .proof = some
    (Srp.serverProof suite.hash client.publicValue answer.proof.bytes answer.key.bytes).bytes

/-- The response is an M6 with an encrypted message under the exchange's key, in which an accessory
signs its identifier and its public key with that key. -/
def Introduced (suite : CipherSuite) (answer : Srp.Answer) (response : Bytes)
    (info : AccessoryInfo) : Prop :=
  ∃ tlv box plaintext inner signature, Responds response 6 tlv ∧
    tlv.get? .encryptedData = some box ∧
    suite.decryptNamed (suite.deriveFor .pairSetup answer.key.bytes) PairSetup.nonceM6 box =
      .ok plaintext ∧
    Tlv.decode plaintext = .ok inner ∧
    inner.get? .identifier = some (utf8 info.id) ∧
    inner.get? .publicKey = some info.publicKey.bytes ∧
    inner.get? .signature = some signature ∧
    suite.checkSignature info.publicKey
      ((suite.deriveFor .accessorySign answer.key.bytes).bytes ++ utf8 info.id ++
        info.publicKey.bytes) signature = .ok ()

theorem challenged_of_answerM2 (h : setup.answerM2 suite response = .ok answer) :
    Challenged suite setup.client response answer := by
  unfold answerM2 at h
  simp only [PairSetup.bind_eq_ok_iff, pairingPart_eq_ok_iff, parseResponse_eq_ok_iff,
    Tlv.require_eq_ok_iff] at h
  obtain ⟨tlv, hresponds, saltBytes, hsalt, h⟩ := h
  cases hread : Octets.ofBytes? 16 saltBytes with
  | none =>
    rw [hread] at h
    cases h
  | some salt =>
    obtain rfl := Octets.ofBytes?_eq_some_iff.1 hread
    simp only [hread, pure_bind, PairSetup.bind_eq_ok_iff, pairingPart_eq_ok_iff,
      Tlv.require_eq_ok_iff] at h
    obtain ⟨publicKey, hkey, h⟩ := h
    by_cases hwidth : Srp.width < publicKey.length
    · rw [if_pos hwidth] at h
      cases h
    · rw [if_neg hwidth, cryptoPart_eq_ok_iff] at h
      exact ⟨tlv, salt, publicKey, hresponds, hsalt, hkey, Nat.le_of_not_lt hwidth,
        Srp.Client.answers_of_answer h⟩

theorem proven_of_checkM4 (h : checkM4 answer response = .ok ()) :
    ∃ tlv, Responds response 4 tlv ∧ tlv.get? .proof = some answer.expectedServerProof.bytes := by
  unfold checkM4 at h
  simp only [PairSetup.bind_eq_ok_iff, pairingPart_eq_ok_iff, parseResponse_eq_ok_iff,
    Tlv.require_eq_ok_iff] at h
  obtain ⟨tlv, hresponds, proof, hproof, h⟩ := h
  split at h
  · rename_i haccepts
    rw [Srp.Answer.accepts, beq_iff_eq] at haccepts
    exact ⟨tlv, hresponds, haccepts ▸ hproof⟩
  · cases h

theorem introduced_of_introduced {info : AccessoryInfo}
    (h : introduced suite answer response = .ok info) : Introduced suite answer response info := by
  unfold introduced at h
  simp only [PairSetup.bind_eq_ok_iff, pairingPart_eq_ok_iff, cryptoPart_eq_ok_iff,
    parsePart_eq_ok_iff, parseResponse_eq_ok_iff, Tlv.require_eq_ok_iff] at h
  obtain ⟨tlv, hresponds, box, hbox, plaintext, hopen, inner, hinner, idBytes, hid, h⟩ := h
  cases hread : text? idBytes with
  | none =>
    rw [hread] at h
    cases h
  | some id =>
    obtain rfl := text?_eq_some_iff.1 hread
    simp only [hread, pure_bind, PairSetup.bind_eq_ok_iff, pairingPart_eq_ok_iff,
      cryptoPart_eq_ok_iff, Tlv.require_eq_ok_iff, PairSetup.publicKeyOfBytes_eq_ok_iff] at h
    obtain ⟨_, hkey, publicKey, rfl, signature, hsignature, _, hcheck, hinfo⟩ := h
    cases hinfo
    exact ⟨tlv, box, plaintext, inner, signature, hresponds, hbox, hopen, hinner, hid, hkey,
      hsignature, hcheck⟩

/-! ## Calls that succeed -/

/-- What a call does that succeeds: from which stage it leads to which, what it gives, and what was
checked. -/
inductive Step (suite : CipherSuite) (client : Srp.Client) :
    ControllerSetupStage → Call → Outcome → ControllerSetupStage → Prop where
  | sentM1 : Step suite client .initial .sendM1 (.message Tlv.pairSetupM1.encode) .m1Sent
  | tookM2 {response : Bytes} {answer : Srp.Answer} (h : Challenged suite client response answer) :
    Step suite client .m1Sent (.takeM2 response) .accepted (.m2Received answer)
  | sentM3 {answer : Srp.Answer} {message : Bytes} :
    Step suite client (.m2Received answer) .sendM3 (.message message) (.m3Sent answer)
  | tookM4 {response : Bytes} {answer : Srp.Answer} (h : ∃ tlv, Responds response 4 tlv ∧
      tlv.get? .proof = some answer.expectedServerProof.bytes) :
    Step suite client (.m3Sent answer) (.takeM4 response) .accepted (.m4Received answer)
  | sentM5 {identity : ControllerIdentity} {answer : Srp.Answer} {message : Bytes} :
    Step suite client (.m4Received answer) (.sendM5 identity) (.message message) (.m5Sent answer)
  | tookM6 {response : Bytes} {answer : Srp.Answer} {info : AccessoryInfo}
      (h : Introduced suite answer response info) :
    Step suite client (.m5Sent answer) (.takeM6 response) (.accessory info) .complete

/-- A call takes one step, or it fails, and then the machine has failed. -/
theorem call_cases (suite : CipherSuite) (setup : ControllerSetup) (next : Call) :
    (∃ error, call suite setup next = (.error error, { setup with stage := .failed })) ∨
      ∃ outcome stage, Step suite setup.client setup.stage next outcome stage ∧
        call suite setup next = (.ok outcome, { setup with stage }) := by
  by_cases hdue : setup.stage.phase = next.due
  · obtain ⟨client, stage⟩ := setup
    cases next with
    | sendM1 =>
      cases stage with
      | initial => exact Or.inr ⟨_, _, .sentM1, rfl⟩
      | _ => cases hdue
    | takeM2 response =>
      cases stage with
      | m1Sent =>
        cases hanswer : answerM2 suite ⟨client, .m1Sent⟩ response with
        | error error => exact Or.inl ⟨error, by simp only [call, takeM2, hanswer]; rfl⟩
        | ok answer =>
          exact Or.inr ⟨_, _, .tookM2 (challenged_of_answerM2 hanswer),
            by simp only [call, takeM2, hanswer]; rfl⟩
      | _ => cases hdue
    | sendM3 =>
      cases stage with
      | m2Received answer => exact Or.inr ⟨_, _, .sentM3, rfl⟩
      | _ => cases hdue
    | takeM4 response =>
      cases stage with
      | m3Sent answer =>
        cases hcheck : checkM4 answer response with
        | error error => exact Or.inl ⟨error, by simp only [call, takeM4, hcheck]; rfl⟩
        | ok _ =>
          exact Or.inr ⟨_, _, .tookM4 (proven_of_checkM4 hcheck),
            by simp only [call, takeM4, hcheck]; rfl⟩
      | _ => cases hdue
    | sendM5 identity =>
      cases stage with
      | m4Received answer => exact Or.inr ⟨_, _, .sentM5, rfl⟩
      | _ => cases hdue
    | takeM6 response =>
      cases stage with
      | m5Sent answer =>
        cases hinfo : introduced suite answer response with
        | error error => exact Or.inl ⟨error, by simp only [call, takeM6, hinfo]; rfl⟩
        | ok info =>
          exact Or.inr ⟨_, _, .tookM6 (introduced_of_introduced hinfo),
            by simp only [call, takeM6, hinfo]; rfl⟩
      | _ => cases hdue
  · exact Or.inl ⟨_, call_of_ne hdue⟩

theorem step_of_call_eq_ok {next : Call} {outcome : Outcome}
    (h : (call suite setup next).1 = .ok outcome) :
    ∃ stage, Step suite setup.client setup.stage next outcome stage := by
  rcases call_cases suite setup next with ⟨_, hcall⟩ | ⟨_, stage, hstep, hcall⟩
  · rw [hcall] at h
    cases h
  · rw [hcall] at h
    cases h
    exact ⟨stage, hstep⟩

theorem stage_of_call_eq_error {next : Call} {error : Error}
    (h : (call suite setup next).1 = .error error) :
    (call suite setup next).2.stage = .failed := by
  rcases call_cases suite setup next with ⟨_, hcall⟩ | ⟨_, _, -, hcall⟩
  · rw [hcall]
  · rw [hcall] at h
    cases h

/-! ## Whole runs -/

/-- The machine after some calls. -/
def callAll (suite : CipherSuite) (setup : ControllerSetup) (calls : List Call) : ControllerSetup :=
  Calls.after (call suite) setup calls

/-- The calls that succeed. -/
def succeeded (suite : CipherSuite) (setup : ControllerSetup) : List Call → List Call
  | [] => []
  | next :: rest =>
    match call suite setup next with
    | (.ok _, setup) => next :: succeeded suite setup rest
    | (.error _, setup) => succeeded suite setup rest

/-- The calls, all of which succeeded, have brought a machine from its start to the stage. -/
inductive Reached (suite : CipherSuite) (client : Srp.Client) :
    List Call → ControllerSetupStage → Prop where
  | start : Reached suite client [] .initial
  | step {calls : List Call} {stage stage' : ControllerSetupStage} {next : Call}
      {outcome : Outcome} (h : Reached suite client calls stage)
      (hstep : Step suite client stage next outcome stage') :
    Reached suite client (calls ++ [next]) stage'

/-- A machine that has failed fails, and stays failed. -/
theorem call_of_failed (h : setup.stage = .failed) (next : Call) :
    ∃ error, call suite setup next = (.error error, setup) := by
  have hdue : setup.stage.phase ≠ next.due := by
    rw [h]
    cases next <;> nofun
  obtain ⟨client, _⟩ := setup
  cases h
  exact ⟨_, call_of_ne hdue⟩

theorem callAll_of_failed (h : setup.stage = .failed) (calls : List Call) :
    callAll suite setup calls = setup := by
  induction calls with
  | nil => rfl
  | cons next rest ih =>
    obtain ⟨error, hcall⟩ := call_of_failed h next
    rw [callAll, Calls.after, List.foldl_cons, hcall]
    exact ih

theorem succeeded_of_failed (h : setup.stage = .failed) (calls : List Call) :
    succeeded suite setup calls = [] := by
  induction calls with
  | nil => rfl
  | cons next rest ih =>
    obtain ⟨error, hcall⟩ := call_of_failed h next
    rw [succeeded, hcall]
    exact ih

theorem Reached.run {passed : List Call} {stage : ControllerSetupStage}
    (h : Reached suite client passed stage) (calls : List Call) :
    ∃ stage', Reached suite client (passed ++ succeeded suite ⟨client, stage⟩ calls) stage' ∧
      ((succeeded suite ⟨client, stage⟩ calls = calls ∧
          callAll suite ⟨client, stage⟩ calls = ⟨client, stage'⟩) ∨
        (callAll suite ⟨client, stage⟩ calls).stage = .failed) := by
  induction calls generalizing passed stage with
  | nil =>
    rw [succeeded, List.append_nil]
    exact ⟨stage, h, Or.inl ⟨rfl, rfl⟩⟩
  | cons next rest ih =>
    rcases call_cases suite ⟨client, stage⟩ next with
      ⟨error, hcall⟩ | ⟨outcome, stage', hstep, hcall⟩
    · rw [succeeded, callAll, Calls.after, List.foldl_cons, hcall]
      simp only
      rw [succeeded_of_failed rfl, List.append_nil]
      exact ⟨stage, h, Or.inr (congrArg ControllerSetup.stage (callAll_of_failed rfl rest))⟩
    · rw [succeeded, callAll, Calls.after, List.foldl_cons, hcall]
      simp only
      obtain ⟨reached, hreached, hend⟩ := ih (h.step hstep)
      rw [List.append_assoc, List.singleton_append] at hreached
      refine ⟨reached, hreached, ?_⟩
      rcases hend with ⟨hall, hafter⟩ | hfailed
      · exact Or.inl ⟨by rw [hall], hafter⟩
      · exact Or.inr hfailed

/-- The calls that succeed are the first ones: they lead to a stage, and if there are more calls,
the machine has failed. -/
theorem callAll_cases (suite : CipherSuite) (client : Srp.Client) (calls : List Call) :
    ∃ stage, Reached suite client (succeeded suite { client } calls) stage ∧
      ((succeeded suite { client } calls = calls ∧
          callAll suite { client } calls = ⟨client, stage⟩) ∨
        (callAll suite { client } calls).stage = .failed) :=
  Reached.start.run calls

/-! ## Order -/

/-- How many messages lead to a stage. -/
def messagesBefore : ControllerSetupStage → Nat
  | .initial | .failed => 0
  | .m1Sent => 1
  | .m2Received _ => 2
  | .m3Sent _ => 3
  | .m4Received _ => 4
  | .m5Sent _ => 5
  | .complete => 6

theorem Reached.numbers {calls : List Call} {stage : ControllerSetupStage}
    (h : Reached suite client calls stage) :
    calls.map Call.number = [1, 2, 3, 4, 5, 6].take (messagesBefore stage) := by
  induction h with
  | start => rfl
  | step _ hstep ih =>
    rw [List.map_append, ih]
    cases hstep <;> rfl

/-- A machine that waits for M6 has been through all messages before it. -/
theorem Reached.history {calls : List Call}
    (h : Reached suite client calls (.m5Sent answer)) :
    ∃ m2 m4 identity, calls = [.sendM1, .takeM2 m2, .sendM3, .takeM4 m4, .sendM5 identity] ∧
      Challenged suite client m2 answer ∧ Proven suite client answer m4 := by
  obtain _ | ⟨h, hm5⟩ := h
  cases hm5
  obtain _ | ⟨h, hm4⟩ := h
  obtain _ | _ | _ | ⟨tlv, hresponds, hproof⟩ := hm4
  obtain _ | ⟨h, hm3⟩ := h
  cases hm3
  obtain _ | ⟨h, hm2⟩ := h
  obtain _ | ⟨tlv, salt, publicKey, hchallenge, hsalt, hkey, hwidth, hanswers⟩ := hm2
  obtain _ | ⟨h, hm1⟩ := h
  cases hm1
  obtain _ | ⟨-, hnone⟩ := h
  · refine ⟨_, _, _, rfl, ⟨tlv, salt, publicKey, hchallenge, hsalt, hkey, hwidth, hanswers⟩,
      _, hresponds, ?_⟩
    rw [← hanswers.expectedServerProof]
    exact hproof
  · cases hnone

/-- After an error every call fails. -/
theorem fails_after_error {before : List Call} {next : Call} {error : Error}
    (herror : (call suite (callAll suite setup before) next).1 = .error error)
    (between : List Call) (last : Call) :
    ∃ later, (call suite (callAll suite setup (before ++ next :: between)) last).1 =
      .error later := by
  have hsplit : callAll suite setup (before ++ next :: between) =
      callAll suite (call suite (callAll suite setup before) next).2 between :=
    Calls.after_append ..
  have hfailed := stage_of_call_eq_error herror
  rw [hsplit, callAll_of_failed hfailed]
  obtain ⟨later, hcall⟩ := call_of_failed hfailed last
  exact ⟨later, congrArg Prod.fst hcall⟩

/-- The calls that succeed are those of the protocol, in its order. -/
theorem succeeded_numbers (suite : CipherSuite) (client : Srp.Client) (calls : List Call) :
    (succeeded suite { client } calls).map Call.number <+: [1, 2, 3, 4, 5, 6] := by
  obtain ⟨stage, hreached, -⟩ := callAll_cases suite client calls
  rw [hreached.numbers]
  exact List.take_prefix _ _

/-! ## Trust -/

/-- A call that gives an accessory takes an M6 that introduces it, after all that leads there. -/
theorem introduced_of_call {before : List Call} {m6 : Bytes} {info : AccessoryInfo}
    (h : (call suite (callAll suite { client } before) (.takeM6 m6)).1 = .ok (.accessory info)) :
    ∃ answer, Reached suite client before (.m5Sent answer) ∧
      Introduced suite answer m6 info := by
  obtain ⟨stage, hreached, ⟨hall, hafter⟩ | hfailed⟩ := callAll_cases suite client before
  · rw [hall] at hreached
    rw [hafter] at h
    obtain ⟨_, hstep⟩ := step_of_call_eq_ok h
    cases hstep with
    | tookM6 hintroduced => exact ⟨_, hreached, hintroduced⟩
  · obtain ⟨error, hcall⟩ := call_of_failed hfailed (.takeM6 m6)
    rw [hcall] at h
    cases h

/-- Whatever a controller's side is called with: after an error every call fails; the calls that
succeed send and take the messages of the protocol, in its order; and it gives out an accessory only
for an M6 in which that accessory signs its identity under the key of the exchange, after an M4 with
the server's proof of that key, for the typed setup code and the challenge in the one M2 it took.
What a call leaves in memory when it fails makes no difference. -/
theorem accessory_proven (suite : CipherSuite) (typed : String) (random : Entropy) :
    let client := Srp.Client.new PairSetup.username (utf8 (SetupCode.typedPassword typed))
      random.drawNumber.1
    let setup := (generate typed random).1
    (∀ before next between last error,
      (call suite (callAll suite setup before) next).1 = .error error →
      ∃ later, (call suite (callAll suite setup (before ++ next :: between)) last).1 =
        .error later) ∧
    (∀ calls, (succeeded suite setup calls).map Call.number <+: [1, 2, 3, 4, 5, 6]) ∧
    (∀ before m6 info,
      (call suite (callAll suite setup before) (.takeM6 m6)).1 = .ok (.accessory info) →
      ∃ m2 m4 identity answer,
        before = [.sendM1, .takeM2 m2, .sendM3, .takeM4 m4, .sendM5 identity] ∧
        Challenged suite client m2 answer ∧ Proven suite client answer m4 ∧
        Introduced suite answer m6 info) ∧
    ∀ calls, Calls.outcomes (ControllerSetupMemory.call suite) { client } calls =
      Calls.outcomes (call suite) setup calls := by
  intro client setup
  refine ⟨?_, ?_, ?_, ?_⟩
  · exact fun before next between last error herror => fails_after_error herror between last
  · exact succeeded_numbers suite client
  · intro before m6 info hinfo
    obtain ⟨answer, hreached, hintroduced⟩ := introduced_of_call hinfo
    obtain ⟨m2, m4, identity, hbefore, hchallenged, hproven⟩ := hreached.history
    exact ⟨m2, m4, identity, answer, hbefore, hchallenged, hproven, hintroduced⟩
  · exact ControllerSetupMemory.outcomes_eq (ControllerSetupMemory.remembers_client suite setup rfl)

/-- The calls of an exchange with an accessory of fives, up to the last. -/
def fivesCalls : List Call :=
  [.sendM1,
    .takeM2 (Tlv.ofList [(.state, [2]), (.salt, List.replicate 16 4), (.publicKey, [9])]).encode,
    .sendM3, .takeM4 (Tlv.ofList [(.state, [4]), (.proof, List.replicate 64 1)]).encode,
    .sendM5 ⟨"c", ⟨.replicate 32 7⟩⟩]

/-- The accessory of fives introduces itself. -/
def fivesM6 : Bytes :=
  (Tlv.ofList [(.state, [6]), (.encryptedData,
    (Tlv.ofList [(.identifier, [0x61]), (.publicKey, List.replicate 32 5),
      (.signature, List.replicate 64 5)]).encode ++ CipherSuite.emptyTag)]).encode

/-- The exchange with the accessory of fives, and a controller that is called out of order. -/
theorem accessory_proven_fives :
    let setup := (generate "001-02-003" (.constant 7)).1
    (call .transparent (callAll .transparent setup fivesCalls) (.takeM6 fivesM6)).1 =
        .ok (.accessory ⟨"a", .replicate 32 5⟩) ∧
      (∃ answer, Introduced .transparent answer fivesM6 ⟨"a", .replicate 32 5⟩) ∧
      ∃ later, (call .transparent (callAll .transparent setup [.sendM3]) .sendM1).1 =
        .error later := by
  intro setup
  obtain ⟨hsticky, -, hproven, -⟩ := accessory_proven .transparent "001-02-003" (.constant 7)
  have hinfo : (call .transparent (callAll .transparent setup fivesCalls) (.takeM6 fivesM6)).1 =
      .ok (.accessory ⟨"a", .replicate 32 5⟩) := by
    decide +kernel
  obtain ⟨_, _, _, answer, -, -, -, hintroduced⟩ := hproven _ _ _ hinfo
  exact ⟨hinfo, ⟨answer, hintroduced⟩, hsticky [] .sendM3 [] .sendM1 _ rfl⟩

end HomeKit.ControllerSetup
