import HomeKit.Proofs.Accessory.PairingTraffic

/-!
# Unpairing while controllers are verified

When all requests are finished, a session that holds keys for a controller that is not paired
belongs to a connection that was told to close, with two exceptions
(`PairingTraffic.unpaired_told_or_missed`). The keys in use are about to be replaced by those of
another controller that was verified since. Or a removal missed the session: it told the connections
to close after the controller was looked up and before its keys were staged, when no session named
it. Wherever that happens, the session keeps its keys, and it can happen
(`PairingTraffic.missed_keeps_keys`).
-/

namespace HomeKit.PairingTraffic

variable {suite : CipherSuite} {system start : PairingTraffic} {conn other : ConnectionId}
  {id : String} {turns : List PairingTurn}

theorem Missed.concat (h : Missed suite start turns conn id) (last : PairingTurn) :
    Missed suite start (turns ++ [last]) conn id := by
  obtain ⟨before, other, later, rfl, hmisses⟩ := h
  exact ⟨before, other, later ++ [last], by simp, hmisses⟩

/-- Whoever has keys, or is about to get them, is served; and the controller is paired, or the
connection was told to close, or is going to be told, or was missed. -/
structure Explained (suite : CipherSuite) (start : PairingTraffic) (turns : List PairingTurn)
    (conn : ConnectionId) (id : String) : Prop where
  served : (start.run suite turns).isServed conn = true
  told : (start.run suite turns).IsPaired id ∨ (start.run suite turns).ToldToClose conn ∨
    (∃ other, (start.run suite turns).IsRemoving other id) ∨ Missed suite start turns conn id

/-- An explanation holds after a turn, unless the turn is the one that tells the connections of the
controller to close. -/
theorem Explained.turn (h : Explained suite start turns conn id) (next : PairingTurn) :
    Explained suite start (turns ++ [next]) conn id ∨
      ∃ other, next = .close other ∧ (start.run suite turns).IsRemoving other id := by
  have hmove := turn_move suite (start.run suite turns) next
  have hserved : (start.run suite (turns ++ [next])).isServed conn = true := by
    rw [run_concat]
    exact hmove.isServed h.served
  rcases h.told with hpaired | htold | ⟨other, hremoving⟩ | hmissed
  · left
    refine ⟨hserved, ?_⟩
    rw [run_concat]
    rcases hmove.isPaired hpaired with hpaired | hremoving
    · exact .inl hpaired
    · exact .inr (.inr (.inl hremoving))
  · left
    refine ⟨hserved, .inr (.inl ?_)⟩
    rw [run_concat]
    exact hmove.toldToClose htold
  · rcases hmove.isRemoving hremoving with hstill | hnext
    · left
      refine ⟨hserved, .inr (.inr (.inl ⟨other, ?_⟩))⟩
      rw [run_concat]
      exact hstill
    · exact .inr ⟨other, hnext, hremoving⟩
  · exact .inl ⟨hserved, .inr (.inr (.inr (hmissed.concat next)))⟩

/-- Every session with keys, and every one that is about to get some, is explained. -/
structure Accounted (suite : CipherSuite) (start : PairingTraffic) (turns : List PairingTurn) :
    Prop where
  reachable : (start.run suite turns).store.Reachable
  active : (start.run suite turns).KnowsActive
  named : ∀ conn id, (start.run suite turns).Names conn id → Explained suite start turns conn id
  verifying : ∀ conn id, (start.run suite turns).IsVerifying conn id →
    Explained suite start turns conn id

theorem Settled.accounted (h : Settled start) : Accounted suite start [] := by
  refine ⟨h.reachable, h.active, fun conn id hnames => ?_, ?_⟩
  · refine ⟨h.served conn id hnames, ?_⟩
    rcases h.paired conn id hnames with hpaired | htold
    · exact .inl hpaired
    · exact .inr (.inl htold)
  · rintro conn id ⟨response, machine, verified, htask, -, -⟩
    exact absurd ((h.waiting conn).symm.trans htask) nofun

theorem Accounted.turn (h : Accounted suite start turns) (next : PairingTurn) :
    Accounted suite start (turns ++ [next]) := by
  have hmove := turn_move suite (start.run suite turns) next
  refine ⟨?_, ?_, fun conn id hnames => ?_, fun conn id hverifying => ?_⟩
  · rw [run_concat]
    exact hmove.reachable h.reachable
  · rw [run_concat]
    exact hmove.knowsActive h.active
  · rw [run_concat] at hnames
    rcases (hmove.keyChange conn).names hnames with hbefore | ⟨rfl, hverifying⟩
    · rcases (h.named conn id hbefore).turn next with hexplained | ⟨other, rfl, hremoving⟩
      · exact hexplained
      · have hserved := (h.named conn id hbefore).served
        refine ⟨?_, .inr (.inl ?_)⟩
        · rw [run_concat]
          exact hmove.isServed hserved
        · rw [run_concat]
          exact toldToClose_of_close hbefore hserved hremoving
    · rcases (h.verifying conn id hverifying).turn (.stage conn) with hexplained | ⟨other, hnext, -⟩
      · exact hexplained
      · cases hnext
  · rw [run_concat] at hverifying
    rcases hmove.isVerifying h.reachable hverifying with hbefore | ⟨hserved, hpaired⟩
    · rcases (h.verifying conn id hbefore).turn next with hexplained | ⟨other, rfl, hremoving⟩
      · exact hexplained
      -- The connections are told now, and none of them names the controller for these keys.
      · refine ⟨?_, ?_⟩
        · rw [run_concat]
          exact hmove.isServed (h.verifying conn id hbefore).served
        · by_cases hpaired : (start.run suite turns).IsPaired id
          · rw [run_concat]
            exact (hmove.isPaired hpaired).imp_right fun hremoving => .inr (.inl hremoving)
          · by_cases htold : ((start.run suite turns).turn suite (.close other)).ToldToClose conn
            · rw [run_concat]
              exact .inr (.inl htold)
            · exact .inr (.inr (.inr ⟨turns, other, [], rfl, hremoving, hbefore, hpaired, htold⟩))
    · refine ⟨?_, .inl ?_⟩
      · rw [run_concat]
        exact hmove.isServed hserved
      · rw [run_concat]
        exact hpaired

theorem run_accounted (suite : CipherSuite) (h : Settled start) (turns : List PairingTurn) :
    Accounted suite start turns := by
  induction turns using List.reverseRecOn with
  | nil => exact h.accounted
  | append_singleton turns next ih => exact ih.turn next

/-! ## Removals that miss a connection -/

/-- The session holds keys for a controller that is not paired, and was not told to close. -/
def IsExposed (system : PairingTraffic) (conn : ConnectionId) (id : String) : Prop :=
  system.HoldsKeysFor conn id ∧ ¬ system.IsPaired id ∧ ¬ system.ToldToClose conn

/-- A connection that a removal missed is exposed when its keys are staged. -/
theorem Misses.isExposed (h : Misses suite system other conn id) :
    (system.run suite [.close other, .stage conn]).IsExposed conn id := by
  obtain ⟨⟨removal, hmanaging, hremoved⟩, ⟨response, machine, verified, hverifying, hverified, rfl⟩,
    hunpaired, hnot⟩ := h
  have hne : conn ≠ other := by
    rintro rfl
    exact absurd (hverifying.symm.trans hmanaging) nofun
  have hclosed := turn_move suite system (.close other)
  have hstore : (system.turn suite (.close other)).store = system.store := by
    simp only [turn, hmanaging]
    rfl
  have htask : (system.turn suite (.close other)).tasks conn = .verifying response machine :=
    (hclosed.tasks_of_ne hne).trans hverifying
  show ((system.turn suite (.close other)).turn suite (.stage conn)).IsExposed conn verified.id
  generalize system.turn suite (.close other) = closed at hnot hstore htask
  have hcredentials :=
    Accessory.credentials_settlePairVerify closed.accessory conn response machine conn
  simp only [hverified, if_true] at hcredentials
  simp only [turn, htask]
  refine ⟨.inl ?_, ?_, ?_⟩
  · unfold credentials withTask
    simp only
    rw [hcredentials]
    exact ⟨rfl, rfl⟩
  · unfold IsPaired store withTask Accessory.settlePairVerify
    simp only [hverified]
    rw [IsPaired, ← hstore] at hunpaired
    exact hunpaired
  · rintro (hclosing | hasked)
    · rw [tasks_withTask] at hclosing
      cases hclosing
    · refine hnot (.inr ?_)
      unfold outbox? withTask Accessory.settlePairVerify at hasked
      simp only [hverified] at hasked
      exact hasked

/-- However the steps of pair-verify and of the management of pairings are interleaved: once no
request is under way, a session that holds keys for a controller that is not paired was told to
close, unless its keys are about to be replaced by those of another controller, or a removal told
the controller's connections to close after pair-verify had looked the controller up and before it
staged the keys. Wherever a removal misses a connection like that, the connection ends up with the
keys of a controller that is not paired, and is not told to close. -/
theorem unpaired_told_or_missed (suite : CipherSuite) (start : PairingTraffic) (h : Settled start)
    (turns : List PairingTurn) :
    let system := start.run suite turns
    (system.Finished → ∀ conn id, system.HoldsKeysFor conn id →
      system.IsPaired id ∨ system.ToldToClose conn ∨ system.IsSuperseded conn id ∨
        Missed suite start turns conn id) ∧
    (∀ other conn id, Misses suite system other conn id →
      (system.run suite [.close other, .stage conn]).IsExposed conn id) := by
  intro system
  refine ⟨fun hfinished conn id hholds => ?_, fun other conn id hmisses => hmisses.isExposed⟩
  have haccounted := run_accounted suite h turns
  rcases haccounted.active.names_or hholds with hnames | hsuperseded
  · rcases (haccounted.named conn id hnames).told with
      hpaired | htold | ⟨other, removal, htask, -⟩ | hmissed
    · exact .inl hpaired
    · exact .inr (.inl htold)
    · have hdone := hfinished other
      rw [show system.tasks other = .managing removal from htask] at hdone
      cases hdone
    · exact .inr (.inr (.inr hmissed))
  · exact .inr (.inr (.inl hsuperseded))

/-! ## A removal that misses a connection -/

/-- An accessory without connections is settled. -/
theorem settled_of_no_connections {accessory : Accessory} (h : accessory.store.Reachable)
    (hnone : accessory.connections = {}) : Settled { accessory } := by
  have hcredentials : ∀ conn, credentials { accessory } conn = {} := by
    intro conn
    unfold credentials Accessory.credentials Accessory.registry
    simp only
    rw [hnone]
    rfl
  refine ⟨h, fun _ => rfl, ?_, ?_, ?_⟩
  · intro conn hkeys
    rw [hcredentials] at hkeys
    cases hkeys
  · rintro conn id ⟨hcontroller, -⟩
    rw [hcredentials] at hcontroller
    cases hcontroller
  · rintro conn id ⟨hcontroller, -⟩
    rw [hcredentials] at hcontroller
    cases hcontroller

theorem run_tasks_of_ne (suite : CipherSuite) (turns : List PairingTurn)
    (hne : ∀ next ∈ turns, conn ≠ next.conn) :
    (system.run suite turns).tasks conn = system.tasks conn := by
  induction turns generalizing system with
  | nil => rfl
  | cons next rest ih =>
    have hrest : ((system.turn suite next).run suite rest).tasks conn = _ :=
      ih fun other hmem => hne other (List.mem_cons_of_mem _ hmem)
    exact hrest.trans ((turn_move suite system next).tasks_of_ne (hne next List.mem_cons_self))

/-- An accessory that is paired with the controller of sevens. -/
def sevensTraffic : PairingTraffic where
  accessory := Accessory.sevensAccessory

theorem sevensTraffic_settled : Settled sevensTraffic :=
  settled_of_no_connections (IdentityStore.withController_reachable _) rfl

/-- A request to remove the controller of sevens. -/
def removesSevens : Bytes :=
  (Tlv.ofList [(.state, [1]), (.method, [PairingMethod.removePairing.code]),
    (.identifier, [0x63])]).encode

/-- The controller of sevens verifies on connection 2 and removes itself there. On connection 1 it
was looked up before, and its keys are staged after. -/
def missingTurns : List PairingTurn :=
  [.attach 1 8, .attach 2 8,
    .verify 2 PairVerify.ninesCall.request, .stage 2,
    .verify 2 PairVerify.sevensCall.request, .stage 2, .activate 2,
    .verify 1 PairVerify.ninesCall.request, .stage 1,
    .verify 1 PairVerify.sevensCall.request,
    .manage 2 removesSevens, .close 2,
    .stage 1, .activate 1]

theorem missingTurns_finished : (sevensTraffic.run .transparent missingTurns).Finished := by
  have hconns : ∀ next ∈ missingTurns, next.conn = 1 ∨ next.conn = 2 := by decide
  intro conn
  by_cases h1 : conn = 1
  · subst h1
    decide +kernel
  · by_cases h2 : conn = 2
    · subst h2
      decide +kernel
    · rw [run_tasks_of_ne .transparent missingTurns ?_]
      · rfl
      · intro next hnext
        rcases hconns next hnext with hconn | hconn
        · rw [hconn]
          exact h1
        · rw [hconn]
          exact h2

theorem missingTurns_exposes : (sevensTraffic.run .transparent missingTurns).IsExposed 1 "c" := by
  refine ⟨.inr ⟨by decide +kernel, by decide +kernel⟩, ?_, ?_⟩
  · unfold IsPaired
    decide +kernel
  · rintro (htask | ⟨outbox, houtbox, hclose⟩)
    · have hclosing : ((sevensTraffic.run .transparent missingTurns).tasks 1 matches .closing) =
          false := by decide +kernel
      rw [htask] at hclosing
      cases hclosing
    · have hopen : ((sevensTraffic.run .transparent missingTurns).outbox? 1).any
          (·.closeRequested) = false := by decide +kernel
      rw [houtbox, Option.any_some, hclose] at hopen
      cases hopen

theorem unpaired_told_or_missed_sevens :
    Settled sevensTraffic ∧ (sevensTraffic.run .transparent missingTurns).Finished ∧
      (sevensTraffic.run .transparent missingTurns).HoldsKeysFor 1 "c" ∧
      Missed .transparent sevensTraffic missingTurns 1 "c" := by
  obtain ⟨hholds, hunpaired, hnot⟩ := missingTurns_exposes
  refine ⟨sevensTraffic_settled, missingTurns_finished, hholds, ?_⟩
  rcases (unpaired_told_or_missed .transparent sevensTraffic sevensTraffic_settled missingTurns).1
    missingTurns_finished 1 "c" hholds with hpaired | htold | ⟨-, hstaged, -⟩ | hmissed
  · exact absurd hpaired hunpaired
  · exact absurd htold hnot
  · have hnone : ((sevensTraffic.run .transparent missingTurns).credentials 1).staged.isSome =
        false := by decide +kernel
    rw [hnone] at hstaged
    cases hstaged
  · exact hmissed

/-- The controller of sevens is not paired any more, and no request is under way; but connection 1
is encrypted for it and was not told to close. -/
theorem missed_keeps_keys :
    let system := sevensTraffic.run .transparent missingTurns
    system.Finished ∧ system.accessory.registry.controllerOf 1 = some "c" ∧
      system.IsExposed 1 "c" :=
  ⟨missingTurns_finished, by decide +kernel, missingTurns_exposes⟩

end HomeKit.PairingTraffic
