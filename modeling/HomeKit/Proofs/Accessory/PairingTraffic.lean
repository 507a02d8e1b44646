import HomeKit.Proofs.Accessory.Verified
import HomeKit.Proofs.Connection.Closing
import HomeKit.Proofs.Pairing.Changes

/-!
# Pair-verify and the management of pairings at the same time

Pair-verify and the management of pairings have two steps each, and between them other connections
are served (`PairingTraffic`): pair-verify looks the controller up and later stages its keys; a
removal takes the controller out of the store and later tells the connections whose session names it
to close.

What a turn does is listed once (`PairingTraffic.Move`). From it follows what becomes of the keys of
a connection (`PairingTraffic.Move.keyChange`), of the controllers that are paired or looked up, and
of who is served and who was told to close.
-/

namespace HomeKit

/-- The request of a connection that is under way. -/
inductive PairingTask where
  | waiting
  /-- Pair-verify has answered, and what comes of it is to be put into the session. -/
  | verifying (response : VerifyResponse) (machine : PairVerify)
  /-- The store has answered, and connections are to be told to close. -/
  | managing (response : PairingsResponse)
  /-- The connection closes after its answer. -/
  | closing

def PairingTask.isFinished : PairingTask → Bool
  | waiting | closing => true
  | verifying .. | managing _ => false

/-- An accessory with the requests that are under way. -/
structure PairingTraffic where
  accessory : Accessory
  tasks : ConnectionId → PairingTask := fun _ => .waiting
  /-- The controller that the keys in use were staged for. -/
  activeFor : ConnectionId → Option String := fun _ => none

/-- What happens next. -/
inductive PairingTurn where
  /-- A connection is accepted. -/
  | attach (conn : ConnectionId) (capacity : Nat)
  /-- Pair-verify answers a request. -/
  | verify (conn : ConnectionId) (body : Bytes)
  /-- What comes of pair-verify is put into the session. -/
  | stage (conn : ConnectionId)
  /-- Staged keys are put to use. -/
  | activate (conn : ConnectionId)
  /-- The store answers a request to manage pairings. -/
  | manage (conn : ConnectionId) (body : Bytes)
  /-- The connections of controllers that were unpaired are told to close. -/
  | close (conn : ConnectionId)

def PairingTurn.conn : PairingTurn → ConnectionId
  | attach conn _ | verify conn _ | stage conn | activate conn | manage conn _ | close conn => conn

namespace PairingTraffic

variable (suite : CipherSuite)

def store (system : PairingTraffic) : IdentityStore :=
  system.accessory.store

def credentials (system : PairingTraffic) (conn : ConnectionId) : Credentials :=
  system.accessory.credentials conn

def outbox? (system : PairingTraffic) (conn : ConnectionId) : Option Outbox :=
  system.accessory.connections.outbox? conn

/-- The connection has a session to which messages can be sent. -/
def isServed (system : PairingTraffic) (conn : ConnectionId) : Bool :=
  system.accessory.registry.isAttached conn && (system.outbox? conn).isSome

/-- The accessory changes, and what is under way on a connection. -/
def withTask (system : PairingTraffic) (conn : ConnectionId) (accessory : Accessory)
    (task : PairingTask) : PairingTraffic :=
  { system with accessory, tasks := Function.update system.tasks conn task }

@[simp] theorem tasks_withTask (system : PairingTraffic) (conn : ConnectionId)
    (accessory : Accessory) (task : PairingTask) :
    (system.withTask conn accessory task).tasks conn = task :=
  Function.update_self ..

/-- One thing happens. A connection has one request at a time. -/
def turn (system : PairingTraffic) : PairingTurn → PairingTraffic
  | .attach conn capacity =>
    if (system.accessory.registry.session? conn).isSome || (system.outbox? conn).isSome then system
    else
      { system with accessory := { system.accessory with
          connections := system.accessory.connections.attach conn capacity } }
  | .verify conn body =>
    match system.tasks conn with
    | .waiting =>
      if system.isServed conn then
        let (response, machine, accessory) := system.accessory.runPairVerify suite conn body
        system.withTask conn accessory (.verifying response machine)
      else system
    | _ => system
  | .stage conn =>
    match system.tasks conn with
    | .verifying response machine =>
      system.withTask conn (system.accessory.settlePairVerify conn response machine).2 .waiting
    | _ => system
  | .activate conn =>
    match (system.credentials conn).staged with
    | some _ =>
      { system with
        accessory := system.accessory.setRegistry (system.accessory.registry.activate conn)
        activeFor := Function.update system.activeFor conn (system.credentials conn).controller }
    | none => system
  | .manage conn body =>
    match system.tasks conn with
    | .waiting =>
      let (response, accessory) := system.accessory.runPairings conn body
      system.withTask conn accessory (.managing response)
    | _ => system
  | .close conn =>
    match system.tasks conn with
    | .managing response =>
      let (routed, accessory) := system.accessory.closeUnpaired conn response
      system.withTask conn accessory (if routed.close then .closing else .waiting)
    | _ => system

def run (system : PairingTraffic) (turns : List PairingTurn) : PairingTraffic :=
  turns.foldl (turn suite) system

theorem run_concat (system : PairingTraffic) (turns : List PairingTurn) (last : PairingTurn) :
    system.run suite (turns ++ [last]) = (system.run suite turns).turn suite last :=
  List.foldl_append

variable {suite} {system after : PairingTraffic} {conn other : ConnectionId} {id : String}
  {next : PairingTurn}

/-! ## What can be said of a connection -/

/-- The session holds keys for the controller, staged or in use. -/
def HoldsKeysFor (system : PairingTraffic) (conn : ConnectionId) (id : String) : Prop :=
  (system.credentials conn).staged.isSome = true ∧ (system.credentials conn).controller = some id ∨
    (system.credentials conn).keys.isSome = true ∧ system.activeFor conn = some id

/-- The session has keys and names the controller. -/
def Names (system : PairingTraffic) (conn : ConnectionId) (id : String) : Prop :=
  (system.credentials conn).controller = some id ∧
    ((system.credentials conn).staged.isSome = true ∨ (system.credentials conn).keys.isSome = true)

/-- The keys in use are for the controller, and others are staged, for another one. -/
def IsSuperseded (system : PairingTraffic) (conn : ConnectionId) (id : String) : Prop :=
  system.activeFor conn = some id ∧ (system.credentials conn).staged.isSome = true ∧
    (system.credentials conn).controller ≠ some id

/-- Pair-verify has looked the controller up, and its keys are to be staged. -/
def IsVerifying (system : PairingTraffic) (conn : ConnectionId) (id : String) : Prop :=
  ∃ response machine verified, system.tasks conn = .verifying response machine ∧
    response.verified = some verified ∧ verified.id = id

/-- The controller was removed, and its connections are to be told to close. -/
def IsRemoving (system : PairingTraffic) (conn : ConnectionId) (id : String) : Prop :=
  ∃ response, system.tasks conn = .managing response ∧ id ∈ response.removed

def IsPaired (system : PairingTraffic) (id : String) : Prop :=
  (system.store.controller? id).isSome = true

/-- The connection was told to close, or closes after its answer. -/
def ToldToClose (system : PairingTraffic) (conn : ConnectionId) : Prop :=
  system.tasks conn = .closing ∨
    ∃ outbox, system.outbox? conn = some outbox ∧ outbox.closeRequested = true

/-- No request is under way. -/
def Finished (system : PairingTraffic) : Prop :=
  ∀ conn, (system.tasks conn).isFinished = true

/-- A removal tells connections to close, and misses one on which the controller is about to get its
keys. -/
def Misses (suite : CipherSuite) (system : PairingTraffic) (other conn : ConnectionId)
    (id : String) : Prop :=
  system.IsRemoving other id ∧ system.IsVerifying conn id ∧ ¬ system.IsPaired id ∧
    ¬ (system.turn suite (.close other)).ToldToClose conn

/-- In the course of the turns a removal missed the connection. -/
def Missed (suite : CipherSuite) (start : PairingTraffic) (turns : List PairingTurn)
    (conn : ConnectionId) (id : String) : Prop :=
  ∃ before other later, turns = before ++ .close other :: later ∧
    Misses suite (start.run suite before) other conn id

/-- The keys in use are for the controller that the session names, unless others are staged. -/
def KnowsActive (system : PairingTraffic) : Prop :=
  ∀ conn, (system.credentials conn).keys.isSome = true → (system.credentials conn).staged = none →
    system.activeFor conn = (system.credentials conn).controller

/-- Before the first of some turns: nothing is under way, the keys in use are for the controller
that the session names unless others are staged, and whoever has keys is served and is paired or was
told to close. -/
structure Settled (system : PairingTraffic) : Prop where
  reachable : system.store.Reachable
  waiting : ∀ conn, system.tasks conn = .waiting
  active : system.KnowsActive
  served : ∀ conn id, system.Names conn id → system.isServed conn = true
  paired : ∀ conn id, system.Names conn id → system.IsPaired id ∨ system.ToldToClose conn

/-! ## What one turn does -/

/-- What can come of a turn. -/
inductive Move (suite : CipherSuite) (system : PairingTraffic) : PairingTurn → PairingTraffic → Prop
  | void {next : PairingTurn} : Move suite system next system
  | attached {conn : ConnectionId} {capacity : Nat}
      (hsession : system.accessory.registry.session? conn = none)
      (houtbox : system.outbox? conn = none) :
    Move suite system (.attach conn capacity)
      { system with accessory := { system.accessory with
          connections := system.accessory.connections.attach conn capacity } }
  | verified {conn : ConnectionId} {body : Bytes} (htask : system.tasks conn = .waiting)
      (hserved : system.isServed conn = true) :
    Move suite system (.verify conn body)
      (system.withTask conn (system.accessory.runPairVerify suite conn body).2.2
        (.verifying (system.accessory.runPairVerify suite conn body).1
          (system.accessory.runPairVerify suite conn body).2.1))
  | staged {conn : ConnectionId} {response : VerifyResponse} {machine : PairVerify}
      (htask : system.tasks conn = .verifying response machine) :
    Move suite system (.stage conn)
      (system.withTask conn (system.accessory.settlePairVerify conn response machine).2 .waiting)
  | activated {conn : ConnectionId} {keys : SessionKeys}
      (hstaged : (system.credentials conn).staged = some keys) :
    Move suite system (.activate conn)
      { system with
        accessory := system.accessory.setRegistry (system.accessory.registry.activate conn)
        activeFor := Function.update system.activeFor conn (system.credentials conn).controller }
  | managed {conn : ConnectionId} {body : Bytes} (htask : system.tasks conn = .waiting) :
    Move suite system (.manage conn body)
      (system.withTask conn (system.accessory.runPairings conn body).2
        (.managing (system.accessory.runPairings conn body).1))
  | closed {conn : ConnectionId} {response : PairingsResponse}
      (htask : system.tasks conn = .managing response) :
    Move suite system (.close conn)
      (system.withTask conn (system.accessory.closeUnpaired conn response).2
        (if (system.accessory.closeUnpaired conn response).1.close then .closing else .waiting))

theorem turn_move (suite : CipherSuite) (system : PairingTraffic) (next : PairingTurn) :
    Move suite system next (system.turn suite next) := by
  cases next with
  | attach conn capacity =>
    simp only [turn]
    split
    · exact .void
    · rename_i hnew
      simp only [Bool.or_eq_true, not_or, Bool.not_eq_true, Option.isSome_eq_false_iff,
        Option.isNone_iff_eq_none] at hnew
      exact .attached hnew.1 hnew.2
  | verify conn body =>
    cases htask : system.tasks conn with
    | waiting =>
      unfold turn
      simp only [htask]
      split
      · rename_i hserved
        exact .verified htask hserved
      · exact .void
    | verifying response machine => simp only [turn, htask]; exact .void
    | managing response => simp only [turn, htask]; exact .void
    | closing => simp only [turn, htask]; exact .void
  | stage conn =>
    cases htask : system.tasks conn with
    | verifying response machine =>
      simp only [turn, htask]
      exact .staged htask
    | waiting => simp only [turn, htask]; exact .void
    | managing response => simp only [turn, htask]; exact .void
    | closing => simp only [turn, htask]; exact .void
  | activate conn =>
    cases hstaged : (system.credentials conn).staged with
    | some keys =>
      simp only [turn, hstaged]
      exact .activated hstaged
    | none => simp only [turn, hstaged]; exact .void
  | manage conn body =>
    cases htask : system.tasks conn with
    | waiting =>
      simp only [turn, htask]
      exact .managed htask
    | verifying response machine => simp only [turn, htask]; exact .void
    | managing response => simp only [turn, htask]; exact .void
    | closing => simp only [turn, htask]; exact .void
  | close conn =>
    cases htask : system.tasks conn with
    | managing response =>
      simp only [turn, htask]
      exact .closed htask
    | waiting => simp only [turn, htask]; exact .void
    | verifying response machine => simp only [turn, htask]; exact .void
    | closing => simp only [turn, htask]; exact .void

/-! ## Tasks -/

theorem Move.tasks_of_ne (hmove : Move suite system next after) (hne : conn ≠ next.conn) :
    after.tasks conn = system.tasks conn := by
  cases hmove with
  | void => rfl
  | attached hsession houtbox => rfl
  | verified htask hserved => exact Function.update_of_ne hne ..
  | staged htask => exact Function.update_of_ne hne ..
  | activated hstaged => rfl
  | managed htask => exact Function.update_of_ne hne ..
  | closed htask => exact Function.update_of_ne hne ..

/-- What a connection is removing stays to be told until it tells. -/
theorem Move.isRemoving (hmove : Move suite system next after) (h : system.IsRemoving other id) :
    after.IsRemoving other id ∨ next = .close other := by
  obtain ⟨response, htask, hremoved⟩ := h
  by_cases hconn : other = next.conn
  · subst hconn
    cases hmove with
    | void => exact .inl ⟨response, htask, hremoved⟩
    | attached hsession houtbox => exact .inl ⟨response, htask, hremoved⟩
    | verified hwaiting hserved =>
      rw [PairingTurn.conn, hwaiting] at htask
      cases htask
    | staged hverifying =>
      rw [PairingTurn.conn, hverifying] at htask
      cases htask
    | activated hstaged => exact .inl ⟨response, htask, hremoved⟩
    | managed hwaiting =>
      rw [PairingTurn.conn, hwaiting] at htask
      cases htask
    | closed hmanaging => exact .inr rfl
  · exact .inl ⟨response, (hmove.tasks_of_ne hconn).trans htask, hremoved⟩

/-! ## Keys -/

/-- What becomes of the keys of a connection. -/
inductive KeyChange (system : PairingTraffic) (next : PairingTurn) (after : PairingTraffic)
    (conn : ConnectionId) : Prop
  | none (hcredentials : after.credentials conn = system.credentials conn)
      (hactive : after.activeFor conn = system.activeFor conn)
  | staged {verified : VerifiedController} (hnext : next = .stage conn)
      (hverifying : system.IsVerifying conn verified.id)
      (hcredentials : after.credentials conn =
        (system.credentials conn).stage verified.id verified.keys)
      (hactive : after.activeFor conn = system.activeFor conn)
  | activated {keys : SessionKeys} (hstaged : (system.credentials conn).staged = some keys)
      (hcredentials : after.credentials conn =
        { system.credentials conn with staged := Option.none, keys := some keys })
      (hactive : after.activeFor conn = (system.credentials conn).controller)

theorem Move.keyChange (hmove : Move suite system next after) (conn : ConnectionId) :
    KeyChange system next after conn := by
  cases hmove with
  | void => exact .none rfl rfl
  | attached hsession houtbox => exact .none (Registry.credentials_attach ..) rfl
  | verified htask hserved => exact .none (Accessory.credentials_runPairVerify ..) rfl
  | @staged staging response machine htask =>
    have hcredentials :=
      Accessory.credentials_settlePairVerify system.accessory staging response machine conn
    cases hverified : response.verified with
    | none =>
      rw [hverified] at hcredentials
      exact .none hcredentials rfl
    | some verified =>
      simp only [hverified] at hcredentials
      by_cases hconn : staging = conn
      · subst hconn
        rw [if_pos rfl] at hcredentials
        exact .staged rfl ⟨response, machine, verified, htask, hverified, rfl⟩ hcredentials rfl
      · rw [if_neg hconn] at hcredentials
        exact .none hcredentials rfl
  | @activated activating keys hstaged =>
    have hcredentials :=
      Registry.credentials_activate system.accessory.registry activating conn
    by_cases hconn : activating = conn
    · subst hconn
      rw [if_pos rfl] at hcredentials
      refine .activated hstaged (hcredentials.trans ?_) (Function.update_self ..)
      unfold Credentials.activate
      split
      · rename_i found hfound
        rw [show found = keys from Option.some.inj (hfound.symm.trans hstaged)]
        rfl
      · rename_i hnone
        exact absurd (hnone.symm.trans hstaged) nofun
    · rw [if_neg hconn] at hcredentials
      exact .none hcredentials (Function.update_of_ne (Ne.symm hconn) ..)
  | managed htask => exact .none rfl rfl
  | closed htask =>
    refine .none ?_ rfl
    unfold credentials withTask Accessory.closeUnpaired Accessory.credentials Accessory.registry
    simp only
    rw [Connections.foldl_registry Connections.requestClose_registry]

/-- A session names a controller with keys since it was verified. -/
theorem KeyChange.names (h : KeyChange system next after conn) (hnames : after.Names conn id) :
    system.Names conn id ∨ next = .stage conn ∧ system.IsVerifying conn id := by
  obtain ⟨hcontroller, hkeys⟩ := hnames
  cases h with
  | none hcredentials hactive =>
    rw [hcredentials] at hcontroller hkeys
    exact .inl ⟨hcontroller, hkeys⟩
  | staged hnext hverifying hcredentials hactive =>
    rw [hcredentials] at hcontroller
    cases hcontroller
    exact .inr ⟨hnext, hverifying⟩
  | activated hstaged hcredentials hactive =>
    rw [hcredentials] at hcontroller
    exact .inl ⟨hcontroller, .inl (by rw [hstaged]; rfl)⟩

theorem Move.knowsActive (hmove : Move suite system next after) (h : system.KnowsActive) :
    after.KnowsActive := by
  intro conn hkeys hstaged
  cases hmove.keyChange conn with
  | none hcredentials hactive =>
    rw [hcredentials] at hkeys hstaged ⊢
    rw [hactive]
    exact h conn hkeys hstaged
  | staged hnext hverifying hcredentials hactive =>
    rw [hcredentials] at hstaged
    cases hstaged
  | activated hbefore hcredentials hactive =>
    rw [hactive, hcredentials]

/-- A session that holds keys for a controller names it, unless they are superseded. -/
theorem KnowsActive.names_or (h : system.KnowsActive) (hholds : system.HoldsKeysFor conn id) :
    system.Names conn id ∨ system.IsSuperseded conn id := by
  rcases hholds with ⟨hstaged, hcontroller⟩ | ⟨hkeys, hactive⟩
  · exact .inl ⟨hcontroller, .inl hstaged⟩
  · by_cases hcontroller : (system.credentials conn).controller = some id
    · exact .inl ⟨hcontroller, .inr hkeys⟩
    · refine .inr ⟨hactive, ?_, hcontroller⟩
      cases hstaged : (system.credentials conn).staged with
      | some keys => rfl
      | none => exact absurd ((h conn hkeys hstaged).symm.trans hactive) hcontroller

/-! ## Pairings -/

theorem Move.reachable (hmove : Move suite system next after) (h : system.store.Reachable) :
    after.store.Reachable := by
  cases hmove with
  | void => exact h
  | attached hsession houtbox => exact h
  | verified htask hserved => exact h
  | @staged staging response machine htask =>
    unfold store withTask Accessory.settlePairVerify
    cases response.verified with
    | none => exact h
    | some verified => exact h
  | activated hstaged => exact h
  | managed htask => exact h.handlePairings _ _
  | closed htask => exact h

/-- A controller that is not paired any more was removed by a request that is under way. -/
theorem Move.isPaired (hmove : Move suite system next after) (h : system.IsPaired id) :
    after.IsPaired id ∨ ∃ conn, after.IsRemoving conn id := by
  cases hmove with
  | void => exact .inl h
  | attached hsession houtbox => exact .inl h
  | verified htask hserved => exact .inl h
  | @staged staging response machine htask =>
    left
    unfold IsPaired store withTask Accessory.settlePairVerify
    cases response.verified with
    | none => exact h
    | some verified => exact h
  | activated hstaged => exact .inl h
  | @managed conn body htask =>
    rcases system.store.paired_or_removed (system.accessory.registry.controllerOf conn) body h with
      hpaired | hremoved
    · exact .inl hpaired
    · exact .inr ⟨conn, _, Function.update_self .., hremoved⟩
  | closed htask => exact .inl h

/-- A controller that pair-verify has looked up was paired then. -/
theorem Move.isVerifying (hmove : Move suite system next after)
    (hreachable : system.store.Reachable) (h : after.IsVerifying conn id) :
    system.IsVerifying conn id ∨ system.isServed conn = true ∧ after.IsPaired id := by
  obtain ⟨response, machine, verified, htask, hverified, rfl⟩ := h
  by_cases hconn : conn = next.conn
  · subst hconn
    cases hmove with
    | void => exact .inl ⟨response, machine, verified, htask, hverified, rfl⟩
    | attached hsession houtbox => exact .inl ⟨response, machine, verified, htask, hverified, rfl⟩
    | @verified conn body hwaiting hserved =>
      rw [PairingTurn.conn, tasks_withTask, PairingTask.verifying.injEq] at htask
      obtain ⟨rfl, -⟩ := htask
      exact .inr ⟨hserved, PairVerify.isSome_of_verified hreachable hverified⟩
    | staged hverifying =>
      rw [PairingTurn.conn, tasks_withTask] at htask
      cases htask
    | activated hstaged => exact .inl ⟨response, machine, verified, htask, hverified, rfl⟩
    | managed hwaiting =>
      rw [PairingTurn.conn, tasks_withTask] at htask
      cases htask
    | closed hmanaging =>
      rw [PairingTurn.conn, tasks_withTask] at htask
      split at htask
      · cases htask
      · cases htask
  · rw [hmove.tasks_of_ne hconn] at htask
    exact .inl ⟨response, machine, verified, htask, hverified, rfl⟩

/-! ## Who is served, and who is told to close -/

theorem Move.isServed (hmove : Move suite system next after) (h : system.isServed conn = true) :
    after.isServed conn = true := by
  obtain ⟨hattached, houtbox⟩ := Bool.and_eq_true_iff.1 h
  refine Bool.and_eq_true_iff.2 ?_
  cases hmove with
  | void => exact ⟨hattached, houtbox⟩
  | @attached new capacity hsession hnone =>
    have hne : new ≠ conn := by
      rintro rfl
      rw [hnone] at houtbox
      cases houtbox
    refine ⟨(Registry.isAttached_attach _ hne).trans hattached, ?_⟩
    unfold outbox? Connections.outbox? Connections.attach
    simp only
    rw [Std.ExtTreeMap.getElem?_insert]
    split
    · rfl
    · exact houtbox
  | verified htask hserved =>
    exact ⟨(Registry.isAttached_setPairVerify ..).trans hattached, houtbox⟩
  | @staged staging response machine htask =>
    unfold withTask Accessory.settlePairVerify
    cases response.verified with
    | none => exact ⟨(Registry.isAttached_setPairVerify ..).trans hattached, houtbox⟩
    | some verified => exact ⟨(Registry.isAttached_stage ..).trans hattached, houtbox⟩
  | activated hstaged => exact ⟨(Registry.isAttached_activate ..).trans hattached, houtbox⟩
  | managed htask => exact ⟨hattached, houtbox⟩
  | closed htask =>
    unfold outbox? withTask Accessory.closeUnpaired Accessory.registry
    simp only
    rw [Connections.foldl_registry Connections.requestClose_registry,
      Connections.isSome_outbox?_foldl]
    exact ⟨hattached, houtbox⟩

/-- What a connection is told stays told. -/
theorem Move.toldToClose (hmove : Move suite system next after) (h : system.ToldToClose conn) :
    after.ToldToClose conn := by
  rcases h with htask | hasked
  · left
    by_cases hconn : conn = next.conn
    · subst hconn
      cases hmove with
      | void => exact htask
      | attached hsession houtbox => exact htask
      | verified hwaiting hserved =>
        rw [PairingTurn.conn, hwaiting] at htask
        cases htask
      | staged hverifying =>
        rw [PairingTurn.conn, hverifying] at htask
        cases htask
      | activated hstaged => exact htask
      | managed hwaiting =>
        rw [PairingTurn.conn, hwaiting] at htask
        cases htask
      | closed hmanaging =>
        rw [PairingTurn.conn, hmanaging] at htask
        cases htask
    · exact (hmove.tasks_of_ne hconn).trans htask
  · right
    cases hmove with
    | void => exact hasked
    | @attached new capacity hsession hnone =>
      obtain ⟨outbox, houtbox, hclose⟩ := hasked
      refine ⟨outbox, ?_, hclose⟩
      have hne : new ≠ conn := by
        rintro rfl
        rw [hnone] at houtbox
        cases houtbox
      unfold outbox? Connections.outbox? Connections.attach
      simp only
      rw [Std.ExtTreeMap.getElem?_insert, if_neg (by simpa using hne)]
      exact houtbox
    | verified htask hserved => exact hasked
    | @staged staging response machine htask =>
      unfold outbox? withTask Accessory.settlePairVerify
      cases response.verified with
      | none => exact hasked
      | some verified => exact hasked
    | activated hstaged => exact hasked
    | managed htask => exact hasked
    | closed htask => exact Connections.asksToClose_foldl hasked _

/-- The connections that name a removed controller are told to close. -/
theorem toldToClose_of_close (hnames : system.Names conn id) (hserved : system.isServed conn = true)
    (hremoving : system.IsRemoving other id) :
    (system.turn suite (.close other)).ToldToClose conn := by
  obtain ⟨response, htask, hremoved⟩ := hremoving
  obtain ⟨hattached, houtbox⟩ := Bool.and_eq_true_iff.1 hserved
  have htarget : conn ∈ response.removed.flatMap system.accessory.registry.connectionsOf :=
    List.mem_flatMap.2 ⟨id, hremoved, Registry.mem_connectionsOf_iff.2 hnames.1⟩
  simp only [turn, htask]
  by_cases hself : conn = other
  · subst hself
    left
    rw [tasks_withTask, if_pos]
    exact List.contains_iff_mem.2 htarget
  · right
    refine Connections.asksToClose_of_mem (List.mem_filter.2 ⟨htarget, ?_⟩) hattached houtbox
    exact bne_iff_ne.2 hself

end PairingTraffic

end HomeKit
