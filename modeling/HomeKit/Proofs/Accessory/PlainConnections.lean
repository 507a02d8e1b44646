import HomeKit.Proofs.Accessory.Writes
import HomeKit.Proofs.Calls

/-!
# Connections that are not encrypted

Before its connection is encrypted, a controller can have the accessory pair, verify and identify,
and these run through the machines of the connection and through the store. None of it reads the
document of the attribute database or writes to it, so two accessories that differ in their
documents answer such connections alike, whatever they ask for, and differ in their documents only
ever after (`Accessory.plain_answers_eq`). Documents, subscriptions and events stay as they are.

A request is either refused, or it changes what a session and the store have for pairing
(`Accessory.KeepsData`).
-/

namespace HomeKit.Accessory

variable {suite : CipherSuite} {accessory before mid after : Accessory} {conn : ConnectionId}
  {request : Http.Request}

/-! ## Another document -/

/-- The accessory with another document. -/
def withDocument (accessory : Accessory) (document : Json) : Accessory :=
  { accessory with database := { accessory.database with document } }

/-- What is answered when a request arrives on a connection. -/
def answer (suite : CipherSuite) (accessory : Accessory)
    (arrival : ConnectionId × Http.Request) : Routed × Accessory :=
  accessory.handle suite arrival.1 arrival.2

theorem pairSetup_withDocument (suite : CipherSuite) (accessory : Accessory) (document : Json)
    (conn : ConnectionId) (body : Bytes) :
    (accessory.withDocument document).pairSetup suite conn body =
      (accessory.pairSetup suite conn body).map id (·.withDocument document) :=
  rfl

theorem pairVerify_withDocument (suite : CipherSuite) (accessory : Accessory) (document : Json)
    (conn : ConnectionId) (body : Bytes) :
    (accessory.withDocument document).pairVerify suite conn body =
      (accessory.pairVerify suite conn body).map id (·.withDocument document) := by
  unfold pairVerify settlePairVerify
  have hrun : (accessory.withDocument document).runPairVerify suite conn body =
      (accessory.runPairVerify suite conn body).map id (·.map id (·.withDocument document)) := rfl
  rw [hrun]
  rcases accessory.runPairVerify suite conn body with ⟨response, machine, after⟩
  simp only [Prod.map, id_eq]
  cases response.verified with
  | none => rfl
  | some verified => rfl

theorem serve_withDocument (suite : CipherSuite) (accessory : Accessory) (document : Json)
    (conn : ConnectionId) (request : Http.Request) {endpoint : Endpoint}
    (hopen : endpoint.isOpen = true) :
    (accessory.withDocument document).serve suite conn request endpoint =
      (accessory.serve suite conn request endpoint).map id (·.withDocument document) := by
  unfold serve
  cases endpoint with
  | pairSetup =>
    cases request.method with
    | post => exact pairSetup_withDocument ..
    | _ => rfl
  | pairVerify =>
    cases request.method with
    | post => exact pairVerify_withDocument ..
    | _ => rfl
  | identify => cases request.method <;> rfl
  | pairings => cases hopen
  | accessories => cases hopen
  | characteristics => cases hopen

/-- On a connection that is not encrypted, the path decides whether a request is refused. -/
theorem handle_plain (suite : CipherSuite) (request : Http.Request)
    (hplain : accessory.registry.isEncrypted conn = false) :
    accessory.handle suite conn request =
      match (Endpoint.ofPath? request.path).filter (·.isOpen) with
      | some endpoint => accessory.serve suite conn request endpoint
      | none => ({ response := statusResponse 470 .insufficientPrivileges }, accessory) := by
  unfold handle
  simp only [hplain]
  cases Endpoint.ofPath? request.path with
  | none => rfl
  | some endpoint => cases endpoint <;> rfl

/-- The document makes no difference to a connection that is not encrypted. -/
theorem handle_withDocument (suite : CipherSuite) (document : Json) (request : Http.Request)
    (hplain : accessory.registry.isEncrypted conn = false) :
    (accessory.withDocument document).handle suite conn request =
      (accessory.handle suite conn request).map id (·.withDocument document) := by
  have hplain' : (accessory.withDocument document).registry.isEncrypted conn = false := hplain
  rw [handle_plain suite request hplain, handle_plain suite request hplain']
  cases hendpoint : (Endpoint.ofPath? request.path).filter (·.isOpen) with
  | none => rfl
  | some endpoint =>
    obtain ⟨-, hopen⟩ := Option.filter_eq_some_iff.1 hendpoint
    exact serve_withDocument suite accessory document conn request hopen

/-! ## What is kept -/

/-- The document, all subscriptions with their index and all that waits to be sent are the same, and
so are the connections that are encrypted. -/
structure KeepsData (before after : Accessory) : Prop where
  unaltered : Unaltered before after
  subscribers : after.registry.subscribers = before.registry.subscribers
  isEncrypted : ∀ conn, after.registry.isEncrypted conn = before.registry.isEncrypted conn

theorem KeepsData.refl (accessory : Accessory) : KeepsData accessory accessory :=
  ⟨⟨rfl, fun _ => rfl, fun _ => rfl⟩, rfl, fun _ => rfl⟩

theorem KeepsData.trans (h : KeepsData before mid) (h' : KeepsData mid after) :
    KeepsData before after := by
  refine ⟨⟨?_, ?_, ?_⟩, h'.subscribers.trans h.subscribers, ?_⟩
  · exact h'.unaltered.document.trans h.unaltered.document
  · exact fun conn => (h'.unaltered.subscriptions conn).trans (h.unaltered.subscriptions conn)
  · exact fun conn => (h'.unaltered.outbox conn).trans (h.unaltered.outbox conn)
  · exact fun conn => (h'.isEncrypted conn).trans (h.isEncrypted conn)

/-- A session may change in anything but its subscriptions and its cipher. -/
theorem keepsData_modifySession (accessory : Accessory) (conn : ConnectionId)
    {f : Session → Session}
    (hsubscriptions : ∀ session, (f session).subscriptions = session.subscriptions)
    (hcipher : ∀ session, (f session).cipher = session.cipher) :
    KeepsData accessory (accessory.modifySession conn f) := by
  have hsession : ∀ other, (accessory.modifySession conn f).registry.session other =
      if conn = other then f (accessory.registry.session conn)
      else accessory.registry.session other :=
    fun other => Registry.session_modify accessory.registry conn other f
  refine ⟨⟨rfl, ?_, fun _ => rfl⟩, rfl, ?_⟩
  · intro other
    rw [hsession]
    split
    · rename_i heq
      rw [hsubscriptions, heq]
    · rfl
  · intro other
    rw [Registry.isEncrypted_eq, Registry.isEncrypted_eq, Registry.credentials, hsession]
    split
    · rename_i heq
      simp only [Session.credentials, hcipher, heq, Registry.credentials]
    · rfl

/-- So may the store, the attempts at pairing and the randomness. -/
theorem keepsData_shared (accessory : Accessory) (shared : SetupShared) :
    KeepsData accessory { accessory with toSetupShared := shared } :=
  ⟨⟨rfl, fun _ => rfl, fun _ => rfl⟩, rfl, fun _ => rfl⟩

theorem keepsData_pairSetup (suite : CipherSuite) (accessory : Accessory) (conn : ConnectionId)
    (body : Bytes) : KeepsData accessory (accessory.pairSetup suite conn body).2 := by
  unfold pairSetup
  exact (keepsData_shared accessory _).trans (keepsData_modifySession _ conn
    (f := fun session => { session with pairSetup := some _ }) (fun _ => rfl) (fun _ => rfl))

theorem keepsData_runPairVerify (suite : CipherSuite) (accessory : Accessory)
    (conn : ConnectionId) (body : Bytes) :
    KeepsData accessory (accessory.runPairVerify suite conn body).2.2 := by
  unfold runPairVerify
  exact (keepsData_modifySession accessory conn
    (f := fun session => { session with pairVerify := none }) (fun _ => rfl)
    (fun _ => rfl)).trans (keepsData_shared _ { accessory.toSetupShared with random := _ })

/-- The keys of a verified controller are staged, which does not encrypt the connection yet. -/
theorem keepsData_settlePairVerify (accessory : Accessory) (conn : ConnectionId)
    (response : VerifyResponse) (machine : PairVerify) :
    KeepsData accessory (accessory.settlePairVerify conn response machine).2 := by
  unfold settlePairVerify
  cases response.verified with
  | none =>
    exact keepsData_modifySession accessory conn
      (f := fun session => { session with pairVerify := some machine }) (fun _ => rfl)
      (fun _ => rfl)
  | some verified =>
    exact keepsData_modifySession accessory conn
      (f := fun session =>
        { session with controller := some verified.id, staged := some verified.keys })
      (fun _ => rfl) (fun _ => rfl)

theorem keepsData_serve (suite : CipherSuite) (accessory : Accessory) (conn : ConnectionId)
    (request : Http.Request) {endpoint : Endpoint} (hopen : endpoint.isOpen = true) :
    KeepsData accessory (accessory.serve suite conn request endpoint).2 := by
  unfold serve
  cases endpoint with
  | pairSetup =>
    cases request.method with
    | post => exact keepsData_pairSetup suite accessory conn request.body
    | _ => exact .refl accessory
  | pairVerify =>
    cases request.method with
    | post =>
      exact (keepsData_runPairVerify suite accessory conn request.body).trans
        (keepsData_settlePairVerify ..)
    | _ => exact .refl accessory
  | identify =>
    cases request.method with
    | post => exact .refl accessory
    | _ => exact .refl accessory
  | pairings => cases hopen
  | accessories => cases hopen
  | characteristics => cases hopen

theorem keepsData_handle (suite : CipherSuite) (request : Http.Request)
    (hplain : accessory.registry.isEncrypted conn = false) :
    KeepsData accessory (accessory.handle suite conn request).2 := by
  rw [handle_plain suite request hplain]
  cases hendpoint : (Endpoint.ofPath? request.path).filter (·.isOpen) with
  | none => exact .refl accessory
  | some endpoint =>
    obtain ⟨-, hopen⟩ := Option.filter_eq_some_iff.1 hendpoint
    exact keepsData_serve suite accessory conn request hopen

/-! ## Whole runs -/

/-- The accessory after requests have arrived on connections. -/
def answerAll (suite : CipherSuite) (accessory : Accessory)
    (arrivals : List (ConnectionId × Http.Request)) : Accessory :=
  Calls.after (answer suite) accessory arrivals

theorem keepsData_answerAll (suite : CipherSuite) (arrivals : List (ConnectionId × Http.Request))
    (hplain : ∀ arrival ∈ arrivals, accessory.registry.isEncrypted arrival.1 = false) :
    KeepsData accessory (accessory.answerAll suite arrivals) := by
  induction arrivals generalizing accessory with
  | nil => exact .refl accessory
  | cons arrival rest ih =>
    obtain ⟨hfirst, hrest⟩ := List.forall_mem_cons.1 hplain
    have hstep := keepsData_handle suite arrival.2 hfirst
    refine hstep.trans (ih fun later hlater => ?_)
    exact (hstep.isEncrypted later.1).trans (hrest later hlater)

/-- Runs that begin with different documents give the same answers, and differ in the document
only. -/
theorem answers_withDocument (suite : CipherSuite) (document : Json)
    (arrivals : List (ConnectionId × Http.Request))
    (hplain : ∀ arrival ∈ arrivals, accessory.registry.isEncrypted arrival.1 = false) :
    Calls.outcomes (answer suite) (accessory.withDocument document) arrivals =
        Calls.outcomes (answer suite) accessory arrivals ∧
      (accessory.withDocument document).answerAll suite arrivals =
        (accessory.answerAll suite arrivals).withDocument document := by
  induction arrivals generalizing accessory with
  | nil => exact ⟨rfl, rfl⟩
  | cons arrival rest ih =>
    obtain ⟨hfirst, hrest⟩ := List.forall_mem_cons.1 hplain
    have hkeeps := keepsData_handle suite arrival.2 hfirst
    have hplain' : ∀ later ∈ rest,
        (accessory.answer suite arrival).2.registry.isEncrypted later.1 = false :=
      fun later hlater => (hkeeps.isEncrypted later.1).trans (hrest later hlater)
    obtain ⟨houtcomes, hafter⟩ := ih hplain'
    have hstep : (accessory.withDocument document).answer suite arrival =
        (accessory.answer suite arrival).map id (·.withDocument document) :=
      handle_withDocument suite document arrival.2 hfirst
    rw [Calls.outcomes, Calls.outcomes, answerAll, answerAll, Calls.after, Calls.after,
      List.foldl_cons, List.foldl_cons, hstep]
    exact ⟨congrArg _ houtcomes, hafter⟩

/-- Connections that are not encrypted neither observe nor change what an accessory is for: whatever
requests arrive on them, in whatever order, the answers are the same for any two documents, and the
accessories differ in their documents only when all are answered; each document is then what it was,
and so are all subscriptions, their index, and all that waits to be sent. -/
theorem plain_answers_eq (suite : CipherSuite) (accessory : Accessory)
    (arrivals : List (ConnectionId × Http.Request))
    (hplain : ∀ arrival ∈ arrivals, accessory.registry.isEncrypted arrival.1 = false)
    (first second : Json) :
    let answers := fun document =>
      Calls.outcomes (answer suite) (accessory.withDocument document) arrivals
    let final := fun document => (accessory.withDocument document).answerAll suite arrivals
    answers first = answers second ∧
    (final first).withDocument second = final second ∧
    ∀ document, KeepsData (accessory.withDocument document) (final document) := by
  intro answers final
  have hsame : ∀ document, answers document = Calls.outcomes (answer suite) accessory arrivals ∧
      final document = (accessory.answerAll suite arrivals).withDocument document :=
    fun document => answers_withDocument suite document arrivals hplain
  refine ⟨?_, ?_, ?_⟩
  · rw [(hsame first).1, (hsame second).1]
  · rw [(hsame first).2, (hsame second).2]
    rfl
  · exact fun document => keepsData_answerAll suite arrivals hplain

/-- One controller begins pair-verify and then asks for the accessories, another one tries to switch
the light on and has the accessory identify itself. -/
def plainArrivals : List (ConnectionId × Http.Request) :=
  [(2, { method := .post, path := "/pair-verify", body := PairVerify.ninesCall.request }),
    (2, { method := .get, path := "/accessories" }),
    (3, writeRequest "\x7b\"characteristics\":[\x7b\"aid\":1,\"iid\":10,\"value\":true\x7d]\x7d"),
    (3, { method := .post, path := "/identify" })]

theorem plain_answers_eq_lightbulb :
    let answers := fun document =>
      Calls.outcomes (answer .transparent) (lightbulbAccessory.withDocument document) plainArrivals
    let document := lightbulbAccessory.database.document
    let final := (lightbulbAccessory.withDocument document).answerAll .transparent plainArrivals
    lightbulbAccessory.registry.isEncrypted 1 = true ∧
      (answers document).map (·.response.status) = [200, 470, 470, 400] ∧
      answers document = answers .null ∧
      KeepsData (lightbulbAccessory.withDocument document) final := by
  intro answers document final
  have hplain : ∀ arrival ∈ plainArrivals,
      lightbulbAccessory.registry.isEncrypted arrival.1 = false := by
    decide +kernel
  obtain ⟨hanswers, -, hkeeps⟩ := plain_answers_eq .transparent lightbulbAccessory plainArrivals
    hplain document .null
  exact ⟨by decide +kernel, by decide +kernel, hanswers, hkeeps document⟩

end HomeKit.Accessory
