import HomeKit.Proofs.Accessory.Verified
import HomeKit.Proofs.Connection.Source
import HomeKit.Server.Basic

/-!
# What a step of the server leaves alone

A step of one connection changes the link of no other, and it takes no connection's encryption away
(`Server.Confined`), except that a connection that is closed forgets its session. On the connection
itself, only the reading side changes what was read and what is still to be looked at
(`Link.SameInput`), and it does so only when it looks at it (`Server.reading?`). So a step spares
the input of every connection but one (`Server.take_spares`).
-/

namespace HomeKit

open Std (ExtTreeMap)

/-! ## Connections -/

namespace Link

/-- Are requests still read from the connection? -/
def isLive (link : Link) : Bool :=
  match link.stage with
  | .done | .closed => false
  | .reading | .answering .. | .activating _ => true

/-- Both have read the same and have the same still to look at. -/
structure SameInput (after before : Link) : Prop where
  request : after.request = before.request
  buffered : after.buffered = before.buffered
  frames : after.frames = before.frames

theorem SameInput.refl (link : Link) : link.SameInput link :=
  ⟨rfl, rfl, rfl⟩

/-- The connection has the same input, and it is read from only if it was before. -/
structure Continues (after before : Link) : Prop extends after.SameInput before where
  isLive : after.isLive = true → before.isLive = true

theorem Continues.refl (link : Link) : link.Continues link :=
  ⟨.refl link, id⟩

/-- A connection that is read from no more. -/
theorem Continues.of_not_isLive {after before : Link} (hsame : after.SameInput before)
    (h : after.isLive = false) : after.Continues before :=
  ⟨hsame, fun hlive => absurd hlive (Bool.eq_false_iff.1 h)⟩

/-- A connection that was read from. -/
theorem Continues.of_isLive {after before : Link} (hsame : after.SameInput before)
    (h : before.isLive = true) : after.Continues before :=
  ⟨hsame, fun _ => h⟩

end Link

namespace Server

variable {suite : CipherSuite} {server after : Server} {conn other : ConnectionId} {link : Link}
  {choice : ReadChoice}

@[simp] theorem link?_setLink (server : Server) (conn other : ConnectionId) (link : Link) :
    (server.setLink conn link).link? other =
      if conn = other then some link else server.link? other := by
  unfold link? setLink
  simp only [ExtTreeMap.getElem?_insert, Std.LawfulEqOrd.compare_eq_iff_eq]

@[simp] theorem link?_setConnections (server : Server) (connections : Connections)
    (other : ConnectionId) : (server.setConnections connections).link? other = server.link? other :=
  rfl

theorem link?_modifyOutbox (server : Server) (conn other : ConnectionId) (f : Outbox → Outbox) :
    (server.modifyOutbox conn f).link? other = server.link? other :=
  rfl

theorem link?_finishReading (server : Server) (conn : ConnectionId) (link : Link) :
    (server.finishReading conn link).link? conn = some { link with stage := .done } := by
  unfold finishReading
  rw [link?_setConnections, link?_setLink, if_pos rfl]

theorem eq_of_link?_setLink {found : Link}
    (h : (server.setLink conn link).link? conn = some found) : found = link := by
  rw [link?_setLink, if_pos rfl] at h
  exact (Option.some.inj h).symm

theorem eq_of_link?_finishReading {found : Link}
    (h : (server.finishReading conn link).link? conn = some found) :
    found = { link with stage := .done } := by
  rw [link?_finishReading] at h
  exact (Option.some.inj h).symm

/-- A refusal may be answered, but the input stays as it is. -/
theorem sameInput_refuse {error : Error} {found : Link}
    (h : (server.refuse conn link error).link? conn = some found) : found.SameInput link := by
  unfold refuse at h
  split at h
  · obtain rfl := eq_of_link?_setLink h
    exact ⟨rfl, rfl, rfl⟩
  · obtain rfl := eq_of_link?_finishReading h
    exact ⟨rfl, rfl, rfl⟩

/-- The connection, if its reading side looks at what it has at a step. -/
def reading? (server : Server) (conn : ConnectionId) (choice : ReadChoice) : Option Link :=
  match server.link? conn, server.outbox? conn with
  | some link, some outbox =>
    if link.stage = .reading ∧ (outbox.closeRequested && choice.closesFirst) = false then some link
    else none
  | _, _ => none

/-- The request that the reading side of a connection routes at a step. -/
def routed? (server : Server) (conn : ConnectionId) (choice : ReadChoice) : Option Http.Request :=
  (server.reading? conn choice).bind fun link =>
    match link.request.feed link.buffered with
    | (.request request, _) => some request
    | _ => none

theorem link?_of_reading? (suite : CipherSuite) (h : server.reading? conn choice = some link) :
    server.link? conn = some link ∧ link.stage = .reading ∧
      server.readStep suite conn choice = server.readRequest suite conn link choice.order := by
  unfold reading? at h
  cases hlink : server.link? conn with
  | none =>
    rw [hlink] at h
    cases h
  | some found =>
    cases houtbox : server.outbox? conn with
    | none =>
      rw [hlink, houtbox] at h
      cases h
    | some outbox =>
      rw [hlink, houtbox] at h
      simp only at h
      split at h
      · rename_i hreading
        cases h
        refine ⟨rfl, hreading.1, ?_⟩
        unfold readStep
        rw [hlink, houtbox]
        simp only [hreading.1, hreading.2]
        rfl
      · cases h

/-- The step at which a request is routed answers it. -/
theorem readStep_of_routed? {request : Http.Request}
    (h : server.routed? conn choice = some request) :
    ∃ link, server.readStep suite conn choice =
      some (server.answer suite conn link choice.order request) := by
  obtain ⟨link, hreading, hrequest⟩ := Option.bind_eq_some_iff.1 h
  rw [(link?_of_reading? suite hreading).2.2]
  unfold readRequest
  split at hrequest
  · rename_i found rest hfeed
    cases hrequest
    rw [hfeed]
    exact ⟨_, rfl⟩
  · cases hrequest

/-! ## Encryption stays -/

/-- Is everything on the connection encrypted? -/
def isEncrypted (server : Server) (conn : ConnectionId) : Bool :=
  server.connections.registry.isEncrypted conn

/-- Only the link of one connection changes, and no encryption ends. -/
structure Confined (conn : ConnectionId) (before after : Server) : Prop where
  link?_eq : ∀ other, conn ≠ other → after.link? other = before.link? other
  isEncrypted : ∀ other, before.isEncrypted other = true → after.isEncrypted other = true

theorem Confined.refl (conn : ConnectionId) (server : Server) : Confined conn server server :=
  ⟨fun _ _ => rfl, fun _ h => h⟩

theorem Confined.trans {first second third : Server} (h : Confined conn first second)
    (h' : Confined conn second third) : Confined conn first third :=
  ⟨fun other hne => (h'.link?_eq other hne).trans (h.link?_eq other hne),
    fun other henc => h'.isEncrypted other (h.isEncrypted other henc)⟩

theorem Confined.setLink {before : Server} (h : Confined conn before after) (link : Link) :
    Confined conn before (after.setLink conn link) := by
  refine ⟨fun other hne => ?_, h.isEncrypted⟩
  rw [link?_setLink, if_neg hne]
  exact h.link?_eq other hne

theorem confined_setConnections (conn : ConnectionId) (server : Server) (connections : Connections)
    (h : ∀ other, server.connections.registry.isEncrypted other = true →
      connections.registry.isEncrypted other = true) :
    Confined conn server (server.setConnections connections) :=
  ⟨fun _ _ => rfl, h⟩

theorem confined_modifyOutbox (conn other : ConnectionId) (server : Server) (f : Outbox → Outbox) :
    Confined conn server (server.modifyOutbox other f) := by
  refine confined_setConnections conn server _ ?_
  rw [Connections.modifyOutbox_registry]
  exact fun _ h => h

theorem confined_finishReading (conn : ConnectionId) (server : Server) (link : Link) :
    Confined conn server (server.finishReading conn link) := by
  refine ((Confined.refl conn server).setLink _).trans (confined_setConnections conn _ _ ?_)
  exact fun other => Registry.isEncrypted_of_credentials (Registry.credentials_detach ..)

theorem confined_refuse (conn : ConnectionId) (server : Server) (link : Link) (error : Error) :
    Confined conn server (server.refuse conn link error) := by
  unfold refuse
  split
  · exact (Confined.refl conn server).setLink _
  · exact confined_finishReading conn server link

theorem confined_answer (suite : CipherSuite) (server : Server) (conn : ConnectionId) (link : Link)
    (order : Http.HeaderOrder) (request : Http.Request) :
    Confined conn server (server.answer suite conn link order request) := by
  have hhandle : Confined conn server
      { server with accessory := (server.accessory.handle suite conn request).2 } := by
    refine ⟨fun _ _ => rfl, fun other henc => ?_⟩
    exact Accessory.step_isEncrypted suite (.request conn request) nofun henc
  exact hhandle.setLink _

/-! ## The reading side -/

theorem confined_readMore {fresh : Bool}
    (h : server.readMore suite conn link fresh = some after) : Confined conn server after := by
  have hread : Confined conn server (server.setConnections { server.connections with
      registry := (link.frames.read suite conn server.connections.registry link.arrivals
        bufferSize).registry }) := by
    refine confined_setConnections conn server _ ?_
    exact fun other => Registry.isEncrypted_of_credentials (FrameReader.credentials_read ..)
  unfold readMore at h
  simp only at h
  split at h
  · split at h
    · cases h
    · cases h
      exact hread.setLink _
  · cases h
    exact hread.trans (confined_refuse ..)
  · split at h
    · cases h
      exact hread.trans (confined_refuse ..)
    · cases h
      exact hread.trans (confined_finishReading ..)
  · cases h
    exact hread.setLink _

theorem confined_readRequest {order : Http.HeaderOrder}
    (h : server.readRequest suite conn link order = some after) :
    Confined conn server after := by
  unfold readRequest at h
  split at h
  · cases h
    exact confined_answer ..
  · cases h
    exact confined_refuse ..
  · exact confined_readMore h

theorem confined_queueAnswer {outbox : Outbox} {bytes : Bytes} {activate close : Bool}
    (h : server.queueAnswer conn link outbox bytes activate close = some after) :
    Confined conn server after := by
  unfold queueAnswer at h
  split at h
  · cases h
    exact confined_finishReading ..
  · split at h
    · cases h
    · have hpush := confined_modifyOutbox conn conn server (·.push (.response bytes activate))
      simp only at h
      split at h
      · cases h
        exact hpush.setLink _
      · split at h
        · cases h
          exact hpush.trans (confined_finishReading ..)
        · cases h
          exact hpush.setLink _

theorem continues_queueAnswer {outbox : Outbox} {bytes : Bytes} {activate close : Bool}
    {found : Link} (hlive : link.isLive = true)
    (h : server.queueAnswer conn link outbox bytes activate close = some after)
    (hfound : after.link? conn = some found) : found.Continues link := by
  refine .of_isLive ?_ hlive
  unfold queueAnswer at h
  split at h
  · cases h
    obtain rfl := eq_of_link?_finishReading hfound
    exact ⟨rfl, rfl, rfl⟩
  · split at h
    · cases h
    · simp only at h
      split at h
      · cases h
        obtain rfl := eq_of_link?_setLink hfound
        exact ⟨rfl, rfl, rfl⟩
      · split at h
        · cases h
          obtain rfl := eq_of_link?_finishReading hfound
          exact ⟨rfl, rfl, rfl⟩
        · cases h
          obtain rfl := eq_of_link?_setLink hfound
          exact ⟨rfl, rfl, rfl⟩

theorem confined_readStep (h : server.readStep suite conn choice = some after) :
    Confined conn server after := by
  unfold readStep at h
  split at h
  · split at h
    · split at h
      · cases h
        exact confined_finishReading ..
      · exact confined_readRequest h
    · exact confined_queueAnswer h
    · split at h
      · cases h
        exact confined_finishReading ..
      · cases h
    · cases h
    · cases h
  · cases h

/-- A reading side that does not look at its input leaves it alone. -/
theorem continues_readStep {found : Link} (hlook : server.reading? conn choice = none)
    (h : server.readStep suite conn choice = some after) (hfound : after.link? conn = some found) :
    ∃ link, server.link? conn = some link ∧ found.Continues link := by
  have hfinish : ∀ link, (server.finishReading conn link).link? conn = some found →
      found.Continues link := by
    intro link h
    obtain rfl := eq_of_link?_finishReading h
    exact .of_not_isLive ⟨rfl, rfl, rfl⟩ rfl
  unfold reading? at hlook
  unfold readStep at h
  cases hlink : server.link? conn with
  | none =>
    rw [hlink] at h
    cases h
  | some link =>
    refine ⟨link, rfl, ?_⟩
    cases houtbox : server.outbox? conn with
    | none =>
      rw [hlink, houtbox] at h
      cases h
    | some outbox =>
      rw [hlink, houtbox] at h hlook
      simp only at h hlook
      cases hstage : link.stage with
      | reading =>
        rw [hstage] at h hlook
        cases hclose : outbox.closeRequested && choice.closesFirst with
        | true =>
          rw [hclose] at h
          cases h
          exact hfinish link hfound
        | false =>
          rw [hclose, if_pos ⟨rfl, rfl⟩] at hlook
          cases hlook
      | answering bytes activate close =>
        rw [hstage] at h
        exact continues_queueAnswer (by rw [Link.isLive, hstage]) h hfound
      | activating close =>
        rw [hstage] at h
        simp only at h
        split at h
        · cases h
          exact hfinish link hfound
        · cases h
      | done =>
        rw [hstage] at h
        cases h
      | closed =>
        rw [hstage] at h
        cases h

/-! ## The writing side -/

theorem confined_stopWriting (conn : ConnectionId) (server : Server) :
    Confined conn server (server.stopWriting conn) :=
  confined_modifyOutbox ..

theorem confined_resumeReading (conn : ConnectionId) (server : Server) (link : Link) :
    Confined conn server (server.resumeReading conn link) := by
  unfold resumeReading
  split
  · exact confined_finishReading ..
  · exact (Confined.refl conn server).setLink _
  · exact .refl ..

theorem continues_resumeReading {found : Link} (hlink : server.link? conn = some link)
    (hfound : (server.resumeReading conn link).link? conn = some found) : found.Continues link := by
  unfold resumeReading at hfound
  split at hfound
  · obtain rfl := eq_of_link?_finishReading hfound
    exact .of_not_isLive ⟨rfl, rfl, rfl⟩ rfl
  · rename_i hstage
    obtain rfl := eq_of_link?_setLink hfound
    exact .of_isLive ⟨rfl, rfl, rfl⟩ (by rw [Link.isLive, hstage])
  · rw [hlink] at hfound
    cases hfound
    exact .refl link

theorem confined_send (suite : CipherSuite) (server : Server) (conn : ConnectionId) (link : Link)
    (message : Outgoing) : Confined conn server (server.send suite conn link message) := by
  unfold send
  split
  · exact confined_stopWriting conn server
  · have hencrypt : ∀ other, server.isEncrypted other = true →
        (server.connections.registry.encrypt suite conn message.bytes).2.isEncrypted other = true :=
      fun other => Registry.isEncrypted_of_credentials (Registry.credentials_encrypt ..)
    split
    · rename_i registry hwire
      rw [hwire] at hencrypt
      exact (confined_setConnections conn server { server.connections with registry }
        hencrypt).trans (confined_stopWriting ..)
    · rename_i wire registry hwire
      rw [hwire] at hencrypt
      simp only
      split
      · refine (Confined.setLink ?_ _).trans (confined_resumeReading ..)
        exact confined_setConnections conn server _ fun other h =>
          Registry.isEncrypted_activate (hencrypt other h)
      · exact (confined_setConnections conn server { server.connections with registry }
          hencrypt).setLink _

theorem continues_send {found : Link} {message : Outgoing} (hlink : server.link? conn = some link)
    (hfound : (server.send suite conn link message).link? conn = some found) :
    found.Continues link := by
  unfold send at hfound
  split at hfound
  · rw [stopWriting, modifyOutbox, link?_setConnections, hlink] at hfound
    cases hfound
    exact .refl link
  · split at hfound
    · rw [stopWriting, modifyOutbox, link?_setConnections, link?_setConnections, hlink] at hfound
      cases hfound
      exact .refl link
    · simp only at hfound
      split at hfound
      · have h := continues_resumeReading (by rw [link?_setLink, if_pos rfl]) hfound
        exact ⟨⟨h.request, h.buffered, h.frames⟩, h.isLive⟩
      · obtain rfl := eq_of_link?_setLink hfound
        exact ⟨⟨rfl, rfl, rfl⟩, id⟩

/-! ## Any step -/

/-- The connection is read from no more, or what it has to look at is the same and it is as
encrypted as it was. -/
structure Spares (conn : ConnectionId) (before after : Server) : Prop where
  link? : ∀ found, after.link? conn = some found → found.isLive = true →
    ∃ link, before.link? conn = some link ∧ found.Continues link
  isEncrypted : ∀ found, after.link? conn = some found → found.isLive = true →
    before.isEncrypted conn = true → after.isEncrypted conn = true

theorem Spares.refl (conn : ConnectionId) (server : Server) : Spares conn server server :=
  ⟨fun found h _ => ⟨found, h, .refl found⟩, fun _ _ _ h => h⟩

theorem Confined.spares (h : Confined conn server after) (hne : conn ≠ other) :
    Spares other server after := by
  refine ⟨fun found hfound _ => ⟨found, ?_, .refl found⟩, fun _ _ _ => h.isEncrypted other⟩
  rw [← h.link?_eq other hne]
  exact hfound

/-- A step that only replaces a connection by one with the same input. -/
theorem Confined.spares_self (h : Confined conn server after)
    (hlink : ∀ found, after.link? conn = some found →
      ∃ link, server.link? conn = some link ∧ found.Continues link) : Spares conn server after :=
  ⟨fun found hfound _ => hlink found hfound, fun _ _ _ => h.isEncrypted conn⟩

theorem spares_setLink {found : Link} (hlink : server.link? conn = some link)
    (hfound : found.Continues link) (other : ConnectionId) :
    Spares other server (server.setLink conn found) := by
  have hconfined := (Confined.refl conn server).setLink found
  by_cases heq : conn = other
  · subst heq
    refine hconfined.spares_self fun last hlast => ⟨link, hlink, ?_⟩
    obtain rfl := eq_of_link?_setLink hlast
    exact hfound
  · exact hconfined.spares heq

theorem spares_readStep (hlook : conn = other → server.reading? conn choice = none)
    (h : server.readStep suite conn choice = some after) : Spares other server after := by
  have hconfined := confined_readStep h
  by_cases heq : conn = other
  · subst heq
    exact hconfined.spares_self fun found => continues_readStep (hlook rfl) h
  · exact hconfined.spares heq

theorem spares_close (server : Server) (conn : ConnectionId) (link : Link)
    (other : ConnectionId) : Spares other server (server.close conn link) := by
  have hlink (found : Link) (hne : conn ≠ other)
      (h : (server.close conn link).link? other = some found) :
      server.link? other = some found := by
    rw [close, link?_setLink, if_neg hne] at h
    exact h
  have hclosed (found : Link) (heq : conn = other)
      (h : (server.close conn link).link? other = some found) : found.isLive = false := by
    rw [close, link?_setLink, if_pos heq] at h
    cases h
    rfl
  by_cases heq : conn = other
  · refine ⟨fun found hfound hlive => ?_, fun found hfound hlive => ?_⟩
    · rw [hclosed found heq hfound] at hlive
      cases hlive
    · rw [hclosed found heq hfound] at hlive
      cases hlive
  · refine ⟨fun found hfound _ => ⟨found, hlink found heq hfound, .refl found⟩, ?_⟩
    refine fun _ _ _ => Registry.isEncrypted_of_credentials ?_
    exact (Accessory.credentials_removeSession server.accessory conn other).trans (if_neg heq)

theorem spares_writeStep (h : server.writeStep suite conn = some after) (other : ConnectionId) :
    Spares other server after := by
  unfold writeStep at h
  split at h
  · rename_i link outbox hlink houtbox
    split at h
    · rename_i message rest hmessages
      cases h
      have hsend := (confined_modifyOutbox conn conn server
        fun outbox => { outbox with messages := rest }).trans
        (confined_send suite _ conn link message)
      by_cases heq : conn = other
      · subst heq
        refine hsend.spares_self fun found hfound => ⟨link, hlink, ?_⟩
        rw [← link?_modifyOutbox server conn conn fun outbox => { outbox with messages := rest }]
          at hlink
        exact continues_send hlink hfound
      · exact hsend.spares heq
    · split at h
      · cases h
        exact spares_close ..
      · cases h
  · cases h

theorem spares_setConnections (conn : ConnectionId) (server : Server) (connections : Connections)
    (h : connections.registry = server.connections.registry) :
    Spares conn server (server.setConnections connections) := by
  refine ⟨fun found hfound _ => ⟨found, hfound, .refl found⟩, fun _ _ _ => ?_⟩
  unfold isEncrypted
  rw [← h]
  exact id

/-- A connection that is accepted is fresh. -/
theorem link?_accept {order : Http.HeaderOrder} (h : (server.accept order).1 = some conn) :
    (server.accept order).2.link? conn = some { request := .start order } := by
  unfold accept at h ⊢
  split at h
  · rename_i hroom
    cases h
    rw [if_pos hroom]
    exact (link?_setLink ..).trans (if_pos rfl)
  · cases h

/-- The other connections go on as they were. -/
theorem spares_accept {order : Http.HeaderOrder} (h : (server.accept order).1 ≠ some conn) :
    Spares conn server (server.accept order).2 := by
  unfold accept at h ⊢
  split at h
  · rename_i hroom
    rw [if_pos hroom]
    have hattach := confined_setConnections server.nextId server
      (server.connections.attach server.nextId outboxCapacity)
      fun other => Registry.isEncrypted_of_credentials (Registry.credentials_attach ..)
    have hspares := (hattach.setLink { request := .start order }).spares
      fun heq => h (congrArg some heq)
    exact ⟨hspares.link?, hspares.isEncrypted⟩
  · rename_i hroom
    rw [if_neg hroom]
    exact .refl conn server

/-- A step that is not the arrival of the connection does not touch its input, unless its reading
side looks at it. -/
theorem take_spares (suite : CipherSuite) (server : Server) {step : ServerStep}
    (haccept : ∀ order, step = .accept order → (server.accept order).1 ≠ some conn)
    (hlook : ∀ choice, step = .read conn choice → server.reading? conn choice = none) :
    Spares conn server (server.take suite step) := by
  cases step with
  | accept order => exact spares_accept (haccept order rfl)
  | deliver other bytes =>
    show Spares conn server (server.deliver other bytes)
    unfold deliver
    split
    · rename_i link hlink
      refine spares_setLink hlink ?_ conn
      exact ⟨⟨rfl, rfl, rfl⟩, id⟩
    · exact .refl conn server
  | endArrivals other =>
    show Spares conn server (server.endArrivals other)
    unfold endArrivals
    split
    · rename_i link hlink
      refine spares_setLink hlink ?_ conn
      exact ⟨⟨rfl, rfl, rfl⟩, id⟩
    · exact .refl conn server
  | lose other =>
    show Spares conn server (server.lose other)
    unfold lose
    split
    · rename_i link hlink
      refine spares_setLink hlink ?_ conn
      exact ⟨⟨rfl, rfl, rfl⟩, id⟩
    · exact .refl conn server
  | read other choice =>
    show Spares conn server ((server.readStep suite other choice).getD server)
    cases hread : server.readStep suite other choice with
    | none => exact .refl conn server
    | some after => exact spares_readStep (fun heq => heq ▸ hlook choice (heq ▸ rfl)) hread
  | write other =>
    show Spares conn server ((server.writeStep suite other).getD server)
    cases hwrite : server.writeStep suite other with
    | none => exact .refl conn server
    | some after => exact spares_writeStep hwrite conn
  | broadcast id value =>
    exact spares_setConnections conn server _ (Connections.broadcast_registry ..)
  | stop =>
    refine spares_setConnections conn server _ ?_
    exact Connections.foldl_registry Connections.requestClose_registry _ _

end Server

end HomeKit
