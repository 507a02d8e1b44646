import HomeKit.Proofs.Connection.Draining
import HomeKit.Proofs.Connection.Sending
import HomeKit.Proofs.Server.Steps

/-!
# The writing side of the server

The server sends a message in one step, and its streams take everything at once. On such a stream
the turns of a writing side that is polled come to the same (`OutgoingTraffic.Mirrors.writeStep`).
-/

namespace HomeKit

variable {suite : CipherSuite} {conn : ConnectionId}

namespace Server

variable {server : Server} {link : Link} {message : Outgoing}

theorem resumeReading_keeps (hlink : server.link? conn = some link)
    (hclose : link.stage ≠ .activating true) :
    (server.resumeReading conn link).connections = server.connections ∧
      ((server.resumeReading conn link).link? conn).map (·.sent) = some link.sent := by
  unfold resumeReading
  split
  · rename_i hstage
    exact absurd hstage hclose
  · refine ⟨rfl, ?_⟩
    rw [link?_setLink, if_pos rfl]
    rfl
  · rw [hlink]
    exact ⟨rfl, rfl⟩

/-- What the server sends when a message is encrypted. -/
theorem send_ok {wire : Bytes} {registry : Registry} (hbroken : link.isBroken = false)
    (hencrypt : server.connections.registry.encrypt suite conn message.bytes = (.ok wire, registry))
    (hclose : link.stage ≠ .activating true) :
    (server.send suite conn link message).connections =
        { server.connections with
          registry := if message.activates then registry.activate conn else registry } ∧
      ((server.send suite conn link message).link? conn).map (·.sent) =
        some (link.sent ++ wire) := by
  rw [send, hbroken, if_neg Bool.false_ne_true, hencrypt]
  simp only
  cases hactivates : message.activates with
  | true =>
    simp only [if_true]
    refine resumeReading_keeps ?_ hclose
    rw [link?_setLink, if_pos rfl]
  | false =>
    refine ⟨rfl, ?_⟩
    simp only [Bool.false_eq_true, if_false]
    rw [link?_setLink, if_pos rfl]
    rfl

end Server

namespace OutgoingTraffic

variable {traffic : OutgoingTraffic}

theorem poll_takesAll {activates : Bool} (hstage : traffic.stage = .flushing activates)
    (hanswers : ∀ n, traffic.sink.answers n = .takesAll) :
    ∃ sink, traffic.poll suite conn = complete conn { traffic with writer := {}, sink } activates ∧
      sink.taken = traffic.sink.taken ++ traffic.writer.waiting := by
  obtain ⟨offers, hdrain⟩ := FrameWriter.drain_takesAll hanswers traffic.writer
  refine ⟨{ traffic.sink with
    offers
    taken := traffic.sink.taken ++ traffic.writer.waiting
    calls := traffic.sink.calls ++ [.flush] }, ?_, rfl⟩
  rw [poll, hstage]
  simp only
  rw [FrameWriter.flush, FrameWriter.call, hdrain]

theorem connections_complete (traffic : OutgoingTraffic) (activates : Bool) :
    (traffic.complete conn activates).connections =
      { traffic.connections with
        registry := if activates then traffic.connections.registry.activate conn
          else traffic.connections.registry } := by
  cases activates with
  | true => rfl
  | false => rfl

theorem sink_complete (traffic : OutgoingTraffic) (activates : Bool) :
    (traffic.complete conn activates).sink = traffic.sink := by
  cases activates with
  | true => rfl
  | false => rfl

/-- The connection is at this stage, with a stream that takes everything, and as much is sent on it
as on the link of the server. -/
structure Mirrors (server : Server) (link : Link) (stage : WritingStage)
    (traffic : OutgoingTraffic) : Prop where
  connections : traffic.connections = server.connections
  stage : traffic.stage = stage
  nothing_waits : traffic.writer.waiting = []
  takesAll : ∀ n, traffic.sink.answers n = .takesAll
  sent : traffic.sink.taken = link.sent

theorem Mirrors.send {server : Server} {link : Link} {message : Outgoing}
    (h : Mirrors server link (.writing message) traffic) (hsome : message.bytes.isEmpty = false)
    (hlink : server.link? conn = some link) (hbroken : link.isBroken = false)
    (hclose : link.stage ≠ .activating true) :
    let after := traffic.run suite conn [.poll, .poll]
    (server.send suite conn link message).connections = after.connections ∧
      ((server.send suite conn link message).link? conn).map (·.sent) = some after.sink.taken := by
  intro after
  obtain ⟨offers, hdrain⟩ := FrameWriter.drain_takesAll h.takesAll traffic.writer
  rw [h.nothing_waits, List.append_nil] at hdrain
  have hafter : after = (traffic.poll suite conn).poll suite conn := rfl
  have hpoll : traffic.poll suite conn = traffic.write suite conn message := by
    rw [poll, h.stage]
  rw [hpoll, write, FrameWriter.write, hsome, hdrain, h.connections] at hafter
  simp only [Bool.false_eq_true, if_false] at hafter
  rcases hencrypt : server.connections.registry.encrypt suite conn message.bytes with
    ⟨error | wire, registry⟩
  · rw [hencrypt] at hafter
    rw [hafter, Server.send, hbroken, if_neg Bool.false_ne_true, hencrypt]
    refine ⟨?_, ?_⟩
    · show Connections.modifyOutbox _ conn _ = Connections.modifyOutbox _ conn _
      simp only [setRegistry, h.connections]
      rfl
    · show (server.link? conn).map (·.sent) = some traffic.sink.taken
      rw [hlink, h.sent]
      rfl
  · rw [hencrypt] at hafter
    obtain ⟨hsent, hlinked⟩ := Server.send_ok hbroken hencrypt hclose
    obtain ⟨sink, hpolled, hbytes⟩ := @poll_takesAll suite conn { traffic.setRegistry registry with
      writer := ⟨wire⟩
      sink := { traffic.sink with offers }
      stage := .flushing message.activates
      sealed := traffic.sealed ++ [message] } _ rfl h.takesAll
    rw [hsent, hlinked, hafter.trans hpolled]
    refine ⟨?_, ?_⟩
    · rw [connections_complete]
      simp only [setRegistry, h.connections]
    · rw [sink_complete, hbytes, ← h.sent]

/-- On a stream that takes everything three turns send a message, as the server does in one step. -/
theorem Mirrors.writeStep {server : Server} {link : Link} {outbox : Outbox} {message : Outgoing}
    {rest : List Outgoing} (h : Mirrors server link .idle traffic)
    (houtbox : server.outbox? conn = some outbox) (hmessages : outbox.messages = message :: rest)
    (hsome : message.bytes.isEmpty = false) (hlink : server.link? conn = some link)
    (hbroken : link.isBroken = false) (hclose : link.stage ≠ .activating true) :
    let after := traffic.run suite conn [.receive, .poll, .poll]
    ∃ next, server.writeStep suite conn = some next ∧ next.connections = after.connections ∧
      (next.link? conn).map (·.sent) = some after.sink.taken := by
  have hstep : server.writeStep suite conn = some ((server.modifyOutbox conn fun outbox =>
      { outbox with messages := rest }).send suite conn link message) := by
    rw [Server.writeStep, hlink, houtbox]
    simp only [hmessages]
  have htaken : traffic.receive conn = { traffic with
      connections := traffic.connections.modifyOutbox conn fun outbox =>
        { outbox with messages := rest }
      stage := .writing message } := by
    have hfound : traffic.messages conn = message :: rest := by
      rw [messages, outbox?, h.connections, show server.connections.outbox? conn = _ from houtbox]
      exact hmessages
    rw [receive, h.stage, hfound]
  have hmirrors : Mirrors (server.modifyOutbox conn fun outbox => { outbox with messages := rest })
      link (.writing message) (traffic.receive conn) := by
    rw [htaken]
    refine ⟨?_, rfl, h.nothing_waits, h.takesAll, h.sent⟩
    simp only [h.connections]
    rfl
  exact ⟨_, hstep, hmirrors.send hsome hlink hbroken hclose⟩

end OutgoingTraffic

end HomeKit
