import HomeKit.Proofs.Connection.Broadcasting
import HomeKit.Proofs.Connection.SendingTurns

/-!
# The order on the wire

Messages go over the wire in the order in which they were queued, and the keys change behind the
responses that activate keys, whatever the turns are (`OutgoingTraffic.run_sentInEpochs`). A
broadcast comes to two of the turns for each connection that is told
(`OutgoingTraffic.broadcast_turns`).
-/

namespace HomeKit

namespace OutgoingTraffic

variable {suite : CipherSuite} {conn : ConnectionId} {traffic : OutgoingTraffic}
  {settled unsettled : List Outgoing} {message : Outgoing}

/-- The connection is not accepted yet. -/
structure Fresh (conn : ConnectionId) (traffic : OutgoingTraffic) : Prop where
  session : traffic.session? conn = none
  outbox : traffic.outbox? conn = none
  nothing : ∃ connections, traffic = { connections }

theorem Fresh.accept (h : Fresh conn traffic) (capacity : Nat) (answers : Nat → SinkAnswer) :
    Sound suite conn (traffic.turn suite conn (.accept capacity answers)) := by
  obtain ⟨hsession, houtbox, connections, rfl⟩ := h
  have hfound : connections.registry.session conn = {} := by
    rw [Registry.session]
    exact congrArg (·.getD {}) hsession
  have hattached : (connections.registry.attach conn).session? conn =
      some { hasPeer := true, isAttached := true } := by
    rw [Registry.attach, Registry.session?_modify, if_pos rfl, hfound]
  have hempty : (connections.attach conn capacity).outbox? conn = some { capacity } :=
    Std.ExtTreeMap.getElem?_insert_self
  rw [turn, if_neg (by rw [houtbox]; exact Bool.false_ne_true)]
  refine ⟨congrArg Option.isSome hempty, .nothing, fun _ => ?_⟩
  refine ⟨[], [], ?_, rfl, Nat.zero_le _, fun _ => rfl, ?_, ?_, ?_, ?_, fun _ => rfl⟩
  · have hmessages : messages conn { OutgoingTraffic.call suite conn { connections }
        (.attach capacity) with reader := .free, sink := { answers } } = [] :=
      congrArg (fun outbox? => (outbox?.map (·.messages)).getD []) hempty
    rw [hmessages]
    exact .idle _
  · exact fun _ => congrArg Option.isSome hattached
  · intro session hsession
    cases hattached.symm.trans hsession
    refine ⟨rfl, fun _ cipher hcipher => ?_, fun howed => ?_⟩
    · cases hcipher
    · cases howed
  · intro keys hverified
    cases hverified
  · exact fun _ => ⟨rfl, List.forall_mem_nil _⟩

theorem Fresh.turn (h : Fresh conn traffic) (next : OutgoingTurn conn) :
    Fresh conn (traffic.turn suite conn next) ∨
      Sound suite conn (traffic.turn suite conn next) := by
  have hfresh := h
  obtain ⟨hsession, houtbox, connections, rfl⟩ := h
  cases next with
  | accept capacity answers => exact .inr (hfresh.accept capacity answers)
  | answer bytes => exact .inl hfresh
  | serve call => exact .inl hfresh
  | stage controller keys => exact .inl hfresh
  | answerVerified bytes => exact .inl hfresh
  | leave => exact .inl hfresh
  | remove => exact .inl ⟨connections.registry.session?_remove conn, houtbox, _, rfl⟩
  | requestClose =>
    have hattached : connections.registry.isAttached conn = false := by
      rw [Registry.isAttached, show connections.registry.session? conn = none from hsession]
      rfl
    left
    rw [OutgoingTraffic.turn, Connections.requestClose, hattached]
    exact hfresh
  | announce id value =>
    have hencrypted : connections.registry.isEncrypted conn = false := by
      rw [Registry.isEncrypted, show connections.registry.session? conn = none from hsession]
      rfl
    left
    rw [OutgoingTraffic.turn, hencrypted]
    exact hfresh
  | tell event =>
    left
    rw [OutgoingTraffic.turn, if_neg (by rintro ⟨hmem, -⟩; cases hmem)]
    exact hfresh
  | receive =>
    left
    rw [OutgoingTraffic.turn, OutgoingTraffic.receive, messages, houtbox]
    exact hfresh
  | poll => exact .inl hfresh
  | finish =>
    left
    rw [OutgoingTraffic.turn, houtbox]
    exact hfresh
  | elsewhere f hf =>
    refine .inl ⟨?_, ?_, _, rfl⟩
    · exact (hf connections).session.trans hsession
    · exact (hf connections).outbox.trans houtbox

theorem Sound.turn (h : Sound suite conn traffic) (next : OutgoingTurn conn) :
    Sound suite conn (traffic.turn suite conn next) := by
  cases next with
  | accept capacity answers =>
    rw [OutgoingTraffic.turn, if_pos h.accepted]
    exact h
  | answer bytes =>
    simp only [OutgoingTraffic.turn]
    split
    · exact h
    · split
      · exact h.queue rfl nofun
      · exact h
  | serve call =>
    simp only [OutgoingTraffic.turn]
    split
    · exact h
    · rename_i hreader
      split
      · rename_i hkeeps
        exact h.serve hreader hkeeps
      · exact h
  | stage controller keys =>
    simp only [OutgoingTraffic.turn]
    split
    · rename_i hreader
      exact h.stage (.inl hreader) controller keys
    · rename_i staged hreader
      exact h.stage (.inr ⟨staged, hreader⟩) controller keys
    · exact h
  | answerVerified bytes =>
    simp only [OutgoingTraffic.turn]
    split
    · rename_i keys hreader
      split
      · exact h.answerVerified hreader bytes
      · exact h
    · exact h
  | leave =>
    simp only [OutgoingTraffic.turn]
    split
    · exact h
    · rename_i hreader
      exact (h.serve hreader rfl).leave
  | remove =>
    simp only [OutgoingTraffic.turn]
    split
    · rename_i hreader
      exact h.remove hreader
    · exact h
  | requestClose => exact h.requestClose
  | announce id value =>
    simp only [OutgoingTraffic.turn]
    split
    · rename_i hencrypted
      exact h.announce hencrypted _
    · exact h
  | tell event =>
    simp only [OutgoingTraffic.turn]
    split
    · rename_i hannounced
      exact h.tell hannounced.1
    · exact h
  | receive => exact h.receive
  | poll => exact h.poll
  | finish =>
    simp only [OutgoingTraffic.turn]
    split
    · rename_i hstage hmessages hreader
      exact h.finish hstage
    · exact h
  | elsewhere f hf => exact h.elsewhere (hf _)

theorem run_sound (suite : CipherSuite) (turns : List (OutgoingTurn conn))
    (h : Fresh conn traffic ∨ Sound suite conn traffic) :
    Fresh conn (traffic.run suite conn turns) ∨
      Sound suite conn (traffic.run suite conn turns) := by
  induction turns generalizing traffic with
  | nil => exact h
  | cons next rest ih =>
    refine ih ?_
    rcases h with hfresh | hsound
    · exact hfresh.turn next
    · exact .inr (hsound.turn next)

theorem Splits.sealed_append {messages sealed : List Outgoing} {stage : WritingStage}
    (h : Splits messages stage sealed settled unsettled) :
    settled ++ unsettled = sealed ++ (stage.inHand ++ messages) := by
  cases h with
  | idle => rfl
  | writing => rfl
  | flushing => rfl
  | activating => exact (List.append_assoc _ [_] _).symm
  | finishing => rfl

/-- What was written so far, in the epochs of its messages. -/
def epochs (traffic : OutgoingTraffic) : Epochs :=
  .ofMessages traffic.sealed

/-- The messages of a connection are sent in the order in which they were queued, in epochs that
change their keys behind the responses that activate keys. -/
structure SentInEpochs (suite : CipherSuite) (conn : ConnectionId) (traffic : OutgoingTraffic) :
    Prop where
  in_order : traffic.sealed <+: traffic.queued
  complete : traffic.stage ≠ .stopped →
    traffic.queued = traffic.sealed ++ (traffic.stage.inHand ++ traffic.messages conn)
  epochs_flatten : traffic.epochs.first ++ traffic.epochs.later.flatten = traffic.sealed
  /-- An epoch ends with a response that activates keys, and nowhere else is one. -/
  cut : (∀ epoch ∈ traffic.epochs.ended, ∃ before last,
      epoch = before ++ [last] ∧ last.activates = true ∧
        ∀ message ∈ before, message.activates = false) ∧
    ∀ message ∈ traffic.epochs.current, message.activates = false
  staged : traffic.epochs.later.length ≤ traffic.keys.length
  /-- The bytes of the messages come first as they are, and then in the frames of one key after
  another. -/
  wire : traffic.sink.taken ++ traffic.writer.waiting =
    (Epochs.texts traffic.epochs.first).flatten ++
      (List.zipWith (fun keys => Epochs.wireOf suite (some keys)) traffic.keys
        traffic.epochs.later).flatten
  /-- Nothing waits for the stream when a message has been written and its keys are activated. -/
  passed_on : traffic.stage = .idle → traffic.writer.waiting = []
  no_plain_event : ∀ message ∈ traffic.epochs.first, message.isEvent = false
  legible : ∀ keys, ∀ messages ∈ traffic.epochs.later,
    FrameCipher.decrypt suite { keys := keys.swap } (Epochs.wireOf suite (some keys) messages) =
      (.ok (Epochs.texts messages).flatten,
        { keys := keys.swap, received := Epochs.frameCount messages })

theorem Ledger.sentInEpochs
    (h : Ledger suite traffic.queued traffic.sealed traffic.keys traffic.written)
    (hexact : suite.DecryptsExactly) (htag : suite.AppendsTag)
    (hlive : traffic.stage ≠ .stopped →
      traffic.queued = traffic.sealed ++ (traffic.stage.inHand ++ traffic.messages conn))
    (hidle : traffic.stage = .idle → traffic.writer.waiting = []) :
    SentInEpochs suite conn traffic where
  in_order := h.in_order
  complete := hlive
  epochs_flatten := by
    rw [← List.flatten_cons, ← Epochs.all_eq, epochs, Epochs.flatten_all]
  cut := Epochs.cut_behind_activating traffic.sealed
  staged := by
    have hlength := congrArg List.length (Epochs.all_eq traffic.epochs)
    rw [Epochs.all, List.length_append, List.length_cons] at hlength
    have hended : traffic.epochs.ended.length ≤ traffic.keys.length := h.length_ended_le
    simp only [List.length_cons, List.length_nil] at hlength
    omega
  wire := h.wire.trans (Epochs.wire_eq ..)
  passed_on := hidle
  no_plain_event := h.legible.plain
  legible := fun keys messages hmem =>
    Epochs.decrypt_wireOf hexact htag keys (h.legible.fits messages hmem)

/-- Whatever happens on this and on other connections, and whenever the stream takes bytes, the
messages of a connection are sent in the order in which they were queued: as plain text up to the
first response that activates keys, and from there on in frames of the keys that were staged for the
last such response, counted from zero. No event is sent as plain text. -/
theorem run_sentInEpochs (conn : ConnectionId) (turns : List (OutgoingTurn conn)) :
    SentInEpochs .standard conn (OutgoingTraffic.run .standard conn {} turns) := by
  have hempty : Fresh conn {} := ⟨rfl, rfl, _, rfl⟩
  rcases run_sound .standard turns (.inl hempty) with ⟨-, houtbox, connections, hfresh⟩ | hsound
  · rw [hfresh] at houtbox ⊢
    have hmessages : messages conn { connections } = [] := by
      rw [messages, houtbox]
      rfl
    refine Ledger.nothing.sentInEpochs CipherSuite.standard_decryptsExactly
      CipherSuite.standard_appendsTag (fun _ => ?_) fun _ => rfl
    rw [hmessages]
    rfl
  · refine hsound.ledger.sentInEpochs CipherSuite.standard_decryptsExactly
      CipherSuite.standard_appendsTag (fun hstage => ?_) fun hidle => ?_
    · obtain ⟨settled, unsettled, hlive⟩ := hsound.live hstage
      exact hlive.queued.trans hlive.splits.sealed_append
    · obtain ⟨settled, unsettled, hlive⟩ := hsound.live (by simp [hidle])
      exact hlive.passed_on hidle

/-- The answer that activates keys is plain text, and the next one is the first frame. -/
example :
    (run .standard 1 {} [.accept 8 fun _ => .takesAll,
      .stage "c" ⟨.replicate 32 1, .replicate 32 2⟩, .answerVerified [1], .receive, .poll, .poll,
      .answer [2], .receive, .poll, .poll]).sink.taken =
        1 :: FrameCipher.frame .standard (.replicate 32 1) 0 [2] := by
  decide +kernel

/-- A broadcast comes to two turns on each connection that is told, and leaves the others alone. -/
theorem broadcast_turns (suite : CipherSuite) (conn : ConnectionId) (traffic : OutgoingTraffic)
    (id : CharacteristicId) (value : Json) (origin : Option ConnectionId) :
    let told := traffic.run suite conn [.announce id value, .tell (eventMessage id value)]
    (traffic.connections.broadcast id value origin).2.outbox? conn =
      if conn ∈ traffic.connections.recipients id origin then told.outbox? conn
      else traffic.outbox? conn := by
  intro told
  let event := eventMessage id value
  rw [traffic.connections.outbox?_broadcast_recipients]
  by_cases hmem : conn ∈ traffic.connections.recipients id origin
  · rw [if_pos hmem, if_pos hmem]
    obtain ⟨-, htakes⟩ := List.mem_filter.1 hmem
    simp only [Bool.and_eq_true, Connections.takesEvents] at htakes
    obtain ⟨-, ⟨hencrypted, -⟩, hroom⟩ := htakes
    have hannounced : traffic.turn suite conn (.announce id value) =
        { traffic with announced := traffic.announced ++ [event] } := if_pos hencrypted
    have hrun : told = (traffic.turn suite conn (.announce id value)).turn suite conn
        (.tell event) := rfl
    have htold : told = { traffic.queue conn (.event event) with
        announced := (traffic.announced ++ [event]).erase event } := by
      rw [hrun, hannounced]
      exact if_pos ⟨List.mem_append_right _ List.mem_cons_self, hroom⟩
    rw [htold]
    exact (traffic.outbox?_modifyOutbox conn (·.push (.event event))).symm
  · rw [if_neg hmem, if_neg hmem]
    rfl

end OutgoingTraffic

end HomeKit
