import HomeKit.Proofs.Connection.Draining
import HomeKit.Proofs.Connection.KeySwitch
import HomeKit.Proofs.Connection.Sending

/-!
# Turns around the writing side

Each turn of a connection keeps what was written in agreement with what was queued, and the keys in
agreement with the messages that are still to be written (`OutgoingTraffic.Sound`).
-/

namespace HomeKit

open FrameCipher (counterLimit)

theorem AnsweringStage.of_resume_eq_verified {stage : AnsweringStage} {keys : SessionKeys}
    (h : stage.resume = .verified keys) : stage = .verified keys := by
  cases stage with
  | verified staged => exact h
  | away => cases h
  | free => cases h
  | activating => cases h

namespace OutgoingTraffic

variable {suite : CipherSuite} {conn : ConnectionId} {traffic : OutgoingTraffic}
  {settled unsettled : List Outgoing} {message : Outgoing}

/-! ## Turns that keep the keys -/

theorem outbox?_modifyOutbox (traffic : OutgoingTraffic) (conn : ConnectionId)
    (f : Outbox → Outbox) :
    (traffic.connections.modifyOutbox conn f).outbox? conn = (traffic.outbox? conn).map f :=
  (Connections.outbox?_modifyOutbox ..).trans (if_pos rfl)

/-- The connection keeps its keys, and its session while it is read from. -/
structure Quiet (conn : ConnectionId) (traffic : OutgoingTraffic) (connections : Connections) :
    Prop where
  keeps : KeepsKeys 0 (traffic.session? conn) (connections.registry.session? conn)
  present : traffic.reader ≠ .away → (connections.registry.session? conn).isSome = true

/-- Keys that were staged and that no answer activates yet stay staged. -/
theorem Live.verified_keep {frames : Nat} {after? : Option Session}
    (h : Live conn traffic settled unsettled)
    (hkeeps : KeepsKeys frames (traffic.session? conn) after?) (keys : SessionKeys)
    (hreader : traffic.reader = .verified keys) (after : Session) (hafter : after? = some after) :
    after.staged = some keys := by
  obtain ⟨before, hsession, hkept⟩ := hkeeps.exists_before hafter
  cases hkept with
  | kept hstaged hkeys hsent => exact hstaged.trans (h.verified keys hreader before hsession)

theorem Live.keep {connections : Connections} (h : Live conn traffic settled unsettled)
    (hquiet : Quiet conn traffic connections)
    (hmessages : messages conn { traffic with connections } = traffic.messages conn) :
    Live conn { traffic with connections } settled unsettled := by
  refine { h with
    splits := ?_, present := hquiet.present, keyed := ?_, verified := h.verified_keep hquiet.keeps }
  · rw [hmessages]
    exact h.splits
  · intro after hafter
    obtain ⟨before, hsession, hkept⟩ := hquiet.keeps.exists_before hafter
    exact (h.keyed before hsession).keep hkept

theorem Sound.keep {connections : Connections} (h : Sound suite conn traffic)
    (hmessages : (connections.outbox? conn).map (·.messages) =
      (traffic.outbox? conn).map (·.messages))
    (hquiet : (traffic.reader ≠ .away → (traffic.session? conn).isSome = true) →
      Quiet conn traffic connections) :
    Sound suite conn { traffic with connections } := by
  refine ⟨?_, h.ledger, fun hstage => ?_⟩
  · have hsome := congrArg Option.isSome hmessages
    rw [Option.isSome_map, Option.isSome_map] at hsome
    exact hsome.trans h.accepted
  · obtain ⟨settled, unsettled, hlive⟩ := h.live hstage
    exact ⟨settled, unsettled, hlive.keep (hquiet hlive.present)
      (congrArg (·.getD []) hmessages)⟩

theorem Quiet.of_session? {connections : Connections}
    (hpresent : traffic.reader ≠ .away → (traffic.session? conn).isSome = true)
    (hsame : connections.registry.session? conn = traffic.session? conn) :
    Quiet conn traffic connections := by
  refine ⟨?_, ?_⟩
  · rw [hsame]
    exact .refl _
  · rw [hsame]
    exact hpresent

theorem Sound.serve (h : Sound suite conn traffic) {call : ConnectionCall}
    (hreader : traffic.reader ≠ .away) (hkeeps : call.keepsKeys = true) :
    Sound suite conn (traffic.call suite conn call) := by
  refine h.keep ?_ fun hpresent => ?_
  · cases call with
    | attach capacity => cases hkeeps
    | _ => rfl
  · obtain ⟨session, hsession⟩ := Option.isSome_iff_exists.1 (hpresent hreader)
    obtain ⟨after, hafter, hkeeps⟩ := traffic.connections.call_keepsKeys suite hsession hkeeps
    have hsame : traffic.session? conn = some session := hsession
    refine ⟨?_, fun _ => ?_⟩
    · rw [hafter, hsame]
      exact hkeeps
    · rw [hafter]
      rfl

theorem Sound.remove (h : Sound suite conn traffic) (hreader : traffic.reader = .away) :
    Sound suite conn (traffic.call suite conn .remove) := by
  refine h.keep rfl fun _ => ⟨?_, fun hpresent => absurd hreader hpresent⟩
  show KeepsKeys 0 _ ((traffic.connections.registry.remove conn).session? conn)
  rw [Registry.session?_remove]
  exact .gone

theorem Sound.requestClose (h : Sound suite conn traffic) :
    Sound suite conn { traffic with connections := traffic.connections.requestClose conn } := by
  refine h.keep ?_ fun hpresent => .of_session? hpresent ?_
  · unfold Connections.requestClose
    split
    · rw [outbox?_modifyOutbox, Option.map_map]
      rfl
    · rfl
  · rw [Connections.requestClose_registry]
    rfl

theorem Sound.elsewhere (h : Sound suite conn traffic) {after : Connections}
    (huntouched : Connections.Untouched traffic.connections after conn) :
    Sound suite conn { traffic with connections := after } :=
  h.keep (congrArg _ huntouched.outbox) fun hpresent => .of_session? hpresent huntouched.session

/-- The reading side is gone. -/
theorem Sound.leave (h : Sound suite conn traffic) :
    Sound suite conn { traffic with reader := .away } := by
  refine ⟨h.accepted, h.ledger, fun hstage => ?_⟩
  obtain ⟨settled, unsettled, hlive⟩ := h.live hstage
  refine ⟨settled, unsettled, { hlive with free := ?_, present := ?_, verified := nofun }⟩
  · rintro (hreader | ⟨keys, hreader⟩)
    · cases hreader
    · cases hreader
  · exact fun hreader => absurd rfl hreader

/-- Bytes are passed on. -/
theorem Sound.pass {writer : FrameWriter} {sink : Sink} (h : Sound suite conn traffic)
    (hbusy : traffic.stage ≠ .idle) (hbytes : sink.taken ++ writer.waiting = traffic.written) :
    Sound suite conn { traffic with writer, sink } := by
  refine ⟨h.accepted, ?_, fun hstage => ?_⟩
  · have hwritten : written { traffic with writer, sink } = traffic.written := hbytes
    rw [hwritten]
    exact h.ledger
  · obtain ⟨settled, unsettled, hlive⟩ := h.live hstage
    exact ⟨settled, unsettled, { hlive with passed_on := fun hidle => absurd hidle hbusy }⟩

/-- Whatever fails, nothing is lost of what was written before. -/
theorem Sound.stop {registry : Registry} {writer : FrameWriter} {sink : Sink}
    (h : Sound suite conn traffic) (hbytes : sink.taken ++ writer.waiting = traffic.written) :
    Sound suite conn (stop conn { traffic.setRegistry registry with writer, sink }) := by
  refine ⟨?_, ?_, fun hstage => absurd rfl hstage⟩
  · have hshut := outbox?_modifyOutbox (traffic.setRegistry registry) conn fun outbox =>
      { outbox.shut with closeRequested := true }
    refine (congrArg Option.isSome hshut).trans ?_
    rw [Option.isSome_map]
    exact h.accepted
  · have hwritten : written (OutgoingTraffic.stop conn
        { traffic.setRegistry registry with writer, sink }) = traffic.written := hbytes
    rw [hwritten]
    exact h.ledger

/-- The connection is found to be encrypted, so its first epoch has ended. -/
theorem Sound.announce (h : Sound suite conn traffic)
    (hencrypted : traffic.connections.registry.isEncrypted conn = true) (event : Bytes) :
    Sound suite conn { traffic with announced := traffic.announced ++ [event] } := by
  refine ⟨h.accepted, h.ledger, fun hstage => ?_⟩
  obtain ⟨settled, unsettled, hlive⟩ := h.live hstage
  refine ⟨settled, unsettled, { hlive with announced := fun hended => ?_ }⟩
  obtain ⟨session, hsession, hcipher⟩ := (Option.any_eq_true ..).1 hencrypted
  have hstate := (hlive.keyed session hsession).state
  obtain ⟨cipher, hfound⟩ := Option.isSome_iff_exists.1 hcipher
  rw [hended, hfound] at hstate
  cases hstate

/-! ## Turns of the reading side -/

theorem Splits.queue {messages sealed : List Outgoing} {stage : WritingStage}
    (h : Splits messages stage sealed settled unsettled) (message : Outgoing) :
    Splits (messages ++ [message]) stage sealed settled (unsettled ++ [message]) := by
  cases h with
  | idle => exact .idle _
  | writing => exact .writing _ _
  | flushing => exact .flushing _
  | activating hactivates => exact .activating hactivates _
  | finishing => exact .finishing _

theorem messages_queue (haccepted : (traffic.outbox? conn).isSome = true) :
    (traffic.queue conn message).messages conn = traffic.messages conn ++ [message] := by
  obtain ⟨outbox, houtbox⟩ := Option.isSome_iff_exists.1 haccepted
  have hpushed := traffic.outbox?_modifyOutbox conn (·.push message)
  rw [houtbox] at hpushed
  unfold messages
  rw [houtbox]
  exact congrArg (fun outbox? => (outbox?.map (·.messages)).getD []) hpushed

theorem session?_queue : (traffic.queue conn message).session? conn = traffic.session? conn := by
  unfold session? OutgoingTraffic.queue
  rw [Connections.modifyOutbox_registry]

theorem isSome_outbox?_queue (haccepted : (traffic.outbox? conn).isSome = true) :
    ((traffic.queue conn message).outbox? conn).isSome = true := by
  unfold outbox? OutgoingTraffic.queue
  rw [outbox?_modifyOutbox, Option.isSome_map]
  exact haccepted

/-- A message is queued that activates no keys. -/
theorem Sound.queue (h : Sound suite conn traffic) (hactivates : message.activates = false)
    (hevent : message.isEvent = true → traffic.announced ≠ []) :
    Sound suite conn (traffic.queue conn message) := by
  refine ⟨isSome_outbox?_queue h.accepted, h.ledger.queue hactivates, fun hstage => ?_⟩
  obtain ⟨settled, unsettled, hlive⟩ := h.live hstage
  have hcount : (unsettled ++ [message]).countP (·.activates) =
      unsettled.countP (·.activates) := by
    rw [List.countP_append, List.countP_singleton, hactivates]
    rfl
  refine ⟨settled, unsettled ++ [message], ?_, ?_, ?_, ?_, ?_, ?_, ?_, ?_, hlive.passed_on⟩
  · rw [messages_queue h.accepted]
    exact hlive.splits.queue message
  · exact (congrArg (· ++ [message]) hlive.queued).trans (List.append_assoc ..)
  · rw [hcount]
    exact hlive.owed
  · exact fun hreader => hcount.trans (hlive.free hreader)
  · rw [session?_queue]
    exact hlive.present
  · rw [session?_queue]
    intro session hsession
    have hkeyed := hlive.keyed session hsession
    exact { hkeyed with staged := fun hone => hkeyed.staged (hcount.symm.trans hone) }
  · rw [session?_queue]
    exact hlive.verified
  · intro hended
    obtain ⟨hnone, hplain⟩ := hlive.announced hended
    refine ⟨hnone, fun other hmem => ?_⟩
    rcases List.mem_append.1 hmem with hmem | hmem
    · exact hplain other hmem
    · cases List.mem_singleton.1 hmem
      exact Bool.eq_false_iff.2 fun heq => hevent heq hnone

/-- The answer that activates the staged keys is queued. -/
theorem Sound.answerVerified {keys : SessionKeys} (h : Sound suite conn traffic)
    (hreader : traffic.reader = .verified keys) (bytes : Bytes) :
    Sound suite conn { traffic.queue conn (.response bytes true) with
      reader := .activating
      keys := traffic.keys ++ [keys] } := by
  refine ⟨isSome_outbox?_queue h.accepted, h.ledger.queue_activating rfl keys, fun hstage => ?_⟩
  obtain ⟨settled, unsettled, hlive⟩ := h.live hstage
  have hnone := hlive.free (.inr ⟨keys, hreader⟩)
  have hone : (unsettled ++ [Outgoing.response bytes true]).countP (·.activates) = 1 := by
    rw [List.countP_append, hnone]
    rfl
  refine ⟨settled, unsettled ++ [.response bytes true], ?_, ?_, Nat.le_of_eq hone, ?_, ?_, ?_,
    nofun, ?_, hlive.passed_on⟩
  · have hmessages : messages conn { traffic.queue conn (.response bytes true) with
        reader := .activating
        keys := traffic.keys ++ [keys] } = traffic.messages conn ++ [.response bytes true] :=
      messages_queue h.accepted
    rw [hmessages]
    exact hlive.splits.queue _
  · exact (congrArg (· ++ [_]) hlive.queued).trans (List.append_assoc ..)
  · rintro (hfree | ⟨other, hverified⟩)
    · cases hfree
    · cases hverified
  · intro _
    have hpresent := hlive.present (by rw [hreader]; exact nofun)
    rw [← session?_queue] at hpresent
    exact hpresent
  · intro session hsession
    have hsame : traffic.session? conn = some session := session?_queue.symm.trans hsession
    have hkeyed := hlive.keyed session hsame
    refine { hkeyed with state := ?_, staged := fun _ => ?_ }
    -- the epoch of the messages that are settled has its keys already
    · have hstate := hkeyed.state
      have hstates : Epochs.states (traffic.keys ++ [keys]) =
          Epochs.states traffic.keys ++ [some keys] := by
        rw [Epochs.states, List.map_append]
        rfl
      rw [hstates, List.getElem?_append_left (List.getElem?_eq_some_iff.1 hstate).1]
      exact hstate
    · rw [List.getLast?_concat]
      exact hlive.verified keys hreader session hsame
  · intro hended
    obtain ⟨hannounced, hplain⟩ := hlive.announced hended
    refine ⟨hannounced, fun other hmem => ?_⟩
    rcases List.mem_append.1 hmem with hmem | hmem
    · exact hplain other hmem
    · cases List.mem_singleton.1 hmem
      rfl

/-- An event is queued for which the connection was found to be encrypted. -/
theorem Sound.tell (h : Sound suite conn traffic) {event : Bytes}
    (hmem : event ∈ traffic.announced) :
    Sound suite conn { traffic.queue conn (.event event) with
      announced := traffic.announced.erase event } := by
  have hqueued : Sound suite conn (traffic.queue conn (.event event)) :=
    h.queue rfl fun _ => List.ne_nil_of_mem hmem
  refine ⟨hqueued.accepted, hqueued.ledger, fun hstage => ?_⟩
  obtain ⟨settled, unsettled, hlive⟩ := hqueued.live hstage
  refine ⟨settled, unsettled, { hlive with announced := fun hended => ?_ }⟩
  exact absurd (hlive.announced hended).1 (List.ne_nil_of_mem hmem)

/-- Keys are staged, while no answer that activates keys is on its way. -/
theorem Sound.stage (h : Sound suite conn traffic)
    (hreader : traffic.reader = .free ∨ ∃ keys, traffic.reader = .verified keys)
    (controller : String) (keys : SessionKeys) :
    Sound suite conn { traffic.call suite conn (.stage controller keys) with
      reader := .verified keys } := by
  refine ⟨h.accepted, h.ledger, fun hstage => ?_⟩
  obtain ⟨settled, unsettled, hlive⟩ := h.live hstage
  have hnone := hlive.free hreader
  have hpresent : (traffic.session? conn).isSome = true := by
    refine hlive.present ?_
    rcases hreader with hfree | ⟨other, hverified⟩
    · rw [hfree]
      exact nofun
    · rw [hverified]
      exact nofun
  obtain ⟨before, hbefore⟩ := Option.isSome_iff_exists.1 hpresent
  have hsession : ∀ session, (traffic.call suite conn (.stage controller keys)).session? conn =
      some session →
        session = { before with controller := some controller, staged := some keys } := by
    intro session hsession
    have hmodified := traffic.connections.registry.session?_modify conn conn fun session =>
      { session with controller := some controller, staged := some keys }
    rw [if_pos rfl, Registry.session_of_session? hbefore] at hmodified
    exact Option.some.inj (hsession.symm.trans hmodified)
  refine ⟨settled, unsettled, { hlive with
    free := fun _ => hnone, present := ?_, keyed := ?_, verified := ?_ }⟩
  · intro _
    unfold OutgoingTraffic.call session? Connections.call Connections.call.onRegistry Registry.stage
    simp only
    rw [Registry.session?_modify, if_pos rfl]
    rfl
  · intro session hstaged
    rw [hsession session hstaged]
    have hkeyed := hlive.keyed before hbefore
    exact ⟨hkeyed.state, hkeyed.sent, fun hone => by rw [hnone] at hone; cases hone⟩
  · rintro _ ⟨⟩ session hstaged
    rw [hsession session hstaged]

/-! ## Turns of the writing side -/

theorem Sound.receive (h : Sound suite conn traffic) : Sound suite conn (traffic.receive conn) := by
  unfold OutgoingTraffic.receive
  split
  · rename_i message rest hstage hmessages
    obtain ⟨outbox, houtbox⟩ := Option.isSome_iff_exists.1 h.accepted
    have htaken := traffic.outbox?_modifyOutbox conn fun outbox => { outbox with messages := rest }
    rw [houtbox] at htaken
    refine ⟨congrArg Option.isSome htaken, h.ledger, fun _ => ?_⟩
    obtain ⟨settled, unsettled, hlive⟩ := h.live (by simp [hstage])
    have hsplits := hlive.splits
    rw [hstage, hmessages] at hsplits
    have hregistry := traffic.connections.modifyOutbox_registry conn fun outbox =>
      { outbox with messages := rest }
    refine ⟨settled, unsettled, { hlive with
      splits := ?_, present := ?_, keyed := ?_, verified := ?_, passed_on := nofun }⟩
    · unfold messages outbox?
      simp only
      rw [htaken]
      cases hsplits
      exact .writing message _
    · unfold session?
      simp only
      rw [hregistry]
      exact hlive.present
    · unfold session?
      simp only
      rw [hregistry]
      exact hlive.keyed
    · unfold session?
      simp only
      rw [hregistry]
      exact hlive.verified
  · exact h

theorem Live.in_hand (h : Live conn traffic settled unsettled)
    (hstage : traffic.stage = .writing message) :
    settled = traffic.sealed ∧ unsettled = message :: traffic.messages conn := by
  have hsplits := h.splits
  rw [hstage] at hsplits
  cases hsplits
  exact ⟨rfl, rfl⟩

/-- The message in hand is handed over, and the session has sent its frames. -/
theorem Live.seal {connections : Connections} {writer : FrameWriter} {sink : Sink}
    (h : Live conn traffic settled unsettled) (hstage : traffic.stage = .writing message)
    (hkeeps : KeepsKeys (chunks Frame.maxPlaintext message.bytes).length (traffic.session? conn)
      (connections.registry.session? conn))
    (hpresent : traffic.reader ≠ .away → (connections.registry.session? conn).isSome = true)
    (houtbox : connections.outbox? conn = traffic.outbox? conn) :
    ∃ settled' unsettled', Live conn { traffic with
      connections, writer, sink
      stage := .flushing message.activates
      sealed := traffic.sealed ++ [message] } settled' unsettled' := by
  obtain ⟨rfl, rfl⟩ := h.in_hand hstage
  have hmessages : messages conn { traffic with
      connections, writer, sink
      stage := .flushing message.activates
      sealed := traffic.sealed ++ [message] } = traffic.messages conn :=
    congrArg (fun outbox? => (outbox?.map (·.messages)).getD []) houtbox
  cases hactivates : message.activates with
  | true =>
    rw [hactivates] at hmessages
    refine ⟨traffic.sealed, message :: traffic.messages conn, { h with
      splits := ?_, present := hpresent, keyed := ?_, verified := h.verified_keep hkeeps,
      passed_on := nofun }⟩
    · rw [hmessages]
      exact .activating hactivates traffic.sealed
    · intro after hafter
      obtain ⟨before, hsession, hkept⟩ := hkeeps.exists_before hafter
      exact (h.keyed before hsession).seal_activating hkept
  | false =>
    have hcount : (message :: traffic.messages conn).countP (·.activates) =
        (traffic.messages conn).countP (·.activates) :=
      List.countP_cons_of_neg (by rw [hactivates]; exact Bool.false_ne_true)
    rw [hactivates] at hmessages
    refine ⟨traffic.sealed ++ [message], traffic.messages conn, ?_, ?_, ?_, ?_, hpresent, ?_,
      h.verified_keep hkeeps, ?_, nofun⟩
    · rw [hmessages]
      exact .flushing _
    · exact h.queued.trans (List.append_assoc _ [message] _).symm
    · rw [← hcount]
      exact h.owed
    · exact fun hreader => hcount.symm.trans (h.free hreader)
    · intro after hafter
      obtain ⟨before, hsession, hkept⟩ := hkeeps.exists_before hafter
      exact (h.keyed before hsession).seal hactivates hkept
    · rw [Epochs.ofMessages_concat, Epochs.push_of_not_activates hactivates]
      exact h.announced

/-- A message is handed to the frame writer. -/
theorem Sound.write (h : Sound suite conn traffic) (hstage : traffic.stage = .writing message) :
    Sound suite conn (traffic.write suite conn message) := by
  obtain ⟨settled, unsettled, hlive⟩ := h.live (by simp [hstage])
  obtain ⟨rfl, rfl⟩ := hlive.in_hand hstage
  have hqueued : traffic.sealed ++ [message] <+: traffic.queued := by
    rw [hlive.queued]
    exact ⟨_, List.append_assoc ..⟩
  have hplain : (Epochs.ofMessages traffic.sealed).ended = [] → message.isEvent = false :=
    fun hended => (hlive.announced hended).2 message (hqueued.subset (by simp))
  unfold OutgoingTraffic.write
  cases hempty : message.bytes.isEmpty with
  | true =>
    have hnone : message.bytes = [] := List.isEmpty_iff.1 hempty
    rw [if_pos rfl]
    refine ⟨h.accepted, h.ledger.seal_empty hqueued hnone hplain, fun _ => ?_⟩
    refine hlive.seal hstage ?_ hlive.present rfl
    rw [hnone]
    exact .refl _
  | false =>
    rw [if_neg Bool.false_ne_true]
    have hwrites := traffic.writer.write_writes suite conn traffic.connections.registry traffic.sink
      hempty
    generalize traffic.writer.write suite conn traffic.connections.registry traffic.sink
      message.bytes = outcome at hwrites
    cases hwrites with
    | pending hbytes => exact h.pass (by simp [hstage]) hbytes
    | failed hbytes => exact h.stop hbytes
    | @ok count wire after taking next hencrypted hbytes =>
      obtain ⟨session, hsession, hkeeps, hpresent, hwire⟩ := Registry.of_encrypt_ok hencrypted
      have hkeyed := hlive.keyed session hsession
      refine ⟨h.accepted, ?_, fun _ => ?_⟩
      · have hwritten : written { traffic.setRegistry next with
            writer := after
            sink := taking
            stage := .flushing message.activates
            sealed := traffic.sealed ++ [message] } = traffic.written ++ wire := hbytes
        rw [hwritten]
        obtain ⟨hmore, hfits⟩ := hkeyed.wire hwire
        exact h.ledger.seal hqueued hkeyed.state hmore hplain hfits
      · rw [← hsession] at hkeeps
        exact hlive.seal hstage hkeeps (fun _ => hpresent) rfl

theorem Live.to_activate (h : Live conn traffic settled unsettled)
    (hstage : traffic.stage = .flushing true) :
    ∃ response, response.activates = true ∧ traffic.sealed = settled ++ [response] ∧
      unsettled = response :: traffic.messages conn := by
  have hsplits := h.splits
  rw [hstage] at hsplits
  generalize traffic.sealed = sealed at hsplits
  cases hsplits with
  | activating hactivates => exact ⟨_, hactivates, rfl, rfl⟩

/-- A response that activates keys has been written, and the staged keys are those it was queued
for. -/
theorem Sound.complete_activating (h : Sound suite conn traffic)
    (hstage : traffic.stage = .flushing true) (hpassed : traffic.writer.waiting = []) :
    Sound suite conn (traffic.complete conn true) := by
  rw [OutgoingTraffic.complete, if_pos rfl]
  refine ⟨h.accepted, h.ledger, fun _ => ?_⟩
  obtain ⟨settled, unsettled, hlive⟩ := h.live (by simp [hstage])
  obtain ⟨response, hactivates, hsealed, rfl⟩ := hlive.to_activate hstage
  have hcount : (response :: traffic.messages conn).countP (·.activates) =
      (traffic.messages conn).countP (·.activates) + 1 := List.countP_cons_of_pos hactivates
  have hnone : (traffic.messages conn).countP (·.activates) = 0 := by
    have howed := hlive.owed
    omega
  have hended : (Epochs.ofMessages traffic.sealed).ended.length = traffic.keys.length := by
    rw [Epochs.length_ended, h.ledger.length_keys, hlive.queued, hsealed, List.countP_append,
      List.countP_append, hcount, hnone, List.countP_singleton, if_pos hactivates]
  obtain ⟨keys, hlast⟩ : ∃ keys, traffic.keys.getLast? = some keys := by
    refine ⟨_, List.getLast?_eq_some_getLast (List.length_pos_iff.1 ?_)⟩
    rw [← hended, Epochs.length_ended, hsealed, List.countP_append, List.countP_singleton,
      if_pos hactivates]
    exact Nat.succ_pos _
  have hactivated := Registry.session?_activate fun session hsession =>
    ((hlive.keyed session hsession).staged (by rw [hcount, hnone])).trans hlast
  refine ⟨traffic.sealed, traffic.messages conn, .idle _, ?_, ?_, fun _ => hnone, ?_, ?_, ?_, ?_,
    fun _ => hpassed⟩
  · rw [hsealed, List.append_assoc]
    exact hlive.queued
  · rw [hnone]
    exact Nat.zero_le _
  · intro hreader
    have hpresent := hlive.present fun haway => hreader (by simp only [haway]; rfl)
    refine (congrArg Option.isSome hactivated).trans ?_
    rw [Option.isSome_map]
    exact hpresent
  · intro session hsession
    obtain ⟨before, -, rfl⟩ := Option.map_eq_some_iff.1 (hactivated.symm.trans hsession)
    have hkeyed : Keyed traffic.keys traffic.sealed traffic.sealed (traffic.messages conn)
        { before with staged := none, cipher := some { keys } } := by
      rw [hsealed] at hended ⊢
      exact .activated hactivates hended hlast hnone
    exact hkeyed
  · intro staged hreader
    have hfree := hlive.free (.inr ⟨staged, AnsweringStage.of_resume_eq_verified hreader⟩)
    rw [hcount] at hfree
    cases hfree
  · intro hnever
    rw [hsealed, Epochs.ofMessages_concat, Epochs.push_of_activates hactivates] at hnever
    exact absurd hnever (List.append_ne_nil_of_right_ne_nil _ (List.cons_ne_nil _ _))

theorem Sound.complete (h : Sound suite conn traffic) {activates : Bool}
    (hstage : traffic.stage = .flushing activates) (hpassed : traffic.writer.waiting = []) :
    Sound suite conn (traffic.complete conn activates) := by
  cases activates with
  | true => exact h.complete_activating hstage hpassed
  | false =>
    refine ⟨h.accepted, h.ledger, fun _ => ?_⟩
    obtain ⟨settled, unsettled, hlive⟩ := h.live (by simp [hstage])
    have hsplits := hlive.splits
    rw [hstage] at hsplits
    refine ⟨settled, unsettled, { hlive with splits := ?_, passed_on := fun _ => hpassed }⟩
    generalize hsealed : traffic.sealed = sealed at hsplits
    cases hsplits with
    | flushing => exact hsealed ▸ .idle _

theorem Sound.finish (h : Sound suite conn traffic) (hstage : traffic.stage = .idle) :
    Sound suite conn { traffic with stage := .finishing } := by
  refine ⟨h.accepted, h.ledger, fun _ => ?_⟩
  obtain ⟨settled, unsettled, hlive⟩ := h.live (by simp [hstage])
  have hsplits := hlive.splits
  rw [hstage] at hsplits
  refine ⟨settled, unsettled, { hlive with splits := ?_, passed_on := nofun }⟩
  generalize hsealed : traffic.sealed = sealed at hsplits
  cases hsplits with
  | idle => exact hsealed ▸ .finishing _

theorem Sound.poll (h : Sound suite conn traffic) : Sound suite conn (traffic.poll suite conn) := by
  unfold OutgoingTraffic.poll
  split
  · exact h
  · exact h
  · rename_i message hstage
    exact h.write hstage
  · rename_i activates hstage
    have hbusy : traffic.stage ≠ .idle := by
      rw [hstage]
      exact nofun
    have hbytes := traffic.writer.call_bytes traffic.sink .flush
    rw [FrameWriter.flush]
    rcases houtcome : traffic.writer.call traffic.sink .flush with
      ⟨⟨error | ⟨⟩⟩ | _, writer, sink⟩
    · rw [houtcome] at hbytes
      exact h.stop hbytes
    · have hpassed := FrameWriter.call_ready houtcome
      rw [houtcome] at hbytes
      exact (h.pass hbusy hbytes).complete hstage hpassed
    · rw [houtcome] at hbytes
      exact h.pass hbusy hbytes
  · rename_i hstage
    have hbytes := traffic.writer.call_bytes traffic.sink .shutdown
    rw [FrameWriter.shutdown]
    rcases houtcome : traffic.writer.call traffic.sink .shutdown with ⟨result | _, writer, sink⟩
    · rw [houtcome] at hbytes
      exact h.stop hbytes
    · rw [houtcome] at hbytes
      exact h.pass (by simp [hstage]) hbytes

end OutgoingTraffic

end HomeKit
