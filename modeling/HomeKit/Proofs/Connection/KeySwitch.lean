import HomeKit.Proofs.Connection.Epochs
import HomeKit.Proofs.Connection.Sending
import HomeKit.Proofs.Connection.Stream
import HomeKit.Proofs.Crypto.Laws

/-!
# Which keys a message is sent with

Of the messages of a connection some are settled: what is sent behind them takes the keys of the
epoch that they end in, and these are the keys of the session's cipher (`OutgoingTraffic.Keyed`).
Among the others is one response that activates keys at most, and the staged keys are the ones it
needs. That is so while messages are written (`OutgoingTraffic.Live`); that what was written agrees
with what was queued stays so afterwards, too (`OutgoingTraffic.Ledger`).

What is done to a session for the answer of a request keeps its keys (`Connections.call_keepsKeys`),
and encrypting moves its counter by the frames that are made (`Registry.of_encrypt_ok`).
-/

namespace HomeKit

open FrameCipher (counterLimit)

/-! ## What is in force -/

namespace Epochs

/-- Nothing of the first epoch is an event, and each of the others has numbers for its frames. -/
structure Legible (epochs : Epochs) : Prop where
  plain : ∀ message ∈ epochs.first, message.isEvent = false
  fits : ∀ epoch ∈ epochs.later, frameCount epoch ≤ counterLimit

theorem Legible.push {epochs : Epochs} {message : Outgoing} (h : epochs.Legible)
    (hplain : epochs.ended = [] → message.isEvent = false)
    (hfits : epochs.ended ≠ [] → frameCount (epochs.current ++ [message]) ≤ counterLimit) :
    (epochs.push message).Legible := by
  refine ⟨fun other hmem => ?_, fun epoch hmem => ?_⟩
  · rcases @first_push epochs message with hfirst | ⟨hended, hfirst⟩
    · rw [hfirst] at hmem
      exact h.plain other hmem
    · rw [hfirst] at hmem
      rcases List.mem_append.1 hmem with hmem | hmem
      · exact h.plain other hmem
      · cases List.mem_singleton.1 hmem
        exact hplain hended
  · rcases mem_later_push hmem with hmem | ⟨hended, rfl⟩ | rfl
    · exact h.fits epoch hmem
    · exact hfits hended
    · exact Nat.zero_le _

end Epochs

/-- What becomes of a session that keeps its staged keys and its cipher, but for this many frames
that it has sent. -/
inductive KeepsKeys (frames : Nat) : Option Session → Option Session → Prop
  | gone {before : Option Session} : KeepsKeys frames before none
  | kept {before after : Session} (hstaged : after.staged = before.staged)
      (hkeys : after.cipher.map (·.keys) = before.cipher.map (·.keys))
      (hsent : ∀ cipher, after.cipher = some cipher → ∃ earlier, before.cipher = some earlier ∧
        cipher.sent = earlier.sent + frames ∧
          (earlier.sent ≤ counterLimit → cipher.sent ≤ counterLimit)) :
    KeepsKeys frames (some before) (some after)

theorem KeepsKeys.refl (session? : Option Session) : KeepsKeys 0 session? session? := by
  cases session? with
  | none => exact .gone
  | some session => exact .kept rfl rfl fun cipher hcipher => ⟨cipher, hcipher, rfl, id⟩

/-- A session that is there after a call that keeps keys was there before. -/
theorem KeepsKeys.exists_before {frames : Nat} {before? after? : Option Session} {after : Session}
    (h : KeepsKeys frames before? after?) (hafter : after? = some after) :
    ∃ before, before? = some before ∧ KeepsKeys frames (some before) (some after) := by
  rw [hafter] at h
  cases h with
  | kept hstaged hkeys hsent => exact ⟨_, rfl, .kept hstaged hkeys hsent⟩

/-- Plain text that is encrypted is taken as it is, or in frames for which there are numbers. -/
theorem Registry.of_encrypt_ok {suite : CipherSuite} {conn : ConnectionId}
    {registry next : Registry} {plaintext wire : Bytes}
    (h : registry.encrypt suite conn plaintext = (.ok wire, next)) :
    ∃ session, registry.session? conn = some session ∧
      KeepsKeys (chunks Frame.maxPlaintext plaintext).length (some session) (next.session? conn) ∧
      (next.session? conn).isSome = true ∧
      (session.cipher = none ∧ wire = plaintext ∨ ∃ cipher, session.cipher = some cipher ∧
        (chunks Frame.maxPlaintext plaintext).length ≤ counterLimit - cipher.sent ∧
        wire = (FrameCipher.frames suite cipher.keys.encrypt cipher.sent
          (chunks Frame.maxPlaintext plaintext)).flatten) := by
  unfold Registry.encrypt at h
  cases hsession : registry.session? conn with
  | none =>
    rw [hsession] at h
    cases h
  | some session =>
    rw [hsession] at h
    cases hcipher : session.cipher with
    | none =>
      simp only [hcipher] at h
      cases h
      rw [hsession]
      refine ⟨session, rfl, .kept rfl rfl ?_, rfl, .inl ⟨hcipher, rfl⟩⟩
      rw [hcipher]
      exact nofun
    | some cipher =>
      simp only [hcipher, Prod.mk.injEq] at h
      obtain ⟨hwire, rfl⟩ := h
      obtain ⟨hroom, hframes⟩ :=
        FrameCipher.encryptPieces_eq_ok_iff.1 (Registry.mapError_eq_ok hwire)
      have hfits : cipher.fitting (chunks Frame.maxPlaintext plaintext) =
          chunks Frame.maxPlaintext plaintext := List.take_of_length_le hroom
      have hafter : ((registry.setCipher conn (cipher.encrypt suite plaintext).2).session? conn) =
          some { session with cipher := some { cipher with
            sent := cipher.sent + (chunks Frame.maxPlaintext plaintext).length } } := by
        rw [Registry.setCipher, Registry.session?_modify, if_pos rfl,
          Registry.session_of_session? hsession, FrameCipher.encrypt, FrameCipher.encryptPieces_eq,
          hfits]
      rw [hafter]
      refine ⟨session, rfl, .kept rfl ?_ ?_, rfl, .inr ⟨cipher, hcipher, hroom, hframes⟩⟩
      · rw [hcipher]
        rfl
      · rintro _ ⟨⟩
        exact ⟨cipher, hcipher, rfl, fun hlimit => by simp only; omega⟩

/-- What is done to a session for the answer of a request keeps its keys. -/
theorem Connections.call_keepsKeys (suite : CipherSuite) (connections : Connections)
    {conn : ConnectionId} {session : Session}
    (hsession : connections.registry.session? conn = some session) {call : ConnectionCall}
    (hkeeps : call.keepsKeys = true) :
    ∃ after, (connections.call suite conn call).registry.session? conn = some after ∧
      KeepsKeys 0 (some session) (some after) := by
  have hfound := Registry.session_of_session? hsession
  have hmodified : ∀ f : Session → Session,
      (connections.registry.modify conn f).session? conn = some (f session) := by
    intro f
    rw [Registry.session?_modify, if_pos rfl, hfound]
  have hsame : ∀ after : Session, after.staged = session.staged → after.cipher = session.cipher →
      KeepsKeys 0 (some session) (some after) := by
    intro after hstaged hcipher
    refine .kept hstaged (by rw [hcipher]) fun cipher hafter => ?_
    exact ⟨cipher, hcipher.symm.trans hafter, rfl, id⟩
  cases call with
  | change f => exact ⟨_, hmodified _, hsame _ rfl rfl⟩
  | subscribe id on =>
    cases on with
    | true =>
      exact ⟨_, hmodified fun session =>
        { session with subscriptions := session.subscriptions.insert id }, hsame _ rfl rfl⟩
    | false =>
      exact ⟨_, hmodified fun session =>
        { session with subscriptions := session.subscriptions.erase id }, hsame _ rfl rfl⟩
  | decrypt raw =>
    simp only [call, call.onRegistry]
    rcases connections.registry.decrypt_cases suite conn raw with
      ⟨-, heq⟩ | ⟨-, heq⟩ | ⟨cipher, hcipher, heq⟩
    · rw [heq]
      exact ⟨session, hsession, .refl _⟩
    · rw [heq]
      exact ⟨session, hsession, .refl _⟩
    · rw [heq]
      have hafter := (Registry.decryptFrames_opens suite raw.length cipher raw).after
      rw [Registry.cipher?, hsession, Option.bind_some] at hcipher
      refine ⟨_, hmodified _, .kept rfl ?_ ?_⟩
      · rw [hafter, hcipher]
        rfl
      · rintro _ ⟨⟩
        rw [hafter]
        exact ⟨cipher, hcipher, rfl, id⟩
  | detach =>
    simp only [call, call.onRegistry]
    rw [Registry.detach_eq_modify hsession]
    exact ⟨_, hmodified _, hsame _ rfl rfl⟩
  | attach capacity => cases hkeeps
  | stage controller keys => cases hkeeps
  | activate => cases hkeeps
  | encrypt plaintext => cases hkeeps
  | remove => cases hkeeps

theorem Registry.session?_activate {registry : Registry} {conn : ConnectionId} {keys : SessionKeys}
    (h : ∀ session, registry.session? conn = some session → session.staged = some keys) :
    (registry.activate conn).session? conn = (registry.session? conn).map fun session =>
      { session with staged := none, cipher := some { keys } } := by
  unfold activate stagedKeys
  cases hsession : registry.session? conn with
  | none => exact hsession
  | some session =>
    rw [Option.bind_some, h session hsession]
    simp only
    rw [session?_modify, if_pos rfl, session_of_session? hsession]
    rfl

namespace OutgoingTraffic

/-- At which message the queue splits into those that are settled and the others. A response that
activates keys is settled when it has been written and the keys are activated, any other message as
soon as it is handed to the frame writer. -/
inductive Splits (messages : List Outgoing) :
    WritingStage → List Outgoing → List Outgoing → List Outgoing → Prop
  | idle (sealed : List Outgoing) : Splits messages .idle sealed sealed messages
  | writing (message : Outgoing) (sealed : List Outgoing) :
    Splits messages (.writing message) sealed sealed (message :: messages)
  | flushing (sealed : List Outgoing) : Splits messages (.flushing false) sealed sealed messages
  | activating {message : Outgoing} (h : message.activates = true) (settled : List Outgoing) :
    Splits messages (.flushing true) (settled ++ [message]) settled (message :: messages)
  | finishing (sealed : List Outgoing) : Splits messages .finishing sealed sealed messages

/-- The keys of a session are those of the messages that are settled, and staged keys are those that
the others need. -/
structure Keyed (keys : List SessionKeys) (sealed settled unsettled : List Outgoing)
    (session : Session) : Prop where
  state : (Epochs.states keys)[(Epochs.ofMessages settled).ended.length]? =
    some (session.cipher.map (·.keys))
  sent : settled = sealed → ∀ cipher, session.cipher = some cipher →
    cipher.sent = Epochs.frameCount (Epochs.ofMessages settled).current ∧
      cipher.sent ≤ counterLimit
  staged : unsettled.countP (·.activates) = 1 → session.staged = keys.getLast?

/-- What is the case while messages are written. -/
structure Live (conn : ConnectionId) (traffic : OutgoingTraffic)
    (settled unsettled : List Outgoing) : Prop where
  splits : Splits (traffic.messages conn) traffic.stage traffic.sealed settled unsettled
  queued : traffic.queued = settled ++ unsettled
  /-- One response that activates keys is on its way at most. -/
  owed : unsettled.countP (·.activates) ≤ 1
  free : traffic.reader = .free ∨ (∃ keys, traffic.reader = .verified keys) →
    unsettled.countP (·.activates) = 0
  present : traffic.reader ≠ .away → (traffic.session? conn).isSome = true
  keyed : ∀ session, traffic.session? conn = some session →
    Keyed traffic.keys traffic.sealed settled unsettled session
  verified : ∀ keys, traffic.reader = .verified keys →
    ∀ session, traffic.session? conn = some session → session.staged = some keys
  announced : (Epochs.ofMessages settled).ended = [] →
    traffic.announced = [] ∧ ∀ message ∈ traffic.queued, message.isEvent = false
  passed_on : traffic.stage = .idle → traffic.writer.waiting = []

/-- What is written agrees with what was queued, and with the keys that were staged. -/
structure Ledger (suite : CipherSuite) (queued sealed : List Outgoing) (keys : List SessionKeys)
    (bytes : Bytes) : Prop where
  in_order : sealed <+: queued
  length_keys : keys.length = queued.countP (·.activates)
  wire : bytes = (Epochs.ofMessages sealed).wire suite keys
  legible : (Epochs.ofMessages sealed).Legible

/-- The bytes that were passed on or wait for it. -/
def written (traffic : OutgoingTraffic) : Bytes :=
  traffic.sink.taken ++ traffic.writer.waiting

/-- The connection is accepted, and whatever was written was right. -/
structure Sound (suite : CipherSuite) (conn : ConnectionId) (traffic : OutgoingTraffic) : Prop where
  accepted : (traffic.outbox? conn).isSome = true
  ledger : Ledger suite traffic.queued traffic.sealed traffic.keys traffic.written
  live : traffic.stage ≠ .stopped → ∃ settled unsettled, Live conn traffic settled unsettled

variable {suite : CipherSuite} {conn : ConnectionId} {traffic : OutgoingTraffic}
  {settled unsettled : List Outgoing} {message : Outgoing}

/-! ## The ledger -/

section Ledger

variable {queued sealed : List Outgoing} {keys : List SessionKeys} {bytes more : Bytes}

theorem Ledger.nothing : Ledger suite [] [] [] [] where
  in_order := List.nil_prefix
  length_keys := rfl
  wire := rfl
  legible := ⟨List.forall_mem_nil _, List.forall_mem_nil _⟩

theorem Ledger.length_ended_le (h : Ledger suite queued sealed keys bytes) :
    (Epochs.ofMessages sealed).ended.length ≤ keys.length := by
  rw [Epochs.length_ended, h.length_keys]
  exact h.in_order.sublist.countP_le

theorem Ledger.queue (h : Ledger suite queued sealed keys bytes)
    (hactivates : message.activates = false) :
    Ledger suite (queued ++ [message]) sealed keys bytes := by
  refine ⟨h.in_order.trans (List.prefix_append ..), ?_, h.wire, h.legible⟩
  rw [h.length_keys, List.countP_append, List.countP_singleton, hactivates]
  rfl

theorem Ledger.queue_activating (h : Ledger suite queued sealed keys bytes)
    (hactivates : message.activates = true) (staged : SessionKeys) :
    Ledger suite (queued ++ [message]) sealed (keys ++ [staged]) bytes := by
  refine ⟨h.in_order.trans (List.prefix_append ..), ?_, ?_, h.legible⟩
  · rw [List.length_append, h.length_keys, List.countP_append, List.countP_singleton,
      if_pos hactivates]
    rfl
  · rw [Epochs.wire_append_keys suite h.length_ended_le]
    exact h.wire

/-- A message that is written adds what it adds to the current epoch. -/
theorem Ledger.seal {state : Option SessionKeys} (h : Ledger suite queued sealed keys bytes)
    (hqueued : sealed ++ [message] <+: queued)
    (hstate : (Epochs.states keys)[(Epochs.ofMessages sealed).ended.length]? = some state)
    (hmore : more =
      Epochs.wireBehind suite (Epochs.ofMessages sealed).current message.bytes state)
    (hplain : (Epochs.ofMessages sealed).ended = [] → message.isEvent = false)
    (hfits : (Epochs.ofMessages sealed).ended ≠ [] →
      Epochs.frameCount ((Epochs.ofMessages sealed).current ++ [message]) ≤ counterLimit) :
    Ledger suite queued (sealed ++ [message]) keys (bytes ++ more) := by
  have hkeys : message.activates = true →
      (Epochs.ofMessages sealed).ended.length < keys.length := by
    intro hactivates
    have hcount := hqueued.sublist.countP_le (p := (·.activates))
    rw [List.countP_append, List.countP_singleton, if_pos hactivates] at hcount
    rw [Epochs.length_ended, h.length_keys]
    exact hcount
  refine ⟨hqueued, h.length_keys, ?_, ?_⟩
  · rw [hmore, h.wire, Epochs.ofMessages_concat, Epochs.wire_push hstate hkeys]
  · rw [Epochs.ofMessages_concat]
    exact h.legible.push hplain hfits

/-- An empty message adds nothing. -/
theorem Ledger.seal_empty (h : Ledger suite queued sealed keys bytes)
    (hqueued : sealed ++ [message] <+: queued) (hempty : message.bytes = [])
    (hplain : (Epochs.ofMessages sealed).ended = [] → message.isEvent = false) :
    Ledger suite queued (sealed ++ [message]) keys bytes := by
  obtain ⟨state, hstate⟩ : ∃ state,
      (Epochs.states keys)[(Epochs.ofMessages sealed).ended.length]? = some state := by
    refine ⟨_, List.getElem?_eq_getElem ?_⟩
    rw [Epochs.states, List.length_cons, List.length_map]
    exact Nat.lt_succ_of_le h.length_ended_le
  have hmore : [] =
      Epochs.wireBehind suite (Epochs.ofMessages sealed).current message.bytes state := by
    rw [hempty, Epochs.wireBehind_nil]
  have hsealed := h.seal hqueued hstate hmore hplain fun hended => by
    rw [Epochs.frameCount_concat, hempty]
    exact h.legible.fits _ (Epochs.current_mem_later hended)
  rw [List.append_nil] at hsealed
  exact hsealed

end Ledger

/-! ## The keys of a session -/

section Keyed

variable {keys : List SessionKeys} {sealed rest : List Outgoing} {before after : Session}
  {frames : Nat}

theorem Keyed.keep
    (h : Keyed keys sealed settled unsettled before)
    (hkeeps : KeepsKeys 0 (some before) (some after)) :
    Keyed keys sealed settled unsettled after := by
  cases hkeeps with
  | kept hstaged hkeys hsent =>
    refine ⟨?_, fun hsettled cipher hcipher => ?_, ?_⟩
    · rw [hkeys]
      exact h.state
    · obtain ⟨earlier, hearlier, hcount, hbounded⟩ := hsent cipher hcipher
      obtain ⟨hsame, hlimit⟩ := h.sent hsettled earlier hearlier
      exact ⟨hcount.trans hsame, hbounded hlimit⟩
    · rw [hstaged]
      exact h.staged

/-- A response that activates keys is sent with those in force, and not settled by that. -/
theorem Keyed.seal_activating (h : Keyed keys sealed sealed unsettled before)
    (hkeeps : KeepsKeys frames (some before) (some after)) :
    Keyed keys (sealed ++ [message]) sealed unsettled after := by
  cases hkeeps with
  | kept hstaged hkeys hsent =>
    refine ⟨?_, fun hsealed => ?_, ?_⟩
    · rw [hkeys]
      exact h.state
    · exact absurd (List.self_eq_append_right.1 hsealed) (List.cons_ne_nil _ _)
    · rw [hstaged]
      exact h.staged

/-- Any other message is settled, and its frames are counted. -/
theorem Keyed.seal (h : Keyed keys sealed sealed (message :: rest) before)
    (hactivates : message.activates = false)
    (hkeeps : KeepsKeys (chunks Frame.maxPlaintext message.bytes).length (some before)
      (some after)) :
    Keyed keys (sealed ++ [message]) (sealed ++ [message]) rest after := by
  have hcount : (message :: rest).countP (·.activates) = rest.countP (·.activates) :=
    List.countP_cons_of_neg (by rw [hactivates]; exact Bool.false_ne_true)
  have hepochs : Epochs.ofMessages (sealed ++ [message]) = _ :=
    (Epochs.ofMessages_concat ..).trans (Epochs.push_of_not_activates hactivates)
  cases hkeeps with
  | kept hstaged hkeys hsent =>
    refine ⟨?_, fun _ cipher hcipher => ?_, fun hone => ?_⟩
    · rw [hkeys, hepochs]
      exact h.state
    · obtain ⟨earlier, hearlier, hframes, hbounded⟩ := hsent cipher hcipher
      obtain ⟨hsame, hlimit⟩ := h.sent rfl earlier hearlier
      rw [hepochs, Epochs.frameCount_concat, ← hsame]
      exact ⟨hframes, hbounded hlimit⟩
    · rw [hstaged]
      exact h.staged (hcount.trans hone)

/-- What a session encrypts is what the message adds to its epoch. -/
theorem Keyed.wire {wire : Bytes} (h : Keyed keys sealed sealed unsettled before)
    (hwire : before.cipher = none ∧ wire = message.bytes ∨
      ∃ cipher, before.cipher = some cipher ∧
        (chunks Frame.maxPlaintext message.bytes).length ≤ counterLimit - cipher.sent ∧
        wire = (FrameCipher.frames suite cipher.keys.encrypt cipher.sent
          (chunks Frame.maxPlaintext message.bytes)).flatten) :
    wire = Epochs.wireBehind suite (Epochs.ofMessages sealed).current message.bytes
        (before.cipher.map (·.keys)) ∧
      ((Epochs.ofMessages sealed).ended ≠ [] →
        Epochs.frameCount ((Epochs.ofMessages sealed).current ++ [message]) ≤ counterLimit) := by
  rcases hwire with ⟨hcipher, rfl⟩ | ⟨cipher, hcipher, hroom, rfl⟩
  · refine ⟨?_, fun hended => ?_⟩
    · rw [hcipher]
      rfl
    -- without a cipher there are no keys yet
    · have hstate := h.state
      obtain ⟨epoch, rest, hcons⟩ := List.exists_cons_of_ne_nil hended
      rw [hcipher, hcons, Epochs.states, List.length_cons, List.getElem?_cons_succ,
        List.getElem?_map] at hstate
      obtain ⟨keys, -, hkeys⟩ := Option.map_eq_some_iff.1 hstate
      cases hkeys
  · obtain ⟨hsent, hlimit⟩ := h.sent rfl cipher hcipher
    refine ⟨?_, fun _ => ?_⟩
    · rw [hcipher, hsent]
      rfl
    · rw [Epochs.frameCount_concat, ← hsent]
      omega

/-- The keys that were staged last are those of the epoch that begins. -/
theorem Keyed.activated {staged : SessionKeys} (hactivates : message.activates = true)
    (hended : (Epochs.ofMessages (sealed ++ [message])).ended.length = keys.length)
    (hlast : keys.getLast? = some staged) (hnone : rest.countP (·.activates) = 0) :
    Keyed keys (sealed ++ [message]) (sealed ++ [message]) rest
      { before with staged := none, cipher := some { keys := staged } } := by
  refine ⟨?_, ?_, fun hone => ?_⟩
  · have hpos : keys.length ≠ 0 := by
      rw [← hended, Epochs.length_ended, List.countP_append, List.countP_singleton,
        if_pos hactivates]
      exact Nat.succ_ne_zero _
    obtain ⟨earlier, hearlier⟩ := Nat.exists_eq_succ_of_ne_zero hpos
    rw [List.getLast?_eq_getElem?, hearlier] at hlast
    rw [hended, hearlier]
    exact (List.getElem?_map ..).trans (congrArg _ hlast)
  · rintro - _ ⟨⟩
    rw [Epochs.ofMessages_concat, Epochs.push_of_activates hactivates]
    exact ⟨rfl, Nat.zero_le _⟩
  · rw [hnone] at hone
    cases hone

end Keyed

end OutgoingTraffic

end HomeKit
