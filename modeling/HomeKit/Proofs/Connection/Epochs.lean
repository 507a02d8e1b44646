import HomeKit.Connection.Outbox
import HomeKit.Proofs.Connection.Channel
import Mathlib.Data.List.Induction

/-!
# Messages under one key

A response that activates keys is the last message of an epoch: what comes behind it is encrypted
with the new keys (`Epochs`). On the wire the messages of the first epoch are plain text, and those
of each other epoch are frames of its keys, counted from zero (`Epochs.wire`). So a further message
adds its frames to the current epoch at most (`Epochs.wire_push`), and who holds the keys of an
epoch reads its messages, in order and without those of the epochs before (`Epochs.decrypt_wireOf`).
-/

namespace HomeKit

/-- The message is an event, and not the answer to a request. -/
def Outgoing.isEvent : Outgoing → Bool
  | response .. => false
  | event _ => true

/-- Messages in the order in which they are sent, cut behind each response that activates keys. -/
structure Epochs where
  ended : List (List Outgoing) := []
  current : List Outgoing := []

namespace Epochs

/-- One more message is sent. -/
def push (epochs : Epochs) (message : Outgoing) : Epochs :=
  if message.activates then { ended := epochs.ended ++ [epochs.current ++ [message]] }
  else { epochs with current := epochs.current ++ [message] }

def ofMessages (messages : List Outgoing) : Epochs :=
  messages.foldl push {}

def all (epochs : Epochs) : List (List Outgoing) :=
  epochs.ended ++ [epochs.current]

/-- The epoch without keys. -/
def first (epochs : Epochs) : List Outgoing :=
  epochs.ended.headD epochs.current

/-- The epochs with keys. -/
def later (epochs : Epochs) : List (List Outgoing) :=
  epochs.all.tail

variable {epochs : Epochs} {message : Outgoing} {messages epoch : List Outgoing}

/-! ## Where the messages are cut -/

theorem ofMessages_concat (messages : List Outgoing) (message : Outgoing) :
    ofMessages (messages ++ [message]) = (ofMessages messages).push message := by
  rw [ofMessages, List.foldl_append]
  rfl

theorem push_of_activates (h : message.activates = true) :
    epochs.push message = { ended := epochs.ended ++ [epochs.current ++ [message]] } :=
  if_pos h

theorem push_of_not_activates (h : message.activates = false) :
    epochs.push message = { epochs with current := epochs.current ++ [message] } :=
  if_neg (by rw [h]; exact Bool.false_ne_true)

/-- No message is lost, and none changes its place. -/
theorem flatten_all (messages : List Outgoing) : (ofMessages messages).all.flatten = messages := by
  induction messages using List.reverseRecOn with
  | nil => rfl
  | append_singleton messages message ih =>
    rw [ofMessages_concat, push]
    unfold all at ih ⊢
    split
    · simp only [List.flatten_append, List.flatten_cons, List.flatten_nil, List.append_nil] at ih ⊢
      rw [← List.append_assoc, ih]
    · simp only [List.flatten_append, List.flatten_cons, List.flatten_nil, List.append_nil] at ih ⊢
      rw [← List.append_assoc, ih]

/-- The only message of an epoch that activates keys is the last of an epoch that has ended. -/
theorem cut_behind_activating (messages : List Outgoing) :
    (∀ epoch ∈ (ofMessages messages).ended, ∃ before last,
      epoch = before ++ [last] ∧ last.activates = true ∧
        ∀ message ∈ before, message.activates = false) ∧
      ∀ message ∈ (ofMessages messages).current, message.activates = false := by
  induction messages using List.reverseRecOn with
  | nil => exact ⟨nofun, nofun⟩
  | append_singleton messages message ih =>
    obtain ⟨hended, hcurrent⟩ := ih
    rw [ofMessages_concat]
    cases hactivates : message.activates with
    | true =>
      rw [push_of_activates hactivates]
      refine ⟨fun epoch hmem => ?_, nofun⟩
      rcases List.mem_append.1 hmem with hmem | hmem
      · exact hended epoch hmem
      · cases List.mem_singleton.1 hmem
        exact ⟨_, message, rfl, hactivates, hcurrent⟩
    | false =>
      rw [push_of_not_activates hactivates]
      refine ⟨hended, fun other hmem => ?_⟩
      rcases List.mem_append.1 hmem with hmem | hmem
      · exact hcurrent other hmem
      · cases List.mem_singleton.1 hmem
        exact hactivates

theorem length_ended (messages : List Outgoing) :
    (ofMessages messages).ended.length = messages.countP (·.activates) := by
  induction messages using List.reverseRecOn with
  | nil => rfl
  | append_singleton messages message ih =>
    rw [ofMessages_concat, List.countP_append, ← ih]
    cases hactivates : message.activates with
    | true =>
      rw [push_of_activates hactivates, List.countP_singleton, if_pos hactivates]
      exact List.length_append
    | false =>
      rw [push_of_not_activates hactivates, List.countP_singleton, hactivates]
      rfl

theorem first_push :
    (epochs.push message).first = epochs.first ∨
      epochs.ended = [] ∧ (epochs.push message).first = epochs.first ++ [message] := by
  rcases epochs with ⟨ended, current⟩
  cases ended with
  | nil =>
    right
    refine ⟨rfl, ?_⟩
    unfold push
    split
    · rfl
    · rfl
  | cons epoch rest =>
    left
    unfold push
    split
    · rfl
    · rfl

theorem all_eq (epochs : Epochs) : epochs.all = epochs.first :: epochs.later := by
  rcases epochs with ⟨ended, current⟩
  cases ended with
  | nil => rfl
  | cons epoch rest => rfl

theorem current_mem_later (h : epochs.ended ≠ []) : epochs.current ∈ epochs.later := by
  unfold later all
  rw [List.tail_append_of_ne_nil h]
  exact List.mem_append_right _ List.mem_cons_self

theorem mem_later_push (hmem : epoch ∈ (epochs.push message).later) :
    epoch ∈ epochs.later ∨ epochs.ended ≠ [] ∧ epoch = epochs.current ++ [message] ∨
      epoch = [] := by
  rcases epochs with ⟨ended, current⟩
  cases ended with
  | nil =>
    unfold push later all at hmem
    split at hmem
    · right; right
      exact List.mem_singleton.1 hmem
    · cases hmem
  | cons first rest =>
    unfold push later all at hmem
    unfold later all
    split at hmem
    · simp only [List.cons_append, List.tail_cons, List.mem_append, List.mem_singleton] at hmem ⊢
      rcases hmem with (hmem | hmem) | hmem
      · exact .inl (.inl hmem)
      · exact .inr (.inl ⟨List.cons_ne_nil _ _, hmem⟩)
      · exact .inr (.inr hmem)
    · simp only [List.cons_append, List.tail_cons, List.mem_append, List.mem_singleton] at hmem ⊢
      rcases hmem with hmem | hmem
      · exact .inl (.inl hmem)
      · exact .inr (.inl ⟨List.cons_ne_nil _ _, hmem⟩)

/-! ## The wire -/

/-- The plain texts of messages. -/
def texts (messages : List Outgoing) : List Bytes :=
  messages.map Outgoing.bytes

/-- The frames that messages of one epoch take. -/
def frameCount (messages : List Outgoing) : Nat :=
  (FrameCipher.piecesOf (texts messages)).length

/-- What one epoch is on the wire: plain text without keys, and else frames from number zero on. -/
def wireOf (suite : CipherSuite) : Option SessionKeys → List Outgoing → Bytes
  | none, messages => (texts messages).flatten
  | some keys, messages =>
    (FrameCipher.frames suite keys.encrypt 0 (FrameCipher.piecesOf (texts messages))).flatten

/-- The keys of the epochs, the first of which has none. -/
def states (keys : List SessionKeys) : List (Option SessionKeys) :=
  none :: keys.map some

/-- What the epochs are on the wire, each with the keys that the response before it activates. -/
def wire (suite : CipherSuite) (keys : List SessionKeys) (epochs : Epochs) : Bytes :=
  (List.zipWith (wireOf suite) (states keys) epochs.all).flatten

/-- What a message adds to the wire behind others of its epoch. -/
def wireBehind (suite : CipherSuite) (messages : List Outgoing) (plaintext : Bytes) :
    Option SessionKeys → Bytes
  | none => plaintext
  | some keys =>
    (FrameCipher.frames suite keys.encrypt (frameCount messages)
      (chunks Frame.maxPlaintext plaintext)).flatten

theorem piecesOf_concat (messages : List Outgoing) (message : Outgoing) :
    FrameCipher.piecesOf (texts (messages ++ [message])) =
      FrameCipher.piecesOf (texts messages) ++ chunks Frame.maxPlaintext message.bytes := by
  simp only [texts, FrameCipher.piecesOf, List.map_append, List.flatMap_append, List.map_cons,
    List.map_nil, List.flatMap_cons, List.flatMap_nil, List.append_nil]

theorem frameCount_concat (messages : List Outgoing) (message : Outgoing) :
    frameCount (messages ++ [message]) =
      frameCount messages + (chunks Frame.maxPlaintext message.bytes).length := by
  rw [frameCount, piecesOf_concat, List.length_append, frameCount]

theorem wireOf_nil (suite : CipherSuite) (state : Option SessionKeys) :
    wireOf suite state [] = [] := by
  cases state with
  | none => rfl
  | some keys => rfl

theorem wireOf_concat (suite : CipherSuite) (state : Option SessionKeys) (messages : List Outgoing)
    (message : Outgoing) :
    wireOf suite state (messages ++ [message]) =
      wireOf suite state messages ++ wireBehind suite messages message.bytes state := by
  cases state with
  | none =>
    simp only [wireOf, wireBehind, texts, List.map_append, List.flatten_append, List.map_cons,
      List.map_nil, List.flatten_cons, List.flatten_nil, List.append_nil]
  | some keys =>
    simp only [wireOf, wireBehind]
    rw [piecesOf_concat, FrameCipher.frames_append, List.flatten_append, Nat.zero_add, frameCount]

theorem wireBehind_nil (suite : CipherSuite) (messages : List Outgoing)
    (state : Option SessionKeys) : wireBehind suite messages [] state = [] := by
  cases state with
  | none => rfl
  | some keys => rfl

theorem zipWith_concat {α β γ : Type} {f : α → β → γ} {as : List α} {bs : List β} {a : α}
    (h : as[bs.length]? = some a) (b : β) :
    List.zipWith f as (bs ++ [b]) = List.zipWith f as bs ++ [f a b] := by
  induction bs generalizing as with
  | nil =>
    cases as with
    | nil => cases h
    | cons first rest =>
      cases h
      rw [List.nil_append, List.zipWith_cons_cons, List.zipWith_nil_right, List.zipWith_nil_right]
      rfl
  | cons other bs ih =>
    cases as with
    | nil => cases h
    | cons first rest =>
      rw [List.cons_append, List.zipWith_cons_cons, List.zipWith_cons_cons, List.cons_append]
      exact congrArg _ (ih h)

theorem zipWith_append_left {α β γ : Type} {f : α → β → γ} {as : List α} {bs : List β}
    (h : bs.length ≤ as.length) (more : List α) :
    List.zipWith f (as ++ more) bs = List.zipWith f as bs := by
  induction bs generalizing as with
  | nil => rw [List.zipWith_nil_right, List.zipWith_nil_right]
  | cons b bs ih =>
    cases as with
    | nil => cases h
    | cons a as =>
      rw [List.cons_append, List.zipWith_cons_cons, List.zipWith_cons_cons,
        ih (Nat.le_of_succ_le_succ h)]

/-- A message behind the others adds to the wire what it adds to the current epoch. -/
theorem wire_push {suite : CipherSuite} {keys : List SessionKeys} {state : Option SessionKeys}
    (hstate : (states keys)[epochs.ended.length]? = some state)
    (hkeys : message.activates = true → epochs.ended.length < keys.length) :
    (epochs.push message).wire suite keys =
      epochs.wire suite keys ++ wireBehind suite epochs.current message.bytes state := by
  unfold wire all
  cases hactivates : message.activates with
  | true =>
    -- the epoch that begins is still empty
    obtain ⟨next, hnext⟩ : ∃ next, keys[epochs.ended.length]? = some next :=
      ⟨_, List.getElem?_eq_getElem (hkeys hactivates)⟩
    have hbegins : (states keys)[(epochs.ended ++ [epochs.current ++ [message]]).length]? =
        some (some next) := by
      rw [List.length_append, states]
      exact (List.getElem?_map ..).trans (congrArg _ hnext)
    rw [push_of_activates hactivates]
    simp only
    rw [zipWith_concat hbegins, zipWith_concat hstate, zipWith_concat hstate, wireOf_nil,
      wireOf_concat]
    simp only [List.flatten_append, List.flatten_cons, List.flatten_nil, List.append_nil,
      List.append_assoc]
  | false =>
    rw [push_of_not_activates hactivates]
    simp only
    rw [zipWith_concat hstate, zipWith_concat hstate, wireOf_concat]
    simp only [List.flatten_append, List.flatten_cons, List.flatten_nil, List.append_nil,
      List.append_assoc]

/-- Keys for epochs that have not begun change nothing. -/
theorem wire_append_keys (suite : CipherSuite) {keys : List SessionKeys}
    (h : epochs.ended.length ≤ keys.length) (more : List SessionKeys) :
    epochs.wire suite (keys ++ more) = epochs.wire suite keys := by
  have hlength : epochs.all.length ≤ (states keys).length := by
    simp only [all, states, List.length_append, List.length_cons, List.length_map, List.length_nil]
    omega
  have hstates : states (keys ++ more) = states keys ++ more.map some := by
    rw [states, List.map_append]
    rfl
  rw [wire, hstates, zipWith_append_left hlength, wire]

/-- Plain text comes first, and then the frames of one key after another. -/
theorem wire_eq (suite : CipherSuite) (keys : List SessionKeys) (epochs : Epochs) :
    epochs.wire suite keys = (texts epochs.first).flatten ++
      (List.zipWith (fun keys => wireOf suite (some keys)) keys epochs.later).flatten := by
  rw [wire, all_eq, states, List.zipWith_cons_cons, List.zipWith_map_left]
  rfl

/-- Who has the keys of an epoch reads its messages. -/
theorem decrypt_wireOf {suite : CipherSuite} (hexact : suite.DecryptsExactly)
    (htag : suite.AppendsTag) (keys : SessionKeys)
    (hfits : frameCount messages ≤ FrameCipher.counterLimit) :
    FrameCipher.decrypt suite { keys := keys.swap } (wireOf suite (some keys) messages) =
      (.ok (texts messages).flatten,
        { keys := keys.swap, received := frameCount messages }) := by
  have hroom : 0 + frameCount messages ≤ FrameCipher.counterLimit := by
    rw [Nat.zero_add]
    exact hfits
  have hdecrypt := @FrameCipher.decrypt_frames suite { keys := keys.swap } hexact htag
    (FrameCipher.piecesOf (texts messages)) FrameCipher.length_le_of_mem_piecesOf hroom
  rw [FrameCipher.flatten_piecesOf] at hdecrypt
  simp only [Nat.zero_add] at hdecrypt
  exact hdecrypt

end Epochs

end HomeKit
