import HomeKit.Proofs.Connection.Nonces
import HomeKit.Proofs.Connection.Stream
import HomeKit.Proofs.Positions

/-!
# The complete frames of a buffer

Frames are decrypted in two ways: a cipher takes a buffer that holds complete frames only, and a
registry takes what has arrived on a connection, where the last frame may be cut. A buffer has one
longest beginning of complete frames (`Frame.Splits`), found from the declared lengths alone. The
registry decrypts what the cipher decrypts of this beginning, and what it does with the bytes behind
is decided by the length that they declare (`Registry.decrypt_splits`).

Both go through the buffer by position. Written so, with every position tested against the buffer
(`FrameCipher.decryptFrom`, `FrameCipher.openFrom`), no test ever fails.
-/

namespace HomeKit

/-! ## The longest beginning of complete frames -/

namespace Frame

variable {raw rest left : Bytes} {frames others : List Bytes}

/-- How much plain text the buffer declares at its start, if the length bytes are there. -/
def declared? : Bytes → Option Nat
  | low :: high :: _ => some (ofLittleEndian [low, high])
  | _ => none

theorem IsPartial.declared?_le (h : IsPartial rest) {declared : Nat}
    (hdeclared : declared? rest = some declared) : declared ≤ maxPlaintext := by
  match rest, hdeclared with
  | low :: high :: left, rfl =>
    by_contra hlarge
    have hlength : length? (low :: high :: left) = _ := if_pos (Nat.not_le.1 hlarge)
    cases h with
    | noLength h | short h =>
      rw [hlength] at h
      cases h

/-- Two complete frames at the start of a buffer are one. -/
theorem IsComplete.append_inj {first second : Bytes} (h : IsComplete first)
    (h' : IsComplete second) (heq : first ++ rest = second ++ left) :
    first = second ∧ rest = left := by
  have hfirst := length?_append h rest
  rw [heq, length?_append h' left] at hfirst
  have hlength : second.length = first.length := Option.some.inj (Except.ok.inj hfirst)
  exact List.append_inj heq hlength.symm

/-- No complete frame is at the start of the buffer. -/
def EndsFrames (rest : Bytes) : Prop :=
  ∀ frame left, IsComplete frame → rest ≠ frame ++ left

theorem IsPartial.endsFrames (h : IsPartial rest) : EndsFrames rest := by
  rintro frame left hframe rfl
  have hlength := length?_append hframe left
  cases h with
  | noLength h =>
    rw [hlength] at h
    cases h
  | short h hshort =>
    rw [hlength, Except.ok.injEq, Option.some.injEq] at h
    rw [List.length_append] at hshort
    omega

theorem endsFrames_of_lt {low high : UInt8} (h : maxPlaintext < ofLittleEndian [low, high])
    (rest : Bytes) : EndsFrames (low :: high :: rest) := by
  intro frame left hframe heq
  have hlength := length?_append hframe left
  have hlarge : length? (low :: high :: rest) = _ := if_pos h
  rw [← heq, hlarge] at hlength
  cases hlength

theorem EndsFrames.isPrefix (h : EndsFrames rest) (hframes : ∀ frame ∈ frames, IsComplete frame)
    (hothers : ∀ frame ∈ others, IsComplete frame)
    (heq : frames.flatten ++ rest = others.flatten ++ left) : others <+: frames := by
  induction others generalizing frames with
  | nil => exact List.nil_prefix
  | cons first others ih =>
    have hfirst := hothers first List.mem_cons_self
    rw [List.flatten_cons, List.append_assoc] at heq
    cases frames with
    | nil => exact absurd heq (h first _ hfirst)
    | cons frame frames =>
      rw [List.flatten_cons, List.append_assoc] at heq
      obtain ⟨rfl, hrest⟩ := (hframes frame List.mem_cons_self).append_inj hfirst heq
      exact (List.prefix_cons_inj frame).2 (ih
        (fun other hmem => hframes other (List.mem_cons_of_mem _ hmem))
        (fun other hmem => hothers other (List.mem_cons_of_mem _ hmem)) hrest)

/-- The frames are the longest beginning of the buffer that is made of complete frames, and the rest
is what is behind them. -/
structure Splits (raw : Bytes) (frames : List Bytes) (rest : Bytes) : Prop where
  eq_append : raw = frames.flatten ++ rest
  isComplete : ∀ frame ∈ frames, IsComplete frame
  longest : ∀ (others : List Bytes) left, raw = others.flatten ++ left →
    (∀ frame ∈ others, IsComplete frame) → others.flatten.length ≤ frames.flatten.length

theorem EndsFrames.splits (h : EndsFrames rest) (hframes : ∀ frame ∈ frames, IsComplete frame) :
    Splits (frames.flatten ++ rest) frames rest := by
  refine ⟨rfl, hframes, fun others left heq hothers => ?_⟩
  obtain ⟨more, rfl⟩ := h.isPrefix hframes hothers heq
  rw [List.flatten_append, List.length_append]
  omega

theorem exists_splits (raw : Bytes) : ∃ frames rest, Splits raw frames rest := by
  suffices hcut : ∃ (frames : List Bytes) (rest : Bytes), raw = frames.flatten ++ rest ∧
      (∀ frame ∈ frames, IsComplete frame) ∧ EndsFrames rest by
    obtain ⟨frames, rest, rfl, hframes, hrest⟩ := hcut
    exact ⟨frames, rest, hrest.splits hframes⟩
  induction hsize : raw.length using Nat.strongRecOn generalizing raw with
  | ind size ih =>
    rcases start_cases raw with
      hpartial | ⟨low, high, left, rfl, hlarge⟩ | ⟨frame, rest, rfl, hframe⟩
    · exact ⟨[], raw, rfl, nofun, hpartial.endsFrames⟩
    · exact ⟨[], _, rfl, nofun, endsFrames_of_lt hlarge left⟩
    · have hpos := List.length_pos_iff.2 hframe.ne_nil
      rw [List.length_append] at hsize
      obtain ⟨frames, left, rfl, hframes, hend⟩ := ih rest.length (by omega) rest rfl
      refine ⟨frame :: frames, left, ?_, ?_, hend⟩
      · rw [List.flatten_cons, List.append_assoc]
      · intro other hmem
        rcases List.mem_cons.1 hmem with rfl | hmem
        · exact hframe
        · exact hframes other hmem

/-- Behind the complete frames there is a part of a frame, or one that is too large. -/
theorem Splits.rest_cases (h : Splits raw frames rest) :
    IsPartial rest ∨ ∃ low high left, rest = low :: high :: left ∧
      maxPlaintext < ofLittleEndian [low, high] := by
  rcases start_cases rest with hpartial | hlarge | ⟨frame, left, rfl, hframe⟩
  · exact Or.inl hpartial
  · exact Or.inr hlarge
  · -- with one more complete frame there would be a longer beginning
    have hlonger := h.longest (frames ++ [frame]) left ?_ ?_
    · have hpos := List.length_pos_iff.2 hframe.ne_nil
      simp only [List.flatten_append, List.flatten_singleton, List.length_append] at hlonger
      omega
    · rw [h.eq_append, List.flatten_append, List.flatten_singleton, List.append_assoc]
    · intro other hmem
      rcases List.mem_append.1 hmem with hmem | hmem
      · exact h.isComplete other hmem
      · exact List.mem_singleton.1 hmem ▸ hframe

end Frame

/-! ## By position -/

namespace FrameCipher

open Registry (decryptFrames)

variable {suite : CipherSuite} {cipher : FrameCipher} {rest : Bytes} {frames : List Bytes}

/-- Decrypts a buffer from a position on, with the plain text so far; there is no result if a
position is out of range. -/
def decryptFrom (suite : CipherSuite) (data : Bytes) (cipher : FrameCipher) (offset : Nat)
    (out : Bytes) : Option (Except CryptoError Bytes × FrameCipher) :=
  if _ : offset < data.length then
    match slice? data offset data.length with
    | none => none
    | some rest =>
      match _ : Frame.length? rest with
      | .error error => some (.error error, cipher)
      | .ok none => some (.error (.decryption "Incomplete ciphertext frame"), cipher)
      | .ok (some length) =>
        if offset + length ≤ data.length then
          match slice? data (offset + 2) (offset + length) with
          | none => none
          | some body =>
            match cipher.decryptBlock suite body (length - Frame.overhead) with
            | (.error error, cipher) => some (.error error, cipher)
            | (.ok plaintext, cipher) =>
              decryptFrom suite data cipher (offset + length) (out ++ plaintext)
        else some (.error (.decryption "Incomplete ciphertext frame"), cipher)
  else some (.ok out, cipher)
termination_by data.length - offset
decreasing_by
  have hover := Frame.overhead_le_length ‹_›
  have hpos : 0 < Frame.overhead := by decide
  omega

/-- Opens the complete frames of a buffer from a position on, with the plain text so far; what is
left is the rest of the buffer. There is no result if a position is out of range. -/
def openFrom (suite : CipherSuite) (raw : Bytes) (cipher : FrameCipher) (consumed : Nat)
    (plaintext : Bytes) : Option (Except TransportError (Bytes × Bytes) × FrameCipher) :=
  match slice? raw consumed raw.length with
  | none => none
  | some rest =>
    match _ : Frame.length? rest with
    | .error _ =>
      match raw[consumed]?, raw[consumed + 1]? with
      | some low, some high => some (.error (.frameTooLarge (ofLittleEndian [low, high])), cipher)
      | _, _ => none
    | .ok none => some (.ok (plaintext, rest), cipher)
    | .ok (some length) =>
      if _ : raw.length - consumed < length then some (.ok (plaintext, rest), cipher)
      else
        match slice? raw consumed (consumed + length) with
        | none => none
        | some frame =>
          match decryptFrom suite frame cipher 0 [] with
          | none => none
          | some (.error _, cipher) => some (.error .frameIntegrity, cipher)
          | some (.ok block, cipher) =>
            openFrom suite raw cipher (consumed + length) (plaintext ++ block)
termination_by raw.length - consumed
decreasing_by
  have hover := Frame.overhead_le_length ‹_›
  have hpos : 0 < Frame.overhead := by decide
  omega

/-- From the start of a frame on, every position is in range, and the rest is decrypted. -/
theorem decryptFrom_append (suite : CipherSuite) (cipher : FrameCipher) (front rest out : Bytes) :
    decryptFrom suite (front ++ rest) cipher front.length out =
      some (andThen (.ok out, cipher) fun cipher => cipher.decrypt suite rest) := by
  -- each frame moves from the rest to the front, and the position with it
  induction hsize : rest.length using Nat.strongRecOn generalizing cipher front rest out with
  | ind size ih =>
    unfold decryptFrom
    by_cases hnil : rest = []
    · subst hnil
      rw [List.append_nil, dif_neg (Nat.lt_irrefl _)]
      simp only [decrypt_nil, andThen_nil]
    have hpos := List.length_pos_iff.2 hnil
    have hlength : (front ++ rest).length = front.length + rest.length := List.length_append
    rw [dif_pos (by omega), slice?_append_length]
    simp only
    split
    · rename_i hlarge
      rw [andThen, decrypt_of_length?_error hlarge]
      rfl
    · rename_i hnone
      rw [andThen, decrypt_of_isPartial (.noLength hnone) hnil]
      rfl
    · rename_i length hsome
      split
      · rename_i hwhole
        have hframe := Frame.isComplete_take hsome (by omega)
        have hover := Frame.overhead_le_length hsome
        have htwo : Frame.overhead = 18 := rfl
        have hbody : slice? (front ++ rest) (front.length + 2) (front.length + length) =
            some ((rest.take length).drop 2) :=
          slice?_append front rest (by omega) (by omega)
        have htaken : (rest.take length).length = length := List.length_take_of_le (by omega)
        have hcut : cipher.decrypt suite (rest.take length ++ rest.drop length) = _ :=
          decrypt_frame_append hframe _
        rw [List.take_append_drop, htaken] at hcut
        rw [hbody]
        simp only [andThen, hcut]
        rcases decryptBlock suite cipher ((rest.take length).drop 2) (length - Frame.overhead) with
          ⟨error | plaintext, mid⟩
        · rfl
        · have hposition := length_append_take front (show length ≤ rest.length by omega)
          have hnext := ih (rest.drop length).length (by rw [List.length_drop]; omega) mid
            (front ++ rest.take length) (rest.drop length) (out ++ plaintext) rfl
          rw [append_take_append_drop, hposition] at hnext
          simp only [hnext, andThen]
          rcases mid.decrypt suite (rest.drop length) with ⟨error | more, after⟩
          · rfl
          · simp only [Except.map, List.append_assoc]
      · rename_i hshort
        rw [andThen, decrypt_of_isPartial (.short hsome (by omega)) hnil]
        rfl

/-- The same of a buffer that may end within a frame. -/
theorem openFrom_append (suite : CipherSuite) (cipher : FrameCipher)
    (front rest plaintext : Bytes) {count : Nat} (hcount : rest.length ≤ count) :
    openFrom suite (front ++ rest) cipher front.length plaintext =
      some ((decryptFrames suite count cipher rest).1.map fun (more, left) =>
        (plaintext ++ more, left), (decryptFrames suite count cipher rest).2) := by
  induction hsize : rest.length using Nat.strongRecOn
    generalizing cipher front rest plaintext count with
  | ind size ih =>
    have hlength : (front ++ rest).length = front.length + rest.length := List.length_append
    unfold openFrom
    rw [slice?_append_length]
    simp only
    split
    · rename_i error herror
      -- a length that is too large is read again, so both of its bytes have to be there
      obtain ⟨low, high, left, rfl, hlarge⟩ := Frame.exists_large_of_length?_error herror
      obtain ⟨count, rfl⟩ : ∃ fewer, count = fewer + 1 :=
        ⟨count - 1, by rw [List.length_cons] at hcount; omega⟩
      rw [((Refuses.tooLarge hlarge left).decryptFrames_succ count).1]
      have hlow : (front ++ low :: high :: left)[front.length]? = some low := by simp
      have hhigh : (front ++ low :: high :: left)[front.length + 1]? = some high := by simp
      rw [hlow, hhigh]
      rfl
    · rename_i hnone
      rw [decryptFrames_of_isPartial (.noLength hnone)]
      simp only [Except.map, List.append_nil]
    · rename_i length hsome
      split
      · rename_i hshort
        rw [decryptFrames_of_isPartial (.short hsome (by omega))]
        simp only [Except.map, List.append_nil]
      · rename_i hwhole
        have hover := Frame.overhead_le_length hsome
        have hpos : 0 < Frame.overhead := by decide
        have hframe := Frame.isComplete_take hsome (by omega)
        have hslice : slice? (front ++ rest) front.length (front.length + length) =
            some (rest.take length) :=
          slice?_append front rest (Nat.zero_le _) (by omega)
        have hdecrypt : decryptFrom suite (rest.take length) cipher 0 [] = _ :=
          decryptFrom_append suite cipher [] (rest.take length) []
        rw [nil_andThen] at hdecrypt
        obtain ⟨count, rfl⟩ : ∃ fewer, count = fewer + 1 := ⟨count - 1, by omega⟩
        rw [hslice]
        simp only [hdecrypt]
        conv => rhs; rw [← List.take_append_drop length rest]
        rcases hopened : cipher.decrypt suite (rest.take length) with ⟨error | block, mid⟩
        · have hrefused :=
            (Refuses.notAuthentic hframe hopened (rest.drop length)).decryptFrames_succ count
          rw [hrefused.1, decrypt_error_keeps hframe hopened]
          rfl
        · have hposition := length_append_take front (show length ≤ rest.length by omega)
          have hnext := ih (rest.drop length).length (by rw [List.length_drop]; omega) mid
            (front ++ rest.take length) (rest.drop length) (plaintext ++ block)
            (show (rest.drop length).length ≤ count by rw [List.length_drop]; omega) rfl
          rw [append_take_append_drop, hposition] at hnext
          rw [(decryptFrames_frame_append hframe hopened (rest.drop length) count).1]
          simp only [hnext]
          rcases decryptFrames suite count mid (rest.drop length) with ⟨error | opened, after⟩
          · rfl
          · simp only [Except.map, List.append_assoc]

/-! ## Opening and decrypting -/

/-- Complete frames are opened one after another, all of them or up to one that is refused;
decrypting them at once comes to the same. -/
theorem opens_complete_cases (suite : CipherSuite) (cipher : FrameCipher)
    (hframes : ∀ frame ∈ frames, Frame.IsComplete frame) (rest : Bytes) :
    (∃ texts after, cipher.decrypt suite frames.flatten = (.ok texts.flatten, after) ∧
        cipher.Opens suite (frames.flatten ++ rest) texts after rest) ∨
      ∃ error texts after left, cipher.decrypt suite frames.flatten = (.error error, after) ∧
        cipher.Opens suite (frames.flatten ++ rest) texts after left ∧
        after.Refuses suite left .frameIntegrity := by
  induction frames generalizing cipher with
  | nil => exact Or.inl ⟨[], cipher, rfl, .nothing cipher rest⟩
  | cons frame frames ih =>
    have hframe := hframes frame List.mem_cons_self
    rw [List.flatten_cons, List.append_assoc, decrypt_frame_append hframe, ← decrypt_frame hframe]
    rcases hdecrypt : cipher.decrypt suite frame with ⟨error | plaintext, mid⟩
    · cases decrypt_error_keeps hframe hdecrypt
      exact Or.inr ⟨error, [], cipher, _, rfl, .nothing cipher _,
        .notAuthentic hframe hdecrypt _⟩
    · rcases ih mid fun other hmem => hframes other (List.mem_cons_of_mem _ hmem) with
        ⟨texts, after, hall, hopens⟩ | ⟨error, texts, after, left, hall, hopens, hrefuses⟩
      · refine Or.inl ⟨plaintext :: texts, after, ?_, .frame hframe hdecrypt hopens⟩
        simp only [andThen, hall]
        rfl
      · refine Or.inr ⟨error, plaintext :: texts, after, left, ?_, .frame hframe hdecrypt hopens,
          hrefuses⟩
        simp only [andThen, hall]
        rfl

end FrameCipher

namespace Registry

open FrameCipher (openFrom)

variable {raw rest : Bytes} {frames : List Bytes}

/-- Of a buffer all complete frames are decrypted, and what is left is kept or is too large, or not
all of them are decrypted. -/
theorem decryptFrames_cases (suite : CipherSuite) (cipher : FrameCipher)
    (h : Frame.Splits raw frames rest) :
    (∃ plaintext after, cipher.decrypt suite frames.flatten = (.ok plaintext, after) ∧
        Frame.IsPartial rest ∧
        decryptFrames suite raw.length cipher raw = (.ok (plaintext, rest), after)) ∨
      (∃ plaintext after declared, cipher.decrypt suite frames.flatten = (.ok plaintext, after) ∧
        Frame.declared? rest = some declared ∧ Frame.maxPlaintext < declared ∧
        decryptFrames suite raw.length cipher raw = (.error (.frameTooLarge declared), after)) ∨
      ∃ error after, cipher.decrypt suite frames.flatten = (.error error, after) ∧
        decryptFrames suite raw.length cipher raw = (.error .frameIntegrity, after) := by
  have hraw := h.eq_append
  rcases FrameCipher.opens_complete_cases suite cipher h.isComplete rest with
    ⟨texts, after, hwhole, hopens⟩ | ⟨error, texts, after, left, hwhole, hopens, hrefuses⟩
  · rw [← hraw] at hopens
    rcases h.rest_cases with hpartial | ⟨low, high, left, rfl, hlarge⟩
    · exact Or.inl ⟨_, after, hwhole, hpartial,
        (hopens.decryptFrames_isPartial hpartial (Nat.le_refl _)).1⟩
    · exact Or.inr (Or.inl ⟨_, after, _, hwhole, rfl, hlarge,
        (hopens.decryptFrames_refuses (.tooLarge hlarge left) (Nat.le_refl _)).1⟩)
  · rw [← hraw] at hopens
    exact Or.inr (Or.inr ⟨error, after, hwhole,
      (hopens.decryptFrames_refuses hrefuses (Nat.le_refl _)).1⟩)

/-- On an encrypted connection a buffer of any bytes is opened as the cipher decrypts its longest
beginning of complete frames. If that fails, a frame is not authentic. If it does not, the rest of
the buffer decides: a rest that declares more plain text than a frame can hold is too large, and any
other rest is shorter than a frame and is left. The cipher comes to the same in both, and going
through the buffer by position no position is out of range. -/
theorem decrypt_splits (suite : CipherSuite) (registry : Registry) (conn : ConnectionId)
    (cipher : FrameCipher) (hcipher : registry.cipher? conn = some cipher) (raw : Bytes) :
    (∃ frames rest, Frame.Splits raw frames rest) ∧
      ∀ frames rest, Frame.Splits raw frames rest →
        let whole := cipher.decrypt suite frames.flatten
        let opened := registry.decrypt suite conn raw
        (∀ plaintext, whole.1 = .ok plaintext →
          (∀ declared, Frame.declared? rest = some declared → declared ≤ Frame.maxPlaintext) →
          opened.1 = .ok (plaintext, rest) ∧ Frame.IsPartial rest) ∧
        (∀ error, whole.1 = .error error → opened.1 = .error .frameIntegrity) ∧
        (∀ plaintext declared, whole.1 = .ok plaintext → Frame.declared? rest = some declared →
          Frame.maxPlaintext < declared → opened.1 = .error (.frameTooLarge declared)) ∧
        opened.2 = registry.setCipher conn whole.2 ∧
        openFrom suite raw cipher 0 [] = some (opened.1, whole.2) := by
  refine ⟨Frame.exists_splits raw, fun frames rest hsplits => ?_⟩
  have hposition : openFrom suite raw cipher 0 [] = _ :=
    FrameCipher.openFrom_append suite cipher [] raw [] (Nat.le_refl _)
  have hopened := decrypt_of_cipher? suite hcipher raw
  rcases decryptFrames_cases suite cipher hsplits with
    ⟨text, after, hwhole, hpartial, hraw⟩ | ⟨text, after, large, hwhole, hlarge, hlt, hraw⟩ |
      ⟨found, after, hwhole, hraw⟩
  · rw [hraw] at hposition hopened
    rw [hwhole, hopened]
    refine ⟨?_, nofun, ?_, rfl, hposition⟩
    · rintro _ ⟨⟩ -
      exact ⟨rfl, hpartial⟩
    · rintro _ declared - hdeclared hmore
      exact absurd (hpartial.declared?_le hdeclared) (Nat.not_le.2 hmore)
  · rw [hraw] at hposition hopened
    rw [hwhole, hopened]
    refine ⟨?_, nofun, ?_, rfl, hposition⟩
    · intro _ _ hsmall
      exact absurd (hsmall large hlarge) (Nat.not_le.2 hlt)
    · rintro _ declared - hdeclared -
      cases hlarge.symm.trans hdeclared
      rfl
  · rw [hraw] at hposition hopened
    rw [hwhole, hopened]
    exact ⟨nofun, fun _ _ => rfl, nofun, rfl, hposition⟩

/-- Two frames and the start of another one that is too large, and the first frame repeated in front
of the start of another one. -/
theorem decrypt_splits_repeated :
    let registry := Observed.activated
    let cipher : FrameCipher := ⟨⟨.replicate 32 1, .replicate 32 2⟩, 0, 0⟩
    let frame := fun number => FrameCipher.frame .standard cipher.keys.decrypt number [1, 2, 3]
    registry.cipher? 1 = some cipher ∧
      (registry.decrypt .standard 1 ([frame 0, frame 1].flatten ++ [1, 4])).1 =
        .error (.frameTooLarge 1025) ∧
      (registry.decrypt .standard 1 ([frame 0, frame 0].flatten ++ [3])).1 =
        .error .frameIntegrity := by
  intro registry cipher frame
  have hcipher : registry.cipher? 1 = some cipher := by decide +kernel
  have hcomplete : ∀ number, Frame.IsComplete (frame number) := fun number =>
    FrameCipher.isComplete_frame CipherSuite.standard_appendsTag (by decide) _ number
  have hlarge : Frame.EndsFrames [1, 4] := Frame.endsFrames_of_lt (by decide) []
  have hpartial : Frame.IsPartial [3] := .noLength rfl
  obtain ⟨-, htwo⟩ := decrypt_splits .standard registry 1 cipher hcipher
    ([frame 0, frame 1].flatten ++ [1, 4])
  obtain ⟨-, hrepeated⟩ := decrypt_splits .standard registry 1 cipher hcipher
    ([frame 0, frame 0].flatten ++ [3])
  obtain ⟨-, -, htoo, -⟩ := htwo _ _ (hlarge.splits (by simp [hcomplete]))
  obtain ⟨-, hfails, -⟩ := hrepeated _ _ (hpartial.endsFrames.splits (by simp [hcomplete]))
  have hboth : cipher.decrypt .standard [frame 0, frame 1].flatten = _ :=
    @FrameCipher.decrypt_frames .standard cipher CipherSuite.standard_decryptsExactly
      CipherSuite.standard_appendsTag [[1, 2, 3], [1, 2, 3]] (by decide) (by decide)
  have hagain : (cipher.decrypt .standard [frame 0, frame 0].flatten).1.isOk = false := by
    decide +kernel
  refine ⟨hcipher, htoo [1, 2, 3, 1, 2, 3] 1025 (congrArg Prod.fst hboth) rfl (by decide), ?_⟩
  rcases hsecond : (cipher.decrypt .standard [frame 0, frame 0].flatten).1 with error | plaintext
  · exact hfails error hsecond
  · rw [hsecond] at hagain
    cases hagain

end Registry

end HomeKit
