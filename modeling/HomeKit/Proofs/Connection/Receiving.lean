import HomeKit.Proofs.Connection.Delivery
import HomeKit.Proofs.Connection.Nonces
import HomeKit.Proofs.Connection.Source

/-!
# What a reader gets out of a stream

A caller reads with buffers of some sizes until a read fails or gives nothing
(`FrameReader.receive`). The buffers between the stream and the caller neither lose nor repeat
anything: together the reads give what the pieces of the stream deliver
(`FrameReader.receive_delivers`).

So a stream whose frames are all authentic is received as it was sent
(`FrameReader.receive_frames`); of any stream it is known how it ends, and when all plain text in
front of the frame that is refused is received (`FrameReader.receive_eq_intact_iff`).
-/

namespace HomeKit

open Registry (decryptFrames)

/-- What a caller has read, and how it ended, if it did. -/
structure Received where
  chunks : List Bytes
  ending : Option ReadResult
  deriving DecidableEq

namespace Received

def plaintext (received : Received) : Bytes :=
  received.chunks.flatten

end Received

namespace FrameReader

variable {suite : CipherSuite} {conn : ConnectionId} {registry : Registry} {reader : FrameReader}
  {arrivals : Arrivals} {cipher after : FrameCipher} {raw left piece : Bytes}
  {pieces : List Bytes}

/-- Reads with buffers of these sizes, until a read fails or gives nothing. -/
def receive (suite : CipherSuite) (conn : ConnectionId) (registry : Registry) (reader : FrameReader)
    (arrivals : Arrivals) : List Nat → Received
  | [] => ⟨[], none⟩
  | capacity :: capacities =>
    let step := reader.read suite conn registry arrivals capacity
    match step.result with
    | .data (b :: chunk) =>
      let received := receive suite conn step.registry step.reader step.arrivals capacities
      { received with chunks := (b :: chunk) :: received.chunks }
    | result => ⟨[], some result⟩

/-! ## Taking pieces -/

/-- On an encrypted connection what is there is decrypted; there need not be anything. -/
theorem opening_eq (hcipher : registry.cipher? conn = some cipher) (raw : Bytes) :
    opening suite conn registry raw =
      ((decryptFrames suite raw.length cipher raw).1,
        registry.setCipher conn (decryptFrames suite raw.length cipher raw).2) := by
  unfold opening
  cases raw with
  | nil =>
    simp only [List.isEmpty_nil, if_true, List.length_nil, decryptFrames,
      Registry.setCipher_self hcipher]
  | cons b raw =>
    simp only [List.isEmpty_cons, Bool.false_eq_true, if_false]
    exact Registry.decrypt_of_cipher? suite hcipher (b :: raw)

section Fetch

variable {ended : Bool} {plaintext : Bytes} {b : UInt8} {error : TransportError}

theorem fetch_error (hcipher : registry.cipher? conn = some cipher)
    (h : decryptFrames suite raw.length cipher raw = (.error error, after))
    (pieces : List Bytes) :
    fetch suite conn ended registry raw pieces =
      ⟨.failed { kind := .invalidData, transport := some error }, raw,
        registry.setCipher conn after, pieces⟩ := by
  have hopening : opening suite conn registry raw = _ := opening_eq hcipher raw
  rw [h, opening] at hopening
  unfold fetch
  rw [hopening]

theorem fetch_data (hcipher : registry.cipher? conn = some cipher)
    (h : decryptFrames suite raw.length cipher raw = (.ok (b :: plaintext, left), after))
    (pieces : List Bytes) :
    fetch suite conn ended registry raw pieces =
      ⟨.data (b :: plaintext), left, registry.setCipher conn after, pieces⟩ := by
  have hopening : opening suite conn registry raw = _ := opening_eq hcipher raw
  rw [h, opening] at hopening
  unfold fetch
  rw [hopening]

/-- Without plain text and without pieces it is over. -/
theorem fetch_nil (hcipher : registry.cipher? conn = some cipher)
    (h : decryptFrames suite raw.length cipher raw = (.ok ([], left), after)) :
    fetch suite conn ended registry raw [] =
      ⟨if ended then endOfStream left else .pending, left, registry.setCipher conn after, []⟩ := by
  have hopening : opening suite conn registry raw = _ := opening_eq hcipher raw
  rw [h, opening] at hopening
  unfold fetch
  rw [hopening]

/-- Without plain text the next piece is taken. -/
theorem fetch_cons (hcipher : registry.cipher? conn = some cipher)
    (h : decryptFrames suite raw.length cipher raw = (.ok ([], left), after)) (hpiece : piece ≠ [])
    (pieces : List Bytes) :
    fetch suite conn ended registry raw (piece :: pieces) =
      fetch suite conn ended (registry.setCipher conn after) (left ++ piece) pieces := by
  obtain ⟨b, piece, rfl⟩ := List.exists_cons_of_ne_nil hpiece
  have hopening : opening suite conn registry raw = _ := opening_eq hcipher raw
  rw [h, opening] at hopening
  conv => lhs; unfold fetch
  rw [hopening]

/-- The start of a frame is kept until more comes. -/
theorem fetch_cons_of_isPartial (hcipher : registry.cipher? conn = some cipher)
    (hraw : Frame.IsPartial raw) (hpiece : piece ≠ []) (pieces : List Bytes) :
    fetch suite conn ended registry raw (piece :: pieces) =
      fetch suite conn ended registry (raw ++ piece) pieces := by
  have hnothing : decryptFrames suite raw.length cipher raw = _ :=
    FrameCipher.decryptFrames_of_isPartial hraw _
  rw [fetch_cons hcipher hnothing hpiece, Registry.setCipher_self hcipher]

theorem fetch_nil_of_isPartial (hcipher : registry.cipher? conn = some cipher)
    (hraw : Frame.IsPartial raw) :
    fetch suite conn ended registry raw [] =
      ⟨if ended then endOfStream raw else .pending, raw, registry, []⟩ := by
  have hnothing : decryptFrames suite raw.length cipher raw = _ :=
    FrameCipher.decryptFrames_of_isPartial hraw _
  rw [fetch_nil hcipher hnothing, Registry.setCipher_self hcipher]

/-- After frames without plain text, taking pieces goes on with what is left. -/
theorem fetch_of_ok_nil (hcipher : registry.cipher? conn = some cipher)
    (h : decryptFrames suite raw.length cipher raw = (.ok ([], left), after))
    (hpieces : ∀ piece ∈ pieces, piece ≠ []) :
    fetch suite conn ended registry raw pieces =
      fetch suite conn ended (registry.setCipher conn after) left pieces := by
  have hleft := FrameCipher.isPartial_of_decryptFrames h
  have hafter : (registry.setCipher conn after).cipher? conn = some after :=
    Registry.cipher?_setCipher after
  cases pieces with
  | nil => rw [fetch_nil hcipher h, fetch_nil_of_isPartial hafter hleft]
  | cons piece pieces =>
    have hpiece := hpieces piece List.mem_cons_self
    rw [fetch_cons hcipher h hpiece, fetch_cons_of_isPartial hafter hleft hpiece]

end Fetch

/-- What taking pieces comes to, with what they are to deliver. -/
inductive Fetches (suite : CipherSuite) (conn : ConnectionId) (cipher : FrameCipher) (raw : Bytes)
    (pieces : List Bytes) (fetched : Fetched) : Prop
  | data {b : UInt8} {plaintext : Bytes} {after : FrameCipher}
      (hresult : fetched.result = .data (b :: plaintext))
      (hcipher : fetched.registry.cipher? conn = some after)
      (hraw : Frame.IsPartial fetched.raw) (hpieces : fetched.pieces <:+ pieces)
      (hdelivery : delivery suite cipher raw pieces =
        (delivery suite after fetched.raw fetched.pieces).prepend (b :: plaintext))
  | ended (hresult : fetched.result.plaintext = [])
      (hdelivery : delivery suite cipher raw pieces = ⟨[], fetched.result⟩)

theorem fetch_fetches (hcipher : registry.cipher? conn = some cipher) (hraw : Frame.IsPartial raw)
    (hpieces : ∀ piece ∈ pieces, piece ≠ []) :
    Fetches suite conn cipher raw pieces (fetch suite conn true registry raw pieces) := by
  induction pieces generalizing registry cipher raw with
  | nil =>
    rw [fetch_nil_of_isPartial hcipher hraw]
    exact .ended (plaintext_endOfStream raw) rfl
  | cons piece pieces ih =>
    rw [fetch_cons_of_isPartial hcipher hraw (hpieces piece List.mem_cons_self)]
    have hmore := fun other hmem => hpieces other (List.mem_cons_of_mem piece hmem)
    rcases hdecrypted : decryptFrames suite (raw ++ piece).length cipher (raw ++ piece) with
      ⟨error | ⟨_ | ⟨b, plaintext⟩, left⟩, after⟩
    · rw [fetch_error hcipher hdecrypted]
      refine .ended rfl ?_
      rw [delivery, hdecrypted]
    -- the piece has given nothing, and the next one is taken with what is left
    · have hdelivery : delivery suite cipher raw (piece :: pieces) =
          delivery suite after left pieces := by
        rw [delivery, hdecrypted]
        rfl
      rw [fetch_of_ok_nil hcipher hdecrypted hmore]
      have hleft := FrameCipher.isPartial_of_decryptFrames hdecrypted
      cases ih (Registry.cipher?_setCipher after) hleft hmore with
      | data hresult hcipher hraw hsuffix hrest =>
        exact .data hresult hcipher hraw (hsuffix.trans (List.suffix_cons piece pieces))
          (hdelivery.trans hrest)
      | ended hresult hrest => exact .ended hresult (hdelivery.trans hrest)
    · rw [fetch_data hcipher hdecrypted]
      refine .data rfl (Registry.cipher?_setCipher after)
        (FrameCipher.isPartial_of_decryptFrames hdecrypted) (List.suffix_cons piece pieces) ?_
      rw [delivery, hdecrypted]

/-! ## Reads -/

/-- Between two reads of a stream that is encrypted, comes in pieces and is closed in the end. -/
structure Receives (conn : ConnectionId) (cipher : FrameCipher) (registry : Registry)
    (reader : FrameReader) (arrivals : Arrivals) : Prop where
  cipher : registry.cipher? conn = some cipher
  raw : Frame.IsPartial reader.raw
  pieces : ∀ piece ∈ arrivals.pieces, piece ≠ []
  ended : arrivals.ended = true

/-- What a reader has to deliver: what it holds, and then what the pieces add. -/
def remaining (suite : CipherSuite) (cipher : FrameCipher) (reader : FrameReader)
    (arrivals : Arrivals) : Delivery :=
  (delivery suite cipher reader.raw arrivals.pieces).prepend reader.plain

/-- A read takes the start of what remains; one that gives nothing tells how it ends. -/
theorem read_cases (suite : CipherSuite) (h : Receives conn cipher registry reader arrivals)
    {capacity : Nat} (hcapacity : 0 < capacity) :
    let step := reader.read suite conn registry arrivals capacity
    (∃ b chunk after, step.result = .data (b :: chunk) ∧
        Receives conn after step.registry step.reader step.arrivals ∧
        remaining suite cipher reader arrivals =
          (remaining suite after step.reader step.arrivals).prepend (b :: chunk)) ∨
      (step.result.plaintext = [] ∧
        remaining suite cipher reader arrivals = ⟨[], step.result⟩) := by
  obtain ⟨capacity, rfl⟩ : ∃ fewer, capacity = fewer + 1 := ⟨capacity - 1, by omega⟩
  intro step
  -- what is handed out and what is kept are the plain text that was there
  have hcut : ∀ (b : UInt8) (plaintext : Bytes) (delivery : Delivery),
      delivery.prepend (b :: plaintext) =
        (delivery.prepend (plaintext.drop capacity)).prepend (b :: plaintext.take capacity) := by
    intro b plaintext delivery
    rw [← Delivery.prepend_append, List.cons_append, List.take_append_drop]
  unfold remaining
  cases hplain : reader.plain with
  | cons b plaintext =>
    have hstep : step = ⟨.data (b :: plaintext.take capacity),
        { reader with plain := plaintext.drop capacity }, registry, arrivals⟩ := by
      simp only [step, read, hplain, List.take_succ_cons, List.drop_succ_cons]
    rw [hstep]
    exact Or.inl ⟨b, _, cipher, rfl, ⟨h.cipher, h.raw, h.pieces, h.ended⟩, hcut ..⟩
  | nil =>
    have hfetches : Fetches suite conn cipher reader.raw arrivals.pieces
        (fetch suite conn true registry reader.raw arrivals.pieces) :=
      fetch_fetches h.cipher h.raw h.pieces
    rw [← h.ended] at hfetches
    rw [Delivery.prepend_nil]
    cases hfetches with
    | @data b plaintext after hresult hcipher hraw hpieces hdelivery =>
      simp only [step, read, hplain, hresult, List.take_succ_cons, List.drop_succ_cons]
      refine Or.inl ⟨b, _, after, rfl, ⟨hcipher, hraw, ?_, h.ended⟩, ?_⟩
      · exact fun piece hmem => h.pieces piece (hpieces.mem hmem)
      · rw [hdelivery]
        exact hcut ..
    | ended hresult hdelivery =>
      refine Or.inr ?_
      rw [hdelivery]
      simp only [step, read, hplain]
      generalize hfetched : (fetch suite conn arrivals.ended registry reader.raw
        arrivals.pieces).result = result at hresult ⊢
      cases result with
      | data plaintext =>
        cases hresult
        exact ⟨rfl, rfl⟩
      | pending => exact ⟨rfl, rfl⟩
      | failed error => exact ⟨rfl, rfl⟩

/-- Reads give what remains, in order. When they come to an end, all of it was given; and they do
when there are more of them than there are bytes. -/
theorem receive_delivers (h : Receives conn cipher registry reader arrivals)
    {capacities : List Nat} (hcapacities : ∀ capacity ∈ capacities, 0 < capacity) :
    let received := receive suite conn registry reader arrivals capacities
    let delivery := remaining suite cipher reader arrivals
    received.plaintext <+: delivery.plaintext ∧
      (∀ ending, received.ending = some ending →
        received.plaintext = delivery.plaintext ∧ ending = delivery.ending) ∧
      (delivery.plaintext.length < capacities.length → received.ending.isSome) := by
  induction capacities generalizing registry reader arrivals cipher with
  | nil => exact ⟨List.nil_prefix, nofun, nofun⟩
  | cons capacity capacities ih =>
    have hpositive := hcapacities capacity List.mem_cons_self
    have hrest := fun other hmem => hcapacities other (List.mem_cons_of_mem capacity hmem)
    intro received delivery
    rcases read_cases suite h hpositive with
      ⟨b, chunk, after, hresult, hafter, hdelivery⟩ | ⟨hresult, hdelivery⟩
    · obtain ⟨hbegins, hending, henough⟩ := ih hafter hrest
      simp only [received, delivery, receive, hresult, hdelivery, Delivery.plaintext_prepend,
        Delivery.ending_prepend, Received.plaintext, List.flatten_cons]
      refine ⟨(List.prefix_append_right_inj _).2 hbegins, ?_, ?_⟩
      · intro ending heq
        obtain ⟨hall, hsame⟩ := hending ending heq
        exact ⟨congrArg _ hall, hsame⟩
      · intro hlong
        apply henough
        simp only [List.length_append, List.length_cons] at hlong
        omega
    · have hreceived : received =
          ⟨[], some (reader.read suite conn registry arrivals capacity).result⟩ := by
        simp only [received, receive]
        split
        · rename_i b chunk heq
          rw [heq] at hresult
          cases hresult
        · rfl
      rw [hreceived]
      simp only [delivery, hdelivery]
      refine ⟨List.prefix_refl _, ?_, fun _ => rfl⟩
      rintro _ ⟨⟩
      exact ⟨rfl, rfl⟩

/-! ## Whole streams -/

/-- What a caller gets of a stream that comes in these pieces and is then closed. -/
theorem receive_new (suite : CipherSuite) (hcipher : registry.cipher? conn = some cipher)
    (hpieces : ∀ piece ∈ pieces, piece ≠ []) {capacities : List Nat}
    (hcapacities : ∀ capacity ∈ capacities, 0 < capacity) :
    let received := receive suite conn registry {} { pieces, ended := true } capacities
    let delivery := delivery suite cipher [] pieces
    received.plaintext <+: delivery.plaintext ∧
      (∀ ending, received.ending = some ending →
        received.plaintext = delivery.plaintext ∧ ending = delivery.ending) ∧
      (delivery.plaintext.length < capacities.length → received.ending.isSome) := by
  have hreceives : Receives conn cipher registry {} { pieces, ended := true } :=
    ⟨hcipher, Frame.isPartial_nil, hpieces, rfl⟩
  exact receive_delivers hreceives hcapacities

/-- Frames that the other end has sent are received in order, wherever the stream was cut, whatever
the pieces it comes in and whatever the buffers it is read with: first the plain text of the frames
that are there, then the end of the stream, or a failure if the stream was cut within a frame. -/
theorem receive_frames (sender receiver : FrameCipher) (hkeys : receiver.keys = sender.keys.swap)
    (hcounter : receiver.received = sender.sent) (registry : Registry) (conn : ConnectionId)
    (hcipher : registry.cipher? conn = some receiver) (plaintexts : List Bytes)
    (hshort : ∀ plaintext ∈ plaintexts, plaintext.length ≤ Frame.maxPlaintext) (wire : Bytes)
    (hwire : (sender.encryptPieces .standard plaintexts).1 = .ok wire) (pieces : List Bytes)
    (hpieces : ∀ piece ∈ pieces, piece ≠ []) (hbegins : pieces.flatten <+: wire)
    (capacities : List Nat) (hcapacities : ∀ capacity ∈ capacities, 0 < capacity) :
    let received := receive .standard conn registry {} { pieces, ended := true } capacities
    ∃ complete start, complete <+: plaintexts ∧
      (sender.encryptPieces .standard complete).1.map (· ++ start) = .ok pieces.flatten ∧
      (∀ next rest, plaintexts = complete ++ next :: rest →
        start.length < next.length + Frame.overhead) ∧
      received.plaintext <+: complete.flatten ∧
      (∀ ending, received.ending = some ending →
        received.plaintext = complete.flatten ∧
          ending = if start = [] then .data []
            else .failed { kind := .unexpectedEof, transport := some .connectionClosed }) ∧
      (complete.flatten.length < capacities.length → received.ending.isSome) := by
  intro received
  obtain ⟨complete, start, hcomplete, hsent, hnext, hstart, hopens⟩ :=
    FrameCipher.opens_sent CipherSuite.standard_decryptsExactly CipherSuite.standard_appendsTag
      hkeys hcounter hshort hwire hbegins
  have hdelivery : delivery .standard receiver [] pieces =
      ⟨complete.flatten, endOfStream start⟩ := by
    have happend : delivery .standard receiver [] (pieces ++ []) = _ :=
      delivery_append hopens hstart Frame.isPartial_nil []
    rw [List.append_nil] at happend
    rw [happend]
    simp only [delivery, Delivery.prepend, List.append_nil]
  obtain ⟨hreceived, hending, henough⟩ := receive_new .standard hcipher hpieces hcapacities
  rw [hdelivery] at hreceived hending henough
  refine ⟨complete, start, hcomplete, hsent, hnext, hreceived, ?_, henough⟩
  intro ending heq
  obtain ⟨hall, rfl⟩ := hending ending heq
  refine ⟨hall, ?_⟩
  cases start with
  | nil => rfl
  | cons b start => rfl

/-- A stream of three frames, the second of them empty, that is cut in the third. It comes in pieces
that are cut in the length of the first frame and in the empty frame. -/
theorem receive_frames_cut :
    let sender : FrameCipher := { keys := ⟨.replicate 32 2, .replicate 32 1⟩ }
    let receiver : FrameCipher := { keys := ⟨.replicate 32 1, .replicate 32 2⟩ }
    let plaintexts : List Bytes := [[1], [], [2, 3]]
    let wire := (FrameCipher.frames .standard (.replicate 32 2) 0 plaintexts).flatten
    let pieces := [wire.take 1, (wire.drop 1).take 30, (wire.drop 31).take 10]
    let received := receive .standard 1 Observed.activated {} { pieces, ended := true } [4, 4]
    Observed.activated.cipher? 1 = some receiver ∧
      (sender.encryptPieces .standard plaintexts).1 = .ok wire ∧
      (∀ piece ∈ pieces, piece ≠ []) ∧ pieces.flatten <+: wire ∧
      received = ⟨[[1]],
        some (.failed { kind := .unexpectedEof, transport := some .connectionClosed })⟩ ∧
      ∃ complete start, complete <+: plaintexts ∧
        (sender.encryptPieces .standard complete).1.map (· ++ start) = .ok pieces.flatten ∧
        complete.flatten = [1] ∧ start ≠ [] := by
  intro sender receiver plaintexts wire pieces received
  have hcipher : Observed.activated.cipher? 1 = some receiver := by decide +kernel
  have hwire : (sender.encryptPieces .standard plaintexts).1 = .ok wire :=
    FrameCipher.encryptPieces_eq_ok_iff.2 ⟨by decide, rfl⟩
  have hpieces : ∀ piece ∈ pieces, piece ≠ [] := by decide +kernel
  have hbegins : pieces.flatten <+: wire := by decide +kernel
  have hreceived : received = ⟨[[1]],
      some (.failed { kind := .unexpectedEof, transport := some .connectionClosed })⟩ := by
    decide +kernel
  obtain ⟨complete, start, hcomplete, hsent, -, -, hending, -⟩ :=
    receive_frames sender receiver rfl rfl Observed.activated 1 hcipher plaintexts (by decide) wire
      hwire pieces hpieces hbegins [4, 4] (by decide)
  have hended := congrArg Received.ending hreceived
  obtain ⟨hall, hfailed⟩ := hending _ hended
  change received.plaintext = complete.flatten at hall
  refine ⟨hcipher, hwire, hpieces, hbegins, hreceived, complete, start, hcomplete, hsent, ?_, ?_⟩
  · rw [← hall, hreceived]
    rfl
  · rintro rfl
    cases hfailed

/-- Any stream ends in the same way, whatever the pieces it comes in: with the first frame that is
refused, or where it was closed. What is received is plain text in front of that frame. It is all of
it unless other frames come in one piece with the frame that is refused, for these are lost. -/
theorem receive_eq_intact_iff (suite : CipherSuite) (cipher : FrameCipher) (registry : Registry)
    (conn : ConnectionId) (hcipher : registry.cipher? conn = some cipher) (pieces : List Bytes)
    (hpieces : ∀ piece ∈ pieces, piece ≠ []) (capacities : List Nat)
    (hcapacities : ∀ capacity ∈ capacities, 0 < capacity)
    (henough : (cipher.intact suite pieces.flatten).length < capacities.length) :
    let received := receive suite conn registry {} { pieces, ended := true } capacities
    received.ending = some (cipher.ending suite pieces.flatten) ∧
      received.plaintext <+: cipher.intact suite pieces.flatten ∧
      (received.plaintext = cipher.intact suite pieces.flatten ↔
        RefusalIsAlone suite cipher pieces) := by
  intro received
  obtain ⟨-, hending, hread⟩ := receive_new suite hcipher hpieces hcapacities
  have hbegins := delivery_prefix_intact suite cipher pieces
  obtain ⟨ending, hended⟩ := Option.isSome_iff_exists.1
    (hread (Nat.lt_of_le_of_lt hbegins.length_le henough))
  obtain ⟨hall, hsame⟩ := hending ending hended
  change received.ending = some ending at hended
  change received.plaintext = _ at hall
  rw [hended, hsame, hall, delivery_ending]
  exact ⟨rfl, hbegins, delivery_eq_intact_iff⟩

/-- A frame and its replay, each in a piece of its own: the frame is received. -/
theorem receive_eq_intact_iff_repeatedFrame :
    let cipher : FrameCipher := { keys := ⟨.replicate 32 1, .replicate 32 2⟩ }
    let sealed := FrameCipher.frame .standard (.replicate 32 2) 0 [1]
    let read := fun pieces : List Bytes =>
      receive .standard 1 Observed.activated {} { pieces, ended := true } [4, 4]
    Observed.activated.cipher? 1 = some cipher ∧
      cipher.intact .standard [sealed, sealed].flatten = [1] ∧
      (read [sealed, sealed]).ending = some (cipher.ending .standard [sealed, sealed].flatten) ∧
      (read [sealed, sealed]).plaintext = [1] ∧
      RefusalIsAlone .standard cipher [sealed, sealed] := by
  intro cipher sealed read
  have hcipher : Observed.activated.cipher? 1 = some cipher := by decide +kernel
  have hpieces : ∀ piece ∈ [sealed, sealed], piece ≠ [] := by decide +kernel
  have hintact : cipher.intact .standard [sealed, sealed].flatten = [1] := by decide +kernel
  have hread : (read [sealed, sealed]).plaintext = [1] := by decide +kernel
  obtain ⟨hending, -, hiff⟩ :=
    receive_eq_intact_iff .standard cipher Observed.activated 1 hcipher [sealed, sealed] hpieces
      [4, 4] (by decide) (by rw [hintact]; decide)
  refine ⟨hcipher, hintact, hending, hread, hiff.1 ?_⟩
  exact hread.trans hintact.symm

/-- The same stream in one piece gives nothing. -/
theorem receive_repeatedFrame_differs :
    let sealed := FrameCipher.frame .standard (.replicate 32 2) 0 [1]
    let read := fun pieces : List Bytes =>
      receive .standard 1 Observed.activated {} { pieces, ended := true } [4, 4]
    let refused : ReadResult :=
      .failed { kind := .invalidData, transport := some .frameIntegrity }
    [sealed, sealed].flatten = [sealed ++ sealed].flatten ∧
      read [sealed, sealed] = ⟨[[1]], some refused⟩ ∧
      read [sealed ++ sealed] = ⟨[], some refused⟩ := by
  decide +kernel

end FrameReader

end HomeKit
