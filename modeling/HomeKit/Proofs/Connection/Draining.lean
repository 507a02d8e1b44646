import HomeKit.Connection.FrameWriter

/-!
# What a frame writer passes on

Whatever a stream answers, it takes bytes in their order and none is lost: those that it took and
those that wait are together what they were (`FrameWriter.drain_bytes`, `FrameWriter.call_bytes`),
and nothing waits once draining is done (`FrameWriter.drain_ready`). Writing adds to them what it
encrypts, or fails and adds nothing (`FrameWriter.write_writes`).

Offer by offer, draining is the loop that it looks like (`FrameWriter.drain_cons`).
-/

namespace HomeKit

/-- How many of the offered bytes are taken, if the stream is ready. -/
def SinkAnswer.taken? : SinkAnswer → (offered : Nat) → Option Nat
  | notReady, _ => none
  | takes limit, offered => some (min limit offered)
  | takesAll, offered => some offered

/-- Offers bytes to the stream. -/
def Sink.write (sink : Sink) (bytes : Bytes) : Option Nat × Sink :=
  let count := (sink.answers sink.offers).taken? bytes.length
  (count, { sink with
    offers := sink.offers + 1
    taken := sink.taken ++ bytes.take (count.getD 0) })

namespace FrameWriter

theorem offer_left (answers : Nat → SinkAnswer) (waiting : Bytes) (offers : Nat) :
    (offer answers waiting offers).2.1 <:+ waiting := by
  fun_induction offer answers waiting offers with
  | case1 offers => exact List.suffix_rfl
  | case2 offers b rest hanswer => exact List.suffix_rfl
  | case3 offers b rest hanswer => exact List.nil_suffix
  | case4 offers b rest hanswer => exact List.suffix_rfl
  | case5 offers b rest n hanswer ih =>
    exact ih.trans ((List.drop_suffix n rest).trans (List.suffix_cons b rest))

/-- Nothing is left when all bytes were taken. -/
theorem offer_ready (answers : Nat → SinkAnswer) (waiting : Bytes) (offers : Nat)
    (h : (offer answers waiting offers).1 = .ready (.ok ())) :
    (offer answers waiting offers).2.1 = [] := by
  fun_induction offer answers waiting offers with
  | case1 offers => rfl
  | case2 offers b rest hanswer => cases h
  | case3 offers b rest hanswer => rfl
  | case4 offers b rest hanswer => cases h
  | case5 offers b rest n hanswer ih => exact ih h

/-- Draining passes bytes on, and loses none. -/
theorem drain_bytes (writer : FrameWriter) (sink : Sink) :
    (writer.drain sink).2.2.taken ++ (writer.drain sink).2.1.waiting =
      sink.taken ++ writer.waiting := by
  obtain ⟨passed, hpassed⟩ := offer_left sink.answers writer.waiting sink.offers
  unfold drain
  simp only
  generalize (offer sink.answers writer.waiting sink.offers).2.1 = left at hpassed
  rw [← hpassed, List.length_append, Nat.add_sub_cancel, List.take_left, List.append_assoc]

theorem call_bytes (writer : FrameWriter) (sink : Sink) (call : SinkCall) :
    (writer.call sink call).2.2.taken ++ (writer.call sink call).2.1.waiting =
      sink.taken ++ writer.waiting := by
  rw [← writer.drain_bytes sink]
  unfold FrameWriter.call
  split
  · rename_i heq
    rw [heq]
  · rfl

theorem drain_ready {writer after : FrameWriter} {sink taking : Sink}
    (h : writer.drain sink = (.ready (.ok ()), after, taking)) : after.waiting = [] := by
  have hready := offer_ready sink.answers writer.waiting sink.offers
  unfold drain at h
  simp only [Prod.mk.injEq] at h
  rw [← h.2.1]
  exact hready h.1

theorem call_ready {writer after : FrameWriter} {sink taking : Sink} {call : SinkCall}
    (h : writer.call sink call = (.ready (.ok ()), after, taking)) : after.waiting = [] := by
  unfold FrameWriter.call at h
  split at h
  · rename_i drained hdrain
    cases h
    exact drain_ready hdrain
  · exact drain_ready h

/-- What it comes to when plain text is written. -/
inductive Writes (suite : CipherSuite) (conn : ConnectionId) (registry : Registry)
    (writer : FrameWriter) (sink : Sink) (plaintext : Bytes) :
    Poll Nat × FrameWriter × Sink × Registry → Prop
  | pending {after : FrameWriter} {taking : Sink}
      (hbytes : taking.taken ++ after.waiting = sink.taken ++ writer.waiting) :
    Writes suite conn registry writer sink plaintext (.pending, after, taking, registry)
  | failed {error : IoError} {after : FrameWriter} {taking : Sink} {next : Registry}
      (hbytes : taking.taken ++ after.waiting = sink.taken ++ writer.waiting) :
    Writes suite conn registry writer sink plaintext (.ready (.error error), after, taking, next)
  | ok {count : Nat} {wire : Bytes} {after : FrameWriter} {taking : Sink} {next : Registry}
      (hencrypted : registry.encrypt suite conn plaintext = (.ok wire, next))
      (hbytes : taking.taken ++ after.waiting = sink.taken ++ writer.waiting ++ wire) :
    Writes suite conn registry writer sink plaintext (.ready (.ok count), after, taking, next)

theorem write_writes (suite : CipherSuite) (conn : ConnectionId) (registry : Registry)
    (writer : FrameWriter) (sink : Sink) {plaintext : Bytes} (hsome : plaintext.isEmpty = false) :
    Writes suite conn registry writer sink plaintext
      (writer.write suite conn registry sink plaintext) := by
  have hbytes := writer.drain_bytes sink
  unfold FrameWriter.write
  rcases hdrain : writer.drain sink with ⟨⟨error | ⟨⟩⟩ | _, after, taking⟩
  · rw [hdrain] at hbytes
    exact .failed hbytes
  · have hwaiting := drain_ready hdrain
    rw [hdrain] at hbytes
    simp only [hwaiting, List.append_nil] at hbytes
    simp only [hsome, Bool.false_eq_true, if_false]
    rcases hencrypt : registry.encrypt suite conn plaintext with ⟨error | wire, next⟩
    · simp only
      refine .failed ?_
      rw [hwaiting, List.append_nil, hbytes]
    · simp only
      refine .ok hencrypt ?_
      rw [hbytes]
  · rw [hdrain] at hbytes
    exact .pending hbytes

/-! ## Offer by offer -/

theorem drain_nil (sink : Sink) :
    (⟨[]⟩ : FrameWriter).drain sink = (.ready (.ok ()), ⟨[]⟩, sink) := by
  unfold drain offer
  simp only [List.take_nil, List.append_nil]

/-- What is taken can be told from what is left. -/
theorem drain_eq {sink : Sink} {poll : Poll Unit} {bytes left taken : Bytes} {offers : Nat}
    (h : offer sink.answers bytes sink.offers = (poll, left, offers))
    (htaken : taken ++ left = sink.taken ++ bytes) :
    (⟨bytes⟩ : FrameWriter).drain sink = (poll, ⟨left⟩, { sink with offers, taken }) := by
  have hbytes := (⟨bytes⟩ : FrameWriter).drain_bytes sink
  unfold drain at hbytes ⊢
  simp only [h] at hbytes ⊢
  rw [← htaken] at hbytes
  rw [List.append_cancel_right hbytes]

/-- After an offer of which some bytes are taken, draining goes on with the others. -/
theorem drain_drop {sink : Sink} {bytes : Bytes} {count : Nat}
    (h : offer sink.answers bytes sink.offers =
      offer sink.answers (bytes.drop count) (sink.offers + 1)) :
    (⟨bytes⟩ : FrameWriter).drain sink =
      (⟨bytes.drop count⟩ : FrameWriter).drain
        { sink with offers := sink.offers + 1, taken := sink.taken ++ bytes.take count } := by
  obtain ⟨passed, hpassed⟩ := offer_left sink.answers (bytes.drop count) (sink.offers + 1)
  rcases hoffer : offer sink.answers (bytes.drop count) (sink.offers + 1) with
    ⟨poll, left, offers⟩
  rw [hoffer] at h
  simp only [hoffer] at hpassed
  have hrest : sink.taken ++ bytes.take count ++ passed ++ left =
      sink.taken ++ bytes.take count ++ bytes.drop count := by
    rw [List.append_assoc _ passed, hpassed]
  have hall : sink.taken ++ bytes.take count ++ passed ++ left = sink.taken ++ bytes := by
    rw [hrest, List.append_assoc, List.take_append_drop]
  rw [drain_eq h hall]
  symm
  exact drain_eq hoffer hrest

/-- One offer, and what follows from it. -/
theorem drain_cons {bytes : Bytes} (hsome : bytes ≠ []) (sink : Sink) :
    (⟨bytes⟩ : FrameWriter).drain sink =
      match sink.write bytes with
      | (none, sink) => (.pending, ⟨bytes⟩, sink)
      | (some 0, sink) => (.ready (.error { kind := .writeZero }), ⟨bytes⟩, sink)
      | (some (n + 1), sink) => (⟨bytes.drop (n + 1)⟩ : FrameWriter).drain sink := by
  obtain ⟨b, rest, rfl⟩ := List.exists_cons_of_ne_nil hsome
  unfold Sink.write SinkAnswer.taken?
  cases hanswer : sink.answers sink.offers with
  | notReady =>
    simp only [Option.getD_none, List.take_zero]
    refine drain_eq ?_ (by rw [List.append_nil])
    rw [offer, hanswer]
  | takesAll =>
    simp only [List.length_cons, Option.getD_some]
    refine drain_drop ?_
    rw [offer, hanswer, ← List.length_cons, List.drop_length, offer]
  | takes limit =>
    cases limit with
    | zero =>
      simp only [Nat.zero_min, Option.getD_some, List.take_zero]
      refine drain_eq ?_ (by rw [List.append_nil])
      rw [offer, hanswer]
    | succ n =>
      have hcount : min (n + 1) (b :: rest).length = min n rest.length + 1 := by
        rw [List.length_cons]
        omega
      have hleft : (b :: rest).drop (min n rest.length + 1) = rest.drop n := by
        rw [List.drop_succ_cons]
        rcases Nat.le_total n rest.length with hle | hge
        · rw [Nat.min_eq_left hle]
        · rw [Nat.min_eq_right hge, List.drop_length, List.drop_of_length_le hge]
      simp only [hcount, Option.getD_some]
      refine drain_drop ?_
      rw [offer, hanswer, hleft]

/-- A stream that takes everything takes it at once. -/
theorem drain_takesAll {sink : Sink} (h : ∀ n, sink.answers n = .takesAll) (writer : FrameWriter) :
    ∃ offers, writer.drain sink =
      (.ready (.ok ()), {}, { sink with offers, taken := sink.taken ++ writer.waiting }) := by
  obtain ⟨offers, hoffer⟩ : ∃ offers,
      offer sink.answers writer.waiting sink.offers = (.ready (.ok ()), [], offers) := by
    cases writer.waiting with
    | nil => exact ⟨_, by rw [offer]⟩
    | cons b rest => exact ⟨_, by rw [offer, h]⟩
  refine ⟨offers, ?_⟩
  rw [drain, hoffer]
  simp only [List.length_nil, Nat.sub_zero, List.take_length]

end FrameWriter

end HomeKit
