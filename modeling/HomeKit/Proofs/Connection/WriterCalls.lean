import HomeKit.Proofs.Calls
import HomeKit.Proofs.Connection.Draining
import HomeKit.Proofs.Connection.Nonces

/-!
# Calls of a frame writer

A writer is called to write, to flush and to shut down, in any order; before each call others may
have changed the registry, and at each offer the stream takes some of the bytes or is not ready
(`FrameWriter.turn`). As it lies in memory a writer keeps all bytes that were encrypted last, with
the position up to which they are passed on, and here it notes whatever it has encrypted
(`WriterMemory`). The position and the notes are not to be seen from outside: what is behind the
position is what a `FrameWriter` keeps, and both answer every call alike
(`WriterMemory.run_running`).

The notes tell what was encrypted how often. What a stream has taken is the beginning of it, and a
writer that says that nothing waits has passed on all of it (`WriterMemory.seals_once`).
-/

namespace HomeKit

/-! ## Calls -/

namespace FrameWriter

inductive Call where
  | write (plaintext : Bytes)
  /-- A flush or a shutdown, with what the stream answers to it once nothing waits. -/
  | pass (call : SinkCall) (reply : Poll Unit)

/-- A call, and what others do to the registry before it. -/
structure Turn where
  before : Registry → Registry := id
  call : Call

inductive Answer where
  | wrote (poll : Poll Nat)
  | passed (poll : Poll Unit)

/-- A flush or a shutdown has succeeded. -/
def Answer.isDone : Answer → Bool
  | passed (.ready (.ok _)) => true
  | _ => false

theorem Answer.isDone_passed {poll : Poll Unit} :
    (passed poll).isDone = true ↔ poll = .ready (.ok ()) := by
  rcases poll with (error | ⟨⟩) | _ <;> simp [isDone]

/-- Passes on what is waiting, and then the call. -/
def pass (writer : FrameWriter) (sink : Sink) (call : SinkCall) (reply : Poll Unit) :
    Poll Unit × FrameWriter × Sink :=
  match writer.call sink call with
  | (.ready (.ok _), writer, sink) => (reply, writer, sink)
  | waiting => waiting

def turn (suite : CipherSuite) (conn : ConnectionId) (state : Registry × FrameWriter × Sink)
    (next : Turn) : Answer × Registry × FrameWriter × Sink :=
  let (registry, writer, sink) := (next.before state.1, state.2)
  match next.call with
  | .write plaintext =>
    let (poll, writer, sink, registry) := writer.write suite conn registry sink plaintext
    (.wrote poll, registry, writer, sink)
  | .pass call reply =>
    let (poll, writer, sink) := writer.pass sink call reply
    (.passed poll, registry, writer, sink)

end FrameWriter

/-! ## Memory -/

/-- Plain text that was given to the registry, and what came of it. -/
structure Sealing where
  plaintext : Bytes
  output : Except TransportError Bytes

structure WriterMemory where
  registry : Registry
  /-- The bytes that were encrypted last. -/
  pending : Bytes := []
  /-- How many of them are passed on. -/
  position : Nat := 0
  sink : Sink := {}
  sealings : List Sealing := []

namespace WriterMemory

def drainFrom (pending : Bytes) (position : Nat) (sink : Sink) : Poll Unit × Nat × Sink :=
  if position < pending.length then
    match sink.write (pending.drop position) with
    | (none, sink) => (.pending, position, sink)
    | (some 0, sink) => (.ready (.error { kind := .writeZero }), position, sink)
    | (some (n + 1), sink) => drainFrom pending (position + (n + 1)) sink
  else (.ready (.ok ()), position, sink)
termination_by pending.length - position

def drain (memory : WriterMemory) : Poll Unit × WriterMemory :=
  match drainFrom memory.pending memory.position memory.sink with
  | (.ready (.ok _), _, sink) =>
    (.ready (.ok ()), { memory with pending := [], position := 0, sink })
  | (waiting, position, sink) => (waiting, { memory with position, sink })

/-- Has plain text encrypted, and notes it. -/
def encrypt (suite : CipherSuite) (conn : ConnectionId) (memory : WriterMemory)
    (plaintext : Bytes) : Except TransportError Bytes × WriterMemory :=
  let (output, registry) := memory.registry.encrypt suite conn plaintext
  (output, { memory with registry, sealings := memory.sealings ++ [⟨plaintext, output⟩] })

def write (suite : CipherSuite) (conn : ConnectionId) (memory : WriterMemory) (plaintext : Bytes) :
    Poll Nat × WriterMemory :=
  match memory.drain with
  | (.pending, memory) => (.pending, memory)
  | (.ready (.error error), memory) => (.ready (.error error), memory)
  | (.ready (.ok _), memory) =>
    if plaintext.isEmpty then (.ready (.ok 0), memory)
    else
      match memory.encrypt suite conn plaintext with
      | (.error error, memory) =>
        (.ready (.error { kind := .invalidData, transport := some error }), memory)
      | (.ok wire, memory) =>
        (.ready (.ok plaintext.length), { memory with pending := wire, position := 0 })

def pass (memory : WriterMemory) (call : SinkCall) (reply : Poll Unit) :
    Poll Unit × WriterMemory :=
  match memory.drain with
  | (.ready (.ok _), memory) =>
    (reply, { memory with sink := { memory.sink with calls := memory.sink.calls ++ [call] } })
  | waiting => waiting

def setRegistry (memory : WriterMemory) (registry : Registry) : WriterMemory :=
  { memory with registry }

def turn (suite : CipherSuite) (conn : ConnectionId) (memory : WriterMemory)
    (next : FrameWriter.Turn) : FrameWriter.Answer × WriterMemory :=
  let memory := memory.setRegistry (next.before memory.registry)
  match next.call with
  | .write plaintext =>
    let (poll, memory) := memory.write suite conn plaintext
    (.wrote poll, memory)
  | .pass call reply =>
    let (poll, memory) := memory.pass call reply
    (.passed poll, memory)

/-- The bytes that were encrypted, call by call. -/
def sealed (memory : WriterMemory) : Bytes :=
  (memory.sealings.filterMap (·.output.toOption)).flatten

/-- What a writer keeps of its memory: the bytes that are not passed on. -/
def waiting (memory : WriterMemory) : FrameWriter :=
  ⟨memory.pending.drop memory.position⟩

def running (memory : WriterMemory) : Registry × FrameWriter × Sink :=
  (memory.registry, memory.waiting, memory.sink)

variable {suite : CipherSuite} {conn : ConnectionId} {memory after : WriterMemory}

/-! ## Draining -/

/-- What is behind the position is drained. -/
theorem drainFrom_running (pending : Bytes) (position : Nat) (sink : Sink) :
    (⟨pending.drop position⟩ : FrameWriter).drain sink =
      ((drainFrom pending position sink).1, ⟨pending.drop (drainFrom pending position sink).2.1⟩,
        (drainFrom pending position sink).2.2) := by
  fun_induction drainFrom pending position sink with
  | case1 position sink hlt next hwrite =>
    rw [FrameWriter.drain_cons (by simpa using hlt), hwrite]
  | case2 position sink hlt next hwrite =>
    rw [FrameWriter.drain_cons (by simpa using hlt), hwrite]
  | case3 position sink hlt n next hwrite ih =>
    rw [FrameWriter.drain_cons (by simpa using hlt), hwrite]
    simp only [List.drop_drop]
    exact ih
  | case4 position sink hge =>
    rw [List.drop_of_length_le (by omega)]
    exact FrameWriter.drain_nil sink

theorem drain_running (memory : WriterMemory) :
    memory.waiting.drain memory.sink =
        (memory.drain.1, memory.drain.2.waiting, memory.drain.2.sink) ∧
      memory.drain.2.registry = memory.registry ∧
      memory.drain.2.sealings = memory.sealings := by
  have hfrom : memory.waiting.drain memory.sink = _ :=
    drainFrom_running memory.pending memory.position memory.sink
  unfold drain
  rcases hdrain : drainFrom memory.pending memory.position memory.sink with
    ⟨⟨error | ⟨⟩⟩ | _, position, sink⟩
  · rw [hdrain] at hfrom
    exact ⟨hfrom, rfl, rfl⟩
  · rw [hdrain] at hfrom
    simp only at hfrom
    have hnothing : memory.pending.drop position = [] := FrameWriter.drain_ready hfrom
    refine ⟨?_, rfl, rfl⟩
    rw [hfrom, hnothing]
    rfl
  · rw [hdrain] at hfrom
    exact ⟨hfrom, rfl, rfl⟩

/-- Nothing was encrypted, and no byte is lost. -/
structure Keeps (before after : WriterMemory) : Prop where
  registry : after.registry = before.registry
  sealings : after.sealings = before.sealings
  bytes : after.sink.taken ++ after.waiting.waiting = before.sink.taken ++ before.waiting.waiting

theorem drain_keeps (memory : WriterMemory) : memory.Keeps memory.drain.2 := by
  obtain ⟨hdrain, hregistry, hsealings⟩ := drain_running memory
  have hbytes := memory.waiting.drain_bytes memory.sink
  rw [hdrain] at hbytes
  exact ⟨hregistry, hsealings, hbytes⟩

theorem drain_ready (h : memory.drain = (.ready (.ok ()), after)) : after.waiting.waiting = [] := by
  obtain ⟨hdrain, -⟩ := drain_running memory
  rw [h] at hdrain
  exact FrameWriter.drain_ready hdrain

/-! ## One call -/

theorem pass_keeps (memory : WriterMemory) (call : SinkCall) (reply : Poll Unit) :
    memory.Keeps (memory.pass call reply).2 := by
  have hkeeps := drain_keeps memory
  unfold pass
  split
  · rename_i drained hdrain
    rw [hdrain] at hkeeps
    exact ⟨hkeeps.registry, hkeeps.sealings, hkeeps.bytes⟩
  · exact hkeeps

theorem pass_ready {call : SinkCall} {reply : Poll Unit}
    (h : memory.pass call reply = (.ready (.ok ()), after)) : after.waiting.waiting = [] := by
  unfold pass at h
  split at h
  · rename_i drained hdrain
    have hnothing := drain_ready hdrain
    rw [Prod.mk.injEq] at h
    rw [← h.2]
    exact hnothing
  · exact drain_ready h

/-- Plain text was encrypted, once, and what came of it waits. -/
structure Seals (suite : CipherSuite) (conn : ConnectionId) (before : WriterMemory)
    (plaintext : Bytes) (output : Except TransportError Bytes) (after : WriterMemory) : Prop where
  encrypt : before.registry.encrypt suite conn plaintext = (output, after.registry)
  sealings : after.sealings = before.sealings ++ [⟨plaintext, output⟩]
  bytes : after.sink.taken ++ after.waiting.waiting =
    before.sink.taken ++ before.waiting.waiting ++ output.toOption.getD []

/-- What it comes to when a call is made. -/
inductive Turned (suite : CipherSuite) (conn : ConnectionId) (before : WriterMemory) :
    FrameWriter.Call → FrameWriter.Answer × WriterMemory → Prop
  | kept {plaintext : Bytes} {poll : Poll Nat} {after : WriterMemory} (h : before.Keeps after)
      (hready : ∀ count, poll = .ready (.ok count) → plaintext = []) :
    Turned suite conn before (.write plaintext) (.wrote poll, after)
  | refused {plaintext : Bytes} {error : TransportError} {failure : IoError} {after : WriterMemory}
      (h : before.Seals suite conn plaintext (.error error) after) :
    Turned suite conn before (.write plaintext) (.wrote (.ready (.error failure)), after)
  | sealed {plaintext wire : Bytes} {after : WriterMemory}
      (h : before.Seals suite conn plaintext (.ok wire) after) :
    Turned suite conn before (.write plaintext) (.wrote (.ready (.ok plaintext.length)), after)
  | passed {call : SinkCall} {reply poll : Poll Unit} {after : WriterMemory}
      (h : before.Keeps after) (hready : poll = .ready (.ok ()) → after.waiting.waiting = []) :
    Turned suite conn before (.pass call reply) (.passed poll, after)

theorem write_turned (suite : CipherSuite) (conn : ConnectionId) (memory : WriterMemory)
    (plaintext : Bytes) :
    Turned suite conn memory (.write plaintext)
      (.wrote (memory.write suite conn plaintext).1, (memory.write suite conn plaintext).2) := by
  have hkeeps := drain_keeps memory
  unfold write
  rcases hdrain : memory.drain with ⟨⟨error | ⟨⟩⟩ | _, drained⟩
  · rw [hdrain] at hkeeps
    exact .kept hkeeps nofun
  · have hnothing := drain_ready hdrain
    rw [hdrain] at hkeeps
    have htaken := hkeeps.bytes
    rw [hnothing, List.append_nil] at htaken
    simp only
    split
    · rename_i hempty
      exact .kept hkeeps fun _ _ => List.isEmpty_iff.1 hempty
    · rcases hencrypt : drained.registry.encrypt suite conn plaintext with ⟨error | wire, next⟩
      · simp only [encrypt, hencrypt]
        rw [hkeeps.registry] at hencrypt
        refine .refused ⟨hencrypt, by rw [hkeeps.sealings], ?_⟩
        exact hkeeps.bytes.trans (List.append_nil _).symm
      · simp only [encrypt, hencrypt]
        rw [hkeeps.registry] at hencrypt
        refine .sealed ⟨hencrypt, by rw [hkeeps.sealings], ?_⟩
        exact congrArg (· ++ wire) htaken
  · rw [hdrain] at hkeeps
    exact .kept hkeeps nofun

theorem turn_turned (suite : CipherSuite) (conn : ConnectionId) (memory : WriterMemory)
    (next : FrameWriter.Turn) :
    Turned suite conn (memory.setRegistry (next.before memory.registry)) next.call
      (memory.turn suite conn next) := by
  obtain ⟨before, call⟩ := next
  cases call with
  | write plaintext => exact write_turned ..
  | pass call reply =>
    exact .passed (pass_keeps _ call reply) fun hready => pass_ready (Prod.ext hready rfl)

theorem write_running (suite : CipherSuite) (conn : ConnectionId) (memory : WriterMemory)
    (plaintext : Bytes) :
    memory.waiting.write suite conn memory.registry memory.sink plaintext =
      ((memory.write suite conn plaintext).1, (memory.write suite conn plaintext).2.waiting,
        (memory.write suite conn plaintext).2.sink,
        (memory.write suite conn plaintext).2.registry) := by
  obtain ⟨hdrain, hregistry, -⟩ := drain_running memory
  unfold FrameWriter.write write
  rw [hdrain]
  rcases hdrained : memory.drain with ⟨⟨error | ⟨⟩⟩ | _, drained⟩
  · rw [hdrained] at hregistry
    simp only [← hregistry]
  · rw [hdrained] at hregistry
    simp only [← hregistry, encrypt]
    split
    · rfl
    · rcases drained.registry.encrypt suite conn plaintext with ⟨error | wire, next⟩
      · rfl
      · rfl
  · rw [hdrained] at hregistry
    simp only [← hregistry]

theorem pass_running (memory : WriterMemory) (call : SinkCall) (reply : Poll Unit) :
    memory.waiting.pass memory.sink call reply =
      ((memory.pass call reply).1, (memory.pass call reply).2.waiting,
        (memory.pass call reply).2.sink) := by
  obtain ⟨hdrain, -, -⟩ := drain_running memory
  unfold FrameWriter.pass FrameWriter.call pass
  rw [hdrain]
  rcases memory.drain with ⟨⟨error | ⟨⟩⟩ | _, drained⟩
  · rfl
  · rfl
  · rfl

/-- A call is answered as it is without the memory. -/
theorem turn_running (suite : CipherSuite) (conn : ConnectionId) (memory : WriterMemory)
    (next : FrameWriter.Turn) :
    FrameWriter.turn suite conn memory.running next =
      ((memory.turn suite conn next).1, (memory.turn suite conn next).2.running) := by
  obtain ⟨before, call⟩ := next
  cases call with
  | write plaintext =>
    have hwrite :
        memory.waiting.write suite conn (before memory.registry) memory.sink plaintext = _ :=
      (memory.setRegistry (before memory.registry)).write_running suite conn plaintext
    simp only [FrameWriter.turn, running, hwrite]
    rfl
  | pass call reply =>
    have hpass : memory.waiting.pass memory.sink call reply = _ :=
      (memory.setRegistry (before memory.registry)).pass_running call reply
    have hkeeps := (memory.setRegistry (before memory.registry)).pass_keeps call reply
    simp only [FrameWriter.turn, running, hpass, turn, hkeeps.registry]
    rfl

/-! ## Any calls -/

theorem sealed_of_append {sealing : Sealing} (h : after.sealings = memory.sealings ++ [sealing]) :
    after.sealed = memory.sealed ++ sealing.output.toOption.getD [] := by
  unfold sealed
  rw [h, List.filterMap_append, List.flatten_append]
  congr 1
  obtain ⟨plaintext, error | wire⟩ := sealing
  · rfl
  · exact List.append_nil wire

/-- What was passed on and what waits is what was encrypted. -/
def Accounted (memory : WriterMemory) : Prop :=
  memory.sink.taken ++ memory.waiting.waiting = memory.sealed

theorem Keeps.accounted (h : memory.Keeps after) (haccounted : memory.Accounted) :
    after.Accounted := by
  unfold Accounted sealed
  rw [h.bytes, h.sealings]
  exact haccounted

theorem Seals.accounted {plaintext : Bytes} {output : Except TransportError Bytes}
    (h : memory.Seals suite conn plaintext output after) (haccounted : memory.Accounted) :
    after.Accounted := by
  unfold Accounted
  rw [h.bytes, sealed_of_append h.sealings, ← haccounted]

/-- What a call has encrypted, by its answer. -/
structure SealsOnce (suite : CipherSuite) (conn : ConnectionId) (before : WriterMemory)
    (call : FrameWriter.Call) (answered : FrameWriter.Answer × WriterMemory) : Prop where
  wrote : ∀ plaintext count, call = .write plaintext → plaintext ≠ [] →
    answered.1 = .wrote (.ready (.ok count)) →
    count = plaintext.length ∧ ∃ wire,
      before.registry.encrypt suite conn plaintext = (.ok wire, answered.2.registry) ∧
      answered.2.sealings = before.sealings ++ [⟨plaintext, .ok wire⟩]
  pending : answered.1 = .wrote .pending →
    answered.2.registry = before.registry ∧ answered.2.sealings = before.sealings
  passed : ∀ sinkCall reply, call = .pass sinkCall reply →
    answered.2.registry = before.registry ∧ answered.2.sealings = before.sealings ∧
      (answered.1.isDone = true → answered.2.sink.taken = answered.2.sealed)

section Turned

variable {call : FrameWriter.Call} {answered : FrameWriter.Answer × WriterMemory}

theorem Turned.accounted (h : Turned suite conn memory call answered)
    (haccounted : memory.Accounted) : answered.2.Accounted := by
  cases h with
  | kept h | passed h => exact h.accounted haccounted
  | refused h | sealed h => exact h.accounted haccounted

theorem Turned.sealsOnce (h : Turned suite conn memory call answered)
    (haccounted : memory.Accounted) : SealsOnce suite conn memory call answered := by
  have hafter := h.accounted haccounted
  cases h with
  | kept h hready =>
    refine ⟨?_, fun _ => ⟨h.registry, h.sealings⟩, nofun⟩
    rintro _ count ⟨⟩ hsome ⟨⟩
    exact absurd (hready count rfl) hsome
  | refused h => exact ⟨nofun, nofun, nofun⟩
  | @sealed plaintext wire after h =>
    refine ⟨?_, nofun, nofun⟩
    rintro _ _ ⟨⟩ - ⟨⟩
    exact ⟨rfl, wire, h.encrypt, h.sealings⟩
  | passed h hready =>
    refine ⟨nofun, nofun, fun _ _ _ => ⟨h.registry, h.sealings, fun hdone => ?_⟩⟩
    rw [← hafter, hready (FrameWriter.Answer.isDone_passed.1 hdone), List.append_nil]

end Turned

/-- The memory of a new writer, in front of a stream that answers so. -/
def start (registry : Registry) (answers : Nat → SinkAnswer) : WriterMemory where
  registry
  sink := { answers }

theorem start_accounted (registry : Registry) (answers : Nat → SinkAnswer) :
    (start registry answers).Accounted :=
  rfl

theorem after_accounted (haccounted : memory.Accounted) (turns : List FrameWriter.Turn) :
    (Calls.after (turn suite conn) memory turns).Accounted := by
  induction turns generalizing memory with
  | nil => exact haccounted
  | cons next rest ih => exact ih ((turn_turned suite conn memory next).accounted haccounted)

/-- The memory is not to be seen in the answers. -/
theorem run_running (suite : CipherSuite) (conn : ConnectionId) (memory : WriterMemory)
    (turns : List FrameWriter.Turn) :
    Calls.outcomes (FrameWriter.turn suite conn) memory.running turns =
        Calls.outcomes (turn suite conn) memory turns ∧
      Calls.after (FrameWriter.turn suite conn) memory.running turns =
        (Calls.after (turn suite conn) memory turns).running := by
  have hstep : ∀ state (memory : WriterMemory) next, state = memory.running →
      (FrameWriter.turn suite conn state next).1 = (memory.turn suite conn next).1 ∧
        (FrameWriter.turn suite conn state next).2 = (memory.turn suite conn next).2.running := by
    rintro _ memory next rfl
    rw [turn_running]
    exact ⟨rfl, rfl⟩
  exact ⟨Calls.outcomes_eq_of_simulates hstep turns rfl,
    Calls.related_after_of_simulates (fun state memory next h => (hstep state memory next h).2)
      turns rfl⟩

/-- Whatever calls were made and whatever the stream has answered: it has taken the beginning of
what was encrypted, in the order of the calls, and nothing else. Of the next call it is known what
it encrypts, whether it succeeds or has to wait, and that a flush or a shutdown that succeeds has
passed on everything (`SealsOnce`). All of this holds of the `FrameWriter` that gives the same
answers. -/
theorem seals_once (suite : CipherSuite) (conn : ConnectionId) (registry : Registry)
    (answers : Nat → SinkAnswer) (turns : List FrameWriter.Turn) :
    let begun := start registry answers
    let memory := Calls.after (turn suite conn) begun turns
    memory.sink.taken <+: memory.sealed ∧
      (∀ next, SealsOnce suite conn (memory.setRegistry (next.before memory.registry)) next.call
        (memory.turn suite conn next)) ∧
      Calls.outcomes (FrameWriter.turn suite conn) (registry, {}, { answers }) turns =
        Calls.outcomes (turn suite conn) begun turns ∧
      Calls.after (FrameWriter.turn suite conn) (registry, {}, { answers }) turns =
        memory.running := by
  intro begun memory
  have haccounted : memory.Accounted := after_accounted (start_accounted registry answers) turns
  exact ⟨⟨_, haccounted⟩,
    fun next => (turn_turned suite conn memory next).sealsOnce haccounted,
    run_running suite conn begun turns⟩

/-- Five bytes of a frame are taken, and then the stream is not ready, so nothing else is encrypted;
a flush later the rest is taken. -/
theorem seals_once_waiting :
    let answers := fun offer => [.takes 5, .notReady][offer]?.getD .takesAll
    let begun := start Observed.activated answers
    let memory := Calls.after (turn .standard 1) begun
      [{ call := .write [1, 2, 3] }, { call := .write [4] }]
    let flushed := memory.turn .standard 1 { call := .pass .flush (.ready (.ok ())) }
    memory.sink.taken.length = 5 ∧ memory.sink.taken <+: memory.sealed ∧
      flushed.1.isDone = true ∧ flushed.2.sealings.length = 1 ∧
      flushed.2.sink.taken = flushed.2.sealed ∧ flushed.2.sink.taken.length = 21 := by
  intro answers begun memory flushed
  obtain ⟨hbegins, hseals, -⟩ := seals_once .standard 1 Observed.activated answers
    [{ call := .write [1, 2, 3] }, { call := .write [4] }]
  have hdone : flushed.1.isDone = true := by decide +kernel
  obtain ⟨-, -, hpassed⟩ := hseals { call := .pass .flush (.ready (.ok ())) }
  obtain ⟨-, -, htaken⟩ := hpassed _ _ rfl
  exact ⟨by decide +kernel, hbegins, hdone, by decide +kernel, htaken hdone, by decide +kernel⟩

end WriterMemory
end HomeKit
