import HomeKit.Proofs.Server.Trace
import Mathlib.Data.List.Induction

/-!
# Requests of encrypted connections

A connection becomes encrypted while plain text may still be unread: what came with the last request
before is kept, and it is looked at afterwards as if it had come in a frame. So a request that is
routed on an encrypted connection need not have come in frames.

The invariant is `Sound`: bytes that were taken as they are come before those of frames, and on a
connection that is not encrypted there are no others. So all of a request was in frames exactly when
its first byte was, which is so whenever nothing was unread when the keys were put to use
(`encrypted_request_opened_iff`). `injectedSteps` is a run in which something was unread: somebody
who knows no keys adds a controller.
-/

namespace HomeKit

namespace Server

variable {suite : CipherSuite} {start : Server} {steps : List ServerStep} {conn : ConnectionId}

/-! ## Keys -/

/-- The keys that a connection is encrypted with, if it is. -/
def keys? (server : Server) (conn : ConnectionId) : Option SessionKeys :=
  (server.connections.registry.credentials conn).keys

theorem isEncrypted_eq (server : Server) (conn : ConnectionId) :
    server.isEncrypted conn = (server.keys? conn).isSome :=
  Registry.isEncrypted_eq ..

theorem run_append_singleton (suite : CipherSuite) (start : Server) (steps : List ServerStep)
    (step : ServerStep) :
    start.run suite (steps ++ [step]) = (start.run suite steps).take suite step := by
  rw [run, List.foldl_append]
  rfl

/-- The byte was taken off the connection during the run, as it is or in a frame that was opened
under the keys that the connection had. -/
def TakenDuring (suite : CipherSuite) (start : Server) (steps : List ServerStep)
    (conn : ConnectionId) (b : TracedByte) : Prop :=
  ∃ before, before <+: steps ∧ b.TakenUnder suite ((start.run suite before).keys? conn)

/-- The byte was in a frame that was opened during the run under the keys that the connection
had. -/
def OpenedDuring (suite : CipherSuite) (start : Server) (steps : List ServerStep)
    (conn : ConnectionId) (b : TracedByte) : Prop :=
  ∃ before keys, before <+: steps ∧ (start.run suite before).keys? conn = some keys ∧
    b.OpenedUnder suite keys

theorem TakenDuring.mono {b : TracedByte} (h : TakenDuring suite start steps conn b)
    (step : ServerStep) : TakenDuring suite start (steps ++ [step]) conn b := by
  obtain ⟨before, hprefix, htaken⟩ := h
  exact ⟨before, hprefix.trans (List.prefix_append ..), htaken⟩

theorem openedDuring_iff {b : TracedByte} (h : TakenDuring suite start steps conn b) :
    OpenedDuring suite start steps conn b ↔ b.isClear = false := by
  constructor
  · rintro ⟨_, _, -, -, hopened⟩
    exact hopened.isClear
  · intro hclear
    obtain ⟨before, hprefix, htaken⟩ := h
    cases hkeys : (start.run suite before).keys? conn with
    | none =>
      rw [hkeys] at htaken
      exact absurd htaken (Bool.eq_false_iff.1 hclear)
    | some keys =>
      rw [hkeys] at htaken
      exact ⟨before, keys, hprefix, hkeys, htaken⟩

end Server

/-! ## What is held -/

namespace WatchedServer

variable {suite : CipherSuite} {conn : ConnectionId} {before after : WatchedServer}
  {link found : Link} {more : List TracedByte} {taken : TracedByte → Prop}

/-- What the trace of a connection that is read from holds. -/
structure Sound (conn : ConnectionId) (taken : TracedByte → Prop) (watched : WatchedServer)
    (link : Link) : Prop where
  follows : watched.trace.Follows link
  taken : ∀ b ∈ watched.trace.held, taken b
  /-- Frames are opened only after everything else was taken. -/
  ordered : watched.trace.held.Pairwise fun b later => later.isClear = true → b.isClear = true
  clear : watched.server.isEncrypted conn = false →
    ∀ b ∈ watched.trace.held, b.isClear = true

theorem sound_empty (conn : ConnectionId) (taken : TracedByte → Prop) {watched : WatchedServer}
    (htrace : watched.trace = {}) (order : Http.HeaderOrder) :
    Sound conn taken watched { request := .start order } := by
  obtain ⟨server, trace⟩ := watched
  cases htrace
  exact ⟨⟨Http.RequestReader.collects_start order, rfl, rfl⟩, nofun, List.Pairwise.nil, nofun⟩

/-- What was just taken is all of one kind. -/
theorem Advances.isClear (h : Advances suite conn before after link found more) {b : TracedByte}
    (hb : b ∈ more) : b.isClear = !before.server.isEncrypted conn := by
  have htaken := h.taken b hb
  rw [Server.isEncrypted_eq, Server.keys?]
  cases hkeys : (before.server.connections.registry.credentials conn).keys with
  | none =>
    rw [hkeys] at htaken
    exact htaken
  | some keys =>
    rw [hkeys] at htaken
    exact htaken.isClear

/-- What a step leaves held on a connection that was not encrypted is clear. -/
theorem Advances.clear (h : Advances suite conn before after link found more)
    (hsound : Sound conn taken before link) (hplain : before.server.isEncrypted conn = false) :
    ∀ b ∈ after.trace.held, b.isClear = true := by
  intro b hb
  rcases List.mem_append.1 (h.held.subset hb) with hb | hb
  · exact hsound.clear hplain b hb
  · rw [h.isClear hb, hplain]
    rfl

theorem Sound.advance {taken' : TracedByte → Prop} (hsound : Sound conn taken before link)
    (h : Advances suite conn before after link found more) (hkeep : ∀ b, taken b → taken' b)
    (hnow : ∀ b, b.TakenUnder suite (before.server.keys? conn) → taken' b) :
    Sound conn taken' after found := by
  refine ⟨h.follows hsound.follows, fun b hb => ?_, List.Pairwise.sublist h.held ?_,
    fun hplain => ?_⟩
  · rcases List.mem_append.1 (h.held.subset hb) with hb | hb
    · exact hkeep b (hsound.taken b hb)
    · exact hnow b (h.taken b hb)
  · refine List.pairwise_append.2 ⟨hsound.ordered, ?_, fun b hb later hlater hclear => ?_⟩
    · refine List.pairwise_of_forall_mem_list ?_
      intro b hb later hlater hclear
      rw [h.isClear hb, ← h.isClear hlater]
      exact hclear
    · rw [h.isClear hlater, Bool.not_eq_true'] at hclear
      exact hsound.clear hclear b hb
  · refine h.clear hsound ?_
    rw [← Bool.not_eq_true]
    intro henc
    rw [h.isEncrypted henc] at hplain
    cases hplain

end WatchedServer

/-! ## Runs -/

/-- Is nothing that was read left to be looked at? -/
def Link.isDrained (link : Link) : Bool :=
  link.request.isStart && link.buffered.isEmpty && link.frames.plain.isEmpty

/-- Nothing is left in the trace of a connection on which nothing is left. -/
theorem Trace.Follows.held_eq_nil {trace : Trace} {link : Link} (h : trace.Follows link)
    (hdrained : link.isDrained = true) : trace.held = [] := by
  unfold Link.isDrained at hdrained
  simp only [Bool.and_eq_true, List.isEmpty_iff] at hdrained
  obtain ⟨⟨hstart, hbuffered⟩, hplain⟩ := hdrained
  have hbuffered : trace.buffered = [] := List.map_eq_nil_iff.1 (h.buffered.trans hbuffered)
  have hplain : trace.plain = [] := List.map_eq_nil_iff.1 (h.plain.trans hplain)
  rw [Trace.held, h.current.eq_nil hstart, hbuffered, hplain]
  rfl

namespace Server

variable {suite : CipherSuite} {server start : Server} {steps : List ServerStep}
  {conn : ConnectionId} {link : Link}

/-- Is nothing left unread on the connection whenever it becomes encrypted in the run? -/
def drainedAtActivation (suite : CipherSuite) (conn : ConnectionId) :
    Server → List ServerStep → Bool
  | _, [] => true
  | server, step :: rest =>
    let after := server.take suite step
    (server.isEncrypted conn || !after.isEncrypted conn || (after.link? conn).all (·.isDrained)) &&
      drainedAtActivation suite conn after rest

theorem drainedAtActivation_append_singleton (step : ServerStep)
    (h : drainedAtActivation suite conn start (steps ++ [step]) = true) :
    drainedAtActivation suite conn start steps = true ∧
      ((start.run suite steps).isEncrypted conn = false →
        ((start.run suite steps).take suite step).isEncrypted conn = true →
        ∀ link, ((start.run suite steps).take suite step).link? conn = some link →
          link.isDrained = true) := by
  induction steps generalizing start with
  | nil =>
    refine ⟨rfl, fun hplain henc link hlink => ?_⟩
    have hfirst := (Bool.and_eq_true_iff.1 h).1
    rw [run, List.foldl_nil] at hplain henc hlink
    rw [hplain, henc, hlink] at hfirst
    exact hfirst
  | cons first rest ih =>
    rw [List.cons_append, drainedAtActivation] at h
    obtain ⟨hfirst, hrest⟩ := Bool.and_eq_true_iff.1 h
    obtain ⟨hdrained, hlast⟩ := ih hrest
    refine ⟨?_, hlast⟩
    rw [drainedAtActivation, Bool.and_eq_true_iff]
    exact ⟨hfirst, hdrained⟩

/-- The server after a run, with the connection watched from the start. -/
def watched (suite : CipherSuite) (start : Server) (steps : List ServerStep)
    (conn : ConnectionId) : WatchedServer :=
  WatchedServer.run suite conn { server := start } steps

theorem watched_server (suite : CipherSuite) (start : Server) (steps : List ServerStep)
    (conn : ConnectionId) : (start.watched suite steps conn).server = start.run suite steps :=
  WatchedServer.run_server ..

theorem watched_append_singleton (suite : CipherSuite) (start : Server) (steps : List ServerStep)
    (conn : ConnectionId) (step : ServerStep) :
    start.watched suite (steps ++ [step]) conn =
      (start.watched suite steps conn).take suite conn step :=
  WatchedServer.run_append_singleton ..

theorem watched_sound (hlinks : start.links = ∅)
    (hlink : (start.watched suite steps conn).server.link? conn = some link)
    (hlive : link.isLive = true) :
    WatchedServer.Sound conn (TakenDuring suite start steps conn)
      (start.watched suite steps conn) link := by
  induction steps using List.reverseRecOn generalizing link with
  | nil =>
    rw [watched_server, link?, run, List.foldl_nil, hlinks] at hlink
    cases hlink
  | append_singleton steps step ih =>
    rw [watched_append_singleton] at hlink ⊢
    rcases WatchedServer.take_advances hlink hlive with
      ⟨⟨order, rfl⟩, htrace⟩ | ⟨before, more, hadvances⟩
    · exact WatchedServer.sound_empty conn _ htrace order
    · refine (ih hadvances.link? hadvances.isLive).advance hadvances
        (fun b htaken => htaken.mono step) fun b htaken => ⟨steps, List.prefix_append .., ?_⟩
      rw [watched_server] at htaken
      exact htaken

/-- With nothing unread at activation, encrypted connections hold nothing that is clear. -/
theorem watched_opened (hlinks : start.links = ∅)
    (hdrained : drainedAtActivation suite conn start steps = true)
    (hlink : (start.watched suite steps conn).server.link? conn = some link)
    (hlive : link.isLive = true)
    (henc : (start.watched suite steps conn).server.isEncrypted conn = true) :
    ∀ b ∈ (start.watched suite steps conn).trace.held, b.isClear = false := by
  induction steps using List.reverseRecOn generalizing link with
  | nil =>
    rw [watched_server, link?, run, List.foldl_nil, hlinks] at hlink
    cases hlink
  | append_singleton steps step ih =>
    obtain ⟨hearlier, hnow⟩ := drainedAtActivation_append_singleton step hdrained
    cases hbefore : (start.run suite steps).isEncrypted conn with
    | false =>
      have hsound := watched_sound hlinks hlink hlive
      rw [watched_server, run_append_singleton] at hlink henc
      rw [hsound.follows.held_eq_nil (hnow hbefore henc link hlink)]
      exact nofun
    | true =>
      rw [← watched_server suite start steps conn] at hbefore
      rw [watched_append_singleton] at hlink ⊢
      rcases WatchedServer.take_advances hlink hlive with
        ⟨⟨order, rfl⟩, htrace⟩ | ⟨before, more, hadvances⟩
      · rw [htrace]
        exact nofun
      · intro b hb
        rcases List.mem_append.1 (hadvances.held.subset hb) with hb | hb
        · exact ih hearlier hadvances.link? hadvances.isLive hbefore b hb
        · rw [hadvances.isClear hb, hbefore]
          rfl

/-- Right after a step before which the connection was not encrypted, it holds nothing else than
what is clear. -/
theorem watched_clear {step : ServerStep} (hlinks : start.links = ∅)
    (hplain : (start.run suite steps).isEncrypted conn = false)
    (hlink : (start.watched suite (steps ++ [step]) conn).server.link? conn = some link)
    (hlive : link.isLive = true) :
    ∀ b ∈ (start.watched suite (steps ++ [step]) conn).trace.held, b.isClear = true := by
  rw [← watched_server suite start steps conn] at hplain
  rw [watched_append_singleton] at hlink ⊢
  rcases WatchedServer.take_advances hlink hlive with
    ⟨⟨order, rfl⟩, htrace⟩ | ⟨before, more, hadvances⟩
  · rw [htrace]
    exact nofun
  · exact hadvances.clear (watched_sound hlinks hadvances.link? hadvances.isLive) hplain

/-! ## Requests -/

/-- The bytes of the request that the connection routes at a step after a run. -/
def routedBytes (suite : CipherSuite) (start : Server) (steps : List ServerStep)
    (conn : ConnectionId) (choice : ReadChoice) : List TracedByte :=
  match (start.run suite steps).reading? conn choice with
  | some link => (start.watched suite steps conn).trace.routed link
  | none => []

theorem isClear_of_head? {bytes : List TracedByte}
    (hordered : bytes.Pairwise fun b later => later.isClear = true → b.isClear = true)
    (hfirst : ∀ first ∈ bytes.head?, first.isClear = false) :
    ∀ b ∈ bytes, b.isClear = false := by
  cases bytes with
  | nil => exact nofun
  | cons first rest =>
    have hclear := hfirst first rfl
    intro b hb
    rcases List.mem_cons.1 hb with rfl | hb
    · exact hclear
    · rw [← Bool.not_eq_true] at hclear ⊢
      exact fun hlater => hclear (List.rel_of_pairwise_cons hordered hb hlater)

/-- When a connection is encrypted and its reading side routes a request, even if it is to close,
then the request was read from bytes that were taken off the connection. All of them were in frames
that were opened under the session's keys exactly when the first of them was. They were if nothing
was unread on the connection when it became encrypted. But of a request that is complete at that
time, none were. -/
theorem encrypted_request_opened_iff (suite : CipherSuite) (server : Server)
    (steps : List ServerStep) (conn : ConnectionId) (choice : ReadChoice)
    (request : Http.Request) :
    let start := { server with links := ∅ }
    let now := start.run suite steps
    let bytes := start.routedBytes suite steps conn choice
    now.routed? conn choice = some request → now.isEncrypted conn = true →
      (∃ link, now.readStep suite conn choice =
        some (now.answer suite conn link choice.order request)) ∧
      (∃ order, (Http.RequestReader.start order).feed (bytes.map (·.byte)) =
        (.request request, [])) ∧
      (∀ b ∈ bytes, TakenDuring suite start steps conn b) ∧
      ((∀ b ∈ bytes, OpenedDuring suite start steps conn b) ↔
        ∀ first ∈ bytes.head?, first.isClear = false) ∧
      (drainedAtActivation suite conn start steps = true →
        ∀ b ∈ bytes, OpenedDuring suite start steps conn b) ∧
      (∀ before step, steps = before ++ [step] →
        (start.run suite before).isEncrypted conn = false →
        ∀ b ∈ bytes, ¬ OpenedDuring suite start steps conn b) := by
  intro start now bytes hrouted henc
  obtain ⟨link, hreading, -⟩ := Option.bind_eq_some_iff.1 hrouted
  obtain ⟨hfound, hstage, -⟩ := link?_of_reading? suite hreading
  have hlive : link.isLive = true := by rw [Link.isLive, hstage]
  have hlink : (start.watched suite steps conn).server.link? conn = some link := by
    rw [watched_server]
    exact hfound
  have hsound := watched_sound rfl hlink hlive
  have hbytes : bytes = (start.watched suite steps conn).trace.routed link := by
    unfold bytes routedBytes
    rw [hreading]
  have hheld : bytes.Sublist (start.watched suite steps conn).trace.held := by
    rw [hbytes]
    exact Trace.routed_sublist ..
  have htaken : ∀ b ∈ bytes, TakenDuring suite start steps conn b :=
    fun b hb => hsound.taken b (hheld.subset hb)
  refine ⟨readStep_of_routed? hrouted, ?_, htaken, ⟨fun hopened first hfirst => ?_, ?_⟩, ?_, ?_⟩
  · rw [hbytes]
    exact hsound.follows.routed_read hreading hrouted
  · have hmem : first ∈ bytes := List.mem_of_mem_head? hfirst
    exact (openedDuring_iff (htaken first hmem)).1 (hopened first hmem)
  · intro hfirst b hb
    refine (openedDuring_iff (htaken b hb)).2 ?_
    exact isClear_of_head? (List.Pairwise.sublist hheld hsound.ordered) hfirst b hb
  · intro hdrained b hb
    have hencrypted : (start.watched suite steps conn).server.isEncrypted conn = true := by
      rw [watched_server]
      exact henc
    refine (openedDuring_iff (htaken b hb)).2 ?_
    exact watched_opened rfl hdrained hlink hlive hencrypted b (hheld.subset hb)
  · rintro before step rfl hplain b hb hopened
    have hclear := watched_clear rfl hplain hlink hlive b (hheld.subset hb)
    rw [(openedDuring_iff (htaken b hb)).1 hopened] at hclear
    cases hclear

/-! ## Two runs -/

/-- A server that is paired with the controller of sevens. -/
def sevensServer : Server where
  accessory := Accessory.sevensAccessory
  maxConnections := 1

/-- A message of pair-verify, as it is sent. -/
def verifyRequest (body : Bytes) : Bytes :=
  { method := .post, path := "/pair-verify", body : Http.Request }.serialize

/-- The first message of pair-verify is answered. -/
def openingSteps : List ServerStep :=
  [.accept, .deliver 1 (verifyRequest PairVerify.ninesCall.request), .read 1, .read 1, .read 1,
    .write 1]

/-- The controller of sevens verifies, and then it asks for something in a frame. -/
def sealedSteps : List ServerStep :=
  openingSteps ++
    [.deliver 1 (verifyRequest PairVerify.sevensCall.request), .read 1, .read 1, .read 1, .write 1,
      .deliver 1 (FrameCipher.frame .transparent
        (SessionKeys.forController .transparent (List.replicate 32 1)).encrypt 0
        { method := .get, path := "/accessories" : Http.Request }.serialize),
      .read 1]

theorem encrypted_request_opened_sealed :
    ∃ request, (sevensServer.run .transparent sealedSteps).routed? 1 {} = some request ∧
      (sevensServer.run .transparent sealedSteps).isEncrypted 1 = true ∧
      drainedAtActivation .transparent 1 sevensServer sealedSteps = true ∧
      ∀ b ∈ sevensServer.routedBytes .transparent sealedSteps 1 {},
        OpenedDuring .transparent sevensServer sealedSteps 1 b := by
  obtain ⟨request, hrouted⟩ := Option.isSome_iff_exists.1
    (by decide +kernel : ((sevensServer.run .transparent sealedSteps).routed? 1 {}).isSome = true)
  have henc : (sevensServer.run .transparent sealedSteps).isEncrypted 1 = true := by
    decide +kernel
  have hdrained : drainedAtActivation .transparent 1 sevensServer sealedSteps = true := by
    decide +kernel
  obtain ⟨-, -, -, -, hopened, -⟩ := encrypted_request_opened_iff .transparent sevensServer
    sealedSteps 1 {} request hrouted henc
  exact ⟨request, hrouted, henc, hdrained, hopened hdrained⟩

/-- A request to add a controller, as it is sent without any key. -/
def addRequest : Bytes :=
  { method := .post, path := "/pairings", body := (Tlv.ofList [(.state, [1]), (.method, [3]),
      (.identifier, utf8 "evil"), (.publicKey, List.replicate 32 10),
      (.permissions, [1])]).encode : Http.Request }.serialize

/-- Somebody in between adds a request to the last message of the controller of sevens. -/
def injectedSteps : List ServerStep :=
  openingSteps ++
    [.deliver 1 (verifyRequest PairVerify.sevensCall.request ++ addRequest), .read 1, .read 1,
      .read 1, .write 1]

/-- The request that was added is routed when the connection is encrypted, though it was in no
frame, and it adds its controller. -/
theorem injected_request_not_opened :
    ((sevensServer.run .transparent injectedSteps).routed? 1 {}).isSome = true ∧
      (sevensServer.run .transparent injectedSteps).isEncrypted 1 = true ∧
      (sevensServer.routedBytes .transparent injectedSteps 1 {}).map (·.byte) = addRequest ∧
      (∀ b ∈ sevensServer.routedBytes .transparent injectedSteps 1 {},
        ¬ OpenedDuring .transparent sevensServer injectedSteps 1 b) ∧
      ((sevensServer.run .transparent injectedSteps).accessory.store.controller?
        "evil").isSome = false ∧
      ((sevensServer.run .transparent (injectedSteps ++ [.read 1])).accessory.store.controller?
        "evil").isSome = true := by
  refine ⟨by decide +kernel, by decide +kernel, by decide +kernel, fun b hb hopened => ?_,
    by decide +kernel, by decide +kernel⟩
  have hclear :
      (sevensServer.routedBytes .transparent injectedSteps 1 {}).all (·.isClear) = true := by
    decide +kernel
  obtain ⟨_, _, -, -, hopened⟩ := hopened
  have hb := List.all_eq_true.1 hclear b hb
  rw [hopened.isClear] at hb
  cases hb

end Server

end HomeKit
