import HomeKit.Proofs.Server.Steps

/-!
# Following bytes through the server

One connection of a running server is watched (`WatchedServer`): its trace has the bytes of the
request that is being read and the plain text that is not looked at yet, each with its source. The
trace only watches; the server runs as it does without it (`WatchedServer.run_server`).

A trace has the very bytes that the connection has (`Trace.Follows`), and the request that is routed
next is read from the bytes that the trace has for it (`Trace.Follows.routed_read`). A step adds
only what it took off the stream under the keys that the session has
(`WatchedServer.take_advances`).
-/

namespace HomeKit

/-! ## Reading traced requests -/

namespace Http.RequestReader

/-- Is the reader before the first byte of a request? -/
def isStart : RequestReader → Bool
  | .head _ [] _ => true
  | .head _ (_ :: _) _ | .body .. => false

/-- Takes traced bytes up to the end of a request or a failure. The bytes of the request are
collected, starting from those that were read before; blank lines that are skipped do not count. -/
def feedTraced (reader : RequestReader) (current : List TracedByte) :
    List TracedByte → ReadProgress × List TracedByte × List TracedByte
  | [] => (.more reader, current, [])
  | b :: rest =>
    match reader.push b.byte with
    | .more reader => reader.feedTraced (if reader.isStart then [] else current ++ [b]) rest
    | progress => (progress, current ++ [b], rest)

/-- Sources do not matter for what is read. -/
theorem feedTraced_eq (reader : RequestReader) (current bytes : List TracedByte) :
    ((reader.feedTraced current bytes).1, (reader.feedTraced current bytes).2.2.map (·.byte)) =
      reader.feed (bytes.map (·.byte)) := by
  induction bytes generalizing reader current with
  | nil => rfl
  | cons b rest ih =>
    unfold feedTraced
    rw [List.map_cons, feed]
    cases reader.push b.byte with
    | more next => exact ih next _
    | request request => rfl
    | failed error => rfl

/-- The bytes that are kept are among those that were there, in the same order. -/
theorem feedTraced_sublist (reader : RequestReader) (current bytes : List TracedByte) :
    ((reader.feedTraced current bytes).2.1 ++ (reader.feedTraced current bytes).2.2).Sublist
      (current ++ bytes) := by
  induction bytes generalizing reader current with
  | nil => exact List.Sublist.refl _
  | cons b rest ih =>
    unfold feedTraced
    cases reader.push b.byte with
    | more next =>
      refine (ih next _).trans ?_
      split
      · exact (List.sublist_cons_self b rest).trans (List.sublist_append_right ..)
      · rw [List.append_assoc]
        exact List.Sublist.refl _
    | request request =>
      rw [List.append_assoc]
      exact List.Sublist.refl _
    | failed error =>
      rw [List.append_assoc]
      exact List.Sublist.refl _

/-- A reader is back at the start only after a blank line that it skips. -/
theorem eq_start_of_push {reader next : RequestReader} {b : UInt8}
    (h : reader.push b = .more next) (hstart : next.isStart = true) :
    ∃ order, next = start order := by
  cases reader with
  | head order read length =>
    unfold push at h
    simp only at h
    split at h
    · cases h
    · split at h
      · cases h
        exact ⟨order, rfl⟩
      · unfold finishHead at h
        split at h
        · cases h
        · unfold enterBody at h
          split at h
          · cases h
          · cases h
          · cases h
            cases hstart
      · cases h
        cases hstart
  | body request read missing =>
    cases missing with
    | zero => cases h
    | succ missing =>
      cases h
      cases hstart

/-- The bytes that are left are the last ones. -/
theorem feedTraced_suffix (reader : RequestReader) (current bytes : List TracedByte) :
    (reader.feedTraced current bytes).2.2 <:+ bytes := by
  induction bytes generalizing reader current with
  | nil => exact List.suffix_refl _
  | cons b rest ih =>
    unfold feedTraced
    cases reader.push b.byte with
    | more next => exact (ih next _).trans (List.suffix_cons b rest)
    | request request => exact List.suffix_cons b rest
    | failed error => exact List.suffix_cons b rest

/-- The request, or its part so far, is read from the bytes that are collected. -/
theorem feed_feedTraced {reader : RequestReader} {current : List TracedByte}
    (h : ∃ order, (start order).feed (current.map (·.byte)) = (.more reader, []))
    (bytes : List TracedByte) :
    ∃ order, (start order).feed ((reader.feedTraced current bytes).2.1.map (·.byte)) =
      ((reader.feedTraced current bytes).1, []) := by
  induction bytes generalizing reader current with
  | nil => exact h
  | cons b rest ih =>
    obtain ⟨order, h⟩ := h
    have hnext : (start order).feed ((current ++ [b]).map (·.byte)) = reader.feed [b.byte] := by
      rw [List.map_append]
      exact feed_append_of_more h _
    unfold feedTraced
    rw [feed] at hnext
    cases hpush : reader.push b.byte with
    | more next =>
      rw [hpush] at hnext
      refine ih ?_
      split
      · rename_i hstart
        obtain ⟨order, rfl⟩ := eq_start_of_push hpush hstart
        exact ⟨order, rfl⟩
      · exact ⟨order, hnext⟩
    | request request =>
      rw [hpush] at hnext
      exact ⟨order, hnext⟩
    | failed error =>
      rw [hpush] at hnext
      exact ⟨order, hnext⟩

/-- The bytes of the request so far are these, and none before its first one. -/
structure Collects (reader : RequestReader) (current : List TracedByte) : Prop where
  feed : ∃ order, (start order).feed (current.map (·.byte)) = (.more reader, [])
  eq_nil : reader.isStart = true → current = []

theorem collects_start (order : HeaderOrder) : (start order).Collects [] :=
  ⟨⟨order, rfl⟩, fun _ => rfl⟩

theorem eq_nil_of_feedTraced {reader next : RequestReader} {current bytes : List TracedByte}
    (h : reader.isStart = true → current = [])
    (hmore : (reader.feedTraced current bytes).1 = .more next) (hstart : next.isStart = true) :
    (reader.feedTraced current bytes).2.1 = [] := by
  induction bytes generalizing reader current with
  | nil =>
    cases hmore
    exact h hstart
  | cons b rest ih =>
    unfold feedTraced at hmore ⊢
    cases hpush : reader.push b.byte with
    | more following =>
      rw [hpush] at hmore
      exact ih (fun hfollowing => if_pos hfollowing) hmore
    | request request =>
      rw [hpush] at hmore
      cases hmore
    | failed error =>
      rw [hpush] at hmore
      cases hmore

theorem collects_feedTraced {reader next : RequestReader} {current bytes : List TracedByte}
    (h : reader.Collects current) (hmore : (reader.feedTraced current bytes).1 = .more next) :
    next.Collects (reader.feedTraced current bytes).2.1 := by
  refine ⟨?_, eq_nil_of_feedTraced h.eq_nil hmore⟩
  rw [← hmore]
  exact feed_feedTraced h.feed bytes

end Http.RequestReader

/-! ## Traces -/

/-- The plain text of a connection, traced. -/
structure Trace where
  /-- The bytes of the request that is being read. -/
  current : List TracedByte := []
  /-- Plain text that was read and not looked at yet. -/
  buffered : List TracedByte := []
  /-- Plain text that was taken off the stream and not read yet. -/
  plain : List TracedByte := []

namespace Trace

variable {suite : CipherSuite} {server : Server} {conn : ConnectionId} {link : Link} {trace : Trace}

/-- All bytes that a request may still be made of. -/
def held (trace : Trace) : List TracedByte :=
  trace.current ++ trace.buffered ++ trace.plain

/-- The trace has the bytes that the connection has. -/
structure Follows (trace : Trace) (link : Link) : Prop where
  current : link.request.Collects trace.current
  buffered : trace.buffered.map (·.byte) = link.buffered
  plain : trace.plain.map (·.byte) = link.frames.plain

theorem Follows.sameInput {found : Link} (h : trace.Follows link) (hsame : found.SameInput link) :
    trace.Follows found := by
  refine ⟨?_, ?_, ?_⟩
  · rw [hsame.request]
    exact h.current
  · rw [hsame.buffered]
    exact h.buffered
  · rw [hsame.frames]
    exact h.plain

/-- The trace after more was read, with the bytes of the request so far. -/
def refill (suite : CipherSuite) (registry : Registry) (conn : ConnectionId) (link : Link)
    (trace : Trace) (current : List TracedByte) : Trace :=
  let plain := FrameReader.tracedPlain suite conn registry link.frames link.arrivals trace.plain
  ⟨current, plain.take Server.bufferSize, plain.drop Server.bufferSize⟩

/-- The trace after the reading side looked at what it has. -/
def look (suite : CipherSuite) (registry : Registry) (conn : ConnectionId) (link : Link)
    (trace : Trace) : Trace :=
  match link.request.feedTraced trace.current trace.buffered with
  | (.request _, _, rest) => { trace with current := [], buffered := rest }
  | (.failed _, _, rest) => { trace with buffered := rest }
  | (.more _, current, _) => trace.refill suite registry conn link current

/-- A read that has to wait leaves no plain text behind, and there was none. -/
theorem plain_of_pending {registry : Registry} {reader : FrameReader} {arrivals : Arrivals}
    {capacity : Nat} (h : (reader.read suite conn registry arrivals capacity).result = .pending) :
    reader.plain = [] ∧ (reader.read suite conn registry arrivals capacity).reader.plain = [] := by
  unfold FrameReader.read at h ⊢
  cases hplain : reader.plain with
  | nil =>
    rw [hplain] at h
    simp only at h ⊢
    split at h
    · cases h
    · exact ⟨trivial, rfl⟩
  | cons b plain =>
    rw [hplain] at h
    cases h

/-- After more was read, the trace follows a link with what was read. -/
theorem follows_refill {registry : Registry} {current : List TracedByte} {found : Link}
    (hplain : trace.plain.map (·.byte) = link.frames.plain)
    (hcurrent : found.request.Collects current)
    (hbuffered : found.buffered = (link.frames.read suite conn registry link.arrivals
      Server.bufferSize).result.plaintext)
    (hframes : found.frames.plain = (link.frames.read suite conn registry link.arrivals
      Server.bufferSize).reader.plain) :
    (trace.refill suite registry conn link current).Follows found := by
  obtain ⟨htake, hdrop⟩ := FrameReader.traced_read suite conn registry link.arrivals hplain
    Server.bufferSize
  refine ⟨hcurrent, ?_, ?_⟩
  · rw [hbuffered]
    exact htake
  · rw [hframes]
    exact hdrop

/-- Reading more keeps the trace in step with the connection, which may also be refused. -/
theorem follows_readMore {request : Http.RequestReader} {fresh : Bool}
    {current : List TracedByte} {after : Server} {found : Link}
    (hcurrent : request.Collects current)
    (hplain : trace.plain.map (·.byte) = link.frames.plain)
    (hread : server.readMore suite conn { link with request, buffered := [] } fresh = some after)
    (hfound : after.link? conn = some found) :
    (trace.refill suite server.connections.registry conn link current).Follows found := by
  have hempty : ∀ {before : Link}, before.request = request → before.buffered = [] →
      before.frames = (link.frames.read suite conn server.connections.registry link.arrivals
        Server.bufferSize).reader →
      (link.frames.read suite conn server.connections.registry link.arrivals
        Server.bufferSize).result.plaintext = [] → found.SameInput before →
      (trace.refill suite server.connections.registry conn link current).Follows found := by
    intro before hrequest hbuffered hframes hplaintext hsame
    refine follows_refill hplain ?_ ?_ ?_
    · rw [hsame.request, hrequest]
      exact hcurrent
    · rw [hsame.buffered, hbuffered, hplaintext]
    · rw [hsame.frames, hframes]
  unfold Server.readMore at hread
  simp only at hread
  split at hread
  · rename_i hresult
    split at hread
    · cases hread
    · cases hread
      obtain rfl := Server.eq_of_link?_setLink hfound
      exact hempty rfl rfl rfl (congrArg ReadResult.plaintext hresult) (.refl _)
  · rename_i error hresult
    cases hread
    exact hempty rfl rfl rfl (congrArg ReadResult.plaintext hresult)
      (Server.sameInput_refuse hfound)
  · rename_i hresult
    split at hread
    · cases hread
      exact hempty rfl rfl rfl (congrArg ReadResult.plaintext hresult)
        (Server.sameInput_refuse hfound)
    · cases hread
      obtain rfl := Server.eq_of_link?_finishReading hfound
      exact hempty rfl rfl rfl (congrArg ReadResult.plaintext hresult) ⟨rfl, rfl, rfl⟩
  · rename_i plaintext _ hresult
    cases hread
    obtain rfl := Server.eq_of_link?_setLink hfound
    exact follows_refill hplain hcurrent (congrArg ReadResult.plaintext hresult).symm rfl

/-- A reading side that has nothing to look at and has to wait is left as it is, and so is its
trace. -/
theorem follows_readMore_none (current : List TracedByte) {fresh : Bool}
    {request : Http.RequestReader} (h : trace.Follows link)
    (hread : server.readMore suite conn { link with request, buffered := [] } fresh = none) :
    fresh = false ∧ (link.buffered = [] → link.request.Collects current →
      (trace.refill suite server.connections.registry conn link current).Follows link) := by
  unfold Server.readMore at hread
  simp only at hread
  split at hread
  · rename_i hresult
    obtain ⟨hplain, hleft⟩ := plain_of_pending hresult
    split at hread
    · rename_i hidle
      rw [Bool.and_eq_true, Bool.not_eq_true'] at hidle
      refine ⟨hidle.1, fun hbuffered hcurrent => follows_refill h.plain hcurrent ?_ ?_⟩
      · rw [hbuffered]
        exact (congrArg ReadResult.plaintext hresult).symm
      · rw [hplain]
        exact hleft.symm
    · cases hread
  · cases hread
  · split at hread
    · cases hread
    · cases hread
  · cases hread

/-- After the reading side of a connection looked at what it has, the trace follows the connection
again. -/
theorem follows_look (h : trace.Follows link) (hlink : server.link? conn = some link)
    {order : Http.HeaderOrder} (found : Link)
    (hfound : ((server.readRequest suite conn link order).getD server).link? conn = some found) :
    (trace.look suite server.connections.registry conn link).Follows found := by
  have hcurrent (next : Http.RequestReader)
      (hmore : (link.request.feedTraced trace.current trace.buffered).1 = .more next) :
      next.Collects (link.request.feedTraced trace.current trace.buffered).2.1 :=
    Http.RequestReader.collects_feedTraced h.current hmore
  have hfeed := link.request.feedTraced_eq trace.current trace.buffered
  rw [h.buffered] at hfeed
  unfold look
  unfold Server.readRequest at hfound
  rw [← hfeed] at hfound
  rcases hprogress : link.request.feedTraced trace.current trace.buffered with
    ⟨request | request | error, current, rest⟩
  · rw [hprogress] at hcurrent hfound hfeed
    simp only at hcurrent hfound ⊢
    cases hread : server.readMore suite conn { link with request, buffered := [] }
        !link.buffered.isEmpty with
    | some after =>
      rw [hread] at hfound
      exact follows_readMore (hcurrent request rfl) h.plain hread hfound
    | none =>
      rw [hread] at hfound
      rw [Option.getD_none, hlink] at hfound
      cases hfound
      obtain ⟨hfresh, hfollows⟩ := follows_readMore_none current h hread
      rw [Bool.not_eq_false', List.isEmpty_iff] at hfresh
      refine hfollows hfresh ?_
      have hempty : trace.buffered = [] := List.map_eq_nil_iff.1 (h.buffered.trans hfresh)
      rw [hempty] at hprogress
      cases hprogress
      exact h.current
  · rw [hprogress] at hfound
    simp only [Option.getD_some] at hfound
    unfold Server.answer at hfound
    obtain rfl := Server.eq_of_link?_setLink hfound
    exact ⟨Http.RequestReader.collects_start order, rfl, h.plain⟩
  · rw [hprogress] at hfound
    simp only [Option.getD_some] at hfound
    have hsame := Server.sameInput_refuse hfound
    refine ⟨?_, ?_, ?_⟩
    · rw [hsame.request]
      exact h.current
    · rw [hsame.buffered]
    · rw [hsame.frames]
      exact h.plain

/-- What is held was there before, or it was taken just now. -/
theorem held_look (suite : CipherSuite) (registry : Registry) (conn : ConnectionId) (link : Link)
    (trace : Trace) :
    ∃ more, (trace.look suite registry conn link).held.Sublist (trace.held ++ more) ∧
      ∀ b ∈ more, b.TakenUnder suite (registry.credentials conn).keys := by
  have hkept := link.request.feedTraced_sublist trace.current trace.buffered
  have hrest := (link.request.feedTraced_suffix trace.current trace.buffered).sublist
  unfold look
  rcases hprogress : link.request.feedTraced trace.current trace.buffered with
    ⟨request | request | error, current, rest⟩
  · obtain ⟨more, hplain, htaken⟩ := FrameReader.tracedPlain_eq_append suite conn
      registry link.frames link.arrivals trace.plain
    refine ⟨more, ?_, htaken⟩
    rw [hprogress] at hkept
    have hcurrent : current.Sublist (trace.current ++ trace.buffered) :=
      (List.sublist_append_left current rest).trans hkept
    unfold held refill
    simp only
    rw [List.append_assoc, List.take_append_drop, hplain, ← List.append_assoc]
    exact (hcurrent.append_right trace.plain).append_right more
  · refine ⟨[], ?_, nofun⟩
    rw [hprogress] at hkept
    rw [List.append_nil]
    exact ((List.sublist_append_right current rest).trans hkept).append_right trace.plain
  · refine ⟨[], ?_, nofun⟩
    rw [hprogress] at hrest
    rw [List.append_nil]
    exact (hrest.append_left trace.current).append_right trace.plain

/-- The bytes of the request that the reading side routes when it looks. -/
def routed (trace : Trace) (link : Link) : List TracedByte :=
  (link.request.feedTraced trace.current trace.buffered).2.1

theorem routed_sublist (trace : Trace) (link : Link) : (trace.routed link).Sublist trace.held := by
  have hkept := link.request.feedTraced_sublist trace.current trace.buffered
  exact ((List.sublist_append_left _ _).trans hkept).trans (List.sublist_append_left _ _)

/-- The request that is routed is read from its bytes alone. -/
theorem Follows.routed_read {choice : Server.ReadChoice} {request : Http.Request}
    (h : trace.Follows link) (hreading : server.reading? conn choice = some link)
    (hrouted : server.routed? conn choice = some request) :
    ∃ order, (Http.RequestReader.start order).feed ((trace.routed link).map (·.byte)) =
      (.request request, []) := by
  have hfeed := link.request.feedTraced_eq trace.current trace.buffered
  rw [h.buffered] at hfeed
  obtain ⟨order, hread⟩ := Http.RequestReader.feed_feedTraced h.current.feed trace.buffered
  refine ⟨order, ?_⟩
  rw [routed, hread]
  unfold Server.routed? at hrouted
  rw [hreading, Option.bind_some, ← hfeed] at hrouted
  cases hprogress : (link.request.feedTraced trace.current trace.buffered).1 with
  | more next =>
    rw [hprogress] at hrouted
    cases hrouted
  | request found =>
    rw [hprogress] at hrouted
    cases hrouted
    rfl
  | failed error =>
    rw [hprogress] at hrouted
    cases hrouted

end Trace

/-! ## Watching a connection -/

/-- A server, one connection of which is watched. -/
structure WatchedServer where
  server : Server
  trace : Trace := {}

namespace WatchedServer

variable {suite : CipherSuite} {conn : ConnectionId}

/-- The trace of the connection after a step. -/
def traceAfter (suite : CipherSuite) (conn : ConnectionId) (watched : WatchedServer) :
    ServerStep → Trace
  | .accept order => if (watched.server.accept order).1 = some conn then {} else watched.trace
  | .read other choice =>
    if other = conn then
      match watched.server.reading? conn choice with
      | some link => watched.trace.look suite watched.server.connections.registry conn link
      | none => watched.trace
    else watched.trace
  | .deliver .. | .endArrivals _ | .lose _ | .write _ | .broadcast .. | .stop => watched.trace

/-- What is the case after a step. -/
def take (suite : CipherSuite) (conn : ConnectionId) (watched : WatchedServer) (step : ServerStep) :
    WatchedServer where
  server := watched.server.take suite step
  trace := watched.traceAfter suite conn step

/-- What is the case after some steps. -/
def run (suite : CipherSuite) (conn : ConnectionId) (watched : WatchedServer)
    (steps : List ServerStep) : WatchedServer :=
  steps.foldl (take suite conn) watched

theorem run_append_singleton (suite : CipherSuite) (conn : ConnectionId) (watched : WatchedServer)
    (steps : List ServerStep) (step : ServerStep) :
    watched.run suite conn (steps ++ [step]) =
      (watched.run suite conn steps).take suite conn step := by
  rw [run, List.foldl_append]
  rfl

/-- Watching changes nothing. -/
theorem run_server (suite : CipherSuite) (conn : ConnectionId) (watched : WatchedServer)
    (steps : List ServerStep) :
    (watched.run suite conn steps).server = watched.server.run suite steps := by
  induction steps generalizing watched with
  | nil => rfl
  | cons step rest ih => exact ih (watched.take suite conn step)

/-- What a step may do to a connection that is still read from: it goes on with the bytes that it
had, and it may take more. -/
structure Advances (suite : CipherSuite) (conn : ConnectionId) (before after : WatchedServer)
    (link found : Link) (more : List TracedByte) : Prop where
  link? : before.server.link? conn = some link
  isLive : link.isLive = true
  follows : before.trace.Follows link → after.trace.Follows found
  isEncrypted : before.server.isEncrypted conn = true → after.server.isEncrypted conn = true
  held : after.trace.held.Sublist (before.trace.held ++ more)
  taken : ∀ b ∈ more, b.TakenUnder suite (before.server.connections.registry.credentials conn).keys

/-- A step that leaves the input of the connection alone leaves the trace alone. -/
theorem advances_of_spares {before after : WatchedServer} {found : Link}
    (hspares : Server.Spares conn before.server after.server) (htrace : after.trace = before.trace)
    (hfound : after.server.link? conn = some found) (hlive : found.isLive = true) :
    ∃ link more, Advances suite conn before after link found more := by
  obtain ⟨link, hlink, hcontinues⟩ := hspares.link? found hfound hlive
  refine ⟨link, [], hlink, hcontinues.isLive hlive, ?_, hspares.isEncrypted found hfound hlive, ?_,
    nofun⟩
  · rw [htrace]
    exact fun hfollows => hfollows.sameInput hcontinues.toSameInput
  · rw [htrace]
    exact List.sublist_append_left _ _

/-- The reading side looks at what it has. -/
theorem take_read_advances {watched : WatchedServer} {choice : Server.ReadChoice}
    {link found : Link} (hreading : watched.server.reading? conn choice = some link)
    (hfound : (watched.take suite conn (.read conn choice)).server.link? conn = some found) :
    ∃ more, Advances suite conn watched (watched.take suite conn (.read conn choice)) link found
      more := by
  obtain ⟨hlink, hstage, hread⟩ := Server.link?_of_reading? suite hreading
  have htrace : (watched.take suite conn (.read conn choice)).trace =
      watched.trace.look suite watched.server.connections.registry conn link := by
    simp only [take, traceAfter, if_pos, hreading]
  have hafter : (watched.take suite conn (.read conn choice)).server =
      (watched.server.readRequest suite conn link choice.order).getD watched.server := by
    rw [← hread]
    rfl
  obtain ⟨more, hheld, htaken⟩ :=
    watched.trace.held_look suite watched.server.connections.registry conn link
  refine ⟨more, hlink, ?_, fun hfollows => ?_, fun henc => ?_, ?_, htaken⟩
  · rw [Link.isLive, hstage]
  · rw [hafter] at hfound
    rw [htrace]
    exact Trace.follows_look hfollows hlink found hfound
  · rw [hafter]
    cases hrequest : watched.server.readRequest suite conn link choice.order with
    | none => exact henc
    | some after => exact (Server.confined_readRequest hrequest).isEncrypted conn henc
  · rw [htrace]
    exact hheld

/-- After a step, the connection was just accepted, or it goes on. -/
theorem take_advances {watched : WatchedServer} {step : ServerStep} {found : Link}
    (hfound : (watched.take suite conn step).server.link? conn = some found)
    (hlive : found.isLive = true) :
    (∃ order, found = { request := .start order }) ∧ (watched.take suite conn step).trace = {} ∨
      ∃ link more, Advances suite conn watched (watched.take suite conn step) link found more := by
  by_cases haccept : ∃ order, step = .accept order ∧ (watched.server.accept order).1 = some conn
  · obtain ⟨order, rfl, haccept⟩ := haccept
    refine .inl ⟨⟨order, ?_⟩, if_pos haccept⟩
    exact Option.some.inj (hfound.symm.trans (Server.link?_accept haccept))
  · refine .inr ?_
    by_cases hlook : ∃ choice, step = .read conn choice ∧ watched.server.reading? conn choice ≠ none
    · obtain ⟨choice, rfl, hlook⟩ := hlook
      obtain ⟨link, hreading⟩ := Option.ne_none_iff_exists'.1 hlook
      exact ⟨link, take_read_advances hreading hfound⟩
    · have hsame : (watched.take suite conn step).trace = watched.trace := by
        cases step with
        | accept order => exact if_neg fun h => haccept ⟨order, rfl, h⟩
        | read other choice =>
          unfold take traceAfter
          simp only
          split
          · rename_i heq
            subst heq
            cases hreading : watched.server.reading? other choice with
            | none => rfl
            | some link => exact absurd ⟨choice, rfl, by rw [hreading]; exact nofun⟩ hlook
          · rfl
        | deliver | endArrivals | lose | write | broadcast | stop => rfl
      refine advances_of_spares ?_ hsame hfound hlive
      refine Server.take_spares suite watched.server (fun order h h' => haccept ⟨order, h, h'⟩) ?_
      exact fun choice h => Classical.not_not.1 fun h' => hlook ⟨choice, h, h'⟩

end WatchedServer

end HomeKit
