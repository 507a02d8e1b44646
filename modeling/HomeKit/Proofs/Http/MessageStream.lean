import HomeKit.Proofs.Http.HeadLines

/-!
# Streams of responses and events

A response or event is read from the front of a stream as it was written, with its length in the
stream (`Message.parse_serializeAs_append`), and from a part of it nothing is read
(`Message.parse_part`). So reading message after message gives back a whole series of them.
-/

namespace HomeKit.Http

/-- What a response must be like to be read as it was written: its text and its headers stay within
their lines, no header of its own gives a length, and a machine word counts the body. -/
structure Response.Sendable (response : Response) : Prop where
  text : OneLine response.text
  header : ∀ header ∈ response.headers, IsHeader header.1 header.2
  no_length : ∀ header ∈ response.headers, sameName header.1 contentLength = false
  body : response.body.length < UInt64.size

/-- The message that a response is read as, when it was written under the name of a protocol. -/
def Response.sentAs (response : Response) (protocol : Protocol) : Message where
  protocol
  response
  length := (response.serializeAs protocol).length

namespace Message

/-! ## The end of a head -/

theorem splitFrom?_cons {b : UInt8} (h : b ≠ 0x0d) (head rest : Bytes) :
    splitFrom? head (b :: rest) = splitFrom? (b :: head) rest := by
  rw [splitFrom?]
  intro rest' hb
  exact absurd hb h

theorem splitFrom?_append {bytes : Bytes} (h : 0x0d ∉ bytes) (head rest : Bytes) :
    splitFrom? head (bytes ++ rest) = splitFrom? (bytes.reverse ++ head) rest := by
  induction bytes generalizing head with
  | nil => rfl
  | cons b bytes ih =>
    have hb : b ≠ 0x0d := fun e => h (e ▸ List.mem_cons_self)
    rw [List.cons_append, splitFrom?_cons hb, ih fun hbytes => h (List.mem_cons_of_mem b hbytes),
      List.reverse_cons, List.append_assoc, List.singleton_append]

/-- The end of a line is not the end of the head if the next line has a character. -/
theorem splitFrom?_lineEnd {b : UInt8} (h : b ≠ 0x0d) (head rest : Bytes) :
    splitFrom? head (0x0d :: 0x0a :: b :: rest) =
      splitFrom? (0x0a :: 0x0d :: head) (b :: rest) := by
  rw [splitFrom?, splitFrom?_cons (by decide)]
  intro rest' _ hb
  exact h (List.cons.inj (List.cons.inj hb).2).1

theorem splitFrom?_blankLine (head rest : Bytes) :
    splitFrom? head (0x0d :: 0x0a :: 0x0d :: 0x0a :: rest) = some (head.reverse, rest) := by
  rw [splitFrom?]

/-- The head ends with its first blank line. -/
theorem splitFrom?_linesOf {lines : List String} {last : String}
    (hline : ∀ line ∈ lines ++ [last], OneLine line) (hne : ∀ line ∈ lines ++ [last], line ≠ "")
    (head rest : Bytes) :
    splitFrom? head (linesOf (lines ++ [last]) ++ 0x0d :: 0x0a :: rest) =
      some (head.reverse ++ (linesOf lines ++ utf8 last), rest) := by
  induction lines generalizing head with
  | nil =>
    have hlast := (hline last List.mem_cons_self).return_not_mem
    rw [List.nil_append, linesOf_cons, List.append_assoc, splitFrom?_append hlast]
    show splitFrom? _ (0x0d :: 0x0a :: 0x0d :: 0x0a :: rest) = _
    rw [splitFrom?_blankLine, List.reverse_append, List.reverse_reverse]
    rfl
  | cons line lines ih =>
    have hfirst := (hline line List.mem_cons_self).return_not_mem
    have hline' : ∀ more ∈ lines ++ [last], OneLine more :=
      fun more hmore => hline more (List.mem_cons_of_mem line hmore)
    have hne' : ∀ more ∈ lines ++ [last], more ≠ "" :=
      fun more hmore => hne more (List.mem_cons_of_mem line hmore)
    -- the line after this one begins with a character, so that the head goes on
    obtain ⟨b, bytes, hbytes, hb, -⟩ := exists_linesOf_eq_cons (by simp) hline' hne'
    have ih := ih hline' hne' (0x0a :: 0x0d :: ((utf8 line).reverse ++ head))
    rw [hbytes, List.cons_append] at ih
    rw [List.cons_append, linesOf_cons, hbytes, List.append_assoc, splitFrom?_append hfirst]
    show splitFrom? _ (0x0d :: 0x0a :: b :: (bytes ++ 0x0d :: 0x0a :: rest)) = _
    rw [splitFrom?_lineEnd hb, ih, linesOf_cons]
    simp only [List.reverse_cons, List.reverse_append, List.reverse_reverse, List.append_assoc,
      List.cons_append, List.nil_append]

/-- Nothing of the stream is lost but the four bytes of the blank line. -/
theorem length_splitFrom? {head bytes found rest : Bytes}
    (h : splitFrom? head bytes = some (found, rest)) :
    head.length ≤ found.length ∧ found.length + 4 + rest.length = head.length + bytes.length := by
  fun_induction splitFrom? head bytes with
  | case1 head rest' =>
    obtain ⟨rfl, rfl⟩ := Prod.mk.inj (Option.some.inj h)
    simp only [List.length_reverse, List.length_cons]
    omega
  | case2 head b bytes _ ih =>
    have := ih h
    simp only [List.length_cons] at this ⊢
    omega
  | case3 => cases h

/-- What ends a head ends it also when more bytes follow. -/
theorem splitFrom?_more {head bytes found rest : Bytes}
    (h : splitFrom? head bytes = some (found, rest)) (more : Bytes) :
    splitFrom? head (bytes ++ more) = some (found, rest ++ more) := by
  fun_induction splitFrom? head bytes with
  | case1 head rest' =>
    obtain ⟨rfl, rfl⟩ := Prod.mk.inj (Option.some.inj h)
    exact splitFrom?_blankLine head (rest' ++ more)
  | case2 head b bytes hnot ih =>
    rw [List.cons_append, splitFrom?]
    · exact ih h
    · -- the blank line that ends the head is within `bytes`, so that it is not made by what follows
      intro rest' hb hbytes
      have hlength := length_splitFrom? h
      match bytes, hbytes with
      | [], _ | [_], _ | [_, _], _ =>
        simp only [List.length_cons, List.length_nil] at hlength
        omega
      | b₁ :: b₂ :: b₃ :: rest, hbytes =>
        simp only [List.cons_append, List.cons.injEq] at hbytes
        obtain ⟨rfl, rfl, rfl, -⟩ := hbytes
        exact hnot rest hb rfl
  | case3 => cases h

theorem split?_more {part head rest : Bytes} (h : split? part = some (head, rest)) (more : Bytes) :
    split? (part ++ more) = some (head, rest ++ more) :=
  splitFrom?_more h more

end Message

/-! ## One message -/

namespace Response

def statusLine (response : Response) (protocol : Protocol) : String :=
  s!"{protocol.name} {response.status} {response.text}"

/-- What is sent before the blank line, without the end of the line before it. -/
def head (response : Response) (protocol : Protocol) : Bytes :=
  linesOf (response.statusLine protocol ::
    response.headers.map fun header => headerText header.1 header.2) ++
      utf8 (headerText contentLength (toString response.body.length))

theorem headLines_eq (response : Response) (protocol : Protocol) :
    headLines (response.statusLine protocol) response.headers response.body.length =
      (response.statusLine protocol ::
        response.headers.map fun header => headerText header.1 header.2) ++
          [headerText contentLength (toString response.body.length)] := by
  rw [headLines, withLength, List.map_append]
  rfl

theorem serializeAs_eq (response : Response) (protocol : Protocol) :
    response.serializeAs protocol =
      linesOf (headLines (response.statusLine protocol) response.headers response.body.length) ++
        0x0d :: 0x0a :: response.body := by
  have hhead := utf8_head (response.statusLine protocol) response.headers response.body.length
  rw [serializeAs]
  show utf8 _ ++ _ = linesOf _ ++ ([0x0d, 0x0a] ++ response.body)
  rw [← List.append_assoc, ← hhead]
  rfl

theorem length_serializeAs (response : Response) (protocol : Protocol) :
    (response.serializeAs protocol).length =
      (response.head protocol).length + 4 + response.body.length := by
  rw [serializeAs_eq, headLines_eq, linesOf_append, head, linesOf_cons _ []]
  simp only [List.length_append, List.length_cons, linesOf, List.flatMap_nil, List.length_nil]
  omega

theorem statusLine_toList (response : Response) (protocol : Protocol) :
    (response.statusLine protocol).toList = protocol.name.toList ++
      ' ' :: (response.status.toNat.repr.toList ++ ' ' :: response.text.toList) := by
  show ((((protocol.name ++ " ") ++ response.status.toNat.repr) ++ " ") ++ response.text).toList = _
  simp only [String.toList_append, List.append_assoc]
  rfl

theorem statusLine_ne (response : Response) (protocol : Protocol) :
    response.statusLine protocol ≠ "" := by
  intro h
  have hnil := congrArg String.toList h
  rw [statusLine_toList] at hnil
  exact absurd (List.append_eq_nil_iff.1 hnil).2 (List.cons_ne_nil _ _)

theorem Sendable.statusLine_oneLine {response : Response} (h : response.Sendable)
    (protocol : Protocol) : OneLine (response.statusLine protocol) := by
  have hblank : OneLine " " := by decide
  have hname : OneLine protocol.name := by cases protocol <;> decide
  exact (((hname.append hblank).append (oneLine_repr response.status.toNat)).append hblank).append
    h.text

theorem Sendable.headLine {response : Response} (h : response.Sendable) (protocol : Protocol)
    {line : String} (hline : line ∈ headLines (response.statusLine protocol) response.headers
      response.body.length) : OneLine line ∧ line ≠ "" :=
  oneLine_of_mem_headLines h.header (h.statusLine_oneLine protocol)
    (response.statusLine_ne protocol) hline

end Response

namespace Message

theorem statusOf_repr (status : UInt16) : statusOf status.toNat.repr.toList = .ok status := by
  rw [statusOf, Text.decimal?_repr status.toNat_lt]
  simp only [UInt16.ofNat_toNat]

theorem ofFirstLine_statusLine (response : Response) (protocol : Protocol) :
    ofFirstLine (response.statusLine protocol).toList =
      .ok (protocol, { status := response.status, text := response.text }) := by
  have hprotocol : Text.cut? ' ' (response.statusLine protocol).toList =
      some (protocol.name.toList,
        response.status.toNat.repr.toList ++ ' ' :: response.text.toList) := by
    refine Text.cut?_eq_some_iff.2 ⟨?_, response.statusLine_toList protocol⟩
    cases protocol <;> decide
  have hstatus : Text.cut? ' ' (response.status.toNat.repr.toList ++ ' ' :: response.text.toList) =
      some (response.status.toNat.repr.toList, response.text.toList) :=
    Text.cut?_eq_some_iff.2 ⟨fun h => absurd (Text.isDigit_of_mem_repr h) (by decide), rfl⟩
  rw [ofFirstLine, hprotocol]
  simp only [String.ofList_toList, Protocol.ofName_name, hstatus, Option.getD_some, statusOf_repr]
  rfl

section Sent

variable {response : Response} (h : response.Sendable) (protocol : Protocol)

include h in
theorem split?_serializeAs (more : Bytes) :
    split? (response.serializeAs protocol ++ more) =
      some (response.head protocol, response.body ++ more) := by
  have hline : ∀ line ∈ headLines (response.statusLine protocol) response.headers
      response.body.length, OneLine line ∧ line ≠ "" := fun _ hmem => h.headLine protocol hmem
  rw [Response.headLines_eq] at hline
  rw [Response.serializeAs_eq, Response.headLines_eq, List.append_assoc]
  exact splitFrom?_linesOf (fun line hmem => (hline line hmem).1)
    (fun line hmem => (hline line hmem).2) [] (response.body ++ more)

include h in
/-- A head is read as the response, with the length of the body among its headers. -/
theorem ofHead_head :
    ofHead (response.head protocol) = .ok (protocol, { response with
      headers := withLength response.headers response.body.length, body := [] }) := by
  have hline : ∀ line ∈ headLines (response.statusLine protocol) response.headers
      response.body.length, OneLine line ∧ line ≠ "" := fun _ hmem => h.headLine protocol hmem
  rw [Response.headLines_eq] at hline
  obtain ⟨text, htext, hlines⟩ := text?_linesOf
    (fun line hmem => (hline line (List.mem_append_left _ hmem)).1)
    (headerText contentLength (toString response.body.length))
  have hlast := hline _ (List.mem_append_right _ List.mem_cons_self)
  rw [Text.lines_last hlast.1.2 (headerText_toList_ne _ _)] at hlines
  have hall : Text.lines text.toList = (response.statusLine protocol).toList ::
      (withLength response.headers response.body.length).map fun header =>
        (headerText header.1 header.2).toList := by
    rw [hlines, withLength, List.map_append, List.map_cons, List.map_map]
    rfl
  have hheaders : ((withLength response.headers response.body.length).map fun header =>
      (headerText header.1 header.2).toList).filterMap headerOf? =
        withLength response.headers response.body.length :=
    filterMap_headerOf? fun header hheader => isHeader_of_mem_withLength h.header hheader
  rw [ofHead, Response.head, htext]
  simp only [hall, ofFirstLine_statusLine, hheaders]
  rfl

include h in
theorem announcedBody_withLength :
    announcedBody { response with
      headers := withLength response.headers response.body.length, body := [] } =
        response.body.length := by
  have hfind : (withLength response.headers response.body.length).find?
      (fun header => sameName header.1 contentLength) =
        some (contentLength, toString response.body.length) := by
    have hnone : response.headers.find? (fun header => sameName header.1 contentLength) = none :=
      List.find?_eq_none.2 fun header hheader => by simp [h.no_length header hheader]
    rw [withLength, List.find?_append, hnone, Option.none_or]
    exact List.find?_cons_of_pos (sameName_self contentLength)
  rw [announcedBody, Response.header?, hfind]
  exact congrArg (·.getD 0) (bodyLength?_toString h.body)

include h in
theorem filter_withLength :
    (withLength response.headers response.body.length).filter
      (fun header => !sameName header.1 contentLength) = response.headers := by
  have hown : response.headers.filter (fun header => !sameName header.1 contentLength) =
      response.headers :=
    List.filter_eq_self.2 fun header hheader => by simp [h.no_length header hheader]
  rw [withLength, List.filter_append, hown, List.filter_cons_of_neg (by simp), List.filter_nil,
    List.append_nil]

include h in
/-- A message is read once its body is there. -/
theorem parse_of_split? {stream rest : Bytes}
    (hsplit : split? stream = some (response.head protocol, rest)) :
    parse stream = .ok (if rest.length < response.body.length then none else some {
      protocol
      response := { response with body := rest.take response.body.length }
      length := (response.serializeAs protocol).length }) := by
  rw [parse, hsplit]
  simp only [ofHead_head h protocol]
  simp only [Except.map, announcedBody_withLength h, filter_withLength h,
    Response.length_serializeAs]

include h in
/-- A message is read from the front of a stream as it was sent. -/
theorem parse_serializeAs_append (more : Bytes) :
    parse (response.serializeAs protocol ++ more) = .ok (some (response.sentAs protocol)) := by
  rw [parse_of_split? h protocol (split?_serializeAs h protocol more), if_neg, List.take_left]
  · rfl
  · rw [List.length_append]
    omega

include h in
/-- Nothing is read from a part of a message. -/
theorem parse_part {part : Bytes} (hpart : part <+: response.serializeAs protocol)
    (hne : part ≠ response.serializeAs protocol) : parse part = .ok none := by
  obtain ⟨missing, hmissing⟩ := hpart
  cases hsplit : split? part with
  | none => rw [parse, hsplit]
  | some found =>
    obtain ⟨head, rest⟩ := found
    -- the head is whole, so that the missing bytes are missing from the body
    have hwhole := split?_serializeAs h protocol []
    rw [List.append_nil, List.append_nil, ← hmissing, split?_more hsplit missing] at hwhole
    obtain ⟨rfl, hbody⟩ := Prod.mk.inj (Option.some.inj hwhole)
    have hlength : 0 < missing.length := by
      rw [List.length_pos_iff]
      rintro rfl
      exact hne (by rw [← hmissing, List.append_nil])
    have hshort : rest.length < response.body.length := by
      rw [← hbody, List.length_append]
      omega
    rw [parse_of_split? h protocol hsplit, if_pos hshort]

end Sent

/-! ## Series of messages -/

/-- A message takes bytes of the stream. -/
theorem length_drop_of_parse {stream : Bytes} {message : Message}
    (h : parse stream = .ok (some message)) :
    (stream.drop message.length).length < stream.length := by
  suffices hlength : 0 < message.length ∧ message.length ≤ stream.length by
    rw [List.length_drop]
    omega
  unfold parse at h
  split at h
  · cases h
  · rename_i head rest hsplit
    have hlength := (length_splitFrom? hsplit).2
    cases hhead : ofHead head with
    | error error =>
      rw [hhead] at h
      cases h
    | ok found =>
      rw [hhead] at h
      simp only [Except.map, Except.ok.injEq] at h
      split at h
      · cases h
      · obtain rfl := Option.some.inj h
        simp only [List.length_nil] at hlength ⊢
        omega

/-- Reads message after message, each behind the bytes that the one before it takes; the rest of
the stream holds no whole message. -/
def parseAll (stream : Bytes) : Except ParseError (List Message × Bytes) :=
  match h : parse stream with
  | .error error => .error error
  | .ok none => .ok ([], stream)
  | .ok (some message) =>
    have := length_drop_of_parse h
    (parseAll (stream.drop message.length)).map fun (messages, rest) => (message :: messages, rest)
termination_by stream.length
decreasing_by exact this

theorem parseAll_of_some {stream : Bytes} {message : Message}
    (h : parse stream = .ok (some message)) :
    parseAll stream = (parseAll (stream.drop message.length)).map fun (messages, rest) =>
      (message :: messages, rest) := by
  rw [parseAll]
  split
  all_goals
    rename_i hparse
    rw [h] at hparse
    cases hparse
  rfl

/-- The bytes of responses and events, one after the other. -/
def streamOf (series : List (Protocol × Response)) : Bytes :=
  series.flatMap fun sent => sent.2.serializeAs sent.1

variable {series : List (Protocol × Response)}

theorem parse_streamOf (h : ∀ sent ∈ series, sent.2.Sendable) :
    parse (streamOf series) = .ok (series.head?.map fun sent => sent.2.sentAs sent.1) := by
  cases series with
  | nil => rfl
  | cons sent series =>
    exact parse_serializeAs_append (h sent List.mem_cons_self) sent.1 (streamOf series)

theorem parseAll_streamOf (h : ∀ sent ∈ series, sent.2.Sendable) :
    parseAll (streamOf series) = .ok (series.map fun sent => sent.2.sentAs sent.1, []) := by
  induction series with
  | nil =>
    rw [parseAll]
    rfl
  | cons sent series ih =>
    have hrest : (streamOf (sent :: series)).drop (sent.2.sentAs sent.1).length = streamOf series :=
      List.drop_left
    rw [parseAll_of_some (parse_streamOf h), hrest,
      ih fun more hmore => h more (List.mem_cons_of_mem sent hmore)]
    rfl

/-- Every series of responses and events is read back from its stream: what is read first is the
first message as it was sent, with its length in the stream; reading on gives all of them; and of a
message of which bytes are missing nothing is read. -/
theorem series_read_back (h : ∀ sent ∈ series, sent.2.Sendable) :
    parse (streamOf series) = .ok (series.head?.map fun sent => sent.2.sentAs sent.1) ∧
      parseAll (streamOf series) = .ok (series.map fun sent => sent.2.sentAs sent.1, []) ∧
      ∀ sent ∈ series, ∀ part, part <+: sent.2.serializeAs sent.1 →
        part ≠ sent.2.serializeAs sent.1 → parse part = .ok none := by
  refine ⟨parse_streamOf h, parseAll_streamOf h, ?_⟩
  intro sent hsent part hpart hne
  exact parse_part (h sent hsent) sent.1 hpart hne

/-- An event without a text, whose body begins like the end of a head, and a response after it. -/
def mixedSeries : List (Protocol × Response) := [
  (.event, {
    status := 65535
    text := ""
    headers := [("Set", "a: b"), ("Set", "")]
    body := [0x0d, 0x0a, 0x0d, 0x0a, 0x00] }),
  (.response, .ofStatus 470)]

theorem sendable_mixedSeries : ∀ sent ∈ mixedSeries, sent.2.Sendable := by
  have hset : ∀ value : String, Text.trim value = value → OneLine value → IsHeader "Set" value :=
    fun value htrimmed hline => ⟨by decide, htrimmed, by decide, hline, by decide⟩
  intro sent hsent
  simp only [mixedSeries, List.mem_cons, List.not_mem_nil, or_false] at hsent
  rcases hsent with rfl | rfl
  · refine ⟨by decide, ?_, by decide +kernel, by decide⟩
    intro header hheader
    simp only [List.mem_cons, List.not_mem_nil, or_false] at hheader
    rcases hheader with rfl | rfl
    · exact hset _ (by decide) (by decide)
    · exact hset _ (by decide) (by decide)
  · exact ⟨by decide, nofun, nofun, by decide⟩

theorem series_read_back_mixed :
    (∀ sent ∈ mixedSeries, sent.2.Sendable) ∧
      parseAll (streamOf mixedSeries) =
        .ok (mixedSeries.map fun sent => sent.2.sentAs sent.1, []) :=
  ⟨sendable_mixedSeries, (series_read_back sendable_mixedSeries).2.1⟩

end Message

end HomeKit.Http
