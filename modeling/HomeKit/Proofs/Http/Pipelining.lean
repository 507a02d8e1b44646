import HomeKit.Proofs.Http.HeadLines
import HomeKit.Proofs.Http.ReadingHeads

/-!
# Pipelined requests

A reader that takes the bytes of a request keeps those of its head up to the blank line
(`RequestReader.feed_linesOf`, `RequestReader.feed_blankLine`), takes the first line and the headers
from them (`Request.ofHead_headLines`), and then exactly the bytes of the body
(`RequestReader.feed_enterBody`). So a request is read from the front of any stream as it was sent,
with the true length of its body (`Request.feed_serialize`), and nothing behind it is touched.

Reads that follow one another on a stream therefore give the requests that were sent, one after the
other, in whatever segments the bytes arrive (`pipelined_read_back`).
-/

namespace HomeKit.Http

open Std (ExtTreeMap)

variable {order : HeaderOrder}

namespace RequestReader

/-! ## Reading a head -/

theorem feed_line {line : String} (hline : OneLine line) (hne : line ≠ "") {bytes : Bytes}
    (hlength : bytes.length + (utf8 line).length + 2 ≤ maxHead) (more : Bytes) :
    (inHead order bytes).feed (utf8 line ++ 0x0d :: 0x0a :: more) =
      (inHead order (bytes ++ utf8 line ++ [0x0d, 0x0a])).feed more := by
  have hrun : (0x0a : UInt8) ∉ utf8 line ++ [0x0d] := by
    simp [hline.lineFeed_not_mem]
  have hblank : ¬ IsBlankLine (utf8 line ++ [0x0d] ++ [0x0a]) := by
    rintro (hfeed | hreturn)
    · have hlonger := congrArg List.length hfeed
      simp at hlonger
    · rw [List.append_assoc] at hreturn
      exact utf8_ne_nil hne (List.append_left_eq_self.1 hreturn)
  have hkept : (inHead order bytes).feed (utf8 line ++ [0x0d] ++ [0x0a] ++ more) =
      (inHead order (bytes ++ (utf8 line ++ [0x0d] ++ [0x0a]))).feed more :=
    feed_wholeLine hrun hblank
      (by simp only [List.length_append, List.length_singleton]; omega) more
  simpa only [List.append_assoc, List.cons_append, List.nil_append] using hkept

theorem feed_linesOf {lines : List String} (hline : ∀ line ∈ lines, OneLine line)
    (hne : ∀ line ∈ lines, line ≠ "") {bytes : Bytes}
    (hlength : bytes.length + (linesOf lines).length ≤ maxHead) (more : Bytes) :
    (inHead order bytes).feed (linesOf lines ++ more) =
      (inHead order (bytes ++ linesOf lines)).feed more := by
  induction lines generalizing bytes with
  | nil =>
    show (inHead order bytes).feed more = (inHead order (bytes ++ [])).feed more
    rw [List.append_nil]
  | cons line lines ih =>
    rw [linesOf_cons, List.length_append, List.length_cons, List.length_cons] at hlength
    rw [linesOf_cons, List.append_assoc, List.cons_append, List.cons_append,
      feed_line (hline line List.mem_cons_self) (hne line List.mem_cons_self) (by omega),
      ih (fun more hmore => hline more (List.mem_cons_of_mem line hmore))
        (fun more hmore => hne more (List.mem_cons_of_mem line hmore))]
    · simp only [List.append_assoc, List.cons_append, List.nil_append]
    · simp only [List.length_append, List.length_cons, List.length_nil]
      omega

/-- The head ends with the blank line after its lines. -/
theorem feed_blankLine {lines : List String} (h : lines ≠ [])
    (hlength : (linesOf lines).length + 2 ≤ maxHead) (more : Bytes) :
    (inHead order (linesOf lines)).feed (0x0d :: 0x0a :: more) =
      (finishHead order (linesOf lines ++ [0x0d, 0x0a])).feed more := by
  obtain ⟨bytes, hbytes⟩ := exists_linesOf_eq_append h
  have hends : linesOf lines = (bytes ++ [0x0d]) ++ [0x0a] := by
    rw [hbytes, List.append_assoc]
    rfl
  have hblank : IsBlankLine [0x0d, 0x0a] := .inr rfl
  rw [hends] at hlength ⊢
  exact feed_blank hblank (bytes ++ [0x0d]) more (by rw [List.length_append]; exact hlength)

/-! ## Reading a body -/

theorem feed_body (request : Request) {bytes : Bytes} {missing : Nat}
    (h : bytes.length = missing + 1) (read more : Bytes) :
    (RequestReader.body request read missing).feed (bytes ++ more) =
      (.request { request with body := read.reverse ++ bytes }, more) := by
  induction missing generalizing bytes read with
  | zero =>
    obtain ⟨b, rfl⟩ := List.length_eq_one_iff.1 h
    rw [List.singleton_append, feed, push, List.reverse_cons]
  | succ missing ih =>
    obtain ⟨b, bytes, rfl⟩ := List.exists_cons_of_length_eq_add_one h
    have hpush : (RequestReader.body request read (missing + 1)).push b =
        .more (.body request (b :: read) missing) := rfl
    rw [List.cons_append, feed_cons hpush, ih (Nat.succ.inj h), List.reverse_cons,
      List.append_assoc, List.singleton_append]

/-- A body of the announced length is taken whole, and nothing behind it. -/
theorem feed_enterBody {request : Request} {body : Bytes}
    (h : request.announcedBody order = .ok body.length) (more : Bytes) :
    (enterBody order request).feed (body ++ more) = (.request { request with body }, more) := by
  rw [enterBody, h]
  cases body with
  | nil => rfl
  | cons b body =>
    have hlength : (b :: body).length = body.length + 1 := rfl
    exact feed_body request hlength [] more

end RequestReader

namespace Request

/-! ## Requests as they are sent -/

/-- The requests that are made of a target, headers and a body. -/
inductive Built : Request → Prop
  | ofTarget (method : Method) (target : String) : Built (.ofTarget method target)
  | withHeader {request : Request} (name value : String) :
    Built request → Built (request.withHeader name value)
  | withBody {request : Request} (body : Bytes) : Built request → Built { request with body }

/-- What a request must be like to be read as it was sent: a target that is one word, headers that
stay within their lines, a head and a body within the limits. -/
structure Sendable (request : Request) : Prop where
  target_ne : request.target ≠ ""
  target_word : ∀ c ∈ request.target.toList, Text.isBlank c = false
  header : ∀ header ∈ request.headers.toList, IsHeader header.1 header.2
  head : request.serialize.length ≤ RequestReader.maxHead + request.body.length
  body : request.body.length ≤ maxBody

/-- The headers that are sent, without the length of the body. -/
def sentHeaders (request : Request) : List (String × String) :=
  request.headers.toList.filter fun header => !sameName header.1 contentLength

/-- A request as it is read: the length of its body takes the place of any that it was given. -/
def received (request : Request) : Request :=
  { request with
    headers := (request.headers.filter fun name _ => !sameName name contentLength).insert
      contentLength (toString request.body.length) }

def requestLine (request : Request) : String :=
  s!"{request.method.name} {request.target} HTTP/1.1"

variable {request : Request}

theorem target_ofTarget (method : Method) (target : String) :
    (ofTarget method target).target = target := by
  unfold ofTarget
  split
  · rename_i path query hcut
    have htarget := (Text.cut?_eq_some_iff.1 hcut).2
    apply String.toList_inj.1
    show ((String.ofList path ++ "?") ++ String.ofList query).toList = target.toList
    simp only [htarget, String.toList_append, String.toList_ofList, List.append_assoc]
    rfl
  · rfl

/-- Path and query are what the target is cut into. -/
theorem Built.ofTarget_target (h : request.Built) :
    Request.ofTarget request.method request.target =
      { method := request.method, path := request.path, query := request.query } := by
  induction h with
  | ofTarget method target =>
    rw [target_ofTarget]
    unfold Request.ofTarget
    split <;> rfl
  | withHeader name value _ ih => exact ih
  | withBody body _ ih => exact ih

theorem serialize_eq (request : Request) :
    request.serialize =
      linesOf (headLines request.requestLine request.sentHeaders request.body.length) ++
        0x0d :: 0x0a :: request.body := by
  have hfirst : s!"{request.method.name} {request.target} HTTP/1.1\r\n" =
      request.requestLine ++ "\r\n" := by
    have hend : " HTTP/1.1\r\n" = " HTTP/1.1" ++ "\r\n" := rfl
    show ((request.method.name ++ " ") ++ request.target) ++ " HTTP/1.1\r\n" = _
    rw [hend, ← String.append_assoc]
    rfl
  have hhead := utf8_head request.requestLine request.sentHeaders request.body.length
  rw [serialize, hfirst]
  show utf8 _ ++ _ = linesOf _ ++ ([0x0d, 0x0a] ++ request.body)
  rw [← List.append_assoc, ← hhead]
  rfl

theorem requestLine_toList (request : Request) :
    request.requestLine.toList = request.method.name.toList ++
      ' ' :: (request.target.toList ++ ' ' :: "HTTP/1.1".toList) := by
  show (((request.method.name ++ " ") ++ request.target) ++ " HTTP/1.1").toList = _
  simp only [String.toList_append, List.append_assoc]
  rfl

theorem requestLine_ne (request : Request) : request.requestLine ≠ "" := by
  intro h
  have hnil := congrArg String.toList h
  rw [requestLine_toList] at hnil
  exact absurd (List.append_eq_nil_iff.1 hnil).2 (List.cons_ne_nil _ _)

namespace Sendable

variable (h : request.Sendable)
include h

theorem requestLine_oneLine : OneLine request.requestLine := by
  have hblank : OneLine " " := by decide
  have hversion : OneLine " HTTP/1.1" := by decide
  have hmethod : OneLine request.method.name := by cases request.method <;> decide
  have htarget : OneLine request.target :=
    ⟨fun hmem => absurd (h.target_word _ hmem) (by decide),
      fun hmem => absurd (h.target_word _ hmem) (by decide)⟩
  exact ((hmethod.append hblank).append htarget).append hversion

theorem sentHeader : ∀ header ∈ request.sentHeaders, IsHeader header.1 header.2 :=
  fun header hheader => h.header header ((List.mem_filter.1 hheader).1)

theorem headLine {line : String}
    (hline : line ∈ headLines request.requestLine request.sentHeaders request.body.length) :
    OneLine line ∧ line ≠ "" :=
  oneLine_of_mem_headLines h.sentHeader h.requestLine_oneLine request.requestLine_ne hline

theorem ofFirstLine_requestLine :
    ofFirstLine request.requestLine.toList = .ok (ofTarget request.method request.target) := by
  have hwords : Text.words request.requestLine.toList =
      [request.method.name.toList, request.target.toList, "HTTP/1.1".toList] := by
    have hmethod : ∀ c ∈ request.method.name.toList, Text.isBlank c = false :=
      Text.not_isBlank_of_any (by cases request.method <;> decide)
    have hmethod_ne : request.method.name.toList ≠ [] := by cases request.method <;> decide
    have htarget_ne : request.target.toList ≠ [] := fun hnil =>
      h.target_ne (String.toList_eq_nil_iff.1 hnil)
    rw [requestLine_toList, Text.words_append hmethod hmethod_ne (by decide),
      Text.words_append h.target_word htarget_ne (by decide),
      Text.words_of_not_isBlank (Text.not_isBlank_of_any (by decide)) (by decide)]
  rw [ofFirstLine, hwords]
  simp only [String.ofList_toList, Method.ofName_name]
  rfl

end Sendable

theorem foldl_addLine (request : Request) (lines : List (List Char)) :
    lines.foldl addLine request = (lines.filterMap headerOf?).foldl
      (fun request header => request.withHeader header.1 header.2) request := by
  induction lines generalizing request with
  | nil => rfl
  | cons line lines ih =>
    rw [List.foldl_cons, ih, addLine]
    cases hline : headerOf? line with
    | none => rw [List.filterMap_cons_none hline]
    | some header => rw [List.filterMap_cons_some hline, List.foldl_cons]

theorem foldl_withHeader (request : Request) (headers : List (String × String)) :
    headers.foldl (fun request header => request.withHeader header.1 header.2) request =
      { request with headers := request.headers.insertMany headers } := by
  induction headers generalizing request with
  | nil => rw [List.foldl_nil, ExtTreeMap.insertMany_nil]
  | cons header headers ih =>
    rw [List.foldl_cons, ih, ExtTreeMap.insertMany_cons]
    rfl

theorem insertMany_toList (headers : ExtTreeMap String String) :
    (∅ : ExtTreeMap String String).insertMany headers.toList = headers := by
  apply ExtTreeMap.ext_getElem?
  intro name
  cases hname : headers[name]? with
  | some value =>
    exact ExtTreeMap.getElem?_insertMany_list_of_mem Std.ReflCmp.compare_self
      ExtTreeMap.distinct_keys_toList (ExtTreeMap.mem_toList_iff_getElem?_eq_some.2 hname)
  | none =>
    have hkeys : (headers.toList.map Prod.fst).contains name = false := by
      rw [ExtTreeMap.map_fst_toList_eq_keys, ← Bool.not_eq_true, List.contains_iff_mem,
        ExtTreeMap.mem_keys, ExtTreeMap.mem_iff_isSome_getElem?, hname]
      exact Bool.false_ne_true
    rw [ExtTreeMap.getElem?_insertMany_list_of_contains_eq_false hkeys, ExtTreeMap.getElem?_empty]

theorem sentHeaders_eq (request : Request) :
    request.sentHeaders =
      (request.headers.filter fun name _ => !sameName name contentLength).toList :=
  (ExtTreeMap.toList_filter (f := fun name _ => !sameName name contentLength)).symm

theorem headers_received (request : Request) :
    (∅ : ExtTreeMap String String).insertMany (withLength request.sentHeaders request.body.length) =
      request.received.headers := by
  rw [withLength, sentHeaders_eq, ExtTreeMap.insertMany_append, insertMany_toList,
    ExtTreeMap.insertMany_list_singleton]
  rfl

/-- No header that is received gives another length than the true one. -/
theorem eq_of_mem_received {header : String × String}
    (h : header ∈ request.received.headers.toList)
    (hsame : sameName header.1 contentLength = true) :
    header = (contentLength, toString request.body.length) := by
  have hvalue := ExtTreeMap.mem_toList_iff_getElem?_eq_some.1 h
  by_cases hname : header.1 = contentLength
  · rw [received, hname, ExtTreeMap.getElem?_insert_self] at hvalue
    exact Prod.ext hname (Option.some.inj hvalue).symm
  · -- a header of another spelling was not sent
    rw [received, ExtTreeMap.getElem?_insert, if_neg fun heq => hname
      (Std.LawfulEqCmp.eq_of_compare heq).symm] at hvalue
    have hmem := ExtTreeMap.mem_toList_iff_getElem?_eq_some.2 hvalue
    rw [ExtTreeMap.toList_filter, List.mem_filter, hsame] at hmem
    exact absurd hmem.2 Bool.false_ne_true

/-- The true length is found in any order. -/
theorem header?_received (request : Request) (order : HeaderOrder) :
    request.received.header? contentLength order = some (toString request.body.length) := by
  have hlength : (contentLength, toString request.body.length) ∈ request.received.headers.toList :=
    ExtTreeMap.mem_toList_iff_getElem?_eq_some.2 ExtTreeMap.getElem?_insert_self
  refine header?_of_agree (fun header hheader hsame => ?_) ⟨_, hlength, sameName_self _⟩
  rw [eq_of_mem_received hheader hsame]

theorem announcedBody_received (h : request.body.length ≤ maxBody) (order : HeaderOrder)
    (body : Bytes) :
    announcedBody order { request.received with body } = .ok request.body.length := by
  have hheader : header? { request.received with body } contentLength order =
      some (toString request.body.length) := request.header?_received order
  have hlength : request.body.length < UInt64.size := Nat.lt_of_le_of_lt h (by decide)
  unfold announcedBody
  rw [hheader]
  simp only [bodyLength?_toString hlength]
  rw [if_neg (by omega)]

/-- A head is read as the request, without its body. -/
theorem ofHead_headLines (hbuilt : request.Built) (h : request.Sendable) :
    ofHead (linesOf (headLines request.requestLine request.sentHeaders request.body.length) ++
      [0x0d, 0x0a]) = .ok { request.received with body := [] } := by
  obtain ⟨text, htext, hlines⟩ := text?_linesOf (fun line hmem => (h.headLine hmem).1) "\r\n"
  -- the blank line at the end is one line more, and no header
  have hall : Text.lines text.toList = request.requestLine.toList ::
      ((withLength request.sentHeaders request.body.length).map (fun header =>
        (headerText header.1 header.2).toList) ++ [[]]) := by
    rw [hlines, headLines, List.map_cons, List.map_map]
    rfl
  have hheaders : ((withLength request.sentHeaders request.body.length).map
      (fun header : String × String => (headerText header.1 header.2).toList) ++ [[]]).filterMap
        headerOf? = withLength request.sentHeaders request.body.length := by
    rw [List.filterMap_append,
      filterMap_headerOf? fun header hheader => isHeader_of_mem_withLength h.sentHeader hheader]
    exact List.append_nil _
  have hblank : utf8 "\r\n" = [0x0d, 0x0a] := rfl
  rw [ofHead, ← hblank, htext]
  simp only [hall, h.ofFirstLine_requestLine, hbuilt.ofTarget_target]
  simp only [Except.map, foldl_addLine, hheaders, foldl_withHeader, headers_received]
  rfl

open RequestReader in
/-- A request is read from the front of a stream, and nothing behind it, in whatever order its
headers are looked at. -/
theorem feed_serialize (hbuilt : request.Built) (h : request.Sendable) (order : HeaderOrder)
    (more : Bytes) :
    (start order).feed (request.serialize ++ more) = (.request request.received, more) := by
  have hsize := h.head
  rw [serialize_eq, List.length_append, List.length_cons, List.length_cons] at hsize
  rw [serialize_eq, List.append_assoc]
  show (inHead order []).feed _ = _
  rw [feed_linesOf (fun line hmem => (h.headLine hmem).1) (fun line hmem => (h.headLine hmem).2)
      (by simp only [List.length_nil]; omega), List.nil_append,
    List.cons_append, List.cons_append, feed_blankLine (headLines_ne_nil _ _ _) (by omega),
    finishHead,
    ofHead_headLines hbuilt h]
  exact feed_enterBody (announcedBody_received h.body order []) more

end Request

/-! ## Successive reads -/

/-- What is still to be read of a stream: the bytes that arrived and were not looked at yet, and the
segments that will arrive before the stream ends; an empty one brings nothing. -/
structure Incoming where
  arrived : Bytes := []
  coming : List Bytes := []

def Incoming.bytes (incoming : Incoming) : Bytes :=
  incoming.arrived ++ incoming.coming.flatten

/-- What a read gives if nothing follows: no request if the stream ends between requests. -/
def ReadProgress.outcome : ReadProgress → Except Error (Option Request)
  | .request found => .ok (some found)
  | .failed error => .error error
  | .more reader =>
    match reader.endError? with
    | some error => .error error
    | none => .ok none

/-- Reads on, segment after segment, up to the end of a request, a failure or the end of the
stream. -/
def RequestReader.readOn (reader : RequestReader) (arrived : Bytes) (coming : List Bytes) :
    Except Error (Option Request) × Incoming :=
  match reader.feed arrived, coming with
  | (.more reader, _), segment :: coming => reader.readOn segment coming
  | (progress, arrived), coming => (progress.outcome, { arrived, coming })

/-- What so many reads give, one after the other; each looks at headers in an order of its own. -/
def reads : (count : Nat) → (orders : Nat → HeaderOrder) → Incoming →
    List (Except Error (Option Request))
  | 0, _, _ => []
  | count + 1, orders, incoming =>
    let (outcome, incoming) :=
      (RequestReader.start (orders 0)).readOn incoming.arrived incoming.coming
    outcome :: reads count (fun read => orders (read + 1)) incoming

/-- Reading does not depend on the segments in which the bytes arrive. -/
theorem RequestReader.readOn_eq (reader : RequestReader) (arrived : Bytes) (coming : List Bytes) :
    (reader.readOn arrived coming).1 = (reader.feed (arrived ++ coming.flatten)).1.outcome ∧
      (reader.readOn arrived coming).2.bytes = (reader.feed (arrived ++ coming.flatten)).2 := by
  induction coming generalizing reader arrived with
  | nil =>
    rw [List.flatten_nil, List.append_nil]
    unfold readOn
    cases reader.feed arrived with
    | mk progress rest => cases progress <;> exact ⟨rfl, List.append_nil rest⟩
  | cons segment coming ih =>
    rw [List.flatten_cons, feed_append]
    unfold readOn
    cases reader.feed arrived with
    | mk progress rest =>
      cases progress with
      | more next => exact ih next segment
      | request request => exact ⟨rfl, rfl⟩
      | failed error => exact ⟨rfl, rfl⟩

theorem readFrom_of_feed {reader : RequestReader} {bytes rest : Bytes} {request : Request}
    (h : reader.feed bytes = (.request request, rest)) (orders : Nat → HeaderOrder)
    (done : List Request) :
    reader.readFrom orders done bytes =
      (RequestReader.start (orders (done.length + 1))).readFrom orders (request :: done) rest := by
  induction bytes generalizing reader with
  | nil => cases h
  | cons b bytes ih =>
    rw [RequestReader.feed] at h
    rw [RequestReader.readFrom]
    cases hpush : reader.push b with
    | more next =>
      rw [hpush] at h
      exact ih h
    | request found =>
      rw [hpush] at h
      cases h
      rfl
    | failed error =>
      rw [hpush] at h
      cases h

section Pipelined

variable {requests : List Request}
  (h : ∀ request ∈ requests, request.Built ∧ request.Sendable)
include h

/-- The requests are read one after the other, and then the stream is at its end. -/
theorem reads_flatMap (orders : Nat → HeaderOrder) {incoming : Incoming}
    (hbytes : incoming.bytes = requests.flatMap Request.serialize) :
    reads (requests.length + 1) orders incoming =
      requests.map (fun request => .ok (some request.received)) ++ [.ok none] := by
  induction requests generalizing orders incoming with
  | nil =>
    have houtcome :=
      ((RequestReader.start (orders 0)).readOn_eq incoming.arrived incoming.coming).1
    rw [show incoming.arrived ++ incoming.coming.flatten = [] from hbytes] at houtcome
    show [((RequestReader.start (orders 0)).readOn incoming.arrived incoming.coming).1] = _
    rw [houtcome]
    rfl
  | cons request requests ih =>
    obtain ⟨hbuilt, hsendable⟩ := h request List.mem_cons_self
    have hfeed : (RequestReader.start (orders 0)).feed
        (incoming.arrived ++ incoming.coming.flatten) =
          (.request request.received, requests.flatMap Request.serialize) := by
      rw [← request.feed_serialize hbuilt hsendable (orders 0)]
      exact congrArg _ hbytes
    obtain ⟨houtcome, hrest⟩ :=
      (RequestReader.start (orders 0)).readOn_eq incoming.arrived incoming.coming
    rw [hfeed] at houtcome hrest
    show ((RequestReader.start (orders 0)).readOn incoming.arrived incoming.coming).1 ::
      reads (requests.length + 1) _ _ = _
    rw [houtcome, ih (fun more hmore => h more (List.mem_cons_of_mem request hmore)) _ hrest]
    rfl

theorem readFrom_flatMap (orders : Nat → HeaderOrder) (done : List Request) :
    (RequestReader.start (orders done.length)).readFrom orders done
        (requests.flatMap Request.serialize) =
      (done.reverse ++ requests.map Request.received, none) := by
  induction requests generalizing done with
  | nil =>
    rw [List.map_nil, List.append_nil]
    rfl
  | cons request requests ih =>
    obtain ⟨hbuilt, hsendable⟩ := h request List.mem_cons_self
    have ih := ih (fun more hmore => h more (List.mem_cons_of_mem request hmore))
      (request.received :: done)
    rw [List.length_cons] at ih
    rw [List.flatMap_cons, readFrom_of_feed (request.feed_serialize hbuilt hsendable _ _), ih,
      List.reverse_cons, List.append_assoc]
    rfl

/-- Requests that are sent one after the other are read back one after the other, in whatever
segments their bytes arrive and in whatever orders their headers are looked at: each with its
method, path, query and body, and with its headers and the true length of its body; and then there
is none. -/
theorem pipelined_read_back {segments : List Bytes} (orders : Nat → HeaderOrder)
    (hsegments : segments.flatten = requests.flatMap Request.serialize) :
    reads (requests.length + 1) orders { coming := segments } =
        requests.map (fun request => .ok (some request.received)) ++ [.ok none] ∧
      readRequests segments.flatten orders = (requests.map Request.received, none) := by
  refine ⟨reads_flatMap h orders hsegments, ?_⟩
  rw [readRequests, hsegments]
  exact readFrom_flatMap h orders []

end Pipelined

/-- A request that was given a wrong length, and whose body looks like the end of a head and another
request. -/
def misleadingRequest : Request :=
  { ((Request.ofTarget .post "/pairings?a=b?c").withHeader "content-length" "999").withHeader
      "Host" "a b" with
    body := [0x0d, 0x0a, 0x0d, 0x0a] ++ (Request.ofTarget .put "/").serialize }

theorem misleadingRequest_headers :
    misleadingRequest.headers.toList = [("Host", "a b"), ("content-length", "999")] := by
  decide +kernel

theorem sendable_misleadingRequest : misleadingRequest.Built ∧ misleadingRequest.Sendable := by
  refine ⟨.withBody _ (.withHeader _ _ (.withHeader _ _ (.ofTarget _ _))), by decide +kernel,
    Text.not_isBlank_of_any (by decide +kernel), ?_, ?_, by decide +kernel⟩
  · rw [misleadingRequest_headers]
    intro header hheader
    simp only [List.mem_cons, List.not_mem_nil, or_false] at hheader
    rcases hheader with rfl | rfl
    · exact ⟨by decide, by decide, by decide, by decide, by decide⟩
    · exact ⟨by decide, by decide, by decide, by decide, by decide⟩
  · have hhost : sameName "Host" contentLength = false := by decide +kernel
    have hlength : sameName "content-length" contentLength = true := sameName_iff.2 (by decide)
    have hsent : misleadingRequest.sentHeaders = [("Host", "a b")] := by
      rw [Request.sentHeaders, misleadingRequest_headers, List.filter_cons_of_pos (by simp [hhost]),
        List.filter_cons_of_neg (by simp [hlength]), List.filter_nil]
    rw [Request.serialize_eq, hsent]
    decide +kernel

theorem sendable_accessories :
    (Request.ofTarget .get "/accessories").Built ∧
      (Request.ofTarget .get "/accessories").Sendable :=
  ⟨.ofTarget _ _, by decide +kernel, Text.not_isBlank_of_any (by decide +kernel), nofun,
    by decide +kernel, by decide +kernel⟩

def twoRequests : List Request :=
  [misleadingRequest, .ofTarget .get "/accessories"]

theorem sendable_twoRequests : ∀ request ∈ twoRequests, request.Built ∧ request.Sendable := by
  intro request hrequest
  simp only [twoRequests, List.mem_cons, List.not_mem_nil, or_false] at hrequest
  rcases hrequest with rfl | rfl
  · exact sendable_misleadingRequest
  · exact sendable_accessories

theorem pipelined_read_back_two :
    (∀ request ∈ twoRequests, request.Built ∧ request.Sendable) ∧
      (chunks 7 (twoRequests.flatMap Request.serialize)).flatten =
        twoRequests.flatMap Request.serialize ∧
      ∀ orders : Nat → HeaderOrder,
        reads (twoRequests.length + 1) orders
            { coming := chunks 7 (twoRequests.flatMap Request.serialize) } =
          [.ok (some misleadingRequest.received),
            .ok (some (Request.ofTarget .get "/accessories").received), .ok none] := by
  have hsegments := flatten_chunks (n := 7) (by decide) (twoRequests.flatMap Request.serialize)
  exact ⟨sendable_twoRequests, hsegments,
    fun orders => (pipelined_read_back sendable_twoRequests orders hsegments).1⟩

end HomeKit.Http
