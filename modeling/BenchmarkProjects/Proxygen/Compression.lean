import BenchmarkProjects.Proxygen.HTTPMessage

/-!
# Proxygen.Compression

`CodecUtil::prepareMessageForCompression` (CodecUtil.cpp:82-168) turns an `HTTPMessage` into the
header list the HTTP/2 encoder compresses: pseudo-headers first, then the message's own headers
without the HTTP/1.x per-hop ones, then a `Date` header for a response that has none.

* `addHeader_spec`: one visit of the `forEachWithCode` callback appends the header iff it is
  regular (`IsRegular`) and records whether it was a `Date` header. The callback's second test is
  always true once its early return is passed (`addHeader_inner_guard`).
* `forEachWithCode_addHeader`: the whole loop appends exactly the regular headers, in order and
  with repetitions.
* `prepareMessageForCompression_fst`: the headers appended are `P ++ F ++ D`, with `P`, `F`, `D`
  the pseudo-header prefix, regular headers and `Date` suffix written from the description of
  the function rather than from its body.

The encoder reads each header's value through a pointer into the message, at a constant, or into
`temps`; this module reads every value when it is appended. Proxygen.CompressionTemps models the
storage of `temps` and says when the two readings agree.
-/

namespace BenchmarkProjects
namespace Proxygen
namespace CodecUtil

open Compress (Header)

/-- `s_perHopHeaderCodes`: the HTTP/1.x per-hop headers that have no meaning in HTTP/2. -/
def perHopHeaderCodes : List HTTPHeaderCode :=
  [.connection, .host, .keepAlive, .proxyConnection, .transferEncoding, .upgrade,
    .secWebsocketKey, .secWebsocketAccept]

/-- The pseudo-headers of a request (CodecUtil.cpp:86-109). -/
def requestPseudoHeaders (msg : HTTPMessage) : List Header :=
  let allHeaders : List Header :=
    if msg.isEgressWebsocketUpgrade then
      [⟨.colonMethod, ":method", methodToString .CONNECT⟩,
        ⟨.colonProtocol, ":protocol", Headers.kWebsocketString⟩]
    else [⟨.colonMethod, ":method", msg.methodString⟩]
  let allHeaders :=
    if msg.method ≠ some .CONNECT ∨ msg.isEgressWebsocketUpgrade then
      allHeaders ++ [⟨.colonScheme, ":scheme", if msg.isSecure then Headers.kHttps else Headers.kHttp⟩,
        ⟨.colonPath, ":path", msg.url⟩]
    else allHeaders
  let host := msg.headers.getSingleOrEmpty .host
  if host ≠ "" then allHeaders ++ [⟨.colonAuthority, ":authority", host⟩] else allHeaders

/-- The `:status` pseudo-header of any other message (CodecUtil.cpp:111-117). Its text is
appended to `temps`, which the header points into. -/
def statusPseudoHeader (msg : HTTPMessage) (temps : List String) : List Header × List String :=
  let status := if msg.isEgressWebsocketUpgrade then Headers.kStatus200 else toString msg.statusCode
  ([⟨.colonStatus, ":status", status⟩], temps ++ [status])

/-- The callback given to `forEachWithCode` (CodecUtil.cpp:125-160), on the captured
`(allHeaders, hasDateHeader)`. The `DCHECK`s are compiled out of release builds. -/
def addHeader (acc : List Header × Bool) (code : HTTPHeaderCode) (name value : String) :
    List Header × Bool :=
  if code ∈ perHopHeaderCodes ∨ name.isEmpty ∨ name.front = ':' then acc
  else
    let allHeaders :=
      if (!name.isEmpty ∧ name.front ≠ ':') ∧ code ≠ .host then acc.1 ++ [⟨code, name, value⟩]
      else acc.1
    (allHeaders, if code = .date then true else acc.2)

/-- `CodecUtil::prepareMessageForCompression`, with each header's value read when it is appended:
the header list and the strings in `temps` after the call. `formatDateHeader` is the text
`HTTPMessage::formatDateHeader()` gives for the current time. -/
def prepareMessageForCompression (msg : HTTPMessage) (temps : List String)
    (formatDateHeader : String) : List Header × List String :=
  let pseudo :=
    if msg.isRequest then (requestPseudoHeaders msg, temps) else statusPseudoHeader msg temps
  let visited := msg.headers.forEachWithCode addHeader (pseudo.1, false)
  if msg.isResponse ∧ ¬visited.2 then
    (visited.1 ++ [⟨.date, "Date", formatDateHeader⟩], pseudo.2 ++ [formatDateHeader])
  else (visited.1, pseudo.2)

/-! ## The header list as described -/

/-- A visited header that reaches the encoder: its code is not per-hop and its name is neither
empty nor a pseudo-header name. -/
def IsRegular (e : HeaderEntry) : Prop :=
  e.code ∉ perHopHeaderCodes ∧ e.name ≠ "" ∧ e.name.front ≠ ':'

instance : DecidablePred IsRegular := fun _ => inferInstanceAs (Decidable (_ ∧ _))

/-- `P`: for a request, the method (`CONNECT` and `:protocol websocket` for a websocket
upgrade), then scheme and path unless it is a plain `CONNECT`, then the authority from a
single non-empty `Host`; for any other message, the status alone. -/
def expectedPseudoHeaders (msg : HTTPMessage) : List Header :=
  if msg.isRequest then
    (if msg.isEgressWebsocketUpgrade then
        [⟨.colonMethod, ":method", "CONNECT"⟩, ⟨.colonProtocol, ":protocol", "websocket"⟩]
      else [⟨.colonMethod, ":method", msg.methodString⟩]) ++
    (if msg.method = some .CONNECT ∧ msg.isEgressWebsocketUpgrade = false then []
      else [⟨.colonScheme, ":scheme", if msg.isSecure then "https" else "http"⟩,
        ⟨.colonPath, ":path", msg.url⟩]) ++
    (if msg.headers.getSingleOrEmpty .host = "" then []
      else [⟨.colonAuthority, ":authority", msg.headers.getSingleOrEmpty .host⟩])
  else
    [⟨.colonStatus, ":status",
      if msg.isEgressWebsocketUpgrade then "200" else toString msg.statusCode⟩]

/-- `F`: the regular headers of the message, in the order visited and with repetitions. -/
def expectedRegularHeaders (msg : HTTPMessage) : List Header :=
  (msg.headers.entries.filter IsRegular).map HeaderEntry.toHeader

/-- `D`: a `Date` header with the given text, for a response none of whose regular headers is
a `Date` header. -/
def expectedDateHeader (msg : HTTPMessage) (date : String) : List Header :=
  if msg.isResponse ∧ ∀ h ∈ expectedRegularHeaders msg, h.code ≠ .date then
    [⟨.date, "Date", date⟩]
  else []

/-! ## The callback and the loop -/

theorem isEmpty_eq_false_iff (s : String) : s.isEmpty = false ↔ s ≠ "" := by
  rw [ne_eq, ← String.isEmpty_iff, Bool.not_eq_true]

/-- Past the early return, the callback's second test always holds. -/
theorem addHeader_inner_guard {code : HTTPHeaderCode} {name : String}
    (h : ¬(code ∈ perHopHeaderCodes ∨ name.isEmpty ∨ name.front = ':')) :
    (!name.isEmpty ∧ name.front ≠ ':') ∧ code ≠ .host := by
  simp only [not_or, Bool.not_eq_true] at h
  exact ⟨⟨by simp [h.2.1], h.2.2⟩, fun hc => h.1 (hc ▸ by decide)⟩

/-- One visit of the callback. -/
theorem addHeader_spec (acc : List Header) (b : Bool) (e : HeaderEntry) :
    addHeader (acc, b) e.code e.name e.value =
      if IsRegular e then (acc ++ [e.toHeader], b || decide (e.code = .date)) else (acc, b) := by
  by_cases hr : IsRegular e
  · have hg : ¬(e.code ∈ perHopHeaderCodes ∨ e.name.isEmpty ∨ e.name.front = ':') := by
      obtain ⟨h1, h2, h3⟩ := hr
      simp only [not_or, Bool.not_eq_true, isEmpty_eq_false_iff]
      exact ⟨h1, h2, h3⟩
    rw [if_pos hr, addHeader, if_neg hg, if_pos (addHeader_inner_guard hg)]
    by_cases hd : e.code = .date <;> simp [hd, HeaderEntry.toHeader]
  · have hg : e.code ∈ perHopHeaderCodes ∨ e.name.isEmpty ∨ e.name.front = ':' := by
      simp only [IsRegular, not_and_or, not_not, ← isEmpty_eq_false_iff, Bool.not_eq_false] at hr
      exact hr
    rw [if_neg hr, addHeader, if_pos hg]

/-- The whole loop appends the regular headers, and sees a `Date` header iff one of them is. -/
theorem forEachWithCode_addHeader (h : HTTPHeaders) (acc : List Header) (b : Bool) :
    h.forEachWithCode addHeader (acc, b) =
      (acc ++ (h.entries.filter IsRegular).map HeaderEntry.toHeader,
        b || (h.entries.filter IsRegular).any (fun e => decide (e.code = .date))) := by
  obtain ⟨hs⟩ := h
  simp only [HTTPHeaders.forEachWithCode]
  induction hs generalizing acc b with
  | nil => simp
  | cons e hs ih =>
    rw [List.foldl_cons, addHeader_spec]
    by_cases hr : IsRegular e
    · simp [hr, ih, Bool.or_assoc]
    · simp [hr, ih]

/-! ## The whole function -/

theorem pseudoHeaders_eq (msg : HTTPMessage) (temps : List String) :
    (if msg.isRequest then (requestPseudoHeaders msg, temps)
      else statusPseudoHeader msg temps).1 = expectedPseudoHeaders msg := by
  unfold expectedPseudoHeaders requestPseudoHeaders statusPseudoHeader
  cases msg.isRequest
  · simp only [Bool.false_eq_true, if_false, Headers.kStatus200]
  · cases msg.isEgressWebsocketUpgrade <;> by_cases hm : msg.method = some .CONNECT <;>
      by_cases hh : msg.headers.getSingleOrEmpty .host = "" <;>
      simp only [hm, hh, if_true, if_false, ne_eq, not_true_eq_false, not_false_eq_true,
        Bool.false_eq_true, Bool.true_eq_false, true_and, false_and, true_or, or_true, false_or,
        or_false, and_true, and_false, List.nil_append, List.append_nil, List.append_assoc,
        List.singleton_append, List.cons_append, methodToString, Headers.kWebsocketString,
        Headers.kHttps, Headers.kHttp]

theorem pseudoHeaders_temps (msg : HTTPMessage) (temps : List String) :
    (if msg.isRequest then (requestPseudoHeaders msg, temps)
      else statusPseudoHeader msg temps).2 =
      temps ++ ((expectedPseudoHeaders msg).filter (·.code = .colonStatus)).map (·.value) := by
  unfold expectedPseudoHeaders statusPseudoHeader
  cases msg.isRequest
  · simp [Headers.kStatus200]
  · simp only [if_true, List.filter_append, apply_ite (List.filter _), List.filter_cons,
      List.filter_nil]
    simp

theorem any_date_eq_false_iff (hs : List HeaderEntry) :
    (hs.filter IsRegular).any (fun e => decide (e.code = .date)) = false ↔
      ∀ h ∈ (hs.filter IsRegular).map HeaderEntry.toHeader, h.code ≠ .date := by
  rw [List.forall_mem_map]; simp [HeaderEntry.toHeader]

/-- The header list as appended is `P ++ F ++ D`, for every message, `temps` and date text. -/
theorem prepareMessageForCompression_fst (msg : HTTPMessage) (temps : List String)
    (date : String) :
    (prepareMessageForCompression msg temps date).1 =
      expectedPseudoHeaders msg ++ expectedRegularHeaders msg ++ expectedDateHeader msg date := by
  simp only [prepareMessageForCompression, forEachWithCode_addHeader, pseudoHeaders_eq,
    Bool.false_or, expectedDateHeader, expectedRegularHeaders, ← any_date_eq_false_iff]
  cases msg.isResponse <;>
    cases (msg.headers.entries.filter IsRegular).any (fun e => decide (e.code = .date)) <;> simp

/-! ## What the encoder is given -/

theorem expectedPseudoHeaders_name (msg : HTTPMessage) :
    ∀ h ∈ expectedPseudoHeaders msg,
      h.name.front = ':' ∧ h.code ∉ perHopHeaderCodes ∧ h.code ≠ .date := by
  unfold expectedPseudoHeaders
  split
  · simp only [List.forall_mem_append]
    refine ⟨⟨?_, ?_⟩, ?_⟩ <;> split <;>
      simp only [List.forall_mem_cons, List.not_mem_nil, false_imp_iff, imp_true_iff, and_true] <;>
      decide
  · simp only [List.forall_mem_cons, List.not_mem_nil, false_imp_iff, imp_true_iff, and_true]
    decide

theorem expectedPseudoHeaders_ne_nil (msg : HTTPMessage) : expectedPseudoHeaders msg ≠ [] := by
  unfold expectedPseudoHeaders
  split
  · split <;> simp
  · simp

theorem expectedRegularHeaders_name (msg : HTTPMessage) :
    ∀ h ∈ expectedRegularHeaders msg,
      h.name ≠ "" ∧ h.name.front ≠ ':' ∧ h.code ∉ perHopHeaderCodes := by
  simp only [expectedRegularHeaders, List.forall_mem_map, List.mem_filter, decide_eq_true_eq]
  exact fun e ⟨_, hc, hn, hf⟩ => ⟨hn, hf, hc⟩

theorem expectedDateHeader_name (msg : HTTPMessage) (date : String) :
    ∀ h ∈ expectedDateHeader msg date,
      h.name ≠ "" ∧ h.name.front ≠ ':' ∧ h.code ∉ perHopHeaderCodes := by
  unfold expectedDateHeader
  split
  · simp only [List.forall_mem_cons, List.not_mem_nil, false_imp_iff, imp_true_iff, and_true]
    decide
  · simp only [List.not_mem_nil, false_imp_iff, imp_true_iff]

/-- **Pseudo-headers come first.** The list is a non-empty run of headers whose names start with
`:`, then headers whose names are non-empty and do not, as an HTTP/2 header block must be. -/
theorem prepareMessageForCompression_pseudo_first (msg : HTTPMessage) (temps : List String)
    (date : String) :
    ∃ pseudo regular, (prepareMessageForCompression msg temps date).1 = pseudo ++ regular ∧
      pseudo ≠ [] ∧ (∀ h ∈ pseudo, h.name.front = ':') ∧
      ∀ h ∈ regular, h.name ≠ "" ∧ h.name.front ≠ ':' := by
  refine ⟨expectedPseudoHeaders msg, expectedRegularHeaders msg ++ expectedDateHeader msg date,
    by rw [prepareMessageForCompression_fst, List.append_assoc], expectedPseudoHeaders_ne_nil msg,
    fun h hh => (expectedPseudoHeaders_name msg h hh).1, ?_⟩
  simp only [List.forall_mem_append]
  exact ⟨fun h hh => (expectedRegularHeaders_name msg h hh).imp_right And.left,
    fun h hh => (expectedDateHeader_name msg date h hh).imp_right And.left⟩

/-- **No per-hop header reaches the encoder**, and no header with an empty name. -/
theorem prepareMessageForCompression_no_perHop (msg : HTTPMessage) (temps : List String)
    (date : String) :
    (∀ h ∈ (prepareMessageForCompression msg temps date).1, h.code ∉ perHopHeaderCodes) ∧
      ∀ h ∈ (prepareMessageForCompression msg temps date).1, h.name ≠ "" := by
  rw [prepareMessageForCompression_fst]
  simp only [List.forall_mem_append]
  refine ⟨⟨⟨fun h hh => (expectedPseudoHeaders_name msg h hh).2.1,
      fun h hh => (expectedRegularHeaders_name msg h hh).2.2⟩,
      fun h hh => (expectedDateHeader_name msg date h hh).2.2⟩,
    ⟨⟨fun h hh hn => ?_, fun h hh => (expectedRegularHeaders_name msg h hh).1⟩,
      fun h hh => (expectedDateHeader_name msg date h hh).1⟩⟩
  have hf := (expectedPseudoHeaders_name msg h hh).1
  rw [hn] at hf
  exact absurd hf (by decide)

theorem expectedPseudoHeaders_count (msg : HTTPMessage) :
    ((expectedPseudoHeaders msg).map (·.name)).count ":method" = (if msg.isRequest then 1 else 0) ∧
      ((expectedPseudoHeaders msg).map (·.name)).count ":status" =
        (if msg.isRequest then 0 else 1) := by
  unfold expectedPseudoHeaders
  cases msg.isRequest <;>
    simp only [Bool.false_eq_true, if_true, if_false, List.map_append, List.count_append,
      apply_ite (List.map _), apply_ite (List.count _), List.map_cons, List.map_nil] <;>
    simp

/-- Past the prefix no name starts with `:`. -/
theorem regular_date_count (msg : HTTPMessage) (date n : String) (hn : n.front = ':') :
    ((expectedRegularHeaders msg ++ expectedDateHeader msg date).map (·.name)).count n = 0 := by
  rw [List.count_eq_zero]
  simp only [List.mem_map, List.mem_append, not_exists, not_and]
  rintro h (hh | hh) rfl
  · exact (expectedRegularHeaders_name msg h hh).2.1 hn
  · exact (expectedDateHeader_name msg date h hh).2.1 hn

/-- **One `:method` or one `:status`.** A request's list names `:method` once and `:status`
never; any other message's names `:status` once and `:method` never. -/
theorem prepareMessageForCompression_method_status (msg : HTTPMessage) (temps : List String)
    (date : String) :
    ((prepareMessageForCompression msg temps date).1.map (·.name)).count ":method" =
        (if msg.isRequest then 1 else 0) ∧
      ((prepareMessageForCompression msg temps date).1.map (·.name)).count ":status" =
        (if msg.isRequest then 0 else 1) := by
  rw [prepareMessageForCompression_fst, List.append_assoc, List.map_append, List.count_append,
    List.count_append, regular_date_count msg date ":method" rfl,
    regular_date_count msg date ":status" rfl]
  simpa using expectedPseudoHeaders_count msg

/-- **`temps`.** The call appends to `temps` exactly the texts its `:status` header and its added
`Date` header point into, in that order. -/
theorem prepareMessageForCompression_temps (msg : HTTPMessage) (temps : List String)
    (date : String) :
    (prepareMessageForCompression msg temps date).2 =
      temps ++ ((expectedPseudoHeaders msg).filter (·.code = .colonStatus)).map (·.value) ++
        (expectedDateHeader msg date).map (·.value) := by
  simp only [prepareMessageForCompression, forEachWithCode_addHeader, pseudoHeaders_temps,
    Bool.false_or, expectedDateHeader, expectedRegularHeaders, ← any_date_eq_false_iff]
  cases msg.isResponse <;>
    cases (msg.headers.entries.filter IsRegular).any (fun e => decide (e.code = .date)) <;> simp

end CodecUtil
end Proxygen
end BenchmarkProjects
