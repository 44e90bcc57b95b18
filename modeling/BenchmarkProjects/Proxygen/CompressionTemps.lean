import BenchmarkProjects.Proxygen.Compression

/-!
# Proxygen.CompressionTemps

`compress::Header` holds pointers, not strings: the header list `prepareMessageForCompression`
returns points into the message, at constants, and into `temps` for the texts the function makes
itself, the `:status` text and the added `Date` text. `temps` is a `std::vector<std::string>`, and
an `emplace_back` past its capacity moves every string to new storage, leaving the earlier
pointers dangling. The source reserves three slots before the `:status` text "so that emplace
does not resize" (CodecUtil.cpp:111).

`StringVector` is the vector as libstdc++ grows it (`reserve(n)` allocates exactly `n`, a full
`emplace_back` doubles), with a count of storage moves; a pointer into it records the count it was
taken at. `prepareMessageForCompressionStored` is the function on that storage.

* `prepareMessageForCompressionStored_read`: the stored function puts the same strings in `temps`
  as `prepareMessageForCompression`, and reading its headers through their pointers when it
  returns gives that function's header list, unless a Date header is added to a response whose
  `temps` held `s` strings with `s + 1 = max 3 capacity`: then the `:status` pointer dangles, and
  it is the only one that does.
* `prepareMessageForCompressionStored_eq`: everywhere else the headers read are `P ++ F ++ D`.
* `prepareMessageForCompressionStored_status_dangles`: a response with no headers and a `temps`
  holding two strings in storage for two, where the `:status` value is read from freed storage,
  against the comment on `temps.reserve(3)`.
-/

namespace BenchmarkProjects
namespace Proxygen
namespace CodecUtil

open Compress (Header)

/-- `std::vector<std::string>`: the strings, the capacity of the storage, and how many times the
storage has moved. -/
structure StringVector where
  data : List String
  capacity : Nat
  moves : Nat
  size_le : data.length ≤ capacity

/-- A pointer to a header value: a string the message or a constant owns, or slot `index` of
`temps` as it was after `moves` storage moves. -/
inductive ValueRef where
  | external (s : String)
  | temps (index moves : Nat)
  deriving DecidableEq, Repr

namespace StringVector

/-- `reserve(n)`: new storage for exactly `n` strings when there is less. -/
def reserve (v : StringVector) (n : Nat) : StringVector :=
  if h : v.capacity < n then ⟨v.data, n, v.moves + 1, by have := v.size_le; omega⟩ else v

/-- `emplace_back(s)`: in place when there is room, else into new storage for
`size + max size 1` strings. -/
def emplaceBack (v : StringVector) (s : String) : StringVector :=
  if h : v.data.length < v.capacity then
    ⟨v.data ++ [s], v.capacity, v.moves, by rw [List.length_append, List.length_singleton]; omega⟩
  else
    ⟨v.data ++ [s], v.data.length + max v.data.length 1, v.moves + 1,
      by rw [List.length_append, List.length_singleton]; omega⟩

/-- `temps.back()`, as the pointer a header keeps. -/
def backRef (v : StringVector) : ValueRef := .temps (v.data.length - 1) v.moves

@[simp] theorem reserve_data (v : StringVector) (n : Nat) : (v.reserve n).data = v.data := by
  unfold reserve; split <;> rfl

theorem reserve_capacity (v : StringVector) (n : Nat) :
    (v.reserve n).capacity = max v.capacity n := by
  unfold reserve
  split
  · show n = max v.capacity n; omega
  · omega

@[simp] theorem emplaceBack_data (v : StringVector) (s : String) :
    (v.emplaceBack s).data = v.data ++ [s] := by
  unfold emplaceBack; split <;> rfl

theorem emplaceBack_capacity (v : StringVector) (s : String) :
    (v.emplaceBack s).capacity =
      if v.data.length < v.capacity then v.capacity else v.data.length + max v.data.length 1 := by
  unfold emplaceBack; split <;> simp [*]

theorem emplaceBack_moves (v : StringVector) (s : String) :
    (v.emplaceBack s).moves = if v.data.length < v.capacity then v.moves else v.moves + 1 := by
  unfold emplaceBack; split <;> simp [*]

end StringVector

/-- The string a pointer reaches in `temps`, `none` if it dangles. -/
def ValueRef.read (v : StringVector) : ValueRef → Option String
  | .external s => some s
  | .temps i g => if g = v.moves then v.data[i]? else none

/-- A `compress::Header` with its value as a pointer. -/
structure StoredHeader where
  code : HTTPHeaderCode
  name : String
  value : ValueRef

/-- A header whose value lives outside `temps`. -/
def StoredHeader.ofHeader (h : Header) : StoredHeader := ⟨h.code, h.name, .external h.value⟩

/-- The header the encoder reads through the pointer, `none` if it dangles. -/
def StoredHeader.read (v : StringVector) (h : StoredHeader) : Option Header :=
  (h.value.read v).map fun s => ⟨h.code, h.name, s⟩

/-- Lines 86-119 on storage: a request's pseudo-headers point into the message or at constants;
the `:status` header points at the text just placed in `temps`, after `temps.reserve(3)`. -/
def pseudoStored (msg : HTTPMessage) (temps : StringVector) : List StoredHeader × StringVector :=
  if msg.isRequest then ((requestPseudoHeaders msg).map StoredHeader.ofHeader, temps)
  else
    let temps := (temps.reserve 3).emplaceBack
      (if msg.isEgressWebsocketUpgrade then Headers.kStatus200 else toString msg.statusCode)
    ([⟨.colonStatus, ":status", temps.backRef⟩], temps)

/-- `prepareMessageForCompression` on storage. The callback's headers point into the message's
headers; they are the ones `addHeader` appends, after the pseudo-headers. -/
def prepareMessageForCompressionStored (msg : HTTPMessage) (temps : StringVector)
    (formatDateHeader : String) : List StoredHeader × StringVector :=
  let pseudo := pseudoStored msg temps
  let visited := msg.headers.forEachWithCode addHeader ([], false)
  let allHeaders := pseudo.1 ++ visited.1.map StoredHeader.ofHeader
  if msg.isResponse ∧ ¬visited.2 then
    let temps := pseudo.2.emplaceBack formatDateHeader
    (allHeaders ++ [⟨.date, "Date", temps.backRef⟩], temps)
  else (allHeaders, pseudo.2)

/-! ## Pointers into `temps` -/

namespace StringVector

theorem read_backRef_emplaceBack (v : StringVector) (s : String) :
    (v.emplaceBack s).backRef.read (v.emplaceBack s) = some s := by
  simp [backRef, ValueRef.read]

/-- The pointer to the last string survives one more `emplace_back` iff that one has room. -/
theorem read_backRef_emplaceBack_emplaceBack (v : StringVector) (s d : String) :
    (v.emplaceBack s).backRef.read ((v.emplaceBack s).emplaceBack d) =
      if v.data.length + 1 < (v.emplaceBack s).capacity then some s else none := by
  rw [backRef, ValueRef.read, emplaceBack_moves (v.emplaceBack s)]
  simp only [emplaceBack_data, List.length_append, List.length_singleton, Nat.add_sub_cancel]
  split
  · rw [if_pos rfl, List.append_assoc, List.getElem?_append_right (le_refl _), Nat.sub_self]
    rfl
  · rw [if_neg (by omega)]

/-- After `reserve(3)` and one `emplace_back`, a second one moves the storage iff the vector
held `s` strings with `s + 1 = max 3 capacity`. -/
theorem emplaceBack_reserve_three_room (v : StringVector) (s : String) :
    v.data.length + 1 < ((v.reserve 3).emplaceBack s).capacity ↔
      v.data.length + 1 ≠ max 3 v.capacity := by
  have hv := v.size_le
  rw [emplaceBack_capacity, reserve_data, reserve_capacity]
  split <;> omega

end StringVector

@[simp] theorem read_ofHeader (v : StringVector) (h : Header) :
    (StoredHeader.ofHeader h).read v = some h := rfl

theorem read_map_ofHeader (v : StringVector) (l : List Header) :
    (l.map StoredHeader.ofHeader).map (StoredHeader.read v) = l.map some := by
  simp

theorem pseudoStored_of_isRequest {msg : HTTPMessage} (h : msg.isRequest = true)
    (temps : StringVector) :
    pseudoStored msg temps = ((requestPseudoHeaders msg).map StoredHeader.ofHeader, temps) := by
  simp [pseudoStored, h]

theorem pseudoStored_of_not_isRequest {msg : HTTPMessage} (h : msg.isRequest = false)
    (temps : StringVector) :
    pseudoStored msg temps =
      ([⟨.colonStatus, ":status", ((temps.reserve 3).emplaceBack (if msg.isEgressWebsocketUpgrade
          then Headers.kStatus200 else toString msg.statusCode)).backRef⟩],
        (temps.reserve 3).emplaceBack (if msg.isEgressWebsocketUpgrade then Headers.kStatus200
          else toString msg.statusCode)) := by
  simp [pseudoStored, h]

/-- The headers read through their pointers when the function returns: those of
`prepareMessageForCompression`, except for the `:status` header of a response that gets a `Date`
header while `temps` held `s` strings with `s + 1 = max 3 capacity`. -/
theorem read_prepareMessageForCompressionStored (msg : HTTPMessage) (temps : StringVector)
    (date : String) :
    (prepareMessageForCompressionStored msg temps date).2.data =
        (prepareMessageForCompression msg temps.data date).2 ∧
      (prepareMessageForCompressionStored msg temps date).1.map
          (StoredHeader.read (prepareMessageForCompressionStored msg temps date).2) =
        if msg.isResponse = true ∧ (∀ h ∈ expectedRegularHeaders msg, h.code ≠ .date) ∧
            temps.data.length + 1 = max 3 temps.capacity
        then none :: (prepareMessageForCompression msg temps.data date).1.tail.map some
        else (prepareMessageForCompression msg temps.data date).1.map some := by
  unfold prepareMessageForCompressionStored prepareMessageForCompression expectedRegularHeaders
  simp only [forEachWithCode_addHeader, List.nil_append, Bool.false_or, ← any_date_eq_false_iff]
  cases hreq : msg.isRequest
  · rw [pseudoStored_of_not_isRequest hreq]
    simp only [statusPseudoHeader, Bool.false_eq_true, if_false]
    generalize (if msg.isEgressWebsocketUpgrade = true then Headers.kStatus200
      else toString msg.statusCode) = st
    generalize (msg.headers.entries.filter IsRegular).map HeaderEntry.toHeader = reg
    cases hres : msg.isResponse <;>
      cases hd : (msg.headers.entries.filter IsRegular).any (fun e => decide (e.code = .date)) <;>
      simp only [Bool.false_eq_true, Bool.true_eq_false, false_and, and_false, not_true_eq_false,
        not_false_eq_true, and_true, true_and, if_false, if_true, StringVector.emplaceBack_data,
        StringVector.reserve_data, List.map_append, List.map_cons, List.map_nil, read_map_ofHeader,
        StoredHeader.read, StringVector.read_backRef_emplaceBack,
        StringVector.read_backRef_emplaceBack_emplaceBack,
        StringVector.emplaceBack_reserve_three_room, Option.map_some', List.tail_cons]
    -- a `Date` header is added: the `:status` pointer survives iff its `emplace_back` had room
    by_cases hm : temps.data.length + 1 = max 3 temps.capacity <;> simp [hm]
  · have hres : msg.isResponse = false := by simpa [hreq] using msg.not_both
    rw [pseudoStored_of_isRequest hreq]
    simp only [hres, Bool.false_eq_true, false_and, if_false, if_true, List.map_append,
      read_map_ofHeader, and_self]

/-- A response's header list starts with its `:status` header. -/
theorem prepareMessageForCompression_of_isResponse {msg : HTTPMessage}
    (h : msg.isResponse = true) (temps : List String) (date : String) :
    ∃ st rest, (prepareMessageForCompression msg temps date).1 =
      ⟨.colonStatus, ":status", st⟩ :: rest := by
  have hreq : msg.isRequest = false := by simpa [h] using msg.not_both
  rw [prepareMessageForCompression_fst, expectedPseudoHeaders, if_neg (by simp [hreq])]
  exact ⟨_, _, rfl⟩

theorem prepareMessageForCompressionStored_read (msg : HTTPMessage) (temps : StringVector)
    (date : String) :
    (prepareMessageForCompressionStored msg temps date).2.data =
        (prepareMessageForCompression msg temps.data date).2 ∧
      ((prepareMessageForCompressionStored msg temps date).1.map
          (StoredHeader.read (prepareMessageForCompressionStored msg temps date).2) =
          (prepareMessageForCompression msg temps.data date).1.map some ↔
        ¬(msg.isResponse = true ∧ (∀ h ∈ expectedRegularHeaders msg, h.code ≠ .date) ∧
          temps.data.length + 1 = max 3 temps.capacity)) ∧
      (msg.isResponse = true ∧ (∀ h ∈ expectedRegularHeaders msg, h.code ≠ .date) ∧
          temps.data.length + 1 = max 3 temps.capacity →
        ∃ st rest, (prepareMessageForCompression msg temps.data date).1 =
            ⟨.colonStatus, ":status", st⟩ :: rest ∧
          (prepareMessageForCompressionStored msg temps date).1.map
              (StoredHeader.read (prepareMessageForCompressionStored msg temps date).2) =
            none :: rest.map some) := by
  obtain ⟨hdata, hread⟩ := read_prepareMessageForCompressionStored msg temps date
  -- when the `:status` pointer dangles, the list read is the one appended with its head `none`
  refine ⟨hdata, ⟨fun h hc => ?_, fun hc => by rw [hread, if_neg hc]⟩, fun hc => ?_⟩ <;>
    obtain ⟨st, rest, hl⟩ := prepareMessageForCompression_of_isResponse hc.1 temps.data date
  · rw [hread, if_pos hc, hl] at h
    cases h
  · exact ⟨st, rest, hl, by rw [hread, if_pos hc, hl, List.tail_cons]⟩

/-- **The encoder is given `P ++ F ++ D` wherever the pointers survive.** For every message,
every `temps` and every date text, unless a `Date` header is added to a response whose `temps`
held `s` strings with `s + 1 = max 3 capacity`, each header of the list the function returns
reads, through its pointer, as the pseudo-header prefix, then the regular headers in the order
visited, then a `Date` header exactly for a response without a regular one. -/
theorem prepareMessageForCompressionStored_eq (msg : HTTPMessage) (temps : StringVector)
    (date : String)
    (hsurvive : ¬(msg.isResponse = true ∧ (∀ h ∈ expectedRegularHeaders msg, h.code ≠ .date) ∧
      temps.data.length + 1 = max 3 temps.capacity)) :
    (prepareMessageForCompressionStored msg temps date).1.map
        (StoredHeader.read (prepareMessageForCompressionStored msg temps date).2) =
      (expectedPseudoHeaders msg ++ expectedRegularHeaders msg ++
        expectedDateHeader msg date).map some := by
  rw [(read_prepareMessageForCompressionStored msg temps date).2, if_neg hsurvive,
    prepareMessageForCompression_fst]

/-- A `200` response with no headers. -/
def okResponse : HTTPMessage := ⟨false, true, false, "", none, false, "", 200, ⟨[]⟩, by decide⟩

theorem prepareMessageForCompressionStored_eq_fresh :
    ¬(okResponse.isResponse = true ∧
        (∀ h ∈ expectedRegularHeaders okResponse, h.code ≠ .date) ∧
        ([] : List String).length + 1 = max 3 0) ∧
      (prepareMessageForCompressionStored okResponse ⟨[], 0, 0, le_refl _⟩ "Thu").1.map
          (StoredHeader.read
            (prepareMessageForCompressionStored okResponse ⟨[], 0, 0, le_refl _⟩ "Thu").2) =
        (expectedPseudoHeaders okResponse ++ expectedRegularHeaders okResponse ++
          expectedDateHeader okResponse "Thu").map some :=
  have hsurvive : ¬(okResponse.isResponse = true ∧
      (∀ h ∈ expectedRegularHeaders okResponse, h.code ≠ .date) ∧
      ([] : List String).length + 1 = max 3 0) := by decide
  ⟨hsurvive, prepareMessageForCompressionStored_eq okResponse ⟨[], 0, 0, le_refl _⟩ _ hsurvive⟩

/-- The input where the pointer dangles: `okResponse`, with a `temps` that held two strings in
storage for two. `reserve(3)` moves the storage, the status text fills the third slot, and the
`Date` text moves it again: the list is `P ++ F ++ D` by its codes and names, but its `:status`
value is read from freed storage. -/
theorem prepareMessageForCompressionStored_status_dangles :
    expectedPseudoHeaders okResponse ++ expectedRegularHeaders okResponse ++
        expectedDateHeader okResponse "Thu" =
      [⟨.colonStatus, ":status", "200"⟩, ⟨.date, "Date", "Thu"⟩] ∧
    (prepareMessageForCompressionStored okResponse ⟨["", ""], 2, 0, le_refl _⟩ "Thu").1.map
        (StoredHeader.read
          (prepareMessageForCompressionStored okResponse ⟨["", ""], 2, 0, le_refl _⟩ "Thu").2) =
      [none, some ⟨.date, "Date", "Thu"⟩] := by
  decide

end CodecUtil
end Proxygen
end BenchmarkProjects
