import Mathlib.Data.List.Basic
import Mathlib.Tactic.Ring

/-!
# Xla.ScratchBufAllocator

`ScratchBufAllocator` (xla/service/gpu/cudnn_convolution_runner.cc:42-72) wraps the one scratch
allocation XLA made for a cuDNN convolution and hands it out, whole, to the first
`AllocateBytes` that fits. `RunCudnnConvolution` (lines 230-236) builds a fresh one over its
scratch buffer for every convolution; cuDNN may then call `AllocateBytes` any number of times.

The request size is an `int64` (`BitVec 64`) and the region's size an `uint64`: the test
`byte_size > scratch_.size()` converts the request to `uint64`, so a negative request compares as
its value modulo `2^64`.

* `allocateBytes_error_state`: a refused call leaves the allocator as it was.
* `allocateEach_ok_iff`: in a run from a fresh allocator, a call succeeds iff its size fits and
  no earlier size did.
* `allocateEach_spec`: the same in terms of earlier results, with at most one success, the
  refusal of negative sizes when the region is below `2^63` bytes, and the whole region returned.
-/

namespace BenchmarkProjects
namespace Xla

/-- `se::DeviceMemoryBase`: a device address and a size in bytes. -/
structure DeviceMemoryBase where
  ptr : Nat
  size : UInt64
  deriving DecidableEq, Repr

/-- `se::port::Status`, for the errors of this file. -/
inductive Status where
  | internalError (message : String)
  deriving DecidableEq, Repr

/-- `ScratchBufAllocator`: the wrapped region and whether it was handed out. -/
structure ScratchBufAllocator where
  scratch : DeviceMemoryBase
  allocated : Bool
  deriving DecidableEq, Repr

namespace ScratchBufAllocator

/-- `ScratchBufAllocator(scratch)`: `allocated_` starts `false`. -/
def new (scratch : DeviceMemoryBase) : ScratchBufAllocator := ⟨scratch, false⟩

/-- `GetMemoryLimitInBytes`: the `uint64` size returned as an `int64`. -/
def getMemoryLimitInBytes (a : ScratchBufAllocator) : BitVec 64 := a.scratch.size.toBitVec

/-- The error of a call after the region was handed out. -/
def twiceError : Status := .internalError "Can't allocate twice from a ScratchBufAllocator."

/-- The error of a request larger than the region: `absl::StrCat` prints the `int64` request
and the `uint64` size in decimal. -/
def sizeError (byteSize : BitVec 64) (size : UInt64) : Status :=
  .internalError ("Can't allocate " ++ toString byteSize.toInt ++
    " bytes from a ScratchBufAllocator of size " ++ toString size)

/-- `AllocateBytes(stream, byte_size)`: the result and the allocator after the call. The stream
is not read. In `byte_size > scratch_.size()` the `int64` operand is converted to `uint64`. -/
def allocateBytes (a : ScratchBufAllocator) (byteSize : BitVec 64) :
    Except Status DeviceMemoryBase × ScratchBufAllocator :=
  if a.allocated then (.error twiceError, a)
  else if (⟨byteSize⟩ : UInt64) > a.scratch.size then
    (.error (sizeError byteSize a.scratch.size), a)
  else (.ok a.scratch, { a with allocated := true })

/-- Calls `AllocateBytes` with each size in turn and collects the results. -/
def allocateEach : ScratchBufAllocator → List (BitVec 64) → List (Except Status DeviceMemoryBase)
  | _, [] => []
  | a, n :: ns => (a.allocateBytes n).1 :: allocateEach (a.allocateBytes n).2 ns

/-! ## One call -/

/-- A request fits when its size, taken modulo `2^64`, is at most the region's size. -/
def Fits (a : ScratchBufAllocator) (byteSize : BitVec 64) : Prop :=
  byteSize.toNat ≤ a.scratch.size.toNat

instance (a : ScratchBufAllocator) : DecidablePred (Fits a) := fun _ =>
  inferInstanceAs (Decidable (_ ≤ _))

theorem gt_size_iff (a : ScratchBufAllocator) (byteSize : BitVec 64) :
    (⟨byteSize⟩ : UInt64) > a.scratch.size ↔ ¬Fits a byteSize := by
  simp [Fits, UInt64.lt_def, BitVec.lt_def, UInt64.toNat]

theorem allocateBytes_of_allocated {a : ScratchBufAllocator} (h : a.allocated = true)
    (byteSize : BitVec 64) :
    a.allocateBytes byteSize = (.error twiceError, a) := by
  simp [allocateBytes, h]

theorem allocateBytes_of_not_fits {a : ScratchBufAllocator} (h : a.allocated = false)
    {byteSize : BitVec 64} (hf : ¬Fits a byteSize) :
    a.allocateBytes byteSize = (.error (sizeError byteSize a.scratch.size), a) := by
  simp [allocateBytes, h, (gt_size_iff a byteSize).2 hf]

theorem allocateBytes_of_fits {a : ScratchBufAllocator} (h : a.allocated = false)
    {byteSize : BitVec 64} (hf : Fits a byteSize) :
    a.allocateBytes byteSize = (.ok a.scratch, { a with allocated := true }) := by
  have : ¬(⟨byteSize⟩ : UInt64) > a.scratch.size := fun hg => (gt_size_iff a byteSize).1 hg hf
  simp [allocateBytes, h, this]

/-- A refused call leaves the allocator as it was. -/
theorem allocateBytes_error_state (a : ScratchBufAllocator) (byteSize : BitVec 64) (e : Status)
    (h : (a.allocateBytes byteSize).1 = .error e) : (a.allocateBytes byteSize).2 = a := by
  unfold allocateBytes at h ⊢
  split_ifs at h ⊢ <;> simp_all

@[simp] theorem allocateBytes_scratch (a : ScratchBufAllocator) (byteSize : BitVec 64) :
    (a.allocateBytes byteSize).2.scratch = a.scratch := by
  unfold allocateBytes; split_ifs <;> rfl

/-- A success returns the whole region. -/
theorem allocateBytes_ok (a : ScratchBufAllocator) (byteSize : BitVec 64) (m : DeviceMemoryBase)
    (h : (a.allocateBytes byteSize).1 = .ok m) : m = a.scratch := by
  unfold allocateBytes at h
  split_ifs at h
  all_goals simp_all

/-! ## A run of calls -/

@[simp] theorem allocateEach_length (a : ScratchBufAllocator) (ns : List (BitVec 64)) :
    (allocateEach a ns).length = ns.length := by
  induction ns generalizing a with
  | nil => rfl
  | cons n ns ih => simp [allocateEach, ih]

/-- Once the region is handed out, every call is refused. -/
theorem allocateEach_of_allocated {a : ScratchBufAllocator} (h : a.allocated = true)
    (ns : List (BitVec 64)) : allocateEach a ns = ns.map fun _ => .error twiceError := by
  induction ns with
  | nil => rfl
  | cons n ns ih => simp [allocateEach, allocateBytes_of_allocated h, ih]

/-- Every success in a run returns the region the allocator wraps. -/
theorem allocateEach_ok (a : ScratchBufAllocator) (ns : List (BitVec 64)) (m : DeviceMemoryBase)
    (h : Except.ok m ∈ allocateEach a ns) : m = a.scratch := by
  induction ns generalizing a with
  | nil => simp [allocateEach] at h
  | cons n ns ih =>
    rcases List.mem_cons.1 h with h | h
    · exact allocateBytes_ok a n m h.symm
    · simpa using ih _ h

/-- **A run from an unused allocator.** A call succeeds iff its size fits and every earlier call
was refused. -/
theorem allocateEach_ok_iff {a : ScratchBufAllocator} (h : a.allocated = false)
    (ns : List (BitVec 64)) :
    ∀ (i : Nat) (n : BitVec 64) (r : Except Status DeviceMemoryBase),
      ns[i]? = some n → (allocateEach a ns)[i]? = some r →
      (r.isOk = true ↔
        (∀ j < i, ∀ r' : Except Status DeviceMemoryBase,
          (allocateEach a ns)[j]? = some r' → r'.isOk = false) ∧ Fits a n) := by
  induction ns with
  | nil => simp
  | cons m ns ih =>
    intro i n r hn hr
    by_cases hf : Fits a m
    · rw [allocateEach, allocateBytes_of_fits h hf] at hr ⊢
      cases i with
      | zero =>
        simp only [List.getElem?_cons_zero, Option.some.injEq] at hn hr
        subst hn hr
        simp [hf, Except.isOk, Except.toBool]
      | succ k =>
        rw [List.getElem?_cons_succ] at hr
        rw [allocateEach_of_allocated rfl] at hr
        obtain ⟨_, _, rfl⟩ := List.mem_map.1 (List.getElem?_mem hr)
        simp only [Except.isOk, Except.toBool, Bool.false_eq_true, false_iff, not_and]
        intro hall
        simpa [Except.isOk, Except.toBool] using hall 0 (Nat.succ_pos k) _ List.getElem?_cons_zero
    · rw [allocateEach, allocateBytes_of_not_fits h hf] at hr ⊢
      cases i with
      | zero =>
        simp only [List.getElem?_cons_zero, Option.some.injEq] at hn hr
        subst hn hr
        simp [hf, Except.isOk, Except.toBool]
      | succ k =>
        rw [List.getElem?_cons_succ] at hn hr
        rw [ih k n r hn hr, Nat.forall_lt_succ_left]
        simp [Except.isOk, Except.toBool]

theorem size_of_result {a : ScratchBufAllocator} {ns : List (BitVec 64)} {i : Nat}
    {r : Except Status DeviceMemoryBase} (h : (allocateEach a ns)[i]? = some r) :
    ∃ n, ns[i]? = some n := by
  have hi : i < ns.length := by
    rw [← allocateEach_length a]; exact (List.getElem?_eq_some_iff.1 h).1
  exact ⟨ns[i], List.getElem?_eq_getElem hi⟩

/-- From an unused allocator, at most one call of a run succeeds. -/
theorem allocateEach_ok_unique {a : ScratchBufAllocator} (h : a.allocated = false)
    {ns : List (BitVec 64)} {i j : Nat} {r r' : Except Status DeviceMemoryBase}
    (hi : (allocateEach a ns)[i]? = some r) (hj : (allocateEach a ns)[j]? = some r')
    (hr : r.isOk = true) (hr' : r'.isOk = true) : i = j := by
  obtain ⟨n, hn⟩ := size_of_result hi
  obtain ⟨n', hn'⟩ := size_of_result hj
  have earlier_i := ((allocateEach_ok_iff h ns i n r hn hi).1 hr).1
  have earlier_j := ((allocateEach_ok_iff h ns j n' r' hn' hj).1 hr').1
  rcases Nat.lt_trichotomy i j with hij | rfl | hji
  · simp [earlier_j i hij r hi] at hr
  · rfl
  · simp [earlier_i j hji r' hj] at hr'

/-- `int64` to `uint64` keeps the value modulo `2^64`. -/
theorem toInt_emod_two_pow (n : BitVec 64) : n.toInt % 2 ^ 64 = n.toNat := by
  rw [BitVec.toInt_eq_toNat_cond]; split <;> omega

/-- Below `2^63` bytes, no negative request fits. -/
theorem not_fits_of_neg {a : ScratchBufAllocator} (hs : a.scratch.size.toNat < 2 ^ 63)
    {n : BitVec 64} (hn : n.toInt < 0) : ¬Fits a n := by
  rw [BitVec.toInt_eq_toNat_cond] at hn
  unfold Fits
  split at hn <;> omega

/-- **`ScratchBufAllocator` over any run.** From a freshly built allocator over a region of size
`S`, call `i` of any run of `AllocateBytes` returns a buffer iff no earlier call did and its
`int64` size, taken modulo `2^64`, is at most `S`. So at most one call succeeds, a negative size
is refused when `S < 2^63`, a success returns the whole region, and a refused call, from any
state, leaves the allocator unchanged. -/
theorem allocateEach_spec (scratch : DeviceMemoryBase) (ns : List (BitVec 64)) :
    (allocateEach (new scratch) ns).length = ns.length ∧
    (∀ (i : Nat) (n : BitVec 64) (r : Except Status DeviceMemoryBase),
      ns[i]? = some n → (allocateEach (new scratch) ns)[i]? = some r →
      (r.isOk = true ↔
        (∀ j < i, ∀ r' : Except Status DeviceMemoryBase,
          (allocateEach (new scratch) ns)[j]? = some r' → r'.isOk = false) ∧
        n.toInt % 2 ^ 64 ≤ scratch.size.toNat)) ∧
    (∀ (i j : Nat) (r r' : Except Status DeviceMemoryBase),
      (allocateEach (new scratch) ns)[i]? = some r →
      (allocateEach (new scratch) ns)[j]? = some r' → r.isOk = true → r'.isOk = true → i = j) ∧
    (scratch.size.toNat < 2 ^ 63 →
      ∀ (i : Nat) (n : BitVec 64) (r : Except Status DeviceMemoryBase),
        ns[i]? = some n → (allocateEach (new scratch) ns)[i]? = some r → n.toInt < 0 →
        r.isOk = false) ∧
    (∀ m, Except.ok m ∈ allocateEach (new scratch) ns → m = scratch) ∧
    (∀ (a : ScratchBufAllocator) (n : BitVec 64) (e : Status),
      (a.allocateBytes n).1 = .error e → (a.allocateBytes n).2 = a) := by
  have fresh : (new scratch).allocated = false := rfl
  refine ⟨allocateEach_length _ ns, fun i n r hn hr => ?_,
    fun _ _ _ _ hi hj => allocateEach_ok_unique fresh hi hj, fun hs i n r hn hr hneg => ?_,
    fun m hm => allocateEach_ok _ ns m hm, allocateBytes_error_state⟩
  · rw [allocateEach_ok_iff fresh ns i n r hn hr, toInt_emod_two_pow]
    simp only [Fits, new, Int.ofNat_le]
  · have hnf := not_fits_of_neg (a := new scratch) hs hneg
    cases hok : r.isOk
    · rfl
    · exact absurd ((allocateEach_ok_iff fresh ns i n r hn hr).1 hok).2 hnf

/-! ## The allocator without state -/

/-- A run from an unused allocator described without state: each request before the first that
fits is refused with the size error, the first that fits gets the whole region, and every later
one gets the second-call error. -/
def firstFitResults (a : ScratchBufAllocator) :
    List (BitVec 64) → List (Except Status DeviceMemoryBase)
  | [] => []
  | n :: ns =>
    if Fits a n then .ok a.scratch :: ns.map fun _ => .error twiceError
    else .error (sizeError n a.scratch.size) :: firstFitResults a ns

theorem allocateEach_of_unused {a : ScratchBufAllocator} (h : a.allocated = false)
    (ns : List (BitVec 64)) : allocateEach a ns = firstFitResults a ns := by
  induction ns with
  | nil => rfl
  | cons n ns ih =>
    by_cases hf : Fits a n
    · simp [allocateEach, firstFitResults, hf, allocateBytes_of_fits h hf,
        allocateEach_of_allocated]
    · simp [allocateEach, firstFitResults, hf, allocateBytes_of_not_fits h hf, ih]

/-- **The allocator refines its stateless description**: every run of `AllocateBytes` from a
freshly built allocator returns, call by call, the results and error texts of `firstFitResults`. -/
theorem allocateEach_eq_firstFitResults (scratch : DeviceMemoryBase) (ns : List (BitVec 64)) :
    allocateEach (new scratch) ns = firstFitResults (new scratch) ns :=
  allocateEach_of_unused rfl ns

/-- The allocator after a run from an unused one: used iff some request fitted. -/
theorem foldl_allocateBytes_of_unused {a : ScratchBufAllocator} (h : a.allocated = false)
    (ns : List (BitVec 64)) :
    ns.foldl (fun a n => (a.allocateBytes n).2) a = ⟨a.scratch, decide (∃ n ∈ ns, Fits a n)⟩ := by
  have hused : ∀ (b : ScratchBufAllocator), b.allocated = true → ∀ ms : List (BitVec 64),
      ms.foldl (fun a n => (a.allocateBytes n).2) b = b := by
    intro b hb ms
    induction ms with
    | nil => rfl
    | cons m ms ih => simp [allocateBytes_of_allocated hb, ih]
  induction ns generalizing a with
  | nil => cases a; simp_all
  | cons n ns ih =>
    by_cases hf : Fits a n
    · simp [allocateBytes_of_fits h hf, hused { a with allocated := true } rfl, hf]
    · simp [allocateBytes_of_not_fits h hf, ih h, hf]

/-- **The allocator's state over a run.** After any run from a freshly built allocator, the
region is unchanged and marked handed out iff some request fitted. -/
theorem allocateBytes_run_state (scratch : DeviceMemoryBase) (ns : List (BitVec 64)) :
    ns.foldl (fun a n => (a.allocateBytes n).2) (new scratch) =
      ⟨scratch, decide (∃ n ∈ ns, n.toNat ≤ scratch.size.toNat)⟩ :=
  foldl_allocateBytes_of_unused rfl ns

end ScratchBufAllocator

end Xla
end BenchmarkProjects
