import Mathlib.Data.String.Basic

/-!
# Proxygen.AcceptEncoding

`CodecUtil::hasGzipAndDeflate` (CodecUtil.cpp:61-79) reads an `Accept-Encoding` value through
`RFC2616::parseQvalues` into a thread-local buffer and reports whether both `gzip` and `deflate`
are accepted. The buffer survives from one call to the next on the same thread, so a call is a
step on a state: the two flags passed by reference and the buffer. `parseQvalues` is not under
src/, so everything below holds for every function in its place.

* `foldl_encodingStep_flag`: the loop sets a flag iff some pair names its coding with a q-value
  of at least 0.001, whatever the flag was before.
* `hasGzipAndDeflate_eq_run`: a call depends on `value` only, not on the state it starts from.
* `hasGzipAndDeflate_spec`: the flags, the result, and their independence from earlier calls and
  from the order of the parsed pairs.
-/

namespace BenchmarkProjects
namespace Proxygen

namespace RFC2616

/-- `RFC2616::TokenQPair`: a token of the header value and its q-value, a `double`. -/
abbrev TokenQPair := String × Float

end RFC2616

namespace CodecUtil

open RFC2616 (TokenQPair)

/-- What a call reads and writes besides `value`: the flags passed by reference and the calling
thread's `folly::ThreadLocal` buffer `output`. -/
structure GzipDeflateState where
  hasGzip : Bool
  hasDeflate : Bool
  output : List TokenQPair

/-- One pass of the loop over the parsed pairs (CodecUtil.cpp:68-77). `::tolower` in the C locale
is `Char.toLower`: it maps `A`-`Z` and leaves every other character alone. -/
def encodingStep (s : GzipDeflateState) (encodingQ : TokenQPair) : GzipDeflateState :=
  let lower := encodingQ.1.toLower
  if lower = "gzip" ∧ encodingQ.2 ≥ 0.001 then { s with hasGzip := true }
  else if lower = "deflate" ∧ encodingQ.2 ≥ 0.001 then { s with hasDeflate := true }
  else s

section

variable (parseQvalues : String → List TokenQPair → Bool × List TokenQPair)

/-- `CodecUtil::hasGzipAndDeflate`, given `RFC2616::parseQvalues(value, output)`, which appends
what it parses to `output` and reports success. Returns the result and the state after the call. -/
def hasGzipAndDeflate (value : String) (s : GzipDeflateState) : Bool × GzipDeflateState :=
  let s := { s with output := [] }
  let s := { s with hasGzip := false, hasDeflate := false }
  let s := { s with output := (parseQvalues value s.output).2 }
  let s := s.output.foldl encodingStep s
  (s.hasGzip && s.hasDeflate, s)

/-- The pairs `parseQvalues` produces for `value` from an empty buffer. -/
def parsedPairs (value : String) : List TokenQPair := (parseQvalues value []).2

end

/-- Some pair names the coding `enc`, ignoring ASCII case, with a q-value of at least 0.001. -/
def Accepts (enc : String) (l : List TokenQPair) : Prop :=
  ∃ p ∈ l, p.1.toLower = enc ∧ p.2 ≥ 0.001

instance (enc : String) : DecidablePred (Accepts enc) := fun _ =>
  inferInstanceAs (Decidable (∃ _ ∈ _, _))

/-! ## One pass and the whole loop -/

@[simp] theorem encodingStep_output (s : GzipDeflateState) (p : TokenQPair) :
    (encodingStep s p).output = s.output := by
  simp only [encodingStep]; split_ifs <;> rfl

@[simp] theorem encodingStep_hasGzip (s : GzipDeflateState) (p : TokenQPair) :
    (encodingStep s p).hasGzip = (s.hasGzip || decide (p.1.toLower = "gzip" ∧ p.2 ≥ 0.001)) := by
  simp only [encodingStep]; split_ifs <;> simp_all

@[simp] theorem encodingStep_hasDeflate (s : GzipDeflateState) (p : TokenQPair) :
    (encodingStep s p).hasDeflate =
      (s.hasDeflate || decide (p.1.toLower = "deflate" ∧ p.2 ≥ 0.001)) := by
  simp only [encodingStep]
  split_ifs with hg hd
  · have : p.1.toLower ≠ "deflate" := by rw [hg.1]; decide
    simp [this]
  · simp [hd]
  · simp_all

/-- A flag the loop only ever sets, on the pairs satisfying `P`, ends up set iff it was set
before or some pair satisfies `P`. -/
theorem foldl_encodingStep_flag (flag : GzipDeflateState → Bool) (P : TokenQPair → Prop)
    [DecidablePred P] (hstep : ∀ s p, flag (encodingStep s p) = (flag s || decide (P p)))
    (l : List TokenQPair) (s : GzipDeflateState) :
    flag (l.foldl encodingStep s) = true ↔ flag s = true ∨ ∃ p ∈ l, P p := by
  induction l generalizing s with
  | nil => simp
  | cons p l ih => simp [ih, hstep, or_assoc]

theorem foldl_encodingStep_output (l : List TokenQPair) (s : GzipDeflateState) :
    (l.foldl encodingStep s).output = s.output := by
  induction l generalizing s with
  | nil => rfl
  | cons p l ih => simp [ih]

theorem accepts_of_perm {l l' : List TokenQPair} (h : l.Perm l') (enc : String) :
    Accepts enc l ↔ Accepts enc l' := by
  simp only [Accepts, h.mem_iff]

/-! ## A call -/

section

variable (parseQvalues : String → List TokenQPair → Bool × List TokenQPair)

/-- The loop run from cleared flags over the pairs `l`, with `l` in the buffer. -/
def scanPairs (l : List TokenQPair) : GzipDeflateState := l.foldl encodingStep ⟨false, false, l⟩

/-- A call clears the flags and the buffer, then runs the loop over the freshly parsed pairs: the
state it starts from plays no part. -/
theorem hasGzipAndDeflate_eq_run (value : String) (s : GzipDeflateState) :
    hasGzipAndDeflate parseQvalues value s =
      ((scanPairs (parsedPairs parseQvalues value)).hasGzip &&
          (scanPairs (parsedPairs parseQvalues value)).hasDeflate,
        scanPairs (parsedPairs parseQvalues value)) := rfl

theorem hasGzipAndDeflate_hasGzip (value : String) (s : GzipDeflateState) :
    (hasGzipAndDeflate parseQvalues value s).2.hasGzip = true ↔
      Accepts "gzip" (parsedPairs parseQvalues value) := by
  rw [hasGzipAndDeflate_eq_run, scanPairs,
    foldl_encodingStep_flag (·.hasGzip) (fun p => p.1.toLower = "gzip" ∧ p.2 ≥ 0.001) (by simp)]
  simp [Accepts]

theorem hasGzipAndDeflate_hasDeflate (value : String) (s : GzipDeflateState) :
    (hasGzipAndDeflate parseQvalues value s).2.hasDeflate = true ↔
      Accepts "deflate" (parsedPairs parseQvalues value) := by
  rw [hasGzipAndDeflate_eq_run, scanPairs,
    foldl_encodingStep_flag (·.hasDeflate) (fun p => p.1.toLower = "deflate" ∧ p.2 ≥ 0.001)
      (by simp)]
  simp [Accepts]

/-- **`hasGzipAndDeflate`.** From any state, whatever earlier calls on the thread left in the
buffer and in the flags, a call sets `hasGzip` iff some parsed pair names `gzip` (any ASCII case)
with a q-value of at least 0.001, and `hasDeflate` likewise for `deflate`, and returns their
conjunction. So calls from different states agree, and so do parsers whose pairs are the same up
to order. -/
theorem hasGzipAndDeflate_spec (value : String) (s : GzipDeflateState) :
    ((hasGzipAndDeflate parseQvalues value s).2.hasGzip = true ↔
        Accepts "gzip" (parsedPairs parseQvalues value)) ∧
      ((hasGzipAndDeflate parseQvalues value s).2.hasDeflate = true ↔
        Accepts "deflate" (parsedPairs parseQvalues value)) ∧
      (hasGzipAndDeflate parseQvalues value s).1 =
        ((hasGzipAndDeflate parseQvalues value s).2.hasGzip &&
          (hasGzipAndDeflate parseQvalues value s).2.hasDeflate) ∧
      (∀ s', hasGzipAndDeflate parseQvalues value s' = hasGzipAndDeflate parseQvalues value s) ∧
      (∀ parseQvalues' : String → List TokenQPair → Bool × List TokenQPair,
        (parsedPairs parseQvalues' value).Perm (parsedPairs parseQvalues value) →
          (hasGzipAndDeflate parseQvalues' value s).1 = (hasGzipAndDeflate parseQvalues value s).1 ∧
          (hasGzipAndDeflate parseQvalues' value s).2.hasGzip =
            (hasGzipAndDeflate parseQvalues value s).2.hasGzip ∧
          (hasGzipAndDeflate parseQvalues' value s).2.hasDeflate =
            (hasGzipAndDeflate parseQvalues value s).2.hasDeflate) := by
  refine ⟨hasGzipAndDeflate_hasGzip parseQvalues value s,
    hasGzipAndDeflate_hasDeflate parseQvalues value s, rfl, fun _ => rfl, fun p' hp => ?_⟩
  have hg : (hasGzipAndDeflate p' value s).2.hasGzip =
      (hasGzipAndDeflate parseQvalues value s).2.hasGzip := by
    rw [Bool.eq_iff_iff, hasGzipAndDeflate_hasGzip, hasGzipAndDeflate_hasGzip,
      accepts_of_perm hp]
  have hd : (hasGzipAndDeflate p' value s).2.hasDeflate =
      (hasGzipAndDeflate parseQvalues value s).2.hasDeflate := by
    rw [Bool.eq_iff_iff, hasGzipAndDeflate_hasDeflate, hasGzipAndDeflate_hasDeflate,
      accepts_of_perm hp]
  have hr : ∀ q, (hasGzipAndDeflate q value s).1 =
      ((hasGzipAndDeflate q value s).2.hasGzip && (hasGzipAndDeflate q value s).2.hasDeflate) :=
    fun _ => rfl
  exact ⟨by rw [hr p', hr parseQvalues, hg, hd], hg, hd⟩
/-- **The thread's buffer after a call** holds exactly the pairs parsed from that call's value,
with the flags that call computed; nothing of an earlier call survives in it. -/
theorem hasGzipAndDeflate_state (value : String) (s : GzipDeflateState) :
    (hasGzipAndDeflate parseQvalues value s).2 =
      ⟨decide (Accepts "gzip" (parsedPairs parseQvalues value)),
        decide (Accepts "deflate" (parsedPairs parseQvalues value)),
        parsedPairs parseQvalues value⟩ := by
  have hg := hasGzipAndDeflate_hasGzip parseQvalues value s
  have hd := hasGzipAndDeflate_hasDeflate parseQvalues value s
  have ho : (hasGzipAndDeflate parseQvalues value s).2.output = parsedPairs parseQvalues value :=
    foldl_encodingStep_output _ _
  revert hg hd ho
  generalize (hasGzipAndDeflate parseQvalues value s).2 = t
  obtain ⟨g, d, o⟩ := t
  rintro hg hd rfl
  congr
  · rw [Bool.eq_iff_iff, hg, decide_eq_true_iff]
  · rw [Bool.eq_iff_iff, hd, decide_eq_true_iff]

end

end CodecUtil
end Proxygen
end BenchmarkProjects
