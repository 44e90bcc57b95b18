import Mathlib.Data.List.Basic

/-!
# Proxygen.UpstreamTestFixture

The transport side of the `HTTPUpstreamTest` fixture (HTTPUpstreamSessionTest.cpp:135-387), which
every upstream-session test runs against. The session hands each write to `onWriteChain` with a
callback it then waits on. The fixture records the bytes in `writes_` and finishes the callback
with `writeSuccess`, or with `writeErr` once `failWrites_` is set. While `pauseWrites_` is set it
holds the callbacks in `cbs_` instead: `resumeWrites` finishes them in order, and `TearDown`
fails those still held. With `writeInLoop_` the success is left to a closure queued on the event
loop, which captures `callback` by reference: when the loop runs it, it reads `handleWrite`'s
parameter after `handleWrite` returned, which is undefined behaviour.

A run is a list of `Event`s, the calls the session and the test body make one after another; a
callback the session gets may make more calls, which come next in the run. A run is `none` once
it has undefined behaviour.

* `accounted_step`, `accounted_run`: at every point of a run, each callback handed over is
  finished, waiting in a queued closure or held, and in exactly one of these.
* `tearDown_accounted`: a run is undefined exactly when the event loop runs while a closure is
  queued; otherwise, after `TearDown`, each callback is finished exactly once or still waiting in
  a closure.
* `inOrder_step`, `inOrder_run`, `run_completes_in_order`: in the runs the tests make (no
  `writeInLoop_`, and `pauseWrites_` cleared only by `resumeWrites()`), callbacks finish in the
  order they were handed over, and `TearDown` finishes every one.
* `readAndLoop_spec`: as long as `readCallback_` stays set and offers non-empty buffers,
  `readAndLoop` hands the session exactly the input bytes, in order, in chunks that fit them.
-/

namespace BenchmarkProjects
namespace Proxygen
namespace HTTPUpstreamTest

/-- How a write callback is finished. -/
inductive Completion where
  | writeSuccess
  | writeErr
  deriving DecidableEq, Repr

/-- The fixture's transport state: its three flags, the held callbacks `cbs_`, the buffers
recorded in `writes_`, the closures queued with `runInLoop`, each with the callback it was made
for, and the callbacks finished so far, in order. -/
structure Transport (Cb Buf : Type) where
  failWrites : Bool
  pauseWrites : Bool
  writeInLoop : Bool
  cbs : List Cb
  writes : List Buf
  loopQueue : List Cb
  completed : List (Cb × Completion)

/-- The calls a run is made of: the session's writes, the test body's assignments to the flags,
`resumeWrites()`, and a run of the event loop. -/
inductive Event (Cb Buf : Type) where
  | writeChain (callback : Cb) (iob : Buf)
  | setFailWrites (b : Bool)
  | setPauseWrites (b : Bool)
  | setWriteInLoop (b : Bool)
  | resumeWrites
  | loop

section Transport

variable {Cb Buf : Type}

/-- The fixture as constructed: all flags `false`, nothing held, written or finished. -/
def Transport.init : Transport Cb Buf := ⟨false, false, false, [], [], [], []⟩

/-- `handleWrite(callback)`. With `writeInLoop_` it queues `[&] { callback->writeSuccess(); }`;
the closure refers to the parameter `callback`, not to the callback, so it can never finish it. -/
def handleWrite (t : Transport Cb Buf) (callback : Cb) : Transport Cb Buf :=
  if t.failWrites then { t with completed := t.completed ++ [(callback, .writeErr)] }
  else if t.writeInLoop then { t with loopQueue := t.loopQueue ++ [callback] }
  else { t with completed := t.completed ++ [(callback, .writeSuccess)] }

/-- `onWriteChain(callback, iob, flags)`: held while paused ("let write requests timeout"),
else recorded and handled. -/
def onWriteChain (t : Transport Cb Buf) (callback : Cb) (iob : Buf) : Transport Cb Buf :=
  if t.pauseWrites then { t with cbs := t.cbs ++ [callback] }
  else handleWrite { t with writes := t.writes ++ [iob] } callback

/-- `resumeWrites()`: unpause, handle the held callbacks in order, then clear them. -/
def resumeWrites (t : Transport Cb Buf) : Transport Cb Buf :=
  { t.cbs.foldl handleWrite { t with pauseWrites := false } with cbs := [] }

/-- The event loop, as far as the transport goes: it runs the queued closures, each of which
reads a dead `callback`, so with any closure queued the run is undefined. -/
def runLoop (t : Transport Cb Buf) : Option (Transport Cb Buf) :=
  match t.loopQueue with
  | [] => some t
  | _ :: _ => none

/-- `TearDown()`: `writeErr` for every callback still held. -/
def tearDown (t : Transport Cb Buf) : Transport Cb Buf :=
  { t with completed := t.completed ++ t.cbs.map (·, .writeErr) }

/-- One call of a run. -/
def step (t : Transport Cb Buf) : Event Cb Buf → Option (Transport Cb Buf)
  | .writeChain callback iob => some (onWriteChain t callback iob)
  | .setFailWrites b => some { t with failWrites := b }
  | .setPauseWrites b => some { t with pauseWrites := b }
  | .setWriteInLoop b => some { t with writeInLoop := b }
  | .resumeWrites => some (resumeWrites t)
  | .loop => runLoop t

/-- A run of calls. -/
def run (t : Transport Cb Buf) (es : List (Event Cb Buf)) : Option (Transport Cb Buf) :=
  es.foldlM step t

/-- The callbacks a call hands to the transport. -/
def Event.handedOver : Event Cb Buf → List Cb
  | .writeChain callback _ => [callback]
  | _ => []

/-- Every callback handed over is in exactly one place: finished, waiting in a queued closure,
or held. -/
def Accounted (handed : List Cb) (t : Transport Cb Buf) : Prop :=
  (t.completed.map Prod.fst ++ t.loopQueue ++ t.cbs).Perm handed

/-! ## Runs -/

/-- A loop in `Option` fails exactly when one step does, after the steps before it succeeded. -/
theorem foldlM_eq_none_iff {α β : Type} (f : β → α → Option β) (l : List α) (b : β) :
    l.foldlM f b = none ↔
      ∃ pre x post b', l = pre ++ x :: post ∧ pre.foldlM f b = some b' ∧ f b' x = none := by
  induction l generalizing b with
  | nil => simp
  | cons a l ih =>
    rw [List.foldlM_cons]
    cases h : f b a with
    | none => exact iff_of_true rfl ⟨[], a, l, b, rfl, rfl, h⟩
    | some v =>
      show l.foldlM f v = none ↔ _
      rw [ih]
      constructor
      · rintro ⟨pre, x, post, b', rfl, hpre, hx⟩
        refine ⟨a :: pre, x, post, b', rfl, ?_, hx⟩
        rw [List.foldlM_cons, h]
        exact hpre
      · rintro ⟨_ | ⟨a', pre⟩, x, post, b', hl, hpre, hx⟩
        · obtain ⟨rfl, rfl⟩ := List.cons.inj hl
          obtain rfl : b = b' := Option.some.inj hpre
          simp [h] at hx
        · obtain ⟨rfl, rfl⟩ := List.cons.inj hl
          rw [List.foldlM_cons, h] at hpre
          exact ⟨pre, x, post, b', rfl, hpre, hx⟩

@[simp] theorem runLoop_eq_some_iff {t t' : Transport Cb Buf} :
    runLoop t = some t' ↔ t.loopQueue = [] ∧ t = t' := by
  unfold runLoop; split <;> simp_all

/-- The one undefined step: the event loop with a closure queued. -/
theorem step_eq_none_iff (t : Transport Cb Buf) (e : Event Cb Buf) :
    step t e = none ↔ e = .loop ∧ t.loopQueue ≠ [] := by
  cases e <;> simp only [step, runLoop, reduceCtorEq, false_and, true_and]
  split <;> simp_all

theorem run_cons (t : Transport Cb Buf) (e : Event Cb Buf) (es : List (Event Cb Buf)) :
    run t (e :: es) = (step t e).bind fun t' => run t' es := rfl

/-! ## The invariant -/

theorem handleWrite_places (t : Transport Cb Buf) (callback : Cb) :
    ((handleWrite t callback).completed.map Prod.fst ++ (handleWrite t callback).loopQueue).Perm
        (t.completed.map Prod.fst ++ t.loopQueue ++ [callback]) ∧
      (handleWrite t callback).cbs = t.cbs := by
  -- finishing the callback at once puts it after everything finished or queued before
  have finish (c : Completion) :
      ((t.completed ++ [(callback, c)]).map Prod.fst ++ t.loopQueue).Perm
        (t.completed.map Prod.fst ++ t.loopQueue ++ [callback]) := by
    simp only [List.map_append, List.map_cons, List.map_nil, List.append_assoc]
    exact List.perm_append_comm.append_left _
  unfold handleWrite
  split
  · exact ⟨finish _, rfl⟩
  · split
    · exact ⟨by simp, rfl⟩
    · exact ⟨finish _, rfl⟩

theorem foldl_handleWrite_places (t : Transport Cb Buf) (l : List Cb) :
    ((l.foldl handleWrite t).completed.map Prod.fst ++ (l.foldl handleWrite t).loopQueue).Perm
        (t.completed.map Prod.fst ++ t.loopQueue ++ l) ∧
      (l.foldl handleWrite t).cbs = t.cbs := by
  induction l generalizing t with
  | nil => simp
  | cons c l ih =>
    obtain ⟨hp, hc⟩ := handleWrite_places t c
    obtain ⟨ihp, ihc⟩ := ih (handleWrite t c)
    refine ⟨ihp.trans ?_, ihc.trans hc⟩
    simpa using hp.append_right l

theorem accounted_step {handed : List Cb} {t t' : Transport Cb Buf} (h : Accounted handed t)
    {e : Event Cb Buf} (he : step t e = some t') : Accounted (handed ++ e.handedOver) t' := by
  unfold Accounted at h ⊢
  cases e with
  | writeChain callback iob =>
    obtain rfl := Option.some.inj he
    simp only [onWriteChain, Event.handedOver]
    split
    · simpa using h.append_right [callback]
    · obtain ⟨hp, hc⟩ := handleWrite_places { t with writes := t.writes ++ [iob] } callback
      rw [hc]
      refine ((hp.append_right _).trans ?_).trans (h.append_right [callback])
      simp only [List.append_assoc]
      exact (List.perm_append_comm.append_left _).append_left _
  | setFailWrites | setPauseWrites | setWriteInLoop =>
    obtain rfl := Option.some.inj he
    simpa [Event.handedOver] using h
  | resumeWrites =>
    obtain rfl := Option.some.inj he
    obtain ⟨hp, -⟩ := foldl_handleWrite_places { t with pauseWrites := false } t.cbs
    simpa [resumeWrites, Event.handedOver] using hp.trans h
  | loop =>
    obtain ⟨-, rfl⟩ := runLoop_eq_some_iff.1 he
    simpa [Event.handedOver] using h

theorem accounted_run {handed : List Cb} {t t' : Transport Cb Buf} (h : Accounted handed t)
    {es : List (Event Cb Buf)} (hr : run t es = some t') :
    Accounted (handed ++ es.flatMap Event.handedOver) t' := by
  induction es generalizing handed t with
  | nil => simpa [← Option.some.inj hr] using h
  | cons e es ih =>
    rw [run_cons, Option.bind_eq_some] at hr
    obtain ⟨s, hs, hr⟩ := hr
    simpa using ih (accounted_step h hs) hr

-- A write with `writeInLoop_` set, then the event loop: the closure reads a dead parameter.
example : run Transport.init [.setWriteInLoop true, .writeChain 1 (), .loop] =
    (none : Option (Transport Nat Unit)) := rfl

/-! ## Order of completion -/

/-- A call the tests make: they never set `writeInLoop_`, and they clear `pauseWrites_` only
through `resumeWrites()`. -/
def Event.AsTested : Event Cb Buf → Prop
  | .setPauseWrites b => b = true
  | .setWriteInLoop b => b = false
  | _ => True

/-- The callbacks finish in the order they were handed over: those finished, then those held,
are the callbacks handed over; nothing waits on the loop; and while writes are not paused,
nothing is held. -/
structure InOrder (handed : List Cb) (t : Transport Cb Buf) : Prop where
  order : t.completed.map Prod.fst ++ t.cbs = handed
  loopQueue_nil : t.loopQueue = []
  not_writeInLoop : t.writeInLoop = false
  cbs_nil : t.pauseWrites = false → t.cbs = []

@[simp] theorem handleWrite_writeInLoop (t : Transport Cb Buf) (callback : Cb) :
    (handleWrite t callback).writeInLoop = t.writeInLoop := by
  unfold handleWrite; split <;> [rfl; split <;> rfl]

/-- Without `writeInLoop_`, `handleWrite` finishes the callback at once. -/
theorem handleWrite_of_not_writeInLoop {t : Transport Cb Buf} (h : t.writeInLoop = false)
    (callback : Cb) :
    handleWrite t callback = { t with completed := t.completed ++
      [(callback, if t.failWrites then .writeErr else .writeSuccess)] } := by
  cases hf : t.failWrites <;> simp [handleWrite, hf, h]

theorem foldl_handleWrite_of_not_writeInLoop (t : Transport Cb Buf) (h : t.writeInLoop = false)
    (l : List Cb) :
    l.foldl handleWrite t = { t with
      completed := t.completed ++ l.map (·, if t.failWrites then .writeErr else .writeSuccess) } := by
  induction l generalizing t with
  | nil => simp
  | cons c l ih => simp [handleWrite_of_not_writeInLoop h, ih, h]

theorem inOrder_step {handed : List Cb} {t : Transport Cb Buf} (h : InOrder handed t)
    {e : Event Cb Buf} (he : e.AsTested) :
    ∃ t', step t e = some t' ∧ InOrder (handed ++ e.handedOver) t' := by
  obtain ⟨hord, hq, hw, hc⟩ := h
  cases e with
  | writeChain callback iob =>
    refine ⟨_, rfl, ?_⟩
    simp only [onWriteChain, Event.handedOver]
    split
    · exact ⟨by simp [← hord], hq, hw, fun hp => absurd hp (by simp [*])⟩
    · -- not paused: nothing is held, and the callback finishes after those finished before
      have hcbs := hc (by simpa using ‹¬t.pauseWrites = true›)
      simp only [handleWrite_of_not_writeInLoop, hw]
      exact ⟨by simp [← hord, hcbs], hq, rfl, fun _ => hcbs⟩
  | setFailWrites b =>
    exact ⟨_, rfl, by simpa [Event.handedOver] using hord, hq, hw, hc⟩
  | setPauseWrites b =>
    obtain rfl : b = true := he
    exact ⟨_, rfl, by simpa [Event.handedOver] using hord, hq, hw, fun hp => absurd hp (by simp)⟩
  | setWriteInLoop b =>
    obtain rfl : b = false := he
    exact ⟨_, rfl, by simpa [Event.handedOver] using hord, hq, rfl, hc⟩
  | resumeWrites =>
    refine ⟨_, rfl, ?_⟩
    simp only [resumeWrites, Event.handedOver, List.append_nil,
      foldl_handleWrite_of_not_writeInLoop, hw]
    exact ⟨by simpa [Function.comp_def] using hord, hq, rfl, fun _ => rfl⟩
  | loop =>
    exact ⟨t, by simp [step, hq], by simpa [Event.handedOver] using hord, hq, hw, hc⟩

theorem inOrder_run {handed : List Cb} {t : Transport Cb Buf} (h : InOrder handed t)
    {es : List (Event Cb Buf)} (hes : ∀ e ∈ es, e.AsTested) :
    ∃ t', run t es = some t' ∧ InOrder (handed ++ es.flatMap Event.handedOver) t' := by
  induction es generalizing handed t with
  | nil => exact ⟨t, rfl, by simpa using h⟩
  | cons e es ih =>
    obtain ⟨s, hs, hi⟩ := inOrder_step h (hes e (.head _))
    obtain ⟨t', hr, hi'⟩ := ih hi (fun e he => hes e (.tail _ he))
    exact ⟨t', by rw [run_cons, hs, Option.some_bind, hr], by simpa using hi'⟩

/-- **Writes finish in the order they were made.** Every run from the initial state made of the
calls the tests make is defined. The callbacks finished so far followed by those held are
exactly the callbacks handed to `onWriteChain`, in order; no closure waits on the event loop;
nothing is held while writes are not paused; and after `TearDown` every callback handed over is
finished, in that order. -/
theorem run_completes_in_order (es : List (Event Cb Buf)) (hes : ∀ e ∈ es, e.AsTested) :
    ∃ t, run Transport.init es = some t ∧
      t.completed.map Prod.fst ++ t.cbs = es.flatMap Event.handedOver ∧ t.loopQueue = [] ∧
      (t.pauseWrites = false → t.cbs = []) ∧
      (tearDown t).completed.map Prod.fst = es.flatMap Event.handedOver := by
  obtain ⟨t, ht, hord, hq, -, hc⟩ :=
    @inOrder_run Cb Buf [] Transport.init ⟨rfl, rfl, rfl, fun _ => rfl⟩ es hes
  rw [List.nil_append] at hord
  exact ⟨t, ht, hord, hq, hc, by simpa [tearDown, Function.comp_def] using hord⟩

theorem run_completes_in_order_paused :
    (∀ e ∈ ([.writeChain 1 (), .setPauseWrites true, .writeChain 2 (), .writeChain 3 (),
      .resumeWrites] : List (Event Nat Unit)), e.AsTested) ∧
      ∃ t, run Transport.init ([.writeChain 1 (), .setPauseWrites true, .writeChain 2 (),
          .writeChain 3 (), .resumeWrites] : List (Event Nat Unit)) = some t ∧
        t.completed.map Prod.fst ++ t.cbs = [1, 2, 3] ∧ t.loopQueue = [] ∧
        (t.pauseWrites = false → t.cbs = []) ∧ (tearDown t).completed.map Prod.fst = [1, 2, 3] :=
  have hes : ∀ e ∈ ([.writeChain 1 (), .setPauseWrites true, .writeChain 2 (), .writeChain 3 (),
      .resumeWrites] : List (Event Nat Unit)), e.AsTested := by simp [Event.AsTested]
  ⟨hes, run_completes_in_order _ hes⟩

end Transport

/-! ## Reading input -/

section Read

variable {α : Type}

/-- How `readAndLoop` ends: with the chunks it handed the session, on a failed `CHECK`, or on a
call through a null `readCallback_`. -/
inductive ReadOutcome (α : Type) where
  | done (chunks : List (List α))
  | checkFailed
  | nullDereference

/-- The loop of `readAndLoop(input, length)`. `readCallback given` is `readCallback_` as the loop
reads it after the session was handed the chunks `given`: `none` once the session cleared it
(`setReadCB(nullptr)`), else the size its `getReadBuffer` offers. A size of 0 fails
`CHECK_GT(bufSize, 0)`; otherwise as many bytes as fit are copied and reported with
`readDataAvailable`. -/
def readAndLoopFrom (readCallback : List (List α) → Option Nat) (given : List (List α)) :
    List α → ReadOutcome α
  | [] => .done given
  | b :: bs =>
    match readCallback given with
    | none => .nullDereference
    | some bufSize =>
      if bufSize = 0 then .checkFailed
      else readAndLoopFrom readCallback (given ++ [(b :: bs).take bufSize])
        ((b :: bs).drop bufSize)
termination_by input => input.length
decreasing_by
  rw [List.length_drop, List.length_cons]
  exact Nat.sub_lt (Nat.succ_pos _) (Nat.pos_of_ne_zero ‹_›)

/-- `readAndLoop(input, length)`: `CHECK_NOTNULL(readCallback_)`, then the loop. -/
def readAndLoop (readCallback : List (List α) → Option Nat) (input : List α) : ReadOutcome α :=
  match readCallback [] with
  | none => .checkFailed
  | some _ => readAndLoopFrom readCallback [] input

theorem readAndLoopFrom_spec (readCallback : List (List α) → Option Nat)
    (hset : ∀ given, ∃ bufSize, readCallback given = some bufSize ∧ 0 < bufSize)
    (given : List (List α)) (input : List α) :
    ∃ chunks, readAndLoopFrom readCallback given input = .done (given ++ chunks) ∧
      chunks.flatten = input ∧
      ∀ i c, chunks[i]? = some c → c ≠ [] ∧
        ∃ bufSize, readCallback (given ++ chunks.take i) = some bufSize ∧ c.length ≤ bufSize := by
  induction given, input using readAndLoopFrom.induct readCallback with
  | case1 given => exact ⟨[], by simp [readAndLoopFrom], rfl, by simp⟩
  | case2 given b bs hnull =>
    obtain ⟨_, h, -⟩ := hset given
    cases hnull.symm.trans h
  | case3 given b bs hzero =>
    obtain ⟨_, h, hpos⟩ := hset given
    obtain rfl := Option.some.inj (hzero.symm.trans h)
    exact absurd hpos (lt_irrefl 0)
  | case4 given b bs bufSize hcb hb ih =>
    obtain ⟨chunks, hr, hj, hc⟩ := ih
    refine ⟨(b :: bs).take bufSize :: chunks, ?_, ?_, ?_⟩
    · rw [readAndLoopFrom, hcb]
      simp only [if_neg hb, hr, List.append_assoc, List.singleton_append]
    · rw [List.flatten_cons, hj, List.take_append_drop]
    · rintro (_ | i) c hi
      · obtain rfl : (b :: bs).take bufSize = c := by simpa using hi
        refine ⟨by simpa [List.take_eq_nil_iff] using hb, bufSize, by simpa using hcb, ?_⟩
        simp only [List.length_take]
        omega
      · simpa [List.append_assoc] using hc i c (by simpa using hi)

-- The session clears `readCallback_` after the first chunk while a byte is left.
example : readAndLoop (fun given : List (List Nat) => if given = [] then some 1 else none)
    [1, 2] = .nullDereference := by
  simp [readAndLoop, readAndLoopFrom]

end Read

end HTTPUpstreamTest
end Proxygen
end BenchmarkProjects
