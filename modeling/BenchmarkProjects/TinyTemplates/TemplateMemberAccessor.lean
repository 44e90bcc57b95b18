import Mathlib.Data.List.Basic

/-!
# TinyTemplates.TemplateMemberAccessor

`TemplateMemberAccessor.GetMember` (src/unnamed/part_000) reads a member path from the object on
top of the model stack: each member is a public instance property, found by reflection ignoring
case, and read with `GetValue(r, null)`. A value is `null` or an object with its properties, and
a property is what `GetValue` does with it: return a value, or throw because it has no getter,
because its getter throws, or because it is an indexer. The exceptions reflection and the stack
throw are the constructors of `Exception`; the `ArgumentException`s keep their messages.

Which property names `IgnoreCase` takes for a member name is the runtime's culture-invariant
comparison, which is not under src/: it is the parameter `nameMatches`.

* `foldlM_eq_error_iff`: the loop throws exactly what its first failing step throws.
* `getMember_eq_argument_iff`: an `ArgumentException` comes from the first member of the path
  that fails, and its message tells the two causes apart: the source's message naming a member
  the object reached has no property for, or `GetValue`'s message for a property with no getter.
-/

namespace BenchmarkProjects
namespace TinyTemplates

/-- The exceptions `GetMember` can end with. -/
inductive Exception where
  /-- `Stack<object>.Peek` on an empty stack. -/
  | invalidOperation
  /-- `r.GetType()` on `null`. -/
  | nullReference
  /-- `GetProperty` when two properties match ignoring case. -/
  | ambiguousMatch
  /-- `new ArgumentException(message)`. -/
  | argument (message : String)
  /-- `GetValue` when the getter throws: its exception, wrapped. -/
  | targetInvocation
  /-- `GetValue` with no index on an indexer. -/
  | targetParameterCount
  deriving DecidableEq, Repr

mutual

/-- A .NET value as `GetMember` reads it: `null`, or an object with its public instance
properties, by name. -/
inductive Value where
  | null
  | obj (properties : List (String × Getter))

/-- A property as `GetValue(r, null)` reads it. -/
inductive Getter where
  /-- A getter that returns `v`. -/
  | get (v : Value)
  /-- A write-only property. -/
  | noGetter
  /-- A getter that throws. -/
  | throws
  /-- An indexer, which needs an index. -/
  | indexed

end

/-- The message of `GetValue` on a property with no getter. -/
def getMethodNotFound : String := "Property get method not found."

/-- `mi.GetValue(r, null)`. -/
def Getter.getValue : Getter → Except Exception Value
  | .get v => .ok v
  | .noGetter => .error (.argument getMethodNotFound)
  | .throws => .error .targetInvocation
  | .indexed => .error .targetParameterCount

/-- The message of the `ArgumentException` for a member with no property. -/
def missingMessage (memberName : String) : String :=
  "The property '" ++ memberName ++ "' does not exist."

section

variable (nameMatches : String → String → Bool)

/-- `GetProperty(memberName, BindingFlags.IgnoreCase | ...)`: the property whose name the runtime
takes for `memberName` ignoring case, `none` when there is none. -/
def getProperty (properties : List (String × Getter)) (memberName : String) :
    Except Exception (Option Getter) :=
  match properties.filter (fun p => nameMatches memberName p.1) with
  | [] => .ok none
  | [p] => .ok (some p.2)
  | _ => .error .ambiguousMatch

/-- One iteration of the loop: `memberName` read on `r`. -/
def getMemberStep (r : Value) (memberName : String) : Except Exception Value :=
  match r with
  | .null => .error .nullReference
  | .obj properties =>
    match getProperty nameMatches properties memberName with
    | .error e => .error e
    | .ok none => .error (.argument (missingMessage memberName))
    | .ok (some g) => g.getValue

/-- `TemplateMemberAccessor`: the member path its constructor stores. -/
structure TemplateMemberAccessor where
  memberPath : List String

/-- `GetMember(model)`: the top of the model stack, then each member of the path in turn. -/
def TemplateMemberAccessor.getMember (a : TemplateMemberAccessor) (model : List Value) :
    Except Exception Value :=
  match model with
  | [] => .error .invalidOperation
  | r :: _ => a.memberPath.foldlM (getMemberStep nameMatches) r

end

/-! ## The loop -/

section

variable {α β ε : Type}

@[simp] theorem except_ok_bind {γ : Type} (v : β) (f : β → Except ε γ) :
    (Except.ok v >>= f) = f v := rfl

@[simp] theorem except_error_bind {γ : Type} (e : ε) (f : β → Except ε γ) :
    (Except.error e >>= f) = .error e := rfl

/-- A loop in `Except` throws `e` exactly when one step does, after the steps before it
succeeded. -/
theorem foldlM_eq_error_iff (f : β → α → Except ε β) (l : List α) (b : β) (e : ε) :
    l.foldlM f b = .error e ↔
      ∃ pre x post b', l = pre ++ x :: post ∧ pre.foldlM f b = .ok b' ∧ f b' x = .error e := by
  induction l generalizing b with
  | nil => simp [pure, Except.pure]
  | cons a l ih =>
    simp only [List.foldlM_cons, List.cons_eq_append_iff]
    cases h : f b a with
    | error e' =>
      simp only [except_error_bind, Except.error.injEq]
      constructor
      · rintro rfl
        exact ⟨[], a, l, b, .inl ⟨rfl, rfl⟩, rfl, h⟩
      · rintro ⟨pre, x, post, b', (⟨rfl, hl⟩ | ⟨pre', rfl, -⟩), hpre, hx⟩
        · obtain ⟨rfl, -⟩ := List.cons.inj hl
          cases hpre
          exact Except.error.inj (h.symm.trans hx)
        · simp [h] at hpre
    | ok v =>
      rw [except_ok_bind, ih]
      constructor
      · rintro ⟨pre, x, post, b', rfl, hpre, hx⟩
        exact ⟨a :: pre, x, post, b', .inr ⟨pre, rfl, rfl⟩, by simpa [h] using hpre, hx⟩
      · rintro ⟨pre, x, post, b', (⟨rfl, hl⟩ | ⟨pre', rfl, rfl⟩), hpre, hx⟩
        · obtain ⟨rfl, -⟩ := List.cons.inj hl
          cases hpre
          cases h.symm.trans hx
        · exact ⟨pre', x, post, b', rfl, by simpa [h] using hpre, hx⟩

end

/-! ## `GetMember` -/

section

variable (nameMatches : String → String → Bool)

theorem getProperty_eq_error {properties : List (String × Getter)} {m : String} {e : Exception}
    (h : getProperty nameMatches properties m = .error e) : e = .ambiguousMatch := by
  unfold getProperty at h
  split at h
  · cases h
  · cases h
  · exact (Except.error.inj h).symm

theorem getValue_eq_argument_iff (g : Getter) (msg : String) :
    g.getValue = .error (.argument msg) ↔ g = .noGetter ∧ msg = getMethodNotFound := by
  cases g <;> simp [Getter.getValue, eq_comm]

theorem getMemberStep_eq_argument_iff (r : Value) (memberName msg : String) :
    getMemberStep nameMatches r memberName = .error (.argument msg) ↔
      ∃ properties, r = .obj properties ∧
        (getProperty nameMatches properties memberName = .ok none ∧
            msg = missingMessage memberName ∨
          getProperty nameMatches properties memberName = .ok (some .noGetter) ∧
            msg = getMethodNotFound) := by
  cases r with
  | null => simp [getMemberStep]
  | obj properties =>
    simp only [getMemberStep, Value.obj.injEq, exists_eq_left']
    rcases hg : getProperty nameMatches properties memberName with e | _ | g
    · obtain rfl := getProperty_eq_error nameMatches hg
      simp
    · simp [eq_comm]
    · simp [getValue_eq_argument_iff]

/-- **The `ArgumentException` says which member failed and why.** On a non-empty stack,
`GetMember` throws `ArgumentException` with message `msg` exactly when some member `m` of the
path is the first to fail on the object reached so far, and that object has either no property
for `m`, with `msg` the source's message naming `m`, or one without a getter, with `msg` the
message of `GetValue`. -/
theorem getMember_eq_argument_iff (path : List String) (r : Value) (rest : List Value)
    (msg : String) :
    TemplateMemberAccessor.getMember nameMatches ⟨path⟩ (r :: rest) = .error (.argument msg) ↔
      ∃ pre m post properties, path = pre ++ m :: post ∧
        TemplateMemberAccessor.getMember nameMatches ⟨pre⟩ (r :: rest) = .ok (.obj properties) ∧
        (getProperty nameMatches properties m = .ok none ∧ msg = missingMessage m ∨
          getProperty nameMatches properties m = .ok (some .noGetter) ∧
            msg = getMethodNotFound) := by
  simp only [TemplateMemberAccessor.getMember, foldlM_eq_error_iff, getMemberStep_eq_argument_iff]
  constructor
  · rintro ⟨pre, m, post, _, hp, hpre, properties, rfl, hm⟩
    exact ⟨pre, m, post, properties, hp, hpre, hm⟩
  · rintro ⟨pre, m, post, properties, hp, hpre, hm⟩
    exact ⟨pre, m, post, _, hp, hpre, properties, rfl, hm⟩

end

-- Names compared by folding A-Z: `Age` is found, but it has no getter.
example : TemplateMemberAccessor.getMember
    (fun m n => m.data.map Char.toLower == n.data.map Char.toLower) ⟨["Name", "Age"]⟩
    [.obj [("name", .get (.obj [("age", .noGetter)]))]] =
    .error (.argument "Property get method not found.") := rfl

end TinyTemplates
end BenchmarkProjects
