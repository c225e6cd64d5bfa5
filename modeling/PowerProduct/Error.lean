import PowerProduct.Text.Quoted

/-!
# Errors and faults

A request that the library refuses ends in an `Error`, which says what is wrong
with the request. A step that would leave the bounds of the library's own data
ends in a `Fault`. The two are kept apart so that the absence of faults can be
stated of every entry point.
-/

set_option autoImplicit false

namespace PowerProduct

/-- Why a request is refused. -/
inductive Error where
  /-- The request holds no pair. -/
  | noPairs
  /-- A list has `actual` entries where `expected` are needed. -/
  | lengthMismatch (expected actual : Nat)
  /-- Entry `index` of the buffers named `array` has `actual` bytes, and the
  first entry has `expected`. -/
  | raggedWidth (array : String) (index expected actual : Nat)
  /-- The modulus is zero. -/
  | zeroModulus
  /-- The window width is not between one and `max`. -/
  | windowOutOfRange (width max : Nat)
  /-- The setting `key` has a value that cannot be read. -/
  | badSetting (key value : String)
  /-- A number needs `needed` bytes, and the buffer has `width`. -/
  | overflow (needed width : Nat)
  /-- There is no storage for `count` objects of the sort `what`. -/
  | outOfStorage (what : String) (count : Nat)
  deriving DecidableEq, Repr

/-- What an error is about. -/
inductive ErrorKind where
  /-- The request breaks a rule that its sender has to keep. -/
  | request
  /-- A result does not fit its buffer. -/
  | capacity
  /-- The storage is exhausted. -/
  | storage
  deriving DecidableEq, Repr

namespace Error

/-- The kind of an error. -/
def kind : Error → ErrorKind
  | noPairs | lengthMismatch .. | raggedWidth .. | zeroModulus | windowOutOfRange ..
  | badSetting .. => .request
  | overflow .. => .capacity
  | outOfStorage .. => .storage

/-- The text of an error. -/
def message : Error → String
  | noPairs => "Empty request: at least one base/exponent pair is required"
  | lengthMismatch expected actual =>
      s!"Invalid input length, expected length {expected} but got {actual}"
  | raggedWidth array index expected actual =>
      s!"Non-uniform {array} widths: entry {index} has {actual} bytes, expected {expected}"
  | zeroModulus => "Modulus must be positive"
  | windowOutOfRange width max =>
      s!"Invalid window width {width}, expected a value in 1..={max}"
  | badSetting key value =>
      s!"Invalid configuration value for {key}: {Text.quote value}"
  | overflow needed width =>
      s!"Encoding overflow: value needs {needed} bytes but only {width} are available"
  | outOfStorage what count => s!"Failed to allocate storage for {count} {what}"

end Error

/-- A step outside the bounds of the library's own data. -/
inductive Fault where
  /-- The entries from `start` up to `stop` of a list of `size` entries. -/
  | rangeOutOfBounds (start stop size : Nat)
  /-- Entry `index` of a sequence of `size` entries. -/
  | indexOutOfBounds (index size : Nat)
  /-- A remainder by zero. -/
  | zeroDivisor
  /-- The logarithm of zero. -/
  | logarithmOfZero
  /-- Blocks without entries. -/
  | zeroBlockWidth
  /-- Tables and blocks of exponents that differ in number. -/
  | tableCount (tables blocks : Nat)
  /-- A copy between buffers of different lengths. -/
  | copyLength (source target : Nat)
  /-- A strategy that was left open. -/
  | openStrategy
  deriving DecidableEq, Repr

/-- Why an operation ends without a result. -/
inductive Failure where
  | error (e : Error)
  | fault (f : Fault)
  deriving DecidableEq, Repr

/-- The result of an operation, or the reason why there is none. -/
abbrev Outcome (α : Type) := Except Failure α

/-- The refusal of a request. -/
def refuse {α : Type} (e : Error) : Outcome α := .error (.error e)

/-- The end of an operation by a fault. -/
def abort {α : Type} (f : Fault) : Outcome α := .error (.fault f)

/-- An operation that can only fault, as one that can also refuse. -/
def liftFault {α : Type} : Except Fault α → Outcome α
  | .ok a => .ok a
  | .error f => abort f

/-- A request needs at least one pair, and as many exponents as bases. -/
def requirePairs (bases exponents : Nat) : Outcome Unit :=
  if bases = 0 then refuse .noPairs
  else if bases ≠ exponents then refuse (.lengthMismatch bases exponents)
  else .ok ()

/-- The modulus has to be positive. -/
def requireModulus (modulus : Nat) : Outcome Unit :=
  if modulus = 0 then refuse .zeroModulus else .ok ()

/-- The operation has a result or refuses the request; it does not fault. -/
def Faultless {α : Type} (outcome : Outcome α) : Prop := ∀ f, outcome ≠ abort f

namespace Faultless

variable {α β : Type}

theorem of_ok (a : α) : Faultless (.ok a) := by
  intro f h
  cases h

theorem of_refuse (e : Error) : Faultless (refuse e : Outcome α) := by
  intro f h
  cases h

/-- Steps that do not fault make up an operation that does not. -/
theorem bind {x : Outcome α} {next : α → Outcome β} (h : Faultless x)
    (hnext : ∀ a, Faultless (next a)) : Faultless (x >>= next) := by
  cases x with
  | ok a => exact hnext a
  | error failure =>
      cases failure with
      | error e => exact of_refuse e
      | fault f => exact absurd rfl (h f)

theorem ok_or_refuse {outcome : Outcome α} (h : Faultless outcome) :
    (∃ a, outcome = .ok a) ∨ ∃ e, outcome = refuse e := by
  cases outcome with
  | ok a => exact Or.inl ⟨a, rfl⟩
  | error failure =>
      cases failure with
      | error e => exact Or.inr ⟨e, rfl⟩
      | fault f => exact absurd rfl (h f)

end Faultless

/-- A step with a result is followed by what comes next. -/
theorem ok_bind {α β : Type} (a : α) (next : α → Outcome β) :
    (Except.ok a : Outcome α) >>= next = next a := rfl

/-- A refusal ends the operation. -/
theorem refuse_bind {α β : Type} (e : Error) (next : α → Outcome β) :
    (refuse e : Outcome α) >>= next = refuse e := rfl

/-- An operation with a result has one at its first step. -/
theorem exists_of_bind_eq_ok {α β : Type} {x : Outcome α} {next : α → Outcome β} {b : β}
    (h : x >>= next = .ok b) : ∃ a, x = .ok a ∧ next a = .ok b := by
  cases x with
  | ok a => exact ⟨a, rfl, h⟩
  | error failure => cases h

/-- Steps that all have a result yield the list of the results. -/
theorem mapM_eq_ok {ε α β : Type} {step : α → Except ε β} {result : α → β} {xs : List α}
    (h : ∀ x ∈ xs, step x = .ok (result x)) : xs.mapM step = .ok (xs.map result) := by
  induction xs with
  | nil => rfl
  | cons x rest ih =>
      have hrest := ih fun y hy => h y (List.mem_cons_of_mem x hy)
      rw [List.mapM_cons, h x List.mem_cons_self, hrest]
      rfl

theorem requirePairs_eq_ok {bases exponents : Nat} :
    requirePairs bases exponents = .ok () ↔ bases ≠ 0 ∧ bases = exponents := by
  unfold requirePairs refuse
  split
  · simp_all
  · split <;> simp_all

/-- A request with a base, and as many exponents, has pairs. -/
theorem requirePairs_of_ne_nil {α β : Type} {bases : List α} {exponents : List β}
    (hne : bases ≠ []) (hlen : bases.length = exponents.length) :
    requirePairs bases.length exponents.length = .ok () :=
  requirePairs_eq_ok.2 ⟨fun hzero => hne (List.length_eq_zero_iff.1 hzero), hlen⟩

theorem requireModulus_eq_ok {modulus : Nat} :
    requireModulus modulus = .ok () ↔ modulus ≠ 0 := by
  unfold requireModulus refuse
  split <;> simp_all

theorem requireModulus_of_pos {modulus : Nat} (hm : 0 < modulus) :
    requireModulus modulus = .ok () :=
  requireModulus_eq_ok.2 (Nat.ne_of_gt hm)

end PowerProduct
