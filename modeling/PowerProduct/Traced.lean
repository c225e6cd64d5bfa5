import PowerProduct.PairReader

/-!
# Reads that are recorded

A `Traced` computation carries the reads it has made on a `PairReader`, in
order. The reads are part of the result also when the computation fails, so a
rule on what may be read can be stated of every run.
-/

set_option autoImplicit false

namespace PowerProduct

/-- The two sides of a pair. -/
inductive Side where
  | bases
  | exponents
  deriving DecidableEq, Repr

/-- A request for one side of the pairs from `start` up to `stop`. -/
structure Read where
  side : Side
  start : Nat
  stop : Nat
  deriving DecidableEq, Repr

/-- A computation with the reads it has made, in order. The reads before a
failure are kept. -/
structure Traced (α : Type) where
  outcome : Outcome α
  reads : List Read

namespace Traced

/-- The computation `x` and, if it has a result, what `next` makes of it. -/
def bind {α β : Type} (x : Traced α) (next : α → Traced β) : Traced β :=
  match x.outcome with
  | .ok a =>
      let y := next a
      ⟨y.outcome, x.reads ++ y.reads⟩
  | .error failure => ⟨.error failure, x.reads⟩

instance : Monad Traced where
  pure a := ⟨.ok a, []⟩
  bind := bind

/-- An operation that reads nothing. -/
def ofOutcome {α : Type} (outcome : Outcome α) : Traced α := ⟨outcome, []⟩

instance : MonadLift (Except Failure) Traced where
  monadLift := ofOutcome

theorem bind_ok {α β : Type} (a : α) (reads : List Read) (next : α → Traced β) :
    (⟨.ok a, reads⟩ : Traced α) >>= next = ⟨(next a).outcome, reads ++ (next a).reads⟩ := rfl

instance : LawfulMonad Traced := LawfulMonad.mk' Traced
  (fun x => by
    rcases x with ⟨outcome, reads⟩
    cases outcome with
    | ok a => exact congrArg (Traced.mk (.ok a)) (List.append_nil reads)
    | error failure => rfl)
  (fun _ _ => rfl)
  (fun x next after => by
    rcases x with ⟨outcome, reads⟩
    cases outcome with
    | error failure => rfl
    | ok a =>
        rw [bind_ok, bind_ok]
        rcases next a with ⟨outcome', reads'⟩
        cases outcome' with
        | error failure => rfl
        | ok b => rw [bind_ok, bind_ok, List.append_assoc])

end Traced

namespace PairReader

/-- The bases of a range, with the read recorded. -/
def readBases (reader : PairReader) (start stop : Nat) : Traced (List Nat) :=
  ⟨liftFault (reader.bases start stop), [⟨.bases, start, stop⟩]⟩

/-- The exponents of a range, with the read recorded. -/
def readExponents (reader : PairReader) (start stop : Nat) : Traced (List Nat) :=
  ⟨liftFault (reader.exponents start stop), [⟨.exponents, start, stop⟩]⟩

end PairReader

end PowerProduct
