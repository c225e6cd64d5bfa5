import Mathlib
import PowerProduct.Proofs.Encoding

/-!
# Runs of writes into one buffer

A run writes one number after another into the same buffer. `write_cases` says
once what a write does: a number that fits fills the whole buffer, whatever it
held, and another one leaves every byte as it was. So the width never changes
(`length_afterWrites`), and after a run the buffer holds the last number that
fitted. The main statement is `afterWrites_invariant`.
-/

set_option autoImplicit false

namespace PowerProduct.Buffer

/-- The buffer after a run of writes, each into what the one before it left. -/
def afterWrites (buffer : Buffer) (values : List Nat) : Buffer :=
  values.foldl (fun current x => (write x current).buffer) buffer

/-- The last number of a run that a buffer of `width` bytes can hold. -/
def lastFitting (width : Nat) (values : List Nat) : Option Nat :=
  (values.filter (· < 256 ^ width)).getLast?

theorem afterWrites_concat (buffer : Buffer) (values : List Nat) (x : Nat) :
    afterWrites buffer (values ++ [x]) = (write x (afterWrites buffer values)).buffer := by
  rw [afterWrites, List.foldl_concat]
  rfl

theorem lastFitting_concat (width : Nat) (values : List Nat) (x : Nat) :
    lastFitting width (values ++ [x]) =
      if x < 256 ^ width then some x else lastFitting width values := by
  rw [lastFitting, List.filter_append]
  split
  case isTrue hfits => simp [hfits]
  case isFalse hlarge => simp [hlarge, lastFitting]

/-- The writes of a run go on from the buffer that the writes before them left. -/
theorem writeAll_append (buffer : Buffer) (values more : List Nat) :
    writeAll (values ++ more) buffer =
      writeAll values buffer ++ writeAll more (afterWrites buffer values) := by
  induction values generalizing buffer with
  | nil => rfl
  | cons x rest ih =>
      rw [List.cons_append, writeAll, ih, writeAll]
      rfl

/-- A number that fits is written as it would be into a new buffer of that
width, and another one is refused and changes nothing. -/
theorem write_cases (x : Nat) (buffer : Buffer) :
    if x < 256 ^ buffer.length then
      ∃ out, encode x buffer.length = .ok out ∧ write x buffer = ⟨.ok (), out⟩
    else
      ∃ needed, IsLeast {width | x < 256 ^ width} needed ∧
        write x buffer = ⟨refuse (.overflow needed buffer.length), buffer⟩ := by
  split
  case isTrue hfits => exact ⟨_, encode_of_lt hfits, write_of_lt hfits⟩
  case isFalse hlarge => exact ⟨_, isLeast_byteCount x, write_of_not_lt hlarge⟩

/-- A write keeps the width. -/
theorem length_write (x : Nat) (buffer : Buffer) :
    (write x buffer).buffer.length = buffer.length := by
  by_cases hfits : x < 256 ^ buffer.length
  · rw [write_of_lt hfits]
    exact length_encoding hfits
  · rw [write_of_not_lt hfits]

theorem length_afterWrites (buffer : Buffer) (values : List Nat) :
    (afterWrites buffer values).length = buffer.length := by
  induction values generalizing buffer with
  | nil => rfl
  | cons x rest ih => exact (ih _).trans (length_write x buffer)

/-- After a run the buffer holds the last number that fitted, or what it held
at first. -/
theorem afterWrites_of_lastFitting (buffer : Buffer) (values : List Nat) :
    match lastFitting buffer.length values with
    | none => afterWrites buffer values = buffer
    | some x => encode x buffer.length = .ok (afterWrites buffer values) := by
  -- the run is followed from its start, so the induction is on its last write
  induction values using List.reverseRecOn with
  | nil => rfl
  | append_singleton values x ih =>
      have hwrite := write_cases x (afterWrites buffer values)
      rw [length_afterWrites] at hwrite
      rw [lastFitting_concat, afterWrites_concat]
      by_cases hfits : x < 256 ^ buffer.length
      · rw [if_pos hfits] at hwrite ⊢
        obtain ⟨out, hout, hwritten⟩ := hwrite
        rw [hwritten]
        exact hout
      · rw [if_neg hfits] at hwrite ⊢
        obtain ⟨needed, -, hwritten⟩ := hwrite
        rw [hwritten]
        exact ih

/-- After any run of writes the buffer has the width it had at first. It holds
the last number that fitted, or what it held at first if none did. The next
write, of whatever number, goes on from there: it succeeds exactly for a number
below the bound of the width, which then fills the whole buffer; another number
is refused with the least width that would hold it, and every byte stays. -/
theorem afterWrites_invariant (buffer : Buffer) (values : List Nat) :
    let current := afterWrites buffer values
    current.length = buffer.length ∧
    (match lastFitting buffer.length values with
      | none => current = buffer
      | some x => encode x buffer.length = .ok current) ∧
    ∀ x rest, let written := write x current
      writeAll (values ++ x :: rest) buffer =
        writeAll values buffer ++ written :: writeAll rest written.buffer ∧
      afterWrites buffer (values ++ [x]) = written.buffer ∧
      written.buffer.length = buffer.length ∧
      if x < 256 ^ buffer.length then
        ∃ out, encode x buffer.length = .ok out ∧ written = ⟨.ok (), out⟩
      else
        ∃ needed, IsLeast {width | x < 256 ^ width} needed ∧
          written = ⟨refuse (.overflow needed buffer.length), current⟩ := by
  intro current
  have hlen : current.length = buffer.length := length_afterWrites buffer values
  refine ⟨hlen, afterWrites_of_lastFitting buffer values, ?_⟩
  intro x rest written
  refine ⟨writeAll_append buffer values (x :: rest), afterWrites_concat buffer values x,
    (length_write x current).trans hlen, ?_⟩
  have hwrite := write_cases x current
  rwa [hlen] at hwrite

end PowerProduct.Buffer
