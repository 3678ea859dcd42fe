import Mathlib.Data.List.Basic
import Mathlib.Tactic

/-! Readers that are fed piece by piece. A reader looks at the front of what it holds
and takes a move or waits for more. A move that is possible stays the same move when
more arrives, so where the input was cut cannot be seen in what the reader puts out. -/
namespace Aeris.Incremental

/-- A reader; the weight of a state bounds the moves that take nothing from the input. -/
structure Reader (State Byte Out : Type) where
  move : State → List Byte → Option (Out × State × List Byte)
  weight : State → Nat
  shrinks : ∀ {state buffer out next rest}, move state buffer = some (out, next, rest) →
    weight next + rest.length < weight state + buffer.length
  stable : ∀ {state buffer out next rest}, move state buffer = some (out, next, rest) →
    ∀ more, move state (buffer ++ more) = some (out, next, rest ++ more)

variable {State Byte Out : Type}

namespace Reader

/-- All moves that are possible with what is there. -/
def drain (reader : Reader State Byte Out) (state : State) (buffer : List Byte) :
    List Out × State × List Byte :=
  match _moved : reader.move state buffer with
  | none => ([], state, buffer)
  | some (out, next, rest) =>
    let later := reader.drain next rest
    (out :: later.1, later.2)
termination_by reader.weight state + buffer.length
decreasing_by exact reader.shrinks _moved

variable (reader : Reader State Byte Out)

theorem drain_wait {state buffer} (waits : reader.move state buffer = none) :
    reader.drain state buffer = ([], state, buffer) := by
  rw [drain]
  split
  · rfl
  · rename_i moved
    cases waits.symm.trans moved

theorem drain_move {state next buffer rest out}
    (moves : reader.move state buffer = some (out, next, rest)) : reader.drain state buffer =
      (out :: (reader.drain next rest).1, (reader.drain next rest).2) := by
  rw [drain]
  split
  · rename_i waits
    cases moves.symm.trans waits
  · rename_i moved
    cases moves.symm.trans moved
    rfl

theorem drain_waits (state : State) (buffer : List Byte) :
    reader.move (reader.drain state buffer).2.1 (reader.drain state buffer).2.2 = none := by
  induction state, buffer using drain.induct reader with
  | case1 state buffer waits =>
    rw [reader.drain_wait waits]
    exact waits
  | case2 state buffer out next rest moves ih =>
    rw [reader.drain_move moves]
    exact ih

/-- What arrives later does not change what was done before. -/
theorem drain_append (state : State) (buffer more : List Byte) :
    reader.drain state (buffer ++ more) =
      ((reader.drain state buffer).1 ++
          (reader.drain (reader.drain state buffer).2.1
            ((reader.drain state buffer).2.2 ++ more)).1,
        (reader.drain (reader.drain state buffer).2.1
          ((reader.drain state buffer).2.2 ++ more)).2) := by
  induction state, buffer using drain.induct reader with
  | case1 state buffer waits =>
    rw [reader.drain_wait waits]
    rfl
  | case2 state buffer out next rest moves ih =>
    rw [reader.drain_move moves, reader.drain_move (reader.stable moves more), ih]
    rfl

end Reader

end Aeris.Incremental
