import Aeris.Base.Emission

/-! Messages that are streamed as blocks: a head, then blocks one after the other, each with a
start, deltas and a stop, then a tail and a last mark. The reader puts the message together again
and gives up at a mark that is out of place: a block that is started while another is open or not
under the next index, a delta that names another block or does not fit, a stream that ends in a
block. -/
namespace Aeris.BlockStream

variable {Start Delta : Type}

inductive Mark (Start Delta : Type) where
  | head
  | start (index : Nat) (block : Start)
  | delta (index : Nat) (piece : Delta)
  | stop (index : Nat)
  | tail
  | last

abbrev Block (Start Delta : Type) := Start × List Delta

inductive Reader (Start Delta : Type) where
  | waiting
  | reading (closed : List (Block Start Delta)) (current : Option (Block Start Delta))
  | closing (content : List (Block Start Delta))
  | done (content : List (Block Start Delta))

def advance (fits : Start → Delta → Bool) :
    Reader Start Delta → Mark Start Delta → Option (Reader Start Delta)
  | .waiting, .head => some (.reading [] none)
  | .reading closed none, .start index block =>
    if index = closed.length then some (.reading closed (some (block, []))) else none
  | .reading closed (some (block, pieces)), .delta index piece =>
    if index = closed.length ∧ fits block piece then
      some (.reading closed (some (block, pieces ++ [piece])))
    else none
  | .reading closed (some block), .stop index =>
    if index = closed.length then some (.reading (closed ++ [block]) none) else none
  | .reading closed none, .tail => some (.closing closed)
  | .closing content, .last => some (.done content)
  | _, _ => none

end Aeris.BlockStream
