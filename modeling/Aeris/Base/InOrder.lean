import Mathlib.Data.List.ReduceOption
import Mathlib.Tactic

/-! In-order delivery over a lossy numbered channel. Every send attempt claims
the next slot, and a failed attempt leaves its slot empty for ever. The receiver
may only take the message of the slot that it expects next. Nothing is said
about how the receiver recognises that message. -/
namespace Aeris.InOrder

open List

structure Channel (Message : Type) where
  slots : List (Option Message)
  received : List Message

variable {Message : Type}

inductive Step : Channel Message → Channel Message → Prop where
  | claim (channel : Channel Message) (slot : Option Message) :
      Step channel { channel with slots := channel.slots ++ [slot] }
  | receive (channel : Channel Message) (message : Message)
      (expected : channel.slots[channel.received.length]? = some (some message)) :
      Step channel { channel with received := channel.received ++ [message] }
  | idle (channel : Channel Message) : Step channel channel

def Delivered (channel : Channel Message) : Prop :=
  channel.received.map some <+: channel.slots

theorem delivered_step (before after : Channel Message) (step : Step before after)
    (delivered : Delivered before) : Delivered after := by
  cases step with
  | claim slot => exact delivered.trans (prefix_append _ _)
  | receive message expected =>
    obtain ⟨rest, split⟩ := delivered
    have next : rest[0]? = some (some message) := by
      rw [← split, getElem?_append_right (by simp)] at expected
      simpa using expected
    cases rest with
    | nil => simp at next
    | cons slot rest =>
      have same : slot = some message := by simpa using next
      exact ⟨rest, by simp [← split, same]⟩
  | idle => exact delivered

/-- What was received is a prefix of what was sent, the empty slots left out. -/
theorem received_prefix_sent (channel : Channel Message) (delivered : Delivered channel) :
    channel.received <+: channel.slots.reduceOption := by
  obtain ⟨rest, split⟩ := delivered
  refine ⟨rest.reduceOption, ?_⟩
  rw [← split, reduceOption_append]
  congr 1
  induction channel.received with
  | nil => rfl
  | cons message rest ih => simpa [reduceOption_cons_of_some] using ih

end Aeris.InOrder
