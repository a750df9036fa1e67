import Mathlib.Data.List.Basic

namespace OcppGo
namespace Sync

/-!
# Buffered channels

A channel that was closed still hands out what it holds; after that a receiver gets nothing at
once.  Whoever sends on a closed channel, also after waiting for room, panics, and so does
whoever closes it again.
-/

structure Chan (α : Type) where
  buffer : List α
  capacity : Nat
  closed : Bool

namespace Chan

variable {α : Type}

def make (capacity : Nat) : Chan α := ⟨[], capacity, false⟩

/-- A send does not have to wait. -/
def sendable (channel : Chan α) : Bool :=
  channel.closed || decide (channel.buffer.length < channel.capacity)

def send (channel : Chan α) (value : α) : Chan α :=
  { channel with buffer := channel.buffer ++ [value] }

/-- What a receiver gets, with `none` from a channel that is closed and empty; nothing when it
has to wait. -/
def receive (channel : Chan α) : Option (Option α × Chan α) :=
  match channel.buffer with
  | value :: rest => some (some value, { channel with buffer := rest })
  | [] => if channel.closed then some (none, channel) else none

def close (channel : Chan α) : Chan α := { channel with closed := true }

@[simp] theorem closed_make (capacity : Nat) : (make capacity : Chan α).closed = false := rfl

@[simp] theorem closed_send (channel : Chan α) (value : α) :
    (channel.send value).closed = channel.closed := rfl

@[simp] theorem closed_close (channel : Chan α) : channel.close.closed = true := rfl

theorem closed_receive {channel rest : Chan α} {value : Option α}
    (received : channel.receive = some (value, rest)) : rest.closed = channel.closed := by
  unfold receive at received
  split at received
  · cases received
    rfl
  · split at received
    · cases received
      rfl
    · cases received

end Chan

end Sync
end OcppGo
