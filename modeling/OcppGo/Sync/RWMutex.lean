import Mathlib.Data.List.Basic

namespace OcppGo
namespace Sync

/-!
# Reader/writer mutex

The mutex records which goroutines hold it.  A writer first announces itself
and then waits for the readers that were there before; from its announcement on
no new reader is let in.  Taking the lock is therefore two steps, `announce` and
the wait for `noReaders`.
-/

/-- Who reads, with multiplicity, and who has announced to write. -/
structure RWMutex where
  readers : List Nat
  writer : Option Nat
  deriving DecidableEq

namespace RWMutex

def new : RWMutex := ⟨[], none⟩

/-- `RLock`; blocks while a writer waits or writes. -/
def rlock (mutex : RWMutex) (tid : Nat) : Option RWMutex :=
  if mutex.writer = none then some { mutex with readers := tid :: mutex.readers } else none

def runlock (mutex : RWMutex) (tid : Nat) : RWMutex :=
  { mutex with readers := mutex.readers.erase tid }

/-- The first half of `Lock`; blocks while another writer waits or writes. -/
def announce (mutex : RWMutex) (tid : Nat) : Option RWMutex :=
  if mutex.writer = none then some { mutex with writer := some tid } else none

/-- The second half of `Lock` is possible once every reader is gone. -/
def noReaders (mutex : RWMutex) : Bool := mutex.readers.isEmpty

def unlock (mutex : RWMutex) : RWMutex := { mutex with writer := none }

theorem rlock_eq_some {mutex locked : RWMutex} {tid : Nat}
    (taken : mutex.rlock tid = some locked) :
    mutex.writer = none ∧ locked.readers = tid :: mutex.readers ∧ locked.writer = none := by
  unfold rlock at taken
  split at taken
  · rename_i free
    cases taken
    exact ⟨free, rfl, free⟩
  · cases taken

theorem announce_eq_some {mutex locked : RWMutex} {tid : Nat}
    (taken : mutex.announce tid = some locked) :
    mutex.writer = none ∧ locked.readers = mutex.readers ∧ locked.writer = some tid := by
  unfold announce at taken
  split at taken
  · rename_i free
    cases taken
    exact ⟨free, rfl, rfl⟩
  · cases taken

end RWMutex

end Sync
end OcppGo
