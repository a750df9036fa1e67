import OcppGo.Sync.RWMutex

namespace OcppGo
namespace Sync

open Function

/-!
# Who holds a reader/writer mutex

A proof about goroutines that share a mutex keeps a record of what each of them holds.  The
record is kept when it agrees with the mutex; every operation on the mutex changes the record
of one goroutine, and a writer and a reader never hold the mutex together.
-/

/-- What a goroutine holds. -/
inductive Hold where
  | nothing
  | reading
  /-- has announced to write and waits for the readers -/
  | announced
  | writing
  deriving DecidableEq

/-- The record agrees with the mutex. -/
@[grind cases] structure Kept (mutex : RWMutex) (holds : Nat -> Hold) : Prop where
  nodup : mutex.readers.Nodup
  reads : ∀ tid, holds tid = .reading <-> tid ∈ mutex.readers
  writes : ∀ tid,
    (holds tid = .announced ∨ holds tid = .writing) <-> mutex.writer = some tid
  alone : ∀ tid, holds tid = .writing -> mutex.readers = []

namespace Kept

variable {mutex locked : RWMutex} {holds : Nat -> Hold} {tid other : Nat}

theorem new : Kept .new (fun _ => .nothing) := by
  constructor <;> simp [RWMutex.new]

section

variable (kept : Kept mutex holds)
include kept

theorem rlock (idle : holds tid = .nothing) (taken : mutex.rlock tid = some locked) :
    Kept locked (update holds tid .reading) := by
  rcases RWMutex.rlock_eq_some taken with ⟨free, readers, writer⟩
  constructor <;> grind

theorem runlock (reading : holds tid = .reading) :
    Kept (mutex.runlock tid) (update holds tid .nothing) := by
  have members : ∀ reader, reader ∈ mutex.readers.erase tid <->
      reader ≠ tid ∧ reader ∈ mutex.readers := fun reader => kept.nodup.mem_erase_iff
  have fewer : (mutex.readers.erase tid).Nodup := kept.nodup.erase tid
  have vacant : mutex.readers = [] -> mutex.readers.erase tid = [] := by
    intro none
    simp [none]
  constructor <;> grind [RWMutex.runlock]

theorem announce (idle : holds tid = .nothing) (taken : mutex.announce tid = some locked) :
    Kept locked (update holds tid .announced) := by
  rcases RWMutex.announce_eq_some taken with ⟨free, readers, writer⟩
  constructor <;> grind

theorem awaitReaders (announced : holds tid = .announced) (vacant : mutex.noReaders = true)
    : Kept mutex (update holds tid .writing) := by
  have none : mutex.readers = [] := List.isEmpty_iff.mp vacant
  constructor <;> grind

theorem unlock (writing : holds tid = .writing) :
    Kept mutex.unlock (update holds tid .nothing) := by
  constructor <;> grind [RWMutex.unlock]

/-- A writer and a reader exclude each other. -/
theorem not_reading (writing : holds tid = .writing) (reading : holds other = .reading)
    : False := by
  have mem := (kept.reads other).mp reading
  rw [kept.alone tid writing] at mem
  cases mem

end

end Kept

end Sync
end OcppGo
