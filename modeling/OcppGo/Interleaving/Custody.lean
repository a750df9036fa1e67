import Mathlib.Data.List.Nodup

namespace OcppGo
namespace Interleaving

open List

/-!
# Custody of numbered items

Items are numbered in the order of their creation.  A ledger lists, for every
place an item can be at, the items that are there.  In a sound ledger every
created item is at exactly one place and is listed there once, so an item that
has reached a place it never leaves has reached it once and for all.

A ledger is not part of any state.  It is read off the state and the labels of
the goroutines, and the operations of a component move items in it.
-/

variable {Place : Type}

/-- Every item below `created` is listed at exactly one place, and only once. -/
structure Sound (ledger : Place -> List Nat) (created : Nat) : Prop where
  nodup : ∀ place, (ledger place).Nodup
  unique : ∀ place other item, item ∈ ledger place -> item ∈ ledger other -> place = other
  listed : ∀ item, item < created <-> ∃ place, item ∈ ledger place

namespace Sound

variable {ledger moved : Place -> List Nat} {created : Nat}

variable (sound : Sound ledger created)
include sound

/-- Items move from one place to another.  The order in which a place lists its
items does not matter. -/
theorem transfer (source target : Place) (items : List Nat) (apart : source ≠ target)
    (leaving : (ledger source).Perm (items ++ moved source))
    (arriving : (moved target).Perm (items ++ ledger target))
    (others : ∀ place, place ≠ source -> place ≠ target -> moved place = ledger place) :
    Sound moved created := by
  have parts := nodup_append.mp (leaving.nodup_iff.mp (sound.nodup source))
  have fromSource : ∀ item, item ∈ ledger source <-> item ∈ items ∨ item ∈ moved source := by
    intro item
    rw [leaving.mem_iff, mem_append]
  have atTarget : ∀ item, item ∈ moved target <-> item ∈ items ∨ item ∈ ledger target := by
    intro item
    rw [arriving.mem_iff, mem_append]
  -- the item's old place, read off its new one
  have origin : ∀ place item, item ∈ moved place ->
      (item ∈ items ∧ place = target) ∨ (item ∉ items ∧ item ∈ ledger place) := by
    intro place item mem
    by_cases isTarget : place = target
    · subst isTarget
      rcases (atTarget item).mp mem with arrived | pre
      · exact .inl ⟨arrived, rfl⟩
      · refine .inr ⟨fun arrived => ?_, pre⟩
        exact apart (sound.unique _ _ item ((fromSource item).mpr (.inl arrived)) pre)
    · by_cases isSource : place = source
      · subst isSource
        exact .inr ⟨fun left => parts.2.2 item left item mem rfl,
          (fromSource item).mpr (.inr mem)⟩
      · rw [others place isSource isTarget] at mem
        refine .inr ⟨fun left => ?_, mem⟩
        exact isSource (sound.unique _ _ item mem ((fromSource item).mpr (.inl left)))
  constructor
  · intro place
    by_cases isTarget : place = target
    · subst isTarget
      rw [arriving.nodup_iff]
      refine nodup_append.mpr ⟨parts.1, sound.nodup place, ?_⟩
      rintro item left _ pre rfl
      exact apart (sound.unique _ _ item ((fromSource item).mpr (.inl left)) pre)
    · by_cases isSource : place = source
      · subst isSource
        exact parts.2.1
      · rw [others place isSource isTarget]
        exact sound.nodup place
  · intro place other item here there
    rcases origin place item here with ⟨arrived, rfl⟩ | ⟨stayed, pre⟩
    · rcases origin other item there with ⟨_, same⟩ | ⟨stayed, _⟩
      · exact same.symm
      · exact absurd arrived stayed
    · rcases origin other item there with ⟨arrived, _⟩ | ⟨_, alsoBefore⟩
      · exact absurd arrived stayed
      · exact sound.unique place other item pre alsoBefore
  · intro item
    rw [sound.listed]
    constructor
    · rintro ⟨place, mem⟩
      by_cases isSource : place = source
      · subst isSource
        rcases (fromSource item).mp mem with left | stayed
        · exact ⟨target, (atTarget item).mpr (.inl left)⟩
        · exact ⟨place, stayed⟩
      · by_cases isTarget : place = target
        · subst isTarget
          exact ⟨place, (atTarget item).mpr (.inr mem)⟩
        · refine ⟨place, ?_⟩
          rwa [others place isSource isTarget]
    · rintro ⟨place, mem⟩
      rcases origin place item mem with ⟨arrived, _⟩ | ⟨_, pre⟩
      · exact ⟨source, (fromSource item).mpr (.inl arrived)⟩
      · exact ⟨place, pre⟩

/-- The next item comes into existence. -/
theorem create (target : Place) (arriving : (moved target).Perm (created :: ledger target))
    (others : ∀ place, place ≠ target -> moved place = ledger place) :
    Sound moved (created + 1) := by
  have fresh : ∀ place, created ∉ ledger place := by
    intro place mem
    exact Nat.lt_irrefl created ((sound.listed created).mpr ⟨place, mem⟩)
  have origin : ∀ place item, item ∈ moved place ->
      (item = created ∧ place = target) ∨ item ∈ ledger place := by
    intro place item mem
    by_cases isTarget : place = target
    · subst isTarget
      rcases mem_cons.mp (arriving.mem_iff.mp mem) with new | pre
      · exact .inl ⟨new, rfl⟩
      · exact .inr pre
    · rw [others place isTarget] at mem
      exact .inr mem
  constructor
  · intro place
    by_cases isTarget : place = target
    · subst isTarget
      rw [arriving.nodup_iff]
      exact nodup_cons.mpr ⟨fresh place, sound.nodup place⟩
    · rw [others place isTarget]
      exact sound.nodup place
  · intro place other item here there
    rcases origin place item here with ⟨rfl, rfl⟩ | pre
    · rcases origin other item there with ⟨_, same⟩ | pre
      · exact same.symm
      · exact absurd pre (fresh other)
    · rcases origin other item there with ⟨rfl, _⟩ | alsoBefore
      · exact absurd pre (fresh place)
      · exact sound.unique place other item pre alsoBefore
  · intro item
    constructor
    · intro below
      rcases Nat.lt_succ_iff_lt_or_eq.mp below with pre | rfl
      · rcases (sound.listed item).mp pre with ⟨place, mem⟩
        refine ⟨place, ?_⟩
        by_cases isTarget : place = target
        · subst isTarget
          exact arriving.mem_iff.mpr (mem_cons_of_mem _ mem)
        · rwa [others place isTarget]
      · exact ⟨target, arriving.mem_iff.mpr mem_cons_self⟩
    · rintro ⟨place, mem⟩
      rcases origin place item mem with ⟨rfl, _⟩ | pre
      · exact Nat.lt_succ_self item
      · exact Nat.lt_succ_of_lt ((sound.listed item).mpr ⟨place, pre⟩)

/-- A ledger with the same lists is as good. -/
theorem congr (same : ∀ place, moved place = ledger place) : Sound moved created := by
  have equal : moved = ledger := funext same
  rwa [equal]

end Sound

end Interleaving
end OcppGo
