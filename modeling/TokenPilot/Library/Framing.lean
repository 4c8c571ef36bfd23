/-
  TokenPilot.Library.Framing — cutting a stream into frames at delimiters while it arrives.

  A delimiter is known by its size at the head of a text. What it has to keep for a reader
  that does not wait for the end is `decided`: once a text holds a delimiter anywhere, no
  more text changes what stands at its head. `first` finds the first delimiter and `frames`
  all of them, with what is left over; a text that arrives in two parts has the frames of the
  first and then those of what it left with the second (`frames_append`). `Splits` says what
  the frames of a whole text are without saying how they are found.
-/

import Mathlib.Data.List.Basic
import Mathlib.Tactic.Common

namespace TokenPilot.Library

/-- A delimiter, by the length of the one that stands at the head of a text. -/
structure Delimiter (α : Type) where
  size : List α → Option Nat
  positive : ∀ {s n}, size s = some n → 0 < n ∧ n ≤ s.length
  decided : ∀ {s k n} (t : List α), size (s.drop k) = some n → size (s ++ t) = size s

namespace Delimiter

variable {α : Type} (d : Delimiter α) {s t b r : List α}

theorem size_nil : d.size [] = none := by
  cases h : d.size [] with
  | none => rfl
  | some n =>
    have := d.positive h
    simp at this
    omega

/-! ## The first delimiter -/

/-- What stands before the first delimiter, and what after it. -/
def first : List α → Option (List α × List α)
  | [] => none
  | c :: s =>
    match d.size (c :: s) with
    | some n => some ([], (c :: s).drop n)
    | none => (first s).map fun found => (c :: found.1, found.2)

/-- Neither text begins with a delimiter at one of the first `n` places. -/
def Free (s : List α) (n : Nat) : Prop := ∀ k < n, d.size (s.drop k) = none

attribute [local simp] first

theorem first_spec (h : d.first s = some (b, r)) : ∃ sep, s = b ++ (sep ++ r) ∧ d.size (sep ++ r) = some sep.length ∧
    0 < sep.length ∧ d.Free s b.length := by
  induction s generalizing b with
  | nil => simp [first] at h
  | cons c s ih =>
    rw [first] at h
    split at h
    · rename_i n hsize
      cases h
      obtain ⟨hpos, hle⟩ := d.positive hsize
      have hlength : ((c :: s).take n).length = n := by
        rw [List.length_take]
        omega
      refine ⟨(c :: s).take n, ?_, ?_, ?_, ?_⟩
      · rw [List.nil_append, List.take_append_drop]
      · rw [List.take_append_drop, hlength]
        exact hsize
      · omega
      · intro k hk
        simp at hk
    · rename_i hnone
      obtain ⟨⟨b', r'⟩, hfirst, heq⟩ := Option.map_eq_some_iff.mp h
      cases heq
      obtain ⟨sep, hs, hsize, hpos, hfree⟩ := ih hfirst
      refine ⟨sep, ?_, hsize, hpos, ?_⟩
      · rw [List.cons_append, ← hs]
      · intro k hk
        cases k with
        | zero => exact hnone
        | succ k => exact hfree k (by simpa using hk)

theorem first_none (h : d.first s = none) (k : Nat) : d.size (s.drop k) = none := by
  induction s generalizing k with
  | nil => simpa using d.size_nil
  | cons c s ih =>
    rw [first] at h
    split at h
    · cases h
    · rename_i hnone
      cases k with
      | zero => exact hnone
      | succ k => exact ih (Option.map_eq_none_iff.mp h) k

theorem first_of (hsize : d.size (t ++ r) = some t.length) (hfree : d.Free (b ++ (t ++ r)) b.length) :
    d.first (b ++ (t ++ r)) = some (b, r) := by
  induction b with
  | nil =>
    rw [List.nil_append]
    cases hlist : t ++ r with
    | nil =>
      rw [hlist, size_nil] at hsize
      cases hsize
    | cons c s =>
      rw [first, ← hlist, hsize]
      simp
  | cons c b ih =>
    have hnone : d.size (c :: (b ++ (t ++ r))) = none := hfree 0 (by simp)
    have hrest : d.Free (b ++ (t ++ r)) b.length := fun k hk => hfree (k + 1) (by simpa using hk)
    rw [List.cons_append, first, hnone, ih hrest]
    rfl

theorem first_shorter (h : d.first s = some (b, r)) : r.length < s.length := by
  obtain ⟨sep, rfl, -, hpos, -⟩ := d.first_spec h
  simp
  omega

/-- A delimiter that is there stays the first one, whatever follows. -/
theorem first_append (h : d.first s = some (b, r)) (t : List α) : d.first (s ++ t) = some (b, r ++ t) := by
  induction s generalizing b with
  | nil => simp [first] at h
  | cons c s ih =>
    obtain ⟨sep, hs, hsep, -, -⟩ := d.first_spec h
    have hdecided : d.size (c :: s ++ t) = d.size (c :: s) := by
      apply d.decided (k := b.length) t
      rw [hs, List.drop_left]
      exact hsep
    rw [first] at h
    rw [List.cons_append, first, ← List.cons_append, hdecided]
    split at h
    · rename_i n hsize
      cases h
      simp only [Option.some.injEq, Prod.mk.injEq, true_and]
      rw [List.drop_append_of_le_length (d.positive hsize).2]
    · rename_i hnone
      obtain ⟨⟨b', r'⟩, hfirst, heq⟩ := Option.map_eq_some_iff.mp h
      cases heq
      rw [ih hfirst]
      rfl

/-! ## All of them -/

/-- The frames that end with a delimiter, and the text after the last. -/
def frames (s : List α) : List (List α) × List α :=
  match h : d.first s with
  | none => ([], s)
  | some (b, r) =>
    have : r.length < s.length := d.first_shorter h
    (b :: (frames r).1, (frames r).2)
termination_by s.length

theorem frames_none (h : d.first s = none) : d.frames s = ([], s) := by
  rw [frames]
  split
  · rfl
  · rename_i hsome
    rw [h] at hsome
    cases hsome

theorem frames_some (h : d.first s = some (b, r)) : d.frames s = (b :: (d.frames r).1, (d.frames r).2) := by
  rw [frames]
  split
  · rename_i hnone
    rw [h] at hnone
    cases hnone
  · rename_i hsome
    rw [h] at hsome
    cases hsome
    rfl

/-- Text that arrives later continues what was left over. -/
theorem frames_append (s t : List α) : d.frames (s ++ t) =
    ((d.frames s).1 ++ (d.frames ((d.frames s).2 ++ t)).1, (d.frames ((d.frames s).2 ++ t)).2) := by
  induction hn : s.length using Nat.strongRecOn generalizing s with
  | ind n ih =>
    cases h : d.first s with
    | none => rw [d.frames_none h, List.nil_append]
    | some found =>
      obtain ⟨b, r⟩ := found
      have hrest := ih r.length (hn ▸ d.first_shorter h) r rfl
      rw [d.frames_some h, d.frames_some (d.first_append h t), hrest]
      rfl

/-! ## What the frames are -/

/-- The text is the frames with a delimiter between any two, none of which begins in a frame. -/
inductive Splits : List α → List (List α) → Prop
  | last {s : List α} : (∀ k, d.size (s.drop k) = none) → Splits s [s]
  | block {b sep r : List α} {rest : List (List α)} : d.size (sep ++ r) = some sep.length →
      d.Free (b ++ (sep ++ r)) b.length → Splits r rest → Splits (b ++ (sep ++ r)) (b :: rest)

theorem frames_splits (s : List α) : d.Splits s ((d.frames s).1 ++ [(d.frames s).2]) := by
  induction hn : s.length using Nat.strongRecOn generalizing s with
  | ind n ih =>
    cases h : d.first s with
    | none =>
      rw [d.frames_none h]
      exact .last (d.first_none h)
    | some found =>
      obtain ⟨b, r⟩ := found
      obtain ⟨sep, hs, hsize, -, hfree⟩ := d.first_spec h
      have hrest := ih r.length (hn ▸ d.first_shorter h) r rfl
      rw [d.frames_some h]
      subst hs
      exact .block hsize hfree hrest

theorem Splits.eq_frames {s : List α} {l : List (List α)} (h : d.Splits s l) : l = (d.frames s).1 ++ [(d.frames s).2] := by
  induction h with
  | @last s hnone =>
    have hfirst : d.first s = none := by
      cases h : d.first s with
      | none => rfl
      | some found =>
        obtain ⟨sep, hs, hsize, -, -⟩ := d.first_spec h
        have := hnone found.1.length
        rw [hs, List.drop_left, hsize] at this
        cases this
    rw [d.frames_none hfirst]
    rfl
  | block hsize hfree _ ih =>
    rw [d.frames_some (d.first_of hsize hfree), ih]
    rfl

end Delimiter

end TokenPilot.Library
