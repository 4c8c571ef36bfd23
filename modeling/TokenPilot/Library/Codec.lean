/-
  TokenPilot.Library.Codec — schemas that read encoded values.

  A schema reads a value of type `α` from a wire value, or rejects it; it may normalise what
  it reads. `Lawful encode schema normal` says that what a schema accepts it reads again from
  its encoding, unchanged, and that from the encoding of any value it reads that value's
  normal form or nothing. Then the accepted values are normal (`Lawful.fixed`). A schema
  with a further check stays lawful (`Lawful.checked`).
-/

import Mathlib.Data.List.Basic
import Mathlib.Logic.Function.Basic

namespace TokenPilot.Library

structure Lawful {α ω : Type} (encode : α → ω) (schema : ω → Option α) (normal : α → α) : Prop where
  stable : ∀ w a, schema w = some a → schema (encode a) = some a
  normalises : ∀ a b, schema (encode a) = some b → b = normal a

namespace Lawful

variable {α β ω : Type} {encode : α → ω} {schema : ω → Option α} {normal : α → α}

theorem fixed (h : Lawful encode schema normal) {w : ω} {a : α} (ha : schema w = some a) : normal a = a :=
  (h.normalises a a (h.stable w a ha)).symm

/-- What is read from the encoding of a normal value is that value. -/
theorem faithful (h : Lawful encode schema normal) {a b : α} (ha : normal a = a) (hb : schema (encode a) = some b) :
    b = a := by rw [h.normalises a b hb, ha]

/-- A schema with a further check on what it reads. -/
theorem checked (h : Lawful encode schema normal) (check : α → Bool) :
    Lawful encode (fun w => (schema w).filter check) normal where
  stable w a ha := by
    obtain ⟨hread, hcheck⟩ := Option.filter_eq_some_iff.mp ha
    exact Option.filter_eq_some_iff.mpr ⟨h.stable w a hread, hcheck⟩
  normalises a b hb := h.normalises a b (Option.filter_eq_some_iff.mp hb).1

/-- A schema that goes on after reading a value goes on with its normal form. -/
theorem isSome_bind (h : Lawful encode schema normal) (a : α) (f : α → Option β) :
    ((schema (encode a)).bind f).isSome = true ↔ (schema (encode a)).isSome = true ∧ (f (normal a)).isSome = true := by
  cases hread : schema (encode a) with
  | none => simp
  | some b =>
    rw [h.normalises a b hread, Option.bind_some]
    simp

theorem with_normal (h : Lawful encode schema normal) {normal' : α → α} (heq : ∀ a, normal a = normal' a) :
    Lawful encode schema normal' where
  stable := h.stable
  normalises a b hb := (h.normalises a b hb).trans (heq a)

end Lawful

end TokenPilot.Library
