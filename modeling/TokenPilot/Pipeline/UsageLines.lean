/-
  TokenPilot.Pipeline.UsageLines — the usage lines of an event and the decimals that the
  pipeline computes with (apps/worker/src/pipeline/normalization.ts, decimal.js).

  A decimal is the number it stands for; an operation of decimal.js rounds its exact result
  to 20 significant digits, and `floor`, `toDecimalPlaces` and `toFixed` round the number
  itself. A column of `places` decimals holds a number of units of its last place (`stored`).

  `tokenTotals` (apps/worker/src/application-usage/official-writer.ts) adds the lines up by
  the kind of their tokens; `tokenTotal_exact` says when a total is their sum.
-/

import TokenPilot.Library.Rounding

namespace TokenPilot.Pipeline

open TokenPilot.Library

/-! ## Lines -/

structure ApplicationUsageLine where
  usageType : String
  unitKey : Option String
  quantity : String
  deriving DecidableEq, Repr

/-! ## Decimals -/

/-- `Decimal.precision` -/
def precision : Nat := 20

/-- `new Prisma.Decimal(text)` -/
def decimal (text : String) : ℚ := Numeral.value text.toList

def PrismaDecimal.add (a b : ℚ) : ℚ := significant precision (a + b)

def PrismaDecimal.minus (a b : ℚ) : ℚ := significant precision (a - b)

def PrismaDecimal.mul (a b : ℚ) : ℚ := significant precision (a * b)

def PrismaDecimal.div (a b : ℚ) : ℚ := significant precision (a / b)

/-- `toDecimalPlaces(places, ROUND_HALF_UP)` -/
def PrismaDecimal.toDecimalPlaces (places : Nat) (a : ℚ) : ℚ := toScale (-places) a

/-- A value in a column of `places` decimals. -/
def stored (places : Nat) (x : ℚ) : Int := halfUp (x * 10 ^ places)

/-! ## Token totals -/

structure TokenTotals where
  input : ℚ
  output : ℚ
  cached : ℚ
  total : ℚ

def inputTypes : List String :=
  ["uncached_input_token", "cache_read_input_token", "cache_write_input_token", "embedding_token"]

def cachedTypes : List String := ["cache_read_input_token", "cache_write_input_token"]

def outputTypes : List String := ["output_token", "reasoning_output_token"]

def tokenTotal (types : List String) (lines : List ApplicationUsageLine) : ℚ :=
  lines.foldl (fun total line =>
    if types.contains line.usageType then PrismaDecimal.add total (decimal line.quantity) else total) 0

def tokenTotals (lines : List ApplicationUsageLine) : TokenTotals where
  input := tokenTotal inputTypes lines
  output := tokenTotal outputTypes lines
  cached := tokenTotal cachedTypes lines
  total := PrismaDecimal.add (tokenTotal inputTypes lines) (tokenTotal outputTypes lines)

/-! ## What the totals are -/

section Totals

variable {places : Nat} {types : List String} {lines : List ApplicationUsageLine}

theorem stored_nonneg {x : ℚ} (h : 0 ≤ x) : 0 ≤ stored places x :=
  halfUp_nonneg (mul_nonneg h (by positivity))

/-- A number of the column's places is stored as it is. -/
theorem stored_multiple (c : Int) : stored places (c * 10 ^ (-(places : Int))) = c := by
  have hinteger : (c : ℚ) * 10 ^ (-(places : Int)) * 10 ^ places = c := by
    rw [mul_assoc, ← zpow_natCast, ← zpow_add₀ (by norm_num)]
    simp
  unfold stored
  rw [hinteger, halfUp_intCast]

/-- The quantities that a total of tokens adds. -/
def quantities (types : List String) (lines : List ApplicationUsageLine) : List ℚ :=
  (lines.filter fun line => types.contains line.usageType).map fun line => decimal line.quantity

theorem quantities_nonneg (h : ∀ line ∈ lines, 0 ≤ decimal line.quantity) : ∀ x ∈ quantities types lines, 0 ≤ x := by
  intro x hx
  obtain ⟨line, hline, rfl⟩ := List.mem_map.mp hx
  exact h line (List.mem_filter.mp hline).1

/-- Sums of numbers of the column's places have them. -/
theorem sum_multiple {e : Int} {values : List ℚ} (h : ∀ x ∈ values, ∃ c : Int, x = c * 10 ^ e) :
    ∃ c : Int, values.sum = c * 10 ^ e := by
  induction values with
  | nil => exact ⟨0, by simp⟩
  | cons x rest ih =>
    obtain ⟨c, hc⟩ := h x List.mem_cons_self
    obtain ⟨d, hd⟩ := ih fun y hy => h y (List.mem_cons_of_mem _ hy)
    refine ⟨c + d, ?_⟩
    rw [List.sum_cons, hc, hd]
    push_cast
    ring

theorem tokenTotal_eq : tokenTotal types lines = roundedSum precision 0 (quantities types lines) := by
  unfold tokenTotal roundedSum quantities
  rw [List.foldl_map, List.foldl_filter]
  rfl

theorem tokenTotal_nonneg (types : List String) (h : ∀ line ∈ lines, 0 ≤ decimal line.quantity) :
    0 ≤ tokenTotal types lines := by
  rw [tokenTotal_eq]
  exact le_roundedSum (by decide) ⟨0, 0, by decide, by simp⟩ le_rfl (quantities_nonneg h)

instance (x : ℚ) : Decidable (Representable precision x) :=
  decidable_of_iff _ (representable_iff (show 0 < precision by decide)).symm

instance (s : ℚ) (values : List ℚ) : Decidable (SumsHeld precision s values) :=
  inferInstanceAs (Decidable (∀ n < values.length, _))

/-- A total of tokens is their sum while 20 digits hold the partial sums. -/
theorem tokenTotal_exact (h : ∀ line ∈ lines, 0 ≤ decimal line.quantity) (hheld : SumsHeld precision 0 (quantities types lines)) :
    tokenTotal types lines = (quantities types lines).sum := by
  rw [tokenTotal_eq, roundedSum_of (by decide) le_rfl (quantities_nonneg h) hheld, zero_add]

end Totals

end TokenPilot.Pipeline
