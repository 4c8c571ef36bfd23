/-
  TokenPilot.Runtime.ProviderUsage — the usage that a provider reports, as the Node SDK
  (`provider-usage.ts`) and the Python SDK (`provider_transport.py`) write it into an event.

  A counter is what `numberValue` and `_number` read of it: zero for what is no number or is
  negative, and truncated where it is written. Node writes a number as Number::toString does,
  Python as an integer.
-/

import Mathlib.Data.Rat.Floor
import TokenPilot.Library.Numeral
import TokenPilot.Runtime.Client
import TokenPilot.Runtime.Schema
import TokenPilot.Runtime.Snapshot

namespace TokenPilot.Runtime

open Library
open Connector (get textOf)

namespace Node

def numberValue : Value → ℚ
  | .num d => max 0 d.toRat
  | _ => 0

/-- `String(Math.max(0, Math.trunc(value)))` -/
def decimal (value : ℚ) : String := String.ofList (Numeral.jsNumber (.ofInt (max 0 ⌊value⌋)))

def openAiUsage (value : Value) : Value :=
  let usage := get value "usage"
  let details := get usage "prompt_tokens_details"
  let completionDetails := get usage "completion_tokens_details"
  let input := numberValue (get usage "prompt_tokens")
  let cached := min input (numberValue (get details "cached_tokens"))
  .obj
    [ ("uncached_input_tokens", .str (decimal (input - cached))), ("cache_read_input_tokens", .str (decimal cached)),
      ("output_tokens", .str (decimal (numberValue (get usage "completion_tokens")))),
      ("reasoning_output_tokens", .str (decimal (numberValue (get completionDetails "reasoning_tokens")))),
      ("request_count", .str "1") ]

def anthropicUsage (value : Value) : Value :=
  let usage := get value "usage"
  .obj
    [ ("uncached_input_tokens", .str (decimal (numberValue (get usage "input_tokens")))),
      ("cache_read_input_tokens", .str (decimal (numberValue (get usage "cache_read_input_tokens")))),
      ("cache_write_input_tokens", .str (decimal (numberValue (get usage "cache_creation_input_tokens")))),
      ("output_tokens", .str (decimal (numberValue (get usage "output_tokens")))), ("request_count", .str "1") ]

/-- `record[key]`, where `undefined` is told from `null`. -/
def property (fields : List (String × Value)) (key : String) : Option Value := fields.lookup key

/-- `a ?? b` -/
def coalesce (a b : Option Value) : Option Value :=
  match a with
  | none | some .null => b
  | some v => some v

def streamUsage (value : Value) (driver : Driver) : Option Value :=
  match value with
  | .obj record =>
    if driver ≠ .anthropic then (property record "usage").map fun _ => openAiUsage value
    else
      let message := match property record "message" with
        | some (.obj fields) => property fields "usage"
        | _ => none
      (coalesce message (property record "usage")).map fun raw => anthropicUsage (.obj [("usage", raw)])
  | _ => none

end Node

end TokenPilot.Runtime
