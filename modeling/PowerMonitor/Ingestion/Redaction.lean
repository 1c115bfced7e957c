import Mathlib.Data.List.Infix

/-! JSON evidence of device events and the redaction of measurement values in it. -/

set_option autoImplicit false
namespace PowerMonitor.Ingestion

/-- A JSON value. A number is the text that prints it, which keeps integers and floats apart. -/
inductive Json where
  | null
  | bool (value : Bool)
  | number (value : String)
  | text (value : String)
  | list (items : List Json)
  | object (fields : List (String × Json))

/-- `SENSITIVE_HISTORY_KEYS` -/
def sensitiveHistoryKeys : List String :=
  ["power", "power_w", "power_watts", "power_avg", "power_avg_w", "average_power", "average_power_w",
    "power_min", "power_min_w", "power_max", "power_max_w", "maximum_power", "peak_power_w",
    "last_known_power_watts", "current_load_w", "current_power", "current_power_w", "current_watts",
    "integrated_power", "power_values", "active_power_w", "reactive_power_var", "apparent_power_va",
    "current_amps", "current_avg", "current_a", "current_avg_a", "current_min", "current_min_a", "current_max",
    "current_max_a", "voltage_v", "voltage", "voltage_volts", "voltage_avg", "voltage_avg_v", "voltage_min",
    "voltage_min_v", "voltage_max", "voltage_max_v", "power_factor", "frequency_hz", "energy", "energy_wh",
    "energy_kwh", "actual_energy_kwh", "allocated_energy", "billing_cycle_energy_kwh", "cycle_energy",
    "daily_average_usage_kwh", "device_energy", "effective_energy", "eligible_energy", "energy_by_bucket",
    "energy_by_bucket_kwh", "energy_by_tier_kwh", "energy_kwh_value", "energy_today_kwh",
    "highest_usage_bucket_kwh", "interval_energy_wh", "interval_energy_kwh", "interval_energy",
    "device_interval_energy_wh", "device_energy_wh", "server_energy_wh", "selected_energy_wh",
    "device_lifetime_energy_wh", "raw_energy_wh", "raw_energy_start_wh", "raw_energy_end_wh",
    "meter_energy_total_wh", "pzem_energy_wh", "pzem_cumulative_energy_wh", "pzem_energy_start_wh",
    "pzem_energy_end_wh", "prepared_pzem_energy_wh", "commit_pzem_energy_wh", "verified_pzem_energy_wh",
    "software_energy_baseline_before_wh", "software_energy_baseline_after_wh", "total_energy_wh",
    "total_energy_kwh", "total_energy", "monthly_energy", "monitored_usage_kwh", "projected_energy_kwh",
    "segment_energy", "segment_energy_kwh", "selected_energy", "server_energy", "sensor_measured_usage",
    "summary_energy_kwh", "utility_energy", "usage", "usage_kwh", "total_usage_kwh", "total_usage",
    "summary_total_usage", "utility_usage_kwh", "tier_1_usage_kwh", "tier_2_usage_kwh", "cumulative_usage_kwh",
    "usage_by_tier", "usage_by_tou", "energy_by_tier", "energy_by_tou", "tier_usage_kwh", "tier_progress_kwh",
    "cumulative_kwh", "cost", "cost_usd", "total_cost", "total_cost_usd", "total_amount",
    "actual_energy_charge", "allocated_cost", "billing_cost", "calculated_energy_subtotal", "cycle_cost",
    "estimated_billing_cycle_cost", "estimated_cost_today", "estimated_energy_cost", "energy_cost",
    "usage_cost", "interval_energy_cost", "delivery_cost", "generation_cost", "adjustment_cost",
    "energy_subtotal", "projected_energy_charge", "projected_energy_subtotal", "summary_energy_cost",
    "today_cost", "subtotal", "fixed_charge", "baseline_credit", "tax_amount", "bill_amount", "amount",
    "amount_per_day", "percentage_amount", "price", "price_per_kwh", "raw_price", "current_energy_price",
    "current_price", "current_price_per_kwh", "next_price", "next_price_per_kwh", "blended_energy_rate",
    "account_energy_amount", "account_energy_rate", "unrounded_cost", "unrounded_energy_charge",
    "unrounded_energy_cost", "backlog", "backlog_estimate", "latest", "readings", "original_payload"]

/-- `SENSITIVE_HISTORY_DESCRIPTOR_FIELDS` -/
def sensitiveHistoryDescriptorFields : List String :=
  ["field", "metric", "measurement", "measurement_name", "reading_name", "series"]

/-- `SENSITIVE_HISTORY_VALUE_FIELDS` -/
def sensitiveHistoryValueFields : List String :=
  ["avg", "end", "maximum", "max", "minimum", "min", "start", "total", "value", "values"]

def descriptorMarkers : List String :=
  ["power", "energy", "usage", "cost", "price", "voltage", "current", "watt", "kwh", "pzem"]

def redacted : Json := .text "[redacted-by-data-reset]"

section Redaction
variable (lower redactText : String → String)

/-- The description of a value names a measurement. -/
def descriptorNames (item : Json) : Bool :=
  match item with
  | .text value => sensitiveHistoryKeys.contains (lower value) ||
      descriptorMarkers.any fun marker => decide (marker.toList <:+: (lower value).toList)
  | _ => false

def descriptorIsSensitive (fields : List (String × Json)) : Bool :=
  fields.any fun field => sensitiveHistoryDescriptorFields.contains (lower field.1) && descriptorNames lower field.2

mutual

/-- `redact_history_values`. `redactText` is its treatment of a string: JSON inside it is redacted and
encoded again, and a text that states a measurement is replaced. -/
def redactHistoryValues : Json → Json
  | .object fields => .object (redactFields (descriptorIsSensitive lower fields) fields)
  | .list items => .list (redactItems items)
  | .text value => .text (redactText value)
  | .null => .null
  | .bool value => .bool value
  | .number value => .number value

def redactFields (sensitive : Bool) : List (String × Json) → List (String × Json)
  | [] => []
  | (key, item) :: rest =>
      (key, if sensitiveHistoryKeys.contains (lower key) ∨
          (sensitive = true ∧ sensitiveHistoryValueFields.contains (lower key)) then redacted
        else redactHistoryValues item) :: redactFields sensitive rest

def redactItems : List Json → List Json
  | [] => []
  | item :: rest => redactHistoryValues item :: redactItems rest

end

/-! ## What redaction leaves -/

mutual

/-- No field with a sensitive name holds a value. -/
def Clean : Json → Prop
  | .object fields => CleanFields fields
  | .list items => CleanItems items
  | .text _ | .null | .bool _ | .number _ => True

def CleanFields : List (String × Json) → Prop
  | [] => True
  | (key, item) :: rest =>
      (sensitiveHistoryKeys.contains (lower key) → item = redacted) ∧ Clean item ∧ CleanFields rest

def CleanItems : List Json → Prop
  | [] => True
  | item :: rest => Clean item ∧ CleanItems rest

end

mutual

theorem redactHistoryValues_clean (value : Json) : Clean lower (redactHistoryValues lower redactText value) := by
  cases value with
  | object fields => exact redactFields_clean (descriptorIsSensitive lower fields) fields
  | list items => exact redactItems_clean items
  | text value | null | bool value | number value => trivial

theorem redactFields_clean (sensitive : Bool) (fields : List (String × Json)) :
    CleanFields lower (redactFields lower redactText sensitive fields) := by
  match fields with
  | [] => trivial
  | (key, item) :: rest =>
      refine ⟨fun named => ?_, ?_, redactFields_clean sensitive rest⟩
      · rw [if_pos (.inl named)]
      · split
        · trivial
        · exact redactHistoryValues_clean item

theorem redactItems_clean (items : List Json) : CleanItems lower (redactItems lower redactText items) := by
  match items with
  | [] => trivial
  | item :: rest => exact ⟨redactHistoryValues_clean item, redactItems_clean rest⟩

end

end Redaction
end PowerMonitor.Ingestion
