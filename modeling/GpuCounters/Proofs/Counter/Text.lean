import GpuCounters.Counter.Report
import Mathlib.Tactic.MkIffOfInductiveProp

/-!
# Texts of values

Only a value that is a text itself can have a line feed in its text: numbers and truth values are
written in visible characters.
-/

namespace GpuCounters

/-! ## Texts of numbers -/

namespace Decimal

theorem lineFeed_not_mem_toDigits (n : Nat) : '\n' ∉ Nat.toDigits 10 n := by
  intro h
  have hdigit := Nat.isDigit_of_mem_toDigits (by decide) (by decide) h
  exact absurd hdigit (by decide)

namespace Layout

theorem lineFeed_not_mem_aroundPoint {layout : Layout} (hmark : '\n' ∉ layout.wholeMark)
    {digits : List Char} (h : '\n' ∉ digits) (exponent : Int) :
    '\n' ∉ layout.aroundPoint digits exponent := by
  unfold aroundPoint
  split
  · simp [h, hmark, List.mem_replicate]
  · dsimp only
    split
    · have htake : '\n' ∉ digits.take (digits.length - (-exponent).toNat) := fun hmem ↦
        h (List.mem_of_mem_take hmem)
      have hdrop : '\n' ∉ digits.drop (digits.length - (-exponent).toNat) := fun hmem ↦
        h (List.mem_of_mem_drop hmem)
      simp [htake, hdrop]
    · simp [h, List.mem_replicate]

end Layout

/-- Plain digits never have an exponent, so every number goes around a point. -/
theorem lineFeed_not_mem_plain {f : Binary.Format} (x : Binary f) : '\n' ∉ plain.render x := by
  cases x with
  | nan =>
    have hword : '\n' ∉ "NaN".toList := by decide
    exact hword
  | infinite negative =>
    have hword : ∀ minus : Bool, '\n' ∉ if minus then "-inf".toList else "inf".toList := by decide
    exact hword negative
  | finite negative m e _ =>
    have hpositive : '\n' ∉ plain.positive (shortest f plain.tie m e) :=
      Layout.lineFeed_not_mem_aroundPoint (by decide) (lineFeed_not_mem_toDigits _) _
    have hmagnitude : '\n' ∉
        (if m = 0 then '0' :: plain.wholeMark else plain.positive (shortest f plain.tie m e)) := by
      split
      · decide
      · exact hpositive
    unfold Layout.render
    cases negative
    · exact hmagnitude
    · simpa using hmagnitude

end Decimal

/-! ## Values and reports of one line -/

/-- Whether a value is not a text with a line feed. -/
def Value.IsSingleLine (value : Value) : Prop := ∀ s, value = .text s → '\n' ∉ s.toList

instance (value : Value) : Decidable value.IsSingleLine :=
  match value with
  | .text s =>
    decidable_of_iff ('\n' ∉ s.toList) ⟨fun h _ heq ↦ Value.text.inj heq ▸ h, fun h ↦ h s rfl⟩
  | .u32 _ | .u64 _ | .f32 _ | .f64 _ | .bool _ => isTrue (fun _ heq ↦ nomatch heq)

theorem Value.IsSingleLine.toText {value : Value} (h : value.IsSingleLine) :
    '\n' ∉ value.toText.toList := by
  cases value with
  | u32 n => simpa [Value.toText, Value.digits] using Decimal.lineFeed_not_mem_toDigits n.toNat
  | u64 n => simpa [Value.toText, Value.digits] using Decimal.lineFeed_not_mem_toDigits n.toNat
  | f32 x => simpa [Value.toText] using Decimal.lineFeed_not_mem_plain x
  | f64 x => simpa [Value.toText] using Decimal.lineFeed_not_mem_plain x
  | bool b => cases b <;> decide
  | text s => exact h s rfl

/-- Whether no value of a report is a text with a line feed. -/
@[mk_iff]
structure Report.IsSingleLine (report : Report) : Prop where
  value : ∀ metric ∈ report.metrics, metric.value.IsSingleLine
  max : ∀ metric ∈ report.metrics, ∀ value ∈ metric.max?, value.IsSingleLine
  information : ∀ value ∈ report.information, value.IsSingleLine

instance (report : Report) : Decidable report.IsSingleLine :=
  decidable_of_iff' _ (Report.isSingleLine_iff report)

end GpuCounters
