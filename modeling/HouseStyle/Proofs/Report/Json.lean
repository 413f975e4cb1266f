import HouseStyle.Proofs.Json.RoundTrip
import HouseStyle.Report.Basic

/-!
# The JSON report is read back

The JSON report is ASCII text, and what is read from it is the report: the tool, the number of files and
the violations, each with all its fields. So reports whose violations differ in a field have different
texts.

Main definitions:
* `Report.violationFields`: the fields of a violation, in the order of their names.

Main results:
* `Report.read_json`: what is read from the JSON report.
-/

namespace HouseStyle.Report

/-- A violation as it is read from the report: its fields in the order of their names. -/
def violationFields (r : Report) (v : Violation) : JsonValue :=
  .object [("col", .ofInt? (v.location.bind (·.startCol))), ("line", .ofInt? (v.location.bind (·.startLine))),
    ("message", .text v.message), ("path", .ofText? (r.shownPath? v)), ("rule_id", .text v.ruleId),
    ("severity", .text v.severity), ("suggestion", .ofText? v.suggestion)]

theorem sorted_ofText? (t : Option Text) : (JsonValue.ofText? t).sorted = .ofText? t := by
  cases t <;> rfl

theorem sorted_ofInt? (n : Option Int) : (JsonValue.ofInt? n).sorted = .ofInt? n := by
  cases n <;> rfl

theorem sorted_violationJson (r : Report) (v : Violation) :
    (r.violationJson v).sorted = r.violationFields v := by
  rw [violationJson, JsonValue.sorted, JsonValue.sortedFields_eq]
  simp only [List.map_cons, List.map_nil, sorted_ofText?, sorted_ofInt?]
  rfl

theorem sorted_toJson (r : Report) :
    r.toJson.sorted = .object [("files_checked", .int r.filesChecked), ("tool", .text toolName),
      ("version", .text toolVersion), ("violations", .list (r.violations.map r.violationFields))] := by
  have hviolations : (JsonValue.list (r.violations.map r.violationJson)).sorted =
      .list (r.violations.map r.violationFields) := by
    rw [JsonValue.sorted, JsonValue.sortedItems_eq, List.map_map]
    exact congrArg JsonValue.list (List.map_congr_left fun v _ => r.sorted_violationJson v)
  rw [toJson, JsonValue.sorted, JsonValue.sortedFields_eq]
  simp only [List.map_cons, List.map_nil, hviolations]
  rfl

/-- The fields are those that the violation has in the report. -/
theorem field?_violationFields (r : Report) (v : Violation) (name : Text) :
    (r.violationFields v).field? name = (r.violationJson v).field? name := by
  rw [violationJson, ← JsonValue.field?_stableSort]
  rfl

theorem violationJson_eq_of_violationFields_eq {r r' : Report} {v v' : Violation}
    (h : r'.violationFields v' = r.violationFields v) : r'.violationJson v' = r.violationJson v := by
  simp only [violationFields, JsonValue.object.injEq, List.cons.injEq, Prod.mk.injEq, true_and,
    and_true] at h
  obtain ⟨hcol, hline, hmessage, hpath, hrule, hseverity, hsuggestion⟩ := h
  rw [violationJson, violationJson, hcol, hline, hmessage, hpath, hrule, hseverity, hsuggestion]

/-- **The JSON report is read back.** Its text is ASCII, and what is read from it is an object with the
    number of files, the tool, its version and, in the order of the report, an object for each violation
    that has the values of the violation; what a violation does not have is null. So two reports whose
    violations differ in one of these values have different texts. -/
theorem read_json (r : Report) :
    JsonValue.IsAscii r.json ∧
    JsonValue.read r.json = some (.object [("files_checked", .int r.filesChecked),
      ("tool", .text toolName), ("version", .text toolVersion),
      ("violations", .list (r.violations.map r.violationFields))]) ∧
    (∀ v name, (r.violationFields v).field? name = (r.violationJson v).field? name) ∧
    (∀ r' : Report, r'.violations.map r'.violationJson ≠ r.violations.map r.violationJson →
      r'.json ≠ r.json) := by
  refine ⟨JsonValue.isAscii_prettyAt 0 r.toJson, ?_, r.field?_violationFields, ?_⟩
  · rw [json, JsonValue.read_pretty, sorted_toJson]
  · intro r' hne heq
    have hread : r'.toJson.sorted = r.toJson.sorted := by
      rw [← Option.some_inj, ← JsonValue.read_pretty, ← JsonValue.read_pretty]
      exact congrArg JsonValue.read heq
    rw [sorted_toJson, sorted_toJson] at hread
    simp only [JsonValue.object.injEq, List.cons.injEq, Prod.mk.injEq, JsonValue.list.injEq, true_and,
      and_true] at hread
    obtain ⟨-, hfields⟩ := hread
    apply hne
    rw [← List.forall₂_eq_eq_eq, List.forall₂_map_left_iff, List.forall₂_map_right_iff] at hfields ⊢
    exact hfields.imp fun _ _ h => violationJson_eq_of_violationFields_eq h

/-- A quote, the null character and a character beyond the basic plane, and reports that differ in a
    column only. -/
theorem read_json_column :
    let withColumn (col : Option Int) : Report :=
      ⟨Path.ofText "/p".toList, Path.ofText "/p".toList, 1,
        [⟨"A", "warn", ['"', '\x00', '😀'], none, some ⟨none, some (-1), col, none, none⟩⟩], {}⟩
    (withColumn (some 0)).json ≠ (withColumn none).json := by
  intro withColumn
  refine (read_json (withColumn none)).2.2.2 (withColumn (some 0)) fun h => ?_
  simp [withColumn, violationJson, JsonValue.ofInt?] at h

end HouseStyle.Report
