import ImportDepth.Proofs.Json
import ImportDepth.Report.Render
import Mathlib.Algebra.Ring.Int.Defs

/-! Reports as JSON. A report has a JSON form exactly if its integers have 64 bits and its texts hold no
surrogate, and this form determines it. -/
namespace ImportDepth

structure Finding.Writable (f : Finding) : Prop where
  numbers : ∀ n ∈ [f.line, f.col, f.endLine, f.endCol], Json.fits n = true
  texts : ∀ t ∈ [f.path, f.rule, f.message], t.IsScalar
  specifier : ∀ t, f.specifier = some t → t.IsScalar

structure Report.Writable (r : Report) : Prop where
  count : Json.fits r.filesChecked = true
  findings : ∀ f ∈ r.findings, f.Writable

open Json

namespace Finding

theorem toValue_eq (f : Finding) : f.toValue = .table [("col", .int f.col), ("end_col", .int f.endCol),
    ("end_line", .int f.endLine), ("line", .int f.line), ("message", .text f.message), ("path", .text f.path),
    ("rule", .text f.rule), ("specifier", f.specifier.elim .null .text)] := by
  unfold toValue
  cases f.specifier <;> rfl

theorem toValue_injective : Function.Injective toValue := by
  intro f g same
  have specifier : ∀ x y : Option Text, x.elim Value.null .text = y.elim Value.null .text → x = y := by
    intro x y same
    cases x <;> cases y <;> cases same <;> rfl
  simp only [toValue_eq, Value.table.injEq, List.cons.injEq, Prod.mk.injEq, Value.int.injEq,
    Value.text.injEq, true_and, and_true] at same
  obtain ⟨col, endCol, endLine, line, message, path, rule, specified⟩ := same
  have specified := specifier _ _ specified
  cases f
  cases g
  simp_all

theorem exact_toValue (f : Finding) : Exact f.toValue := by
  have keys : (["col", "end_col", "end_line", "line", "message", "path", "rule", "specifier"] :
      List Text).Nodup := by decide
  rw [toValue_eq]
  refine .table keys ?_
  simp only [List.forall_mem_cons, Exact.int, Exact.text, true_and]
  refine ⟨?_, by simp⟩
  cases f.specifier with
  | none => exact .null
  | some specifier => exact .text specifier

theorem obstacle?_toValue_eq_none_iff (f : Finding) : obstacle? f.toValue = none ↔ f.Writable := by
  have specified : obstacle? (f.specifier.elim .null .text) = none ↔
      ∀ t, f.specifier = some t → t.IsScalar := by
    cases f.specifier with
    | none => simp [obstacle?]
    | some specifier => simp [obstacle?_text_eq_none_iff]
  rw [toValue_eq, obstacle?_table_eq_none_iff]
  simp only [List.forall_mem_cons, Text.IsScalar.ofString, true_and, obstacle?_int_eq_none_iff,
    obstacle?_text_eq_none_iff]
  constructor
  · rintro ⟨col, endCol, endLine, line, message, path, rule, specifier, _⟩
    exact ⟨by simp [*], by simp [*], specified.mp specifier⟩
  · rintro ⟨numbers, texts, specifier⟩
    simp only [List.forall_mem_cons] at numbers texts
    obtain ⟨line, col, endLine, endCol, _⟩ := numbers
    obtain ⟨path, rule, message, _⟩ := texts
    exact ⟨col, endCol, endLine, line, message, path, rule, specified.mpr specifier, by simp⟩

end Finding

namespace Report

variable {r : Report} {read : Text → Option Value} {text : Text}

theorem exact_toValue (r : Report) : Exact r.toValue := by
  have keys : (["files_checked", "findings", "ok"] : List Text).Nodup := by decide
  refine .table keys ?_
  simp only [List.forall_mem_cons, Exact.int, Exact.bool, true_and]
  refine ⟨.list fun v member => ?_, by simp⟩
  obtain ⟨f, _, rfl⟩ := List.mem_map.mp member
  exact f.exact_toValue

theorem obstacle?_toValue_eq_none_iff (r : Report) : obstacle? r.toValue = none ↔ r.Writable := by
  rw [toValue, obstacle?_table_eq_none_iff]
  simp only [List.forall_mem_cons, Text.IsScalar.ofString, true_and, obstacle?_int_eq_none_iff,
    obstacle?_list_eq_none_iff, List.forall_mem_map, Finding.obstacle?_toValue_eq_none_iff]
  exact ⟨fun ⟨count, findings, _⟩ => ⟨count, findings⟩,
    fun ⟨count, findings⟩ => ⟨count, findings, by simp [obstacle?], by simp⟩⟩

theorem renderJson_eq_ok_iff : r.renderJson = .ok text ↔ r.Writable ∧ text = layout 0 r.toValue ++ "\n" := by
  rw [renderJson, write, ← obstacle?_toValue_eq_none_iff]
  cases obstacle? r.toValue with
  | none =>
    constructor
    · intro written
      exact ⟨rfl, (Except.ok.inj written).symm⟩
    · rintro ⟨_, rfl⟩
      rfl
  | some reason =>
    constructor
    · intro written
      cases written
    · rintro ⟨free, _⟩
      cases free

/-- Every reader gives back what was written. -/
theorem read_renderJson (standard : IsStandard read) (written : r.renderJson = .ok text) :
    read text = some r.toValue := by
  obtain ⟨writable, rfl⟩ := renderJson_eq_ok_iff.mp written
  exact standard.read_layout r.exact_toValue (r.obstacle?_toValue_eq_none_iff.mpr writable)

theorem renderJson_of_writable (writable : r.Writable) :
    ∃ text, r.renderJson = .ok text ∧ read? text = some r.toValue := by
  have written := renderJson_eq_ok_iff.mpr ⟨writable, rfl⟩
  exact ⟨_, written, read_renderJson isStandard_read? written⟩

theorem renderJson_of_not_writable (unwritable : ¬ r.Writable) :
    ∃ reason, r.renderJson = .error reason := by
  cases written : r.renderJson with
  | error reason => exact ⟨reason, rfl⟩
  | ok text => exact absurd (renderJson_eq_ok_iff.mp written).1 unwritable

theorem toValue_injective : Function.Injective toValue := by
  intro r other same
  simp only [toValue, Value.table.injEq, List.cons.injEq, Prod.mk.injEq, Value.int.injEq, Value.list.injEq,
    true_and] at same
  obtain ⟨count, findings, _⟩ := same
  have each := (List.map_inj_right fun f g => @Finding.toValue_injective f g).mp findings
  cases r
  cases other
  cases count
  cases each
  rfl

def integers (r : Report) : List Int :=
  r.filesChecked :: r.findings.flatMap fun f => [f.line, f.col, f.endLine, f.endCol]

def texts (r : Report) : List Text :=
  r.findings.flatMap fun f => [f.path, f.rule, f.message] ++ f.specifier.toList

theorem writable_iff_forall : r.Writable ↔
    (∀ n ∈ r.integers, -2 ^ 63 ≤ n ∧ n ≤ 2 ^ 64 - 1) ∧ ∀ t ∈ r.texts, t.IsScalar := by
  have bounds : ∀ n : Int, fits n = true ↔ -2 ^ 63 ≤ n ∧ n ≤ 2 ^ 64 - 1 := by
    intro n
    simp [fits]
  simp only [integers, texts, List.forall_mem_cons, List.mem_flatMap, ← bounds]
  constructor
  · rintro ⟨count, findings⟩
    refine ⟨⟨count, ?_⟩, ?_⟩
    · rintro n ⟨f, member, held⟩
      exact (findings f member).numbers n held
    · rintro t ⟨f, member, held⟩
      rcases List.mem_append.mp held with held | held
      · exact (findings f member).texts t held
      · exact (findings f member).specifier t (Option.mem_toList.mp held)
  · rintro ⟨⟨count, numbers⟩, texts⟩
    refine ⟨count, fun f member => ⟨fun n held => ?_, fun t held => ?_, fun t held => ?_⟩⟩
    · exact numbers n ⟨f, member, held⟩
    · exact texts t ⟨f, member, List.mem_append_left _ held⟩
    · exact texts t ⟨f, member, List.mem_append_right _ (Option.mem_toList.mpr held)⟩

/-- A report has a JSON form unless an integer has more than 64 bits or a text holds a surrogate. Its form
is read by every reader as the one object with its fields, so no other report has it. -/
theorem renderJson_faithful (r : Report) :
    ((∃ reason, r.renderJson = .error reason) ↔
      (∃ n ∈ r.integers, n < -2 ^ 63 ∨ 2 ^ 64 - 1 < n) ∨ ∃ t ∈ r.texts, ∃ c ∈ t, c.IsSurrogate) ∧
    (∀ text, r.renderJson = .ok text →
      (∀ read, IsStandard read → read text = some (.table [
        ("files_checked", .int r.filesChecked),
        ("findings", .list (r.findings.map fun f => .table [
          ("col", .int f.col), ("end_col", .int f.endCol), ("end_line", .int f.endLine),
          ("line", .int f.line), ("message", .text f.message), ("path", .text f.path),
          ("rule", .text f.rule), ("specifier", f.specifier.elim .null .text)])),
        ("ok", .bool (decide (r.findings = [])))])) ∧
      ∀ other : Report, other.renderJson = .ok text → other = r) ∧
    IsStandard read? := by
  refine ⟨?_, fun text written => ⟨fun read standard => ?_, fun other same => ?_⟩, isStandard_read?⟩
  · have failed : (∃ reason, r.renderJson = .error reason) ↔ ¬ r.Writable := by
      refine ⟨?_, renderJson_of_not_writable⟩
      rintro ⟨reason, failed⟩ writable
      rw [renderJson_eq_ok_iff.mpr ⟨writable, rfl⟩] at failed
      cases failed
    rw [failed, writable_iff_forall, not_and_or]
    simp only [Text.IsScalar, not_forall, not_and_or, Int.not_le, not_not, exists_prop]
  · have ok : r.ok = decide (r.findings = []) := by
      rw [Report.ok]
      cases r.findings <;> rfl
    rw [read_renderJson standard written, toValue, ok]
    simp only [Finding.toValue_eq]
  · have first := read_renderJson isStandard_read? written
    have second := read_renderJson isStandard_read? same
    exact toValue_injective (Option.some.inj (second.symm.trans first))

end Report
end ImportDepth
