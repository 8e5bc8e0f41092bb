/-
Tables as lines of fields with commas between them.

Fields are letters, digits and underscores, so that nothing is quoted.
-/
import Mathlib.Data.List.Basic
import Mathlib.Data.List.Nodup

namespace Library
namespace Csv

abbrev Text := List Char

/-- A field that is written as it is. -/
structure Plain (field : Text) : Prop where
  ne_nil : field ≠ []
  chars : ∀ c ∈ field, c.isAlphanum = true ∨ c = '_'

instance (field : Text) : Decidable (Plain field) :=
  decidable_of_iff (field ≠ [] ∧ field.all (fun c => c.isAlphanum || c = '_') = true)
    ⟨fun h => ⟨h.1, by simpa using h.2⟩, fun h => ⟨h.ne_nil, by simpa using h.chars⟩⟩

/-- A row whose fields are plain, and at least one of them. -/
structure PlainRow (row : List Text) : Prop where
  ne_nil : row ≠ []
  fields : ∀ field ∈ row, Plain field

instance (row : List Text) : Decidable (PlainRow row) :=
  decidable_of_iff (row ≠ [] ∧ ∀ field ∈ row, Plain field)
    ⟨fun h => ⟨h.1, h.2⟩, fun h => ⟨h.ne_nil, h.fields⟩⟩

def line (row : List Text) : Text := [','].intercalate row

def render (rows : List (List Text)) : Text := rows.flatMap fun row => line row ++ ['\n']

/-- The rows of a text.  Empty lines are none. -/
def split (text : Text) : List (List Text) :=
  ((text.splitOn '\n').filter (· ≠ [])).map (·.splitOn ',')

/-- The field of a row under the name of its column. -/
def column (header row : List Text) (name : Text) : Option Text := (header.zip row).lookup name

/-! ## Splitting what was rendered -/

theorem Plain.not_mem {field : Text} (h : Plain field) {c : Char} (hc : c.isAlphanum = false)
    (hne : c ≠ '_') : c ∉ field := by
  intro hmem
  rcases h.chars c hmem with halpha | hunderscore
  · exact Bool.false_ne_true (hc.symm.trans halpha)
  · exact hne hunderscore

theorem mem_intercalate_iff {sep : Char} {row : List Text} {c : Char} (hsep : c ≠ sep) :
    c ∈ [sep].intercalate row ↔ ∃ field ∈ row, c ∈ field := by
  induction row with
  | nil => simp
  | cons field row ih =>
    cases row with
    | nil => simp
    | cons next row =>
      rw [List.intercalate_cons_cons, List.append_assoc, List.mem_append, List.mem_append, ih,
        List.mem_singleton, or_iff_right hsep]
      simp

theorem newline_not_mem_line {row : List Text} (h : PlainRow row) : '\n' ∉ line row := by
  intro hmem
  obtain ⟨field, hfield, hc⟩ := (mem_intercalate_iff (by decide)).mp hmem
  exact (h.fields field hfield).not_mem (by decide) (by decide) hc

theorem line_ne_nil {row : List Text} (h : PlainRow row) : line row ≠ [] := by
  cases row with
  | nil => exact absurd rfl h.ne_nil
  | cons field rest =>
    have hfield : Plain field := h.fields field List.mem_cons_self
    have hc := List.head_mem hfield.ne_nil
    have hcomma : field.head hfield.ne_nil ≠ ',' := fun heq =>
      hfield.not_mem (by decide) (by decide) (heq ▸ hc)
    exact List.ne_nil_of_mem
      ((mem_intercalate_iff hcomma).mpr ⟨field, List.mem_cons_self, hc⟩)

theorem splitOn_line {row : List Text} (h : PlainRow row) : (line row).splitOn ',' = row :=
  List.splitOn_intercalate ',' (fun field hfield =>
    (h.fields field hfield).not_mem (by decide) (by decide)) h.ne_nil

theorem splitOn_render {rows : List (List Text)} (h : ∀ row ∈ rows, PlainRow row) :
    (render rows).splitOn '\n' = rows.map line ++ [[]] := by
  induction rows with
  | nil => rfl
  | cons row rows ih =>
    have hrow : '\n' ∉ line row := newline_not_mem_line (h row List.mem_cons_self)
    rw [render, List.flatMap_cons, List.append_assoc, List.singleton_append,
      List.splitOn_append_cons_self_of_not_mem hrow, List.map_cons, List.cons_append]
    exact congrArg _ (ih fun r hr => h r (List.mem_cons_of_mem row hr))

/-- A table is read back as it was written. -/
theorem split_render {rows : List (List Text)} (h : ∀ row ∈ rows, PlainRow row) :
    split (render rows) = rows := by
  have hlines : ∀ l ∈ rows.map line, decide (l ≠ []) = true := by
    intro l hl
    obtain ⟨row, hrow, rfl⟩ := List.mem_map.mp hl
    exact decide_eq_true (line_ne_nil (h row hrow))
  rw [split, splitOn_render h, List.filter_append, List.filter_eq_self.mpr hlines]
  show (rows.map line ++ []).map (List.splitOn ',') = rows
  rw [List.append_nil, List.map_map]
  calc rows.map (List.splitOn ',' ∘ line) = rows.map id :=
        List.map_congr_left fun row hrow => splitOn_line (h row hrow)
    _ = rows := List.map_id rows

/-- A column is found under its name. -/
theorem column_getElem {header row : List Text} (hnodup : header.Nodup)
    (hlen : row.length = header.length) {i : Nat} (hi : i < header.length) :
    column header row header[i] = some row[i] := by
  induction header generalizing row i with
  | nil => exact absurd hi (Nat.not_lt_zero i)
  | cons name header ih =>
    cases row with
    | nil => cases hlen
    | cons field row =>
      cases i with
      | zero => exact List.lookup_cons_self
      | succ i =>
        have hrest : i < header.length := Nat.lt_of_succ_lt_succ hi
        have hne : header[i] ≠ name := fun heq =>
          (List.nodup_cons.mp hnodup).1 (heq ▸ List.getElem_mem hrest)
        rw [column, List.zip_cons_cons, List.getElem_cons_succ, List.getElem_cons_succ,
          List.lookup_cons, beq_false_of_ne hne]
        exact ih (List.nodup_cons.mp hnodup).2 (Nat.succ.inj hlen) hrest

end Csv
end Library
