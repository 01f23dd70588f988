import QueryCache.Proofs.Text.Pieces
import QueryCache.Value.Field

/-! Dotted fields: a field is read one segment after the other, and nothing lies below null or below a
number. -/

set_option autoImplicit false

namespace QueryCache.Value

variable {name segment first : String} {rest : List String}

theorem segments_of_plain (plain : '.' ∉ name.toList) : segments name = [name] := by
  rw [segments, Text.split_of_not_mem plain]
  simp

theorem field_of_plain (record : Value) (plain : '.' ∉ name.toList) : record.field name = record.child name := by
  rw [field, segments_of_plain plain]
  rfl

end QueryCache.Value
