import TraversalPlanner.Json.Printer
import TraversalPlanner.Proofs.Json.ValueReading

/-
  A value that is printed on one line is read as that value.

  Main declarations:
    * `Json.reads_compress`
    * `Json.parse?_compress`
-/

namespace TraversalPlanner

namespace Json

/- Nothing is a text of blanks. -/
theorem isBlank_nil : IsBlank [] := by
  simp [IsBlank]

mutual

/- A value printed on one line is read. -/
theorem reads_compress :
    ∀ j : Json, Reads (compress j).toList j
| .null => by
    simpa only [compress] using reads_null
| .bool b => by
    simpa only [compress] using reads_bool b
| .number n => by
    simpa only [compress] using reads_render n
| .string s => by
    simpa only [compress] using reads_quote s
| .unreadable => by
    simpa only [compress] using reads_unreadable
| .array [] => by
    simpa [compress, compressItems] using reads_array_nil
| .array (j :: rest) => by
    have hItems := readsItems_compressItems (j :: rest)
      (List.cons_ne_nil j rest)
    simpa [compress] using hItems.array
| .object [] => by
    simpa [compress, compressFields] using reads_object_nil
| .object (f :: rest) => by
    have hFields := readsFields_compressFields (f :: rest)
      (List.cons_ne_nil f rest)
    simpa [compress] using hFields.object

/- Items on one line are read up to their closing bracket. -/
theorem readsItems_compressItems :
    ∀ js : List Json, js ≠ [] →
      ReadsItems ((compressItems js).toList ++ [']']) js
| [], h => absurd rfl h
| [j], _ => by
    simpa [compressItems] using (reads_compress j).lastItem isBlank_nil
| j :: k :: rest, _ => by
    have hItems := readsItems_compressItems (k :: rest)
      (List.cons_ne_nil k rest)
    simpa [compressItems] using (reads_compress j).consItem hItems

/- Fields on one line are read up to their closing brace. -/
theorem readsFields_compressFields :
    ∀ fs : List (String × Json), fs ≠ [] →
      ReadsFields ((compressFields fs).toList ++ ['\x7d']) fs
| [], h => absurd rfl h
| [(name, j)], _ => by
    have hField := (reads_compress j).lastField isBlank_nil name
    simpa [compressFields] using hField
| (name, j) :: f :: rest, _ => by
    have hFields := readsFields_compressFields (f :: rest)
      (List.cons_ne_nil f rest)
    simpa [compressFields] using (reads_compress j).consField hFields name

end

/- A value printed on one line is read as a whole text. -/
theorem parse?_compress (j : Json) : parse? j.compress = some j :=
  (reads_compress j).parse?

end Json

end TraversalPlanner
