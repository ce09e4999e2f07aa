import TraversalPlanner.Json.Printer
import TraversalPlanner.Proofs.Json.ValueReading

/-
  A value that is printed on indented lines is read as that value.

  Main declarations:
    * `Json.reads_prettyAt`
    * `Json.parse?_pretty`
-/

namespace TraversalPlanner

namespace Json

/- A line starts with blanks. -/
theorem isBlank_newline (depth : Nat) : IsBlank (newline depth).toList := by
  have hText : (newline depth).toList =
      '\n' :: List.replicate (2 * depth) ' ' := by
    simp [newline]
  intro c hc
  rw [hText, List.mem_cons, List.mem_replicate] at hc
  rcases hc with rfl | ⟨-, rfl⟩ <;> rfl

/- A space separates the name of a field from its value. -/
theorem isBlank_space : IsBlank [' '] := by
  simp [IsBlank, isSpace]

mutual

/- A printed value is read at any depth. -/
theorem reads_prettyAt
    (depth : Nat) :
    ∀ j : Json, Reads (prettyAt depth j).toList j
| .null => by
    simpa only [prettyAt] using reads_null
| .bool b => by
    simpa only [prettyAt] using reads_bool b
| .number n => by
    simpa only [prettyAt] using reads_render n
| .string s => by
    simpa only [prettyAt] using reads_quote s
| .unreadable => by
    simpa only [prettyAt] using reads_unreadable
| .array [] => by
    simpa only [prettyAt] using reads_array_nil
| .array (j :: rest) => by
    have hItems := readsItems_prettyItems (depth + 1)
      (isBlank_newline depth) (j :: rest) (List.cons_ne_nil j rest)
    simpa [prettyAt] using hItems.array
| .object [] => by
    simpa only [prettyAt] using reads_object_nil
| .object (f :: rest) => by
    have hFields := readsFields_prettyFields (depth + 1)
      (isBlank_newline depth) (f :: rest) (List.cons_ne_nil f rest)
    simpa [prettyAt] using hFields.object

/- Printed items are read up to their closing bracket. -/
theorem readsItems_prettyItems
    (depth : Nat)
    {b : List Char}
    (hb : IsBlank b) :
    ∀ js : List Json, js ≠ [] →
      ReadsItems ((prettyItems depth js).toList ++ (b ++ [']'])) js
| [], h => absurd rfl h
| [j], _ => by
    have hItem := (reads_prettyAt depth j).blank_append
      (isBlank_newline depth)
    simpa [prettyItems] using hItem.lastItem hb
| j :: k :: rest, _ => by
    have hItem := (reads_prettyAt depth j).blank_append
      (isBlank_newline depth)
    have hItems := readsItems_prettyItems depth hb (k :: rest)
      (List.cons_ne_nil k rest)
    simpa [prettyItems] using hItem.consItem hItems

/- Printed fields are read up to their closing brace. -/
theorem readsFields_prettyFields
    (depth : Nat)
    {b : List Char}
    (hb : IsBlank b) :
    ∀ fs : List (String × Json), fs ≠ [] →
      ReadsFields ((prettyFields depth fs).toList ++ (b ++ ['\x7d'])) fs
| [], h => absurd rfl h
| [(name, j)], _ => by
    have hValue := (reads_prettyAt depth j).blank_append isBlank_space
    have hField := (hValue.lastField hb name).blank_append
      (isBlank_newline depth)
    simpa [prettyFields] using hField
| (name, j) :: f :: rest, _ => by
    have hValue := (reads_prettyAt depth j).blank_append isBlank_space
    have hFields := readsFields_prettyFields depth hb (f :: rest)
      (List.cons_ne_nil f rest)
    have hField := (hValue.consField hFields name).blank_append
      (isBlank_newline depth)
    simpa [prettyFields] using hField

end

/- A printed value is read. -/
theorem parse?_pretty (j : Json) : parse? j.pretty = some j :=
  (reads_prettyAt 0 j).parse?

end Json

end TraversalPlanner
