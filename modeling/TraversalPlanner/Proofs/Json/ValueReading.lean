import TraversalPlanner.Proofs.Json.NumeralReading
import TraversalPlanner.Proofs.Json.StringReading

/-
  Texts that are read as a value whatever follows them.  They are
  built from the texts of parts, with blanks between the parts.

  Main declarations:
    * `Json.Reads`, `Json.ReadsItems`, `Json.ReadsFields`
    * `Json.ReadsItems.array`
    * `Json.ReadsFields.object`
    * `Json.Reads.parse?`
-/

namespace TraversalPlanner

namespace Json

------------------------------------------------------------
-- Blanks
------------------------------------------------------------

/- A text of blanks. -/
def IsBlank (cs : List Char) : Prop :=
  ∀ c ∈ cs, isSpace c = true

/- Leading blanks are skipped. -/
theorem IsBlank.skipSpace_append
    {b : List Char}
    (hb : IsBlank b)
    (cs : List Char) :
    skipSpace (b ++ cs) = skipSpace cs :=
  List.dropWhile_append_of_pos hb

/- Nothing is skipped up to a character that is no blank. -/
theorem skipSpace_cons
    {c : Char}
    (hc : isSpace c = false)
    (cs : List Char) :
    skipSpace (c :: cs) = c :: cs := by
  simp [skipSpace, hc]

/- Skipping blanks twice is skipping them once. -/
theorem skipSpace_skipSpace (cs : List Char) :
    skipSpace (skipSpace cs) = skipSpace cs := by
  induction cs with
  | nil => rfl
  | cons c cs ih =>
      cases hc : isSpace c with
      | true =>
          have hSkip : skipSpace (c :: cs) = skipSpace cs := by
            simp [skipSpace, hc]
          rw [hSkip]
          exact ih
      | false => rw [skipSpace_cons hc, skipSpace_cons hc]

/- Values are read behind leading blanks. -/
theorem readValue_skipSpace
    (bound : Nat)
    (cs : List Char) :
    readValue bound (skipSpace cs) = readValue bound cs := by
  cases bound with
  | zero => rfl
  | succ bound => simp only [readValue, skipSpace_skipSpace]

/- An item is a value, with a comma or the closing bracket behind it. -/
theorem readItems_succ
    (bound : Nat)
    (cs : List Char) :
    readItems (bound + 1) cs =
      match readValue bound cs with
      | none => none
      | some (j, rest) =>
          match skipSpace rest with
          | ']' :: rest => some ([j], rest)
          | ',' :: rest =>
              match readItems bound rest with
              | some (js, rest) => some (j :: js, rest)
              | none => none
          | _ => none :=
  rfl

/- Items are read behind leading blanks. -/
theorem readItems_skipSpace
    (bound : Nat)
    (cs : List Char) :
    readItems bound (skipSpace cs) = readItems bound cs := by
  cases bound with
  | zero => rfl
  | succ bound =>
      rw [readItems_succ, readItems_succ, readValue_skipSpace]

/- Fields are read behind leading blanks. -/
theorem readFields_skipSpace
    (bound : Nat)
    (cs : List Char) :
    readFields bound (skipSpace cs) = readFields bound cs := by
  cases bound with
  | zero => rfl
  | succ bound => simp only [readFields, skipSpace_skipSpace]

/- Blanks do not go on with a numeral. -/
theorem EndsNumeral.blank_append
    {b cs : List Char}
    (hb : IsBlank b)
    (h : EndsNumeral cs) :
    EndsNumeral (b ++ cs) := by
  cases b with
  | nil => exact h
  | cons c b =>
      rintro c' ⟨⟩
      have hc := hb c List.mem_cons_self
      simp only [isSpace, Bool.or_eq_true, decide_eq_true_eq] at hc
      rcases hc with ((rfl | rfl) | rfl) | rfl <;> decide

/- A comma or a closing bracket does not go on with a numeral. -/
theorem endsNumeral_cons
    {c : Char}
    (hc : c ∈ [',', ']', '\x7d'])
    (cs : List Char) :
    EndsNumeral (c :: cs) := by
  rintro c' ⟨⟩
  simp only [List.mem_cons, List.not_mem_nil, or_false] at hc
  rcases hc with rfl | rfl | rfl <;> decide

------------------------------------------------------------
-- Readable Texts
------------------------------------------------------------

/-
  A text is read as a value wherever no numeral goes on behind
  it.
-/
def Reads
    (t : List Char)
    (j : Json) : Prop :=
  ∀ bound rest, 2 * t.length ≤ bound → EndsNumeral rest →
    readValue bound (t ++ rest) = some (j, rest)

/- A text is read as the items of an array and its closing bracket. -/
def ReadsItems
    (t : List Char)
    (js : List Json) : Prop :=
  ∀ bound rest, 2 * t.length ≤ bound →
    readItems bound (t ++ rest) = some (js, rest)

/- A text is read as the fields of an object and its closing brace. -/
def ReadsFields
    (t : List Char)
    (fs : List (String × Json)) : Prop :=
  ∀ bound rest, 2 * t.length ≤ bound →
    readFields bound (t ++ rest) =
      some (fs.map fun f => (some f.1, f.2), rest)

/- No value is read from nothing. -/
theorem Reads.length_pos
    {t : List Char}
    {j : Json}
    (h : Reads t j) :
    0 < t.length := by
  cases t with
  | nil =>
      have hNone : none = some (j, []) :=
        h 0 [] (by simp) (by simp [EndsNumeral])
      cases hNone
  | cons c t => simp

/-
  A text is read as a value if one call reads it, whatever the
  bound on further calls is.
-/
theorem Reads.of_step
    {t : List Char}
    {j : Json}
    (hLength : 0 < t.length)
    (h : ∀ bound rest, 2 * t.length ≤ bound + 1 → EndsNumeral rest →
      readValue (bound + 1) (t ++ rest) = some (j, rest)) :
    Reads t j := by
  intro bound rest hBound hRest
  cases bound with
  | zero => omega
  | succ bound => exact h bound rest hBound hRest

/- Leading blanks do not matter. -/
theorem Reads.blank_append
    {b t : List Char}
    {j : Json}
    (hb : IsBlank b)
    (h : Reads t j) :
    Reads (b ++ t) j := by
  intro bound rest hBound hRest
  rw [List.length_append] at hBound
  rw [List.append_assoc, ← readValue_skipSpace, hb.skipSpace_append,
    readValue_skipSpace]
  exact h bound rest (by omega) hRest

------------------------------------------------------------
-- Leaves
------------------------------------------------------------

/- The absent value is read. -/
theorem reads_null : Reads "null".toList .null :=
  .of_step (by decide) fun _ _ _ _ => rfl

/- Truth values are read. -/
theorem reads_bool (b : Bool) :
    Reads (if b then "true" else "false").toList (.bool b) := by
  cases b with
  | true => exact .of_step (by decide) fun _ _ _ _ => rfl
  | false => exact .of_step (by decide) fun _ _ _ _ => rfl

/- The characters of a quoted string. -/
theorem toList_quote (s : String) :
    (quote s).toList = '"' :: (s.toList.flatMap spell ++ ['"']) := by
  simp [quote]

/- A value that starts with a quote is a string. -/
theorem readValue_quote
    (bound : Nat)
    (cs : List Char) :
    readValue (bound + 1) ('"' :: cs) =
      match readString cs with
      | some (some s, rest) => some (.string s, rest)
      | some (none, rest) => some (.unreadable, rest)
      | none => none :=
  rfl

/- Strings are read. -/
theorem reads_quote (s : String) :
    Reads (quote s).toList (.string s) := by
  rw [toList_quote]
  refine .of_step (by simp) fun bound rest _ _ => ?_
  rw [List.cons_append, List.append_assoc, List.singleton_append,
    readValue_quote, readString_spell]

/- Half of a surrogate pair is read as a value without a text. -/
theorem reads_unreadable : Reads "\"\\ud800\"".toList .unreadable := by
  refine .of_step (by decide) fun bound rest _ _ => ?_
  have hString :
      readString ('\\' :: 'u' :: 'd' :: '8' :: '0' :: '0' :: '"' :: rest) =
        some (none, rest) := by
    have hCode : codeUnit? 'd' '8' '0' '0' = some 0xD800 := by
      decide
    simp [readString, readUnits, hCode, charsOfUnits, isHighSurrogate]
  have hText : "\"\\ud800\"".toList =
      ['"', '\\', 'u', 'd', '8', '0', '0', '"'] := by
    decide
  simp only [hText, List.cons_append, List.nil_append, readValue_quote,
    hString]

/- A numeral starts with a sign or a digit. -/
theorem exists_toList_render (n : Numeral) :
    ∃ c cs, (n.render true).toList = c :: cs ∧
      (c = '-' ∨ c.isDigit = true) := by
  rw [Numeral.toList_render]
  cases n.negative with
  | true => exact ⟨_, _, rfl, Or.inl rfl⟩
  | false =>
      cases hDigits : Nat.toDigits 10 n.whole with
      | nil => exact absurd hDigits Nat.toDigits_ne_nil
      | cons d ds =>
          have hd := Numeral.isDigit_of_mem_toDigits n.whole d
            (by simp [hDigits])
          exact ⟨d, _, rfl, Or.inr hd⟩

/- What starts like no other value is read as a numeral. -/
theorem readValue_cons
    {c : Char}
    (hSpace : isSpace c = false)
    (hc : c ∉ ['n', 't', 'f', '"', '[', '\x7b'])
    (bound : Nat)
    (cs : List Char) :
    readValue (bound + 1) (c :: cs) =
      match readNumber (c :: cs) with
      | some (n, rest) => some (.number n, rest)
      | none => none := by
  unfold readValue
  rw [skipSpace_cons hSpace]
  -- only the last alternative fits the first character
  split
  case h_8 => rfl
  all_goals simp_all

/- Numerals are read. -/
theorem reads_render (n : Numeral) :
    Reads (n.render true).toList (.number n) := by
  rcases exists_toList_render n with ⟨c, cs, hText, hc⟩
  refine .of_step (by simp [hText]) fun bound rest _ hRest => ?_
  have hNumber := readNumber_render n hRest
  rw [hText, List.cons_append] at hNumber
  have hSpace : isSpace c = false := by
    rcases hc with rfl | hc
    · rfl
    · cases hSpace : isSpace c with
      | false => rfl
      | true =>
          simp only [isSpace, Bool.or_eq_true, decide_eq_true_eq] at hSpace
          rcases hSpace with ((rfl | rfl) | rfl) | rfl <;> cases hc
  have hOther : c ∉ ['n', 't', 'f', '"', '[', '\x7b'] := by
    intro hMem
    simp only [List.mem_cons, List.not_mem_nil, or_false] at hMem
    rcases hMem with rfl | rfl | rfl | rfl | rfl | rfl <;>
      revert hc <;> decide
  rw [hText, List.cons_append, readValue_cons hSpace hOther, hNumber]

------------------------------------------------------------
-- Arrays
------------------------------------------------------------

/- An array without items is read. -/
theorem reads_array_nil : Reads "[]".toList (.array []) :=
  .of_step (by decide) fun _ _ _ _ => rfl

/- The last item of an array. -/
theorem Reads.lastItem
    {t b : List Char}
    {j : Json}
    (h : Reads t j)
    (hb : IsBlank b) :
    ReadsItems (t ++ (b ++ [']'])) [j] := by
  intro bound rest hBound
  have hLength : (t ++ (b ++ [']'])).length = t.length + (b.length + 1) := by
    simp
  cases bound with
  | zero => omega
  | succ bound =>
      have hRead := h bound (b ++ ']' :: rest) (by omega)
        (.blank_append hb (endsNumeral_cons (by decide) rest))
      simp only [readItems_succ, List.append_assoc, List.singleton_append,
        hRead, hb.skipSpace_append]
      rfl

/- An item of an array in front of others. -/
theorem Reads.consItem
    {t ts : List Char}
    {j : Json}
    {js : List Json}
    (h : Reads t j)
    (hs : ReadsItems ts js) :
    ReadsItems (t ++ ',' :: ts) (j :: js) := by
  intro bound rest hBound
  have hPos := h.length_pos
  have hLength : (t ++ ',' :: ts).length = t.length + (ts.length + 1) := by
    simp
  cases bound with
  | zero => omega
  | succ bound =>
      have hRead := h bound (',' :: (ts ++ rest)) (by omega)
        (endsNumeral_cons (by decide) _)
      have hItems := hs bound rest (by omega)
      have hComma : skipSpace (',' :: (ts ++ rest)) = ',' :: (ts ++ rest) :=
        rfl
      simp only [readItems_succ, List.append_assoc, List.cons_append, hRead,
        hComma, hItems]

/- No items start with a closing bracket. -/
theorem readItems_bracket
    (bound : Nat)
    (cs : List Char) :
    readItems bound (']' :: cs) = none := by
  have hValue : ∀ bound, readValue bound (']' :: cs) = none := by
    intro bound
    cases bound <;> rfl
  cases bound with
  | zero => rfl
  | succ bound => rw [readItems_succ, hValue]

/- An array without items is told from one with some. -/
theorem readValue_bracket
    (bound : Nat)
    (cs : List Char) :
    readValue (bound + 1) ('[' :: cs) =
      match skipSpace cs with
      | ']' :: rest => some (.array [], rest)
      | rest =>
          match readItems bound rest with
          | some (items, rest) => some (.array items, rest)
          | none => none :=
  rfl

/- An array is read as its items. -/
theorem ReadsItems.array
    {t : List Char}
    {js : List Json}
    (h : ReadsItems t js) :
    Reads ('[' :: t) (.array js) := by
  refine .of_step (by simp) fun bound rest hBound _ => ?_
  have hItems := h bound rest (by rw [List.length_cons] at hBound; omega)
  rw [← readItems_skipSpace] at hItems
  rw [List.cons_append, readValue_bracket]
  split
  · rename_i cs hStart
    rw [hStart, readItems_bracket] at hItems
    cases hItems
  · rw [hItems]

------------------------------------------------------------
-- Objects
------------------------------------------------------------

/- An object without fields is read. -/
theorem reads_object_nil : Reads "\x7b\x7d".toList (.object []) :=
  .of_step (by decide) fun _ _ _ _ => rfl

/- A field is a name and a value, with a comma or the brace behind it. -/
theorem readFields_quote
    (bound : Nat)
    (name : String)
    (cs : List Char) :
    readFields (bound + 1) ((quote name).toList ++ ':' :: cs) =
      match readValue bound cs with
      | none => none
      | some (j, rest) =>
          match skipSpace rest with
          | '\x7d' :: rest => some ([(some name, j)], rest)
          | ',' :: rest =>
              match readFields bound rest with
              | some (fs, rest) => some ((some name, j) :: fs, rest)
              | none => none
          | _ => none := by
  have hName := readString_spell name (':' :: cs)
  rw [toList_quote, List.cons_append, List.append_assoc,
    List.singleton_append]
  rw [readFields, skipSpace_cons (by decide)]
  simp only [hName]
  rw [skipSpace_cons (by decide)]
  rfl

/- The last field of an object. -/
theorem Reads.lastField
    {t b : List Char}
    {j : Json}
    (h : Reads t j)
    (hb : IsBlank b)
    (name : String) :
    ReadsFields ((quote name).toList ++ ':' :: (t ++ (b ++ ['\x7d'])))
      [(name, j)] := by
  intro bound rest hBound
  simp only [List.length_cons, List.length_append] at hBound
  cases bound with
  | zero => omega
  | succ bound =>
      have hRead := h bound (b ++ '\x7d' :: rest) (by omega)
        (.blank_append hb (endsNumeral_cons (by decide) rest))
      simp only [List.append_assoc, List.cons_append, List.nil_append,
        readFields_quote, hRead, hb.skipSpace_append]
      rfl

/- A field of an object in front of others. -/
theorem Reads.consField
    {t ts : List Char}
    {j : Json}
    {fs : List (String × Json)}
    (h : Reads t j)
    (hs : ReadsFields ts fs)
    (name : String) :
    ReadsFields ((quote name).toList ++ ':' :: (t ++ ',' :: ts))
      ((name, j) :: fs) := by
  intro bound rest hBound
  simp only [List.length_cons, List.length_append] at hBound
  cases bound with
  | zero => omega
  | succ bound =>
      have hRead := h bound (',' :: (ts ++ rest)) (by omega)
        (endsNumeral_cons (by decide) _)
      have hFields := hs bound rest (by omega)
      have hComma : skipSpace (',' :: (ts ++ rest)) = ',' :: (ts ++ rest) :=
        rfl
      simp only [List.append_assoc, List.cons_append, readFields_quote,
        hRead, hComma, hFields]
      rfl

/- Leading blanks do not matter. -/
theorem ReadsFields.blank_append
    {b t : List Char}
    {fs : List (String × Json)}
    (hb : IsBlank b)
    (h : ReadsFields t fs) :
    ReadsFields (b ++ t) fs := by
  intro bound rest hBound
  rw [List.length_append] at hBound
  rw [List.append_assoc, ← readFields_skipSpace, hb.skipSpace_append,
    readFields_skipSpace]
  exact h bound rest (by omega)

/- No fields start with a closing brace. -/
theorem readFields_brace
    (bound : Nat)
    (cs : List Char) :
    readFields bound ('\x7d' :: cs) = none := by
  cases bound <;> rfl

/- Fields whose names are readable form an object. -/
theorem ofFields_map_some (fs : List (String × Json)) :
    ofFields (fs.map fun f => (some f.1, f.2)) = .object fs := by
  have hNames : ((fs.map fun f => (some f.1, f.2)).mapM
      fun (f : Option String × Json) => f.1.map (·, f.2)) = some fs := by
    induction fs with
    | nil => rfl
    | cons f fs ih =>
        rw [List.map_cons, List.mapM_cons, ih]
        rfl
  unfold ofFields
  rw [hNames]

/- An object without fields is told from one with some. -/
theorem readValue_brace
    (bound : Nat)
    (cs : List Char) :
    readValue (bound + 1) ('\x7b' :: cs) =
      match skipSpace cs with
      | '\x7d' :: rest => some (.object [], rest)
      | rest =>
          match readFields bound rest with
          | some (fields, rest) => some (ofFields fields, rest)
          | none => none :=
  rfl

/- An object is read as its fields. -/
theorem ReadsFields.object
    {t : List Char}
    {fs : List (String × Json)}
    (h : ReadsFields t fs) :
    Reads ('\x7b' :: t) (.object fs) := by
  refine .of_step (by simp) fun bound rest hBound _ => ?_
  have hFields := h bound rest (by rw [List.length_cons] at hBound; omega)
  rw [← readFields_skipSpace] at hFields
  rw [List.cons_append, readValue_brace]
  split
  · rename_i cs hStart
    rw [hStart, readFields_brace] at hFields
    cases hFields
  · simp only [hFields, ofFields_map_some]

------------------------------------------------------------
-- Whole Texts
------------------------------------------------------------

/- A text that is read as a value holds that value. -/
theorem Reads.parse?
    {text : String}
    {j : Json}
    (h : Reads text.toList j) :
    Json.parse? text = some j := by
  have hRead := h (2 * text.toList.length + 2) [] (by omega)
    (by simp [EndsNumeral])
  rw [List.append_nil] at hRead
  simp only [Json.parse?, hRead]
  rfl

end Json

end TraversalPlanner
