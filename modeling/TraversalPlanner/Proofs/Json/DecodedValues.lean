import TraversalPlanner.Json.Decoding

/-
  Plain values, optional values, lists and records that are read
  from the documents that they are written as.

  Main statements:
    * `mapM_map_eq_some_iff`
    * `Json.toNat?_ofNat`, `Json.toInt64?_ofInt`
    * `FieldSlot.optional_given_eq_some_iff`
-/

namespace TraversalPlanner

------------------------------------------------------------
-- Lists
------------------------------------------------------------

/- A list is read as itself exactly if each of its elements is. -/
theorem mapM_map_eq_some_iff
    {α β : Type}
    {encode : α → β}
    {decode : β → Option α}
    {as : List α} :
    (as.map encode).mapM decode = some as ↔
      ∀ a ∈ as, decode (encode a) = some a := by
  induction as with
  | nil => simp
  | cons a as ih =>
      rw [List.map_cons, List.mapM_cons, List.forall_mem_cons, ← ih]
      constructor
      · intro h
        rcases Option.bind_eq_some_iff.mp h with ⟨b, hb, h⟩
        rcases Option.bind_eq_some_iff.mp h with ⟨bs, hbs, h⟩
        rcases List.cons.inj (Option.some.inj h) with ⟨rfl, rfl⟩
        exact ⟨hb, hbs⟩
      · rintro ⟨hHead, hTail⟩
        rw [hHead, hTail]
        rfl

/- A list is read if each of its written elements is. -/
theorem mapM_map_of_decode
    {α β : Type}
    {encode : α → β}
    {decode : β → Option α}
    (h : ∀ a, decode (encode a) = some a)
    (as : List α) :
    (as.map encode).mapM decode = some as :=
  mapM_map_eq_some_iff.mpr fun a _ => h a

------------------------------------------------------------
-- Plain Values
------------------------------------------------------------

namespace Json

/- Written strings are read. -/
theorem toList?_ofStrings (ss : List String) :
    toList? toText? (ofStrings ss) = some ss := by
  have hItems : (ss.map string).mapM toText? = some ss := by
    refine mapM_map_of_decode ?_ ss
    exact fun _ => rfl
  exact hItems

/- An optional string is read. -/
theorem toOption?_text (s : Option String) :
    toOption? toText? (ofOption (s.map string)) = some s := by
  cases s <;> rfl

/- A natural number that fits is read. -/
theorem toNat?_ofNat
    {n : Nat}
    (hn : n < twoTo 64) :
    (ofNat n).toNat? = some n := by
  have hInt : (ofNat n).toInt? = some (n : Int) := Numeral.toInt?_ofInt n
  have hFits : 0 ≤ (n : Int) ∧ (n : Int) < Int.ofNat (twoTo 64) :=
    ⟨Int.natCast_nonneg n, Int.ofNat_lt.mpr hn⟩
  unfold toNat?
  rw [hInt, Option.bind_eq_bind, Option.bind_some, if_pos hFits,
    Int.toNat_natCast]

/- A signed word is read. -/
theorem toInt64?_ofInt (n : Int64) :
    (ofInt n.toInt).toInt64? = some n := by
  have hInt : (ofInt n.toInt).toInt? = some n.toInt :=
    Numeral.toInt?_ofInt n.toInt
  have hFits :
      -Int.ofNat (twoTo 63) ≤ n.toInt ∧
        n.toInt < Int.ofNat (twoTo 63) :=
    ⟨n.le_toInt, n.toInt_lt⟩
  unfold toInt64?
  rw [hInt, Option.bind_eq_bind, Option.bind_some, if_pos hFits,
    Int64.ofInt_toInt]

end Json

------------------------------------------------------------
-- Fields of Records
------------------------------------------------------------

namespace FieldSlot

variable {α : Type}

/- A required field that is there is read. -/
theorem required_given
    (decode : Json → Option α)
    (j : Json) :
    required decode (.given j) = decode j :=
  rfl

/- A field with a default is read if it is there. -/
theorem withDefault_given
    (value : α)
    (decode : Json → Option α)
    (j : Json) :
    withDefault value decode (.given j) = decode j :=
  rfl

/-
  An optional field is read as itself exactly if its value is, when
  no value is written as null.
-/
theorem optional_given_eq_some_iff
    {encode : α → Json}
    {decode : Json → Option α}
    (hNull : ∀ a, encode a ≠ .null)
    {value : Option α} :
    optional decode (.given (.ofOption (value.map encode))) =
        some value ↔
      ∀ a ∈ value, decode (encode a) = some a := by
  cases value with
  | none => simp [optional, Json.ofOption, Json.toOption?]
  | some a =>
      have hOption :
          (encode a).toOption? decode = (decode (encode a)).map some := by
        have hPlain := hNull a
        unfold Json.toOption?
        split
        · exact absurd (by assumption) hPlain
        · rfl
      simp [optional, Json.ofOption, hOption, Option.map_eq_some_iff]

end FieldSlot

end TraversalPlanner
