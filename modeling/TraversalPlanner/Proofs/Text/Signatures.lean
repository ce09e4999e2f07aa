import TraversalPlanner.Pattern.Signature
import TraversalPlanner.Proofs.Text.ReadingBack

/-
  The building blocks of signatures read back if their parts do.

  Main declarations:
    * `Text.ReadsBack.between`, `Text.ReadsBack.pair`
    * `Signature.tagged_inj`
    * `Signature.readsBack_optional`
    * `Signature.readsBack_listed`
-/

namespace TraversalPlanner

------------------------------------------------------------
-- Texts Around Texts
------------------------------------------------------------

namespace Text

namespace ReadsBack

variable {A B C : Type}

/- A key that another key determines reads back, too. -/
theorem of_key
    {write : A → String}
    {key : A → B}
    {other : A → C}
    (h : ReadsBack write key)
    (hKey : ∀ a b, key a = key b → other a = other b) :
    ReadsBack write other := by
  intro a b s t hText
  rcases h hText with ⟨hEq, hRest⟩
  exact ⟨hKey a b hEq, hRest⟩

/- Texts between two fixed texts read back if they do. -/
theorem between
    {write : A → String}
    {key : A → B}
    (h : ReadsBack write key)
    (before behind : String) :
    ReadsBack (fun a => before ++ write a ++ behind) key := by
  intro a b s t hText
  simp only [String.toList_append, List.append_assoc] at hText
  rcases h (List.append_cancel_left hText) with ⟨hKey, hRest⟩
  exact ⟨hKey, List.append_cancel_left hRest⟩

/- Two texts with a fixed one between them read back if they do. -/
theorem pair
    {first : A → String}
    {second : A → String}
    {firstKey : A → B}
    {secondKey : A → C}
    (hFirst : ReadsBack first firstKey)
    (hSecond : ReadsBack second secondKey)
    (separator : String) :
    ReadsBack (fun a => first a ++ separator ++ second a)
      (fun a => (firstKey a, secondKey a)) := by
  intro a b s t hText
  simp only [String.toList_append, List.append_assoc] at hText
  rcases hFirst hText with ⟨hFirstKey, hText⟩
  rcases hSecond (List.append_cancel_left hText) with ⟨hSecondKey, hRest⟩
  exact ⟨Prod.ext hFirstKey hSecondKey, hRest⟩

/- Texts that a parenthesis closes read back if they do without it. -/
theorem closed
    {write : A → String}
    {key : A → B}
    (h : ReadsBack write key)
    {a b : A}
    {s t : List Char}
    (hText :
      (write a).toList ++ ')' :: s = (write b).toList ++ ')' :: t) :
    key a = key b ∧ s = t := by
  rcases h hText with ⟨hKey, hRest⟩
  injection hRest with _ hRest
  exact ⟨hKey, hRest⟩

end ReadsBack

end Text

namespace Signature

open Text

------------------------------------------------------------
-- Named Alternatives
------------------------------------------------------------

/- A name that no parenthesis ends. -/
def IsTag (name : String) : Prop :=
  ∀ c ∈ name.toList, decide (c ≠ '(') = true

instance (name : String) : Decidable (IsTag name) :=
  decidable_of_iff
    (name.toList.all fun c => decide (c ≠ '(')) List.all_eq_true

/- The characters of a named alternative. -/
theorem toList_tagged
    (name content : String) :
    (tagged name content).toList =
      name.toList ++ '(' :: (content.toList ++ [')']) := by
  simp [tagged]

/- A named alternative shows its name. -/
theorem tagged_inj
    {m n c d : String}
    {s t : List Char}
    (hm : IsTag m)
    (hn : IsTag n)
    (h : (tagged m c).toList ++ s = (tagged n d).toList ++ t) :
    m = n ∧ c.toList ++ ')' :: s = d.toList ++ ')' :: t := by
  simp only [toList_tagged, List.append_assoc, List.cons_append,
    List.nil_append] at h
  have hMark : ∀ u : List Char,
      ∀ e ∈ ('(' :: u).head?, decide (e ≠ '(') = false := by
    intro u e he
    cases he
    rfl
  rcases append_inj_of_forall (fun e => decide (e ≠ '(')) hm hn
      (hMark _) (hMark _) h with ⟨hName, hRest⟩
  injection hRest with _ hRest
  exact ⟨String.toList_inj.mp hName, hRest⟩

/- Alternatives with one name read back if their contents do. -/
theorem readsBack_tagged
    {A B : Type}
    {write : A → String}
    {key : A → B}
    (h : ReadsBack write key)
    (name : String) :
    ReadsBack (fun a => tagged name (write a)) key :=
  h.between (name ++ "(") ")"

/- A content without parentheses ends with its alternative. -/
theorem content_inj
    {c d : String}
    {s t : List Char}
    (hc : ∀ e ∈ c.toList, decide (e ≠ ')') = true)
    (hd : ∀ e ∈ d.toList, decide (e ≠ ')') = true)
    (h : c.toList ++ ')' :: s = d.toList ++ ')' :: t) :
    c = d ∧ s = t := by
  have hMark : ∀ u : List Char,
      ∀ e ∈ (')' :: u).head?, decide (e ≠ ')') = false := by
    intro u e he
    cases he
    rfl
  rcases append_inj_of_forall (fun e => decide (e ≠ ')')) hc hd
      (hMark _) (hMark _) h with ⟨hContent, hRest⟩
  injection hRest with _ hRest
  exact ⟨String.toList_inj.mp hContent, hRest⟩

------------------------------------------------------------
-- Optional Parts
------------------------------------------------------------

/- Optional parts read back if the parts do. -/
theorem readsBack_optional
    {A B : Type}
    {write : A → String}
    {key : A → B}
    (h : ReadsBack write key) :
    ReadsBack (fun o : Option A => optional (o.map write))
      (Option.map key) := by
  intro a b s t hText
  cases a with
  | none =>
      cases b with
      | none => exact ⟨rfl, List.append_cancel_left hText⟩
      | some b =>
          simp [optional, tagged] at hText
  | some a =>
      cases b with
      | none =>
          simp [optional, tagged] at hText
      | some b =>
          have hSome := readsBack_tagged h "Some"
          rcases hSome hText with ⟨hKey, hRest⟩
          exact ⟨congrArg some hKey, hRest⟩

------------------------------------------------------------
-- Lists
------------------------------------------------------------

/- The parts of a list behind the first one. -/
def laterParts
    {A : Type}
    (write : A → String)
    (as : List A) : List Char :=
  as.flatMap fun a => ',' :: ' ' :: (write a).toList

/- The characters of a list with a first part. -/
theorem toList_listed_cons
    {A : Type}
    (write : A → String)
    (a : A)
    (as : List A) :
    (listed ((a :: as).map write)).toList =
      '[' :: ((write a).toList ++ (laterParts write as ++ [']'])) := by
  have hParts : ∀ (as : List A) (a : A),
      (String.intercalate ", " ((a :: as).map write)).toList =
        (write a).toList ++ laterParts write as := by
    intro as
    induction as with
    | nil =>
        intro a
        simp [laterParts]
    | cons b as ih =>
        intro a
        have hTail := ih b
        rw [List.map_cons] at hTail
        rw [List.map_cons, List.map_cons, String.intercalate_cons_cons,
          String.toList_append, String.toList_append, hTail]
        simp [laterParts]
  unfold listed
  rw [String.toList_append, String.toList_append, hParts]
  simp

/- The later parts of a list read back if the parts do. -/
theorem laterParts_inj
    {A B : Type}
    {write : A → String}
    {key : A → B}
    (h : ReadsBack write key)
    {as : List A} :
    ∀ {bs : List A} {s t : List Char},
      laterParts write as ++ ']' :: s = laterParts write bs ++ ']' :: t →
        as.map key = bs.map key ∧ s = t := by
  induction as with
  | nil =>
      intro bs s t hText
      cases bs with
      | nil =>
          injection hText with _ hRest
          exact ⟨rfl, hRest⟩
      | cons b bs =>
          injection hText with hHead _
          cases hHead
  | cons a as ih =>
      intro bs s t hText
      cases bs with
      | nil =>
          injection hText with hHead _
          cases hHead
      | cons b bs =>
          simp only [laterParts, List.flatMap_cons, List.cons_append,
            List.append_assoc] at hText
          injection hText with _ hText
          injection hText with _ hText
          rcases h hText with ⟨hKey, hText⟩
          rcases ih hText with ⟨hKeys, hRest⟩
          exact ⟨by rw [List.map_cons, List.map_cons, hKey, hKeys], hRest⟩

/- Lists read back if their parts do and do not look like the end. -/
theorem readsBack_listed
    {A B : Type}
    {write : A → String}
    {key : A → B}
    (h : ReadsBack write key)
    (hStart :
      ∀ (a : A) (s t : List Char), (write a).toList ++ s ≠ ']' :: t) :
    ReadsBack (fun as : List A => listed (as.map write))
      (List.map key) := by
  intro as bs s t hText
  have hNil : (listed (([] : List A).map write)).toList = ['[', ']'] := by
    simp [listed]
  cases as with
  | nil =>
      cases bs with
      | nil => exact ⟨rfl, List.append_cancel_left hText⟩
      | cons b bs =>
          rw [hNil, toList_listed_cons] at hText
          simp only [List.cons_append, List.append_assoc] at hText
          injection hText with _ hText
          exact absurd hText.symm (hStart _ _ _)
  | cons a as =>
      cases bs with
      | nil =>
          rw [hNil, toList_listed_cons] at hText
          simp only [List.cons_append, List.append_assoc] at hText
          injection hText with _ hText
          exact absurd hText (hStart _ _ _)
      | cons b bs =>
          rw [toList_listed_cons, toList_listed_cons] at hText
          simp only [List.cons_append, List.append_assoc,
            List.nil_append] at hText
          injection hText with _ hText
          rcases h hText with ⟨hKey, hText⟩
          rcases laterParts_inj h hText with ⟨hKeys, hRest⟩
          exact ⟨by rw [List.map_cons, List.map_cons, hKey, hKeys], hRest⟩

------------------------------------------------------------
-- Records
------------------------------------------------------------

/- Records of two fields read back if the fields do. -/
theorem readsBack_record_two
    {A B C : Type}
    {first second : A → String}
    {firstKey : A → B}
    {secondKey : A → C}
    (hFirst : ReadsBack first firstKey)
    (hSecond : ReadsBack second secondKey)
    (name f g : String) :
    ReadsBack (fun a => record name [(f, first a), (g, second a)])
      (fun a => (firstKey a, secondKey a)) := by
  have hRecord :
      (fun a => record name [(f, first a), (g, second a)]) =
        fun a =>
          name ++ " \x7b " ++ f ++ ": " ++
              (first a ++ (", " ++ g ++ ": ") ++ second a) ++
            " \x7d" := by
    funext a
    simp [record, String.append_assoc]
  rw [hRecord]
  exact (hFirst.pair hSecond _).between _ _

/- Records of three fields read back if the fields do. -/
theorem readsBack_record_three
    {A B C D : Type}
    {first second third : A → String}
    {firstKey : A → B}
    {secondKey : A → C}
    {thirdKey : A → D}
    (hFirst : ReadsBack first firstKey)
    (hSecond : ReadsBack second secondKey)
    (hThird : ReadsBack third thirdKey)
    (name f g h : String) :
    ReadsBack
      (fun a => record name [(f, first a), (g, second a), (h, third a)])
      (fun a => (firstKey a, secondKey a, thirdKey a)) := by
  have hRecord :
      (fun a => record name [(f, first a), (g, second a), (h, third a)]) =
        fun a =>
          name ++ " \x7b " ++ f ++ ": " ++
              (first a ++ (", " ++ g ++ ": ") ++
                (second a ++ (", " ++ h ++ ": ") ++ third a)) ++
            " \x7d" := by
    funext a
    simp [record, String.append_assoc]
  rw [hRecord]
  exact (hFirst.pair (hSecond.pair hThird _) _).between _ _

end Signature

end TraversalPlanner
