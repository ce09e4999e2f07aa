import TraversalPlanner.Text.Hexadecimal
import TraversalPlanner.Text.Quoted

/-
  Texts that can be read back.  A way of writing things reads
  back if what it wrote is known from any text that starts with
  it, together with the rest of that text.  Quoted texts do, and
  so do texts of some kind of characters, up to a character of
  another kind.

  Main declarations:
    * `Text.ReadsBack`
    * `Text.append_inj_of_forall`
    * `Text.readSpelled`
    * `Text.readsBack_quote`
-/

namespace TraversalPlanner

namespace Text

------------------------------------------------------------
-- Reading Back
------------------------------------------------------------

/-
  What is written shows its key, wherever a text goes on after
  it.
-/
def ReadsBack
    {A B : Type}
    (write : A → String)
    (key : A → B) : Prop :=
  ∀ ⦃a b : A⦄ ⦃s t : List Char⦄,
    (write a).toList ++ s = (write b).toList ++ t →
      key a = key b ∧ s = t

/- Equal texts have equal keys. -/
theorem ReadsBack.key_eq
    {A B : Type}
    {write : A → String}
    {key : A → B}
    (h : ReadsBack write key)
    {a b : A}
    (hText : write a = write b) :
    key a = key b := by
  have hList :
      (write a).toList ++ [] = (write b).toList ++ [] := by
    rw [hText]
  exact (h hList).1

------------------------------------------------------------
-- Characters of a Kind
------------------------------------------------------------

/-
  A text of characters of a kind ends where a character of
  another kind follows.
-/
theorem append_inj_of_forall
    (p : Char → Bool)
    {cs : List Char} :
    ∀ {ds s t : List Char},
      (∀ c ∈ cs, p c = true) →
      (∀ c ∈ ds, p c = true) →
      (∀ c ∈ s.head?, p c = false) →
      (∀ c ∈ t.head?, p c = false) →
      cs ++ s = ds ++ t →
        cs = ds ∧ s = t := by
  induction cs with
  | nil =>
      intro ds s t _ hds hs _ h
      cases ds with
      | nil => exact ⟨rfl, h⟩
      | cons d ds =>
          -- a character of the kind follows where none may
          have hHead : d ∈ s.head? := by
            rw [List.nil_append] at h
            rw [h]
            rfl
          have hTrue := hds d List.mem_cons_self
          rw [hs d hHead] at hTrue
          cases hTrue
  | cons c cs ih =>
      intro ds s t hcs hds hs ht h
      cases ds with
      | nil =>
          have hHead : c ∈ t.head? := by
            rw [List.nil_append] at h
            rw [← h]
            rfl
          have hTrue := hcs c List.mem_cons_self
          rw [ht c hHead] at hTrue
          cases hTrue
      | cons d ds =>
          rw [List.cons_append, List.cons_append] at h
          injection h with hHead hTail
          rcases ih (fun e he => hcs e (List.mem_cons_of_mem c he))
              (fun e he => hds e (List.mem_cons_of_mem d he))
              hs ht hTail with ⟨hEq, hRest⟩
          exact ⟨by rw [hHead, hEq], hRest⟩

------------------------------------------------------------
-- Hexadecimal Digits
------------------------------------------------------------

/- The digits of a number, where a character is one. -/
def hexDigits (cs : List Char) : List Nat :=
  cs.filterMap hexDigit?

/- Hexadecimal digits are characters for their values. -/
theorem hexDigit?_digitChar :
    ∀ d < 16, hexDigit? (Nat.digitChar d) = some d := by
  decide

/- A number written in hexadecimal digits reads back. -/
theorem hexToNat_toDigits (n : Nat) :
    hexToNat (hexDigits (Nat.toDigits 16 n)) = n := by
  induction n using Nat.strongRecOn with
  | ind n ih =>
      by_cases h : n < 16
      · rw [Nat.toDigits_of_lt_base h]
        simp [hexDigits, hexToNat, hexDigit?_digitChar n h]
      · have hDiv := ih (n / 16) (by omega)
        have hMod := hexDigit?_digitChar (n % 16) (by omega)
        rw [Nat.toDigits_of_base_le (by decide) (by omega)]
        unfold hexDigits hexToNat at hDiv ⊢
        rw [List.filterMap_append, List.foldl_append, hDiv]
        simp only [List.filterMap_cons, hMod, List.filterMap_nil,
          List.foldl_cons, List.foldl_nil]
        omega

/- Hexadecimal digits are no braces. -/
theorem toDigits_ne_brace (n : Nat) :
    ∀ c ∈ Nat.toDigits 16 n, decide (c ≠ '\x7d') = true := by
  have hDigit : ∀ d < 16, decide (Nat.digitChar d ≠ '\x7d') = true := by
    decide
  induction n using Nat.strongRecOn with
  | ind n ih =>
      intro c hc
      by_cases h : n < 16
      · rw [Nat.toDigits_of_lt_base h, List.mem_singleton] at hc
        rw [hc]
        exact hDigit n h
      · rw [Nat.toDigits_of_base_le (by decide) (by omega)] at hc
        rcases List.mem_append.mp hc with hc | hc
        · exact ih (n / 16) (by omega) c hc
        · rw [List.mem_singleton.mp hc]
          exact hDigit _ (by omega)

------------------------------------------------------------
-- Spelled Characters
------------------------------------------------------------

/- The character that a short escape stands for. -/
def unescape (c : Char) : Char :=
  if c = 'n' then
    '\n'
  else if c = 'r' then
    '\r'
  else if c = 't' then
    '\t'
  else if c = '0' then
    Char.ofNat 0
  else
    c

/- Read what follows a backslash. -/
def readEscaped : List Char → Option (Char × List Char)
| [] => none
| c :: cs =>
    if c = 'u' then
      let digits := (cs.drop 1).takeWhile fun d => d ≠ '\x7d'
      let rest := (cs.drop 1).dropWhile fun d => d ≠ '\x7d'
      some (Char.ofNat (hexToNat (hexDigits digits)), rest.drop 1)
    else
      some (unescape c, cs)

/- Read a character between double quotes. -/
def readSpelled : List Char → Option (Char × List Char)
| [] => none
| c :: cs => if c = '\\' then readEscaped cs else some (c, cs)

/- A code point that is spelled out reads back. -/
theorem readEscaped_codePoint
    (n : Nat)
    (s : List Char) :
    readEscaped
        ('u' :: '\x7b' :: (Nat.toDigits 16 n ++ '\x7d' :: s)) =
      some (Char.ofNat n, s) := by
  have hTake :
      (Nat.toDigits 16 n ++ '\x7d' :: s).takeWhile
          (fun d => decide (d ≠ '\x7d')) =
        Nat.toDigits 16 n := by
    rw [List.takeWhile_append_of_pos (toDigits_ne_brace n)]
    simp
  have hDrop :
      (Nat.toDigits 16 n ++ '\x7d' :: s).dropWhile
          (fun d => decide (d ≠ '\x7d')) =
        '\x7d' :: s := by
    rw [List.dropWhile_append_of_pos (toDigits_ne_brace n)]
    simp
  unfold readEscaped
  simp only [if_true, List.drop_succ_cons, List.drop_zero, hTake, hDrop,
    hexToNat_toDigits]

/- A spelled character reads back. -/
theorem readSpelled_spell
    (c : Char)
    (s : List Char) :
    readSpelled (spell c ++ s) = some (c, s) := by
  unfold spell
  split
  · rename_i h
    rw [h]
    rfl
  · split
    · rename_i h
      rw [h]
      rfl
    · rename_i hBackslash
      split
      · rename_i h
        rw [h]
        rfl
      · split
        · rename_i h
          rw [h]
          rfl
        · split
          · rename_i h
            rw [h]
            rfl
          · split
            · rename_i h
              rw [← Char.ofNat_toNat c, h]
              rfl
            · split
              · have hRead := readEscaped_codePoint c.toNat s
                rw [Char.ofNat_toNat] at hRead
                simpa [readSpelled] using hRead
              · simp [readSpelled, hBackslash]

/- No spelled character starts with a double quote. -/
theorem spell_append_ne_quote
    (c : Char)
    (s t : List Char) :
    spell c ++ s ≠ '"' :: t := by
  intro h
  have hRead := readSpelled_spell c s
  rw [h] at hRead
  have hPlain : readSpelled ('"' :: t) = some ('"', t) := rfl
  rw [hPlain] at hRead
  cases hRead
  cases h

------------------------------------------------------------
-- Quoted Texts
------------------------------------------------------------

/- What stands between double quotes reads back. -/
theorem flatMap_spell_inj
    {cs : List Char} :
    ∀ {ds s t : List Char},
      cs.flatMap spell ++ '"' :: s = ds.flatMap spell ++ '"' :: t →
        cs = ds ∧ s = t := by
  induction cs with
  | nil =>
      intro ds s t h
      cases ds with
      | nil =>
          injection h with _ hRest
          exact ⟨rfl, hRest⟩
      | cons d ds =>
          rw [List.flatMap_cons, List.append_assoc] at h
          exact absurd h.symm (spell_append_ne_quote _ _ _)
  | cons c cs ih =>
      intro ds s t h
      cases ds with
      | nil =>
          rw [List.flatMap_cons, List.append_assoc] at h
          exact absurd h (spell_append_ne_quote _ _ _)
      | cons d ds =>
          rw [List.flatMap_cons, List.flatMap_cons, List.append_assoc,
            List.append_assoc] at h
          have hRead := congrArg readSpelled h
          rw [readSpelled_spell, readSpelled_spell] at hRead
          injection hRead with hPair
          injection hPair with hHead hTail
          rcases ih hTail with ⟨hEq, hRest⟩
          exact ⟨by rw [hHead, hEq], hRest⟩

/- Quoted texts read back. -/
theorem readsBack_quote :
    ReadsBack quote fun s => s := by
  intro a b s t h
  unfold quote at h
  simp only [String.toList_ofList, List.cons_append, List.append_assoc,
    List.nil_append] at h
  injection h with _ h
  rcases flatMap_spell_inj h with ⟨hEq, hRest⟩
  exact ⟨String.toList_inj.mp hEq, hRest⟩

end Text

end TraversalPlanner
