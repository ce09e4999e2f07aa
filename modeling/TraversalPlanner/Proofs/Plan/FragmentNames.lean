import TraversalPlanner.Proofs.Number.NumberCharacters
import TraversalPlanner.Proofs.Plan.CanonicalFragment
import TraversalPlanner.Proofs.Text.ReadingBack

/-
  The name of a fragment shows its kind, if all literals that
  stand for no number are taken as one.

  Main statements:
    * `Value.canonical_eq_of_render_eq`
    * `ValuePredicate.canonical_eq_of_render_eq`
    * `FragmentKind.canonical_eq_of_name_eq`
-/

namespace TraversalPlanner

open Text

------------------------------------------------------------
-- Literals
------------------------------------------------------------

namespace Text

/-
  What tells the texts of literals apart: whether they start with
  a quote, and whether only characters of numbers occur in them.
-/
def literalForm (s : String) : Bool × Bool :=
  (decide (s.toList.head? = some '"'), s.toList.all isNumberPart)

/- The form of a quoted text. -/
theorem literalForm_quote (s : String) :
    literalForm (quote s) = (true, false) := by
  have hQuote : isNumberPart '"' = false := by decide
  simp [literalForm, quote, hQuote]

/- The form of a number. -/
theorem literalForm_of_forall
    {s : String}
    (h : ∀ c ∈ s.toList, isNumberPart c = true) :
    literalForm s = (false, true) := by
  refine Prod.ext ?_ (List.all_eq_true.mpr h)
  apply decide_eq_false
  intro hHead
  have hQuote := h _ (List.mem_of_head? hHead)
  exact absurd hQuote (by decide)

end Text

namespace Value

/- The form of the text of a literal. -/
def form : Value → Bool × Bool
| .string _ => (true, false)
| .long _ => (false, true)
| .double _ => (false, true)
| .boolean _ => (false, false)

/- A literal is written in its form. -/
theorem literalForm_render (v : Value) :
    literalForm v.render = v.form := by
  cases v with
  | string s => exact literalForm_quote s
  | long n =>
      exact literalForm_of_forall Numeral.isNumberPart_of_mem_renderInt
  | double x => exact literalForm_of_forall Binary64.isNumberPart_of_mem_render
  | boolean b =>
      revert b
      decide

/- Literals that are written alike have one form. -/
theorem form_eq_of_render_eq
    {v w : Value}
    (h : v.render = w.render) :
    v.form = w.form := by
  rw [← v.literalForm_render, h, w.literalForm_render]

/- An integer is written as no other literal is. -/
theorem eq_of_render_eq_renderInt
    {n : Int64}
    {v : Value}
    (h : (long n).render = v.render) :
    v = .long n := by
  have hForm := form_eq_of_render_eq h
  cases v with
  | long m =>
      rw [Int64.toInt_inj.mp (Numeral.renderInt_injective h)]
  | double x => exact absurd h.symm (x.render_ne_renderInt n.toInt)
  | _ => cases hForm

/-
  Literals that are written alike are the same, if all that stand
  for no number are taken as one.
-/
theorem canonical_eq_of_render_eq
    {v w : Value}
    (h : v.render = w.render) :
    v.canonical = w.canonical := by
  have hForm := form_eq_of_render_eq h
  cases v with
  | long m => rw [eq_of_render_eq_renderInt h]
  | string s =>
      cases w with
      | string t =>
          have hText : s = t := readsBack_quote.key_eq h
          rw [hText]
      | _ => cases hForm
  | double x =>
      cases w with
      | long n => rw [eq_of_render_eq_renderInt h.symm]
      | double y =>
          exact congrArg Value.double (Binary64.canonical_eq_of_render_eq h)
      | _ => cases hForm
  | boolean a =>
      cases w with
      | boolean b =>
          have hTexts : ∀ a b : Bool,
              (boolean a).render = (boolean b).render → a = b := by
            decide
          rw [hTexts a b h]
      | _ => cases hForm

end Value

------------------------------------------------------------
-- Operands and Predicates
------------------------------------------------------------

namespace Text

/- The characters that start operators, variables and searches. -/
def isMark (c : Char) : Bool :=
  decide (c ∈ "=!<>$c/".toList)

/- No character of a number is a mark. -/
theorem isMark_of_isNumberPart
    {c : Char}
    (hc : isNumberPart c = true) :
    isMark c = false := by
  have hMarks :
      ∀ d ∈ "=!<>$c/".toList, isNumberPart d = false :=
    List.forall_iff_forall_mem.mp (by decide)
  apply decide_eq_false
  intro hMem
  exact ne_of_isNumberPart hc (hMarks c hMem) rfl

end Text

namespace Value

/- No literal starts with a mark. -/
theorem exists_head_render (v : Value) :
    ∃ c, v.render.toList.head? = some c ∧ isMark c = false := by
  have hNumber : ∀ text : String,
      text.toList ≠ [] →
      (∀ c ∈ text.toList, isNumberPart c = true) →
        ∃ c, text.toList.head? = some c ∧ isMark c = false := by
    intro text hNonempty hText
    refine ⟨_, List.head?_eq_some_head hNonempty, ?_⟩
    exact isMark_of_isNumberPart (hText _ (List.head_mem hNonempty))
  cases v with
  | string s => exact ⟨'"', by simp [render, quote], by decide⟩
  | long n =>
      refine hNumber _ ?_ Numeral.isNumberPart_of_mem_renderInt
      rcases @Numeral.exists_digit_of_render false (.ofInt n.toInt)
        with ⟨c, hc, _⟩
      exact List.ne_nil_of_mem hc
  | double x =>
      exact hNumber _ (x.toList_render_ne_nil _)
        Binary64.isNumberPart_of_mem_render
  | boolean b =>
      cases b with
      | false => exact ⟨'f', rfl, by decide⟩
      | true => exact ⟨'t', rfl, by decide⟩

end Value

namespace Operand

/-
  Operands that are written alike are the same, if all literals
  that stand for no number are taken as one.
-/
theorem canonical_eq_of_render_eq
    {o p : Operand}
    (h : o.render = p.render) :
    o.canonical = p.canonical := by
  have hApart : ∀ (v : Value) (x : Var), v.render ≠ x.render := by
    intro v x hText
    rcases v.exists_head_render with ⟨c, hHead, hMark⟩
    rw [hText] at hHead
    have hVar : x.render.toList.head? = some '$' := by
      simp [Var.render]
    rw [hVar] at hHead
    cases hHead
    exact absurd hMark (by decide)
  cases o with
  | value v =>
      cases p with
      | value w =>
          exact congrArg Operand.value (Value.canonical_eq_of_render_eq h)
      | var y => exact absurd h (hApart v y)
  | var x =>
      cases p with
      | value w => exact absurd h.symm (hApart w x)
      | var y =>
          have hName : x.name = y.name := String.append_right_inj "$" |>.mp h
          cases x
          cases y
          cases hName
          rfl

end Operand

namespace Comparison

/- Comparisons have different symbols. -/
theorem symbol_injective
    {c d : Comparison}
    (h : c.symbol = d.symbol) :
    c = d := by
  revert h
  cases c <;> cases d <;> decide

/- A blank ends the symbol of a comparison. -/
theorem symbol_inj
    {c d : Comparison}
    {s t : String}
    (h : c.symbol ++ " " ++ s = d.symbol ++ " " ++ t) :
    c = d ∧ s = t := by
  have hSymbol : ∀ c : Comparison,
      ∀ e ∈ c.symbol.toList, decide (e ≠ ' ') = true := by
    intro c
    cases c <;> exact List.forall_iff_forall_mem.mp (by decide)
  have hBlank : ∀ u : List Char,
      ∀ e ∈ (' ' :: u).head?, decide (e ≠ ' ') = false := by
    intro u e he
    cases he
    rfl
  have hChars := congrArg String.toList h
  simp only [String.toList_append, List.append_assoc] at hChars
  rcases append_inj_of_forall (fun e => decide (e ≠ ' ')) (hSymbol c)
      (hSymbol d) (hBlank _) (hBlank _) hChars with ⟨hEq, hRest⟩
  injection hRest with _ hRest
  exact ⟨symbol_injective (String.toList_inj.mp hEq),
    String.toList_inj.mp hRest⟩

end Comparison

namespace ValuePredicate

/- The ways in which predicates are written. -/
inductive Style where
| bare
| compared
| contains
| regex

/- The way in which a text is written that starts with a character. -/
def Style.of (c : Char) : Style :=
  if c = 'c' then
    .contains
  else if c = '/' then
    .regex
  else if c ∈ "=!<>".toList then
    .compared
  else
    .bare

/- The way in which a predicate is written, as its first character shows. -/
def style? (p : ValuePredicate) : Option Style :=
  p.render.toList.head?.map Style.of

/-
  How a predicate of a style is written: as a bare literal, as a
  comparison with its symbol, or as a search.
-/
inductive Form : ValuePredicate → Style → Prop where
| bare
    (v : Value) :
    Form (.compare .eq (.value v)) .bare
| compared
    (c : Comparison)
    (o : Operand) :
    (compare c o).render = c.symbol ++ " " ++ o.render →
    Form (.compare c o) .compared
| contains
    (s : String) :
    Form (.contains s) .contains
| regex
    (r : String) :
    Form (.regex r) .regex

/- A text that starts without a mark is written as a bare literal. -/
theorem Style.of_of_not_isMark
    {c : Char}
    (h : isMark c = false) :
    Style.of c = .bare := by
  simp [isMark] at h
  simp [Style.of, h]

/- A comparison has the style of its symbol. -/
theorem style?_compared
    {c : Comparison}
    {o : Operand}
    (h : (compare c o).render = c.symbol ++ " " ++ o.render) :
    (compare c o).style? = some .compared := by
  unfold style?
  rw [h]
  cases c <;> simp [Comparison.symbol, Style.of]

/- Every predicate has the form of its style. -/
theorem exists_form (p : ValuePredicate) :
    ∃ style, p.style? = some style ∧ p.Form style := by
  cases p with
  | contains s =>
      exact ⟨_, by simp [style?, render, Style.of], .contains s⟩
  | regex r =>
      exact ⟨_, by simp [style?, render, Style.of], .regex r⟩
  | compare c o =>
      have hCompared :
          (compare c o).render = c.symbol ++ " " ++ o.render →
            ∃ style, (compare c o).style? = some style ∧
              (compare c o).Form style :=
        fun h => ⟨_, style?_compared h, .compared c o h⟩
      cases o with
      | var x =>
          apply hCompared
          cases c <;> rfl
      | value v =>
          cases c with
          | eq =>
              rcases v.exists_head_render with ⟨c, hHead, hMark⟩
              have hText : (compare .eq (.value v)).render = v.render := rfl
              refine ⟨_, ?_, .bare v⟩
              unfold style?
              rw [hText, hHead, Option.map_some, Style.of_of_not_isMark hMark]
          | _ => exact hCompared rfl

/-
  Predicates that are written alike are the same, if all literals
  that stand for no number are taken as one.
-/
theorem canonical_eq_of_render_eq
    {p q : ValuePredicate}
    (h : p.render = q.render) :
    p.canonical = q.canonical := by
  rcases p.exists_form with ⟨style, hp, hpForm⟩
  rcases q.exists_form with ⟨style', hq, hqForm⟩
  -- the texts are equal, and so are the styles
  have hStyle : style = style' := by
    unfold style? at hp hq
    rw [h, hq] at hp
    exact (Option.some.inj hp).symm
  subst hStyle
  cases hpForm with
  | bare v =>
      cases hqForm with
      | bare w =>
          have hValue : v.canonical = w.canonical :=
            Value.canonical_eq_of_render_eq h
          exact congrArg (fun v => compare .eq (.value v)) hValue
  | compared c o hText =>
      cases hqForm with
      | compared d o' hText' =>
          rw [hText, hText'] at h
          rcases Comparison.symbol_inj h with ⟨rfl, hOperand⟩
          exact congrArg (compare c)
            (Operand.canonical_eq_of_render_eq hOperand)
  | contains s =>
      cases hqForm with
      | contains t =>
          have hQuote : quote s = quote t :=
            (String.append_right_inj "contains ").mp h
          rw [readsBack_quote.key_eq hQuote]
  | regex r =>
      cases hqForm with
      | regex r' =>
          have hText : "/" ++ r ++ "/" = "/" ++ r' ++ "/" := h
          have hRegex := (String.append_right_inj "/").mp
            ((String.append_left_inj "/").mp hText)
          rw [hRegex]

end ValuePredicate

------------------------------------------------------------
-- Filters, Edges and Kinds
------------------------------------------------------------

/- Data types have different names. -/
theorem DataType.name_injective
    {t u : DataType}
    (h : t.name = u.name) :
    t = u := by
  revert h
  cases t <;> cases u <;> decide

/- The text between two fixed ones. -/
theorem Text.between_inj
    {before behind s t : String}
    (h : before ++ s ++ behind = before ++ t ++ behind) :
    s = t :=
  (String.append_right_inj before).mp
    ((String.append_left_inj behind).mp h)

/-
  Filters with the same name are the same, if all literals that
  stand for no number are taken as one.
-/
theorem Filter.canonical_eq_of_name_eq
    {f g : Filter}
    (h : f.name = g.name) :
    f.canonical = g.canonical := by
  cases f <;> cases g
  case label.label l m => rw [between_inj h]
  case id.id i j => rw [between_inj h]
  case value.value p q =>
    exact congrArg Filter.value
      (ValuePredicate.canonical_eq_of_render_eq (between_inj h))
  case dataType.dataType t u =>
    rw [DataType.name_injective (between_inj h)]
  case isAbstract.isAbstract => rfl
  case regex.regex r q => rw [between_inj h]
  -- the names of other filters differ in their first characters
  all_goals
    have hChars := congrArg String.toList h
    simp [name] at hChars

/- The names of filters start with a bracket. -/
theorem Filter.head?_name (f : Filter) :
    f.name.toList.head? = some '[' := by
  cases f <;> simp [name]

/- Edges with the same label are the same. -/
theorem Edge.label_injective
    {e f : Edge}
    (h : e.label = f.label) :
    e = f := by
  cases e <;> cases f
  case has.has t u => rw [(String.append_right_inj "has:").mp h]
  all_goals first
    | rfl
    | have hChars := congrArg String.toList h
      simp [label] at hChars

namespace FragmentKind

/- Castings with the same label are restricted to the same role. -/
theorem castingLabel_injective
    {r s : Option String}
    (h : castingLabel r = castingLabel s) :
    r = s := by
  cases r <;> cases s
  case none.none => rfl
  case some.some l m => rw [(String.append_right_inj "rel:").mp h]
  all_goals
    have hChars := congrArg String.toList h
    simp [castingLabel] at hChars

/- No edge has the label of a casting. -/
theorem label_ne_castingLabel
    (e : Edge)
    (role : Option String) :
    e.label ≠ castingLabel role := by
  intro h
  have hChars := congrArg String.toList h
  cases e <;> cases role <;> simp [Edge.label, castingLabel] at hChars

/- An arrow shows its direction and its label. -/
theorem arrow_inj
    {d e : Direction}
    {l m : String}
    (h : d.arrow l = e.arrow m) :
    d = e ∧ l = m := by
  cases d <;> cases e
  case outward.outward => exact ⟨rfl, between_inj h⟩
  case inward.inward => exact ⟨rfl, between_inj h⟩
  all_goals
    have hChars := congrArg String.toList h
    simp [Direction.arrow] at hChars

/- An arrow starts or ends as no other name does. -/
theorem arrow_ne
    (d : Direction)
    (l : String) :
    d.arrow l ≠ neq.name ∧ ∀ f : Filter, d.arrow l ≠ f.name := by
  constructor
  · intro h
    have hLast := congrArg (fun s => s.toList.reverse.head?) h
    have hHead := congrArg (fun s => s.toList.head?) h
    cases d <;> simp [Direction.arrow, name] at hLast hHead
  · intro f h
    have hHead := f.head?_name
    rw [← h] at hHead
    cases d <;> simp [Direction.arrow] at hHead

/-
  Kinds with the same name are the same, if all literals that
  stand for no number are taken as one.
-/
theorem canonical_eq_of_name_eq
    {k l : FragmentKind}
    (h : k.name = l.name) :
    k.canonical = l.canonical := by
  cases k <;> cases l
  case filter.filter f g =>
    exact congrArg filter (Filter.canonical_eq_of_name_eq h)
  case neq.neq => rfl
  case step.step e d f c =>
    rcases arrow_inj h with ⟨rfl, hLabel⟩
    rw [Edge.label_injective hLabel]
  case casting.casting r d s c =>
    rcases arrow_inj h with ⟨rfl, hLabel⟩
    rw [castingLabel_injective hLabel]
  case step.casting e d s c =>
    exact absurd (arrow_inj h).2 (label_ne_castingLabel e s)
  case casting.step r d f c =>
    exact absurd (arrow_inj h).2.symm (label_ne_castingLabel f r)
  case neq.step f c => exact absurd h.symm (arrow_ne c _).1
  case neq.casting s c => exact absurd h.symm (arrow_ne c _).1
  case step.neq e d => exact absurd h (arrow_ne d _).1
  case casting.neq r d => exact absurd h (arrow_ne d _).1
  case step.filter e d g => exact absurd h ((arrow_ne d _).2 g)
  case casting.filter r d g => exact absurd h ((arrow_ne d _).2 g)
  case filter.step f e d => exact absurd h.symm ((arrow_ne d _).2 f)
  case filter.casting f r d => exact absurd h.symm ((arrow_ne d _).2 f)
  case filter.neq f =>
    have hHead := f.head?_name
    have hName : f.name = neq.name := h
    rw [hName] at hHead
    exact absurd hHead (by decide)
  case neq.filter f =>
    have hHead := f.head?_name
    have hName : neq.name = f.name := h
    rw [← hName] at hHead
    exact absurd hHead (by decide)

end FragmentKind

end TraversalPlanner
