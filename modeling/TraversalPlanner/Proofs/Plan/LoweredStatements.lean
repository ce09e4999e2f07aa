import Mathlib.Data.List.Forall2
import TraversalPlanner.Proofs.Plan.LoweredSets
import TraversalPlanner.Proofs.Plan.LoweringRun

/-
  What each property of a pattern is lowered to: pinned labels, an
  edge that can be followed either way, and filters.  A pattern is
  lowered to these sets, property by property.

  Main declarations:
    * `Pattern.statements`
    * `Fragment.Reflects`
    * `Lowering.Expresses`
    * `Pattern.lower_eq_flatten_parts`
    * `Lowering.lower_faithful`
-/

namespace TraversalPlanner

------------------------------------------------------------
-- Statements of Patterns
------------------------------------------------------------

/- A property, stated of a variable. -/
structure Statement where
  subject : Var
  property : Property
deriving DecidableEq, Repr

/- A property that leaves a resource unnamed. -/
def Property.leavesUnnamed : Property → Bool
| .has _ none _ => true
| _ => false

/- A statement that leaves a resource unnamed. -/
def Statement.leavesUnnamed (s : Statement) : Bool :=
  s.property.leavesUnnamed

/- The edge to a type that a property states, and the type. -/
def Property.typing? : Property → Option (Edge × TypeRef)
| .isa t => some (.isa, t)
| .sub t => some (.sub, t)
| .relates t => some (.relates, t)
| .plays t => some (.plays, t)
| _ => none

/- The filter that a property states of its own variable. -/
def Property.filter? : Property → Option Filter
| .label l => some (.label l)
| .id i => some (.id i)
| .value p => some (.value p)
| .dataType t => some (.dataType t)
| .isAbstract => some .isAbstract
| .regex r => some (.regex r)
| _ => none

/- The properties of a clause, each with its variable. -/
def Clause.statements (c : Clause) : List Statement :=
  c.properties.map (Statement.mk c.subject)

namespace Pattern

/- The properties of a pattern in order, each with its variable. -/
def statements (p : Pattern) : List Statement :=
  p.clauses.flatMap Clause.statements

/- How many of the first statements leave a resource unnamed. -/
def unnamedBefore
    (p : Pattern)
    (i : Nat) : Nat :=
  (p.statements.take i).countP Statement.leavesUnnamed

/- A pattern has no statements if its clauses have no properties. -/
theorem statements_eq_nil_iff
    {p : Pattern} :
    p.statements = [] ↔ ∀ c ∈ p.clauses, c.properties = [] := by
  unfold statements Clause.statements
  rw [List.flatMap_eq_nil_iff]
  constructor
  · intro h c hc
    exact List.map_eq_nil_iff.mp (h c hc)
  · intro h c hc
    exact List.map_eq_nil_iff.mpr (h c hc)

end Pattern

------------------------------------------------------------
-- Mirror Images
------------------------------------------------------------

/- The kind for the same connection, followed the other way. -/
def FragmentKind.reverse : FragmentKind → FragmentKind
| .filter f => .filter f
| .neq => .neq
| .step e d => .step e d.flip
| .casting role d => .casting role d.flip

/-
  Two fragments are mirror images: each one starts where the other
  ends, they follow the same connection in opposite directions,
  and they share their other variables.
-/
structure Fragment.Reflects (f g : Fragment) : Prop where
  finish : f.finish? = some g.start
  start : g.finish? = some f.start
  kind : g.kind = f.kind.reverse
  others : g.others = f.others
  vars : g.vars = f.vars

namespace Fragment

/- A fragment from its end to its start is a mirror image. -/
theorem reflects_of_ends
    {f g : Fragment}
    (hFinish : f.finish? = some g.start)
    (hStart : g.finish? = some f.start)
    (hKind : g.kind = f.kind.reverse)
    (hOthers : g.others = f.others) :
    f.Reflects g :=
  ⟨hFinish, hStart, hKind, hOthers, vars_eq_of_mirror hStart hFinish hOthers⟩

/- A fragment is told by its kind and its variables. -/
theorem eq_of_kind_eq_of_ends_eq
    {f g : Fragment}
    (hKind : f.kind = g.kind)
    (hStart : f.start = g.start)
    (hFinish : f.finish? = g.finish?)
    (hOthers : f.others = g.others) :
    f = g := by
  cases f with
  | filter φ x =>
      cases g with
      | filter ψ y =>
          cases hKind
          cases hStart
          rfl
      | _ => cases hKind
  | neq x x' =>
      cases g with
      | neq y y' =>
          cases hStart
          cases hFinish
          rfl
      | _ => cases hKind
  | step e d x x' =>
      cases g with
      | step e' d' y y' =>
          cases hKind
          cases hStart
          cases hFinish
          rfl
      | _ => cases hKind
  | casting role v d x x' =>
      cases g with
      | casting role' w d' y y' =>
          cases hKind
          cases hStart
          cases hFinish
          cases v <;> cases w <;> cases hOthers <;> rfl
      | _ => cases hKind

/- A fragment has one mirror image at most. -/
theorem Reflects.unique
    {f g h : Fragment}
    (hg : f.Reflects g)
    (hh : f.Reflects h) :
    g = h := by
  have hStart : some g.start = some h.start := by
    rw [← hg.finish, hh.finish]
  apply eq_of_kind_eq_of_ends_eq
  · rw [hg.kind, hh.kind]
  · exact Option.some.inj hStart
  · rw [hg.start, hh.start]
  · rw [hg.others, hh.others]

end Fragment

namespace FragmentSet

/- The set has a fragment and its mirror image, and no others. -/
def IsPairOf
    (s : FragmentSet)
    (f : Fragment) : Prop :=
  ∃ g, s.fragments = [f, g] ∧ f.Reflects g

/- The set has a filter on a variable, and nothing else. -/
def IsFilterOf
    (s : FragmentSet)
    (f : Filter)
    (x : Var) : Prop :=
  s.fragments = [.filter f x]

/- Sets with the same fragments are equal. -/
theorem eq_of_fragments_eq
    {s t : FragmentSet}
    (h : s.fragments = t.fragments) :
    s = t := by
  cases s
  cases t
  cases h
  rfl

end FragmentSet

------------------------------------------------------------
-- Sets for a Property
------------------------------------------------------------

namespace Lowering

/-
  A reference to a type by its label is pinned on the variable of
  the label.  A reference by a variable needs no set.
-/
inductive Pins : TypeRef → List FragmentSet → Var → Prop where
| label
    {l : String}
    {s : FragmentSet} :
    s.IsFilterOf (.label l) ⟨"_label-" ++ l⟩ →
    Pins (.label l) [s] ⟨"_label-" ++ l⟩
| var
    (x : Var) :
    Pins (.var x) [] x

/- The variable of a resource: its own, or the one with a number. -/
inductive Owns (n : Nat) : Option Var → Var → Prop where
| named
    (y : Var) :
    Owns n (some y) y
| unnamed :
    Owns n none ⟨"_attr" ++ n.repr⟩

/- A predicate on a variable is one filter. -/
inductive Restricts (y : Var) :
    Option ValuePredicate → List FragmentSet → Prop where
| free :
    Restricts y none []
| value
    {p : ValuePredicate}
    {s : FragmentSet} :
    s.IsFilterOf (.value p) y →
    Restricts y (some p) [s]

/-
  The sets that express a property of `x`, when `n` resources are
  left unnamed before.
-/
inductive Expresses
    (n : Nat)
    (x : Var) : Property → List FragmentSet → Prop where
| typed
    {q : Property}
    {e : Edge}
    {t : TypeRef}
    {pins : List FragmentSet}
    {y : Var}
    {s : FragmentSet} :
    q.typing? = some (e, t) →
    Pins t pins y →
    s.IsPairOf (.step e .outward x y) →
    Expresses n x q (pins ++ [s])
| filtered
    {q : Property}
    {f : Filter}
    {s : FragmentSet} :
    q.filter? = some f →
    s.IsFilterOf f x →
    Expresses n x q [s]
| has
    {type : String}
    {resource : Option Var}
    {predicate : Option ValuePredicate}
    {y : Var}
    {s : FragmentSet}
    {filters : List FragmentSet} :
    Owns n resource y →
    s.IsPairOf (.step (.has type) .outward x y) →
    Restricts y predicate filters →
    Expresses n x (.has type resource predicate) (s :: filters)
| player
    {y : Var}
    {s : FragmentSet} :
    s.IsPairOf (.casting none none .outward x y) →
    Expresses n x (.rolePlayer ⟨none, y⟩) [s]
| rolePlayer
    {t : TypeRef}
    {pins : List FragmentSet}
    {v y : Var}
    {s : FragmentSet} :
    Pins t pins v →
    s.IsPairOf (.casting t.label? (some v) .outward x y) →
    Expresses n x (.rolePlayer ⟨some t, y⟩) (pins ++ [s])
| neq
    {y : Var}
    {s : FragmentSet} :
    s.IsPairOf (.neq x y) →
    Expresses n x (.neq y) [s]

------------------------------------------------------------
-- Sets Are Determined
------------------------------------------------------------

/- A filter makes one set. -/
theorem eq_of_isFilterOf
    {s t : FragmentSet}
    {f : Filter}
    {x : Var}
    (hs : s.IsFilterOf f x)
    (ht : t.IsFilterOf f x) :
    s = t :=
  FragmentSet.eq_of_fragments_eq (Eq.trans hs ht.symm)

/- A fragment and its mirror image make one set. -/
theorem eq_of_isPairOf
    {s t : FragmentSet}
    {f : Fragment}
    (hs : s.IsPairOf f)
    (ht : t.IsPairOf f) :
    s = t := by
  rcases hs with ⟨g, hs, hg⟩
  rcases ht with ⟨h, ht, hh⟩
  apply FragmentSet.eq_of_fragments_eq
  rw [hs, ht, hg.unique hh]

/- A reference is pinned in one way. -/
theorem Pins.unique
    {t : TypeRef}
    {ss ts : List FragmentSet}
    {x y : Var}
    (hs : Pins t ss x)
    (ht : Pins t ts y) :
    ss = ts ∧ x = y := by
  cases hs with
  | label hs =>
      cases ht with
      | label ht =>
          rw [eq_of_isFilterOf hs ht]
          exact ⟨rfl, rfl⟩
  | var x =>
      cases ht
      exact ⟨rfl, rfl⟩

/- A predicate restricts a variable in one way. -/
theorem Restricts.unique
    {y : Var}
    {p : Option ValuePredicate}
    {ss ts : List FragmentSet}
    (hs : Restricts y p ss)
    (ht : Restricts y p ts) :
    ss = ts := by
  cases hs with
  | free =>
      cases ht
      rfl
  | value hs =>
      cases ht with
      | value ht => rw [eq_of_isFilterOf hs ht]

/- A property is expressed in one way. -/
theorem Expresses.unique
    {n : Nat}
    {x : Var}
    {q : Property}
    {ss ts : List FragmentSet}
    (hs : Expresses n x q ss)
    (ht : Expresses n x q ts) :
    ss = ts := by
  cases hs with
  | typed hTyping hPins hPair =>
      cases ht with
      | typed hTyping' hPins' hPair' =>
          rw [hTyping] at hTyping'
          cases hTyping'
          rcases hPins.unique hPins' with ⟨rfl, rfl⟩
          rw [eq_of_isPairOf hPair hPair']
      | filtered hFilter => cases q <;> cases hTyping <;> cases hFilter
      | _ => cases hTyping
  | filtered hFilter hSet =>
      cases ht with
      | filtered hFilter' hSet' =>
          rw [hFilter] at hFilter'
          cases hFilter'
          rw [eq_of_isFilterOf hSet hSet']
      | typed hTyping => cases q <;> cases hTyping <;> cases hFilter
      | _ => cases hFilter
  | has hOwns hPair hRestricts =>
      cases ht with
      | has hOwns' hPair' hRestricts' =>
          cases hOwns <;> cases hOwns' <;>
            rw [eq_of_isPairOf hPair hPair', hRestricts.unique hRestricts']
      | typed hTyping => cases hTyping
      | filtered hFilter => cases hFilter
  | player hPair =>
      cases ht with
      | player hPair' => rw [eq_of_isPairOf hPair hPair']
      | typed hTyping => cases hTyping
      | filtered hFilter => cases hFilter
  | rolePlayer hPins hPair =>
      cases ht with
      | rolePlayer hPins' hPair' =>
          rcases hPins.unique hPins' with ⟨rfl, rfl⟩
          rw [eq_of_isPairOf hPair hPair']
      | typed hTyping => cases hTyping
      | filtered hFilter => cases hFilter
  | neq hPair =>
      cases ht with
      | neq hPair' => rw [eq_of_isPairOf hPair hPair']
      | typed hTyping => cases hTyping
      | filtered hFilter => cases hFilter

------------------------------------------------------------
-- Lowered Properties
------------------------------------------------------------

/- An edge has both directions. -/
theorem isPairOf_connected
    (e : Edge)
    (x y : Var) :
    (connected e x y).IsPairOf (.step e .outward x y) :=
  ⟨_, rfl, Fragment.reflects_of_ends rfl rfl rfl rfl⟩

/- A casting has both directions. -/
theorem isPairOf_cast
    (role : Option String)
    (roleVar : Option Var)
    (x y : Var) :
    (cast role roleVar x y).IsPairOf (.casting role roleVar .outward x y) :=
  ⟨_, rfl, Fragment.reflects_of_ends rfl rfl rfl rfl⟩

/- Either of two different concepts may come first. -/
theorem isPairOf_distinct (x y : Var) :
    (distinct x y).IsPairOf (.neq x y) :=
  ⟨_, rfl, Fragment.reflects_of_ends rfl rfl rfl rfl⟩

/- The variable of a label has the label in its name. -/
theorem labelVar_eq (l : String) :
    labelVar l = ⟨"_label-" ++ l⟩ :=
  congrArg Var.mk String.append_assoc.symm

/- The variable of an unnamed resource has its number in its name. -/
theorem resourceVar_eq (n : Nat) :
    resourceVar n = ⟨"_attr" ++ n.repr⟩ :=
  congrArg Var.mk String.append_assoc.symm

/- References are pinned. -/
theorem pins_pin (t : TypeRef) :
    Pins t (pin t) (typeVar t) := by
  cases t with
  | label l =>
      simp only [pin, typeVar, labelVar_eq]
      exact .label rfl
  | var x => exact .var x

/- A property is lowered to sets that express it. -/
theorem expresses_ofProperty
    (n : Nat)
    (x : Var)
    (q : Property) :
    Expresses n x q (ofProperty n x q) := by
  cases q with
  | isa t => exact .typed rfl (pins_pin t) (isPairOf_connected _ _ _)
  | sub t => exact .typed rfl (pins_pin t) (isPairOf_connected _ _ _)
  | relates t => exact .typed rfl (pins_pin t) (isPairOf_connected _ _ _)
  | plays t => exact .typed rfl (pins_pin t) (isPairOf_connected _ _ _)
  | label l => exact .filtered rfl rfl
  | id i => exact .filtered rfl rfl
  | value p => exact .filtered rfl rfl
  | dataType t => exact .filtered rfl rfl
  | isAbstract => exact .filtered rfl rfl
  | regex r => exact .filtered rfl rfl
  | has type resource predicate =>
      refine .has (y := resource.getD (resourceVar n)) ?_
        (isPairOf_connected _ _ _) ?_
      · cases resource with
        | some y => exact .named y
        | none =>
            rw [Option.getD_none, resourceVar_eq]
            exact .unnamed
      · cases predicate with
        | none => exact .free
        | some p => exact .value rfl
  | rolePlayer p =>
      rcases p with ⟨role, player⟩
      cases role with
      | none => exact .player (isPairOf_cast _ _ _ _)
      | some t => exact .rolePlayer (pins_pin t) (isPairOf_cast _ _ _ _)
  | neq y => exact .neq (isPairOf_distinct x y)

------------------------------------------------------------
-- Lowered Patterns
------------------------------------------------------------

/- Counting a property adds one if it leaves a resource unnamed. -/
theorem unnamedResources_eq (q : Property) :
    unnamedResources q = if q.leavesUnnamed then 1 else 0 := by
  cases q with
  | has type resource predicate => cases resource <;> rfl
  | _ => rfl

/-
  The sets of statements, when `n` resources are left unnamed
  before them.
-/
def ofStatements (n : Nat) : List Statement → List FragmentSet
| [] => []
| s :: ss =>
    ofProperty n s.subject s.property ++
      ofStatements (n + unnamedResources s.property) ss

/- Statements are lowered one after the other. -/
theorem ofStatements_append
    (ss ts : List Statement) :
    ∀ n, ofStatements n (ss ++ ts) =
      ofStatements n ss ++
        ofStatements
          (n + (ss.map fun s => unnamedResources s.property).foldr (· + ·) 0)
          ts := by
  induction ss with
  | nil =>
      intro n
      rfl
  | cons s ss ih =>
      intro n
      simp only [List.cons_append, ofStatements, ih, List.append_assoc,
        List.map_cons, List.foldr_cons, Nat.add_assoc]

/- A clause is lowered by its statements. -/
theorem ofClause_eq
    (n : Nat)
    (c : Clause) :
    ofClause n c = ofStatements n c.statements := by
  have hProperties : ∀ (qs : List Property) (m : Nat),
      ofProperties m c.subject qs =
        ofStatements m (qs.map (Statement.mk c.subject)) := by
    intro qs
    induction qs with
    | nil =>
        intro m
        rfl
    | cons q qs ih =>
        intro m
        exact congrArg (_ ++ ·) (ih _)
  exact hProperties c.properties n

/- Clauses are lowered by their statements. -/
theorem ofClauses_eq (cs : List Clause) :
    ∀ n, ofClauses n cs = ofStatements n (cs.flatMap Clause.statements) := by
  induction cs with
  | nil =>
      intro n
      rfl
  | cons c cs ih =>
      intro n
      have hCount :
          (c.statements.map fun s => unnamedResources s.property) =
            c.properties.map unnamedResources := by
        unfold Clause.statements
        rw [List.map_map]
        rfl
      rw [List.flatMap_cons, ofStatements_append, hCount, ← ih,
        ← ofClause_eq]
      rfl

/- A statement is lowered with the number of unnamed ones before it. -/
theorem ofStatements_eq_flatMap (ss : List Statement) :
    ∀ n, ofStatements n ss =
      ss.zipIdx.flatMap fun s =>
        ofProperty
          (n + (ss.take s.2).countP Statement.leavesUnnamed)
          s.1.subject s.1.property := by
  induction ss with
  | nil =>
      intro n
      rfl
  | cons s ss ih =>
      intro n
      have hCount : ∀ i,
          n + unnamedResources s.property +
              (ss.take i).countP Statement.leavesUnnamed =
            n + ((s :: ss).take (i + 1)).countP Statement.leavesUnnamed := by
        intro i
        rw [List.take_succ_cons, List.countP_cons, unnamedResources_eq,
          Statement.leavesUnnamed]
        omega
      simp only [ofStatements, ih, hCount, List.zipIdx_cons',
        List.flatMap_cons, List.flatMap_map]
      rfl

end Lowering

namespace Pattern

/- The sets of each statement of a pattern. -/
def parts (p : Pattern) : List (List FragmentSet) :=
  p.statements.zipIdx.map fun s =>
    Lowering.ofProperty (p.unnamedBefore s.2) s.1.subject s.1.property

/- A pattern is lowered to the sets of its statements. -/
theorem lower_eq_flatten_parts (p : Pattern) :
    p.lower = p.parts.flatten := by
  unfold lower parts
  rw [Lowering.ofClauses_eq, ← List.flatMap_def]
  have hStatements := Lowering.ofStatements_eq_flatMap p.statements 0
  simp only [Nat.zero_add] at hStatements
  exact hStatements

end Pattern

namespace Lowering

/- Every property needs a set. -/
theorem Expresses.ne_nil
    {n : Nat}
    {x : Var}
    {q : Property}
    {sets : List FragmentSet}
    (h : Expresses n x q sets) :
    sets ≠ [] := by
  cases h with
  | typed _ _ _ => exact List.concat_ne_nil _ _
  | rolePlayer _ _ => exact List.concat_ne_nil _ _
  | _ => exact List.cons_ne_nil _ _

/- Sets express the statement of a pattern at a position. -/
def ExpressesAt
    (p : Pattern)
    (s : Statement × Nat)
    (part : List FragmentSet) : Prop :=
  Expresses (p.unnamedBefore s.2) s.1.subject s.1.property part

/- The parts of a pattern express its statements. -/
theorem expresses_parts (p : Pattern) :
    List.Forall₂ (ExpressesAt p) p.statements.zipIdx p.parts := by
  unfold Pattern.parts
  rw [List.forall₂_map_right_iff, List.forall₂_same]
  intro s _
  exact expresses_ofProperty _ _ _

/- Nothing else expresses them. -/
theorem eq_parts_of_expresses
    {p : Pattern}
    {parts : List (List FragmentSet)}
    (h : List.Forall₂ (ExpressesAt p) p.statements.zipIdx parts) :
    parts = p.parts := by
  have hUnique : Relator.RightUnique (ExpressesAt p) :=
    fun _ _ _ hs ht => Expresses.unique hs ht
  exact hUnique.forall₂ h (expresses_parts p)

/- A pattern with a statement is lowered to some set. -/
theorem lower_eq_nil_iff (p : Pattern) :
    p.lower = [] ↔ ∀ c ∈ p.clauses, c.properties = [] := by
  rw [p.lower_eq_flatten_parts, List.flatten_eq_nil_iff,
    ← Pattern.statements_eq_nil_iff]
  constructor
  · intro hEmpty
    cases hStatements : p.statements with
    | nil => rfl
    | cons s ss =>
        have hMem : (s, 0) ∈ p.statements.zipIdx := by
          rw [hStatements]
          exact List.mem_cons_self
        have hPart := hEmpty _ (List.mem_map_of_mem hMem)
        exact absurd hPart (expresses_ofProperty _ _ _).ne_nil
  · intro hNone
    unfold Pattern.parts
    rw [hNone]
    intro part hPart
    cases hPart

/-
  Lowering does not fail.  It gives the sets that express the
  statements of the pattern, in order, and these only; so there
  is no set exactly if no clause has a property.
-/
theorem lower_faithful (p : Pattern) :
    p.lowerRun = .ok p.lower ∧
      (∀ sets, p.lower = sets ↔
        ∃ parts, sets = parts.flatten ∧
          List.Forall₂ (ExpressesAt p) p.statements.zipIdx parts) ∧
      (p.lower = [] ↔ ∀ c ∈ p.clauses, c.properties = []) := by
  refine ⟨lowerRun_eq_ok p, ?_, lower_eq_nil_iff p⟩
  intro sets
  constructor
  · rintro rfl
    exact ⟨p.parts, p.lower_eq_flatten_parts, expresses_parts p⟩
  · rintro ⟨parts, rfl, hParts⟩
    rw [eq_parts_of_expresses hParts]
    exact p.lower_eq_flatten_parts

end Lowering

end TraversalPlanner
