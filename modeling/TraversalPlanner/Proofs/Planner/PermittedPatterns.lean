import TraversalPlanner.Planner.Insertion
import TraversalPlanner.Proofs.Schema.WellFormedPattern

/-
  Which patterns may be inserted: those that the schema accepts
  and whose types may own the resources and play the roles that
  the pattern states.  A validator counts what it accepts and what
  it refuses.

  Main declarations:
    * `Pattern.GivesType`
    * `SchemaGraph.Permits`
    * `SchemaGraph.checkInsert_eq_ok_iff`
    * `InsertValidator.checkAll`
    * `InsertValidator.Counts`
    * `InsertValidator.check_ok_iff_permits`
-/

namespace TraversalPlanner

------------------------------------------------------------
-- Types of Variables
------------------------------------------------------------

namespace Pattern

/- A pattern gives a variable a type, in any clause on it. -/
def GivesType
    (p : Pattern)
    (x : Var)
    (type : String) : Prop :=
  ∃ c ∈ p.clauses, c.subject = x ∧ .isa (.label type) ∈ c.properties

/-
  If the types of each variable agree, the first type of one is
  any of its types.
-/
theorem typeOf?_eq_some_iff
    {p : Pattern}
    (hTypes : ∀ c ∈ p.clauses, p.checkTypes c = .ok ())
    {x : Var}
    {type : String} :
    p.typeOf? x = some type ↔ p.GivesType x type := by
  constructor
  · intro h
    exact mem_isaLabelsOf_iff.mp (List.mem_of_head? h)
  · intro h
    have hMem : type ∈ p.isaLabelsOf x := mem_isaLabelsOf_iff.mpr h
    cases hFirst : p.typeOf? x with
    | none =>
        rw [List.head?_eq_none_iff.mp hFirst] at hMem
        cases hMem
    | some first =>
        rcases h with ⟨c, hc, rfl, hIsa⟩
        have hSame := checkTypes_eq_ok_iff.mp (hTypes c hc) type
          (Clause.mem_isaLabels_iff.mpr hIsa) first hFirst
        rw [hSame]

end Pattern

------------------------------------------------------------
-- Permissions
------------------------------------------------------------

namespace SchemaGraph

/-
  The types that a pattern gives to its variables may own the
  resources and play the roles that it states of them.
-/
structure Permits
    (g : SchemaGraph)
    (p : Pattern) : Prop where
  owners :
    ∀ c ∈ p.clauses, ∀ resourceType resource predicate,
      .has resourceType resource predicate ∈ c.properties →
        ∀ owner, p.GivesType c.subject owner →
          g.canHave owner resourceType = true
  players :
    ∀ c ∈ p.clauses, ∀ role player,
      .rolePlayer ⟨some (.label role), player⟩ ∈ c.properties →
        ∀ type, p.GivesType player type → g.canPlay type role = true

section Permissions

variable
  {g : SchemaGraph}
  {p : Pattern}

/- An owner is permitted if its type may own the resource. -/
theorem permitOwner_eq_ok_iff
    {type : Option String}
    {resourceType : String} :
    g.permitOwner type resourceType = .ok () ↔
      ∀ owner, type = some owner →
        g.canHave owner resourceType = true := by
  unfold permitOwner
  cases type with
  | none => simp
  | some owner =>
      by_cases h : g.canHave owner resourceType = true <;> simp [h]

/- A player is permitted if its type may play the role. -/
theorem permitPlayer_eq_ok_iff
    {type role : Option String} :
    g.permitPlayer type role = .ok () ↔
      ∀ label, role = some label → ∀ player, type = some player →
        g.canPlay player label = true := by
  unfold permitPlayer
  cases role with
  | none => simp
  | some label =>
      cases type with
      | none => simp
      | some player =>
          by_cases h : g.canPlay player label = true <;> simp [h]

/- What is required for a property to be permitted. -/
theorem permitProperty_eq_ok_iff
    {c : Clause}
    {q : Property} :
    g.permitProperty p c q = .ok () ↔
      (∀ resourceType resource predicate,
        q = .has resourceType resource predicate →
          g.permitOwner (p.typeOf? c.subject) resourceType = .ok ()) ∧
      ∀ r, q = .rolePlayer r →
        g.permitPlayer (p.typeOf? r.player) r.roleLabel? = .ok () := by
  cases q <;> simp [permitProperty]

/- A pattern is permitted if all its properties are. -/
theorem permit_eq_ok_iff_forall :
    g.permit p = .ok () ↔
      ∀ c ∈ p.clauses, ∀ q ∈ c.properties,
        g.permitProperty p c q = .ok () := by
  unfold permit
  simp only [Acceptance.forM_eq_ok_iff]

/- Where types agree, a pattern is permitted if its types permit it. -/
theorem permit_eq_ok_iff
    (hTypes : ∀ c ∈ p.clauses, p.checkTypes c = .ok ()) :
    g.permit p = .ok () ↔ g.Permits p := by
  simp only [permit_eq_ok_iff_forall, permitProperty_eq_ok_iff,
    permitOwner_eq_ok_iff, permitPlayer_eq_ok_iff,
    Pattern.typeOf?_eq_some_iff hTypes, RolePlayer.roleLabel?_eq_some_iff]
  constructor
  · intro h
    constructor
    · intro c hc resourceType resource predicate hHas
      exact (h c hc _ hHas).1 resourceType resource predicate rfl
    · intro c hc role player hPlayer
      exact (h c hc _ hPlayer).2 _ rfl role rfl
  · intro h c hc q hq
    constructor
    · rintro resourceType resource predicate rfl
      exact h.owners c hc resourceType resource predicate hq
    · rintro ⟨_, player⟩ rfl role rfl
      exact h.players c hc role player hq

------------------------------------------------------------
-- Insertion
------------------------------------------------------------

/- The types of each variable of an accepted pattern agree. -/
theorem checkTypes_of_validate
    [RegexGrammar]
    (h : g.validate p = .ok ()) :
    ∀ c ∈ p.clauses, p.checkTypes c = .ok () :=
  (Pattern.checkStructure_eq_ok_iff.mp (validate_eq_ok_iff.mp h).1).2.1

/- A pattern may be inserted if it is accepted and permitted. -/
theorem checkInsert_eq_ok_iff
    [RegexGrammar] :
    g.checkInsert p = .ok () ↔ g.validate p = .ok () ∧ g.Permits p := by
  unfold checkInsert
  cases hValidate : g.validate p with
  | error e => simp
  | ok u =>
      rw [← permit_eq_ok_iff (checkTypes_of_validate hValidate)]
      cases g.permit p <;> simp

/- A pattern that is not accepted is refused for the same reason. -/
theorem checkInsert_of_validate_eq_error
    [RegexGrammar]
    {e : ValidationError}
    (h : g.validate p = .error e) :
    g.checkInsert p = .error (.validation e) := by
  unfold checkInsert
  rw [h]

end Permissions

end SchemaGraph

------------------------------------------------------------
-- Counting
------------------------------------------------------------

namespace InsertValidator

/- What a validator counts while it gives some results. -/
structure Counts
    (v w : InsertValidator)
    (results : List (Except PlannerError Unit)) : Prop where
  total : w.total = v.total + results.length
  valid : w.valid = v.valid + results.countP Except.isOk
  invalid : w.invalid = v.invalid + results.countP fun r => !r.isOk

namespace Counts

variable
  {u v w : InsertValidator}
  {results later : List (Except PlannerError Unit)}

/- Nothing is counted without a result. -/
theorem refl (v : InsertValidator) : Counts v v [] :=
  ⟨rfl, rfl, rfl⟩

/- Counts add up. -/
theorem trans
    (h : Counts u v results)
    (hLater : Counts v w later) :
    Counts u w (results ++ later) where
  total := by
    rw [hLater.total, h.total, List.length_append, Nat.add_assoc]
  valid := by
    rw [hLater.valid, h.valid, List.countP_append, Nat.add_assoc]
  invalid := by
    rw [hLater.invalid, h.invalid, List.countP_append, Nat.add_assoc]

/- What is counted is valid or invalid. -/
theorem total_eq
    (h : Counts v w results)
    (hStart : v.total = v.valid + v.invalid) :
    w.total = w.valid + w.invalid := by
  have hSplit :
      results.length =
        results.countP Except.isOk +
          results.countP fun r => !r.isOk := by
    have hLength :=
      List.length_eq_countP_add_countP Except.isOk (l := results)
    simpa using hLength
  rw [h.total, h.valid, h.invalid, hStart, hSplit]
  omega

end Counts

section AnyGrammar

variable
  [RegexGrammar]
  (v : InsertValidator)

/- Check patterns one after the other. -/
def checkAll
    (v : InsertValidator) :
    List Pattern → List (Except PlannerError Unit) × InsertValidator
| [] => ([], v)
| p :: ps =>
    let (result, v) := v.check p
    let (results, v) := v.checkAll ps
    (result :: results, v)

/- A check counts its result. -/
theorem counts_check (p : Pattern) :
    Counts v (v.check p).2 [(v.check p).1] := by
  unfold check
  cases v.graph.checkInsert p with
  | ok u => exact ⟨rfl, rfl, rfl⟩
  | error e => exact ⟨rfl, rfl, rfl⟩

/- Checks count all their results. -/
theorem counts_checkAll (ps : List Pattern) :
    Counts v (v.checkAll ps).2 (v.checkAll ps).1 := by
  induction ps generalizing v with
  | nil => exact .refl v
  | cons p ps ih => exact (v.counts_check p).trans (ih (v.check p).2)

/- A check does not change the schema. -/
theorem graph_check (p : Pattern) : (v.check p).2.graph = v.graph := by
  unfold check
  cases v.graph.checkInsert p <;> rfl

/- Checks one after the other give the results of each check. -/
theorem results_checkAll (ps : List Pattern) :
    (v.checkAll ps).1 = ps.map v.graph.checkInsert := by
  induction ps generalizing v with
  | nil => rfl
  | cons p ps ih =>
      have hRest := ih (v.check p).2
      rw [graph_check] at hRest
      rw [List.map_cons, ← hRest]
      rfl

/-
  A validator accepts exactly the patterns that its schema accepts
  and permits, and refuses those that the schema does not accept
  for the schema's reason.  All that it checks it counts once, as
  valid if it accepted it, and else as invalid.
-/
theorem check_ok_iff_permits :
    (∀ (v : InsertValidator) (p : Pattern),
      (v.check p).1 = .ok () ↔
        v.graph.validate p = .ok () ∧ v.graph.Permits p) ∧
    (∀ (v : InsertValidator) (p : Pattern) (e : ValidationError),
      v.graph.validate p = .error e →
        (v.check p).1 = .error (.validation e)) ∧
    ∀ (g : SchemaGraph) (ps : List Pattern),
      let checked := (ofGraph g).checkAll ps
      checked.1 = ps.map g.checkInsert ∧
        checked.2.total = ps.length ∧
        checked.2.total = checked.2.valid + checked.2.invalid ∧
        checked.2.valid = checked.1.countP Except.isOk := by
  refine ⟨?_, ?_, ?_⟩
  · intro v p
    exact SchemaGraph.checkInsert_eq_ok_iff
  · intro v p e h
    exact SchemaGraph.checkInsert_of_validate_eq_error h
  · intro g ps checked
    have hResults : checked.1 = ps.map g.checkInsert :=
      results_checkAll (ofGraph g) ps
    have hCounts : Counts (ofGraph g) checked.2 checked.1 :=
      counts_checkAll (ofGraph g) ps
    refine ⟨hResults, ?_, hCounts.total_eq rfl, ?_⟩
    · rw [hCounts.total, hResults, List.length_map]
      exact Nat.zero_add _
    · rw [hCounts.valid]
      exact Nat.zero_add _

end AnyGrammar

section Premieres

attribute [local instance] Regex.grammar

/-
  A premiere with one actor, whose type comes after all that is
  said about the actor.
-/
def premierePattern (type : String) : Pattern where
  clauses :=
    [⟨⟨"r"⟩,
      [.rolePlayer ⟨some (.label "actor"), ⟨"a"⟩⟩,
       .rolePlayer ⟨some (.label "production-with-cast"), ⟨"p"⟩⟩]⟩,
     ⟨⟨"a"⟩, [.has "name" none none]⟩,
     ⟨⟨"a"⟩, [.isa (.label type)]⟩,
     ⟨⟨"r"⟩, [.isa (.label "has-cast")]⟩]

/-
  A person may be inserted as an actor.  A genre, which the schema
  accepts and which may have a name, may not, and a type that the
  schema does not know is refused as unknown.
-/
theorem check_ok_iff_permits_premierePattern :
    let v := ofGraph SchemaGraph.movies
    (v.check (premierePattern "person")).1 = .ok () ∧
      SchemaGraph.movies.Permits (premierePattern "person") ∧
      SchemaGraph.movies.validate (premierePattern "genre") = .ok () ∧
      ¬ SchemaGraph.movies.Permits (premierePattern "genre") ∧
      SchemaGraph.movies.validate (premierePattern "star") =
        .error (.labelNotFound "star") ∧
      (v.check (premierePattern "star")).1 =
        .error (.validation (.labelNotFound "star")) := by
  intro v
  have hPerson : (v.check (premierePattern "person")).1 = .ok () := by
    decide +kernel
  have hGenre :
      SchemaGraph.movies.validate (premierePattern "genre") = .ok () := by
    decide +kernel
  have hRefused : (v.check (premierePattern "genre")).1 ≠ .ok () := by
    decide +kernel
  have hStar :
      SchemaGraph.movies.validate (premierePattern "star") =
        .error (.labelNotFound "star") := by
    decide +kernel
  have hIff := check_ok_iff_permits.1 v
  refine ⟨hPerson, ((hIff _).mp hPerson).2, hGenre, ?_, hStar,
    check_ok_iff_permits.2.1 v _ _ hStar⟩
  intro h
  exact hRefused ((hIff _).mpr ⟨hGenre, h⟩)

end Premieres

end InsertValidator

end TraversalPlanner
