import Mathlib.Data.List.Forall2
import TraversalPlanner.Proofs.Schema.LabelPlaces
import TraversalPlanner.Regex.Validity
import TraversalPlanner.Schema.Movies

/-
  Which patterns a schema accepts: those whose regular
  expressions follow the grammar, whose labels fit their places,
  and whose variables have one type each, which for a clause with
  role players is a relation type that relates their roles.  The
  order of clauses and properties does not matter, and the grammar
  may be any one.

  Main declarations:
    * `SchemaGraph.IsWellFormed`
    * `Pattern.Rearranges`
    * `SchemaGraph.validate_ok_iff_isWellFormed`
-/

namespace TraversalPlanner

------------------------------------------------------------
-- Well-Formed Patterns
------------------------------------------------------------

namespace SchemaGraph

/- A pattern is one that a schema can answer. -/
structure IsWellFormed
    [RegexGrammar]
    (g : SchemaGraph)
    (p : Pattern) : Prop where
  /- there is a clause -/
  nonempty : p.clauses ≠ []
  /- every regular expression is one -/
  regexes :
    ∀ c ∈ p.clauses, ∀ q ∈ c.properties, ∀ r,
      q.UsesRegex r → RegexGrammar.Accepts r
  /- a variable has one type in all clauses on it -/
  types :
    ∀ c ∈ p.clauses, ∀ d ∈ p.clauses, c.subject = d.subject →
      ∀ l m, .isa (.label l) ∈ c.properties →
        .isa (.label m) ∈ d.properties → l = m
  /- every label is that of a concept -/
  labels :
    ∀ c ∈ p.clauses, ∀ q ∈ c.properties, ∀ l,
      q.UsesLabel l → ∃ concept, g.resolve l = some concept
  /- no type of a variable is a role -/
  instances :
    ∀ c ∈ p.clauses, ∀ l, .isa (.label l) ∈ c.properties →
      ¬ g.HasKind .roleType l
  /- every label of a role is that of a role type -/
  roles :
    ∀ c ∈ p.clauses, ∀ q ∈ c.properties, ∀ l,
      q.UsesRole l → g.HasKind .roleType l
  /- every type of an owned resource is a resource type -/
  resources :
    ∀ c ∈ p.clauses, ∀ type resource predicate,
      .has type resource predicate ∈ c.properties →
        g.HasKind .resourceType type
  /-
    a variable of a clause with role players has relation types
    only, in any clause on it, and they relate the roles
  -/
  relations :
    ∀ c ∈ p.clauses, (∃ r, .rolePlayer r ∈ c.properties) →
      ∀ d ∈ p.clauses, d.subject = c.subject →
        ∀ l, .isa (.label l) ∈ d.properties →
          g.HasKind .relationType l ∧
            ∀ role player,
              .rolePlayer ⟨some (.label role), player⟩ ∈ c.properties →
                g.relatesRole l role = true

end SchemaGraph

------------------------------------------------------------
-- Patterns on Their Own
------------------------------------------------------------

namespace Clause

/- The `isa` labels of a clause. -/
theorem mem_isaLabels_iff
    {c : Clause}
    {label : String} :
    label ∈ c.isaLabels ↔ .isa (.label label) ∈ c.properties := by
  simp [isaLabels, List.mem_filterMap, Property.isaLabel?_eq_some_iff]

/- The role players of a clause. -/
theorem mem_rolePlayers_iff
    {c : Clause}
    {r : RolePlayer} :
    r ∈ c.rolePlayers ↔ .rolePlayer r ∈ c.properties := by
  simp [rolePlayers, List.mem_filterMap, Property.rolePlayer?_eq_some_iff]

/- The regular expressions of a clause are ones. -/
theorem checkRegexes_eq_ok_iff
    [RegexGrammar]
    {c : Clause} :
    c.checkRegexes = .ok () ↔
      ∀ q ∈ c.properties, ∀ r,
        q.UsesRegex r → RegexGrammar.Accepts r := by
  unfold checkRegexes
  rw [Acceptance.forM_eq_ok_iff]
  constructor
  · intro h q hq r hr
    have hMem : r ∈ c.properties.filterMap Property.regex? :=
      List.mem_filterMap.mpr
        ⟨q, hq, Property.regex?_eq_some_iff.mpr hr⟩
    have hCheck := h r hMem
    split at hCheck
    · assumption
    · cases hCheck
  · intro h r hr
    rcases List.mem_filterMap.mp hr with ⟨q, hq, hRegex⟩
    have hAccepts : RegexGrammar.refusal? r = none :=
      h q hq r (Property.regex?_eq_some_iff.mp hRegex)
    rw [hAccepts]

end Clause

namespace Pattern

/- The types that a variable has in any clause. -/
theorem mem_isaLabelsOf_iff
    {p : Pattern}
    {x : Var}
    {label : String} :
    label ∈ p.isaLabelsOf x ↔
      ∃ c ∈ p.clauses, c.subject = x ∧
        .isa (.label label) ∈ c.properties := by
  simp [isaLabelsOf, clausesOf, List.mem_flatMap,
    Clause.mem_isaLabels_iff, and_assoc]

/- The labels of a clause are all the first one of its variable. -/
theorem checkTypes_eq_ok_iff
    {p : Pattern}
    {c : Clause} :
    p.checkTypes c = .ok () ↔
      ∀ label ∈ c.isaLabels,
        ∀ first, (p.isaLabelsOf c.subject).head? = some first →
          first = label := by
  unfold checkTypes
  rw [Acceptance.forM_eq_ok_iff]
  apply forall₂_congr
  intro label _
  cases (p.isaLabelsOf c.subject).head? with
  | none => simp
  | some first => by_cases h : first = label <;> simp [h]

/- The types of all clauses agree if those of each variable do. -/
theorem forall_checkTypes_eq_ok_iff
    {p : Pattern} :
    (∀ c ∈ p.clauses, p.checkTypes c = .ok ()) ↔
      ∀ c ∈ p.clauses, ∀ d ∈ p.clauses, c.subject = d.subject →
        ∀ l m, .isa (.label l) ∈ c.properties →
          .isa (.label m) ∈ d.properties → l = m := by
  simp only [checkTypes_eq_ok_iff]
  constructor
  · intro h c hc d hd hSubject l m hl hm
    -- both are the first label of their common variable
    have hMem : l ∈ p.isaLabelsOf c.subject :=
      mem_isaLabelsOf_iff.mpr ⟨c, hc, rfl, hl⟩
    cases hLabels : p.isaLabelsOf c.subject with
    | nil =>
        rw [hLabels] at hMem
        cases hMem
    | cons first later =>
        have hFirst : (p.isaLabelsOf c.subject).head? = some first := by
          rw [hLabels]
          rfl
        have hl' := h c hc l (Clause.mem_isaLabels_iff.mpr hl) first hFirst
        rw [hSubject] at hFirst
        have hm' := h d hd m (Clause.mem_isaLabels_iff.mpr hm) first hFirst
        rw [← hl', ← hm']
  · intro h c hc label hLabel first hFirst
    rcases mem_isaLabelsOf_iff.mp (List.mem_of_head? hFirst)
      with ⟨d, hd, hSubject, hIsa⟩
    exact h d hd c hc hSubject first label hIsa
      (Clause.mem_isaLabels_iff.mp hLabel)

/- Which patterns pass the checks that need no schema. -/
theorem checkStructure_eq_ok_iff
    [RegexGrammar]
    {p : Pattern} :
    p.checkStructure = .ok () ↔
      p.clauses ≠ [] ∧
        (∀ c ∈ p.clauses, p.checkTypes c = .ok ()) ∧
        ∀ c ∈ p.clauses, c.checkRegexes = .ok () := by
  unfold checkStructure
  cases hClauses : p.clauses with
  | nil => simp
  | cons c cs =>
      simp only [List.isEmpty_cons, Bool.false_eq_true, if_false,
        Acceptance.forM_eq_ok_iff, Acceptance.seq_eq_ok_iff, ne_eq,
        reduceCtorEq, not_false_eq_true, true_and]
      exact ⟨fun h => ⟨fun d hd => (h d hd).1, fun d hd => (h d hd).2⟩,
        fun h d hd => ⟨h.1 d hd, h.2 d hd⟩⟩

end Pattern

------------------------------------------------------------
-- Relations and Their Role Players
------------------------------------------------------------

namespace SchemaGraph

/- The role of a role player is related by all types of a relation. -/
theorem checkRolePlayer_eq_ok_iff
    {g : SchemaGraph}
    {relations : List String}
    {r : RolePlayer} :
    g.checkRolePlayer relations r = .ok () ↔
      ∀ role, r.role = some (.label role) →
        ∀ relation ∈ relations, g.relatesRole relation role = true := by
  unfold checkRolePlayer
  cases hRole : r.roleLabel? with
  | none =>
      refine iff_of_true rfl ?_
      intro role h
      rw [RolePlayer.roleLabel?_eq_some_iff.mpr h] at hRole
      cases hRole
  | some label =>
      have hLabel := RolePlayer.roleLabel?_eq_some_iff.mp hRole
      simp only [Acceptance.forM_eq_ok_iff, hLabel, Option.some.injEq,
        TypeRef.label.injEq, forall_eq']
      apply forall₂_congr
      intro relation _
      by_cases h : g.relatesRole relation label = true <;> simp [h]

/- The types of the variable of a clause relate its role players. -/
theorem checkRelation_eq_ok_iff
    {g : SchemaGraph}
    {p : Pattern}
    {c : Clause} :
    g.checkRelation p c = .ok () ↔
      ((∃ r, .rolePlayer r ∈ c.properties) →
        ∀ d ∈ p.clauses, d.subject = c.subject →
          ∀ l, .isa (.label l) ∈ d.properties →
            g.HasKind .relationType l ∧
              ∀ role player,
                .rolePlayer ⟨some (.label role), player⟩ ∈
                    c.properties →
                  g.relatesRole l role = true) := by
  unfold checkRelation
  cases hPlayers : c.rolePlayers with
  | nil =>
      refine iff_of_true rfl ?_
      rintro ⟨r, hr⟩
      have hMem := Clause.mem_rolePlayers_iff.mpr hr
      rw [hPlayers] at hMem
      cases hMem
  | cons first later =>
      have hSome : ∃ r, .rolePlayer r ∈ c.properties := by
        refine ⟨first, Clause.mem_rolePlayers_iff.mp ?_⟩
        rw [hPlayers]
        exact List.mem_cons_self
      rw [← hPlayers]
      simp only [hPlayers, List.isEmpty_cons, Bool.false_eq_true, if_false,
        Acceptance.seq_eq_ok_iff, Acceptance.forM_eq_ok_iff,
        requireRelation_eq_ok_iff, checkRolePlayer_eq_ok_iff,
        hSome, true_imp_iff]
      rw [← hPlayers]
      simp only [Pattern.mem_isaLabelsOf_iff, Clause.mem_rolePlayers_iff]
      constructor
      · rintro ⟨hKinds, hRoles⟩ d hd hSubject l hl
        refine ⟨hKinds l ⟨d, hd, hSubject, hl⟩, ?_⟩
        intro role player hPlayer
        exact hRoles _ hPlayer role rfl l ⟨d, hd, hSubject, hl⟩
      · intro h
        constructor
        · rintro l ⟨d, hd, hSubject, hl⟩
          exact (h d hd hSubject l hl).1
        · rintro ⟨role', player⟩ hPlayer role rfl l ⟨d, hd, hSubject, hl⟩
          exact (h d hd hSubject l hl).2 role player hPlayer

end SchemaGraph

------------------------------------------------------------
-- Acceptance
------------------------------------------------------------

/-
  Two clauses state the same properties of the same variable, in
  some order.
-/
structure Clause.Rearranges (c d : Clause) : Prop where
  subject_eq : c.subject = d.subject
  perm : c.properties.Perm d.properties

/-
  Two patterns have the same clauses in some order, each with its
  properties in some order.
-/
def Pattern.Rearranges (p q : Pattern) : Prop :=
  ∃ cs : List Clause, p.clauses.Perm cs ∧
    List.Forall₂ Clause.Rearranges cs q.clauses

namespace Pattern.Rearranges

variable
  {p q : Pattern}

/- A rearranged pattern has each clause, rearranged. -/
theorem exists_right
    (h : p.Rearranges q) :
    ∀ c ∈ p.clauses, ∃ d ∈ q.clauses, c.Rearranges d := by
  rcases h with ⟨cs, hPerm, hClauses⟩
  intro c hc
  rcases List.mem_iff_getElem.mp (hPerm.mem_iff.mp hc) with ⟨i, hi, rfl⟩
  rcases List.forall₂_iff_get.mp hClauses with ⟨hLength, hGet⟩
  exact ⟨_, List.getElem_mem (hLength ▸ hi), hGet i hi (hLength ▸ hi)⟩

/- Each clause of a rearranged pattern is a rearranged one. -/
theorem exists_left
    (h : p.Rearranges q) :
    ∀ d ∈ q.clauses, ∃ c ∈ p.clauses, c.Rearranges d := by
  rcases h with ⟨cs, hPerm, hClauses⟩
  intro d hd
  rcases List.mem_iff_getElem.mp hd with ⟨i, hi, rfl⟩
  rcases List.forall₂_iff_get.mp hClauses with ⟨hLength, hGet⟩
  have hi' : i < cs.length := hLength ▸ hi
  exact ⟨cs[i], hPerm.mem_iff.mpr (List.getElem_mem hi'), hGet i hi' hi⟩

end Pattern.Rearranges

namespace SchemaGraph

/- A schema accepts exactly the well-formed patterns. -/
theorem validate_eq_ok_iff_isWellFormed
    [RegexGrammar]
    {g : SchemaGraph}
    {p : Pattern} :
    g.validate p = .ok () ↔ g.IsWellFormed p := by
  rw [validate_eq_ok_iff, Pattern.checkStructure_eq_ok_iff,
    Pattern.forall_checkTypes_eq_ok_iff]
  simp only [Clause.checkRegexes_eq_ok_iff,
    checkProperty_eq_ok_iff_fitsLabels, checkRelation_eq_ok_iff]
  constructor
  · rintro ⟨⟨hNonempty, hTypes, hRegexes⟩, hLabels, hRelations⟩
    exact
      { nonempty := hNonempty
        regexes := hRegexes
        types := hTypes
        labels := fun c hc q hq => (hLabels c hc q hq).labels
        instances := fun c hc l hl => (hLabels c hc _ hl).instances l rfl
        roles := fun c hc q hq => (hLabels c hc q hq).roles
        resources := fun c hc type resource predicate hHas =>
          (hLabels c hc _ hHas).resources type resource predicate rfl
        relations := hRelations }
  · intro h
    refine ⟨⟨h.nonempty, h.types, h.regexes⟩, ?_, h.relations⟩
    intro c hc q hq
    exact
      { labels := h.labels c hc q hq
        instances := by
          rintro l rfl
          exact h.instances c hc l hq
        roles := h.roles c hc q hq
        resources := by
          rintro type resource predicate rfl
          exact h.resources c hc type resource predicate hq }

/-
  A pattern with clauses is well-formed if each of its clauses is
  a rearranged one of a well-formed pattern.
-/
theorem IsWellFormed.of_forall_exists
    [RegexGrammar]
    {g : SchemaGraph}
    {p q : Pattern}
    (h : g.IsWellFormed p)
    (hNonempty : q.clauses ≠ [])
    (hClauses : ∀ d ∈ q.clauses, ∃ c ∈ p.clauses,
      c.subject = d.subject ∧
        ∀ x, x ∈ d.properties ↔ x ∈ c.properties) :
    g.IsWellFormed q where
  nonempty := hNonempty
  regexes := by
    intro d hd x hx
    rcases hClauses d hd with ⟨c, hc, _, hMem⟩
    exact h.regexes c hc x ((hMem x).mp hx)
  types := by
    intro d hd e he hSubject l m hl hm
    rcases hClauses d hd with ⟨c, hc, hcd, hMem⟩
    rcases hClauses e he with ⟨b, hb, hbe, hMem'⟩
    have hSubjects : c.subject = b.subject := by
      rw [hcd, hSubject, hbe]
    exact h.types c hc b hb hSubjects l m ((hMem _).mp hl)
      ((hMem' _).mp hm)
  labels := by
    intro d hd x hx
    rcases hClauses d hd with ⟨c, hc, _, hMem⟩
    exact h.labels c hc x ((hMem x).mp hx)
  instances := by
    intro d hd l hl
    rcases hClauses d hd with ⟨c, hc, _, hMem⟩
    exact h.instances c hc l ((hMem _).mp hl)
  roles := by
    intro d hd x hx
    rcases hClauses d hd with ⟨c, hc, _, hMem⟩
    exact h.roles c hc x ((hMem x).mp hx)
  resources := by
    intro d hd type resource predicate hHas
    rcases hClauses d hd with ⟨c, hc, _, hMem⟩
    exact h.resources c hc type resource predicate ((hMem _).mp hHas)
  relations := by
    rintro d hd ⟨r, hr⟩ e he hSubject l hl
    rcases hClauses d hd with ⟨c, hc, hcd, hMem⟩
    rcases hClauses e he with ⟨b, hb, hbe, hMem'⟩
    have hSubjects : b.subject = c.subject := by
      rw [hbe, hSubject, hcd]
    rcases h.relations c hc ⟨r, (hMem _).mp hr⟩ b hb hSubjects l
      ((hMem' _).mp hl) with ⟨hKind, hRoles⟩
    refine ⟨hKind, ?_⟩
    intro role player hPlayer
    exact hRoles role player ((hMem _).mp hPlayer)

/- The order of clauses and properties does not matter. -/
theorem isWellFormed_iff_of_rearranges
    [RegexGrammar]
    {g : SchemaGraph}
    {p q : Pattern}
    (h : p.Rearranges q) :
    g.IsWellFormed q ↔ g.IsWellFormed p := by
  constructor
  · intro hq
    refine hq.of_forall_exists ?_ ?_
    · intro hEmpty
      rcases List.exists_mem_of_ne_nil _ hq.nonempty with ⟨d, hd⟩
      rcases h.exists_left d hd with ⟨c, hc, _⟩
      rw [hEmpty] at hc
      cases hc
    · intro c hc
      rcases h.exists_right c hc with ⟨d, hd, hcd⟩
      exact ⟨d, hd, hcd.subject_eq.symm, fun x => hcd.perm.mem_iff⟩
  · intro hp
    refine hp.of_forall_exists ?_ ?_
    · intro hEmpty
      rcases List.exists_mem_of_ne_nil _ hp.nonempty with ⟨c, hc⟩
      rcases h.exists_right c hc with ⟨d, hd, _⟩
      rw [hEmpty] at hd
      cases hd
    · intro d hd
      rcases h.exists_left d hd with ⟨c, hc, hcd⟩
      exact ⟨c, hc, hcd.subject_eq, fun x => hcd.perm.mem_iff.symm⟩

/-
  A schema accepts exactly the well-formed patterns, in any order
  of their clauses and properties.
-/
theorem validate_ok_iff_isWellFormed
    [RegexGrammar]
    (g : SchemaGraph)
    (p : Pattern) :
    (g.validate p = .ok () ↔ g.IsWellFormed p) ∧
      ∀ q, p.Rearranges q →
        (g.validate q = .ok () ↔ g.validate p = .ok ()) := by
  refine ⟨validate_eq_ok_iff_isWellFormed, ?_⟩
  intro q h
  rw [validate_eq_ok_iff_isWellFormed, validate_eq_ok_iff_isWellFormed,
    isWellFormed_iff_of_rearranges h]

section Cast

attribute [local instance] Regex.grammar

/-
  Actors in something with a title, where the type of the relation
  is in the last clause.
-/
def castPattern (relation : String) : Pattern where
  clauses :=
    [⟨⟨"r"⟩,
      [.rolePlayer ⟨some (.label "actor"), ⟨"a"⟩⟩,
       .rolePlayer ⟨some (.label "production-with-cast"), ⟨"p"⟩⟩]⟩,
     ⟨⟨"p"⟩, [.has "title" none (some (.regex "The Big (Sleep|Heat)"))]⟩,
     ⟨⟨"r"⟩, [.isa (.label relation)]⟩]

/- The pattern with another order of clauses and role players. -/
def rearrangedCastPattern (relation : String) : Pattern where
  clauses :=
    [⟨⟨"r"⟩, [.isa (.label relation)]⟩,
     ⟨⟨"r"⟩,
      [.rolePlayer ⟨some (.label "production-with-cast"), ⟨"p"⟩⟩,
       .rolePlayer ⟨some (.label "actor"), ⟨"a"⟩⟩]⟩,
     ⟨⟨"p"⟩, [.has "title" none (some (.regex "The Big (Sleep|Heat)"))]⟩]

/-
  The cast of a production fits the example schema, and not as the
  role players of its genre, in both orders.
-/
theorem validate_ok_iff_isWellFormed_castPattern :
    (castPattern "has-cast").Rearranges
        (rearrangedCastPattern "has-cast") ∧
      movies.IsWellFormed (castPattern "has-cast") ∧
      movies.validate (rearrangedCastPattern "has-cast") = .ok () ∧
      ¬ movies.IsWellFormed (castPattern "has-genre") ∧
      movies.validate (rearrangedCastPattern "has-genre") ≠ .ok () := by
  have hRearranges : ∀ relation,
      (castPattern relation).Rearranges
        (rearrangedCastPattern relation) := by
    intro relation
    refine ⟨_, List.Perm.trans (.cons _ (.swap _ _ _)) (.swap _ _ _), ?_⟩
    refine .cons ⟨rfl, .refl _⟩ (.cons ⟨rfl, .swap _ _ _⟩
      (.cons ⟨rfl, .refl _⟩ .nil))
  have hAccepted :
      movies.validate (castPattern "has-cast") = .ok () := by
    decide +kernel
  have hRefused :
      movies.validate (castPattern "has-genre") ≠ .ok () := by
    decide +kernel
  have hCast := validate_ok_iff_isWellFormed movies (castPattern "has-cast")
  have hGenre :=
    validate_ok_iff_isWellFormed movies (castPattern "has-genre")
  refine ⟨hRearranges _, hCast.1.mp hAccepted,
    (hCast.2 _ (hRearranges _)).mpr hAccepted, ?_, ?_⟩
  · intro h
    exact hRefused (hGenre.1.mpr h)
  · intro h
    exact hRefused ((hGenre.2 _ (hRearranges _)).mp h)

end Cast

end SchemaGraph

end TraversalPlanner
