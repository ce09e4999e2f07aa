import TraversalPlanner.Proofs.Plan.ArenaCandidates
import TraversalPlanner.Proofs.Plan.FragmentNames
import TraversalPlanner.Proofs.Plan.LoweredSets

/-
  Patterns without floating-point literals and without variables
  for roles are lowered to plain fragments.  Plain duplicates are
  equal, and a plain fragment is known from its start, its end
  and its name.

  Main declarations:
    * `Fragment.mirror`
    * `Fragment.IsPlain`
    * `Pattern.IsPlain`
    * `Lowering.IsPlainSet`
    * `Lowering.IsPlainSet.duplicates_iff`
-/

namespace TraversalPlanner

------------------------------------------------------------
-- Mirror Images
------------------------------------------------------------

namespace Fragment

/-
  The fragment for the same constraint from the other end.  A
  filter has one end only.
-/
def mirror : Fragment → Fragment
| .filter f x => .filter f x
| .neq x y => .neq y x
| .step e d x y => .step e d.flip y x
| .casting role v d x y => .casting role v d.flip y x

/- Mirroring twice changes nothing. -/
@[simp] theorem mirror_mirror (f : Fragment) :
    f.mirror.mirror = f := by
  cases f with
  | filter f x => rfl
  | neq x y => rfl
  | step e d x y => cases d <;> rfl
  | casting role v d x y => cases d <;> rfl

/- All fragments for the constraint of a fragment. -/
def images : Fragment → List Fragment
| .filter f x => [.filter f x]
| f => [f, f.mirror]

/- They are the fragment and its mirror image. -/
theorem mem_images_iff
    {f g : Fragment} :
    g ∈ f.images ↔ g = f ∨ g = f.mirror := by
  cases f <;> simp [images, mirror]

end Fragment

namespace Lowering

/- A lowered set has all fragments for one constraint. -/
theorem IsLowered.perm_images
    {s : FragmentSet}
    {f : Fragment}
    (h : IsLowered s)
    (hf : f ∈ s.fragments) :
    s.fragments.Perm f.images := by
  have hPair : ∀ a : Fragment,
      a.images = [a, a.mirror] → a.mirror.images = [a.mirror, a] →
        f ∈ [a, a.mirror] → [a, a.mirror].Perm f.images := by
    intro a hImages hMirrored hMem
    rcases List.mem_cons.mp hMem with rfl | hMem
    · rw [hImages]
    · rw [List.mem_singleton.mp hMem, hMirrored]
      exact .swap _ _ _
  cases h with
  | filtered φ x =>
      rw [List.mem_singleton.mp hf]
      exact .refl _
  | connected e x y => exact hPair (.step e .outward x y) rfl rfl hf
  | cast role roleVar relation player _ =>
      exact hPair (.casting role roleVar .outward relation player) rfl rfl hf
  | distinct x y => exact hPair (.neq x y) rfl rfl hf

/- A lowered set has a fragment and its mirror image. -/
theorem IsLowered.mem_fragments_iff
    {s : FragmentSet}
    {f g : Fragment}
    (h : IsLowered s)
    (hf : f ∈ s.fragments) :
    g ∈ s.fragments ↔ g = f ∨ g = f.mirror := by
  rw [(h.perm_images hf).mem_iff, Fragment.mem_images_iff]

end Lowering

------------------------------------------------------------
-- Plain Fragments
------------------------------------------------------------

namespace Fragment

/-
  A fragment without a floating-point literal, whose role variable
  is the one for the label of its role, if it has any.
-/
inductive IsPlain : Fragment → Prop where
| filter
    {f : Filter}
    (x : Var) :
    (∀ c d, f ≠ .value (.compare c (.value (.double d)))) →
    IsPlain (.filter f x)
| neq
    (x y : Var) :
    IsPlain (.neq x y)
| step
    (e : Edge)
    (d : Direction)
    (x y : Var) :
    IsPlain (.step e d x y)
| casting
    (role : Option String)
    (d : Direction)
    (x y : Var) :
    IsPlain (.casting role (role.map Lowering.labelVar) d x y)

end Fragment

/- A literal that is no floating-point number agrees with itself alone. -/
theorem Value.agree_iff_eq
    {v w : Value}
    (h : ∀ x, v ≠ .double x) :
    v.Agree w ↔ v = w := by
  cases v with
  | double x => exact absurd rfl (h x)
  | _ => cases w <;> simp [Agree]

/- A plain filter agrees with itself alone. -/
theorem Filter.agree_iff_eq
    {f g : Filter}
    (h : ∀ c d, f ≠ .value (.compare c (.value (.double d)))) :
    f.Agree g ↔ f = g := by
  cases f with
  | value p =>
      cases g with
      | value q =>
          cases p with
          | compare c o =>
              cases q with
              | compare d o' =>
                  cases o with
                  | value v =>
                      have hv : ∀ x, v ≠ .double x := by
                        rintro x rfl
                        exact h c x rfl
                      cases o' with
                      | value w =>
                          simp [Agree, ValuePredicate.Agree,
                            Operand.Agree, Value.agree_iff_eq hv]
                      | var y =>
                          simp [Agree, ValuePredicate.Agree, Operand.Agree]
                  | var x =>
                      cases o' <;>
                        simp [Agree, ValuePredicate.Agree, Operand.Agree]
              | _ => simp [Agree, ValuePredicate.Agree]
          | _ => cases q <;> simp [Agree, ValuePredicate.Agree]
      | _ => simp [Agree]
  | _ => cases g <;> simp [Agree]

namespace Fragment

namespace IsPlain

variable
  {f g : Fragment}

/- The kind of a plain fragment is canonical. -/
theorem canonical_kind
    (h : f.IsPlain) :
    f.kind.canonical = f.kind := by
  cases h with
  | @filter φ x hDouble =>
      cases φ with
      | value p =>
          cases p with
          | compare c o =>
              cases o with
              | value v =>
                  cases v with
                  | double d => exact absurd rfl (hDouble c d)
                  | _ => rfl
              | var y => rfl
          | _ => rfl
      | _ => rfl
  | _ => rfl

/- A plain fragment is known from its kind, its start and its end. -/
theorem eq_of_kind_eq
    (hf : f.IsPlain)
    (hg : g.IsPlain)
    (hKind : f.kind = g.kind)
    (hStart : f.start = g.start)
    (hFinish : f.finish? = g.finish?) :
    f = g := by
  cases hf <;> cases hg <;>
    simp_all [kind, start, finish?]

/- A plain fragment is known from its name, its start and its end. -/
theorem eq_of_name_eq
    (hf : f.IsPlain)
    (hg : g.IsPlain)
    (hName : f.name = g.name)
    (hStart : f.start = g.start)
    (hFinish : f.finish? = g.finish?) :
    f = g := by
  have hKind : f.kind = g.kind := by
    rw [← hf.canonical_kind, ← hg.canonical_kind]
    exact FragmentKind.canonical_eq_of_name_eq hName
  exact hf.eq_of_kind_eq hg hKind hStart hFinish

/- Plain duplicates are equal. -/
theorem duplicates_iff_eq
    (hf : f.IsPlain)
    (hg : g.IsPlain) :
    f.Duplicates g ↔ f = g := by
  have hAgree : f.kind.Agree g.kind ↔ f.kind = g.kind := by
    cases hf with
    | filter x hDouble =>
        cases hg with
        | filter y _ =>
            simp [kind, FragmentKind.Agree, Filter.agree_iff_eq hDouble]
        | _ => simp [kind, FragmentKind.Agree]
    | _ => cases hg <;> simp [kind, FragmentKind.Agree]
  constructor
  · rintro ⟨⟨_, hStart, hFinish⟩, hKind⟩
    exact hf.eq_of_kind_eq hg (hAgree.mp hKind) hStart hFinish
  · rintro rfl
    exact ⟨⟨rfl, rfl, rfl⟩, hAgree.mpr rfl⟩

end IsPlain

end Fragment

------------------------------------------------------------
-- Plain Patterns
------------------------------------------------------------

namespace Property

/- A property compares with a floating-point literal. -/
def UsesDouble : Property → Prop
| .value (.compare _ (.value (.double _))) => True
| .has _ _ (some (.compare _ (.value (.double _)))) => True
| _ => False

instance (q : Property) : Decidable q.UsesDouble := by
  unfold UsesDouble
  split <;> infer_instance

/- A property gives a role by a variable. -/
def UsesRoleVar : Property → Prop
| .rolePlayer ⟨some (.var _), _⟩ => True
| _ => False

instance (q : Property) : Decidable q.UsesRoleVar := by
  unfold UsesRoleVar
  split <;> infer_instance

end Property

/-
  A pattern without floating-point literals and without variables
  for roles.
-/
structure Pattern.IsPlain (p : Pattern) : Prop where
  no_double : ∀ c ∈ p.clauses, ∀ q ∈ c.properties, ¬ q.UsesDouble
  no_roleVar : ∀ c ∈ p.clauses, ∀ q ∈ c.properties, ¬ q.UsesRoleVar

namespace Lowering

/- A lowered set of plain fragments. -/
structure IsPlainSet (s : FragmentSet) : Prop where
  isLowered : IsLowered s
  isPlain : ∀ f ∈ s.fragments, f.IsPlain

/- A filter without a floating-point literal is plain. -/
theorem isPlain_of_mem_filtered
    {f : Filter}
    {x : Var}
    (hDouble : ∀ c d, f ≠ .value (.compare c (.value (.double d)))) :
    ∀ g ∈ (filtered f x).fragments, g.IsPlain := by
  intro g hg
  rw [List.mem_singleton.mp hg]
  exact .filter x hDouble

/- A pinned label is plain. -/
theorem isPlain_of_mem_pin
    {t : TypeRef}
    {s : FragmentSet}
    (hs : s ∈ pin t) :
    ∀ f ∈ s.fragments, f.IsPlain := by
  cases t with
  | label l =>
      rw [List.mem_singleton.mp hs]
      exact isPlain_of_mem_filtered (fun c d h => nomatch h)
  | var x => cases hs

/- Edges are plain. -/
theorem isPlain_of_mem_connected
    {e : Edge}
    {x y : Var} :
    ∀ f ∈ (connected e x y).fragments, f.IsPlain := by
  intro f hf
  rcases List.mem_cons.mp hf with rfl | hf
  · exact .step e .outward x y
  · rw [List.mem_singleton.mp hf]
    exact .step e .inward y x

/- An edge to a type, and the label of the type. -/
theorem isPlain_of_mem_pin_append
    {t : TypeRef}
    {e : Edge}
    {x y : Var}
    {s : FragmentSet}
    (hs : s ∈ pin t ++ [connected e x y]) :
    ∀ f ∈ s.fragments, f.IsPlain := by
  rcases List.mem_append.mp hs with hs | hs
  · exact isPlain_of_mem_pin hs
  · rw [List.mem_singleton.mp hs]
    exact isPlain_of_mem_connected

/- Castings for a role that no variable gives are plain. -/
theorem isPlain_of_mem_cast
    {p : RolePlayer}
    {x : Var}
    (hRole : ∀ y, p.role ≠ some (.var y)) :
    ∀ f ∈ (cast p.roleLabel? (p.role.map typeVar) x p.player).fragments,
      f.IsPlain := by
  have hRoleVar : p.role.map typeVar = p.roleLabel?.map labelVar := by
    unfold RolePlayer.roleLabel?
    cases h : p.role with
    | none => rfl
    | some t =>
        cases t with
        | label l => rfl
        | var y => exact absurd h (hRole y)
  rw [hRoleVar]
  intro f hf
  rcases List.mem_cons.mp hf with rfl | hf
  · exact .casting _ .outward x p.player
  · rw [List.mem_singleton.mp hf]
    exact .casting _ .inward p.player x

/- Every set of a plain property is plain. -/
theorem isPlain_of_mem_ofProperty
    {n : Nat}
    {x : Var}
    {q : Property}
    {s : FragmentSet}
    (hDouble : ¬ q.UsesDouble)
    (hRole : ¬ q.UsesRoleVar)
    (hs : s ∈ ofProperty n x q) :
    ∀ f ∈ s.fragments, f.IsPlain := by
  cases q with
  | isa t => exact isPlain_of_mem_pin_append hs
  | sub t => exact isPlain_of_mem_pin_append hs
  | relates t => exact isPlain_of_mem_pin_append hs
  | plays t => exact isPlain_of_mem_pin_append hs
  | value p =>
      rw [List.mem_singleton.mp hs]
      apply isPlain_of_mem_filtered
      intro c d h
      cases h
      exact hDouble trivial
  | has type resource predicate =>
      rcases List.mem_cons.mp hs with rfl | hs
      · exact isPlain_of_mem_connected
      · have hFiltered : ∃ p, predicate = some p ∧
            filtered (.value p) (resource.getD (resourceVar n)) = s := by
          simpa using hs
        rcases hFiltered with ⟨p, rfl, rfl⟩
        apply isPlain_of_mem_filtered
        intro c d h
        cases h
        exact hDouble trivial
  | rolePlayer p =>
      have hVar : ∀ y, p.role ≠ some (.var y) := by
        rintro y h
        cases p
        cases h
        exact hRole trivial
      rcases List.mem_append.mp hs with hs | hs
      · cases hp : p.role with
        | none =>
            rw [hp] at hs
            cases hs
        | some t =>
            rw [hp] at hs
            exact isPlain_of_mem_pin hs
      · rw [List.mem_singleton.mp hs]
        exact isPlain_of_mem_cast hVar
  | neq y =>
      rw [List.mem_singleton.mp hs]
      intro f hf
      rcases List.mem_cons.mp hf with rfl | hf
      · exact .neq x y
      · rw [List.mem_singleton.mp hf]
        exact .neq y x
  | _ =>
      -- a filter without a predicate
      rw [List.mem_singleton.mp hs]
      exact isPlain_of_mem_filtered (fun c d h => nomatch h)

/- Every set of a lowered plain pattern is plain. -/
theorem isPlainSet_of_mem_lower
    {p : Pattern}
    {s : FragmentSet}
    (hp : p.IsPlain)
    (hs : s ∈ p.lower) :
    IsPlainSet s := by
  rcases exists_property_of_mem_lower hs with ⟨c, hc, q, hq, n, hSet⟩
  exact ⟨isLowered_of_mem_ofProperty hSet,
    isPlain_of_mem_ofProperty (hp.no_double c hc q hq)
      (hp.no_roleVar c hc q hq) hSet⟩

------------------------------------------------------------
-- Plain Duplicates
------------------------------------------------------------

namespace IsPlainSet

variable
  {s t : FragmentSet}

/- Plain sets are duplicates if they have the same fragments. -/
theorem duplicates_iff
    (hs : IsPlainSet s)
    (ht : IsPlainSet t) :
    s.Duplicates t ↔ s.fragments.Perm t.fragments := by
  constructor
  · rintro ⟨hDup, _⟩
    rcases hDup s.first s.first_mem_fragments with ⟨g, hg, hEq⟩
    have hfg := ((hs.isPlain _ s.first_mem_fragments).duplicates_iff_eq
      (ht.isPlain g hg)).mp hEq
    rw [← hfg] at hg
    exact (hs.isLowered.perm_images s.first_mem_fragments).trans
      (ht.isLowered.perm_images hg).symm
  · intro hPerm
    constructor
    · intro f hf
      have hft := hPerm.mem_iff.mp hf
      exact ⟨f, hft, ((hs.isPlain f hf).duplicates_iff_eq
        (ht.isPlain f hft)).mpr rfl⟩
    · intro g hg
      have hgs := hPerm.mem_iff.mpr hg
      exact ⟨g, hgs, ((ht.isPlain g hg).duplicates_iff_eq
        (hs.isPlain g hgs)).mpr rfl⟩

end IsPlainSet

end Lowering

end TraversalPlanner
