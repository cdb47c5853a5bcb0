import Augment.Diagnostic
import Augment.Proofs.MemberNames

/-!
# The singleton rule and the constructor plan

The validator and the constructor plan read the same constructor list independently: the rule
`GR0001` allows a singleton type no constructor, or exactly one that is private and takes no
parameters, and the plan calls the first private parameterless constructor or generates one
under a free name.

* `allowedSingletonConstructors_iff`: the rule's check, said as a proposition.
* `diagnose_of_marked`: for a named singleton type, `diagnose` reports the rule exactly when the
  check fails.
* `diagnose_agrees_with_plan`: the report is an error at the type's location that names the type;
  and for every type the validator accepts, the accessor calls the type's only constructor, which
  is private and parameterless, or a generated `new` when it declares none.
-/

namespace Augment

/-- The constructors a singleton type may declare: none, or one that is private and takes no
parameters. -/
def AllowedSingletonConstructors (cs : List Constructor) : Prop :=
  cs = [] ∨ ∃ c, cs = [c] ∧ c.visibility = .inherited ∧ c.params = 0

theorem allowedSingletonConstructors_iff (cs : List Constructor) :
    allowedSingletonConstructors cs = true ↔ AllowedSingletonConstructors cs := by
  unfold AllowedSingletonConstructors
  match cs with
  | [] => simp [allowedSingletonConstructors]
  | [c] => simp [allowedSingletonConstructors, Constructor.isPrivateParameterless]
  | _ :: _ :: _ => simp [allowedSingletonConstructors]

/-- The plan of constructors the rule allows: the only constructor, or a generated `new`. -/
theorem ofConstructors_of_allowed {cs : List Constructor} (h : AllowedSingletonConstructors cs) :
    (∃ c, cs = [c] ∧ c.visibility = .inherited ∧ c.params = 0 ∧
        ConstructorPlan.ofConstructors cs = .existing c.name) ∨
      (cs = [] ∧ ConstructorPlan.ofConstructors cs = .synthesize "new") := by
  rcases h with rfl | ⟨c, rfl, hvis, hparams⟩
  · exact .inr ⟨rfl, rfl⟩
  · have hpp : c.isPrivateParameterless = true := by
      simp [Constructor.isPrivateParameterless, hvis, hparams]
    refine .inl ⟨c, rfl, hvis, hparams, ?_⟩
    simp [ConstructorPlan.ofConstructors, List.find?, hpp]

section Diagnose

variable {model : SymbolModel} {markers : MarkerSet} {node : NodeId} {ty : SymbolId}
  {name : String}

/-- For a named singleton type, `diagnose` reports the rule exactly when its check fails. -/
theorem diagnose_of_marked (hty : model.declaredSymbol node = some ty)
    (hmarked : (model.markers ty).any (·.path == markers.singleton) = true)
    (hname : model.symbolName ty = some name) :
    model.diagnose markers node =
      if allowedSingletonConstructors (model.constructors ty) then none
      else some (.ofRule invalidSingleton ((model.location ty).getD {}) name) := by
  unfold SymbolModel.diagnose
  rw [hty, Option.bind_eq_bind, Option.bind_some, Option.bind_eq_bind, guard, if_pos hmarked]
  cases hallowed : allowedSingletonConstructors (model.constructors ty) with
  | true => rfl
  | false =>
    show (model.symbolName ty).bind _ = _
    rw [hname]
    rfl

/-- **The validator and the constructor plan agree.** For a node that declares a named singleton
type, `diagnose` reports something exactly when the type's constructors are neither none nor one
private parameterless constructor; what it reports is the error `GR0001` at the type's location
(or the empty one) with a message naming the type. When it reports nothing, the record of the
type has the accessor call the type's only constructor, private and parameterless, or a
generated `new` when the type declares none. -/
theorem diagnose_agrees_with_plan (hty : model.declaredSymbol node = some ty)
    (hmarked : (model.markers ty).any (·.path == markers.singleton) = true)
    (hname : model.symbolName ty = some name) :
    ((∃ d, model.diagnose markers node = some d) ↔
        ¬AllowedSingletonConstructors (model.constructors ty)) ∧
      (∀ d, model.diagnose markers node = some d →
        d.rule = "GR0001" ∧ d.severity = .error ∧ d.location = (model.location ty).getD {} ∧
          d.message = "type `" ++ name ++
            "` must declare exactly one constructor, private and without parameters") ∧
      (model.diagnose markers node = none → ∀ r, model.typeRecord? markers node = some r →
        (∃ c, model.constructors ty = [c] ∧ c.visibility = .inherited ∧ c.params = 0 ∧
            r.constructor = .existing c.name) ∨
          (model.constructors ty = [] ∧ r.constructor = .synthesize "new")) := by
  have hdiag := diagnose_of_marked hty hmarked hname
  refine ⟨?_, fun d hd => ?_, fun hnone r hr => ?_⟩
  · rw [← allowedSingletonConstructors_iff, hdiag]
    cases allowedSingletonConstructors (model.constructors ty) <;> simp
  · -- only a failed check reports, and then this diagnostic
    rw [hdiag] at hd
    split at hd
    · cases hd
    · cases hd
      exact ⟨rfl, rfl, rfl, rfl⟩
  · have hallowed : AllowedSingletonConstructors (model.constructors ty) := by
      rw [← allowedSingletonConstructors_iff]
      rw [hdiag] at hnone
      by_contra hfails
      rw [if_neg hfails] at hnone
      cases hnone
    -- the record belongs to the same symbol, so its plan is read off the same constructors
    obtain ⟨howner, hplan⟩ := typeRecord?_eq_some hr
    rw [hty, Option.some.injEq] at howner
    rw [hplan, ← howner]
    exact ofConstructors_of_allowed hallowed

end Diagnose

/-- A singleton type with one public constructor, which the rule forbids. -/
def publicWidget : SymbolModel :=
  SymbolModel.ofTables
    [({ id := ⟨"node:type:app::Widget"⟩, kind := .type, revision := ⟨"1"⟩ },
      some ⟨"symbol:type:app::Widget"⟩)]
    [(⟨"symbol:type:app::Widget"⟩,
      { name := some "Widget", ns := some "app",
        markers := [{ path := (MarkerSet.ofCrate defaultMarkerCrate).singleton }],
        constructors := [{ name := "new", visibility := .exported, params := 0 }] })]

theorem diagnose_agrees_with_plan_public :
    (publicWidget.declaredSymbol ⟨"node:type:app::Widget"⟩ = some ⟨"symbol:type:app::Widget"⟩ ∧
      (publicWidget.markers ⟨"symbol:type:app::Widget"⟩).any
          (·.path == (MarkerSet.ofCrate defaultMarkerCrate).singleton) = true ∧
      publicWidget.symbolName ⟨"symbol:type:app::Widget"⟩ = some "Widget") ∧
    ((∃ d, publicWidget.diagnose (MarkerSet.ofCrate defaultMarkerCrate) ⟨"node:type:app::Widget"⟩ =
          some d) ↔
        ¬AllowedSingletonConstructors (publicWidget.constructors ⟨"symbol:type:app::Widget"⟩)) ∧
      (∀ d, publicWidget.diagnose (MarkerSet.ofCrate defaultMarkerCrate)
          ⟨"node:type:app::Widget"⟩ = some d →
        d.rule = "GR0001" ∧ d.severity = .error ∧
          d.location = (publicWidget.location ⟨"symbol:type:app::Widget"⟩).getD {} ∧
          d.message = "type `" ++ "Widget" ++
            "` must declare exactly one constructor, private and without parameters") ∧
      (publicWidget.diagnose (MarkerSet.ofCrate defaultMarkerCrate) ⟨"node:type:app::Widget"⟩ =
          none → ∀ r, publicWidget.typeRecord? (MarkerSet.ofCrate defaultMarkerCrate)
            ⟨"node:type:app::Widget"⟩ = some r →
        (∃ c, publicWidget.constructors ⟨"symbol:type:app::Widget"⟩ = [c] ∧
            c.visibility = .inherited ∧ c.params = 0 ∧ r.constructor = .existing c.name) ∨
          (publicWidget.constructors ⟨"symbol:type:app::Widget"⟩ = [] ∧
            r.constructor = .synthesize "new")) :=
  ⟨⟨rfl, by decide +kernel, rfl⟩, diagnose_agrees_with_plan rfl (by decide +kernel) rfl⟩

end Augment
