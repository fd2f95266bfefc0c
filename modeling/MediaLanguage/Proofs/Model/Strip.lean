import MediaLanguage.Proofs.Ast.Strip
import MediaLanguage.Validation.Validator

/-!
# The model of a program without comments

Only families take comments over into the model, each the first of its own. All other parts of a model are made from
nodes that are no comments, so a program has the same model without comments, but for the comments of its families
(`Program.silenced_toModel_strip`). The numbers that have to be integers are the same (`Program.integers_strip`,
`Validator.integers_strip`).
-/

namespace MediaLanguage

namespace Model

/-- A family without its comment. -/
def Family.silenced (f : Family) : Family :=
  { f with comment := none }

/-- A model whose families have no comments. -/
def Program.silenced (m : Program) : Program :=
  { m with families := m.families.map Family.silenced }

end Model

namespace Ast

variable (drop : Comment → Bool)

/-! ## Templates and outlets -/

@[simp] theorem lowerFields_strip (fields : List Field) :
    lowerFields (fields.filterMap (Field.strip? drop)) = lowerFields fields := by
  rw [lowerFields, lowerFields, assignments_strip]

@[simp] theorem Template.lower_strip (t : Template) : (t.strip drop).lower = t.lower := by
  have hblocks : (t.strip drop).blocks.filterMap Block.lowerTemplate? =
      (t.blocks.filterMap Block.lowerTemplate?).map id :=
    filterMap_strip (fun b => by cases b <;> simp [Block.strip?, Block.lowerTemplate?, FieldBlock.strip]) t.blocks
  rw [lower, lower, hblocks, List.map_id]
  rfl

@[simp] theorem Identity.lower_strip (b : Identity) :
    (b.strip drop).fields.filterMap IdentityField.lower? = b.fields.filterMap IdentityField.lower? := by
  rw [← List.map_id (b.fields.filterMap IdentityField.lower?)]
  exact filterMap_strip (fun x => by cases x <;> simp [IdentityField.strip?, IdentityField.lower?]) b.fields

@[simp] theorem LifecycleEntry.lower_strip (e : LifecycleEntry) : (e.strip drop).lower = e.lower := by
  simp [lower, LifecycleEntry.strip]

/-- A block of an outlet is no comment. -/
theorem Block.lower?_strip (b : Block) : (b.strip? drop).bind Block.lower? = b.lower? := by
  cases b <;> simp [Block.strip?, lower?, Lifecycle.strip, FieldBlock.strip]

@[simp] theorem Outlet.lower_strip (o : Outlet) : (o.strip drop).lower = o.lower := by
  have hblocks : (o.strip drop).blocks.filterMap Block.lower? = (o.blocks.filterMap Block.lower?).map id :=
    filterMap_strip (fun b => by rw [Block.lower?_strip, Option.map_id_fun, id]) o.blocks
  rw [lower, lower, declaredId?_strip, hblocks, List.map_id]
  rfl

/-! ## Market data -/

@[simp] theorem Year.lower_strip (y : Year) : (y.strip drop).lower = y.lower := by
  have hremarks : (y.strip drop).blocks.filterMap YearBlock.remark? = (y.blocks.filterMap YearBlock.remark?).map id :=
    filterMap_strip (fun b => by cases b <;> simp [YearBlock.strip?, YearBlock.remark?]) y.blocks
  rw [lower, lower, figures_strip, hremarks, List.map_id]
  rfl

@[simp] theorem Data.lower_strip (d : Data) : (d.strip drop).lower = d.lower := by
  have htags : (d.strip drop).blocks.filterMap (DataBlock.tagNamed? "maps_to") =
      (d.blocks.filterMap (DataBlock.tagNamed? "maps_to")).map id :=
    filterMap_strip (fun b => by cases b <;> simp [DataBlock.strip?, DataBlock.tagNamed?]) d.blocks
  have hlevels : (d.strip drop).blocks.flatMap DataBlock.levels = d.blocks.flatMap DataBlock.levels := by
    apply flatMap_strip
    intro b
    cases b with
    | comment c => cases h : c.strip? drop <;> simp [DataBlock.strip?, DataBlock.levels, h]
    | _ => simp [DataBlock.strip?, DataBlock.levels]
  rw [lower, lower, htags, List.map_id, hlevels, years_strip]
  simp [Data.strip, Function.comp_def]

/-! ## Families and programs -/

@[simp] theorem Link.lower_strip (l : Link) : (l.strip drop).lower = l.lower := by
  cases l <;> rfl

@[simp] theorem Event.lower_strip (e : Event) : (e.strip drop).lower = e.lower := rfl

/-- A family without comments has the same outlets, links and data in the model. -/
@[simp] theorem Family.silenced_lower_strip (f : Family) : (f.strip drop).lower.silenced = f.lower.silenced := by
  simp only [Model.Family.silenced, lower, outlets_strip, links_strip, data_strip]
  simp [Family.strip, Function.comp_def]

/-- Loose links and data go into the first family, whatever its comment. -/
theorem silenced_adopt_congr {families families' : List Model.Family}
    (h : families.map Model.Family.silenced = families'.map Model.Family.silenced) (links : List Model.Link)
    (data : List Model.DataBlock) :
    (adopt families links data).map Model.Family.silenced = (adopt families' links data).map Model.Family.silenced := by
  unfold adopt
  split
  · exact h
  · cases families with
    | nil =>
      have hnil : families' = [] := by simpa using h
      rw [hnil]
    | cons first others =>
      cases families' with
      | nil => simp at h
      | cons first' others' =>
        obtain ⟨hfirst, hothers⟩ := List.cons.inj h
        simp only [Model.Family.silenced, Model.Family.mk.injEq] at hfirst
        obtain ⟨hname, -, houtlets, hlinks, hdata⟩ := hfirst
        simp only [List.map_cons, hothers]
        simp only [Model.Family.silenced, hname, houtlets, hlinks, hdata]

/-- A program has the same model without comments, but for the comments of its families. -/
theorem Program.silenced_toModel_strip (p : Program) : (p.strip drop).toModel.silenced = p.toModel.silenced := by
  have hfamilies : ((p.strip drop).families.map Family.lower).map Model.Family.silenced =
      (p.families.map Family.lower).map Model.Family.silenced := by
    simp [Function.comp_def]
  have hlinks : (p.strip drop).looseLinks.map Link.lower = p.looseLinks.map Link.lower := by
    simp [Function.comp_def]
  have hdata : (p.strip drop).looseData.map Data.lower = p.looseData.map Data.lower := by
    simp [Function.comp_def]
  simp only [Model.Program.silenced, toModel, hlinks, hdata, silenced_adopt_congr hfamilies]
  simp [Function.comp_def]

/-! ## Integers -/

@[simp] theorem Data.integers_strip (d : Data) : (d.strip drop).integers = d.integers := by
  rw [integers, integers, years_strip]
  simp [Data.strip, Year.strip, Function.comp_def]

@[simp] theorem Outlet.integers_strip (o : Outlet) : (o.strip drop).integers = o.integers := by
  rw [integers, integers, idNumber?_strip]
  rfl

@[simp] theorem Family.integers_strip (f : Family) : (f.strip drop).integers = f.integers := by
  simp [integers, List.flatMap_map]

/-- No comment holds a number that has to be an integer. -/
theorem Program.integers_strip (p : Program) : (p.strip drop).integers = p.integers := by
  simp [integers, List.flatMap_map, Event.strip]

/-- The numbers that statements refer to are in no comment. -/
theorem Program.referredNumbers_strip (p : Program) :
    (p.strip drop).statements.flatMap Statement.referredNumbers = p.statements.flatMap Statement.referredNumbers := by
  apply flatMap_strip
  intro s
  cases s with
  | comment c => cases h : c.strip? drop <;> simp [Statement.strip?, Statement.referredNumbers, h]
  | family f =>
    simp only [Statement.strip?, Option.toList_some, List.flatMap_singleton, Statement.referredNumbers, Family.strip]
    apply flatMap_strip
    intro m
    cases m with
    | comment c => cases h : c.strip? drop <;> simp [FamilyMember.strip?, h]
    | _ => simp [FamilyMember.strip?, Data.strip]
  | _ => simp [Statement.strip?, Statement.referredNumbers, Data.strip]

end Ast

/-- No comment holds a number that validation turns into an integer. -/
theorem Validator.integers_strip (drop : Ast.Comment → Bool) (p : Ast.Program) :
    integers (p.strip drop) = integers p := by
  have hbase : (p.strip drop).baseNumbers = p.baseNumbers := by
    simp only [Ast.Program.baseNumbers, Ast.Program.outlets_strip, List.filterMap_map, Function.comp_def,
      Ast.Outlet.strip]
  rw [integers, integers, Ast.Program.referredNumbers_strip, hbase]
  simp only [Ast.Program.declaredNumbers, Ast.Program.outlets_strip, List.filterMap_map, Function.comp_def,
    Ast.Outlet.idNumber?_strip]

end MediaLanguage
