import MediaLanguage.Anmi.Outlet
import MediaLanguage.Proofs.Model.Closed

/-!
# The numbers of an outlet

An outlet may give its number more than once: in several identity blocks, and in several fields of one block. The
model takes the first field called `id` of each block, and the first block in which that field is a number. The row
of an outlet takes the last field of all that is a number. An outlet whose fields called `id` say the same has one
number by either rule.

* `Outlet.id_lower`: the number of an outlet of the model, read off its identity fields.
* `OutletRow.id_ofOutlet`: the number in the row of an outlet, read off the same fields.
* `firstId?_eq_lastId?`: the two agree if the fields do.
-/

namespace MediaLanguage

namespace Model

/-! ## Fields that give a number -/

def Value.isArray : Value → Bool
  | .array _ => true
  | _ => false

/-- Whether an identity field may give the number of an outlet: it is called `id`, and is not an array. -/
def Assignment.isId (f : Assignment) : Bool :=
  Text.lower f.name == "id" && !f.value.isArray

/-- The integer that a field gives, if it holds a number. -/
def Assignment.integer? (f : Assignment) : Option Int :=
  (Anmi.fieldNumber? f).map Number.integerPart

/-- The fields of a block that may give the number of an outlet. -/
def Block.idFields : Block → List Assignment
  | .identity fields => fields.filter Assignment.isId
  | _ => []

namespace Outlet

def idFields (o : Outlet) : List Assignment :=
  o.blocks.flatMap Block.idFields

/-- The number that the first field of a block gives, for the first block whose field gives one. -/
def firstId? (o : Outlet) : Option Int :=
  o.blocks.findSome? fun b => b.idFields.head?.bind Assignment.integer?

/-- The number that the last of all fields gives, of those that give one. -/
def lastId? (o : Outlet) : Option Int :=
  (o.idFields.filterMap Assignment.integer?).getLast?

/-- The fields of an outlet that may give its number all say the same. -/
def HasOneId (o : Outlet) : Prop :=
  ∀ f ∈ o.idFields, ∀ g ∈ o.idFields, f.integer? = g.integer?

end Outlet

/-! ## Agreement -/

/-- If all elements are read alike, it makes no difference which is read. -/
theorem findSome?_head?_eq_getLast? {α β γ : Type} {part : α → List β} {read : β → Option γ} {xs : List α}
    (h : ∀ a ∈ xs.flatMap part, ∀ b ∈ xs.flatMap part, read a = read b) :
    (xs.findSome? fun x => (part x).head?.bind read) = ((xs.flatMap part).filterMap read).getLast? := by
  induction xs with
  | nil => rfl
  | cons x xs ih =>
    have htail : ∀ a ∈ xs.flatMap part, ∀ b ∈ xs.flatMap part, read a = read b := fun a ha b hb =>
      h a (List.mem_append_right _ ha) b (List.mem_append_right _ hb)
    rw [List.findSome?_cons, ih htail, List.flatMap_cons]
    rw [List.flatMap_cons] at h
    cases hpart : part x with
    | nil => rfl
    | cons a as =>
      -- everything is read as `a` is: as nothing, or as the one thing that is found first and last
      rw [hpart] at h
      have hall : ∀ b ∈ a :: as ++ xs.flatMap part, read b = read a := fun b hb => h b hb a List.mem_cons_self
      rw [List.head?_cons, Option.bind_some]
      cases hread : read a with
      | none =>
        have hnone : (a :: as).filterMap read = [] := List.filterMap_eq_nil_iff.2 fun b hb =>
          (hall b (List.mem_append_left _ hb)).trans hread
        rw [List.filterMap_append, hnone, List.nil_append]
      | some c =>
        have hsome : ((a :: as ++ xs.flatMap part).filterMap read).getLast? ≠ none := by
          rw [List.cons_append, List.filterMap_cons_some hread, Ne, List.getLast?_eq_none_iff]
          exact List.cons_ne_nil _ _
        obtain ⟨y, hy⟩ := Option.ne_none_iff_exists'.1 hsome
        obtain ⟨b, hb, hreadb⟩ := List.mem_filterMap.1 (List.mem_of_getLast? hy)
        rw [hy, ← hreadb, hall b hb, hread]

theorem Outlet.firstId?_eq_lastId? {o : Outlet} (h : o.HasOneId) : o.firstId? = o.lastId? :=
  findSome?_head?_eq_getLast? h

theorem Outlet.firstId?_of_lastId?_none {o : Outlet} (h : o.lastId? = none) : o.firstId? = none := by
  have hfields : ∀ f ∈ o.idFields, f.integer? = none :=
    List.filterMap_eq_nil_iff.1 (List.getLast?_eq_none_iff.1 h)
  rw [firstId?_eq_lastId?, h]
  intro f hf g hg
  rw [hfields f hf, hfields g hg]

end Model

open Ast

/-! ## Numbers of lowered outlets -/

namespace Ast

@[simp] theorem Expr.isArray_lower (e : Expr) : e.lower.isArray = false := by
  cases e <;> simp [Expr.lower, Model.Value.isArray]

@[simp] theorem Assignment.isId_lower (a : Assignment) : a.lower.isId = (Text.lower a.name == "id") := by
  simp [Model.Assignment.isId, Assignment.lower]

/-- The first field of a lowered block that may give a number is that of the block. -/
theorem Identity.find?_isId (b : Identity) :
    (b.fields.filterMap IdentityField.lower?).find? Model.Assignment.isId =
      (b.assignment? "id").map Assignment.lower := by
  unfold assignment? assignments
  induction b.fields with
  | nil => rfl
  | cons field fields ih =>
    cases field with
    | assignment a =>
      simp only [List.filterMap_cons, IdentityField.lower?, List.find?_cons, Assignment.isId_lower]
      cases Text.lower a.name == "id" with
      | true => rfl
      | false => exact ih
    | array a =>
      -- the block skips arrays, and so does the model, where an array is a field like any other
      have hno : Model.Assignment.isId ⟨a.name, .array (a.values.map ObjectLiteral.lower)⟩ = false := by
        simp [Model.Assignment.isId, Model.Value.isArray]
      simp only [List.filterMap_cons, IdentityField.lower?, List.find?_cons, hno]
      exact ih
    | comment c => exact ih

/-- The number that an identity block gives is that of the first field of the lowered block. -/
theorem Identity.integer_idNumber? (b : Identity) :
    b.idNumber?.map Number.integerPart =
      ((b.fields.filterMap IdentityField.lower?).filter Model.Assignment.isId).head?.bind
        Model.Assignment.integer? := by
  rw [List.head?_filter, b.find?_isId, idNumber?]
  cases b.assignment? "id" with
  | none => rfl
  | some a =>
    obtain ⟨name, value, position⟩ := a
    cases value <;> simp [Assignment.lower, Model.Assignment.integer?, Anmi.fieldNumber?, Expr.lower]

/-- The number of an outlet of the model is the first that its identity fields give. -/
theorem Outlet.id_lower (o : Outlet) : o.lower.id = o.lower.firstId? := by
  show ((identities o.blocks).findSome? Identity.idNumber?).map Number.integerPart =
    (o.blocks.filterMap Block.lower?).findSome? fun b => b.idFields.head?.bind Model.Assignment.integer?
  rw [List.map_findSome?]
  unfold identities
  induction o.blocks with
  | nil => rfl
  | cons block blocks ih =>
    cases block with
    | identity b =>
      simp only [List.filterMap_cons, Block.lower?, List.findSome?_cons, Function.comp_apply, b.integer_idNumber?, ih,
        Model.Block.idFields]
    | _ => exact ih

end Ast

/-! ## Numbers of rows -/

namespace Anmi

/-- What a run of steps leaves in a place, if every step leaves there the last of what it writes, or what was there. -/
theorem foldl_last {σ α β : Type} {get : σ → β} {step : σ → α → σ} {write : α → List β}
    (h : ∀ s a, get (step s a) = (write a).getLast?.getD (get s)) (as : List α) (s : σ) :
    get (as.foldl step s) = (as.flatMap write).getLast?.getD (get s) := by
  induction as generalizing s with
  | nil => rfl
  | cons a as ih =>
    rw [List.foldl_cons, ih, h, List.flatMap_cons, List.getLast?_append]
    cases (as.flatMap write).getLast? <;> rfl

/-- What a run of steps leaves in a place where no step writes. -/
theorem foldl_keep {σ α β : Type} {get : σ → β} {step : σ → α → σ} (h : ∀ s a, get (step s a) = get s)
    (as : List α) (s : σ) : get (as.foldl step s) = get s := by
  induction as generalizing s with
  | nil => rfl
  | cons a as ih => rw [List.foldl_cons, ih, h]

namespace OutletRow

variable (row : OutletRow)

/-- An identity field sets the number of a row if it gives one. -/
theorem id_addIdentity (f : Model.Assignment) :
    (row.addIdentity f).id = (if f.isId then f.integer? else none).getD row.id := by
  unfold addIdentity
  split
  · next x hname hvalue =>
    simp [Model.Assignment.isId, Model.Assignment.integer?, fieldNumber?, hname, hvalue, Model.Value.isArray]
  · next s hname hvalue => simp [Model.Assignment.isId, hname]
  · next hid _ =>
    -- neither a number called `id` nor a string called `name`: no field of the row changes
    split
    · next hisId =>
      have hname : Text.lower f.name = "id" := by
        unfold Model.Assignment.isId at hisId
        simpa using (Bool.and_eq_true_iff.1 hisId).1
      have hnumber : fieldNumber? f = none := by
        unfold fieldNumber?
        split
        · next x hvalue => exact absurd hvalue (hid x hname)
        · rfl
      rw [Model.Assignment.integer?, hnumber]
      rfl
    · rfl

theorem id_addCharacteristic (f : Model.Assignment) : (row.addCharacteristic f).id = row.id := by
  unfold addCharacteristic
  split <;> rfl

theorem id_addMetadata (f : Model.Assignment) : (row.addMetadata f).id = row.id := by
  unfold addMetadata
  split <;> rfl

/-- A block sets the number of a row if one of its identity fields gives one; the last of them counts. -/
theorem id_addBlock (b : Model.Block) :
    (row.addBlock b).id = (b.idFields.filterMap Model.Assignment.integer?).getLast?.getD row.id := by
  cases b with
  | identity fields =>
    -- one field writes at most one number
    have hstep : ∀ (row : OutletRow) (f : Model.Assignment),
        (row.addIdentity f).id = (if f.isId then f.integer? else none).toList.getLast?.getD row.id := by
      intro row f
      rw [id_addIdentity]
      cases (if f.isId then f.integer? else none) <;> rfl
    show (fields.foldl addIdentity row).id = _
    rw [foldl_last hstep, Model.Block.idFields, List.filterMap_filter, List.filterMap_eq_flatMap_toList]
  | characteristics fields => exact foldl_keep id_addCharacteristic fields row
  | lifecycle statuses => cases statuses <;> rfl
  | metadata fields => exact foldl_keep id_addMetadata fields row

/-- The number in the row of an outlet is the last that its identity fields give, or else that of the outlet. -/
theorem id_ofOutlet (o : Model.Outlet) : (ofOutlet o).id = o.lastId?.getD (o.id.getD 0) := by
  show (o.blocks.foldl addBlock _).id = _
  rw [foldl_last id_addBlock, Model.Outlet.lastId?, Model.Outlet.idFields, List.filterMap_flatMap]

/-- An outlet of the model that gives no number is written as zero. -/
theorem id_ofOutlet_lower (o : Outlet) : (ofOutlet o.lower).id = o.lower.lastId?.getD 0 := by
  rw [id_ofOutlet]
  cases hlast : o.lower.lastId? with
  | none =>
    rw [o.id_lower, Model.Outlet.firstId?_of_lastId?_none hlast]
    rfl
  | some id => rfl

end OutletRow

end Anmi

end MediaLanguage
