import MediaLanguage.Proofs.Parser.Steps

/-!
# Expressions and dates side by side

Expressions nest, and the bound on the depth is taken from the tokens that are left, which differ where the texts go
on differently. `sim_expressionWithin` compares expressions read with different bounds: any two do that exceed the
number of tokens.
-/

open MediaLanguage.Ast MediaLanguage.Parser

namespace MediaLanguage.Pairing

variable {P : Pairing} {k : Mode} {c c' : Cursor}

/-! ## Dates -/

/-- A date. -/
theorem sim_date (h : P.Beside c c') : P.Sim .within (P.Same Date.view) date date c c' := by
  refine .look_within h fun hin halike => ?_
  rw [← halike.lexeme]
  split
  · exact (sim_advance h hin).bind fun _ _ _ _ _ h => .pure h (congrArg Date.current halike.place)
  · exact (sim_advance h hin).bind fun _ _ _ _ _ h => .pure h (congrArg (Date.day _) halike.place)
  · exact sim_unexpected h _

/-- The end of a period, if there is one. -/
theorem sim_periodEnd (h : P.Beside c c') :
    P.Sim .within (fun a b => a.map (Date.view P.view) = b.map (Date.view P.view')) periodEnd periodEnd c c' := by
  refine (sim_accept h rfl).bind fun b b' _ _ hb h => ?_
  subst hb
  refine .ite (fun _ => ?_) (fun _ => .pure h rfl)
  exact (sim_date h).map fun _ _ hdate => congrArg some hdate

/-- A date and perhaps the end of a period. -/
theorem sim_dateRange (h : P.Beside c c') : P.Sim .within (P.Same DateRange.view) dateRange dateRange c c' := by
  refine (sim_date h).bind fun _ _ _ _ hstart h => ?_
  refine (sim_periodEnd h).bind fun _ _ _ _ hfinish h => .pure h ?_
  simp only [Same, DateRange.view, DateRange.mk.injEq]
  exact ⟨hstart, hfinish⟩

/-! ## Objects and expressions -/

/-- A member of an object. -/
theorem sim_member {value value' : Parser Expr} (h : P.Beside c c')
    (hvalue : ∀ d d', d.rest.length ≤ c.rest.length → P.Beside d d' →
      P.Sim .within (P.Same Expr.view) value value' d d') :
    P.Sim .within (P.Same Member.view) (member value) (member value') c c' := by
  refine .look_within h fun _ hfirst => ?_
  refine (sim_name h).bind_run fun _ _ _ _ hname hlabel h => ?_
  refine (sim_mark h _).bind_run fun _ _ d d' hmark _ h => ?_
  have hle := Nat.le_trans (length_le_of_run hmark) (length_le_of_run hname)
  refine .look_within h fun hin halike => ?_
  rw [← halike.lexeme]
  refine (sim_next h hin).bind_run fun _ t' _ _ hnext hnear h => ?_
  cases hnext
  have hto : (d.peek 1).kind = .keyword .toDate ↔ t'.kind = .keyword .toDate := hnear.eq_iff rfl
  split
  · next _ _ text hstring hkind =>
    rw [hstring, hto.1 hkind]
    refine (sim_advance h hin).bind fun _ _ _ _ _ h => ?_
    refine .of_inside nofun fun hin => ?_
    refine (sim_advance h hin).bind fun _ _ _ _ _ h => ?_
    refine (sim_date h).bind fun _ _ _ _ hdate h => .pure h ?_
    simp only [Same, Member.view, DateRange.view, Date.view_day, Option.map_some, hlabel, hfirst.place, halike.place,
      hdate]
  · next hother =>
    split
    · next _ _ text hstring hkind => exact absurd (hto.2 hkind) (hother text hstring)
    · refine (hvalue _ _ hle h).bind fun _ _ _ _ hvalue h => .pure h ?_
      simp only [Same, Member.view, hlabel, hfirst.place, hvalue]

/-- An object; its values stand behind the opening brace. -/
theorem sim_objectOf {value value' : Parser Expr} (h : P.Beside c c')
    (hvalue : ∀ d d', d.rest.length < c.rest.length → P.Beside d d' →
      P.Sim .within (P.Same Expr.view) value value' d d') :
    P.Sim k (P.Same ObjectLiteral.view) (objectOf value) (objectOf value') c c' := by
  refine .look h (fun _ => consumes_objectOf value) fun _ halike => ?_
  refine (sim_braced (R := P.Same Member.view) h fun d d' hlt h => ?_).bind fun _ _ _ _ hmembers h => .pure h ?_
  · exact (sim_member h fun e e' hle => hvalue e e' (Nat.lt_of_le_of_lt hle hlt)).separated
  · simp only [Same, ObjectLiteral.view, Same.map_eq hmembers, halike.place]

/-- Objects that look the same do so as expressions. -/
theorem Same.toExpr {o o' : ObjectLiteral} (h : P.Same ObjectLiteral.view o o') :
    P.Same Expr.view o.toExpr o'.toExpr := by
  simp only [Same, ObjectLiteral.view, ObjectLiteral.mk.injEq] at h
  simp only [Same, ObjectLiteral.toExpr, Expr.view, viewMembers_eq_map, h]

/-- Expressions that are read with bounds that the number of tokens does not reach. -/
theorem sim_expressionWithin {n m : Nat} (h : P.Beside c c') (hn : c.rest.length < n) (hm : c'.rest.length < m) :
    P.Sim k (P.Same Expr.view) (expressionWithin n) (expressionWithin m) c c' := by
  induction n generalizing m c c' k with
  | zero => exact absurd hn (Nat.not_lt_zero _)
  | succ n ih =>
    cases m with
    | zero => exact absurd hm (Nat.not_lt_zero _)
    | succ m =>
      refine .look h (fun _ => consumes_expressionWithin (n + 1)) fun hin halike => ?_
      rw [← halike.lexeme]
      split
      · refine (sim_advance h hin).bind fun _ _ _ _ _ h => ?_
        refine (sim_name h).bind fun _ _ _ _ hname h => .pure h ?_
        simp only [Same, Expr.view, hname, halike.place]
      · exact (sim_advance h hin).bind fun _ _ _ _ _ h => .pure h (congrArg (Expr.string _) halike.place)
      · exact (sim_advance h hin).bind fun _ _ _ _ _ h => .pure h (congrArg (Expr.number _) halike.place)
      · exact (sim_advance h hin).bind fun _ _ _ _ _ h => .pure h (congrArg (Expr.boolean _) halike.place)
      · refine (sim_objectOf h fun d d' hlt hbeside => ?_).bind fun _ _ _ _ hobject h => .pure h ?_
        · have hlength := h.length
          have hlength' := hbeside.length
          exact ih hbeside (by omega) (by omega)
        · exact Same.toExpr hobject
      · exact sim_unexpected h _

/-- The bound that an expression is read with. -/
theorem run_expression (c : Cursor) : expression c = expressionWithin (c.rest.length + 1) c := rfl

/-- The bound that an object is read with. -/
theorem run_object (c : Cursor) : object c = objectOf (expressionWithin (c.rest.length + 1)) c := rfl

/-- An expression. -/
theorem sim_expression (h : P.Beside c c') : P.Sim k (P.Same Expr.view) expression expression c c' := by
  unfold Sim
  rw [run_expression, run_expression]
  exact sim_expressionWithin h (Nat.lt_succ_self _) (Nat.lt_succ_self _)

/-- An object. -/
theorem sim_object (h : P.Beside c c') : P.Sim k (P.Same ObjectLiteral.view) object object c c' := by
  unfold Sim
  rw [run_object, run_object]
  refine sim_objectOf h fun d d' hlt hbeside => ?_
  have hlength := h.length
  have hlength' := hbeside.length
  exact sim_expressionWithin hbeside (by omega) (by omega)

/-! ## Assignments -/

/-- A name, a sign and a value. -/
theorem sim_assignment (h : P.Beside c c') : P.Sim .within (P.Same Assignment.view) assignment assignment c c' := by
  refine .look_within h fun _ halike => ?_
  refine (sim_name h).bind fun _ _ _ _ hname h => ?_
  refine (sim_mark h _).bind fun _ _ _ _ _ h => ?_
  refine (sim_expression h).bind fun _ _ _ _ hvalue h => .pure h ?_
  simp only [Same, Assignment.view, hname, hvalue, halike.place]

/-- Assignments in braces. -/
theorem sim_assignments (h : P.Beside c c') :
    P.Sim .within (List.Forall₂ (P.Same Assignment.view)) assignments assignments c c' :=
  sim_braced h fun _ _ _ h => (sim_assignment h).separated

/-- A field of a block that keeps comments. -/
theorem sim_keptField (h : P.Beside c c') :
    P.Sim .within (List.Forall₂ (P.Same Field.view)) keptField keptField c c' := by
  refine sim_commentedItem h (fun _ _ hnode => congrArg Field.comment hnode) ?_
  exact (sim_assignment h).single fun _ _ hnode => congrArg Field.assignment hnode

end MediaLanguage.Pairing
