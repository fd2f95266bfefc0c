import MediaLanguage.Parser.Block
import MediaLanguage.Proofs.Parser.Declaration

/-!
# Blocks side by side

A characteristic that cannot be read is passed over: the failure is gone, but not where it left the cursor. Both runs
fail there alike, so they go on from cursors beside each other (`sim_characteristicValue`).
-/

open MediaLanguage.Ast MediaLanguage.Parser

namespace MediaLanguage.Pairing

variable {P : Pairing} {c c' : Cursor}

/-! ## Identity -/

/-- A field of an identity block. -/
theorem sim_identityField (h : P.Beside c c') :
    P.Sim .within (P.Same IdentityField.view) identityField identityField c c' := by
  refine .look_within h fun _ halike => ?_
  refine (sim_name h).bind fun _ _ _ _ hname h => ?_
  refine (sim_mark h _).bind fun _ _ _ _ _ h => ?_
  refine (sim_accept h rfl).bind fun b b' _ _ hb h => ?_
  subst hb
  refine .ite (fun _ => ?_) (fun _ => ?_)
  · refine (sim_commaList h fun _ _ h => sim_object h).bind fun _ _ _ _ hvalues h => .pure h ?_
    simp only [Same, IdentityField.view, ArrayAssignment.view, hname, Same.map_eq hvalues, halike.place]
  · refine (sim_expression h).bind fun _ _ _ _ hvalue h => .pure h ?_
    simp only [Same, IdentityField.view, Assignment.view, hname, hvalue, halike.place]

/-- An identity block. -/
theorem sim_identityBlock (h : P.Beside c c') :
    P.Sim .within (P.Same Identity.view) identityBlock identityBlock c c' := by
  refine (sim_keyword h _).bind fun _ _ _ _ hstart h => ?_
  refine (sim_braced (R := P.Same IdentityField.view) h fun _ _ _ h => ?_).bind fun _ _ _ _ hfields h => .pure h ?_
  · refine sim_commentedItem h (fun _ _ hnode => congrArg IdentityField.comment hnode) ?_
    exact (sim_identityField h).single fun _ _ hnode => hnode
  · simp only [Same, Identity.view, Same.map_eq hfields, hstart.place]

/-! ## Lifecycle -/

/-- An attribute of a status. -/
theorem sim_lifecycleAttribute (h : P.Beside c c') :
    P.Sim .within (P.Same Field.view) lifecycleAttribute lifecycleAttribute c c' := by
  refine .look_within h fun _ halike => ?_
  rw [← halike.kind]
  have hafter : ∀ (a b : Field) (d d' : Cursor), P.Same Field.view a b → P.Beside d d' →
      P.Sim .within (P.Same Field.view) (do skipSeparators; return a) (do skipSeparators; return b) d d' :=
    fun a b d d' hnode h => (sim_skipWhile h _).bind fun _ _ _ _ _ h => .pure h hnode
  refine .ite (fun hcomment => ?_) (fun _ => .ite (fun _ => ?_) (fun _ => ?_))
  · refine Sim.bind (R := P.Same Field.view) ?_ hafter
    exact (sim_comment h hcomment).map fun _ _ hnode => congrArg Field.comment hnode
  · refine Sim.bind (R := P.Same Field.view) ?_ hafter
    exact (sim_tagComment h).map fun _ _ hnode => congrArg Field.comment hnode
  · refine Sim.bind (R := P.Same Field.view) ?_ hafter
    exact (sim_assignment h).map fun _ _ hnode => congrArg Field.assignment hnode

/-- A status. -/
theorem sim_lifecycleEntry (h : P.Beside c c') :
    P.Sim .within (P.Same LifecycleEntry.view) lifecycleEntry lifecycleEntry c c' := by
  refine (sim_keyword h _).bind fun _ _ _ _ hfirst h => ?_
  refine (sim_string h _).bind fun _ _ _ _ hstatus h => ?_
  refine (sim_keyword h _).bind fun _ _ _ _ _ h => ?_
  refine (sim_date h).bind fun _ _ _ _ hstart h => ?_
  refine (sim_periodEnd h).bind fun _ _ _ _ hfinish h => ?_
  refine (sim_braced (R := P.Same Field.view) h fun _ _ _ h => ?_).bind fun _ _ _ _ hattributes h => .pure h ?_
  · exact (sim_lifecycleAttribute h).single fun _ _ hnode => hnode
  · simp only [Same, LifecycleEntry.view, hstatus, hstart, hfinish, Same.map_eq hattributes, hfirst.place]

/-- A lifecycle block. -/
theorem sim_lifecycleBlock (h : P.Beside c c') :
    P.Sim .within (P.Same Lifecycle.view) lifecycleBlock lifecycleBlock c c' := by
  refine (sim_keyword h _).bind fun _ _ _ _ hstart h => ?_
  refine (sim_braced (R := P.Same LifecycleEntry.view) h fun _ _ _ h => ?_).bind fun _ _ _ _ hentries h => .pure h ?_
  · exact sim_untaggedItem h (fun _ _ h => sim_lifecycleEntry h) fun _ _ h => sim_skipWhile h _
  · simp only [Same, Lifecycle.view, Same.map_eq hentries, hstart.place]

/-! ## Characteristics and metadata -/

/-- The value of a characteristic, or what is passed over in its place. -/
theorem sim_characteristicValue (h : P.Beside c c') :
    P.Sim .within (P.Same fun v => Option.map (Expr.view v)) characteristicValue characteristicValue c c' := by
  refine .look_within h fun hin halike => ?_
  have hstring : ∀ value, P.Same (fun v => Option.map (Expr.view v)) (some (.string value c.current.position))
      (some (.string value c'.current.position)) := by
    intro value
    simp only [Same, Option.map_some, Expr.view, halike.place]
  rw [← halike.lexeme]
  split
  · refine (sim_advance h hin).bind fun _ _ _ _ _ h => ?_
    exact (sim_skipBracesIfAny h).bind fun _ _ _ _ _ h => .pure h (hstring _)
  · exact (sim_skipBraces h).bind fun _ _ _ _ _ h => .pure h (hstring _)
  · refine .tryCatch ?_ (fun _ _ _ _ h => ?_) (fun _ _ _ h _ => ⟨.conversion _, h⟩)
    · exact (sim_expression h).map fun _ _ hvalue => congrArg some hvalue
    · exact (sim_skipWhile h _).bind fun _ _ _ _ _ h => .pure h rfl

/-- A characteristic. -/
theorem sim_characteristic (h : P.Beside c c') :
    P.Sim .within (P.Same fun v => Option.map (Assignment.view v)) characteristic characteristic c c' := by
  refine .look_within h fun _ halike => ?_
  refine (sim_name h).bind fun _ _ _ _ hname h => ?_
  refine (sim_mark h _).bind fun _ _ _ _ _ h => ?_
  refine (sim_characteristicValue h).bind fun a b _ _ hvalue h => .pure h ?_
  cases Same.rel hvalue with
  | none => rfl
  | some hexpr => simp only [Same, Option.map_some, Assignment.view, hname, hexpr, halike.place]

/-- A block of characteristics. -/
theorem sim_characteristicsBlock (h : P.Beside c c') :
    P.Sim .within (P.Same FieldBlock.view) characteristicsBlock characteristicsBlock c c' := by
  refine (sim_keyword h _).bind fun _ _ _ _ hstart h => ?_
  refine (sim_braced (R := P.Same Field.view) h fun _ _ _ h => ?_).bind fun _ _ _ _ hfields h => .pure h ?_
  · refine sim_commentedItem h (fun _ _ hnode => congrArg Field.comment hnode) ?_
    refine (sim_characteristic h).bind fun a b _ _ hnode h => .pure h ?_
    cases Same.rel hnode with
    | none => exact .nil
    | some hassignment => exact .cons (congrArg Field.assignment hassignment) .nil
  · simp only [Same, FieldBlock.view, Same.map_eq hfields, hstart.place]

/-- A block of metadata. -/
theorem sim_metadataBlock (h : P.Beside c c') :
    P.Sim .within (P.Same FieldBlock.view) metadataBlock metadataBlock c c' := by
  refine (sim_keyword h _).bind fun _ _ _ _ hstart h => ?_
  refine (sim_braced h fun _ _ _ h => sim_keptField h).bind fun _ _ _ _ hfields h => .pure h ?_
  simp only [Same, FieldBlock.view, Same.map_eq hfields, hstart.place]

/-! ## Blocks -/

/-- A block of an outlet or template. -/
theorem sim_outletBlock (h : P.Beside c c') : P.Sim .within (P.Same Block.view) outletBlock outletBlock c c' := by
  refine .look_within h fun hin halike => ?_
  rw [← halike.kind]
  split
  · next hkind => exact (sim_comment h (by rw [hkind]; rfl)).map fun _ _ hnode => congrArg Block.comment hnode
  · next hkind => exact (sim_comment h (by rw [hkind]; rfl)).map fun _ _ hnode => congrArg Block.comment hnode
  · exact (sim_tagComment h).map fun _ _ hnode => congrArg Block.comment hnode
  · exact (sim_identityBlock h).map fun _ _ hnode => congrArg Block.identity hnode
  · exact (sim_lifecycleBlock h).map fun _ _ hnode => congrArg Block.lifecycle hnode
  · exact (sim_characteristicsBlock h).map fun _ _ hnode => congrArg Block.characteristics hnode
  · exact (sim_metadataBlock h).map fun _ _ hnode => congrArg Block.metadata hnode
  · refine (sim_next h hin).bind fun t t' _ _ hnear h => ?_
    rw [hnear.beq_eq rfl]
    refine .ite (fun _ => ?_) (fun _ => sim_unexpected h _)
    refine (sim_identityField h).bind fun _ _ _ _ hfield h => .pure h ?_
    simp only [Same, Block.view, Identity.view, List.map_cons, List.map_nil, hfield, halike.place]

end MediaLanguage.Pairing
