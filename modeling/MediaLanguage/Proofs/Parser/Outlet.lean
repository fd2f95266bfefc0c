import MediaLanguage.Parser.Outlet
import MediaLanguage.Proofs.Parser.Link
import MediaLanguage.Proofs.Parser.Market

/-!
# Outlets, templates and families side by side

A family and a synchronous link start with a token that the statement in front of them has looked at, so the cursors
have to be inside. The type of a template may be missing, and the string behind it is what it ends with.
-/

open MediaLanguage.Ast MediaLanguage.Parser

namespace MediaLanguage.Pairing

variable {P : Pairing} {k : Mode} {c c' : Cursor}

/-- The blocks of an outlet or template. -/
theorem sim_outletBody (h : P.Beside c c') :
    P.Sim k (List.Forall₂ (P.Same Block.view)) outletBody outletBody c c' :=
  sim_braced h fun _ _ _ h => (sim_outletBlock h).single fun _ _ hnode => hnode

/-- The type of a template. -/
theorem sim_templateType (h : P.Beside c c') : P.Sim .within Eq templateType templateType c c' := by
  refine .look_within h fun hin halike => ?_
  rw [← halike.kind]
  split
  · exact (sim_advance h hin).bind fun _ _ _ _ _ h => .pure h rfl
  · exact .pure h rfl

/-- A template. -/
theorem sim_template (h : P.Beside c c') : P.Sim k (P.Same Template.view) template template c c' := by
  refine (sim_keyword h _).bind fun _ _ _ _ hstart h => ?_
  refine (sim_templateType h).bind_of_consumes (fun _ _ => (consumes_string _).bind) fun _ _ _ _ htype h => ?_
  refine (sim_string h _).bind fun _ _ _ _ hname h => ?_
  refine (sim_outletBody h).bind fun _ _ _ _ hblocks h => .pure h ?_
  simp only [Same, Template.view, hname, htype, Same.map_eq hblocks, hstart.place]

/-- What an outlet takes over. -/
theorem sim_inheritance (h : P.Beside c c') :
    P.Sim .within (P.Same fun v => Option.map (Inheritance.view v)) inheritance inheritance c c' := by
  refine .look_within h fun _ halike => ?_
  refine (sim_accept h rfl).bind fun b b' _ _ hb h => ?_
  subst hb
  refine .ite (fun _ => ?_) (fun _ => ?_)
  · refine (sim_keyword h _).bind fun _ _ _ _ _ h => ?_
    refine (sim_string h _).bind fun _ _ _ _ hname h => .pure h ?_
    simp only [Same, Option.map_some, Inheritance.view, hname, halike.place]
  · refine (sim_accept h rfl).bind fun b b' _ _ hb h => ?_
    subst hb
    refine .ite (fun _ => ?_) (fun _ => .pure h rfl)
    refine (sim_number h _).bind fun _ _ _ _ hid h => .pure h ?_
    simp only [Same, Option.map_some, Inheritance.view, hid, halike.place]

/-- An outlet. -/
theorem sim_outlet (h : P.Beside c c') : P.Sim .within (P.Same Outlet.view) outlet outlet c c' := by
  refine (sim_keyword h _).bind fun _ _ _ _ hstart h => ?_
  refine (sim_string h _).bind fun _ _ _ _ hname h => ?_
  refine (sim_inheritance h).bind fun _ _ _ _ hinherited h => ?_
  refine (sim_outletBody h).bind fun _ _ _ _ hblocks h => .pure h ?_
  simp only [Same, Outlet.view, hname, hinherited, Same.map_eq hblocks, hstart.place]

/-- The name of an outlet that is mentioned. -/
theorem sim_outletLabel (h : P.Beside c c') : P.Sim .within Eq outletLabel outletLabel c c' := by
  refine (sim_accept h rfl).bind fun b b' _ _ hb h => ?_
  subst hb
  refine .ite (fun _ => ?_) (fun _ => sim_string h _)
  refine (sim_string h _).bind fun _ _ _ _ hlabel h => ?_
  exact (sim_mark h _).bind fun _ _ _ _ _ h => .pure h hlabel

/-- A mention of an outlet. -/
theorem sim_outletReference (h : P.Beside c c') :
    P.Sim .within (P.Same OutletReference.view) outletReference outletReference c c' := by
  refine (sim_keyword h _).bind fun _ _ _ _ hstart h => ?_
  refine (sim_number h _).bind fun _ _ _ _ hid h => ?_
  refine (sim_outletLabel h).bind fun _ _ _ _ hlabel h => ?_
  refine (sim_skipWhile h _).bind fun _ _ _ _ _ h => ?_
  refine (sim_skipBracesIfAny h).bind fun _ _ _ _ _ h => .pure h ?_
  simp only [Same, OutletReference.view, hid, hlabel, hstart.place]

/-- A member of a family. -/
theorem sim_familyMember (h : P.Beside c c') :
    P.Sim .within (P.Same FamilyMember.view) familyMember familyMember c c' := by
  refine .look_within h fun hin halike => ?_
  rw [← halike.kind]
  split
  · exact (sim_outlet h).map fun _ _ hnode => congrArg FamilyMember.outlet hnode
  · exact (sim_outletReference h).map fun _ _ hnode => congrArg FamilyMember.reference hnode
  · exact (sim_data h).map fun _ _ hnode => congrArg FamilyMember.data hnode
  · exact (sim_diachronicLink h).map fun _ _ hnode => congrArg (FamilyMember.link ∘ .diachronic) hnode
  · exact (sim_synchronousLink h hin).map fun _ _ hnode => congrArg (FamilyMember.link ∘ .synchronous) hnode
  · exact (sim_synchronousLink h hin).map fun _ _ hnode => congrArg (FamilyMember.link ∘ .synchronous) hnode
  · next hkind => exact (sim_comment h (by rw [hkind]; rfl)).map fun _ _ hnode => congrArg FamilyMember.comment hnode
  · next hkind => exact (sim_comment h (by rw [hkind]; rfl)).map fun _ _ hnode => congrArg FamilyMember.comment hnode
  · exact (sim_tagComment h).map fun _ _ hnode => congrArg FamilyMember.comment hnode
  · exact sim_unexpected h _

/-- A family. -/
theorem sim_family (h : P.Beside c c') (hin : P.Inside c) : P.Sim k (P.Same Family.view) family family c c' := by
  refine (sim_advance h hin).bind fun _ _ _ _ hstart h => ?_
  refine (sim_string h _).bind fun _ _ _ _ hname h => ?_
  refine (sim_braced (R := P.Same FamilyMember.view) h fun _ _ _ h => ?_).bind fun _ _ _ _ hmembers h => .pure h ?_
  · exact (sim_familyMember h).single fun _ _ hnode => hnode
  · simp only [Same, Family.view, hname, Same.map_eq hmembers, hstart.place]

end MediaLanguage.Pairing
