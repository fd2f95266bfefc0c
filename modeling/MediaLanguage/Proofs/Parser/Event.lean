import MediaLanguage.Parser.Event
import MediaLanguage.Proofs.Parser.Link

/-!
# Events and catalogs side by side

The bodies of events and of their entities are lists of changes, as those of links are; a catalog is a list of
sources. Both statements may end with a semicolon, so they are compared in both modes.
-/

open MediaLanguage.Ast MediaLanguage.Parser

namespace MediaLanguage.Pairing

variable {P : Pairing} {k : Mode} {c c' : Cursor}

/-! ## Events -/

/-- A field of an entity. -/
theorem sim_entityField (h : P.Beside c c') :
    P.Sim .within (P.SameChange EventEntity.view) entityField entityField c c' := by
  refine (sim_fieldName h _ _).bind fun field field' _ _ hfield h => ?_
  subst hfield
  cases field with
  | id =>
    refine (sim_number h _).bind fun _ _ _ _ hid h => .pure h fun e e' he => ?_
    simp only [Same, EventEntity.view, EventEntity.mk.injEq] at he ⊢
    simp only [he, hid, and_self]
  | role =>
    refine (sim_string h _).bind fun _ _ _ _ hrole h => .pure h fun e e' he => ?_
    simp only [Same, EventEntity.view, EventEntity.mk.injEq] at he ⊢
    simp only [he, hrole, and_self]
  | stakeBefore =>
    refine (sim_number h _).bind fun _ _ _ _ hstake h => .pure h fun e e' he => ?_
    simp only [Same, EventEntity.view, EventEntity.mk.injEq] at he ⊢
    simp only [he, hstake, and_self]
  | stakeAfter =>
    refine (sim_number h _).bind fun _ _ _ _ hstake h => .pure h fun e e' he => ?_
    simp only [Same, EventEntity.view, EventEntity.mk.injEq] at he ⊢
    simp only [he, hstake, and_self]

/-- An entity. -/
theorem sim_eventEntity (h : P.Beside c c') :
    P.Sim .within (P.Same EventEntity.view) eventEntity eventEntity c c' := by
  refine .look_within h fun _ halike => ?_
  refine (sim_name h).bind fun _ _ _ _ hname h => ?_
  refine (sim_mark h _).bind fun _ _ _ _ _ h => ?_
  refine (sim_braced (R := P.SameChange EventEntity.view) h fun _ _ _ h => ?_).bind fun _ _ _ _ hchanges h => ?_
  · exact (sim_entityField h).separated
  · refine .pure h (SameChange.applyAll hchanges ?_)
    simp only [Same, EventEntity.view, hname, halike.place]

/-- The entities of an event. -/
theorem sim_eventEntities (h : P.Beside c c') :
    P.Sim .within (List.Forall₂ (P.Same EventEntity.view)) eventEntities eventEntities c c' :=
  sim_braced h fun _ _ _ h => (sim_eventEntity h).separated

/-- A field of an event. -/
theorem sim_eventField (h : P.Beside c c') :
    P.Sim .within (P.SameChange Event.view) eventField eventField c c' := by
  refine (sim_fieldName h _ _).bind fun field field' _ _ hfield h => ?_
  subst hfield
  cases field with
  | type =>
    refine (sim_string h _).bind fun _ _ _ _ htype h => .pure h fun e e' he => ?_
    simp only [Same, Event.view, Event.mk.injEq] at he ⊢
    simp only [he, htype, and_self]
  | date =>
    refine (sim_date h).bind fun _ _ _ _ hday h => .pure h fun e e' he => ?_
    simp only [Same, Event.view, Event.mk.injEq] at he ⊢
    simp only [he, Option.map_some, hday, and_self]
  | status =>
    refine (sim_string h _).bind fun _ _ _ _ hstatus h => .pure h fun e e' he => ?_
    simp only [Same, Event.view, Event.mk.injEq] at he ⊢
    simp only [he, hstatus, and_self]
  | entities =>
    refine (sim_eventEntities h).bind fun _ _ _ _ hentities h => .pure h fun e e' he => ?_
    simp only [Same, Event.view, Event.mk.injEq] at he ⊢
    simp only [he, Same.map_eq hentities, and_self]
  | impact =>
    refine (sim_assignments h).bind fun _ _ _ _ himpact h => .pure h fun e e' he => ?_
    simp only [Same, Event.view, Event.mk.injEq] at he ⊢
    simp only [he, Same.map_eq himpact, and_self]
  | metadata =>
    refine (sim_assignments h).bind fun _ _ _ _ hmetadata h => .pure h fun e e' he => ?_
    simp only [Same, Event.view, Event.mk.injEq] at he ⊢
    simp only [he, Same.map_eq hmetadata, and_self]

/-- What an event holds. -/
theorem sim_eventItem (h : P.Beside c c') : P.Sim .within (P.SameChange Event.view) eventItem eventItem c c' := by
  refine sim_blockItem h (fun hcomment => ?_) ?_ (sim_eventField h)
  · refine (sim_comment h hcomment).bind fun _ _ _ _ hnode h => .pure h fun e e' he => ?_
    simp only [Same, Event.view, Event.mk.injEq, List.map_append] at he ⊢
    simp only [he, List.map_cons, List.map_nil, hnode, and_self]
  · refine (sim_tag h).bind fun _ _ _ _ hnode h => .pure h fun e e' he => ?_
    simp only [Same, Event.view, Event.mk.injEq, List.map_append] at he ⊢
    simp only [he, List.map_cons, List.map_nil, hnode, and_self]

/-- An event. -/
theorem sim_event (h : P.Beside c c') : P.Sim k (P.Same Event.view) event event c c' := by
  refine (sim_keyword h _).bind fun _ _ _ _ hstart h => ?_
  refine (sim_name h).bind fun _ _ _ _ hname h => ?_
  refine (sim_braced (R := P.SameChange Event.view) h fun _ _ _ h => ?_).bind fun _ _ _ _ hchanges h => ?_
  · exact (sim_eventItem h).single fun _ _ hchange => hchange
  · refine (sim_accept h rfl).bind fun _ _ _ _ _ h => .pure h (SameChange.applyAll hchanges ?_)
    simp only [Same, Event.view, Option.map_none, List.map_nil, hname, hstart.place]

/-! ## Catalogs -/

/-- A group of assignments, after its name. -/
theorem sim_nestedAssignment {label label' : String} {position position' : Position} (h : P.Beside c c')
    (hname : P.SameName label label') (hplace : P.view.place position = P.view'.place position') :
    P.Sim .within (P.Same NestedAssignment.view) (nestedAssignment label position) (nestedAssignment label' position')
      c c' := by
  refine (sim_braced h fun _ _ _ h => sim_keptField h).bind fun _ _ _ _ hfields h => .pure h ?_
  simp only [Same, NestedAssignment.view, hname, Same.map_eq hfields, hplace]

/-- A field of a source. -/
theorem sim_sourceField (h : P.Beside c c') :
    P.Sim .within (P.Same SourceField.view) sourceField sourceField c c' := by
  refine .look_within h fun _ halike => ?_
  refine (sim_name h).bind fun _ _ _ _ hname h => ?_
  refine (sim_sees h rfl).bind fun b b' _ _ hb h => ?_
  subst hb
  refine .ite (fun _ => ?_) (fun _ => ?_)
  · exact (sim_nestedAssignment h hname halike.place).map fun _ _ hnode => congrArg SourceField.nested hnode
  · refine (sim_expectAs h rfl _).bind fun _ _ _ _ _ h => ?_
    refine (sim_expression h).bind fun _ _ _ _ hvalue h => .pure h ?_
    simp only [Same, SourceField.view, Assignment.view, hname, hvalue, halike.place]

/-- A source. -/
theorem sim_source (h : P.Beside c c') : P.Sim .within (P.Same Source.view) source source c c' := by
  refine (sim_keyword h _).bind fun _ _ _ _ hstart h => ?_
  refine (sim_string h _).bind fun _ _ _ _ hname h => ?_
  refine (sim_braced (R := P.Same SourceField.view) h fun _ _ _ h => ?_).bind fun _ _ _ _ hfields h => .pure h ?_
  · refine sim_blockItem h (fun hcomment => ?_) ?_ ?_
    · exact (sim_comment h hcomment).single fun _ _ hnode => congrArg SourceField.comment hnode
    · exact (sim_tag h).single fun _ _ hnode => congrArg SourceField.tag hnode
    · exact (sim_sourceField h).single fun _ _ hnode => hnode
  · simp only [Same, Source.view, hname, Same.map_eq hfields, hstart.place]

/-- A catalog. -/
theorem sim_catalog (h : P.Beside c c') : P.Sim k (P.Same Catalog.view) catalog catalog c c' := by
  refine (sim_keyword h _).bind fun _ _ _ _ hstart h => ?_
  refine (sim_name h).bind fun _ _ _ _ hname h => ?_
  refine (sim_braced (R := P.Same Source.view) h fun _ _ _ h => ?_).bind fun _ _ _ _ hsources h => ?_
  · refine (sim_sees h rfl).bind fun b b' _ _ hb h => ?_
    subst hb
    exact .ite (fun _ => (sim_source h).separated) (fun _ => sim_unexpected h _)
  · refine (sim_accept h rfl).bind fun _ _ _ _ _ h => .pure h ?_
    simp only [Same, Catalog.view, hname, Same.map_eq hsources, hstart.place]

end MediaLanguage.Pairing
