import MediaLanguage.Parser.Link
import MediaLanguage.Proofs.Parser.Expr

/-!
# Links side by side

The body of a link is read as a list of changes. Changes are the same when they make nodes that look the same of nodes
that look the same (`Pairing.SameChange`), and so are lists of them (`SameChange.applyAll`).
-/

open MediaLanguage.Ast MediaLanguage.Parser

namespace MediaLanguage.Pairing

variable {P : Pairing} {k : Mode} {c c' : Cursor}

/-- Changes that look the same. -/
def SameChange (P : Pairing) {α : Type} (view : View → α → α) (f g : α → α) : Prop :=
  ∀ a b, P.Same view a b → P.Same view (f a) (g b)

/-- Changes made one after the other. -/
theorem SameChange.applyAll {α : Type} {view : View → α → α} {fs gs : List (α → α)} {a b : α}
    (h : List.Forall₂ (P.SameChange view) fs gs) (hab : P.Same view a b) :
    P.Same view (applyAll fs a) (applyAll gs b) := by
  induction h generalizing a b with
  | nil => exact hab
  | cons hchange _ ih => exact ih (hchange a b hab)

/-- The name of a link. -/
theorem sim_linkName (h : P.Beside c c') : P.Sim .within P.SameName linkName linkName c c' := by
  refine .look_within h fun hin halike => ?_
  rw [← halike.lexeme]
  split
  · exact (sim_advance h hin).bind fun _ _ _ _ _ h => .pure h (congrFun P.name_eq _)
  · exact sim_name h

/-! ## Diachronic links -/

/-- A field of a diachronic link. -/
theorem sim_diachronicField (h : P.Beside c c') :
    P.Sim .within (P.SameChange DiachronicLink.view) diachronicField diachronicField c c' := by
  refine (sim_fieldName h _ _).bind fun field field' _ _ hfield h => ?_
  subst hfield
  cases field with
  | predecessor =>
    refine (sim_number h _).bind fun _ _ _ _ hid h => .pure h fun l l' hl => ?_
    simp only [Same, DiachronicLink.view, DiachronicLink.mk.injEq] at hl ⊢
    simp only [hl, hid, and_self]
  | successor =>
    refine (sim_number h _).bind fun _ _ _ _ hid h => .pure h fun l l' hl => ?_
    simp only [Same, DiachronicLink.view, DiachronicLink.mk.injEq] at hl ⊢
    simp only [hl, hid, and_self]
  | relationshipType =>
    refine (sim_string h _).bind fun _ _ _ _ htype h => .pure h fun l l' hl => ?_
    simp only [Same, DiachronicLink.view, DiachronicLink.mk.injEq] at hl ⊢
    simp only [hl, htype, and_self]
  | eventDate =>
    refine (sim_dateRange h).bind fun _ _ _ _ hrange h => .pure h fun l l' hl => ?_
    simp only [Same, DiachronicLink.view, DiachronicLink.mk.injEq] at hl ⊢
    simp only [hl, Option.map_some, hrange, and_self]
  | triggeredBy =>
    refine (sim_name h).bind fun _ _ _ _ hevent h => .pure h fun l l' hl => ?_
    simp only [Same, DiachronicLink.view, DiachronicLink.mk.injEq] at hl ⊢
    simp only [hl, Option.map_some, hevent, and_self]

/-- What a diachronic link holds. -/
theorem sim_diachronicItem (h : P.Beside c c') :
    P.Sim .within (P.SameChange DiachronicLink.view) diachronicItem diachronicItem c c' := by
  refine sim_blockItem h (fun hcomment => ?_) ?_ (sim_diachronicField h)
  · refine (sim_comment h hcomment).bind fun _ _ _ _ hnode h => .pure h fun l l' hl => ?_
    simp only [Same, DiachronicLink.view, DiachronicLink.mk.injEq, List.map_append] at hl ⊢
    simp only [hl, List.map_cons, List.map_nil, hnode, and_self]
  · refine (sim_tag h).bind fun _ _ _ _ hnode h => .pure h fun l l' hl => ?_
    simp only [Same, DiachronicLink.view, DiachronicLink.mk.injEq, List.map_append] at hl ⊢
    simp only [hl, List.map_cons, List.map_nil, hnode, and_self]

/-- A diachronic link. -/
theorem sim_diachronicLink (h : P.Beside c c') :
    P.Sim k (P.Same DiachronicLink.view) diachronicLink diachronicLink c c' := by
  refine (sim_keyword h _).bind fun _ _ _ _ hstart h => ?_
  refine (sim_linkName h).bind_of_consumes (fun _ _ => (consumes_braced _ _).bind) fun _ _ _ _ hname h => ?_
  refine (sim_braced (R := P.SameChange DiachronicLink.view) h fun _ _ _ h => ?_).bind fun _ _ _ _ hchanges h => ?_
  · exact (sim_diachronicItem h).single fun _ _ hchange => hchange
  · refine (sim_accept h rfl).bind fun _ _ _ _ _ h => .pure h (SameChange.applyAll hchanges ?_)
    simp only [Same, DiachronicLink.view, Option.map_none, List.map_nil, hname, hstart.place]

/-! ## Synchronous links -/

/-- A field of one side of a synchronous link. -/
theorem sim_specField (h : P.Beside c c') :
    P.Sim .within (P.SameChange OutletSpec.view) specField specField c c' := by
  refine (sim_fieldName h _ _).bind fun field field' _ _ hfield h => ?_
  subst hfield
  cases field with
  | id =>
    refine (sim_number h _).bind fun _ _ _ _ hid h => .pure h fun s s' hs => ?_
    simp only [Same, OutletSpec.view, OutletSpec.mk.injEq] at hs ⊢
    simp only [hs, hid, and_self]
  | role =>
    refine (sim_string h _).bind fun _ _ _ _ hrole h => .pure h fun s s' hs => ?_
    simp only [Same, OutletSpec.view, OutletSpec.mk.injEq] at hs ⊢
    simp only [hs, hrole, and_self]

/-- One side of a synchronous link. -/
theorem sim_outletSpec (h : P.Beside c c') : P.Sim .within (P.Same OutletSpec.view) outletSpec outletSpec c c' := by
  refine .look_within h fun _ halike => ?_
  refine (sim_braced (R := P.SameChange OutletSpec.view) h fun _ _ _ h => ?_).bind fun _ _ _ _ hchanges h => ?_
  · exact sim_plainItem h (sim_specField h)
  · refine .pure h (SameChange.applyAll hchanges ?_)
    simp only [Same, OutletSpec.view, halike.place]

/-- A field of a synchronous link. -/
theorem sim_synchronousField (h : P.Beside c c') :
    P.Sim .within (P.SameChange SynchronousLink.view) synchronousField synchronousField c c' := by
  refine (sim_fieldName h _ _).bind fun field field' _ _ hfield h => ?_
  subst hfield
  cases field with
  | first =>
    refine (sim_outletSpec h).bind fun _ _ _ _ hside h => .pure h fun l l' hl => ?_
    simp only [Same, SynchronousLink.view, SynchronousLink.mk.injEq] at hl ⊢
    simp only [hl, Option.map_some, hside, and_self]
  | second =>
    refine (sim_outletSpec h).bind fun _ _ _ _ hside h => .pure h fun l l' hl => ?_
    simp only [Same, SynchronousLink.view, SynchronousLink.mk.injEq] at hl ⊢
    simp only [hl, Option.map_some, hside, and_self]
  | relationshipType =>
    refine (sim_string h _).bind fun _ _ _ _ htype h => .pure h fun l l' hl => ?_
    simp only [Same, SynchronousLink.view, SynchronousLink.mk.injEq] at hl ⊢
    simp only [hl, htype, and_self]
  | periodStart =>
    refine (sim_date h).bind fun _ _ _ _ hstart h => .pure h fun l l' hl => ?_
    simp only [Same, SynchronousLink.view, SynchronousLink.mk.injEq] at hl ⊢
    simp only [hl, Option.map_some, hstart, and_self]
  | periodEnd =>
    refine (sim_date h).bind fun _ _ _ _ hfinish h => .pure h fun l l' hl => ?_
    simp only [Same, SynchronousLink.view, SynchronousLink.mk.injEq] at hl ⊢
    simp only [hl, Option.map_some, hfinish, and_self]
  | period =>
    refine (sim_dateRange h).bind fun _ _ _ _ hrange h => .pure h fun l l' hl => ?_
    simp only [Same, DateRange.view, DateRange.mk.injEq] at hrange
    simp only [Same, SynchronousLink.view, SynchronousLink.mk.injEq] at hl ⊢
    simp only [hl, Option.map_some, hrange, and_self]
  | details =>
    refine (sim_string h _).bind fun _ _ _ _ hdetails h => .pure h fun l l' hl => ?_
    simp only [Same, SynchronousLink.view, SynchronousLink.mk.injEq] at hl ⊢
    simp only [hl, hdetails, and_self]
  | createdBy =>
    refine (sim_name h).bind fun _ _ _ _ hevent h => .pure h fun l l' hl => ?_
    simp only [Same, SynchronousLink.view, SynchronousLink.mk.injEq] at hl ⊢
    simp only [hl, Option.map_some, hevent, and_self]

/-- What a synchronous link holds. -/
theorem sim_synchronousItem (h : P.Beside c c') :
    P.Sim .within (P.SameChange SynchronousLink.view) synchronousItem synchronousItem c c' := by
  refine sim_blockItem h (fun hcomment => ?_) ?_ (sim_synchronousField h)
  · refine (sim_comment h hcomment).bind fun _ _ _ _ hnode h => .pure h fun l l' hl => ?_
    simp only [Same, SynchronousLink.view, SynchronousLink.mk.injEq, List.map_append] at hl ⊢
    simp only [hl, List.map_cons, List.map_nil, hnode, and_self]
  · refine (sim_tag h).bind fun _ _ _ _ hnode h => .pure h fun l l' hl => ?_
    simp only [Same, SynchronousLink.view, SynchronousLink.mk.injEq, List.map_append] at hl ⊢
    simp only [hl, List.map_cons, List.map_nil, hnode, and_self]

/-- A synchronous link. -/
theorem sim_synchronousLink (h : P.Beside c c') (hin : P.Inside c) :
    P.Sim k (P.Same SynchronousLink.view) synchronousLink synchronousLink c c' := by
  refine (sim_advance h hin).bind fun _ _ _ _ hstart h => ?_
  refine (sim_linkName h).bind_of_consumes (fun _ _ => (consumes_braced _ _).bind) fun _ _ _ _ hname h => ?_
  refine (sim_braced (R := P.SameChange SynchronousLink.view) h fun _ _ _ h => ?_).bind fun _ _ _ _ hchanges h => ?_
  · exact (sim_synchronousItem h).single fun _ _ hchange => hchange
  · refine (sim_accept h rfl).bind fun _ _ _ _ _ h => .pure h (SameChange.applyAll hchanges ?_)
    simp only [Same, SynchronousLink.view, Option.map_none, List.map_nil, hname, hstart.place]

end MediaLanguage.Pairing
