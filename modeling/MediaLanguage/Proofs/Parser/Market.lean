import MediaLanguage.Proofs.Parser.Block

/-!
# Market data side by side

A level is kept as a text: that the texts look the same is a law of the pairing (`Pairing.level_eq`). The comment
field of a year is found by its word in lower case (`Alike.word_test`).
-/

open MediaLanguage.Ast MediaLanguage.Parser

namespace MediaLanguage.Pairing

variable {P : Pairing} {k : Mode} {c c' : Cursor}

/-! ## Levels -/

/-- A level. -/
theorem sim_aggregationField (h : P.Beside c c') :
    P.Sim .within (P.Same AggregationField.view) aggregationField aggregationField c c' := by
  refine (sim_assignment h).bind fun a a' _ _ ha h => .pure h ?_
  simp only [Same, Assignment.view, Assignment.mk.injEq] at ha
  simp only [Same, AggregationField.view, P.level_eq _ _ ha.2.1, ha]

/-- A block of levels. -/
theorem sim_aggregation (h : P.Beside c c') :
    P.Sim .within (P.Same Aggregation.view) aggregation aggregation c c' := by
  refine (sim_keyword h _).bind fun _ _ _ _ hstart h => ?_
  refine (sim_accept h rfl).bind fun _ _ _ _ _ h => ?_
  refine (sim_braced (R := P.Same AggregationField.view) h fun _ _ _ h => ?_).bind fun _ _ _ _ hfields h => .pure h ?_
  · exact sim_plainItem h (sim_aggregationField h)
  · simp only [Same, Aggregation.view, Same.map_eq hfields, hstart.place]

/-! ## Figures -/

/-- A figure. -/
theorem sim_metric (h : P.Beside c c') : P.Sim .within (P.Same Metric.view) metric metric c c' := by
  refine .look_within h fun _ halike => ?_
  refine (sim_name h).bind fun _ _ _ _ hname h => ?_
  refine (sim_mark h _).bind fun _ _ _ _ _ h => ?_
  refine (sim_braced (R := P.Same Assignment.view) h fun _ _ _ h => ?_).bind fun _ _ _ _ hattributes h => .pure h ?_
  · exact sim_plainItem h (sim_assignment h)
  · simp only [Same, Metric.view, hname, Same.map_eq hattributes, halike.place]

/-- A block of figures. -/
theorem sim_metrics (h : P.Beside c c') : P.Sim .within (P.Same Metrics.view) metrics metrics c c' := by
  refine (sim_keyword h _).bind fun _ _ _ _ hstart h => ?_
  refine (sim_braced (R := P.Same Metric.view) h fun _ _ _ h => ?_).bind fun _ _ _ _ hfields h => .pure h ?_
  · exact sim_plainItem h (sim_metric h)
  · simp only [Same, Metrics.view, Same.map_eq hfields, hstart.place]

/-! ## Years and data -/

/-- The word for the comment of a year is recognized alike. -/
theorem Alike.word_test {t t' : Token} (h : P.Alike t t') (word : String) :
    (t.kind == .identifier && Text.lower t.text == word) = (t'.kind == .identifier && Text.lower t'.text == word) := by
  rw [← h.kind]
  by_cases hkind : t.kind = .identifier
  · rw [(h.word (.inl hkind)).2]
  · rw [beq_eq_false_iff_ne.2 hkind, Bool.false_and, Bool.false_and]

/-- What a year holds, other than comments. -/
theorem sim_yearField (h : P.Beside c c') : P.Sim .within (P.Same YearBlock.view) yearField yearField c c' := by
  refine .look_within h fun hin halike => ?_
  rw [halike.word_test "comment", ← halike.kind]
  refine .ite (fun _ => ?_) (fun _ => .ite (fun _ => ?_) (fun _ => sim_unexpected h _))
  · exact (sim_metrics h).map fun _ _ hnode => congrArg YearBlock.metrics hnode
  · refine (sim_advance h hin).bind fun _ _ _ _ _ h => ?_
    refine (sim_mark h _).bind fun _ _ _ _ _ h => ?_
    refine (sim_string h _).bind fun _ _ _ _ hvalue h => .pure h ?_
    simp only [Same, YearBlock.view, YearComment.view, hvalue, halike.place]

/-- A year. -/
theorem sim_year (h : P.Beside c c') : P.Sim .within (P.Same Year.view) year year c c' := by
  refine (sim_keyword h _).bind fun _ _ _ _ hstart h => ?_
  refine (sim_number h _).bind fun _ _ _ _ hfigure h => ?_
  refine (sim_braced (R := P.Same YearBlock.view) h fun _ _ _ h => ?_).bind fun _ _ _ _ hblocks h => .pure h ?_
  · refine sim_commentedItem h (fun _ _ hnode => congrArg YearBlock.comment hnode) ?_
    exact (sim_yearField h).single fun _ _ hnode => hnode
  · simp only [Same, Year.view, hfigure, Same.map_eq hblocks, hstart.place]

/-- What the data of an outlet hold, other than comments and annotations. -/
theorem sim_dataField (h : P.Beside c c') : P.Sim .within (P.Same DataBlock.view) dataField dataField c c' := by
  refine .look_within h fun _ halike => ?_
  rw [← halike.kind]
  split
  · exact (sim_aggregation h).map fun _ _ hnode => congrArg DataBlock.aggregation hnode
  · exact (sim_year h).map fun _ _ hnode => congrArg DataBlock.year hnode
  · exact sim_unexpected h _

/-- The data of an outlet. -/
theorem sim_data (h : P.Beside c c') : P.Sim k (P.Same Data.view) data data c c' := by
  refine (sim_keyword h _).bind fun _ _ _ _ hstart h => ?_
  refine (sim_keyword h _).bind fun _ _ _ _ _ h => ?_
  refine (sim_number h _).bind fun _ _ _ _ htarget h => ?_
  refine (sim_braced (R := P.Same DataBlock.view) h fun _ _ _ h => ?_).bind fun _ _ _ _ hblocks h => .pure h ?_
  · refine sim_blockItem h (fun hcomment => ?_) ?_ ?_
    · exact (sim_comment h hcomment).single fun _ _ hnode => congrArg DataBlock.comment hnode
    · exact (sim_tag h).single fun _ _ hnode => congrArg DataBlock.tag hnode
    · exact (sim_dataField h).single fun _ _ hnode => hnode
  · simp only [Same, Data.view, htarget, Same.map_eq hblocks, hstart.place]

end MediaLanguage.Pairing
