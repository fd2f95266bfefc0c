import Mathlib
import MediaLanguage.Proofs.Parser.Labels
import MediaLanguage.Proofs.Parser.Whole
import MediaLanguage.Proofs.Token.Respelling

/-!
# Letter case does not reach the program

A text with letters of its words in another case has the same tokens at the same places, and its words are the same in
lower case. No production asks for more: the two texts write programs that look the same with all names in lower case,
or fail alike. This says too little about a label (`Label`), which may be a string: read at the token that tells,
labels that are literals are the same as they stand.

* `Program.folded`: a program with the names that are written by words in lower case, and all else as it is.
* `parse_ignores_case`: the texts have the same tokens, and programs that are the same when they are folded.
-/

namespace MediaLanguage

/-! ## Programs in lower case -/

namespace Ast

/-- The view that shows names and levels in lower case. -/
def View.lowercase : View :=
  ⟨id, Text.lower, Text.lower⟩

section Fold

variable (f : Label → String)

/-- A link in lower case; `f` gives its name. -/
def Link.fold : Link → Link
  | .diachronic l => .diachronic { l.view .lowercase with name := f (Link.diachronic l).label }
  | .synchronous l => .synchronous { l.view .lowercase with name := f (Link.synchronous l).label }

/-- A level with its name in lower case; `f` gives the level. -/
def AggregationField.fold (x : AggregationField) : AggregationField :=
  { x.view .lowercase with value := f x.label }

/-- A block of data in lower case, but for its labels. -/
def DataBlock.fold : DataBlock → DataBlock
  | .aggregation a => .aggregation { a with fields := a.fields.map (AggregationField.fold f) }
  | b => b.view .lowercase

/-- The data of an outlet in lower case, but for their labels. -/
def Data.fold (d : Data) : Data :=
  { d with blocks := d.blocks.map (DataBlock.fold f) }

/-- A member of a family in lower case, but for its labels. -/
def FamilyMember.fold : FamilyMember → FamilyMember
  | .data d => .data (d.fold f)
  | .link l => .link (l.fold f)
  | m => m.view .lowercase

/-- A statement in lower case, but for its labels. -/
def Statement.fold : Statement → Statement
  | .family x => .family { x with members := x.members.map (FamilyMember.fold f) }
  | .data d => .data (d.fold f)
  | .link l => .link (l.fold f)
  | s => s.view .lowercase

end Fold

end Ast

open Ast

/-- A label in lower case if it is a name, and as it is if it is a literal. -/
def TokenStream.foldedText (s : TokenStream) (l : Label) : String :=
  if (s.teller? l).any fun t => t.kind.startsName then Text.lower l.text else l.text

/-- A program of the tokens, with the names that are written by words in lower case. -/
def Ast.Program.folded (s : TokenStream) (p : Program) : Program :=
  ⟨p.statements.map (Statement.fold s.foldedText)⟩

/-! ## Trees that look the same -/

/-- Of labels that look the same, `f` and `g` make the same. -/
def FoldAlike (f g : Label → String) (ls ms : List Label) : Prop :=
  ∀ l ∈ ls, ∀ m ∈ ms, l.place = m.place → l.distance = m.distance → Text.lower l.text = Text.lower m.text → f l = g m

/-- Lists of parts that look the same are made the same, if the parts are. -/
theorem map_eq_of_view_eq {α β : Type} {view : α → β} {f g : α → α} {as bs : List α} (h : as.map view = bs.map view)
    (hparts : ∀ a ∈ as, ∀ b ∈ bs, view a = view b → f a = g b) : as.map f = bs.map g := by
  induction as generalizing bs with
  | nil =>
    rw [List.map_nil, eq_comm, List.map_eq_nil_iff] at h
    rw [h]
    rfl
  | cons a as ih =>
    cases bs with
    | nil => cases h
    | cons b bs =>
      obtain ⟨hhead, htail⟩ := List.cons.inj h
      rw [List.map_cons, List.map_cons, hparts a List.mem_cons_self b List.mem_cons_self hhead,
        ih htail fun a ha b hb => hparts a (List.mem_cons_of_mem _ ha) b (List.mem_cons_of_mem _ hb)]

namespace Ast

section Alike

variable {f g : Label → String}

theorem Link.fold_eq {x y : Link} (h : FoldAlike f g [x.label] [y.label])
    (hview : x.view .lowercase = y.view .lowercase) : x.fold f = y.fold g := by
  have hlabel := h _ (List.mem_singleton.2 rfl) _ (List.mem_singleton.2 rfl)
  cases x with
  | diachronic l =>
    cases y with
    | diachronic m =>
      have hlink := Link.diachronic.inj hview
      have hplace : (l.view .lowercase).position = (m.view .lowercase).position := by rw [hlink]
      have htext : (l.view .lowercase).name = (m.view .lowercase).name := by rw [hlink]
      have hname := hlabel hplace rfl htext
      rw [Link.fold, Link.fold, hlink, hname]
    | synchronous m => cases hview
  | synchronous l =>
    cases y with
    | diachronic m => cases hview
    | synchronous m =>
      have hlink := Link.synchronous.inj hview
      have hplace : (l.view .lowercase).position = (m.view .lowercase).position := by rw [hlink]
      have htext : (l.view .lowercase).name = (m.view .lowercase).name := by rw [hlink]
      have hname := hlabel hplace rfl htext
      rw [Link.fold, Link.fold, hlink, hname]

theorem AggregationField.fold_eq {x y : AggregationField} (h : FoldAlike f g [x.label] [y.label])
    (hview : x.view .lowercase = y.view .lowercase) : x.fold f = y.fold g := by
  have hplace : (x.view .lowercase).position = (y.view .lowercase).position := by rw [hview]
  have htext : (x.view .lowercase).value = (y.view .lowercase).value := by rw [hview]
  have hvalue := h _ (List.mem_singleton.2 rfl) _ (List.mem_singleton.2 rfl) hplace rfl htext
  rw [AggregationField.fold, AggregationField.fold, hview, hvalue]

theorem DataBlock.fold_eq {x y : DataBlock} (h : FoldAlike f g x.labels y.labels)
    (hview : x.view .lowercase = y.view .lowercase) : x.fold f = y.fold g := by
  cases x with
  | aggregation a =>
    cases y with
    | aggregation b =>
      have hblock := DataBlock.aggregation.inj hview
      have hfields : a.fields.map (AggregationField.fold f) = b.fields.map (AggregationField.fold g) := by
        refine map_eq_of_view_eq (congrArg Aggregation.fields hblock) fun x hx y hy => AggregationField.fold_eq ?_
        intro l hl m hm
        rw [List.mem_singleton.1 hl, List.mem_singleton.1 hm]
        exact h _ (List.mem_map_of_mem hx) _ (List.mem_map_of_mem hy)
      have hplace : (a.view .lowercase).position = (b.view .lowercase).position := by rw [hblock]
      exact congrArg DataBlock.aggregation (congr (congrArg Aggregation.mk hfields) hplace)
    | _ => cases hview
  | _ =>
    cases y with
    | aggregation b => cases hview
    | _ => exact hview

/-- Labels of parts are labels of the whole. -/
theorem foldAlike_of_flatMap {α : Type} {labels : α → List Label} {as bs : List α}
    (h : FoldAlike f g (as.flatMap labels) (bs.flatMap labels)) {a b : α} (ha : a ∈ as) (hb : b ∈ bs) :
    FoldAlike f g (labels a) (labels b) :=
  fun l hl m hm => h l (List.mem_flatMap.2 ⟨a, ha, hl⟩) m (List.mem_flatMap.2 ⟨b, hb, hm⟩)

theorem Data.fold_eq {x y : Data} (h : FoldAlike f g x.labels y.labels)
    (hview : x.view .lowercase = y.view .lowercase) : x.fold f = y.fold g := by
  obtain ⟨target, blocks, position⟩ := x
  obtain ⟨target', blocks', position'⟩ := y
  obtain ⟨rfl, hblocks, rfl⟩ := Data.mk.inj hview
  have hfold : blocks.map (DataBlock.fold f) = blocks'.map (DataBlock.fold g) :=
    map_eq_of_view_eq hblocks fun x hx y hy => DataBlock.fold_eq (foldAlike_of_flatMap h hx hy)
  exact congrArg (Data.mk target · position) hfold

theorem FamilyMember.fold_eq {x y : FamilyMember} (h : FoldAlike f g x.labels y.labels)
    (hview : x.view .lowercase = y.view .lowercase) : x.fold f = y.fold g := by
  cases x with
  | data d =>
    cases y with
    | data e => exact congrArg FamilyMember.data (Data.fold_eq h (FamilyMember.data.inj hview))
    | _ => cases hview
  | link l =>
    cases y with
    | link m => exact congrArg FamilyMember.link (Link.fold_eq h (FamilyMember.link.inj hview))
    | _ => cases hview
  | _ =>
    cases y with
    | data d => cases hview
    | link l => cases hview
    | _ => exact hview

/-- Statements that look the same in lower case are folded to the same statement, if their labels are. -/
theorem Statement.fold_eq {x y : Statement} (h : FoldAlike f g x.labels y.labels)
    (hview : x.view .lowercase = y.view .lowercase) : x.fold f = y.fold g := by
  cases x with
  | family x =>
    cases y with
    | family y =>
      obtain ⟨name, members, position⟩ := x
      obtain ⟨name', members', position'⟩ := y
      obtain ⟨rfl, hmembers, rfl⟩ := Family.mk.inj (Statement.family.inj hview)
      have hfold : members.map (FamilyMember.fold f) = members'.map (FamilyMember.fold g) :=
        map_eq_of_view_eq hmembers fun x hx y hy => FamilyMember.fold_eq (foldAlike_of_flatMap h hx hy)
      exact congrArg (fun ms => Statement.family ⟨name, ms, position⟩) hfold
    | _ => cases hview
  | data d =>
    cases y with
    | data e => exact congrArg Statement.data (Data.fold_eq h (Statement.data.inj hview))
    | _ => cases hview
  | link l =>
    cases y with
    | link m => exact congrArg Statement.link (Link.fold_eq h (Statement.link.inj hview))
    | _ => cases hview
  | _ =>
    cases y with
    | family y => cases hview
    | data d => cases hview
    | link l => cases hview
    | _ => exact hview

end Alike

end Ast

/-! ## Texts in another spelling -/

section Spelling

variable {s t : TokenStream} {words : List String}

/-- Tokens at one place with one meaning. -/
structure Token.Matches (t u : Token) : Prop where
  lexeme : t.lexeme = u.lexeme
  position : t.position = u.position

/-- The tokens of a text match those of another spelling. -/
theorem matches_withText {tokens : List Token} (h : List.Forall₂ Token.Respells tokens words) :
    List.Forall₂ Token.Matches tokens (List.zipWith Token.withText tokens words) := by
  induction h with
  | nil => exact .nil
  | cons _ _ ih => exact .cons ⟨rfl, rfl⟩ ih

/-- Levels that are written by expressions which look the same in lower case. -/
theorem lower_aggregationText_eq {e e' : Expr} (h : e.view .lowercase = e'.view .lowercase) :
    Text.lower (Parser.aggregationText e) = Text.lower (Parser.aggregationText e') := by
  cases e with
  | reference name place =>
    cases e' with
    | reference name' place' =>
      have hname : Text.lower name = Text.lower name' := (Expr.reference.inj h).1
      have hsign : ∀ x, Text.lower ("$" ++ x) = "$" ++ Text.lower x := by
        intro x
        rw [← String.toList_inj]
        simp [Text.lower]
      rw [Parser.aggregationText, Parser.aggregationText, hsign, hsign, hname]
    | _ => cases h
  | object members place =>
    cases e' with
    | object members' place' => rfl
    | _ => cases h
  | _ =>
    cases e' <;> cases h
    rfl

/-- Two spellings of one text, with names and levels in lower case. -/
def spelledPairing (finish : Position) : Pairing where
  view := .lowercase
  view' := .lowercase
  cause := GrammarCause.unspelled
  after := ⟨[], finish⟩
  after' := ⟨[], finish⟩
  name_eq := rfl
  level_eq _ _ := lower_aggregationText_eq
  heads := .inl rfl

/-- A token is alike the token in another spelling. -/
theorem alike_withText (finish : Position) {tokens : List Token} (h : List.Forall₂ Token.Respells tokens words) :
    List.Forall₂ (spelledPairing finish).Alike tokens (List.zipWith Token.withText tokens words) := by
  induction h with
  | nil => exact .nil
  | @cons t word _ _ hword _ ih =>
    refine .cons ⟨rfl, rfl, fun hkind => ?_, fun _ => rfl, fun _ => rfl⟩ ih
    have hisWord : t.kind.isWord = true := by
      revert hkind
      cases t.kind <;> simp [Kind.isWord, Kind.isKeyword]
    rw [Token.Respells, if_pos hisWord] at hword
    exact ⟨hword, hword⟩

/-- The same labels are told apart from names in texts whose tokens match. -/
theorem teller?_matches (h : List.Forall₂ Token.Matches s.withEnd t.withEnd) {l m : Label} (hplace : l.place = m.place)
    (hdistance : l.distance = m.distance) {x y : Token} (hx : s.teller? l = some x) (hy : t.teller? m = some y) :
    x.lexeme = y.lexeme := by
  have hindex : s.indexAt l.place = t.indexAt m.place := by
    have hpositions : s.withEnd.map Token.position = t.withEnd.map Token.position := by
      rw [← List.forall₂_eq_eq_eq, List.forall₂_map_left_iff, List.forall₂_map_right_iff]
      exact h.imp fun _ _ h => h.position
    have hfind := congrArg (List.findIdx (· == m.place)) hpositions
    rw [List.findIdx_map, List.findIdx_map] at hfind
    rw [hplace]
    exact hfind
  unfold TokenStream.teller? at hx hy
  rw [hindex, hdistance] at hx
  obtain ⟨hi, rfl⟩ := List.getElem?_eq_some_iff.1 hx
  obtain ⟨hj, rfl⟩ := List.getElem?_eq_some_iff.1 hy
  exact (h.get hi hj).lexeme

/-- Labels that look the same in lower case are folded alike, in texts whose tokens match. -/
theorem foldAlike_foldedText (h : List.Forall₂ Token.Matches s.withEnd t.withEnd) {ls ms : List Label}
    (hls : ∀ l ∈ ls, l.WrittenIn s) (hms : ∀ m ∈ ms, m.WrittenIn t) :
    FoldAlike s.foldedText t.foldedText ls ms := by
  intro l hl m hm hplace hdistance hlower
  obtain ⟨x, hx, htext⟩ := hls l hl
  obtain ⟨y, hy, htext'⟩ := hms m hm
  have hlexeme := teller?_matches h hplace hdistance hx hy
  have hkind : x.kind = y.kind := congrArg Lexeme.kind hlexeme
  rw [TokenStream.foldedText, TokenStream.foldedText, hx, hy, Option.any_some, Option.any_some, ← hkind]
  cases hname : x.kind.startsName with
  | true => exact hlower
  | false =>
    have hliteral := htext.resolve_left (by simp [hname])
    have hliteral' := htext'.resolve_left (by simp [← hkind, hname])
    simp [hliteral, hliteral', hlexeme]

/-- The labels of a program are written in its text. -/
theorem labels_of_parse {source : String} {p : Program} (hs : tokenize source = .ok s) (hp : parse source = .ok p) :
    ∀ d ∈ p.statements, ∀ l ∈ d.labels, l.WrittenIn s := by
  obtain ⟨s', hs', -, -, hstatements⟩ := parse_eq_ok_iff.1 hp
  obtain rfl : s = s' := Except.ok.inj (hs.symm.trans hs')
  rw [← hstatements]
  exact Parse.labels_fromCursor (tokenize_ascends hs) (.refl _)

/-- What reading two spellings of a text gives: programs that are folded to the same program, errors of one kind at one
place, or the same number that has no integer part. -/
inductive SameReading (s t : TokenStream) : Except Error Program → Except Error Program → Prop
  | program {p q : Program} (h : p.folded s = q.folded t) : SameReading s t (.ok p) (.ok q)
  | grammar {e e' : GrammarError} (hname : e.cause.name = e'.cause.name) (hplace : e.position = e'.position) :
      SameReading s t (.error (.grammar e)) (.error (.grammar e'))
  | conversion (e : ConversionError) : SameReading s t (.error (.conversion e)) (.error (.conversion e))

/-- A text with letters of its words in another case has tokens of the same meaning at the same places, and writes the
same program but for the case of the names that are written by words, or fails alike. -/
theorem parse_ignores_case {a b : String} (ha : tokenize a = .ok s) (h : s.Respelled a b) :
    ∃ t, tokenize b = .ok t ∧ List.Forall₂ Token.Matches s.withEnd t.withEnd ∧
      SameReading s t (parse a) (parse b) := by
  obtain ⟨words, hwords, hb⟩ := tokenize_respelled ha h
  have hmatches : List.Forall₂ Token.Matches s.withEnd
      (TokenStream.mk (List.zipWith Token.withText s.tokens words) s.finish).withEnd :=
    List.rel_append (matches_withText hwords) (.cons ⟨rfl, rfl⟩ .nil)
  refine ⟨_, hb, hmatches, ?_⟩
  have hresult : (spelledPairing s.finish).SameResult (parse a) (parse b) := by
    rw [parse, parse, ha, hb]
    exact Pairing.result_whole rfl rfl rfl (alike_withText s.finish hwords)
  generalize hx : parse a = x, hy : parse b = y at hresult
  cases hresult with
  | grammar herror => exact .grammar (GrammarCause.name_eq_of_unspelled herror.cause) herror.place
  | conversion e => exact .conversion e
  | @program p q hstatements =>
    refine .program (congrArg Program.mk (map_eq_of_view_eq hstatements fun d hd e he => Statement.fold_eq ?_))
    exact foldAlike_foldedText hmatches (labels_of_parse ha hx d hd) (labels_of_parse hb hy e he)

end Spelling

/-- Two links, of which the first is named by a word and the second by a string. -/
def linksSource : String :=
  "diachronic_link ab \x7b\x7d synchronous_link \"Ab\" \x7b\x7d"

/-- The links in another spelling; the string is the same. -/
def linksRespelled : String :=
  "Diachronic_LINK aB \x7b\x7d SYNCHRONOUS_link \"Ab\" \x7b\x7d"

/-- Both spellings write the links, with the name of the second as it is. -/
theorem parse_ignores_case_links :
    ∃ s, tokenize linksSource = .ok s ∧ s.Respelled linksSource linksRespelled ∧
      ∃ t, tokenize linksRespelled = .ok t ∧ List.Forall₂ Token.Matches s.withEnd t.withEnd ∧
        SameReading s t (parse linksSource) (parse linksRespelled) := by
  obtain ⟨s, ha, h⟩ : ∃ s, tokenize linksSource = .ok s ∧ s.Respelled linksSource linksRespelled := by
    refine ⟨
      ⟨[⟨.keyword .diachronicLink, "diachronic_link", ⟨1, 1, 0⟩⟩, ⟨.identifier, "ab", ⟨1, 17, 16⟩⟩,
        ⟨.mark .openBrace, "\x7b", ⟨1, 20, 19⟩⟩, ⟨.mark .closeBrace, "\x7d", ⟨1, 21, 20⟩⟩,
        ⟨.keyword .synchronousLink, "synchronous_link", ⟨1, 23, 22⟩⟩, ⟨.string "Ab", "\"Ab\"", ⟨1, 40, 39⟩⟩,
        ⟨.mark .openBrace, "\x7b", ⟨1, 45, 44⟩⟩, ⟨.mark .closeBrace, "\x7d", ⟨1, 46, 45⟩⟩], ⟨1, 47, 46⟩⟩,
      by cbv, ["", " ", " ", "", " ", " ", " ", "", ""],
      ["Diachronic_LINK", "aB", "\x7b", "\x7d", "SYNCHRONOUS_link", "\"Ab\"", "\x7b", "\x7d"], rfl,
      by simp [isGap], by cbv, ?_, by cbv⟩
    have hlink : Text.lower "diachronic_link" = Text.lower "Diachronic_LINK" := by cbv
    have hname : Text.lower "ab" = Text.lower "aB" := by cbv
    have hlink' : Text.lower "synchronous_link" = Text.lower "SYNCHRONOUS_link" := by cbv
    exact .cons hlink (.cons hname (.cons rfl (.cons rfl (.cons hlink' (.cons rfl (.cons rfl (.cons rfl .nil)))))))
  exact ⟨s, ha, h, parse_ignores_case ha h⟩

end MediaLanguage
