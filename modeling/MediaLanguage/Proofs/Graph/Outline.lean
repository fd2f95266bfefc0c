import MediaLanguage.Graph.Command
import MediaLanguage.Proofs.Text.Plain

/-!
# Outlines of graph commands

The outline of a command is the command with its literals and comments empty. A command whose names are names and whose
comments stand on one line reads like its outline (`Command.alike_outline`).
-/

namespace MediaLanguage.Graph

open Lexis

/-- The lexical rules of graph scripts: two slashes start a comment, and a backslash in a literal stands in front of
what it keeps. -/
def lexis : Lexis where
  mark := '/'
  pairs c _ := c == '\\'
  dash_or_slash := .inr rfl
  pairs_quote _ h := absurd h (by decide)

/-! ## Literals and values -/

/-- Quotes and backslashes behind a backslash do not end a literal, and no other character does. -/
theorem escapes : lexis.Escapes fun c => if c = '\'' ∨ c = '\\' then ['\\', c] else [c] := by
  intro c rest hne
  obtain ⟨d, ds, rfl⟩ := List.exists_cons_of_ne_nil hne
  by_cases hc : c = '\'' ∨ c = '\\'
  · simp [hc, Lexis.read, lexis]
  · have hquote : c ≠ '\'' := fun h => hc (.inl h)
    have hslash : c ≠ '\\' := fun h => hc (.inr h)
    simp [Lexis.read, lexis, hquote, hslash]

/-- Any two literals read alike. -/
theorem alike_quote (s t : String) : lexis.Alike Unquoted (quote s) (quote t) :=
  .literal escapes s.toList t.toList

/-- The value with its literal empty. -/
def Term.outline : Term → Term
  | .null => .null
  | .integer value => .integer value
  | .number value => .number value
  | .text _ => .text ""
  | .date _ => .date ""
  | .now => .now

@[simp] theorem Term.outline_integer (value : Int) : (integer value).outline = integer value := rfl
@[simp] theorem Term.outline_number (value : Number) : (number value).outline = number value := rfl
@[simp] theorem Term.outline_text (value : String) : (text value).outline = text "" := rfl

/-- A value reads like its outline. -/
theorem Term.alike_outline (t : Term) : lexis.Alike Unquoted t.render t.outline.render := by
  cases t with
  | null => exact .of_plain (by decide)
  | integer k => exact .of_plain (plain_integer k)
  | number x => exact .of_plain x.plain_text
  | text s => exact alike_quote s ""
  | date day =>
    have hopen : lexis.Alike Unquoted ("date(" ++ quote day) ("date(" ++ quote "") :=
      (Alike.of_plain (by decide)).append (alike_quote day "")
    exact (hopen.append_code (by decide) (by decide)).unquoted
  | now => exact .of_plain (by decide)

/-! ## Nodes and edges -/

/-- The properties with their literals empty. -/
def Properties.outline (ps : Properties) : Properties :=
  ps.map fun (name, value) => (name, value.outline)

/-- Properties have names. -/
def Properties.HasNames (ps : Properties) : Prop :=
  ∀ p ∈ ps, IsName p.1

/-- The node with its literals empty. -/
def Node.outline (n : Node) : Node :=
  { n with properties := Properties.outline n.properties }

/-- The names of a node are names. -/
structure Node.HasNames (n : Node) : Prop where
  binder : IsName n.binder
  label : IsName n.label
  properties : Properties.HasNames n.properties

/-- The edge with its literals empty. -/
def Edge.outline (e : Edge) : Edge :=
  { e with properties := Properties.outline e.properties }

/-- The names of an edge are names. -/
structure Edge.HasNames (e : Edge) : Prop where
  source : IsName e.source
  type : IsName e.type
  properties : Properties.HasNames e.properties
  target : IsName e.target

/-- Properties read like their outline. -/
theorem Properties.alike_outline {ps : Properties} (h : Properties.HasNames ps) :
    lexis.Alike Anything (Properties.render ps) (Properties.render (Properties.outline ps)) := by
  have hitems : lexis.Alike Unquoted
      (String.intercalate ", " (ps.map fun (name, value) => name ++ ": " ++ value.render))
      (String.intercalate ", " ((outline ps).map fun (name, value) => name ++ ": " ++ value.render)) := by
    rw [outline, List.map_map]
    refine .intercalate (by decide) (by decide) fun p hp => ?_
    exact (Alike.of_plain ((h p hp).plain.append (by decide))).append p.2.alike_outline
  exact ((Alike.of_plain (by decide)).append hitems).append_code (by decide) (by decide)

/-- A node reads like its outline. -/
theorem Node.alike_outline {n : Node} (h : n.HasNames) : lexis.Alike Anything n.render n.outline.render := by
  have hstart : lexis.Plain ("(" ++ n.binder ++ ":" ++ n.label ++ " ") :=
    ((((by decide : lexis.Plain "(").append h.binder.plain).append (by decide)).append h.label.plain).append (by decide)
  exact ((Alike.of_plain hstart).append (Properties.alike_outline h.properties)).append (.of_plain (by decide))

/-- An edge reads like its outline. -/
theorem Edge.alike_outline {e : Edge} (h : e.HasNames) : lexis.Alike Anything e.render e.outline.render := by
  have hstart : lexis.Plain ("(" ++ e.source ++ ")-[:" ++ e.type) :=
    (((by decide : lexis.Plain "(").append h.source.plain).append (by decide)).append h.type.plain
  have hend : lexis.Plain ("]->(" ++ e.target ++ ")") :=
    ((by decide : lexis.Plain "]->(").append h.target.plain).append (by decide)
  have hproperties : lexis.Alike Anything
      (if e.properties.isEmpty then "" else " " ++ Properties.render e.properties)
      (if e.outline.properties.isEmpty then "" else " " ++ Properties.render e.outline.properties) := by
    have hempty : e.outline.properties.isEmpty = e.properties.isEmpty := by simp [outline, Properties.outline]
    rw [hempty]
    split
    · exact .of_plain rfl
    · exact (Alike.of_plain (by decide)).append (Properties.alike_outline h.properties)
  exact ((Alike.of_plain hstart).append hproperties).append (.of_plain hend)

/-! ## Commands -/

namespace Command

/-- The command with its literals and comments empty. -/
def outline : Command → Command
  | .comment _ => .comment ""
  | .blank => .blank
  | .unique name binder label property => .unique name binder label property
  | .index name binder label property => .index name binder label property
  | .create node => .create node.outline
  | .connect first second edge => .connect first.outline second.outline edge.outline

@[simp] theorem outline_comment (text : String) : (comment text).outline = comment "" := rfl

/-- The names of a command are names, and its comments stand on one line. -/
def IsSound : Command → Prop
  | .comment text => OneLine text
  | .blank => True
  | .unique name binder label property | .index name binder label property =>
    IsName name ∧ IsName binder ∧ IsName label ∧ IsName property
  | .create node => node.HasNames
  | .connect first second edge => first.HasNames ∧ second.HasNames ∧ edge.HasNames

/-- A command reads like its outline. -/
theorem alike_outline {c : Command} (h : c.IsSound) : lexis.Alike Anything c.render c.outline.render := by
  cases c with
  | comment text => exact Alike.comment rfl h (by decide)
  | blank => exact .of_plain (by decide)
  | unique name binder label property =>
    obtain ⟨hname, hbinder, hlabel, hproperty⟩ := h
    have hstart : lexis.Plain ("CREATE CONSTRAINT " ++ name ++ " IF NOT EXISTS FOR (" ++ binder ++ ":" ++ label) :=
      (((((by decide : lexis.Plain "CREATE CONSTRAINT ").append hname.plain).append (by decide)).append
        hbinder.plain).append (by decide)).append hlabel.plain
    exact .of_plain (((((hstart.append (by decide)).append hbinder.plain).append (by decide)).append
      hproperty.plain).append (by decide))
  | index name binder label property =>
    obtain ⟨hname, hbinder, hlabel, hproperty⟩ := h
    have hstart : lexis.Plain ("CREATE INDEX " ++ name ++ " IF NOT EXISTS FOR (" ++ binder ++ ":" ++ label) :=
      (((((by decide : lexis.Plain "CREATE INDEX ").append hname.plain).append (by decide)).append
        hbinder.plain).append (by decide)).append hlabel.plain
    exact .of_plain (((((hstart.append (by decide)).append hbinder.plain).append (by decide)).append
      hproperty.plain).append (by decide))
  | create node =>
    exact ((Alike.of_plain (by decide)).append (Node.alike_outline h)).append (.of_plain (by decide))
  | connect first second edge =>
    obtain ⟨hfirst, hsecond, hedge⟩ := h
    have hnodes : lexis.Alike Anything ("MATCH " ++ first.render ++ ", " ++ second.render)
        ("MATCH " ++ first.outline.render ++ ", " ++ second.outline.render) :=
      (((Alike.of_plain (by decide)).append (Node.alike_outline hfirst)).append (.of_plain (by decide))).append
        (Node.alike_outline hsecond)
    exact ((hnodes.append (.of_plain (by decide))).append (Edge.alike_outline hedge)).append (.of_plain (by decide))

end Command

/-- A script whose commands are sound reads like its outline. -/
theorem Script.alike_outline {s : Script} (h : ∀ command ∈ s, command.IsSound) :
    lexis.Alike Anything s.render (Script.render (s.map Command.outline)) := by
  rw [render, render, List.map_map]
  exact .join fun command hcommand => command.alike_outline (h command hcommand)

end MediaLanguage.Graph
