import MediaLanguage.Graph.Literal

/-!
# Commands of graph scripts

A script is a list of commands: nodes to create, edges between the nodes that match two patterns, constraints and
indexes, comments and blank lines. Each is written on a line of its own.
-/

namespace MediaLanguage.Graph

/-- Named values. -/
abbrev Properties := List (String × Term)

/-- A node: its label and properties, under a name by which the command refers to it. -/
structure Node where
  binder : String
  label : String
  properties : Properties

/-- An edge between two nodes of a command, named by their binders. -/
structure Edge where
  source : String
  type : String
  properties : Properties := []
  target : String

/-- A command, comment or blank line. -/
inductive Command where
  | comment (text : String)
  | blank
  /-- No two nodes with a label have the same value of a property. -/
  | unique (name binder label property : String)
  /-- An index of the nodes with a label by a property. -/
  | index (name binder label property : String)
  | create (node : Node)
  /-- An edge for every pair of nodes that match the two patterns. -/
  | connect (first second : Node) (edge : Edge)

/-- A script. -/
abbrev Script := List Command

/-- Properties in braces. -/
def Properties.render (ps : Properties) : String :=
  "\x7b" ++ String.intercalate ", " (ps.map fun (name, value) => name ++ ": " ++ value.render) ++ "\x7d"

/-- A node in parentheses. -/
def Node.render (n : Node) : String :=
  s!"({n.binder}:{n.label} " ++ Properties.render n.properties ++ ")"

/-- An edge with its two nodes. -/
def Edge.render (e : Edge) : String :=
  let properties := if e.properties.isEmpty then "" else " " ++ Properties.render e.properties
  s!"({e.source})-[:{e.type}" ++ properties ++ s!"]->({e.target})"

/-- A command on a line of its own. -/
def Command.render : Command → String
  | .comment text => s!"// {text}\n"
  | .blank => "\n"
  | .unique name binder label property =>
    s!"CREATE CONSTRAINT {name} IF NOT EXISTS FOR ({binder}:{label}) REQUIRE {binder}.{property} IS UNIQUE;\n"
  | .index name binder label property =>
    s!"CREATE INDEX {name} IF NOT EXISTS FOR ({binder}:{label}) ON ({binder}.{property});\n"
  | .create node => "CREATE " ++ node.render ++ ";\n"
  | .connect first second edge =>
    "MATCH " ++ first.render ++ ", " ++ second.render ++ " CREATE " ++ edge.render ++ ";\n"

/-- The text of a script. -/
def Script.render (s : Script) : String :=
  String.join (s.map Command.render)

end MediaLanguage.Graph
