import MediaLanguage.Command.Inspect
import MediaLanguage.Model.Lowering

/-!
# Sample programs

Programs that show the language, and the command `test`, which takes each of them through every stage: a sample has to
have a model, and no errors.
-/

namespace MediaLanguage

/-- A program with a name. -/
structure Sample where
  name : String
  lines : List String

/-- The text of a sample. -/
def Sample.source (s : Sample) : String :=
  String.join (s.lines.map (· ++ "\n"))

namespace Sample

/-- A unit with a column of each type. -/
def unitSample : Sample where
  name := "unit"
  lines := [
    "// Structural schema for the outlet table",
    "UNIT MediaOutlet \x7b",
    "    id: ID PRIMARY KEY,",
    "    name: TEXT(120),",
    "    sector: NUMBER,",
    "    kind: CATEGORY(\"Daily\", \"Weekly\"),",
    "    is_digital: BOOLEAN,",
    "\x7d"]

/-- A vocabulary with a body, and a bare one. -/
def vocabularySample : Sample where
  name := "vocabulary"
  lines := [
    "VOCABULARY MediaTypes \x7b",
    "    TYPES \x7b",
    "        1: \"Print\",",
    "        \"online\": \"Online\",",
    "    \x7d",
    "\x7d",
    "",
    "SECTOR \x7b",
    "    1: \"Daily newspaper\",",
    "    2: \"Weekly magazine\",",
    "\x7d"]

/-- A family with outlets, data and links. -/
def familySample : Sample where
  name := "family"
  lines := [
    "IMPORT \"shared/units.mdsl\";",
    "LET default_language = \"de\";",
    "",
    "TEMPLATE OUTLET \"AustrianNewspaper\" \x7b",
    "    characteristics \x7b",
    "        language = $default_language;",
    "        sector = \"Daily newspaper\";",
    "    \x7d;",
    "\x7d;",
    "",
    "FAMILY \"Kronen Zeitung Family\" \x7b",
    "    @comment \"Austria's largest daily\";",
    "",
    "    OUTLET \"Kronen Zeitung\" EXTENDS TEMPLATE \"AustrianNewspaper\" \x7b",
    "        identity \x7b",
    "            id = 200001;",
    "            title = \"Kronen Zeitung\";",
    "        \x7d;",
    "        lifecycle \x7b",
    "            status \"active\" FROM \"1959-01-01\" TO CURRENT \x7b",
    "                precision_start = \"known\";",
    "            \x7d;",
    "        \x7d;",
    "        characteristics \x7b",
    "            distribution = \"national\";",
    "        \x7d;",
    "        metadata \x7b",
    "            verified = true;",
    "        \x7d;",
    "    \x7d;",
    "",
    "    OUTLET \"Krone Bunt\" BASED_ON 200001 \x7b",
    "        identity \x7b",
    "            id = 200002;",
    "            title = \"Krone Bunt\";",
    "        \x7d;",
    "        characteristics \x7b",
    "            distribution = \"national\";",
    "        \x7d;",
    "    \x7d;",
    "",
    "    DATA FOR 200001 \x7b",
    "        @maps_to \"MarketData\";",
    "        YEAR 2023 \x7b",
    "            METRICS \x7b",
    "                circulation = \x7b value = 500000; unit = \"copies\"; source = \"official\"; \x7d;",
    "                reach_national = \x7b value = 15.5; unit = \"percent\"; source = \"survey\"; \x7d;",
    "            \x7d;",
    "        \x7d;",
    "    \x7d;",
    "",
    "    DIACHRONIC_LINK offshoot_1972 \x7b",
    "        predecessor = 200001;",
    "        successor = 200002;",
    "        event_date = \"1972-01-01\" TO \"1972-12-31\";",
    "        relationship_type = \"offshoot\";",
    "        @maps_to \"18_offshoot\";",
    "    \x7d;",
    "",
    "    SYNCHRONOUS_LINK supplement \x7b",
    "        outlet_1 = \x7b id = 200001; role = \"main\"; \x7d;",
    "        outlet_2 = \x7b id = 200002; role = \"supplement\"; \x7d;",
    "        relationship_type = \"main_media_outlet\";",
    "        period_start = \"1972-01-01\";",
    "        period_end = CURRENT;",
    "    \x7d;",
    "\x7d;"]

/-- An event between outlets. -/
def eventSample : Sample where
  name := "event"
  lines := [
    "FAMILY \"Kurier\" \x7b",
    "    OUTLET \"Kurier\" \x7b",
    "        identity \x7b id = 300001; title = \"Kurier\"; \x7d;",
    "        characteristics \x7b language = \"de\"; \x7d;",
    "    \x7d;",
    "\x7d;",
    "",
    "EVENT mediaprint_founding \x7b",
    "    type = \"joint_venture\";",
    "    date = \"1988-01-01\";",
    "    status = \"completed\";",
    "    entities = \x7b",
    "        kurier = \x7b id = 300001; role = \"partner\"; stake_before = 100; stake_after = 50; \x7d;",
    "    \x7d;",
    "    impact = \x7b shared_printing = true; \x7d;",
    "\x7d;"]

/-- Every sample. -/
def all : List Sample := [unitSample, vocabularySample, familySample, eventSample]

end Sample

namespace Shell

/-- Tells of the issues of a verdict that fails. -/
def reportFailure (s : Sample) (v : Verdict) : Shell Unit := do
  failure s!"{s.name}: {v.summary.errors} validation error(s)"
  (v.ofSeverity .error).forM fun i => print ("    " ++ i.text ++ "\n")

/-- Takes a sample through every stage, and tells whether it passes. -/
def check (s : Sample) : Shell Bool := do
  match MediaLanguage.parse s.source with
  | .error e =>
    failure (s.name ++ ": " ++ e.message)
    return false
  | .ok p =>
    let _ ← orStop p.lower.toOption
    let v ← orStop p.validate.toOption
    if v.passed then
      let count := p.statements.length
      success s!"{s.name}: {count} statement(s), 0 errors"
    else reportFailure s v
    return v.passed

/-- Takes every sample through every stage. -/
def test : Shell Unit := do
  let results ← Sample.all.mapM check
  let failures := (results.filter (!·)).length
  let count := Sample.all.length
  if failures != 0 then fail s!"{failures} of {count} sample(s) failed"
  success s!"All {count} samples passed"

end Shell

end MediaLanguage
