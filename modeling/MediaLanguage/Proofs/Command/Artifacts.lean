import Mathlib.Data.List.Induction
import Mathlib.Data.List.ProdSigma
import MediaLanguage.Proofs.Command.Session
import MediaLanguage.Proofs.Generation
import MediaLanguage.Proofs.Path

/-!
# The artifacts of a project

A build goes through the sources of a project and writes one artifact for each target, named for the source without its
ending and for the target. Two sources may lead to one name, in one directory or with endings that meet; the later
artifact then takes the place of the earlier one, and the build goes through all the same.

* `does_build`: a build that goes through has made every artifact of `Project.makeAll?`, and put it to its place.
* `lookup_stored_iff`: behind such a build every artifact is there exactly if those that share a place have one text.
* `build_artifacts`: the same for the command, with the sources as they were and the names that share a place.
* `not_build_artifacts`: two sources of one name in different directories.
-/

namespace MediaLanguage

/-! ## What a build makes -/

/-- What a build writes for a source and a target. -/
structure Artifact where
  source : Path
  target : Target
  text : String

namespace Artifact

/-- The name of an artifact. -/
def name (a : Artifact) : String :=
  a.source.stem ++ a.target.extension

/-- The file of an artifact of a project. -/
def file (p : Project) (a : Artifact) : Path :=
  p.artifact a.source a.target

end Artifact

/-- The project with a manifest. -/
def Workspace.project (w : Workspace) (manifest : Path) : Except ManifestError Project :=
  Project.load (w.locate manifest) (w.text? (w.locate manifest))

/-- The text of a target for a source. -/
def Workspace.generated? (w : Workspace) (source : Path) (t : Target) : Option String :=
  (w.model? source).bind fun m => (t.text m).toOption

namespace Project

/-- The files after an artifact is written. -/
def store (p : Project) (w : Workspace) (a : Artifact) : Workspace :=
  w.put (a.file p) a.text

/-- The artifacts of a source. -/
def make? (p : Project) (w : Workspace) (source : Path) : Option (List Artifact) :=
  p.manifest.targets.mapM fun t => (w.generated? source t).map (Artifact.mk source t)

/-- The artifacts of some sources, each made of its source as the artifacts in front leave it. -/
def makeAll? (p : Project) : Workspace → List Path → Option (List Artifact)
  | _, [] => some []
  | w, source :: rest =>
    (p.make? w source).bind fun made => (p.makeAll? (made.foldl p.store w) rest).map fun others => made ++ others

end Project

/-! ## The steps of a build -/

namespace Shell

section Steps

variable {p : Project} {s : Session} {source : Path} {model : Model.Program} {t : Target}

theorem does_buildTarget :
    (buildTarget p source model t).Does s fun _ s' =>
      ∃ text, t.text model = .ok text ∧ s'.workspace = p.store s.workspace ⟨source, t, text⟩ := by
  refine does_orStop.bind ?_
  rintro g _ ⟨hg, rfl⟩
  rw [Target.generate_eq] at hg
  cases htext : t.text model with
  | error e =>
    rw [htext] at hg
    cases hg
  | ok text =>
    rw [htext] at hg
    cases hg
    refine (does_writeFile text).bind ?_
    rintro _ written hwritten
    refine (does_write _).mono ?_
    rintro _ s' hs'
    exact ⟨text, rfl, hs'.trans hwritten⟩

/-- Artifacts that are made and written. -/
def Stored (p : Project) (s : Session) (made? : Option (List Artifact)) (s' : Session) : Prop :=
  ∃ made, made? = some made ∧ s'.workspace = made.foldl p.store s.workspace

theorem does_buildTargets (targets : List Target) (hmodel : s.workspace.model? source = some model) :
    (targets.forM (buildTarget p source model)).Does s fun _ s' =>
      Stored p s (targets.mapM fun t => (s.workspace.generated? source t).map (Artifact.mk source t)) s' := by
  have hgenerated : ∀ t, s.workspace.generated? source t = (t.text model).toOption := by
    intro t
    rw [Workspace.generated?, hmodel, Option.bind_some]
  simp only [hgenerated]
  refine Does.forM (fun targets s s' =>
    Stored p s (targets.mapM fun t => (t.text model).toOption.map (Artifact.mk source t)) s') ?_ ?_ targets
  · intro s
    exact ⟨[], rfl, rfl⟩
  · intro t rest s
    refine does_buildTarget.mono ?_
    rintro _ middle ⟨text, htext, hmiddle⟩ s' ⟨made, hmade, hs'⟩
    refine ⟨⟨source, t, text⟩ :: made, ?_, ?_⟩
    · rw [List.mapM_cons, htext, hmade]
      rfl
    · rw [hs', hmiddle]
      rfl

theorem does_buildSource (number : Nat) :
    (buildSource p number source).Does s fun _ s' => Stored p s (p.make? s.workspace source) s' := by
  refine (does_write _).bind ?_
  rintro _ told htold
  refine does_prepare.bind ?_
  rintro ⟨model, verdict⟩ _ ⟨hmodel, rfl⟩
  have htargets := does_buildTargets (p := p) p.manifest.targets hmodel
  dsimp only
  split
  · exact (does_write _).bind fun _ _ _ => does_fail_bind _
  · split
    · exact (does_write _).bind fun _ _ _ => does_fail_bind _
    · refine htargets.mono ?_
      rintro _ s' hs'
      unfold Stored at hs' ⊢
      rw [htold] at hs'
      exact hs'

/-- The sources of a project are built one by one, each from the files that the ones in front have left. -/
theorem does_buildSources (sources : List (Path × Nat)) :
    (sources.forM fun (source, number) => buildSource p number source).Does s fun _ s' =>
      Stored p s (p.makeAll? s.workspace (sources.map Prod.fst)) s' := by
  refine Does.forM (fun sources s s' =>
    Stored p s (p.makeAll? s.workspace (sources.map Prod.fst)) s') ?_ ?_ sources
  · intro s
    exact ⟨[], rfl, rfl⟩
  · rintro ⟨source, number⟩ rest s
    refine (does_buildSource number).mono ?_
    rintro _ middle ⟨made, hmade, hmiddle⟩ s' ⟨others, hothers, hs'⟩
    refine ⟨made ++ others, ?_, ?_⟩
    · rw [List.map_cons, Project.makeAll?, hmade, Option.bind_some, ← hmiddle, hothers, Option.map_some]
    · rw [hs', hmiddle, List.foldl_append]

theorem does_loadProject (manifest : Path) :
    (loadProject manifest).Does s fun p s' => s.workspace.project manifest = .ok p ∧ s' = s := by
  refine does_get.bind ?_
  rintro _ _ ⟨rfl, rfl⟩
  refine does_get.bind ?_
  rintro _ _ ⟨rfl, rfl⟩
  dsimp only
  split
  · exact does_stop_bind
  · refine does_read?.bind ?_
    rintro source? _ ⟨rfl, rfl⟩
    split
    · next p hp => exact does_pure ⟨hp, rfl⟩
    · exact does_fail _
    · exact does_stop

/-- A build that goes through has made the artifacts of all sources, and written them. -/
theorem does_build (manifest : Path) :
    (build manifest).Does s fun _ s' =>
      ∃ p, s.workspace.project manifest = .ok p ∧ Stored p s (p.makeAll? s.workspace p.sourceFiles) s' := by
  refine (does_loadProject manifest).bind ?_
  rintro p _ ⟨hp, rfl⟩
  dsimp only
  split
  · exact does_fail_bind _
  · refine (does_buildSources (p.sourceFiles.zipIdx 1)).bind ?_
    rintro _ middle hmiddle
    refine (does_write _).mono ?_
    rintro _ s' hs'
    rw [List.zipIdx_map_fst] at hmiddle
    obtain ⟨built, hbuilt, hworkspace⟩ := hmiddle
    exact ⟨p, hp, built, hbuilt, hs'.trans hworkspace⟩

end Steps

end Shell

/-! ## Where artifacts are -/

namespace Project

section Places

variable {p : Project} {w : Workspace} {a : Artifact} {built : List Artifact}

theorem locate_foldl_store (built : List Artifact) (file : Path) :
    (built.foldl p.store w).locate file = w.locate file := by
  induction built generalizing w with
  | nil => rfl
  | cons a built ih => exact ih

/-- An artifact is put to its place. -/
theorem lookup_append_singleton (place : Path) :
    ((built ++ [a]).foldl p.store w).files.lookup place =
      if place = w.locate (a.file p) then some a.text else (built.foldl p.store w).files.lookup place := by
  rw [List.foldl_append, List.foldl_cons, List.foldl_nil, store, Workspace.lookup_put, locate_foldl_store]

/-- At the place of an artifact is one that has this place. -/
theorem exists_lookup_eq (h : a ∈ built) :
    ∃ b ∈ built, w.locate (b.file p) = w.locate (a.file p) ∧
      (built.foldl p.store w).files.lookup (w.locate (a.file p)) = some b.text := by
  induction built using List.reverseRecOn with
  | nil => cases h
  | append_singleton built last ih =>
    rw [lookup_append_singleton]
    by_cases hplace : w.locate (a.file p) = w.locate (last.file p)
    · exact ⟨last, List.mem_append_right _ (List.mem_singleton_self last), hplace.symm, if_pos hplace⟩
    · have hbefore : a ∈ built := by
        rcases List.mem_append.1 h with h | h
        · exact h
        · exact absurd (by rw [List.mem_singleton.1 h]) hplace
      obtain ⟨b, hb, hplaces, hlookup⟩ := ih hbefore
      exact ⟨b, List.mem_append_left _ hb, hplaces, by rw [if_neg hplace, hlookup]⟩

/-- Every artifact is there exactly if artifacts that share a place have one text. -/
theorem lookup_stored_iff :
    (∀ a ∈ built, (built.foldl p.store w).files.lookup (w.locate (a.file p)) = some a.text) ↔
      ∀ a ∈ built, ∀ b ∈ built, w.locate (a.file p) = w.locate (b.file p) → a.text = b.text := by
  constructor
  · intro h a ha b hb hplace
    have hfirst := h a ha
    have hsecond := h b hb
    rw [hplace] at hfirst
    exact Option.some.inj (hfirst.symm.trans hsecond)
  · intro h a ha
    obtain ⟨b, hb, hplace, hlookup⟩ := exists_lookup_eq (p := p) (w := w) ha
    rw [hlookup, h b hb a ha hplace]

/-- Artifacts at other places leave a file that can be read as it is. -/
theorem get?_foldl_store {file : Path} {text : String} (h : w.get? file = some text)
    (hplaces : ∀ a ∈ built, w.locate (a.file p) ≠ w.locate file) : (built.foldl p.store w).get? file = some text := by
  induction built generalizing w with
  | nil => exact h
  | cons a built ih =>
    obtain ⟨ha, hrest⟩ := List.forall_mem_cons.1 hplaces
    exact ih (Workspace.get?_put h ha) hrest

end Places

/-! ## Which artifacts are made -/

section Made

variable {p : Project} {w : Workspace} {source : Path} {sources : List Path} {made built : List Artifact}

/-- The artifacts of a source: one for each target, with its text. -/
theorem of_make? (h : p.make? w source = some made) :
    made.map (fun a => (a.source, a.target)) = p.manifest.targets.map (Prod.mk source) ∧
      ∀ a ∈ made, w.generated? a.source a.target = some a.text := by
  unfold make? at h
  generalize p.manifest.targets = targets at h
  induction targets generalizing made with
  | nil =>
    cases h
    exact ⟨rfl, fun a ha => by cases ha⟩
  | cons t targets ih =>
    rw [List.mapM_cons] at h
    obtain ⟨first, hfirst, h⟩ := Option.bind_eq_some_iff.1 h
    obtain ⟨rest, hrest, h⟩ := Option.bind_eq_some_iff.1 h
    obtain ⟨text, htext, rfl⟩ := Option.map_eq_some_iff.1 hfirst
    cases h
    obtain ⟨hpairs, htexts⟩ := ih hrest
    refine ⟨?_, List.forall_mem_cons.2 ⟨htext, htexts⟩⟩
    rw [List.map_cons, List.map_cons, hpairs]

/-- The text of a target only depends on the text of the source. -/
theorem generated?_congr {w' : Workspace} {t : Target} (h : w'.get? source = w.get? source) :
    w'.generated? source t = w.generated? source t := by
  rw [Workspace.generated?, Workspace.model?, Workspace.text?, h]
  rfl

/-- There is an artifact for every source and every target. -/
theorem pairs_of_makeAll? (h : p.makeAll? w sources = some built) :
    built.map (fun a => (a.source, a.target)) = sources.product p.manifest.targets := by
  induction sources generalizing w built with
  | nil =>
    cases h
    rfl
  | cons source sources ih =>
    obtain ⟨made, hmade, h⟩ := Option.bind_eq_some_iff.1 h
    obtain ⟨others, hothers, rfl⟩ := Option.map_eq_some_iff.1 h
    rw [List.map_append, (of_make? hmade).1, ih hothers]
    rfl

/-- Artifacts that no source gives way to are made of the sources as they were in front of the build. -/
theorem generated?_of_makeAll? (h : p.makeAll? w sources = some built)
    (hsources : ∀ s ∈ sources, (w.get? s).isSome ∧ ∀ a ∈ built, w.locate (a.file p) ≠ w.locate s) :
    ∀ a ∈ built, w.generated? a.source a.target = some a.text := by
  induction sources generalizing w built with
  | nil =>
    cases h
    intro a ha
    cases ha
  | cons source sources ih =>
    obtain ⟨made, hmade, h⟩ := Option.bind_eq_some_iff.1 h
    obtain ⟨others, hothers, rfl⟩ := Option.map_eq_some_iff.1 h
    obtain ⟨-, hsources⟩ := List.forall_mem_cons.1 hsources
    -- what the artifacts of the first source leave of the other sources
    have hsame : ∀ s ∈ sources, (made.foldl p.store w).get? s = w.get? s := by
      intro s hs
      obtain ⟨hthere, hplaces⟩ := hsources s hs
      obtain ⟨text, htext⟩ := Option.isSome_iff_exists.1 hthere
      rw [htext]
      exact get?_foldl_store htext fun a ha => hplaces a (List.mem_append_left _ ha)
    intro a ha
    rcases List.mem_append.1 ha with ha | ha
    · exact (of_make? hmade).2 a ha
    · have hsource : a.source ∈ sources := by
        have hpair := List.mem_map_of_mem (f := fun a : Artifact => (a.source, a.target)) ha
        rw [pairs_of_makeAll? hothers] at hpair
        exact (List.mem_product.1 hpair).1
      rw [← generated?_congr (hsame _ hsource)]
      refine ih hothers ?_ a ha
      intro s hs
      rw [hsame s hs]
      refine ⟨(hsources s hs).1, fun b hb => ?_⟩
      rw [locate_foldl_store, locate_foldl_store]
      exact (hsources s hs).2 b (List.mem_append_right _ hb)

end Made

end Project

/-! ## Names of artifacts -/

section Names

variable {p : Project} {w : Workspace} {manifest : Path} {a b : Artifact}

theorem four_le_length_name (a : Artifact) : 4 ≤ a.name.length := by
  have hextension : 4 ≤ a.target.extension.length := by
    cases a.target <;> decide
  rw [Artifact.name, String.length_append]
  omega

/-- An artifact lies in the directory of the generated files, under its name. -/
theorem locate_file (h : '/' ∉ a.source.stem.toList) :
    w.locate (a.file p) =
      { w.locate p.outputDirectory with parts := (w.locate p.outputDirectory).parts ++ [a.name] } := by
  have hlength := four_le_length_name a
  have hne : ∀ text : String, text.length < 4 → a.name ≠ text := by
    rintro text hshort rfl
    omega
  have hslash : '/' ∉ a.name.toList := by
    have hextension : '/' ∉ a.target.extension.toList := by
      cases a.target <;> decide
    rw [Artifact.name, String.toList_append, List.mem_append]
    exact fun hmem => hmem.elim h hextension
  have hpath : Path.ofString a.name = ⟨0, [a.name]⟩ :=
    Path.ofString_of_plain hslash (hne "" (by decide)) (hne "." (by decide))
  have hstep : ∀ parts : List String, Path.step parts a.name = parts ++ [a.name] := by
    intro parts
    rw [Path.step, if_neg (hne ".." (by decide))]
  have hjoin : w.directory.join (p.outputDirectory.join ⟨0, [a.name]⟩) =
      { w.directory.join p.outputDirectory with parts := (w.directory.join p.outputDirectory).parts ++ [a.name] } := by
    by_cases habsolute : p.outputDirectory.slashes = 0
    · simp [Path.join, Path.isAbsolute, habsolute]
    · simp [Path.join, Path.isAbsolute, habsolute]
  show (w.directory.join (p.outputDirectory.join (Path.ofString a.name))).normalize = _
  rw [hpath, hjoin, Path.normalize, List.foldl_append, List.foldl_cons, List.foldl_nil, hstep]
  rfl

/-- The sources of a project that is read from a plain path have names without slashes. -/
theorem plain_of_mem_sourceFiles {source? : Option String} {path : Path} (hpath : path.Plain)
    (h : Project.load path source? = .ok p) : ∀ source ∈ p.sourceFiles, source.Plain := by
  have hroot : p.root = path.parent := by
    cases source? with
    | none =>
      cases h
      rfl
    | some text =>
      dsimp only [Project.load] at h
      cases hmanifest : Manifest.parse text with
      | error e =>
        rw [hmanifest] at h
        cases h
      | ok m =>
        rw [hmanifest] at h
        cases h
        rfl
  intro source hsource
  obtain ⟨text, -, rfl⟩ := List.mem_map.1 hsource
  rw [hroot]
  exact hpath.parent.join (Path.plain_ofString text)

/-- Two artifacts share a place exactly if they share a name. -/
theorem locate_file_eq_iff (ha : '/' ∉ a.source.stem.toList) (hb : '/' ∉ b.source.stem.toList) :
    w.locate (a.file p) = w.locate (b.file p) ↔ a.name = b.name := by
  rw [locate_file ha, locate_file hb]
  simp

end Names

/-! ## The command -/

/-- A build that ends with zero has made, for every source and every target, the text that the target gives for the
source as it then was, and has written all of these to their places in order. Every artifact is there exactly if those
that share a place have one text; those share a place that share a name, which is the name of the source without its
ending followed by the ending of the target. Where no artifact takes the place of a source, the texts are those of the
sources in front of the build. -/
theorem build_artifacts {w : Workspace} {manifest : Path} (h : ((Shell.build manifest).run w).exitCode = 0) :
    ∃ p built, w.project manifest = .ok p ∧ p.makeAll? w p.sourceFiles = some built ∧
      built.map (fun a => (a.source, a.target)) = p.sourceFiles.product p.manifest.targets ∧
      ((Shell.build manifest).run w).workspace = built.foldl p.store w ∧
      ((∀ a ∈ built, ((Shell.build manifest).run w).workspace.files.lookup (w.locate (a.file p)) = some a.text) ↔
        ∀ a ∈ built, ∀ b ∈ built, w.locate (a.file p) = w.locate (b.file p) → a.text = b.text) ∧
      (w.directory.Plain → manifest.Plain → ∀ a ∈ built, ∀ b ∈ built,
        (w.locate (a.file p) = w.locate (b.file p) ↔ a.name = b.name)) ∧
      ((∀ s ∈ p.sourceFiles, (w.get? s).isSome ∧ ∀ a ∈ built, w.locate (a.file p) ≠ w.locate s) →
        ∀ a ∈ built, w.generated? a.source a.target = some a.text) := by
  obtain ⟨s', hworkspace, p, hp, built, hbuilt, hs'⟩ := (Shell.does_build manifest).run h
  have hresult : ((Shell.build manifest).run w).workspace = built.foldl p.store w := hworkspace.trans hs'
  refine ⟨p, built, hp, hbuilt, Project.pairs_of_makeAll? hbuilt, hresult, ?_, ?_,
    Project.generated?_of_makeAll? hbuilt⟩
  · rw [hresult]
    exact Project.lookup_stored_iff
  · intro hdirectory hmanifest a ha b hb
    have hstem : ∀ a ∈ built, '/' ∉ a.source.stem.toList := by
      intro a ha
      have hpair := List.mem_map_of_mem (f := fun a : Artifact => (a.source, a.target)) ha
      rw [Project.pairs_of_makeAll? hbuilt] at hpair
      exact (plain_of_mem_sourceFiles (hdirectory.join hmanifest).normalize hp _ (List.mem_product.1 hpair).1).stem
    exact locate_file_eq_iff (hstem a ha) (hstem b hb)

/-- Two sources with different names, for one target. -/
def twoSources : Workspace where
  directory := ⟨1, ["p"]⟩
  files := [
    (⟨1, ["p", "mdsl.toml"]⟩, "[sources]\npaths = [\"x.mdsl\", \"y.mdsl\"]\n[output]\nsql = false\n"),
    (⟨1, ["p", "x.mdsl"]⟩, "import \"a\";"), (⟨1, ["p", "y.mdsl"]⟩, "import \"b\";")]

/-- Two sources with one name, in two directories. -/
def sameNameSources : Workspace where
  directory := ⟨1, ["p"]⟩
  files := [
    (⟨1, ["p", "mdsl.toml"]⟩, "[sources]\npaths = [\"a/x.mdsl\", \"b/x.mdsl\"]\n[output]\nsql = false\n"),
    (⟨1, ["p", "a", "x.mdsl"]⟩, "import \"a\";"), (⟨1, ["p", "b", "x.mdsl"]⟩, "import \"b\";")]

/-- Both builds end with zero. The first makes two artifacts, which have places of their own; the second leaves an
artifact that is not the one of its source. -/
theorem built_of_workspaces :
    (((Shell.build (.ofString "mdsl.toml")).run twoSources).exitCode = 0 ∧
      ((twoSources.project (.ofString "mdsl.toml")).toOption.bind fun p =>
        (p.makeAll? twoSources p.sourceFiles).map fun built => (built.map Artifact.name,
          decide (∀ a ∈ built, ∀ b ∈ built,
            twoSources.locate (a.file p) = twoSources.locate (b.file p) → a.text = b.text),
          decide (∀ s ∈ p.sourceFiles, (twoSources.get? s).isSome ∧
            ∀ a ∈ built, twoSources.locate (a.file p) ≠ twoSources.locate s))) =
        some (["x.cypher", "y.cypher"], true, true)) ∧
    ((Shell.build (.ofString "mdsl.toml")).run sameNameSources).exitCode = 0 ∧
      ((sameNameSources.project (.ofString "mdsl.toml")).toOption.map fun p =>
        (decide (∀ source ∈ p.sourceFiles, (sameNameSources.get? source).isSome),
          decide (∀ source ∈ p.sourceFiles, ∀ t ∈ p.manifest.targets,
            ((Shell.build (.ofString "mdsl.toml")).run sameNameSources).workspace.files.lookup
              (sameNameSources.locate (p.artifact source t)) = sameNameSources.generated? source t))) =
        some (true, false) := by
  decide +kernel

/-- Both artifacts are there, with the texts of their sources. -/
theorem build_artifacts_twoSources :
    ((Shell.build (.ofString "mdsl.toml")).run twoSources).exitCode = 0 ∧
      ∃ p, ∃ built : List Artifact, twoSources.project (.ofString "mdsl.toml") = .ok p ∧
        built.map Artifact.name = ["x.cypher", "y.cypher"] ∧
        ∀ a ∈ built, ((Shell.build (.ofString "mdsl.toml")).run twoSources).workspace.files.lookup
          (twoSources.locate (a.file p)) = twoSources.generated? a.source a.target := by
  obtain ⟨hexit, hsays⟩ := built_of_workspaces.1
  obtain ⟨p, built, hp, hbuilt, -, -, hiff, -, hgenerated⟩ := build_artifacts hexit
  simp only [hp, Except.toOption, Option.bind_some, hbuilt, Option.map_some, Option.some.injEq, Prod.mk.injEq,
    decide_eq_true_eq] at hsays
  obtain ⟨hnames, htexts, hsources⟩ := hsays
  refine ⟨hexit, p, built, hp, hnames, ?_⟩
  intro a ha
  rw [hiff.2 htexts a ha, hgenerated hsources a ha]

/-- Not every build that ends with zero leaves the text of every target for every source: the artifact of the first
source is gone. -/
theorem not_build_artifacts :
    ¬∀ w manifest p, ((Shell.build manifest).run w).exitCode = 0 → w.project manifest = .ok p →
      (∀ source ∈ p.sourceFiles, (w.get? source).isSome) →
      ∀ source ∈ p.sourceFiles, ∀ t ∈ p.manifest.targets,
        ((Shell.build manifest).run w).workspace.files.lookup (w.locate (p.artifact source t)) =
          w.generated? source t := by
  intro hthere
  obtain ⟨hexit, hsays⟩ := built_of_workspaces.2
  cases hp : sameNameSources.project (.ofString "mdsl.toml") with
  | error e =>
    rw [hp] at hsays
    cases hsays
  | ok p =>
    simp only [hp, Except.toOption, Option.map_some, Option.some.injEq, Prod.mk.injEq, decide_eq_true_eq,
      decide_eq_false_iff_not] at hsays
    exact hsays.2 (hthere _ _ p hexit hp hsays.1)

end MediaLanguage
