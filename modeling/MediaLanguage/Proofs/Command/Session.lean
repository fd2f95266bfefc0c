import MediaLanguage.Command.Generate

/-!
# What commands do to files

`Shell.Does` says what a step of a command does in a session: it goes through, and something holds of its result and of
the session behind it, or it ends the command with one. What a command does is put together from what its steps do
(`Does.bind`, `Does.forM`).

* `lookup_locate_of_get?`: a file that can be read is at the place that its path stands for.
* `lookup_put`: writing a file changes the text at its place and at no other.
* `get?_put`: a file that can be read can be read behind a file that is written to another place.
-/

namespace MediaLanguage

/-! ## Steps of commands -/

namespace Shell

/-- A step that starts in the session `s` goes through with what `post` says, or ends the command with one. -/
structure Does {α : Type} (x : Shell α) (s : Session) (post : α → Session → Prop) : Prop where
  ok : ∀ {a s'}, x s = (.ok a, s') → post a s'
  error : ∀ {code s'}, x s = (.error code, s') → code = 1

section Contracts

variable {α β : Type} {x : Shell α} {s s' : Session} {post : α → Session → Prop}

theorem bind_of_ok {f : α → Shell β} {a : α} (h : x s = (.ok a, s')) : (x >>= f) s = f a s' := by
  show (ExceptT.bindCont f (x s).1) (x s).2 = f a s'
  rw [h]
  rfl

theorem bind_of_error {f : α → Shell β} {code : ExitCode} (h : x s = (.error code, s')) :
    (x >>= f) s = (.error code, s') := by
  show (ExceptT.bindCont f (x s).1) (x s).2 = _
  rw [h]
  rfl

/-- A step that goes through. -/
theorem does_of_eq_ok {a : α} (h : x s = (.ok a, s')) (hpost : post a s') : x.Does s post := by
  constructor
  · intro b t hx
    cases h.symm.trans hx
    exact hpost
  · intro code t hx
    cases h.symm.trans hx

/-- A step that ends the command. -/
theorem does_of_eq_error (h : x s = (.error 1, s')) : x.Does s post := by
  constructor
  · intro a t hx
    cases h.symm.trans hx
  · intro code t hx
    cases h.symm.trans hx
    rfl

/-- A step and the next. -/
theorem Does.bind {f : α → Shell β} {next : β → Session → Prop} (h : x.Does s post)
    (hf : ∀ a s', post a s' → (f a).Does s' next) : Does (x >>= f) s next := by
  cases hx : x s with
  | mk result middle =>
    cases result with
    | error code =>
      have hcode := h.error hx
      subst hcode
      exact does_of_eq_error (bind_of_error hx)
    | ok a =>
      have hnext := hf a middle (h.ok hx)
      have hrun : (x >>= f) s = f a middle := bind_of_ok hx
      exact ⟨fun h => hnext.ok (hrun ▸ h), fun h => hnext.error (hrun ▸ h)⟩

theorem Does.mono {weaker : α → Session → Prop} (h : x.Does s post) (himp : ∀ a s', post a s' → weaker a s') :
    x.Does s weaker :=
  ⟨fun hx => himp _ _ (h.ok hx), h.error⟩

theorem does_pure {a : α} (h : post a s) : (pure a : Shell α).Does s post :=
  does_of_eq_ok rfl h

theorem does_stop : (stop : Shell α).Does s post :=
  does_of_eq_error rfl

theorem does_fail (message : String) : (fail message : Shell α).Does s post :=
  does_of_eq_error rfl

theorem does_stop_bind {f : α → Shell β} {next : β → Session → Prop} : ((stop : Shell α) >>= f).Does s next :=
  does_of_eq_error (bind_of_error rfl)

theorem does_fail_bind {f : α → Shell β} {next : β → Session → Prop} (message : String) :
    ((fail message : Shell α) >>= f).Does s next :=
  does_of_eq_error (bind_of_error rfl)

theorem does_get : (get : Shell Session).Does s fun a s' => a = s ∧ s' = s :=
  does_of_eq_ok rfl ⟨rfl, rfl⟩

/-- Text that is written leaves the files as they are. -/
theorem does_write (u : Utterance) : (write u).Does s fun _ s' => s'.workspace = s.workspace :=
  does_of_eq_ok rfl rfl

theorem does_orStop {value : Option α} : (orStop value).Does s fun a s' => value = some a ∧ s' = s := by
  cases value with
  | none => exact does_stop
  | some a => exact does_pure ⟨rfl, rfl⟩

/-- A step for every item of a list: `Run` says what the steps for the items do together. -/
theorem Does.forM {f : α → Shell Unit} (Run : List α → Session → Session → Prop) (hnil : ∀ s, Run [] s s)
    (hcons : ∀ a rest s, (f a).Does s fun _ middle => ∀ s', Run rest middle s' → Run (a :: rest) s s') (l : List α) :
    (l.forM f).Does s fun _ s' => Run l s s' := by
  induction l generalizing s with
  | nil => exact does_pure (hnil s)
  | cons a rest ih =>
    show (f a >>= fun _ => rest.forM f).Does s _
    exact (hcons a rest s).bind fun _ middle hstep => (ih (s := middle)).mono fun _ s' hrest => hstep s' hrest

/-- A command that ends with zero has gone through. -/
theorem Does.run {steps : Shell Unit} {w : Workspace} {echo : String → String} {post : Unit → Session → Prop}
    (h : steps.Does { workspace := w } post) (hexit : (steps.run w echo).exitCode = 0) :
    ∃ s', (steps.run w echo).workspace = s'.workspace ∧ post () s' := by
  unfold Shell.run at hexit ⊢
  cases hrun : steps { workspace := w } with
  | mk result s' =>
    rw [hrun] at hexit
    cases result with
    | error code =>
      have hcode := h.error hrun
      subst hcode
      cases hexit
    | ok a => exact ⟨s', rfl, h.ok hrun⟩

end Contracts

end Shell

/-! ## Files -/

namespace Workspace

/-- The text of a file as it is read, with line feeds at the ends of its lines. -/
def text? (w : Workspace) (file : Path) : Option String :=
  (w.get? file).map fun text => String.ofList (Text.unifyLineEnds text.toList)

/-- The model of a file. -/
def model? (w : Workspace) (file : Path) : Option Model.Program :=
  (w.text? file).bind fun source => (parse source).toOption.bind fun p => p.lower.toOption

section Places

variable {w : Workspace} {file written : Path} {text : String}

/-- The names that a path leads to are those of its place. -/
theorem follow?_eq_some {done names parts : List String} (h : w.follow? done names = some parts) :
    parts = names.foldl Path.step done := by
  induction names generalizing done with
  | nil => exact (Option.some.inj h).symm
  | cons name rest ih =>
    rw [follow?] at h
    rw [List.foldl_cons, Path.step]
    split at h
    · next hname =>
      rw [if_pos hname]
      split at h
      · exact ih h
      · cases h
    · next hname =>
      rw [if_neg hname]
      exact ih h

/-- A file that can be read is at its place. -/
theorem lookup_locate_of_get? (h : w.get? file = some text) : w.files.lookup (w.locate file) = some text := by
  obtain ⟨parts, hparts, hlookup⟩ := Option.bind_eq_some_iff.1 h
  rw [locate, Path.normalize, ← follow?_eq_some hparts]
  exact hlookup

/-- The files at other places. -/
theorem lookup_filter_ne {files : List (Path × String)} {place other : Path} (h : place ≠ other) :
    (files.filter fun f => f.1 ≠ other).lookup place = files.lookup place := by
  induction files with
  | nil => rfl
  | cons entry files ih =>
    rw [List.filter_cons]
    split
    · rw [List.lookup_cons, List.lookup_cons, ih]
    · next hentry =>
      have hne : place ≠ entry.1 := by
        rintro rfl
        exact hentry (decide_eq_true h)
      rw [ih, List.lookup_cons, beq_false_of_ne hne]

/-- Writing a file changes the text at its place and at no other. -/
theorem lookup_put (place : Path) :
    (w.put written text).files.lookup place =
      if place = w.locate written then some text else w.files.lookup place := by
  show List.lookup place ((w.locate written, text) :: _) = _
  rw [List.lookup_cons]
  by_cases hplace : place = w.locate written
  · rw [hplace, beq_self_eq_true, if_pos rfl]
  · rw [beq_false_of_ne hplace, if_neg hplace]
    exact lookup_filter_ne hplace

@[simp] theorem locate_put (file : Path) : (w.put written text).locate file = w.locate file := rfl

/-- A file that is written takes no directory away. -/
theorem isDirectory_put {names : List String} (h : w.isDirectory names) : (w.put written text).isDirectory names := by
  unfold isDirectory at h ⊢
  rw [Bool.or_eq_true] at h ⊢
  refine h.imp_right fun hfile => ?_
  obtain ⟨entry, hentry, hnames⟩ := List.any_eq_true.1 hfile
  rw [List.any_eq_true]
  -- the file that makes the directory is still there, or is the one that is written
  by_cases hplace : entry.1 = w.locate written
  · exact ⟨(w.locate written, text), List.mem_cons_self, hplace ▸ hnames⟩
  · exact ⟨entry, List.mem_cons_of_mem _ (List.mem_filter.2 ⟨hentry, by simpa using hplace⟩), hnames⟩

theorem follow?_put {done names parts : List String} (h : w.follow? done names = some parts) :
    (w.put written text).follow? done names = some parts := by
  induction names generalizing done with
  | nil => exact h
  | cons name rest ih =>
    rw [follow?] at h ⊢
    split at h
    · next hname =>
      rw [if_pos hname]
      split at h
      · next hdirectory =>
        rw [if_pos (isDirectory_put hdirectory)]
        exact ih h
      · cases h
    · next hname =>
      rw [if_neg hname]
      exact ih h

/-- A file that can be read can be read behind one that is written to another place. -/
theorem get?_put {old : String} (h : w.get? file = some old) (hplace : w.locate written ≠ w.locate file) :
    (w.put written text).get? file = some old := by
  have hlookup := lookup_locate_of_get? h
  obtain ⟨parts, hparts, -⟩ := Option.bind_eq_some_iff.1 h
  refine Option.bind_eq_some_iff.2 ⟨parts, follow?_put hparts, ?_⟩
  have hlocate : { w.directory.join file with parts } = w.locate file := by
    rw [locate, Path.normalize, ← follow?_eq_some hparts]
  show (w.put written text).files.lookup { w.directory.join file with parts } = some old
  rw [hlocate, lookup_put, if_neg hplace.symm, hlookup]

end Places

end Workspace

namespace Shell

section Files

variable {s : Session} {file : Path}

theorem does_read? : (read? file).Does s fun text s' => text = s.workspace.text? file ∧ s' = s :=
  does_of_eq_ok rfl ⟨rfl, rfl⟩

theorem does_read : (read file).Does s fun text s' => s.workspace.text? file = some text ∧ s' = s := by
  refine does_read?.bind ?_
  rintro text? s' ⟨htext, rfl⟩
  cases text? with
  | none => exact does_fail _
  | some text => exact does_pure ⟨htext.symm, rfl⟩

theorem does_orFail {α : Type} {source : String} {value : Except Error α} :
    (orFail file source value).Does s fun a s' => value = .ok a ∧ s' = s := by
  cases value with
  | ok a => exact does_pure ⟨rfl, rfl⟩
  | error e =>
    cases e with
    | conversion => exact does_stop
    | _ => exact does_fail _

theorem does_load :
    (load file).Does s fun p s' =>
      (s.workspace.text? file).bind (fun source => (MediaLanguage.parse source).toOption) = some p ∧ s' = s := by
  refine does_read.bind ?_
  rintro source s' ⟨hsource, rfl⟩
  refine does_orFail.mono ?_
  rintro p s'' ⟨hp, rfl⟩
  rw [hsource, Option.bind_some, hp]
  exact ⟨rfl, rfl⟩

/-- The model that is prepared is the one of the file. -/
theorem does_prepare :
    (prepare file).Does s fun result s' => s.workspace.model? file = some result.1 ∧ s' = s := by
  refine does_load.bind ?_
  rintro p _ ⟨hp, rfl⟩
  refine does_orStop.bind ?_
  rintro model _ ⟨hmodel, rfl⟩
  refine does_orStop.bind ?_
  rintro verdict _ ⟨-, rfl⟩
  refine does_pure ⟨?_, rfl⟩
  rw [Workspace.model?, ← Option.bind_assoc, hp, Option.bind_some, hmodel]

/-- A file that is written is put to its place. -/
theorem does_writeFile (text : String) :
    (writeFile file text).Does s fun _ s' => s'.workspace = s.workspace.put file text := by
  refine does_get.bind ?_
  rintro _ _ ⟨rfl, rfl⟩
  dsimp only
  split
  · exact does_stop_bind
  · exact does_of_eq_ok rfl rfl

end Files

end Shell

end MediaLanguage
