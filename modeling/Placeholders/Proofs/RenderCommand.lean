/-
The render command on a model of a system. Its pattern, its parameters and its engine
are read off the world (`World.rendering`), which the reading leaves as it is
(`Reads`). What can fail without a trace has been done by then: the text is handed to
one sink, and only that step changes the world (`render_allOrNothing`).

The tree of files decides which paths lead somewhere. A system may have more reasons
to refuse a file (`Refusals`), and the command behaves in the same way under all of them.
The standard streams refuse nothing: that they work is an assumption on the host.
-/
import Placeholders.Program.Run
import Placeholders.Proofs.Rendering
import Placeholders.Proofs.Files

namespace Placeholders
open CommandLine (PatternSource RenderRequest)

namespace Host

variable {m : Type → Type} [Monad m]

/-- The first part of the command, up to the rendering. -/
def prepare (host : Host m) (settings : Settings) (request : RenderRequest) : Action m Rendered := do
  let pattern ← host.loadPattern request.source
  let params ← host.collectParams settings request.params request.vars
  Action.ofOutcome
    (RenderRequest.renderWith (settings.engineOptions request.provider request.strict) params pattern)

/-- The second part: a report if one is asked for, and the text to its sink. -/
def deliver (host : Host m) (request : RenderRequest) (rendered : Rendered) : Action m Unit := do
  if request.report then
    Action.ofHost (host.report (rendered.diagnostics.flatMap fun d => d.message ++ ['\n']))
  match request.output with
  | some path =>
    Action.ofExcept (.unwritableOutput path) (← Action.ofHost (host.writeFile path rendered.text))
  | none => Action.ofHost (host.print rendered.text)

theorem render_eq [LawfulMonad m] (host : Host m) (settings : Settings) (request : RenderRequest) :
    host.render settings request = host.prepare settings request >>= host.deliver request := by
  simp only [prepare, bind_assoc]
  rfl

end Host

/-- Why a system does not let a file be read or written, apart from what its paths say. -/
structure Refusals where
  reading : World → Text → Option FileError := fun _ _ => none
  writing : World → Text → Option FileError := fun _ _ => none

namespace World

variable (refusals : Refusals)

/-- What reading a file gives. -/
def read (w : World) (path : Text) : Except FileError (List UInt8) :=
  match refusals.reading w path with
  | some e => .error e
  | none => w.files.read w.working path

/-- The model with refusals. A write that is refused changes nothing. -/
def guarded : Host (StateM World) where
  __ := host
  readFile path := fun w => (w.read refusals path, w)
  writeFile path t := fun w =>
    match refusals.writing w path with
    | some e => (.error e, w)
    | none => host.writeFile path t w

theorem guarded_nothing : guarded {} = host := rfl

/-- Runs an action in a world. -/
def run {α : Type} (action : Action (StateM World) α) (w : World) : Outcome Failure α × World :=
  StateT.run (ExceptT.run action) w

/-! ## What is read -/

/-- The text of a file. -/
def readText (w : World) (path : Text) : Except FileError Text := (w.read refusals path).bind textOfBytes

/-- The pattern of a source. -/
def pattern (w : World) (source : PatternSource) : Except Failure Text :=
  match source.pattern, source.file with
  | some pattern, _ => .ok pattern
  | none, some path => (w.readText refusals path).mapError (.unreadablePattern path)
  | none, none => (textOfBytes w.input).mapError .unreadableInput

/-- The parameters of a file. -/
def fileParams (w : World) (path : Text) : Except Failure Params := do
  Params.ofContent path (← (w.readText refusals path).mapError (.unreadableParams path))

/-- The parameters of the settings, of a file if one is named, and of variables. -/
def params (w : World) (settings : Settings) (path : Option Text) (vars : List Text) : Except Failure Params := do
  let file ← path.mapM (w.fileParams refusals)
  let vars ← (Params.ofVariables vars).mapError .malformedVariable
  return mergeParams settings file vars

/-- What is rendered on a request. -/
def rendering (w : World) (settings : Settings) (request : RenderRequest) : Outcome Failure Rendered := do
  let pattern ← (w.pattern refusals request.source).mapError .error
  let params ← (w.params refusals settings request.params request.vars).mapError .error
  RenderRequest.renderWith (settings.engineOptions request.provider request.strict) params pattern

end World

theorem mapError_mapError {ε δ γ α : Type} (f : ε → δ) (g : δ → γ) (x : Except ε α) :
    (x.mapError f).mapError g = x.mapError fun e => g (f e) := by
  cases x <;> rfl

theorem mapError_bind {ε δ α β : Type} (f : ε → δ) (x : Except ε α) (next : α → Except ε β) :
    (x >>= next).mapError f = x.mapError f >>= fun a => (next a).mapError f := by
  cases x <;> rfl

theorem mapError_eq_ok {ε δ α : Type} {f : ε → δ} {x : Except ε α} {a : α} : x.mapError f = .ok a ↔ x = .ok a := by
  cases x <;> simp [Except.mapError]

theorem Outcome.mapError_eq_ok {ε δ α : Type} {f : ε → δ} {x : Outcome ε α} {a : α} :
    x.mapError f = .ok a ↔ x = .ok a := by
  rcases x with (_ | _) | _ <;> simp [Outcome.mapError, refuse, abort]

/-! ## Actions that only read -/

namespace World

variable {α β : Type} {action : Action (StateM World) α} {next : α → Action (StateM World) β} {w : World}

theorem run_bind (action : Action (StateM World) α) (next : α → Action (StateM World) β) (w : World) :
    run (action >>= next) w =
      match run action w with
      | (.ok a, w') => run (next a) w'
      | (.error fault, w') => (.error fault, w') := by
  unfold run
  rw [ExceptT.run_bind, StateT.run_bind]
  rcases StateT.run (ExceptT.run action) w with ⟨_ | _, w'⟩ <;> rfl

/-- The action has this outcome in each world and leaves the world as it is. -/
def Reads (action : Action (StateM World) α) (x : World → Outcome Failure α) : Prop :=
  ∀ w, run action w = (x w, w)

theorem Reads.run_bind {x : World → Outcome Failure α} (h : Reads action x) (next : α → Action (StateM World) β)
    (w : World) :
    run (action >>= next) w =
      match x w with
      | .ok a => run (next a) w
      | .error fault => (.error fault, w) := by
  rw [World.run_bind, h w]
  cases x w <;> rfl

theorem Reads.bind {x : World → Outcome Failure α} {y : α → World → Outcome Failure β} (h : Reads action x)
    (hnext : ∀ a, Reads (next a) (y a)) : Reads (action >>= next) fun w => x w >>= fun a => y a w := by
  intro w
  dsimp only
  rw [h.run_bind]
  cases x w with
  | error fault => rfl
  | ok a => exact hnext a w

theorem Reads.congr {x y : World → Outcome Failure α} (h : Reads action x) (hxy : ∀ w, x w = y w) : Reads action y :=
  fun w => hxy w ▸ h w

theorem Reads.pure (a : α) : Reads (Pure.pure a : Action (StateM World) α) fun _ => .ok a := fun _ => rfl

theorem Reads.ofOutcome (x : Outcome Failure α) : Reads (Action.ofOutcome x) fun _ => x := fun _ => rfl

theorem Reads.ofExcept {ε : Type} (f : ε → Failure) (x : Except ε α) :
    Reads (Action.ofExcept f x) fun _ => x.mapError fun e => .error (f e) := fun _ => rfl

theorem run_ofHost (look : StateM World α) (w : World) :
    run (Action.ofHost look) w = (.ok (StateT.run look w).1, (StateT.run look w).2) := by
  unfold run Action.ofHost
  rw [ExceptT.run_lift, StateT.run_map]
  rfl

theorem Reads.ofHost {look : StateM World α} {x : World → α} (h : ∀ w, StateT.run look w = (x w, w)) :
    Reads (Action.ofHost look) fun w => .ok (x w) := by
  intro w
  rw [run_ofHost, h w]

theorem Reads.optionMapM {f : α → Action (StateM World) β} {y : World → α → Except Failure β}
    (h : ∀ a, Reads (f a) fun w => (y w a).mapError .error) (a? : Option α) :
    Reads (a?.mapM f) fun w => (a?.mapM (y w)).mapError .error := by
  cases a? with
  | none => exact .pure none
  | some a =>
    refine ((h a).bind fun b => .pure (some b)).congr fun w => ?_
    dsimp only [Option.mapM_some]
    cases y w a <;> rfl

variable (refusals : Refusals)

theorem reads_readText (path : Text) :
    Reads (Action.ofHost ((guarded refusals).readText path)) fun w => .ok (w.readText refusals path) :=
  .ofHost fun _ => rfl

theorem reads_loadPattern (source : PatternSource) :
    Reads ((guarded refusals).loadPattern source) fun w => (w.pattern refusals source).mapError .error := by
  unfold Host.loadPattern pattern
  cases source.pattern with
  | some pattern => exact .pure pattern
  | none =>
    cases source.file with
    | some path =>
      refine ((reads_readText refusals path).bind fun t => .ofExcept _ t).congr fun w => ?_
      exact (mapError_mapError _ _ _).symm
    | none =>
      have hinput : Reads (Action.ofHost (guarded refusals).input) fun w => .ok w.input := .ofHost fun _ => rfl
      refine (hinput.bind fun bytes => .ofExcept _ (textOfBytes bytes)).congr fun w => ?_
      exact (mapError_mapError _ _ _).symm

theorem reads_loadParams (path : Text) :
    Reads ((guarded refusals).loadParams path) fun w => (w.fileParams refusals path).mapError .error := by
  refine ((reads_readText refusals path).bind fun t => (Reads.ofExcept _ t).bind fun content =>
    .ofExcept id (Params.ofContent path content)).congr fun w => ?_
  unfold fileParams
  rw [mapError_bind, mapError_mapError]
  rfl

theorem reads_collectParams (settings : Settings) (path : Option Text) (vars : List Text) :
    Reads ((guarded refusals).collectParams settings path vars) fun w =>
      (w.params refusals settings path vars).mapError .error := by
  refine ((Reads.optionMapM (reads_loadParams refusals) path).bind fun file =>
    (Reads.ofExcept _ (Params.ofVariables vars)).bind fun vars => .pure (mergeParams settings file vars)).congr
      fun w => ?_
  simp only [params, mapError_bind, mapError_mapError]
  rfl

/-- The command reads what it renders, and then hands over what comes of it. -/
theorem run_render (settings : Settings) (request : RenderRequest) (w : World) :
    run ((guarded refusals).render settings request) w =
      match w.rendering refusals settings request with
      | .ok rendered => run ((guarded refusals).deliver request rendered) w
      | .error fault => (.error fault, w) := by
  have hreads : Reads ((guarded refusals).prepare settings request) fun w => w.rendering refusals settings request :=
    (reads_loadPattern refusals request.source).bind fun pattern =>
      (reads_collectParams refusals settings request.params request.vars).bind fun params =>
        .ofOutcome (RenderRequest.renderWith (settings.engineOptions request.provider request.strict) params pattern)
  rw [Host.render_eq, hreads.run_bind]
  cases w.rendering refusals settings request <;> rfl

/-! ## Handing over -/

/-- What handing a text to a sink does to a world. -/
inductive Delivers (w : World) (t : Text) : Option Text → Outcome Failure Unit → World → Prop
  | printed {after} : after.files = w.files → after.output = w.output ++ t → Delivers w t none (.ok ()) after
  | written {path after} : w.files.Put after.files w.working path t.utf8 → after.output = w.output →
      Delivers w t (some path) (.ok ()) after
  | refused {path e after} : after.files = w.files → after.output = w.output →
      Delivers w t (some path) (.error (.error (.unwritableOutput path e))) after

theorem Delivers.of_reported {w after : World} {reported t : Text} {output : Option Text}
    {result : Outcome Failure Unit} (h : Delivers { w with reported } t output result after) :
    Delivers w t output result after := by
  cases h with
  | printed hfiles houtput => exact .printed hfiles houtput
  | written hput houtput => exact .written hput houtput
  | refused hfiles houtput => exact .refused hfiles houtput

/-- The report goes to another stream. -/
theorem run_report (request : RenderRequest) (rendered : Rendered) (w : World) :
    ∃ reported, run ((guarded refusals).deliver request rendered) w =
      run ((guarded refusals).deliver { request with report := false } rendered) { w with reported } := by
  unfold Host.deliver
  cases request.report with
  | false => exact ⟨w.reported, rfl⟩
  | true => exact ⟨w.reported ++ rendered.diagnostics.flatMap fun d => d.message ++ ['\n'], rfl⟩

theorem writeFile_cases (path t : Text) (w : World) :
    (∃ e, StateT.run ((guarded refusals).writeFile path t) w = (.error e, w)) ∨
      ∃ files, w.files.write w.working path t.utf8 = .ok files ∧
        StateT.run ((guarded refusals).writeFile path t) w = (.ok (), { w with files }) := by
  simp only [guarded, host, StateT.run]
  cases refusals.writing w path with
  | some e => exact .inl ⟨e, rfl⟩
  | none =>
    cases w.files.write w.working path t.utf8 with
    | error e => exact .inl ⟨e, rfl⟩
    | ok files => exact .inr ⟨files, rfl, rfl⟩

theorem delivers_writeFile (path t : Text) (w : World) {result : Outcome Failure Unit} {after : World}
    (h : run (do Action.ofExcept (.unwritableOutput path) (← Action.ofHost ((guarded refusals).writeFile path t))) w =
      (result, after)) : Delivers w t (some path) result after := by
  rw [run_bind, run_ofHost] at h
  rcases writeFile_cases refusals path t w with ⟨e, hwrite⟩ | ⟨files, hfiles, hwrite⟩
  · rw [hwrite] at h
    cases h
    exact .refused rfl rfl
  · rw [hwrite] at h
    cases h
    exact .written (FileTree.put_of_write hfiles) rfl

theorem delivers_of_run {request : RenderRequest} {rendered : Rendered} {w after : World}
    {result : Outcome Failure Unit} (h : run ((guarded refusals).deliver request rendered) w = (result, after)) :
    Delivers w rendered.text request.output result after := by
  obtain ⟨reported, hreport⟩ := run_report refusals request rendered w
  rw [hreport] at h
  unfold Host.deliver at h
  cases hout : request.output with
  | none =>
    simp only [hout] at h
    cases h
    exact .printed rfl rfl
  | some path =>
    simp only [hout] at h
    exact (delivers_writeFile refusals path rendered.text _ h).of_reported

/-! ## All or nothing -/

theorem renderWith_eq_ok {options : EngineOptions} {params : Params} {pattern : Text} {rendered : Rendered}
    (h : RenderRequest.renderWith options params pattern = .ok rendered) :
    ∃ engine, options.engine = .ok engine ∧ engine.render params pattern = .ok rendered := by
  unfold RenderRequest.renderWith at h
  cases hengine : options.engine with
  | error e =>
    rw [hengine] at h
    cases h
  | ok engine =>
    rw [hengine] at h
    exact ⟨engine, rfl, Outcome.mapError_eq_ok.mp h⟩

theorem rendering_eq_ok {settings : Settings} {request : RenderRequest} {w : World} {rendered : Rendered}
    (h : w.rendering refusals settings request = .ok rendered) :
    ∃ pattern params engine, w.pattern refusals request.source = .ok pattern ∧
      w.params refusals settings request.params request.vars = .ok params ∧
      (settings.engineOptions request.provider request.strict).engine = .ok engine ∧
      engine.render params pattern = .ok rendered := by
  unfold rendering at h
  obtain ⟨pattern, hpattern, h⟩ := Outcome.bind_eq_ok.mp h
  obtain ⟨params, hparams, h⟩ := Outcome.bind_eq_ok.mp h
  obtain ⟨engine, hengine, hrender⟩ := renderWith_eq_ok h
  exact ⟨pattern, params, engine, mapError_eq_ok.mp hpattern, mapError_eq_ok.mp hparams, hengine, hrender⟩

/-- A run fails with what keeps it from rendering, or ends as the handing over does. -/
theorem run_render_cases {settings : Settings} {request : RenderRequest} {w after : World}
    {result : Outcome Failure Unit} (h : run ((guarded refusals).render settings request) w = (result, after)) :
    (∃ fault, w.rendering refusals settings request = .error fault ∧ result = .error fault ∧ after = w) ∨
      ∃ rendered, w.rendering refusals settings request = .ok rendered ∧
        Delivers w rendered.text request.output result after := by
  rw [run_render] at h
  cases hr : w.rendering refusals settings request with
  | error fault =>
    rw [hr] at h
    cases h
    exact .inl ⟨fault, rfl, rfl, rfl⟩
  | ok rendered =>
    rw [hr] at h
    exact .inr ⟨rendered, rfl, delivers_of_run refusals h⟩

/-- **The render command does all or nothing.** When it fails, no file has changed and
nothing was printed, and it failed because there is nothing to hand over or because
the output file cannot be written. When it succeeds, one sink has the text that the
engine of the options makes of the pattern and the merged parameters: the output
file if one is named, and else the standard output. Both sinks get the same bytes. -/
theorem render_allOrNothing (settings : Settings) (request : RenderRequest) (w : World) :
    (match run ((guarded refusals).render settings request) w with
      | (.error fault, after) =>
        after.files = w.files ∧ after.output = w.output ∧
          (w.rendering refusals settings request = .error fault ∨
            ∃ path e rendered, request.output = some path ∧ w.rendering refusals settings request = .ok rendered ∧
              fault = .error (.unwritableOutput path e))
      | (.ok (), after) =>
        ∃ pattern params engine rendered, w.pattern refusals request.source = .ok pattern ∧
          w.params refusals settings request.params request.vars = .ok params ∧
          (settings.engineOptions request.provider request.strict).engine = .ok engine ∧
          engine.render params pattern = .ok rendered ∧
          match request.output with
          | some path => w.files.Put after.files w.working path rendered.text.utf8 ∧ after.output = w.output
          | none => after.files = w.files ∧ after.output = w.output ++ rendered.text) ∧
      ∀ path printed written,
        run ((guarded refusals).render settings { request with output := none }) w = (.ok (), printed) →
        run ((guarded refusals).render settings { request with output := some path }) w = (.ok (), written) →
        ∃ t, printed.output = w.output ++ t ∧ written.files.read w.working path = .ok t.utf8 := by
  constructor
  · rcases hrun : run ((guarded refusals).render settings request) w with ⟨fault | ⟨⟩, after⟩
    · rcases run_render_cases refusals hrun with ⟨fault', hr, heq, rfl⟩ | ⟨rendered, hr, hdelivers⟩
      · cases heq
        exact ⟨rfl, rfl, .inl hr⟩
      · generalize hout : request.output = output at hdelivers
        cases hdelivers with
        | @refused path e _ hfiles houtput => exact ⟨hfiles, houtput, .inr ⟨path, e, rendered, rfl, hr, rfl⟩⟩
    · rcases run_render_cases refusals hrun with ⟨fault', -, heq, -⟩ | ⟨rendered, hr, hdelivers⟩
      · cases heq
      · obtain ⟨pattern, params, engine, hpattern, hparams, hengine, hrender⟩ := rendering_eq_ok refusals hr
        refine ⟨pattern, params, engine, rendered, hpattern, hparams, hengine, hrender, ?_⟩
        generalize hout : request.output = output at hdelivers
        cases hdelivers with
        | printed hfiles houtput => exact ⟨hfiles, houtput⟩
        | written hput houtput => exact ⟨hput, houtput⟩
  · intro path printed written hprinted hwritten
    rcases run_render_cases refusals hprinted with ⟨_, -, heq, -⟩ | ⟨rendered, hr, hprint⟩
    · cases heq
    rcases run_render_cases refusals hwritten with ⟨_, -, heq, -⟩ | ⟨rendered', hr', hwrite⟩
    · cases heq
    -- The sink has no part in the rendering.
    have hsame : rendered' = rendered := Except.ok.inj (hr'.symm.trans hr)
    cases hprint with
    | printed _ houtput =>
      cases hwrite with
      | written hput _ => exact ⟨rendered.text, houtput, hsame ▸ hput.reads⟩

/-- A pattern file in the working directory. -/
def desk : World where
  files := ⟨[([['d'], ['p']], Text.utf8 "x ${a | upper}".toList)], []⟩
  working := [['d']]
  homeDirectory := none
  environment := []

/-- The pattern of the file, with these variables and this sink. -/
def deskRequest (vars : List Text) (output : Option Text) : RenderRequest where
  source := { file := some ['p'] }
  vars := vars
  strict := true
  provider := some "standard".toList
  output := output

/-- The sink may be the file that the pattern came from. -/
theorem render_allOrNothing_desk :
    run (host.render {} (deskRequest ["a=v".toList] none)) desk = (.ok (), { desk with output := "x V".toList }) ∧
      run (host.render {} (deskRequest ["a=v".toList] (some ['p']))) desk =
        (.ok (), { desk with files := ⟨[([['d'], ['p']], Text.utf8 "x V".toList)], []⟩ }) ∧
      (∃ t : Text, "x V".toList = [] ++ t ∧
        (FileTree.mk [([['d'], ['p']], Text.utf8 "x V".toList)] []).read [['d']] ['p'] = .ok t.utf8) ∧
      run (host.render {} (deskRequest [] (some ['p']))) desk =
        (.error (.error (.substitution (.missingKey ['a']))), desk) ∧
      run (host.render {} (deskRequest ["a=v".toList] (some "p/q".toList))) desk =
        (.error (.error (.unwritableOutput "p/q".toList .notDirectory)), desk) := by
  have hrendering : ∀ output, desk.rendering {} {} (deskRequest ["a=v".toList] output) = .ok ⟨"x V".toList, []⟩ :=
    fun _ => (by decide +kernel :
      desk.rendering {} {} (deskRequest ["a=v".toList] none) = .ok ⟨"x V".toList, []⟩)
  have hmissing : desk.rendering {} {} (deskRequest [] (some ['p'])) =
      .error (.error (.substitution (.missingKey ['a']))) := by decide +kernel
  have hprinted : run ((guarded {}).render {} (deskRequest ["a=v".toList] none)) desk =
      (.ok (), { desk with output := "x V".toList }) := by
    rw [run_render, hrendering]
    rfl
  have hwritten : run ((guarded {}).render {} (deskRequest ["a=v".toList] (some ['p']))) desk =
      (.ok (), { desk with files := ⟨[([['d'], ['p']], Text.utf8 "x V".toList)], []⟩ }) := by
    rw [run_render, hrendering]
    rfl
  have hunwritable : run ((guarded {}).render {} (deskRequest ["a=v".toList] (some "p/q".toList))) desk =
      (.error (.error (.unwritableOutput "p/q".toList .notDirectory)), desk) := by
    rw [run_render, hrendering]
    rfl
  have hfailed : run ((guarded {}).render {} (deskRequest [] (some ['p']))) desk =
      (.error (.error (.substitution (.missingKey ['a']))), desk) := by rw [run_render, hmissing]
  obtain ⟨-, hsame⟩ := render_allOrNothing {} {} (deskRequest ["a=v".toList] none) desk
  exact ⟨hprinted, hwritten, hsame ['p'] _ _ hprinted hwritten, hfailed, hunwritable⟩

end World
end Placeholders
