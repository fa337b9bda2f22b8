import CardPress.Proofs.Generation.Noting

/-!
# Logging

Whether everything is logged decides how an expression that calculates and a step that writes to
caches find out if they are logged themselves: what they say of it is resolved only if not. A plain
value stands for itself wherever anything can be resolved at all, and where nothing can be, they
have failed before they come to that. So drawing is the same either way but for the log.

That nothing else than plain values is met on the way is said by putting an alarm in its place: it
makes no difference which fault the alarm raises.

## Main definitions

* `Mapping.logsPlainly` — what parameters say of logging is plain.
* `Press.vetted` — a press that raises an alarm where it is not.
* `Press.withLogsAll` — the press that logs everything, or not.

## Main result

* `Press.generate_withLogsAll` — only the log depends on it.
-/

namespace CardPress

open Generation

/-- Null, a truth value, a number or a text. -/
def Value.isPlain : Value → Bool
  | .null | .bool _ | .number _ | .string _ => true
  | _ => false

/-- What parameters say of logging is nothing or a plain value. -/
def logsPlainly (params : Mapping) : Bool :=
  (params.get? logKey).all Value.isPlain

/-- The expression with an alarm for parameters that do not log plainly. -/
def Resolver.vetted (alarm : Fault) (resolver : Resolver) : Resolver := fun scene params =>
  if logsPlainly params then resolver scene params else throw alarm

/-- The step with such an alarm. -/
def StepHandler.vetted (alarm : Fault) (handler : StepHandler) : StepHandler :=
  fun scene params canvas =>
    if logsPlainly params then handler scene params canvas else throw alarm

/-- Capabilities with such alarms wherever something is logged if it asks for it. -/
def Capabilities.vetted (c : Capabilities) (alarm : Fault) : Capabilities where
  resolvers := c.resolvers.replace "calc" (Expression.calculation.vetted alarm)
  steps := c.steps.replace "write_to_cache" (Step.writeToCache.vetted alarm)

namespace Press

/-- The press with alarms for what does not log plainly. -/
def vetted (press : Press) (alarm : Fault) : Press :=
  { press with capabilities := press.capabilities.vetted alarm }

/-- The press that logs everything, or not. -/
def withLogsAll (press : Press) (logsAll : Bool) : Press :=
  { press with config := { press.config with logsAll := logsAll } }

end Press

/-! ## Resolving plain values -/

namespace Scene

/-- Nothing can be resolved. -/
def Exhausted (scene : Scene) : Prop :=
  ∀ v s a t, scene.resolve v s ≠ .ok a t

/-- Plain values stand for themselves. -/
def KeepsPlain (scene : Scene) : Prop :=
  ∀ v, v.isPlain = true → scene.resolve v = pure v

variable {scene : Scene}

theorem param_ne_ok (h : scene.Exhausted) (params : Mapping) (name : String) (s : State) (a : Value)
    (t : State) : scene.param params name s ≠ .ok a t := by
  intro hok
  obtain ⟨v, u, -, hv⟩ := bind_ok_iff.1 hok
  exact h v u a t hv

/-- Whether something that logs plainly is logged is found out without any effect. -/
theorem shouldLog_of_keepsPlain (h : scene.KeepsPlain) {params : Mapping}
    (hparams : logsPlainly params = true) : ∃ b, scene.shouldLog params = pure b := by
  rw [shouldLog]
  split
  · exact ⟨true, rfl⟩
  · rw [paramOpt]
    rw [logsPlainly] at hparams
    cases hv : params.get? logKey with
    | none => exact ⟨false, rfl⟩
    | some v =>
      rw [hv] at hparams
      dsimp only
      rw [h v hparams]
      exact ⟨_, rfl⟩

end Scene

namespace Generation

variable {resolvers : Registry Resolver} {setting : Setting}

theorem exhausted_zero : Scene.Exhausted ⟨setting, resolve resolvers setting 0⟩ := by
  intro v s a t h
  dsimp only at h
  rw [resolve] at h
  cases h

theorem keepsPlain_succ (depth : Nat) :
    Scene.KeepsPlain ⟨setting, resolve resolvers setting (depth + 1)⟩ := by
  intro v hv
  have hunwrap (inner : Scene) (chain : Nat) : unwrap resolvers inner chain v = pure v := by
    cases v with
    | null | bool | number | string => rw [unwrap.eq_def]
    | sequence | mapping | image | font => cases hv
  dsimp only
  rw [resolve_succ, hunwrap, pure_bind]
  cases v with
  | null | bool | number | string => rfl
  | sequence | mapping | image | font => cases hv

theorem scene_exhausted (h : setting.config.maxDepth = 0) :
    (scene resolvers setting).Exhausted := by
  rw [scene, h]
  exact exhausted_zero

theorem scene_keepsPlain (h : setting.config.maxDepth ≠ 0) :
    (scene resolvers setting).KeepsPlain := by
  obtain ⟨depth, hdepth⟩ := Nat.exists_eq_succ_of_ne_zero h
  rw [scene, hdepth]
  exact keepsPlain_succ depth

end Generation

/-! ## What is the same but for the log -/

namespace Generation

variable {α : Type}

theorem agree_log_left (level : Level) (message : String) (fields : List (String × String))
    {x y : Generation α} (h : Agree SameButLog x y) :
    Agree SameButLog (do log level message fields; x) y := by
  rintro _ t ⟨log, rfl⟩
  exact h _ t ⟨log.push ⟨level, message, fields⟩, rfl⟩

theorem agree_log_right (level : Level) (message : String) (fields : List (String × String))
    {x y : Generation α} (h : Agree SameButLog x y) :
    Agree SameButLog x (do log level message fields; y) := by
  rintro _ t ⟨log, rfl⟩
  exact h _ _ ⟨log, rfl⟩

/-- It makes no difference whether something is logged before the rest is done. -/
theorem agree_logged (b b' : Bool) (message : String) (fields fields' : List (String × String))
    {x y : Generation α} (h : Agree SameButLog x y) :
    Agree SameButLog (if b = true then (do info message fields; x) else x)
      (if b' = true then (do info message fields'; y) else y) := by
  cases b with
  | true =>
    cases b' with
    | true => exact agree_log_left _ _ _ (agree_log_right _ _ _ h)
    | false => exact agree_log_left _ _ _ h
  | false =>
    cases b' with
    | true => exact agree_log_right _ _ _ h
    | false => exact h

end Generation

namespace Step

theorem agree_skip_logged (w : CacheWriting) (logged : Bool) (key reason : String) :
    Agree SameButLog (w.skip key reason) ({ w with isLogged := logged }.skip key reason) :=
  agree_logged w.isLogged logged _ _ _ (Agree.pure ())

/-- But for the log it makes no difference whether writing to caches is logged. -/
theorem agree_writing_logged (w : CacheWriting) (logged : Bool) :
    w.WritesAlike SameButLog { w with isLogged := logged } where
  isLazy := rfl
  admits := agree_admits_of_skip sameButLog_storing.toQuiet sameButLog_storing.globalCache rfl rfl
    (agree_skip_logged w logged)
  bind := fun key v => agree_logged w.isLogged logged _ _ _
    (agree_store sameButLog_storing w (fun _ => sameButLog_keepsGlobal) key v)

end Step

section Plain

variable {F : Fault → Prop} {scene scene' : Scene}
  (h : Scene.AgreeUnless F SameButLog scene scene') {params : Mapping}
  (hparams : logsPlainly params = true)

include h hparams

/-- But for the log a calculation that logs plainly goes alike. -/
theorem Expression.agreeUnless_calculation_of_plain
    (hresolve : scene.Exhausted ∨ scene.KeepsPlain ∧ scene'.KeepsPlain) :
    AgreeUnless F SameButLog (calculation scene params) (calculation scene' params) := by
  rw [calculation, calculation]
  rcases hresolve with hexhausted | ⟨hplain, hplain'⟩
  · exact (h.param params "op").bind_of_never_ok (Scene.param_ne_ok hexhausted params "op") _ _
  · obtain ⟨b, hb⟩ := Scene.shouldLog_of_keepsPlain hplain hparams
    obtain ⟨b', hb'⟩ := Scene.shouldLog_of_keepsPlain hplain' hparams
    rw [hb, hb']
    refine (h.param params "op").bind fun v => (AgreeUnless.ofExcept _).bind fun operation => ?_
    refine (h.param params "args").bind fun v => (AgreeUnless.ofExcept _).bind fun operands => ?_
    refine (AgreeUnless.ofExcept _).bind fun result => ?_
    exact (agree_logged b b' _ _ _ (Agree.pure result)).unless

/-- So does writing to caches. -/
theorem Step.agreeUnless_writeToCache_of_plain (hplain : scene.KeepsPlain)
    (hplain' : scene'.KeepsPlain) (canvas : Image) :
    AgreeUnless F SameButLog (writeToCache scene params canvas)
      (writeToCache scene' params canvas) := by
  obtain ⟨b, hb⟩ := Scene.shouldLog_of_keepsPlain hplain hparams
  obtain ⟨b', hb'⟩ := Scene.shouldLog_of_keepsPlain hplain' hparams
  simp only [writeToCache, CacheWriting.read, bind_assoc, pure_bind, hb, hb']
  refine (h.paramOr params "mode" _).bind fun v => (AgreeUnless.ofExcept _).bind fun name => ?_
  refine (AgreeUnless.ofExcept _).bind fun mode => (h.flag params "is_lazy" _).bind fun isLazy => ?_
  refine (h.flag params "is_global" _).bind fun isGlobal => ?_
  refine (agreeUnless_cacheEntries h params).bind fun entries => ?_
  have hwriting := agree_writing_logged ⟨mode, isLazy, isGlobal, b⟩ b'
  exact (agreeUnless_writeEntries h hwriting entries).bind fun _ => .pure _

end Plain

/-! ## Drawing -/

namespace Generation

variable {scene : Scene} (h : scene.Exhausted) (handlers handlers' : Registry StepHandler)

include h

/-- Where nothing can be resolved, no step comes to its handler. -/
theorem runStep_of_exhausted (s : PlacedStep) (canvas : Image) :
    runStep handlers scene s canvas = runStep handlers' scene s canvas := by
  rw [runStep, runStep]
  refine bind_congr fun params => bind_congr_of_never_ok ?_ _ _
  intro u kind t hkind
  rw [inStep, mapFault_ok_iff] at hkind
  obtain ⟨v, _, hv, -⟩ := bind_ok_iff.1 hkind
  exact Scene.param_ne_ok h params typeKey _ _ _ hv

theorem drawSteps_of_exhausted (size : Size) :
    drawSteps handlers scene size = drawSteps handlers' scene size := by
  have hruns (steps : List PlacedStep) (canvas : Image) :
      runSteps handlers scene steps canvas = runSteps handlers' scene steps canvas := by
    induction steps generalizing canvas with
    | nil => rw [runSteps, runSteps]
    | cons s rest ih =>
      rw [runSteps, runSteps, runStep_of_exhausted h handlers handlers' s canvas]
      simp only [ih]
  rw [drawSteps, drawSteps]
  simp only [hruns]

end Generation

namespace Capabilities

variable {c : Capabilities} (hc : standard = .ok c) {F : Fault → Prop} {alarm : Fault}
  (halarm : F alarm) {scene scene' : Scene} (h : Scene.AgreeUnless F SameButLog scene scene')

include hc halarm h

/-- With alarms, and where they excuse it, expressions go alike but for the log, whatever is
logged. -/
theorem agreeUnless_resolvers_vetted
    (hresolve : scene.Exhausted ∨ scene.KeepsPlain ∧ scene'.KeepsPlain) :
    Registry.Agree (Resolver.AgreeUnlessIn F SameButLog scene scene') (c.vetted alarm).resolvers
      c.resolvers := by
  intro tag
  rw [vetted, Registry.get?_replace]
  split
  · next ht =>
    rw [ht, get?_calc hc]
    refine .some fun params => ?_
    rw [Resolver.vetted]
    split
    · next hparams => exact Expression.agreeUnless_calculation_of_plain h hparams hresolve
    · exact .excused halarm _
  · next ht => exact agreeUnless_resolver_of_ne hc h sameButLog_steady.toQuiet ht

/-- So do steps where anything can be resolved. -/
theorem agreeUnless_steps_vetted (hplain : scene.KeepsPlain) (hplain' : scene'.KeepsPlain) :
    Registry.Agree (StepHandler.AgreeUnlessIn F SameButLog scene scene') (c.vetted alarm).steps
      c.steps := by
  intro tag
  rw [vetted, Registry.get?_replace]
  split
  · next ht =>
    rw [ht, get?_writeToCache hc]
    refine .some fun params canvas => ?_
    rw [StepHandler.vetted]
    split
    · next hparams =>
      exact Step.agreeUnless_writeToCache_of_plain h hparams hplain hplain' canvas
    · exact .excused halarm _
  · next ht => exact agreeUnless_step_of_ne hc sameButLog_steady.toCalm h ht

end Capabilities

namespace Press

section LogsAll

variable {press : Press} (hc : Capabilities.standard = .ok press.capabilities)

include hc

/-- With alarms, and where they excuse it, drawing goes alike but for the log, whatever is
logged. -/
theorem drawFace_vetted {F : Fault → Prop} (hF : Fault.KeptInSteps F) {alarm : Fault}
    (halarm : F alarm) (logsAll : Bool) (parents : Lineage) (face : CardFace) :
    Generation.AgreeUnless F SameButLog ((press.vetted alarm).drawFace parents face)
      ((press.withLogsAll logsAll).drawFace parents face) := by
  refine agreeUnless_drawFace sameButLog_steady.toDrafting ?_ ?_ ?_ ?_ rfl rfl face
  · exact fun _ => .inr rfl
  · exact fun _ => .inr rfl
  · rfl
  intro setting setting' hconfig hconfig' hsetting size
  have hscene := agreeUnless_scene hsetting fun depth hinner => by
    refine Capabilities.agreeUnless_resolvers_vetted hc halarm hinner ?_
    cases depth with
    | zero => exact .inl exhausted_zero
    | succ depth => exact .inr ⟨keepsPlain_succ depth, keepsPlain_succ depth⟩
  have hdepth : setting.config.maxDepth = setting'.config.maxDepth :=
    Config.maxDepth_eq_of_unlogged hsetting.config
  by_cases hzero : setting.config.maxDepth = 0
  · -- No step comes to its handler, so the handlers may be anything.
    have hleft : (scene (press.vetted alarm).capabilities.resolvers setting).Exhausted :=
      scene_exhausted hzero
    have hright : (scene (press.withLogsAll logsAll).capabilities.resolvers setting').Exhausted :=
      scene_exhausted (hdepth ▸ hzero)
    rw [drawSteps_of_exhausted hleft _ (.new ""), drawSteps_of_exhausted hright _ (.new "")]
    exact agreeUnless_drawSteps hF hscene sameButLog_steady.toRunning (fun _ => .none) size
  · exact agreeUnless_drawSteps hF hscene sameButLog_steady.toRunning
      (Capabilities.agreeUnless_steps_vetted hc halarm hscene (scene_keepsPlain hzero)
        (scene_keepsPlain (hdepth ▸ hzero))) size

/-- Let no expression that calculates be evaluated and no step that writes to caches be executed
that says anything but plain values of its logging, so that alarms for that make no difference. Then
whether everything is logged makes none but in the log: the same comes of drawing the face, be it an
image, nothing or a fault, and the run goes on with the same files and the same global cache. -/
theorem generate_withLogsAll (face : CardFace) (run : Run)
    (hplain : ∀ alarm, (press.vetted alarm).generate face run = press.generate face run)
    (logsAll : Bool) :
    ((press.withLogsAll logsAll).generate face run).1 = (press.generate face run).1 ∧
      ∃ log, ((press.withLogsAll logsAll).generate face run).2 =
        { (press.generate face run).2 with log := log } := by
  have hends (alarm : Fault) (halarm : alarm.rootCause = alarm) :
      (∃ fault, (press.generate face run).1 = .error fault ∧ fault.rootCause = alarm) ∨
        ((press.withLogsAll logsAll).generate face run).1 = (press.generate face run).1 ∧
          ∃ log, ((press.withLogsAll logsAll).generate face run).2 =
            { (press.generate face run).2 with log := log } := by
    have hdraw := drawFace_vetted hc (Fault.keptInSteps_causes alarm) halarm
      logsAll [] face
    rcases hdraw.perform (fun s => ⟨s.run.log, rfl⟩) run with hfault | ⟨hresult, s, t, hst, hs, ht⟩
    · left
      rw [← hplain alarm]
      exact hfault
    · right
      rw [← hplain alarm]
      obtain ⟨log, rfl⟩ := hst
      exact ⟨hresult.symm, t.run.log, ht.trans (by rw [generate, hs])⟩
  -- No fault has two root causes, so not both alarms can have been raised.
  rcases hends .unlabelledTemplate rfl with ⟨fault, hfault, hroot⟩ | hsame
  · rcases hends (.unknownStep "") rfl with ⟨other, hother, hroot'⟩ | hsame
    · cases hfault.symm.trans hother
      cases hroot.symm.trans hroot'
    · exact hsame
  · exact hsame

end LogsAll

/-- A face that stores for all what a calculation gives, and says of both in plain words if they are
logged. -/
def outspoken : CardFace :=
  { CardFace.empty 0 with
    size := some ⟨1, 1⟩
    steps := [.mapping <| Dict.ofList [
      (typeKey, .string "write_to_cache"), ("key", .string "k"), ("is_global", .bool true),
      ("is_lazy", .bool false), (logKey, .bool false), ("value", .mapping <| Dict.ofList [
        (Value.deferredKey, .string "calc"), ("op", .string "not"),
        ("args", .sequence [.bool true]), (logKey, .string "")])]] }

set_option maxRecDepth 10000 in
theorem generate_withLogsAll_outspoken :
    let press := ofPool .empty
    let run := Run.start .empty ∅
    Capabilities.standard = .ok press.capabilities ∧
      (∀ alarm, (press.vetted alarm).generate outspoken run = press.generate outspoken run) ∧
      ((press.withLogsAll true).generate outspoken run).1 = (press.generate outspoken run).1 ∧
      (∃ log, ((press.withLogsAll true).generate outspoken run).2 =
        { (press.generate outspoken run).2 with log := log }) ∧
      ((press.withLogsAll true).generate outspoken run).2.log.size =
        (press.generate outspoken run).2.log.size + 2 := by
  intro press run
  have hplain (alarm : Fault) :
      (press.vetted alarm).generate outspoken run = press.generate outspoken run := by
    cbv
  obtain ⟨hresult, hlog⟩ := generate_withLogsAll Capabilities.standard_eq_table outspoken run hplain
    true
  exact ⟨Capabilities.standard_eq_table, hplain, hresult, hlog, by cbv⟩

end Press

end CardPress
