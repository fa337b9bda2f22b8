import CardPress.Capabilities
import CardPress.Proofs.Generation.Excused

/-!
# What expressions and steps do by themselves

Apart from resolving their parameters and drawing templates, the standard expressions only read the
state, log, count stamps and read files; the standard steps write files as well, and one of them
writes to caches. So in scenes that go alike they go alike, for every relation between states that
those few things keep.

## Main definitions

* `Generation.Quiet` — a relation that reading, logging and stamps keep.
* `Generation.Calm` — one that writing files keeps, too.
* `Setting.Agree`, `Scene.Agree` — scenes that show the same and whose resolving and drawing go
  alike.
* `Resolver.Agree`, `StepHandler.Agree` — going alike in such scenes.

## Main results

* `Expression.standard_agree` — every standard expression does.
* `Step.standard_agree` — so does every standard step, apart from the one that writes to caches.
* `Step.agree_writeToCache` — that one does if binding keys keeps the relation, too.
-/

namespace CardPress

open Generation

/-- What reading states tells is the same for related ones, and they stay related under what
expressions do to runs. -/
structure Generation.Quiet (R : State → State → Prop) : Prop where
  cache : ∀ {s t}, R s t → s.draft.cache = t.draft.cache
  working : ∀ {s t}, R s t → s.draft.working = t.draft.working
  files : ∀ {s t}, R s t → s.run.files = t.run.files
  nextStamp : ∀ {s t}, R s t → s.run.nextStamp = t.run.nextStamp
  record : ∀ {s t} (entry : LogEntry), R s t →
    R { s with run := s.run.record entry } { t with run := t.run.record entry }
  withStamp : ∀ {s t} (n : Nat), R s t →
    R { s with run.nextStamp := n } { t with run.nextStamp := n }

/-- Related states also stay so when steps write files. -/
structure Generation.Calm (R : State → State → Prop) : Prop extends Quiet R where
  withFiles : ∀ {s t} (files : FileStore), R s t →
    R { s with run.files := files } { t with run.files := files }

/-- What depends on the draft, the global cache and the files is kept by what expressions do to
runs. -/
theorem Generation.Same.quiet {P : State → Prop}
    (h : ∀ s run, run.globalCache = s.run.globalCache → run.files = s.run.files →
      P s → P { s with run := run }) :
    Quiet (Same P) where
  cache := fun hst => by rw [hst.1]
  working := fun hst => by rw [hst.1]
  files := fun hst => by rw [hst.1]
  nextStamp := fun hst => by rw [hst.1]
  record := fun _ ⟨hst, hp⟩ => ⟨by rw [hst], h _ _ rfl rfl hp⟩
  withStamp := fun _ ⟨hst, hp⟩ => ⟨by rw [hst], h _ _ rfl rfl hp⟩

/-- What only depends on the draft and the global cache is kept by what steps do to runs, too. -/
theorem Generation.Same.calm {P : State → Prop}
    (h : ∀ s run, run.globalCache = s.run.globalCache → P s → P { s with run := run }) :
    Calm (Same P) where
  toQuiet := Same.quiet fun s run hc _ => h s run hc
  withFiles := fun _ ⟨hst, hp⟩ => ⟨by rw [hst], h _ _ rfl hp⟩

/-- Looking into the global cache and binding keys in the face's own one keeps the relation, too. -/
structure Generation.Binding (R : State → State → Prop) : Prop extends Quiet R where
  globalCache : ∀ {s t}, R s t → s.run.globalCache = t.run.globalCache
  withCached : ∀ {s t} (key : String) (v : Value), R s t →
    R { s with draft.cache := s.draft.cache.insert key v }
      { t with draft.cache := t.draft.cache.insert key v }

/-- So does writing files as well. -/
structure Generation.Storing (R : State → State → Prop) : Prop extends Calm R, Binding R

/-- So does binding keys in the global cache. -/
def Generation.KeepsGlobal (R : State → State → Prop) : Prop :=
  ∀ {s t} (key : String) (v : Value), R s t →
    R { s with run.globalCache := s.run.globalCache.insert key v }
      { t with run.globalCache := t.run.globalCache.insert key v }

/-- What is known of the draft is kept by binding keys if binding them in its cache keeps it. -/
theorem Generation.Same.draft_storing (P : Draft → Prop)
    (h : ∀ d key v, P d → P { d with cache := d.cache.insert key v }) :
    Storing (Same fun s => P s.draft) where
  toCalm := Same.calm fun _ _ _ => id
  globalCache := fun hst => by rw [hst.1]
  withCached := fun key v ⟨hst, hp⟩ => ⟨by rw [hst], h _ key v hp⟩

theorem Generation.Same.draft_keepsGlobal (P : Draft → Prop) :
    KeepsGlobal (Same fun s => P s.draft) :=
  fun _ _ ⟨hst, hp⟩ => ⟨by rw [hst], hp⟩

/-- Settings of one face whose templates are drawn alike. Of the faces on whose behalf it is drawn,
only the attributes of the innermost one are seen. -/
structure Setting.Agree (R : State → State → Prop) (setting setting' : Setting) : Prop where
  config : setting.config = setting'.config
  scope : setting.scope = setting'.scope
  parent : setting.parents.head?.map Scope.snapshot = setting'.parents.head?.map Scope.snapshot
  draw : ∀ label, Generation.Agree R (setting.draw label) (setting'.draw label)

/-- Scenes that resolve alike, too. -/
structure Scene.Agree (R : State → State → Prop) (scene scene' : Scene) : Prop extends
    Setting.Agree R scene.toSetting scene'.toSetting where
  resolve : ∀ v, Generation.Agree R (scene.resolve v) (scene'.resolve v)

/-- But for whether everything is logged. -/
def Config.unlogged (c : Config) : Config :=
  { c with logsAll := false }

/-- Settings that may also differ in what is logged, and in which drawing templates may go otherwise
where that is excused. -/
structure Setting.AgreeUnless (F : Fault → Prop) (R : State → State → Prop)
    (setting setting' : Setting) : Prop where
  config : setting.config.unlogged = setting'.config.unlogged
  scope : setting.scope = setting'.scope
  parent : setting.parents.head?.map Scope.snapshot = setting'.parents.head?.map Scope.snapshot
  draw : ∀ label, Generation.AgreeUnless F R (setting.draw label) (setting'.draw label)

/-- Scenes in which resolving goes alike, unless that is excused. -/
structure Scene.AgreeUnless (F : Fault → Prop) (R : State → State → Prop) (scene scene' : Scene) :
    Prop extends Setting.AgreeUnless F R scene.toSetting scene'.toSetting where
  resolve : ∀ v, Generation.AgreeUnless F R (scene.resolve v) (scene'.resolve v)

/-- Expressions that go alike in scenes that do. -/
def Resolver.Agree (R : State → State → Prop) (x y : Resolver) : Prop :=
  ∀ scene scene', Scene.Agree R scene scene' → ∀ params,
    Generation.Agree R (x scene params) (y scene' params)

/-- Steps that go alike in scenes that do. -/
def StepHandler.Agree (R : State → State → Prop) (x y : StepHandler) : Prop :=
  ∀ scene scene', Scene.Agree R scene scene' → ∀ params canvas,
    Generation.Agree R (x scene params canvas) (y scene' params canvas)

/-- Expressions that go alike in two scenes, unless that is excused. -/
def Resolver.AgreeUnlessIn (F : Fault → Prop) (R : State → State → Prop) (scene scene' : Scene)
    (x y : Resolver) : Prop :=
  ∀ params, Generation.AgreeUnless F R (x scene params) (y scene' params)

/-- Steps that do. -/
def StepHandler.AgreeUnlessIn (F : Fault → Prop) (R : State → State → Prop) (scene scene' : Scene)
    (x y : StepHandler) : Prop :=
  ∀ params canvas, Generation.AgreeUnless F R (x scene params canvas) (y scene' params canvas)

variable {F : Fault → Prop} {R : State → State → Prop}

/-- What is shown of relations that are kept by less holds for those that are kept by more. -/
instance : Coe (Calm R) (Quiet R) := ⟨Calm.toQuiet⟩

instance : Coe (Storing R) (Binding R) := ⟨Storing.toBinding⟩

/-! ## Single actions -/

namespace Generation.Quiet

variable (hR : Quiet R)

include hR

theorem log (level : Level) (message : String) (fields : List (String × String)) :
    Agree R (Generation.log level message fields) (Generation.log level message fields) :=
  related_modify fun _ _ => hR.record _

theorem info (message : String) (fields : List (String × String)) :
    Agree R (Generation.info message fields) (Generation.info message fields) :=
  hR.log .info message fields

theorem freshStamp : Agree R Generation.freshStamp Generation.freshStamp := by
  intro s t hst
  show Alike _ _ (.ok s.run.nextStamp _) (.ok t.run.nextStamp _)
  rw [hR.nextStamp hst]
  exact .ok (hR.withStamp _ hst)

theorem newImage (canvas : Canvas) :
    Agree R (Generation.newImage canvas) (Generation.newImage canvas) :=
  hR.freshStamp.bind fun _ => Agree.pure _

theorem readImage (path : String) :
    Agree R (Generation.readImage path) (Generation.readImage path) := by
  refine (hR.log _ _ _).bind fun _ => Agree.get_bind fun s t hst => ?_
  rw [hR.files hst]
  cases t.run.files.readImage path with
  | ok canvas => exact hR.newImage canvas s t hst
  | error fault => exact Agree.throw _ s t hst

theorem readFile (path : String) :
    Agree R (Generation.readFile path) (Generation.readFile path) := by
  refine (hR.log _ _ _).bind fun _ => Agree.get_bind fun s t hst => ?_
  rw [hR.files hst]
  cases t.run.files.read path with
  | ok content => exact Agree.pure content s t hst
  | error fault => exact Agree.throw _ s t hst

end Generation.Quiet

namespace Generation.Calm

variable (hR : Calm R)

include hR

theorem setFiles (files : FileStore) :
    Agree R (modifyRun fun r => { r with files := files })
      (modifyRun fun r => { r with files := files }) :=
  related_modify fun _ _ => hR.withFiles files

theorem updateFiles (f : FileStore → Except FileFault FileStore) :
    Agree R (Generation.updateFiles f) (Generation.updateFiles f) := by
  refine Agree.get_bind fun s t hst => ?_
  rw [hR.files hst]
  cases f t.run.files with
  | ok files => exact hR.setFiles files s t hst
  | error fault => exact Agree.throw _ s t hst

theorem writeImage (path : String) (canvas : Canvas) :
    Agree R (Generation.writeImage path canvas) (Generation.writeImage path canvas) := by
  refine Agree.get_bind fun s t hst => ?_
  rw [hR.files hst]
  obtain ⟨outcome, files⟩ := t.run.files.writeImage path canvas
  refine Related.bind (hR.setFiles files) (fun _ => ?_) s t hst
  cases outcome with
  | ok => exact Agree.pure _
  | error fault => exact Agree.throw _

end Generation.Calm

/-! ## Parameters -/

namespace Config

variable {c c' : Config} (h : c.unlogged = c'.unlogged)

include h

/-- Configurations that are the same but for whether everything is logged have the same of
everything else. -/
theorem eq_of_unlogged {α : Type} (f : Config → α) (hf : ∀ c : Config, f c.unlogged = f c) :
    f c = f c' := by
  rw [← hf c, h, hf]

theorem maxChain_eq_of_unlogged : c.maxChain = c'.maxChain :=
  eq_of_unlogged h (·.maxChain) fun _ => rfl

theorem maxDepth_eq_of_unlogged : c.maxDepth = c'.maxDepth :=
  eq_of_unlogged h (·.maxDepth) fun _ => rfl

end Config

/-- Settings that agree do so whatever is excused. -/
theorem Setting.Agree.unless {setting setting' : Setting} (h : Setting.Agree R setting setting') :
    Setting.AgreeUnless F R setting setting' :=
  ⟨congrArg Config.unlogged h.config, h.scope, h.parent, fun label => (h.draw label).unless⟩

theorem Scene.Agree.unless {scene scene' : Scene} (h : Scene.Agree R scene scene') :
    Scene.AgreeUnless F R scene scene' :=
  ⟨h.toAgree.unless, fun v => (h.resolve v).unless⟩

namespace Scene.AgreeUnless

variable {scene scene' : Scene} (h : Scene.AgreeUnless F R scene scene')

include h

theorem param (params : Mapping) (name : String) :
    Generation.AgreeUnless F R (scene.param params name) (scene'.param params name) :=
  (Generation.AgreeUnless.ofExcept _).bind h.resolve

theorem paramOr (params : Mapping) (name : String) (default : Value) :
    Generation.AgreeUnless F R (scene.paramOr params name default)
      (scene'.paramOr params name default) := by
  rw [Scene.paramOr, Scene.paramOr]
  cases params.get? name with
  | some v => exact h.resolve v
  | none => exact .pure _

theorem paramOpt (params : Mapping) (name : String) :
    Generation.AgreeUnless F R (scene.paramOpt params name) (scene'.paramOpt params name) := by
  rw [Scene.paramOpt, Scene.paramOpt]
  cases params.get? name with
  | some v => exact (h.resolve v).bind fun _ => .pure _
  | none => exact .pure _

/-- What is done with an optional parameter goes alike if it does without one and with one. -/
theorem paramOpt_bind {α : Type} {f g : Option Value → Generation α} (params : Mapping)
    (name : String) (hnone : Generation.AgreeUnless F R (f none) (g none))
    (hsome : ∀ v, Generation.AgreeUnless F R (f (some v)) (g (some v))) :
    Generation.AgreeUnless F R (scene.paramOpt params name >>= f)
      (scene'.paramOpt params name >>= g) := by
  refine (h.paramOpt params name).bind fun v? => ?_
  cases v? with
  | none => exact hnone
  | some v => exact hsome v

theorem flag (params : Mapping) (name : String) (default : Bool) :
    Generation.AgreeUnless F R (scene.flag params name default)
      (scene'.flag params name default) :=
  (h.paramOr params name _).bind fun _ => .pure _

theorem shouldLog (hlogs : scene.config.logsAll = scene'.config.logsAll) (params : Mapping) :
    Generation.AgreeUnless F R (scene.shouldLog params) (scene'.shouldLog params) := by
  rw [Scene.shouldLog, Scene.shouldLog, hlogs]
  split
  · exact .pure _
  · exact (h.paramOpt params logKey).bind fun _ => .pure _

end Scene.AgreeUnless

namespace Scene.Agree

variable {scene scene' : Scene} (h : Scene.Agree R scene scene')

include h

theorem logsAll_eq : scene.config.logsAll = scene'.config.logsAll := by
  rw [h.config]

theorem param (params : Mapping) (name : String) :
    Generation.Agree R (scene.param params name) (scene'.param params name) :=
  (h.unless.param params name).agree

theorem flag (params : Mapping) (name : String) (default : Bool) :
    Generation.Agree R (scene.flag params name default) (scene'.flag params name default) :=
  (h.unless.flag params name default).agree

end Scene.Agree

/-! ## Expressions -/

namespace Expression

variable {scene scene' : Scene} (h : Scene.AgreeUnless F R scene scene') (hR : Quiet R)

section

include h

theorem agreeUnless_self : Resolver.AgreeUnlessIn F R scene scene' self self := by
  intro params
  rw [self, self, h.scope]
  exact .pure _

theorem agreeUnless_parent : Resolver.AgreeUnlessIn F R scene scene' parent parent := by
  intro params
  rw [parent, parent, h.parent]
  exact .pure _

theorem agreeUnless_config : Resolver.AgreeUnlessIn F R scene scene' config config := by
  intro params
  have hvalues : scene.config.values = scene'.config.values :=
    Config.eq_of_unlogged h.config (·.values) fun _ => rfl
  rw [config, config, hvalues]
  exact .pure _

include hR in
theorem agreeUnless_cached : Resolver.AgreeUnlessIn F R scene scene' cached cached := by
  intro params
  refine (h.param params "key").bind fun v => (AgreeUnless.ofExcept _).bind fun key =>
    AgreeUnless.get_bind fun s t hst => ?_
  rw [hR.cache hst]
  cases t.draft.cache.get? key with
  | some v => exact .pure v
  | none =>
    cases params.get? "default" with
    | some default => exact .pure default
    | none => exact .throw _

include hR in
theorem agreeUnless_calculation (hlogs : scene.config.logsAll = scene'.config.logsAll) :
    Resolver.AgreeUnlessIn F R scene scene' calculation calculation := by
  intro params
  refine (h.param params "op").bind fun v => (AgreeUnless.ofExcept _).bind fun operation => ?_
  refine (h.param params "args").bind fun v => (AgreeUnless.ofExcept _).bind fun operands => ?_
  refine (AgreeUnless.ofExcept _).bind fun result => (h.shouldLog hlogs params).bind fun logs => ?_
  cases logs with
  | true => exact (hR.info _ _).unless.bind fun _ => .pure _
  | false => exact .pure _

theorem agreeUnless_seeded : Resolver.AgreeUnlessIn F R scene scene' seeded seeded := by
  intro params
  refine (h.param params "seed").bind fun seed => (h.paramOr params "n" _).bind fun v => ?_
  exact (AgreeUnless.ofExcept _).bind fun index => .pure _

theorem agreeUnless_mapped : Resolver.AgreeUnlessIn F R scene scene' mapped mapped := by
  intro params
  refine (h.param params "map_to").bind fun v => (AgreeUnless.ofExcept _).bind fun template => ?_
  refine (h.param params "key").bind fun v => (AgreeUnless.ofExcept _).bind fun key => ?_
  refine (h.param params "values").bind fun v => (AgreeUnless.ofExcept _).bind fun values => ?_
  exact (h.paramOpt params "map_deferred_type").bind fun tag => .pure _

theorem agreeUnless_cardDimension :
    Resolver.AgreeUnlessIn F R scene scene' cardDimension cardDimension := by
  intro params
  refine (h.param params "dimension").bind fun v => ?_
  rw [h.scope]
  cases scene'.scope.composition.size with
  | none => exact .ofExcept _
  | some size =>
    refine (AgreeUnless.ofExcept _).bind fun dimension => ?_
    split
    · exact .pure _
    · exact .pure _
    · exact .ofExcept _

omit h in
include hR in
theorem agreeUnless_workingImage :
    Resolver.AgreeUnlessIn F R scene scene' workingImage workingImage := by
  intro params
  refine AgreeUnless.get_bind fun s t hst => ?_
  rw [hR.working hst]
  exact .pure _

include hR in
theorem agreeUnless_imageFromFile :
    Resolver.AgreeUnlessIn F R scene scene' imageFromFile imageFromFile := by
  intro params
  refine (h.param params "src").bind fun v => (AgreeUnless.ofExcept _).bind fun path => ?_
  exact (hR.readImage path).unless.bind fun _ => .pure _

include hR in
theorem agreeUnless_blankImage :
    Resolver.AgreeUnlessIn F R scene scene' blankImage blankImage := by
  intro params
  refine (h.param params "size").bind fun v => (AgreeUnless.ofExcept _).bind fun size => ?_
  exact (hR.newImage _).unless.bind fun _ => .pure _

theorem agreeUnless_imageFromTemplate :
    Resolver.AgreeUnlessIn F R scene scene' imageFromTemplate imageFromTemplate := by
  intro params
  refine (h.param params "label").bind fun v => (AgreeUnless.ofExcept _).bind fun label => ?_
  exact (h.draw label).bind fun _ => .pure _

omit h in
include hR in
theorem agree_loadFont (path : String) (size : Float32) (index : Nat) :
    Agree R (loadFont path size index) (loadFont path size index) := by
  refine (hR.readFile path).bind fun content => ?_
  cases Font.Face.load content index with
  | ok face => exact hR.freshStamp.bind fun _ => Agree.pure _
  | error cause => exact Agree.throw _

include hR in
theorem agreeUnless_font : Resolver.AgreeUnlessIn F R scene scene' font font := by
  intro params
  refine (h.param params "src").bind fun path => (h.paramOr params "type" _).bind fun kind => ?_
  refine (AgreeUnless.ofExcept _).bind fun name => ?_
  -- What follows each of the two optional parameters, the last one first.
  extract_lets indexed sized indexed' sized'
  have hindexed : ∀ size, AgreeUnless F R (indexed size) (indexed' size) := by
    intro size
    have hload : ∀ index, AgreeUnless F R
        (do return Value.font (← loadFont (← path.readString "src") size index))
        (do return Value.font (← loadFont (← path.readString "src") size index)) := fun index =>
      (AgreeUnless.ofExcept _).bind fun path =>
        (agree_loadFont hR _ _ _).unless.bind fun _ => .pure _
    exact h.paramOpt_bind params "index" ((AgreeUnless.pure _).bind hload)
      fun v => (AgreeUnless.ofExcept _).bind hload
  have hsized : ∀ u, AgreeUnless F R (sized u) (sized' u) := fun u =>
    h.paramOpt_bind params "size" ((AgreeUnless.pure _).bind hindexed)
      fun v => (AgreeUnless.ofExcept _).bind fun x => (AgreeUnless.pure _).bind hindexed
  split
  · exact (AgreeUnless.throw _).bind hsized
  · exact hsized ()

theorem agreeUnless_textLength :
    Resolver.AgreeUnlessIn F R scene scene' textLength textLength := by
  intro params
  refine (h.param params "text").bind fun text => (h.param params "font").bind fun font => ?_
  exact (AgreeUnless.ofExcept _).bind fun font => (AgreeUnless.ofExcept _).bind fun text => .pure _

theorem agreeUnless_textStyle (params : Mapping) :
    AgreeUnless F R (textStyle scene params) (textStyle scene' params) := by
  rw [textStyle, textStyle]
  extract_lets finish stroke anchor align stroke' anchor' align'
  have hfinish : ∀ style, AgreeUnless F R (finish () style) (finish () style) := fun _ => .pure _
  have hstroke : ∀ style, AgreeUnless F R (stroke () style) (stroke' () style) := fun style =>
    h.paramOpt_bind params "stroke_width" (hfinish _)
      fun v => (AgreeUnless.ofExcept _).bind fun width => hfinish _
  have hanchor : ∀ style, AgreeUnless F R (anchor () style) (anchor' () style) := fun style =>
    h.paramOpt_bind params "anchor" (hstroke _) fun v => (AgreeUnless.ofExcept _).bind fun name =>
      (AgreeUnless.ofExcept _).bind fun anchor => hstroke _
  have halign : ∀ style, AgreeUnless F R (align () style) (align' () style) := fun style =>
    h.paramOpt_bind params "align" (hanchor _) fun v => (AgreeUnless.ofExcept _).bind fun name =>
      (AgreeUnless.ofExcept _).bind fun align => hanchor _
  exact h.paramOpt_bind params "spacing" (halign _)
    fun v => (AgreeUnless.ofExcept _).bind fun spacing => halign _

theorem agreeUnless_textBox : Resolver.AgreeUnlessIn F R scene scene' textBox textBox := by
  intro params
  refine (h.param params "text").bind fun text => (h.param params "font").bind fun font => ?_
  extract_lets box box'
  have hbox : ∀ position, AgreeUnless F R (box position) (box' position) := fun position =>
    (agreeUnless_textStyle h params).bind fun style => (AgreeUnless.ofExcept _).bind fun font =>
      (AgreeUnless.ofExcept _).bind fun text => .pure _
  exact h.paramOpt_bind params "position" ((AgreeUnless.pure _).bind hbox)
    fun v => (AgreeUnless.ofExcept _).bind hbox

include hR in
/-- Every standard expression but the one that may log. -/
theorem standard_agreeUnless : ∀ e ∈ standard.resolvers,
    e = ("calc", calculation) ∨ Resolver.AgreeUnlessIn F R scene scene' e.2 e.2 := by
  simp only [standard, List.forall_mem_cons, List.not_mem_nil, false_imp_iff, implies_true,
    and_true]
  exact ⟨.inr (agreeUnless_self h), .inr (agreeUnless_parent h), .inr (agreeUnless_config h),
    .inr (agreeUnless_cached h hR), .inl trivial, .inr (agreeUnless_seeded h),
    .inr (agreeUnless_mapped h), .inr (agreeUnless_cardDimension h),
    .inr (agreeUnless_workingImage hR), .inr (agreeUnless_imageFromFile h hR),
    .inr (agreeUnless_blankImage h hR), .inr (agreeUnless_imageFromTemplate h),
    .inr (agreeUnless_font h hR), .inr (agreeUnless_textLength h), .inr (agreeUnless_textBox h)⟩

end

include hR in
theorem standard_agree : ∀ e ∈ standard.resolvers, Resolver.Agree R e.2 e.2 := by
  intro e he scene scene' h params
  rcases standard_agreeUnless h.unless hR e he with rfl | hagree
  · exact (agreeUnless_calculation h.unless hR h.logsAll_eq params).agree
  · exact (hagree params).agree

end Expression

/-! ## Steps -/

namespace Step

variable {scene scene' : Scene} (h : Scene.AgreeUnless F R scene scene') (hR : Quiet R)

section

include h

theorem agreeUnless_manipulate (params : Mapping) (layer : Canvas) :
    AgreeUnless F R (manipulate scene params layer) (manipulate scene' params layer) := by
  rw [manipulate, manipulate]
  refine AgreeUnless.foldlM (fun layer e => ?_) _ _
  exact h.paramOpt_bind params e.1 (.pure _) fun v => .ofExcept (e.2 v layer)

include hR in
theorem agreeUnless_place (params : Mapping) (position : Float × Float) (layer : Canvas)
    (canvas : Image) :
    AgreeUnless F R (place scene params position layer canvas)
      (place scene' params position layer canvas) :=
  (h.flag params "is_position_centre" false).bind fun _ => (hR.newImage _).unless

include hR in
theorem agreeUnless_pasteImage :
    StepHandler.AgreeUnlessIn F R scene scene' pasteImage pasteImage := by
  intro params canvas
  refine (h.param params "image").bind fun v => (AgreeUnless.ofExcept _).bind fun image => ?_
  refine (agreeUnless_manipulate h params _).bind fun layer => ?_
  refine (h.param params "position").bind fun v => (AgreeUnless.ofExcept _).bind fun position => ?_
  exact (agreeUnless_place h hR params _ _ _).bind fun _ => .pure _

include hR in
theorem agreeUnless_writeText : StepHandler.AgreeUnlessIn F R scene scene' writeText writeText := by
  intro params canvas
  refine (h.param params "position").bind fun v => (AgreeUnless.ofExcept _).bind fun position => ?_
  refine (h.param params "text").bind fun text => ?_
  refine (h.param params "fill").bind fun v => (AgreeUnless.ofExcept _).bind fun fill => ?_
  refine (h.param params "font").bind fun font => ?_
  extract_lets draw draw'
  have hdraw : ∀ strokeFill, AgreeUnless F R (draw strokeFill) (draw' strokeFill) :=
    fun strokeFill => (Expression.agreeUnless_textStyle h params).bind fun style =>
      (AgreeUnless.ofExcept _).bind fun font => (AgreeUnless.ofExcept _).bind fun text =>
        (agreeUnless_manipulate h params _).bind fun layer =>
          (agreeUnless_place h hR params _ _ _).bind fun _ => .pure _
  exact h.paramOpt_bind params "stroke_fill" ((AgreeUnless.pure _).bind hdraw)
    fun v => (AgreeUnless.ofExcept _).bind hdraw

theorem agreeUnless_directory (params : Mapping) :
    AgreeUnless F R (directory scene params) (directory scene' params) := by
  have houtput : scene.config.outputDirectory = scene'.config.outputDirectory :=
    Config.eq_of_unlogged h.config (·.outputDirectory) fun _ => rfl
  rw [directory, directory, houtput]
  exact h.paramOpt_bind params "path" (.pure _) fun v => .ofExcept _

theorem agreeUnless_fileName (params : Mapping) :
    AgreeUnless F R (fileName scene params) (fileName scene' params) := by
  rw [fileName, fileName, h.scope]
  extract_lets finish finish'
  have hfinish : ∀ name, AgreeUnless F R (finish name) (finish' name) := fun name =>
    (h.paramOr params "extension" _).bind fun v => (AgreeUnless.ofExcept _).bind fun extension =>
      .pure _
  exact h.paramOpt_bind params "filename" ((AgreeUnless.pure _).bind hfinish)
    fun v => (AgreeUnless.pure _).bind hfinish

theorem agreeUnless_save (hR : Calm R) : StepHandler.AgreeUnlessIn F R scene scene' save save := by
  intro params canvas
  rw [save, save, h.scope]
  refine (agreeUnless_directory h params).bind fun directory => ?_
  refine (agreeUnless_fileName h params).bind fun name => ?_
  refine (hR.updateFiles _).unless.bind fun _ => ?_
  extract_lets finish
  have hfinish : ∀ u, AgreeUnless F R (finish u) (finish u) := fun u =>
    (hR.info _ _).unless.bind fun _ => .pure _
  refine h.paramOpt_bind params "data" ((hR.writeImage _ _).unless.bind hfinish) fun v => ?_
  cases v with
  | image image => exact (hR.writeImage _ _).unless.bind hfinish
  | string text => exact (hR.updateFiles _).unless.bind hfinish
  | null | bool | number | font | sequence | mapping => exact (AgreeUnless.throw _).bind hfinish

theorem agreeUnless_read (hlogs : scene.config.logsAll = scene'.config.logsAll) (params : Mapping) :
    AgreeUnless F R (CacheWriting.read scene params) (CacheWriting.read scene' params) := by
  refine (h.paramOr params "mode" _).bind fun v => (AgreeUnless.ofExcept _).bind fun name => ?_
  refine (AgreeUnless.ofExcept _).bind fun mode => (h.flag params "is_lazy" _).bind fun isLazy => ?_
  exact (h.flag params "is_global" _).bind fun isGlobal =>
    (h.shouldLog hlogs params).bind fun isLogged => .pure _

theorem agreeUnless_cacheEntries (params : Mapping) :
    AgreeUnless F R (cacheEntries scene params) (cacheEntries scene' params) := by
  rw [cacheEntries, cacheEntries]
  have hsingle : AgreeUnless F R
      (do return [(← Expression.cacheKey (← scene.param params "key"), ← rawParam params "value")])
      (do return [(← Expression.cacheKey (← scene'.param params "key"),
        ← rawParam params "value")]) :=
    (h.param params "key").bind fun v => (AgreeUnless.ofExcept _).bind fun key =>
      (AgreeUnless.ofExcept _).bind fun v => .pure _
  split
  · exact hsingle
  · exact hsingle
  · split
    · exact (AgreeUnless.throw _).bind fun _ => (AgreeUnless.ofExcept _).bind fun _ => .pure _
    · exact (AgreeUnless.ofExcept _).bind fun _ => .pure _

end

theorem agree_save (hR : Calm R) : StepHandler.Agree R save save :=
  fun _ _ h params canvas => (agreeUnless_save h.unless hR params canvas).agree

theorem agree_read {scene scene' : Scene} (h : Scene.Agree R scene scene') (params : Mapping) :
    Agree R (CacheWriting.read scene params) (CacheWriting.read scene' params) :=
  (agreeUnless_read h.unless h.logsAll_eq params).agree

theorem agree_cacheEntries {scene scene' : Scene} (h : Scene.Agree R scene scene')
    (params : Mapping) : Agree R (cacheEntries scene params) (cacheEntries scene' params) :=
  (agreeUnless_cacheEntries h.unless params).agree

/-- The step that writes entries in a way of its own. -/
def writeToCacheBy (write : CacheWriting → Scene → String → Value → Generation Unit) :
    StepHandler := fun scene params canvas => do
  let w ← CacheWriting.read scene params
  forM (← cacheEntries scene params) fun (key, v) => write w scene key v
  return .go canvas

theorem writeEntries_eq_forM (w : CacheWriting) (scene : Scene) (entries : List (String × Value)) :
    w.writeEntries scene entries = forM entries fun (key, v) => w.writeEntry scene key v := by
  induction entries with
  | nil => rfl
  | cons e rest ih => rw [CacheWriting.writeEntries, ih, List.forM_cons]

theorem writeToCache_eq : writeToCache = writeToCacheBy CacheWriting.writeEntry := by
  funext scene params canvas
  simp only [writeToCache, writeToCacheBy, writeEntries_eq_forM]

theorem agree_writeToCacheBy
    {write write' : CacheWriting → Scene → String → Value → Generation Unit}
    (hw : ∀ w scene scene', Scene.Agree R scene scene' → ∀ key v,
      Agree R (write w scene key v) (write' w scene' key v)) :
    StepHandler.Agree R (writeToCacheBy write) (writeToCacheBy write') := by
  intro scene scene' h params canvas
  refine (agree_read h params).bind fun w => (agree_cacheEntries h params).bind fun entries => ?_
  exact (Agree.forM (fun e => hw w scene scene' h e.1 e.2) entries).bind fun _ => Agree.pure _

theorem agree_skip (hR : Quiet R) (w : CacheWriting) (key reason : String) :
    Agree R (w.skip key reason) (w.skip key reason) := by
  rw [CacheWriting.skip]
  split
  · exact hR.info _ _
  · exact Agree.pure _

/-- Two ways of writing admit keys alike if they pass them over alike. -/
theorem agree_admits_of_skip (hR : Quiet R)
    (hg : ∀ {s t}, R s t → s.run.globalCache = t.run.globalCache) {w w' : CacheWriting}
    (hmode : w.mode = w'.mode) (hglobal : w.isGlobal = w'.isGlobal)
    (hskip : ∀ key reason, Agree R (w.skip key reason) (w'.skip key reason)) (key : String) :
    Agree R (w.admits key) (w'.admits key) := by
  have hskip : ∀ reason, Agree R (do w.skip key reason; return false)
      (do w'.skip key reason; return false) :=
    fun reason => (hskip key reason).bind fun _ => Agree.pure _
  rw [CacheWriting.admits, CacheWriting.admits, hmode, hglobal]
  refine Agree.get_bind fun s t hst => ?_
  rw [hR.cache hst]
  refine Related.bind (Agree.ofExcept _) (fun here => ?_) s t hst
  split
  · split
    · refine Agree.get_bind fun s t hst => ?_
      rw [hg hst]
      refine Related.bind (Agree.ofExcept _) (fun everywhere => ?_) s t hst
      split
      · exact Agree.pure _
      · exact hskip _
    · exact Agree.pure _
  · exact hskip _

theorem agree_admits (hR : Quiet R)
    (hg : ∀ {s t}, R s t → s.run.globalCache = t.run.globalCache) (w : CacheWriting)
    (key : String) : Agree R (w.admits key) (w.admits key) :=
  agree_admits_of_skip hR hg rfl rfl (agree_skip hR w) key

/-- Binding a key, but for what is logged of it. -/
def CacheWriting.store (w : CacheWriting) (key : String) (v : Value) : Generation Unit := do
  if w.isGlobal then
    modifyRun fun r => { r with globalCache := r.globalCache.insert key v }
  modifyDraft fun d => { d with cache := d.cache.insert key v }

theorem agree_store (hR : Binding R) (w : CacheWriting) (hg : w.isGlobal = true → KeepsGlobal R)
    (key : String) (v : Value) : Agree R (w.store key v) (w.store key v) := by
  have hlocal : Agree R (modifyDraft fun d => { d with cache := d.cache.insert key v })
      (modifyDraft fun d => { d with cache := d.cache.insert key v }) :=
    related_modify fun _ _ => hR.withCached key v
  rw [CacheWriting.store]
  split
  · next hw => exact Related.bind (related_modify fun _ _ => hg hw key v) fun _ => hlocal
  · exact hlocal

theorem agree_bind (hR : Binding R) (w : CacheWriting) (hg : w.isGlobal = true → KeepsGlobal R)
    (key : String) (v : Value) : Agree R (w.bind key v) (w.bind key v) := by
  have hstore := agree_store hR w hg key v
  rw [CacheWriting.bind]
  split
  · exact (hR.info _ _).bind fun _ => hstore
  · exact hstore

/-- Ways of writing that go alike. -/
structure CacheWriting.WritesAlike (R : State → State → Prop) (w w' : CacheWriting) : Prop where
  isLazy : w.isLazy = w'.isLazy
  admits : ∀ key, Agree R (w.admits key) (w'.admits key)
  bind : ∀ key v, Agree R (w.bind key v) (w'.bind key v)

theorem agree_writing (hR : Binding R) (hg : KeepsGlobal R) (w : CacheWriting) :
    w.WritesAlike R w :=
  ⟨rfl, agree_admits hR.toQuiet hR.globalCache w, agree_bind hR w fun _ => hg⟩

theorem agreeUnless_writeEntry (h : Scene.AgreeUnless F R scene scene') {w w' : CacheWriting}
    (hw : w.WritesAlike R w') (key : String) (v : Value) :
    AgreeUnless F R (w.writeEntry scene key v) (w'.writeEntry scene' key v) := by
  rw [CacheWriting.writeEntry, CacheWriting.writeEntry, hw.isLazy]
  refine (hw.admits key).unless.bind fun admitted => ?_
  have hbind (v : Value) : AgreeUnless F R (w.bind key v) (w'.bind key v) := (hw.bind key v).unless
  cases admitted with
  | false => exact .pure _
  | true =>
    rw [if_pos rfl, if_pos rfl]
    cases w'.isLazy with
    | true => exact (AgreeUnless.pure v).bind hbind
    | false => exact (h.resolve v).bind hbind

theorem agreeUnless_writeEntries (h : Scene.AgreeUnless F R scene scene') {w w' : CacheWriting}
    (hw : w.WritesAlike R w') (entries : List (String × Value)) :
    AgreeUnless F R (w.writeEntries scene entries) (w'.writeEntries scene' entries) := by
  induction entries with
  | nil => exact .pure _
  | cons e rest ih => exact (agreeUnless_writeEntry h hw e.1 e.2).bind fun _ => ih

theorem agreeUnless_writeToCache (h : Scene.AgreeUnless F R scene scene') (hR : Binding R)
    (hg : KeepsGlobal R) (hlogs : scene.config.logsAll = scene'.config.logsAll) :
    StepHandler.AgreeUnlessIn F R scene scene' writeToCache writeToCache := by
  intro params canvas
  refine (agreeUnless_read h hlogs params).bind fun w => ?_
  refine (agreeUnless_cacheEntries h params).bind fun entries => ?_
  exact (agreeUnless_writeEntries h (agree_writing hR hg w) entries).bind fun _ => .pure _

theorem agree_writeEntries (hR : Storing R) (hg : KeepsGlobal R) (w : CacheWriting)
    {scene scene' : Scene} (h : Scene.Agree R scene scene') (entries : List (String × Value)) :
    Agree R (w.writeEntries scene entries) (w.writeEntries scene' entries) :=
  (agreeUnless_writeEntries h.unless (agree_writing hR.toBinding hg w) entries).agree

theorem agree_writeToCache (hR : Binding R) (hg : KeepsGlobal R) :
    StepHandler.Agree R writeToCache writeToCache :=
  fun _ _ h params canvas =>
    (agreeUnless_writeToCache h.unless hR hg h.logsAll_eq params canvas).agree

/-- Every standard step but those that write to caches and to files. -/
theorem standard_agreeUnless_of_quiet (h : Scene.AgreeUnless F R scene scene') (hR : Quiet R) :
    ∀ e ∈ standard.steps, e = ("write_to_cache", writeToCache) ∨ e = ("save", save) ∨
      StepHandler.AgreeUnlessIn F R scene scene' e.2 e.2 := by
  simp only [standard, List.forall_mem_cons, List.not_mem_nil, false_imp_iff, implies_true,
    and_true]
  exact ⟨.inl trivial, .inr (.inr (agreeUnless_pasteImage h hR)),
    .inr (.inr (agreeUnless_writeText h hR)), .inr (.inl trivial),
    .inr (.inr fun _ _ => .pure _), .inr (.inr fun _ _ => .pure _)⟩

/-- Every standard step but the one that writes to caches. -/
theorem standard_agreeUnless (h : Scene.AgreeUnless F R scene scene') (hR : Calm R) :
    ∀ e ∈ standard.steps, e = ("write_to_cache", writeToCache) ∨
      StepHandler.AgreeUnlessIn F R scene scene' e.2 e.2 := by
  intro e he
  rcases standard_agreeUnless_of_quiet h hR.toQuiet e he with hwrite | rfl | hagree
  · exact .inl hwrite
  · exact .inr (agreeUnless_save h hR)
  · exact .inr hagree

/-- So it is for all such scenes. -/
theorem standard_agree_of_quiet (hR : Quiet R) :
    ∀ e ∈ standard.steps,
      e.1 = "write_to_cache" ∨ e = ("save", save) ∨ StepHandler.Agree R e.2 e.2 := by
  intro e he
  by_cases hwrite : e = ("write_to_cache", writeToCache)
  · exact .inl (congrArg Prod.fst hwrite)
  by_cases hsave : e = ("save", save)
  · exact .inr (.inl hsave)
  refine .inr (.inr fun scene scene' h params canvas => ?_)
  rcases standard_agreeUnless_of_quiet h.unless hR e he with he | he | hagree
  · exact absurd he hwrite
  · exact absurd he hsave
  · exact (hagree params canvas).agree

theorem standard_agree (hR : Calm R) :
    ∀ e ∈ standard.steps, e.1 = "write_to_cache" ∨ StepHandler.Agree R e.2 e.2 := by
  intro e he
  rcases standard_agree_of_quiet hR.toQuiet e he with hwrite | rfl | hagree
  · exact .inl hwrite
  · exact .inr (agree_save hR)
  · exact .inr hagree

end Step

end CardPress
