import CardPress.Proofs.Generation.Drawing
import CardPress.Proofs.Value.PlainFaults

/-!
# Where faults about templates come from

The standard expressions and steps have plain faults, apart from those of the templates they have
drawn; and only one expression has templates drawn. So the faults of a face are plain ones and those
of asking for its templates, in steps.

## Main definitions

* `Fault.Inclusive` — a class of faults that has all plain ones and stays the same in steps.
* `Resolver.Raises`, `StepHandler.Raises` — having faults of one class in scenes in which resolving
  has such faults.

## Main results

* `Expression.standard_raises` — every standard expression does, apart from the one that has
  templates drawn.
* `Expression.raises_imageFromTemplate` — that one does if drawing the templates does.
* `Step.standard_raises` — every standard step does.
* `Generation.raises_drawSteps` — so does drawing the steps of a face.
-/

namespace CardPress

open Generation

/-- A class of faults with all plain ones, and with a fault what becomes of it in a step. -/
structure Fault.Inclusive (E : Fault → Prop) : Prop where
  plain : ∀ {fault}, fault.IsPlain → E fault
  inStep : ∀ {label index kind source}, E source → E (.step label index kind source)

/-- Resolving values has faults of one class. -/
def Scene.Raises (E : Fault → Prop) (scene : Scene) : Prop :=
  ∀ v, Generation.Raises E (scene.resolve v)

/-- Having such faults in scenes of some face. -/
def Resolver.RaisesIn (E : Fault → Prop) (setting : Setting) (resolver : Resolver) : Prop :=
  ∀ resolve, Scene.Raises E ⟨setting, resolve⟩ → ∀ params,
    Generation.Raises E (resolver ⟨setting, resolve⟩ params)

def Resolver.Raises (E : Fault → Prop) (resolver : Resolver) : Prop :=
  ∀ scene, Scene.Raises E scene → ∀ params, Generation.Raises E (resolver scene params)

def StepHandler.Raises (E : Fault → Prop) (handler : StepHandler) : Prop :=
  ∀ scene, Scene.Raises E scene → ∀ params canvas,
    Generation.Raises E (handler scene params canvas)

variable {E : Fault → Prop} (hE : Fault.Inclusive E)

include hE

/-! ## Single actions -/

namespace Generation

/-- A reading with plain faults. -/
theorem raises_reading {α : Type} {x : Except Fault α} (h : Fails Fault.IsPlain x) :
    Raises E (monadLift x : Generation α) :=
  Raises.ofExcept fun fault hx => hE.plain (h fault hx)

theorem raises_throw {α : Type} {fault : Fault} (h : fault.IsPlain) :
    Raises E (throw fault : Generation α) :=
  Ends.throw (hE.plain h)

omit hE in
theorem raises_info (message : String) (fields : List (String × String)) :
    Raises E (info message fields) :=
  Ends.of_modify _

omit hE in
theorem raises_newImage (canvas : Canvas) : Raises E (newImage canvas) :=
  Raises.bind Ends.freshStamp fun _ => Raises.pure _

theorem raises_readImage (path : String) : Raises E (readImage path) := by
  refine Raises.bind (Ends.of_modify _) fun _ => Ends.get_bind fun s => ?_
  split
  · exact raises_newImage _
  · exact raises_throw hE trivial

theorem raises_readFile (path : String) : Raises E (readFile path) := by
  refine Raises.bind (Ends.of_modify _) fun _ => Ends.get_bind fun s => ?_
  split
  · exact Raises.pure _
  · exact raises_throw hE trivial

theorem raises_updateFiles (f : FileStore → Except FileFault FileStore) :
    Raises E (updateFiles f) := by
  refine Ends.get_bind fun s => ?_
  split
  · exact Ends.of_modify _
  · exact raises_throw hE trivial

theorem raises_writeImage (path : String) (canvas : Canvas) :
    Raises E (writeImage path canvas) := by
  refine Ends.get_bind fun s => ?_
  obtain ⟨outcome, files⟩ := s.run.files.writeImage path canvas
  refine Raises.bind (Ends.of_modify _) fun _ => ?_
  cases outcome with
  | ok => exact Raises.pure _
  | error fault => exact raises_throw hE trivial

end Generation

/-! ## Parameters -/

namespace Scene.Raises

variable {scene : Scene} (h : Scene.Raises E scene)

include h

theorem param (params : Mapping) (name : String) : Generation.Raises E (scene.param params name) :=
  (raises_reading hE (plain_rawParam params name)).bind h

omit hE in
theorem paramOr (params : Mapping) (name : String) (default : Value) :
    Generation.Raises E (scene.paramOr params name default) := by
  rw [Scene.paramOr]
  split
  · exact h _
  · exact Raises.pure _

omit hE in
theorem paramOpt (params : Mapping) (name : String) :
    Generation.Raises E (scene.paramOpt params name) := by
  rw [Scene.paramOpt]
  split
  · exact (h _).bind fun _ => Raises.pure _
  · exact Raises.pure _

omit hE in
/-- What is done with an optional parameter, without one and with one. -/
theorem paramOpt_bind {α : Type} {f : Option Value → Generation α} (params : Mapping)
    (name : String) (hnone : Generation.Raises E (f none))
    (hsome : ∀ v, Generation.Raises E (f (some v))) :
    Generation.Raises E (scene.paramOpt params name >>= f) := by
  refine (h.paramOpt params name).bind fun v? => ?_
  cases v? with
  | none => exact hnone
  | some v => exact hsome v

omit hE in
theorem flag (params : Mapping) (name : String) (default : Bool) :
    Generation.Raises E (scene.flag params name default) :=
  (h.paramOr params name _).bind fun _ => Raises.pure _

omit hE in
theorem shouldLog (params : Mapping) : Generation.Raises E (scene.shouldLog params) := by
  rw [Scene.shouldLog]
  split
  · exact Raises.pure _
  · exact (h.paramOpt params logKey).bind fun _ => Raises.pure _

/-- A required parameter of one kind. -/
theorem reading {α β : Type} {read : Value → Except Fault α}
    (hread : ∀ v, Fails Fault.IsPlain (read v)) (params : Mapping) (name : String)
    {f : α → Generation β} (hf : ∀ a, Generation.Raises E (f a)) :
    Generation.Raises E (do f (← read (← scene.param params name))) :=
  (h.param hE params name).bind fun v => (raises_reading hE (hread v)).bind hf

end Scene.Raises

/-! ## Expressions -/

namespace Expression

omit hE in
theorem raises_self : Resolver.Raises E self := fun _ _ _ => Raises.pure _

omit hE in
theorem raises_parent : Resolver.Raises E parent := fun _ _ _ => Raises.pure _

omit hE in
theorem raises_config : Resolver.Raises E config := fun _ _ _ => Raises.pure _

theorem raises_cached : Resolver.Raises E cached := by
  intro scene h params
  refine h.reading hE plain_cacheKey params "key" fun key => Ends.get_bind fun s => ?_
  split
  · exact Raises.pure _
  · exact Raises.pure _
  · exact raises_throw hE trivial

theorem raises_calculation : Resolver.Raises E calculation := by
  intro scene h params
  refine h.reading hE (Value.plain_readString _) params "op" fun operation => ?_
  refine h.reading hE (Value.plain_readSequence _) params "args" fun operands => ?_
  refine (raises_reading hE (Calc.plain_calculate _ _)).bind fun result => ?_
  refine (h.shouldLog params).bind fun logs => ?_
  split
  · exact (raises_info _ _).bind fun _ => Raises.pure _
  · exact Raises.pure _

theorem raises_seeded : Resolver.Raises E seeded := by
  intro scene h params
  refine (h.param hE params "seed").bind fun seed => (h.paramOr params "n" _).bind fun n => ?_
  exact (raises_reading hE (Value.plain_readNatural _ _)).bind fun _ => Raises.pure _

theorem raises_mapped : Resolver.Raises E mapped := by
  intro scene h params
  refine h.reading hE (Value.plain_readMapping _) params "map_to" fun template => ?_
  refine h.reading hE plain_cacheKey params "key" fun key => ?_
  refine h.reading hE (Value.plain_readSequence _) params "values" fun values => ?_
  exact (h.paramOpt params "map_deferred_type").bind fun tag => Raises.pure _

theorem raises_cardDimension : Resolver.Raises E cardDimension := by
  intro scene h params
  refine (h.param hE params "dimension").bind fun dimension => ?_
  split
  · exact raises_reading hE (Value.plain_invalid _ _ _)
  · refine (raises_reading hE (Value.plain_readString _ _)).bind fun name => ?_
    split
    · exact Raises.pure _
    · exact Raises.pure _
    · exact raises_reading hE (Value.plain_invalid _ _ _)

omit hE in
theorem raises_workingImage : Resolver.Raises E workingImage :=
  fun _ _ _ => Ends.get_bind fun _ => Raises.pure _

theorem raises_imageFromFile : Resolver.Raises E imageFromFile := by
  intro scene h params
  refine h.reading hE (Value.plain_readString _) params "src" fun path => ?_
  exact (raises_readImage hE path).bind fun _ => Raises.pure _

theorem raises_blankImage : Resolver.Raises E blankImage := by
  intro scene h params
  refine h.reading hE (Value.plain_readSize _) params "size" fun size => ?_
  exact (raises_newImage _).bind fun _ => Raises.pure _

/-- The one expression whose faults can be about templates: they are those of drawing them. -/
theorem raises_imageFromTemplate {setting : Setting}
    (hdraw : ∀ label, Generation.Raises E (setting.draw label)) :
    Resolver.RaisesIn E setting imageFromTemplate := by
  intro resolve h params
  refine h.reading hE (Value.plain_readString _) params "label" fun label => ?_
  exact (hdraw label).bind fun _ => Raises.pure _

theorem raises_loadFont (path : String) (size : Float32) (index : Nat) :
    Raises E (loadFont path size index) := by
  refine (raises_readFile hE path).bind fun content => ?_
  split
  · exact Raises.bind Ends.freshStamp fun _ => Raises.pure _
  · exact raises_throw hE trivial

theorem raises_font : Resolver.Raises E font := by
  intro scene h params
  refine (h.param hE params "src").bind fun path => (h.paramOr params "type" _).bind fun kind => ?_
  refine (raises_reading hE (Value.plain_readString _ _)).bind fun name => ?_
  -- What follows each of the two optional parameters, the last one first.
  extract_lets indexed sized
  have hload (size : Float32) (index : Nat) : Raises E
      (do return Value.font (← loadFont (← path.readString "src") size index)) :=
    (raises_reading hE (Value.plain_readString _ _)).bind fun path =>
      (raises_loadFont hE path size index).bind fun _ => Raises.pure _
  have hindexed (size : Float32) : Raises E (indexed size) :=
    h.paramOpt_bind params "index" ((Raises.pure _).bind (hload size)) fun v =>
      (raises_reading hE (Value.plain_readNatural _ _)).bind (hload size)
  have hsized (u : PUnit) : Raises E (sized u) :=
    h.paramOpt_bind params "size" ((Raises.pure _).bind hindexed) fun v =>
      (raises_reading hE (Value.plain_readNumber _ _)).bind fun x => (Raises.pure _).bind hindexed
  split
  · exact Raises.bind (raises_throw hE trivial) hsized
  · exact hsized ()

theorem raises_textLength : Resolver.Raises E textLength := by
  intro scene h params
  refine (h.param hE params "text").bind fun text => ?_
  refine h.reading hE (Value.plain_readFont _) params "font" fun font => ?_
  exact (raises_reading hE (Value.plain_readString _ _)).bind fun _ => Raises.pure _

theorem raises_textStyle {scene : Scene} (h : Scene.Raises E scene) (params : Mapping) :
    Raises E (textStyle scene params) := by
  rw [textStyle]
  extract_lets finish stroke anchor align
  have hstroke (style : TextStyle) : Raises E (stroke () style) :=
    h.paramOpt_bind params "stroke_width" (Raises.pure _) fun v =>
      (raises_reading hE (Value.plain_readNatural _ _)).bind fun _ => Raises.pure _
  have hanchor (style : TextStyle) : Raises E (anchor () style) :=
    h.paramOpt_bind params "anchor" (hstroke _) fun v =>
      (raises_reading hE (Value.plain_readString _ _)).bind fun code =>
        (raises_reading hE (Anchor.plain_parse code)).bind fun _ => hstroke _
  have halign (style : TextStyle) : Raises E (align () style) :=
    h.paramOpt_bind params "align" (hanchor _) fun v =>
      (raises_reading hE (Value.plain_readString _ _)).bind fun name =>
        (raises_reading hE (TextAlign.plain_parse name)).bind fun _ => hanchor _
  exact h.paramOpt_bind params "spacing" (halign _) fun v =>
    (raises_reading hE (Value.plain_readNumber _ _)).bind fun _ => halign _

theorem raises_textBox : Resolver.Raises E textBox := by
  intro scene h params
  refine (h.param hE params "text").bind fun text => (h.param hE params "font").bind fun font => ?_
  extract_lets box
  have hbox (position : Float × Float) : Raises E (box position) :=
    (raises_textStyle hE h params).bind fun style =>
      (raises_reading hE (Value.plain_readFont _ _)).bind fun font =>
        (raises_reading hE (Value.plain_readString _ _)).bind fun text => Raises.pure _
  exact h.paramOpt_bind params "position" ((Raises.pure _).bind hbox) fun v =>
    (raises_reading hE (Value.plain_readPoint _ _)).bind hbox

/-- Every standard expression but the one that has templates drawn. -/
theorem standard_raises :
    ∀ e ∈ standard.resolvers, e.1 = "image_from_template" ∨ Resolver.Raises E e.2 := by
  simp only [standard, List.forall_mem_cons, List.not_mem_nil, false_imp_iff, implies_true,
    and_true]
  exact ⟨.inr raises_self, .inr raises_parent, .inr raises_config, .inr (raises_cached hE),
    .inr (raises_calculation hE), .inr (raises_seeded hE), .inr (raises_mapped hE),
    .inr (raises_cardDimension hE), .inr raises_workingImage, .inr (raises_imageFromFile hE),
    .inr (raises_blankImage hE), .inl trivial, .inr (raises_font hE),
    .inr (raises_textLength hE), .inr (raises_textBox hE)⟩

end Expression

/-! ## Steps -/

namespace Step

theorem raises_manipulate {scene : Scene} (h : Scene.Raises E scene) (params : Mapping)
    (layer : Canvas) : Raises E (manipulate scene params layer) := by
  refine Raises.foldlM (fun layer e he => ?_) layer
  exact h.paramOpt_bind params e.1 (Raises.pure _) fun v =>
    raises_reading hE (plain_manipulations e he v layer)

omit hE in
theorem raises_place {scene : Scene} (h : Scene.Raises E scene) (params : Mapping)
    (position : Float × Float) (layer : Canvas) (canvas : Image) :
    Raises E (place scene params position layer canvas) :=
  (h.flag params "is_position_centre" false).bind fun _ => raises_newImage _

theorem raises_pasteImage : StepHandler.Raises E pasteImage := by
  intro scene h params canvas
  refine h.reading hE (Value.plain_readImage _) params "image" fun image => ?_
  refine (raises_manipulate hE h params _).bind fun layer => ?_
  refine h.reading hE (Value.plain_readPoint _) params "position" fun position => ?_
  exact (raises_place h params _ _ _).bind fun _ => Raises.pure _

theorem raises_writeText : StepHandler.Raises E writeText := by
  intro scene h params canvas
  refine h.reading hE (Value.plain_readPoint _) params "position" fun position => ?_
  refine (h.param hE params "text").bind fun text => ?_
  refine h.reading hE Rgba.plain_ofValue params "fill" fun fill => ?_
  refine (h.param hE params "font").bind fun font => ?_
  extract_lets draw
  have hdraw (strokeFill : Rgba) : Raises E (draw strokeFill) := by
    refine (Expression.raises_textStyle hE h params).bind fun style => ?_
    refine (raises_reading hE (Value.plain_readFont _ _)).bind fun font => ?_
    refine (raises_reading hE (Value.plain_readString _ _)).bind fun text => ?_
    refine (raises_manipulate hE h params _).bind fun layer => ?_
    exact (raises_place h params _ _ _).bind fun _ => Raises.pure _
  exact h.paramOpt_bind params "stroke_fill" ((Raises.pure _).bind hdraw) fun v =>
    (raises_reading hE (Rgba.plain_ofValue v)).bind hdraw

theorem raises_directory {scene : Scene} (h : Scene.Raises E scene) (params : Mapping) :
    Raises E (directory scene params) :=
  h.paramOpt_bind params "path" (Raises.pure _) fun _ =>
    raises_reading hE (Value.plain_readString _ _)

theorem raises_fileName {scene : Scene} (h : Scene.Raises E scene) (params : Mapping) :
    Raises E (fileName scene params) := by
  rw [fileName]
  extract_lets finish
  have hfinish (name : String) : Raises E (finish name) :=
    (h.paramOr params "extension" _).bind fun v =>
      (raises_reading hE (Value.plain_readString _ _)).bind fun _ => Raises.pure _
  exact h.paramOpt_bind params "filename" ((Raises.pure _).bind hfinish) fun v =>
    (Raises.pure _).bind hfinish

theorem raises_save : StepHandler.Raises E save := by
  intro scene h params canvas
  rw [save]
  refine (raises_directory hE h params).bind fun directory => ?_
  refine (raises_fileName hE h params).bind fun name => (raises_updateFiles hE _).bind fun _ => ?_
  extract_lets finish
  have hfinish (u : Unit) : Raises E (finish u) := (raises_info _ _).bind fun _ => Raises.pure _
  refine h.paramOpt_bind params "data" ((raises_writeImage hE _ _).bind hfinish) fun v => ?_
  cases v with
  | image image => exact (raises_writeImage hE _ _).bind hfinish
  | string text => exact (raises_updateFiles hE _).bind hfinish
  | null | bool | number | font | sequence | mapping =>
    exact Raises.bind (raises_throw hE trivial) hfinish

theorem raises_read {scene : Scene} (h : Scene.Raises E scene) (params : Mapping) :
    Raises E (CacheWriting.read scene params) := by
  refine (h.paramOr params "mode" _).bind fun v => ?_
  refine (raises_reading hE (Value.plain_readString _ _)).bind fun name => ?_
  refine (raises_reading hE (WriteMode.plain_parse name)).bind fun mode => ?_
  refine (h.flag params "is_lazy" _).bind fun isLazy => ?_
  exact (h.flag params "is_global" _).bind fun isGlobal =>
    (h.shouldLog params).bind fun isLogged => Raises.pure _

theorem raises_cacheEntries {scene : Scene} (h : Scene.Raises E scene) (params : Mapping) :
    Raises E (cacheEntries scene params) := by
  rw [cacheEntries]
  have hsingle : Raises E
      (do return [(← Expression.cacheKey (← scene.param params "key"),
        ← rawParam params "value")]) :=
    h.reading hE Expression.plain_cacheKey params "key" fun key =>
      (raises_reading hE (plain_rawParam _ _)).bind fun _ => Raises.pure _
  have hentries (entries : Value) : Raises E
      (do return (← entries.readMapping "entries").entries) :=
    (raises_reading hE (Value.plain_readMapping _ _)).bind fun _ => Raises.pure _
  split
  · exact hsingle
  · exact hsingle
  · split
    · exact Raises.bind (raises_throw hE trivial) fun _ => hentries _
    · exact hentries _

omit hE in
theorem raises_skip (w : CacheWriting) (key reason : String) : Raises E (w.skip key reason) := by
  rw [CacheWriting.skip]
  split
  · exact raises_info _ _
  · exact Raises.pure _

theorem raises_admits (w : CacheWriting) (key : String) : Raises E (w.admits key) := by
  have hskip (reason : String) : Raises E (do w.skip key reason; return false) :=
    (raises_skip w key reason).bind fun _ => Raises.pure _
  refine Ends.get_bind fun s => ?_
  refine (raises_reading hE (WriteMode.plain_admits _ _ _ _)).bind fun here => ?_
  split
  · split
    · refine Ends.get_bind fun s => ?_
      refine (raises_reading hE (WriteMode.plain_admits _ _ _ _)).bind fun everywhere => ?_
      split
      · exact Raises.pure _
      · exact hskip _
    · exact Raises.pure _
  · exact hskip _

omit hE in
theorem raises_bind (w : CacheWriting) (key : String) (v : Value) : Raises E (w.bind key v) := by
  have hbound : Raises E (do
      if w.isGlobal then
        modifyRun fun r => { r with globalCache := r.globalCache.insert key v }
      modifyDraft fun d => { d with cache := d.cache.insert key v }) := by
    split
    · exact Raises.bind (Ends.of_modify _) fun _ => Ends.of_modify _
    · exact Ends.of_modify _
  rw [CacheWriting.bind]
  split
  · exact (raises_info _ _).bind fun _ => hbound
  · exact hbound

theorem raises_writeEntry (w : CacheWriting) {scene : Scene} (h : Scene.Raises E scene)
    (key : String) (v : Value) : Raises E (w.writeEntry scene key v) := by
  refine (raises_admits hE w key).bind fun admitted => ?_
  split
  · split
    · exact (Raises.pure v).bind (raises_bind w key)
    · exact (h v).bind (raises_bind w key)
  · exact Raises.pure _

theorem raises_writeEntries (w : CacheWriting) {scene : Scene} (h : Scene.Raises E scene)
    (entries : List (String × Value)) : Raises E (w.writeEntries scene entries) := by
  induction entries with
  | nil => exact Raises.pure _
  | cons e rest ih => exact (raises_writeEntry hE w h e.1 e.2).bind fun _ => ih

theorem raises_writeToCache : StepHandler.Raises E writeToCache := by
  intro scene h params canvas
  refine (raises_read hE h params).bind fun w => ?_
  refine (raises_cacheEntries hE h params).bind fun entries => ?_
  exact (raises_writeEntries hE w h entries).bind fun _ => Raises.pure _

theorem standard_raises : ∀ e ∈ standard.steps, StepHandler.Raises E e.2 := by
  simp only [standard, List.forall_mem_cons, List.not_mem_nil, false_imp_iff, implies_true,
    and_true]
  exact ⟨raises_writeToCache hE, raises_pasteImage hE, raises_writeText hE, raises_save hE,
    fun _ _ _ _ => Raises.pure _, fun _ _ _ _ => Raises.pure _⟩

end Step

/-! ## Resolving and running steps -/

namespace Generation

variable {resolvers : Registry Resolver} {handlers : Registry StepHandler} {setting : Setting}
  (hr : ∀ tag resolver, resolvers.get? tag = some resolver → resolver.RaisesIn E setting)

include hr

theorem raises_unwrap {resolve : Value → Generation Value}
    (h : Scene.Raises E ⟨setting, resolve⟩) (chain : Nat) (v : Value) :
    Raises E (unwrap resolvers ⟨setting, resolve⟩ chain v) := by
  induction chain generalizing v with
  | zero =>
    cases v with
    | mapping params =>
      rw [unwrap_mapping]
      refine (raises_reading hE (Value.plain_deferredKind _)).bind fun kind? => ?_
      cases kind? with
      | none => exact Raises.pure _
      | some kind => exact raises_throw hE trivial
    | null | bool | number | string | sequence | image | font => exact Raises.pure _
  | succ chain ih =>
    cases v with
    | mapping params =>
      rw [unwrap_mapping]
      refine (raises_reading hE (Value.plain_deferredKind _)).bind fun kind? => ?_
      cases kind? with
      | none => exact Raises.pure _
      | some kind =>
        dsimp only
        split
        · exact raises_throw hE trivial
        · next resolver hk => exact (hr kind resolver hk resolve h params).bind ih
    | null | bool | number | string | sequence | image | font => exact Raises.pure _

theorem raises_resolve (depth : Nat) (v : Value) :
    Raises E (resolve resolvers setting depth v) := by
  induction depth generalizing v with
  | zero =>
    rw [resolve]
    exact raises_throw hE trivial
  | succ depth ih =>
    rw [resolve_succ]
    refine (raises_unwrap hE hr ih _ v).bind fun v => ?_
    cases v with
    | sequence items => exact (Raises.mapM fun v _ => ih v).bind fun _ => Raises.pure _
    | mapping fields => exact (Raises.dictMapM ih fields).bind fun _ => Raises.pure _
    | null | bool | number | string | image | font => exact Raises.pure _

omit hr

theorem raises_inStep {α : Type} {x : Generation α} (h : Raises E x) (face : CardFace)
    (index : Nat) (kind : String) : Raises E (inStep face index kind x) :=
  h.mapFault fun _ => hE.inStep

theorem raises_orderSteps {scene : Scene} (h : Scene.Raises E scene) :
    Raises E (orderSteps scene) := by
  have hpriority (s : PlacedStep) : Raises E (priority scene s) := by
    rw [priority]
    split
    · exact raises_inStep hE (h _) _ _ _
    · exact Raises.pure _
  refine (Raises.mapM fun s _ => hpriority s).bind fun priorities => ?_
  split
  · exact Raises.bind (Ends.of_modify _) fun _ => Raises.pure _
  · exact Raises.pure _

variable (hs : ∀ tag handler, handlers.get? tag = some handler → StepHandler.Raises E handler)

include hs

theorem raises_runStep {scene : Scene} (h : Scene.Raises E scene) (s : PlacedStep)
    (canvas : Image) : Raises E (runStep handlers scene s canvas) := by
  rw [runStep]
  refine (raises_inStep hE (raises_reading hE (Value.plain_readMapping _ _)) _ _ _).bind
    fun params => ?_
  have hkind : Raises E (do (← scene.param params typeKey).readString typeKey) :=
    (h.param hE params typeKey).bind fun v => raises_reading hE (Value.plain_readString _ v)
  refine (raises_inStep hE hkind _ _ _).bind fun kind => raises_inStep hE ?_ _ _ _
  refine (h.flag params conditionKey true).bind fun runs => ?_
  split
  · split
    · exact raises_throw hE trivial
    · next handler hk =>
      refine Raises.bind (Ends.of_modify _) fun _ => ?_
      exact (hs kind handler hk scene h params canvas).bind fun _ => Raises.pure _
  · exact Raises.pure _

theorem raises_runSteps {scene : Scene} (h : Scene.Raises E scene) (steps : List PlacedStep)
    (canvas : Image) : Raises E (runSteps handlers scene steps canvas) := by
  induction steps generalizing canvas with
  | nil => exact Raises.pure _
  | cons s rest ih =>
    rw [runSteps]
    refine (raises_runStep hE hs h s canvas).bind fun flow? => ?_
    match flow? with
    | none => exact ih canvas
    | some (.go next) => exact ih next
    | some (.stop last) => exact (raises_info _ _).bind fun _ => Raises.pure _
    | some .cancel => exact (raises_info _ _).bind fun _ => Raises.pure _

theorem raises_drawSteps {scene : Scene} (h : Scene.Raises E scene) (size : Size) :
    Raises E (drawSteps handlers scene size) := by
  rw [drawSteps]
  refine (raises_info _ _).bind fun _ => (raises_newImage _).bind fun canvas => ?_
  refine (raises_orderSteps hE h).bind fun steps => ?_
  refine (raises_runSteps hE hs h steps canvas).bind fun image? => ?_
  cases image? with
  | none => exact Raises.pure _
  | some image => exact (raises_info _ _).bind fun _ => Raises.pure _

end Generation

end CardPress
