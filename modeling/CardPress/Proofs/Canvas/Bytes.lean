import CardPress.Proofs.Card.Definition
import CardPress.Proofs.Composition.Size
import CardPress.Proofs.Deck.Registration
import CardPress.Proofs.Generation.Copies
import CardPress.Proofs.Step.CanvasSize
import CardPress.Proofs.Value.Naturals

/-!
# The bytes of a canvas

The sizes of canvases come from definitions, where templates hand them on, from expressions for
blank images, and from steps that scale a layer or resize it. Each way keeps both sides below
`2 ^ 32`, and none of them bounds the area: the largest canvas of each has both sides one below
that, and its bytes cannot be counted with 64 bits.

## Main definitions

* `Canvas.byteCount` — four bytes for each pixel.
* `SizeSource.Makes` — the canvases whose sizes come from one of the sources.

## Main results

* `TemplatePool.Sized.declared` — an inherited size is declared somewhere.
* `Fitting.dimension_lt` — a length in whole pixels has 32 bits.
* `SizeSource.byteCount_of_makes` — how many bytes canvases from a source have.
-/

namespace CardPress

/-- The bytes of the pixels: one for each of red, green, blue and opacity. -/
def Canvas.byteCount (c : Canvas) : ℕ :=
  4 * c.pixels.size

theorem Canvas.byteCount_eq (c : Canvas) : c.byteCount = 4 * (c.size.width * c.size.height) :=
  congrArg (4 * ·) c.size_eq

/-- Both sides have 32 bits. -/
structure Size.Fits (size : Size) : Prop where
  width : size.width < 2 ^ 32
  height : size.height < 2 ^ 32

/-! ## Definitions -/

/-- The size of a face is one that it declares itself, or one that a face of the pool declares. -/
theorem TemplatePool.Sized.declared {pool : TemplatePool} {face : CardFace} {size? : Option Size}
    (h : pool.Sized face size?) {size : Size} (hsize : size? = some size) :
    face.size = some size ∨ ∃ label t, pool.lookup label = some t ∧ t.size = some size := by
  -- By induction over the recursion for sizes: a size that is handed on is that of a listed
  -- template.
  induction h with
  | @intro face sizes registered templates ih =>
    rcases Option.or_eq_some_iff.1 hsize with hown | ⟨-, hlast⟩
    · exact .inl hown
    · obtain ⟨label, hlabel, hinherited⟩ := List.mem_filterMap.1 (List.mem_of_getLast? hlast)
      obtain ⟨t, ht⟩ := Option.isSome_iff_exists.1 (registered label hlabel)
      obtain hdeclared | hdeclared := ih label hlabel t ht hinherited
      · exact .inr ⟨label, t, ht, hdeclared⟩
      · exact .inr hdeclared

/-- A size that a face of a deck declares has been read with its definition. -/
theorem Deck.fits_of_mem_faces {text : String} {deck : Deck} (hparse : Deck.parse text = .ok deck)
    {face : CardFace} (hface : face ∈ deck.faces) {size : Size} (hsize : face.size = some size) :
    size.Fits := by
  obtain ⟨⟨definition, i⟩, hmem, rfl⟩ := List.mem_map.1 hface
  have hloaded := CardDefinition.loaded_of_parse hparse (List.fst_mem_of_mem_zipIdx hmem)
  obtain ⟨hwidth, hheight⟩ := hloaded.size size hsize
  exact ⟨hwidth, hheight⟩

/-- The size of a composition has 32 bits for each side. -/
theorem Deck.fits_of_compose {text : String} {deck : Deck} {pool : TemplatePool} {face : CardFace}
    {composition : Composition} (hparse : Deck.parse text = .ok deck) (hpool : deck.pool = .ok pool)
    (hface : face ∈ deck.faces) (hcompose : pool.compose face = .ok composition) {size : Size}
    (hsize : composition.size = some size) : size.Fits := by
  obtain hown | ⟨label, t, ht, hinherited⟩ :=
    (TemplatePool.sized_of_compose hcompose).declared hsize
  · exact fits_of_mem_faces hparse hface hown
  · exact fits_of_mem_faces hparse ((lookup_pool hpool label t).1 ht).1 hinherited

/-! ## Blank images -/

namespace Generation

variable {s t : State} {image : Image}

theorem newImage_apply (canvas : Canvas) (s : State) :
    newImage canvas s =
      .ok ⟨s.run.nextStamp, canvas⟩ { s with run.nextStamp := s.run.nextStamp + 1 } := rfl

/-- Drawing a face begins with a canvas of the size asked for. -/
theorem size_of_blankImage {face : CardFace} {size : Size}
    (h : blankImage face size s = .ok image t) : image.canvas.size = size := by
  obtain ⟨_, u, -, h⟩ := bind_ok_iff.1 h
  cases (newImage_apply _ u).symm.trans h
  rfl

end Generation

namespace Expression

open Generation

variable {scene : Scene} {params : Mapping} {s t : State} {image : Image}

theorem fits_of_blankImage (h : blankImage scene params s = .ok (.image image) t) :
    image.canvas.size.Fits := by
  obtain ⟨v, u, -, h⟩ := bind_ok_iff.1 h
  obtain ⟨⟨width, height⟩, u', hread, h⟩ := bind_ok_iff.1 h
  obtain ⟨made, u'', hmade, h⟩ := bind_ok_iff.1 h
  cases (newImage_apply _ u').symm.trans hmade
  cases (pure_ok_iff.1 h).1
  obtain ⟨hwidth, hheight⟩ := Value.lt_of_readSize (ofExcept_ok_iff.1 hread).1
  exact ⟨hwidth, hheight⟩

/-- The parameters that ask for a blank image of some size. -/
def blankParams (size : Size) : Mapping :=
  .ofList [(Value.deferredKey, .string "blank_image"),
    ("size", .sequence [.ofNat size.width, .ofNat size.height])]

/-- With two levels to go, every size of 32 bits can be asked for. -/
theorem exists_blankImage (press : Press) (scope : Scope) (parents : Lineage) (depth : ℕ)
    {size : Size} (h : size.Fits) (s : State) :
    ∃ image t,
      blankImage (press.sceneAt scope parents (depth + 2)) (blankParams size) s =
        .ok (.image image) t ∧
      image.canvas.size = size := by
  have hresolved : Resolved (depth + 2) (.sequence [.ofNat size.width, .ofNat size.height]) := by
    refine .sequence fun item hitem => ?_
    simp only [List.mem_cons, List.not_mem_nil, or_false] at hitem
    obtain rfl | rfl := hitem <;> exact .leaf (by simp [Value.ofNat]) (by simp [Value.ofNat])
  have hparam : (press.sceneAt scope parents (depth + 2)).param (blankParams size) "size" s =
      .ok _ s :=
    Scene.param_of_get? rfl (hresolved.resolve_eq _)
  have hread := ofExcept_ok_iff.2
    (And.intro (Value.readSize_ofNat "size" h.width h.height) (Eq.refl s))
  refine ⟨⟨s.run.nextStamp, .blank size.width size.height⟩,
    { s with run.nextStamp := s.run.nextStamp + 1 }, ?_, rfl⟩
  rw [blankImage, bind_of_ok _ hparam, bind_of_ok _ hread]
  exact bind_of_ok _ (newImage_apply _ s)

end Expression

/-! ## Fitted layers -/

theorem Fitting.dimension_lt (x : Float) : dimension x < 2 ^ 32 := by
  have hclamped : Double.clampToInt 0 Value.greatestNatural (Double.roundEven x) < 2 ^ 32 := by
    rw [Double.clampToInt, Value.greatestNatural, Nat.pow_eq]
    split
    · omega
    · split_ifs <;> omega
  rw [dimension]
  omega

/-- Fitting a layer gives it the size that the rule makes of the axes. -/
theorem Step.fit_of_axes {parameter : String} {rule : Axis × Axis → ℕ → ℕ → ℕ × ℕ} {v : Value}
    {axes : Axis × Axis} (haxes : Axis.readPair parameter v = .ok (some axes)) (layer : Canvas) :
    ∃ made, fit parameter rule v layer = .ok made ∧
      made.size =
        ⟨(rule axes layer.width layer.height).1, (rule axes layer.width layer.height).2⟩ := by
  refine ⟨layer.resize (rule axes layer.width layer.height).1
    (rule axes layer.width layer.height).2, ?_, ?_⟩
  · rw [fit, haxes]
    rfl
  · simp [Canvas.size]

/-! ## All sources -/

/-- What names the size of a canvas that is made. -/
inductive SizeSource where
  | definition
  | blankImage
  | scale
  | resizeTo

namespace SizeSource

/-- The canvas is made because the source names its size: drawing a face begins with it, the
expression for blank images returns it, or a step gives this size to a layer. -/
inductive Makes : SizeSource → Canvas → Prop where
  | definition {text : String} {deck : Deck} {pool : TemplatePool} {face : CardFace}
      {composition : Composition} {size : Size} {s t : Generation.State} {image : Image}
      (hparse : Deck.parse text = .ok deck) (hpool : deck.pool = .ok pool)
      (hface : face ∈ deck.faces)
      (hcompose : pool.compose face = .ok composition) (hsize : composition.size = some size)
      (hmade : Generation.blankImage face size s = .ok image t) : Makes .definition image.canvas
  | blankImage {press : Press} {scope : Scope} {parents : Lineage} {depth : ℕ} {params : Mapping}
      {s t : Generation.State} {image : Image}
      (hcapabilities : Capabilities.standard = .ok press.capabilities)
      (hdepth : depth < press.config.maxDepth)
      (hmade : Expression.blankImage (press.sceneAt scope parents depth) params s =
        .ok (.image image) t) : Makes .blankImage image.canvas
  | scale {v : Value} {axes : Axis × Axis} {layer made : Canvas}
      (haxes : Axis.readPair "scale" v = .ok (some axes))
      (hmade : Step.fit "scale" Fitting.scaled v layer = .ok made) : Makes .scale made
  | resizeTo {v : Value} {axes : Axis × Axis} {layer made : Canvas}
      (haxes : Axis.readPair "resize_to" v = .ok (some axes))
      (hmade : Step.fit "resize_to" Fitting.resized v layer = .ok made) : Makes .resizeTo made

/-- Whatever names the size, both sides have 32 bits. -/
theorem Makes.fits {source : SizeSource} {canvas : Canvas} (h : source.Makes canvas) :
    canvas.size.Fits := by
  cases h with
  | definition hparse hpool hface hcompose hsize hmade =>
    rw [Generation.size_of_blankImage hmade]
    exact Deck.fits_of_compose hparse hpool hface hcompose hsize
  | blankImage _ _ hmade => exact Expression.fits_of_blankImage hmade
  | scale haxes hmade | resizeTo haxes hmade =>
    obtain ⟨_, hfit, hsize⟩ := Step.fit_of_axes haxes _
    cases hfit.symm.trans hmade
    rw [hsize]
    exact ⟨Fitting.dimension_lt _, Fitting.dimension_lt _⟩

/-! ### The largest size -/

/-- The largest size with 32 bits for each side. -/
def largest : Size := ⟨4294967295, 4294967295⟩

theorem fits_largest : largest.Fits where
  width := by decide
  height := by decide

/-- One face without anything but that size. -/
def largestText : String :=
  "[\x7b\"size\": [4294967295, 4294967295]\x7d]"

def largestDeck : Deck :=
  ⟨[{ CardDefinition.empty with size := some largest }]⟩

theorem parse_largestText : Deck.parse largestText = .ok largestDeck := rfl

/-- As amounts for both axes, the same two numbers. -/
def largestAmounts : Value :=
  .sequence [.ofNat 4294967295, .ofNat 4294967295]

def largestAxes : Axis × Axis :=
  (.amount (Double.ofInt 4294967295), .amount (Double.ofInt 4294967295))

/-- Each source can name the largest size. -/
theorem exists_makes_largest (source : SizeSource) :
    ∃ canvas, source.Makes canvas ∧ canvas.size = largest := by
  -- The canvas itself is never computed: only its size matters, and that is read off what made it.
  cases source with
  | definition =>
    let face := CardDefinition.face { CardDefinition.empty with size := some largest } 0
    obtain ⟨image, t, hmade⟩ :=
      Generation.blankImage_ok face largest ⟨.start .empty ∅, ⟨∅, none, 0⟩, []⟩
    have hface : face ∈ largestDeck.faces := List.mem_singleton_self face
    have hcompose : TemplatePool.empty.compose face = .ok ⟨[], [], some largest⟩ := by cbv
    exact ⟨image.canvas, .definition parse_largestText rfl hface hcompose rfl hmade,
      Generation.size_of_blankImage hmade⟩
  | blankImage =>
    obtain ⟨image, t, hmade, hsize⟩ := Expression.exists_blankImage (.ofPool .empty)
      ⟨.empty 0, ⟨[], [], none⟩⟩ [] 125 fits_largest ⟨.start .empty ∅, ⟨∅, none, 0⟩, []⟩
    exact ⟨image.canvas, .blankImage Capabilities.standard_eq_table (by decide) hmade, hsize⟩
  | scale =>
    have haxes : Axis.readPair "scale" largestAmounts = .ok (some largestAxes) := rfl
    have hscaled : Fitting.scaled largestAxes 1 1 = (4294967295, 4294967295) := by decide +kernel
    obtain ⟨made, hfit, hsize⟩ := Step.fit_of_axes haxes (.blank 1 1)
    exact ⟨made, .scale haxes hfit, hsize.trans (congrArg (fun p => Size.mk p.1 p.2) hscaled)⟩
  | resizeTo =>
    have haxes : Axis.readPair "resize_to" largestAmounts = .ok (some largestAxes) := rfl
    have hresized : Fitting.resized largestAxes 1 1 = (4294967295, 4294967295) := by decide +kernel
    obtain ⟨made, hfit, hsize⟩ := Step.fit_of_axes haxes (.blank 1 1)
    exact ⟨made, .resizeTo haxes hfit, hsize.trans (congrArg (fun p => Size.mk p.1 p.2) hresized)⟩

/-! ### All sizes -/

/-- Canvases from any of the sources have sides of 32 bits, and their bytes can be counted with 64
bits exactly if there are fewer than `2 ^ 62` pixels. No source sees to that: each goes as far as
both sides do. -/
theorem byteCount_of_makes (source : SizeSource) :
    (∀ canvas, source.Makes canvas → canvas.size.Fits ∧
      canvas.byteCount = 4 * (canvas.width * canvas.height) ∧
      (canvas.byteCount < 2 ^ 64 ↔ canvas.width * canvas.height < 2 ^ 62)) ∧
    IsGreatest (Canvas.byteCount '' {canvas | source.Makes canvas}) (4 * (2 ^ 32 - 1) ^ 2) := by
  refine ⟨fun canvas hmakes => ⟨hmakes.fits, canvas.byteCount_eq, ?_⟩, ?_, ?_⟩
  · rw [canvas.byteCount_eq]
    show 4 * (canvas.width * canvas.height) < 2 ^ 64 ↔ _
    omega
  · obtain ⟨canvas, hmakes, hsize⟩ := exists_makes_largest source
    refine ⟨canvas, hmakes, ?_⟩
    rw [canvas.byteCount_eq, hsize]
    rfl
  · rintro _ ⟨canvas, hmakes, rfl⟩
    obtain ⟨hwidth, hheight⟩ := hmakes.fits
    rw [canvas.byteCount_eq, sq]
    exact Nat.mul_le_mul_left 4
      (Nat.mul_le_mul (Nat.le_pred_of_lt hwidth) (Nat.le_pred_of_lt hheight))

/-- The definitions are accepted, and 64 bits are not enough for the canvas that drawing the face
begins with. -/
theorem byteCount_of_makes_largest :
    Deck.parse "[\x7b\"size\": [4294967295, 4294967295]\x7d]" =
      .ok ⟨[⟨none, some ⟨4294967295, 4294967295⟩, [], none, [], false, false⟩]⟩ ∧
    ∃ canvas, SizeSource.definition.Makes canvas ∧ canvas.size = ⟨4294967295, 4294967295⟩ ∧
      canvas.byteCount = 73786976260478468100 ∧ ¬ canvas.byteCount < 2 ^ 64 := by
  obtain ⟨canvas, hmakes, hsize⟩ := exists_makes_largest .definition
  have hcount : canvas.byteCount = 73786976260478468100 := by
    rw [canvas.byteCount_eq, hsize]
    rfl
  exact ⟨parse_largestText, canvas, hmakes, hsize, hcount, by omega⟩

end SizeSource

end CardPress
