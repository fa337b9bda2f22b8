import CardPress.Proofs.Generation.Resolved
import CardPress.Proofs.Number.Machine
import CardPress.Proofs.Step.CanvasSize
import CardPress.Proofs.Value.Naturals
import CardPress.Step.Layer

/-!
# Strokes around text

A stroke may be as wide as any natural number of 32 bits says. Measuring takes the width as it is;
drawing takes it as a number with sign, and squares it. So the two agree only as long as the width
has a place among the numbers with sign, and drawing computes with exact numbers only as long as the
squares have one.

## Main definitions

* `Font.extent` — what a text takes up with its stroke.
* `Font.Reached` — the points at which the blocks of a stroke are drawn.
* `Font.BlockFits` — all lines of a block have a place.

## Main results

* `Expression.ends_textStyle` — which widths are accepted.
* `Font.exists_strokeOrigins`, `Font.strokeOrigins_of_lt`, `Font.strokeOrigins_of_neg` — where the
  blocks of a stroke are drawn, from which radius on a number has no place, and what becomes of
  negative ones.
* `Font.strokeRadius_eq_iff` — the widths that drawing takes as they are.
* `Font.isSome_renderWith_iff` — when all numbers of a drawing have a place.
* `Font.stroke_exact` — the widths for which drawing is exact, and what it shares with measuring.
-/

namespace CardPress

open Generation

/-- The width of the stroke has 32 bits. -/
def TextStyle.StrokeFits (style : TextStyle) : Prop :=
  style.strokeWidth < 2 ^ 32

/-- Whatever the other options are, the stroke is as wide as a natural number that was read. -/
theorem Expression.ends_textStyle (scene : Scene) (params : Mapping) :
    Ends TextStyle.StrokeFits (fun _ => True) (Expression.textStyle scene params) := by
  rw [Expression.textStyle]
  extract_lets finish stroke anchor align
  have hstroke (style : TextStyle) (h : style.StrokeFits) :
      Ends TextStyle.StrokeFits (fun _ => True) (stroke () style) := by
    refine Ends.after fun v? => ?_
    cases v? with
    | none => exact Ends.pure h
    | some v =>
      refine (Ends.ofExcept fun _ _ => trivial).bind fun width hwidth => ?_
      exact Ends.pure (Value.lt_of_readNatural hwidth)
  have hanchor (style : TextStyle) (h : style.StrokeFits) :
      Ends TextStyle.StrokeFits (fun _ => True) (anchor () style) := by
    refine Ends.after fun v? => ?_
    cases v? with
    | none => exact hstroke style h
    | some v => exact Ends.after fun name => Ends.after fun anchor => hstroke _ h
  have halign (style : TextStyle) (h : style.StrokeFits) :
      Ends TextStyle.StrokeFits (fun _ => True) (align () style) := by
    refine Ends.after fun v? => ?_
    cases v? with
    | none => exact hanchor style h
    | some v => exact Ends.after fun name => Ends.after fun align => hanchor _ h
  have hstandard : TextStyle.standard.StrokeFits := Nat.two_pow_pos 32
  refine Ends.after fun v? => ?_
  cases v? with
  | none => exact halign _ hstandard
  | some v => exact Ends.after fun spacing => halign _ hstandard

namespace Font

open Machine

/-! ## Blocks of a stroke -/

theorem mem_shifts_iff {least greatest dx dy : ℤ} :
    (dx, dy) ∈ shifts least greatest ↔
      dx ∈ Set.Icc least greatest ∧ dy ∈ Set.Icc least greatest := by
  have hside (d : ℤ) :
      d ∈ (List.range (greatest + 1 - least).toNat).map (fun (i : ℕ) => least + i) ↔
        d ∈ Set.Icc least greatest := by
    rw [List.mem_map, Set.mem_Icc]
    constructor
    · rintro ⟨i, hi, rfl⟩
      rw [List.mem_range] at hi
      omega
    · intro h
      exact ⟨(d - least).toNat, List.mem_range.2 (by omega), by omega⟩
  rw [shifts, List.mem_flatMap]
  constructor
  · rintro ⟨y, hy, hxy⟩
    obtain ⟨x, hx, heq⟩ := List.mem_map.1 hxy
    cases heq
    exact ⟨(hside dx).1 hx, (hside dy).1 hy⟩
  · rintro ⟨hx, hy⟩
    exact ⟨dy, (hside dy).2 hy, List.mem_map.2 ⟨dx, (hside dx).2 hx, rfl⟩⟩

/-- The shifts that a stroke of a radius is drawn with. -/
def Reached (radius : ℤ) (shift : ℤ × ℤ) : Prop :=
  shift ≠ (0, 0) ∧ shift.1 * shift.1 + shift.2 * shift.2 ≤ radius * radius

instance (radius : ℤ) (shift : ℤ × ℤ) : Decidable (Reached radius shift) :=
  inferInstanceAs (Decidable (_ ∧ _))

variable {radius : ℤ} {shift : ℤ × ℤ}

/-- With a radius up to 32767 all squares have a place. -/
theorem strokeOrigin?_of_le (h : radius ≤ 32767) (hx : shift.1 ∈ Set.Icc (-radius) radius)
    (hy : shift.2 ∈ Set.Icc (-radius) radius) :
    strokeOrigin? (checked 32) radius shift =
      some (if Reached radius shift then some (radius + shift.1, radius + shift.2) else none) := by
  obtain ⟨dx, dy⟩ := shift
  obtain ⟨hxlow, hxhigh⟩ := hx
  obtain ⟨hylow, hyhigh⟩ := hy
  dsimp only at hxlow hxhigh hylow hyhigh ⊢
  have hsquare {d : ℤ} (hlow : -radius ≤ d) (hhigh : d ≤ radius) :
      0 ≤ d * d ∧ d * d ≤ 32767 * 32767 :=
    ⟨mul_self_nonneg d, by nlinarith⟩
  have hkeep {z : ℤ} (hlow : 0 ≤ z) (hhigh : z ≤ 2 * (32767 * 32767)) : checked 32 z = some z :=
    checked_of_fits (fits_32_iff.2 ⟨by omega, by omega⟩)
  have hxx := hsquare hxlow hxhigh
  have hyy := hsquare hylow hyhigh
  have hrr := hsquare (d := radius) (by omega) le_rfl
  have hxkeep := hkeep hxx.1 (by omega)
  have hykeep := hkeep hyy.1 (by omega)
  have hrkeep := hkeep hrr.1 (by omega)
  have hsum := hkeep (z := dx * dx + dy * dy) (by omega) (by omega)
  have hleft := hkeep (z := radius + dx) (by omega) (by omega)
  have htop := hkeep (z := radius + dy) (by omega) (by omega)
  by_cases hzero : (dx, dy) = (0, 0)
  · simp [strokeOrigin?, reaches, Reached, hzero]
  · by_cases hle : dx * dx + dy * dy ≤ radius * radius <;>
      simp [strokeOrigin?, reaches, Reached, hzero, hxkeep, hykeep, hrkeep, hsum, hleft, htop, hle]

theorem Reached.mem_Icc (hpos : 0 ≤ radius) (h : Reached radius shift) :
    shift.1 ∈ Set.Icc (-radius) radius ∧ shift.2 ∈ Set.Icc (-radius) radius := by
  have hdisc := h.2
  have hx := mul_self_nonneg shift.1
  have hy := mul_self_nonneg shift.2
  have hside {d : ℤ} (hd : d * d ≤ radius * radius) : d ∈ Set.Icc (-radius) radius := by
    have habs := abs_le_iff_mul_self_le.2 hd
    rw [abs_of_nonneg hpos] at habs
    exact abs_le.1 habs
  exact ⟨hside (by omega), hside (by omega)⟩

theorem strokeOrigins_of_le (hpos : 0 ≤ radius) (h : radius ≤ 32767) :
    strokeOrigins (checked 32) radius = some ((shifts (-radius) radius).filterMap fun shift =>
      if Reached radius shift then some (radius + shift.1, radius + shift.2) else none) := by
  have hleast : checked 32 (-radius) = some (-radius) :=
    checked_of_fits (fits_32_iff.2 ⟨by omega, by omega⟩)
  have hshifts : (shifts (-radius) radius).mapM (strokeOrigin? (checked 32) radius) =
      some ((shifts (-radius) radius).map fun shift =>
        if Reached radius shift then some (radius + shift.1, radius + shift.2) else none) := by
    refine mapM_of_forall_some fun shift hshift => ?_
    obtain ⟨hx, hy⟩ := mem_shifts_iff.1 hshift
    exact strokeOrigin?_of_le h hx hy
  simp [strokeOrigins, hleast, hshifts, List.filterMap_map]

/-- The blocks of a stroke are drawn at all points within the radius around the text but the one
where the text is. -/
theorem exists_strokeOrigins (hpos : 0 ≤ radius) (h : radius ≤ 32767) :
    ∃ origins, strokeOrigins (checked 32) radius = some origins ∧
      ∀ origin, origin ∈ origins ↔ Reached radius (origin.1 - radius, origin.2 - radius) := by
  refine ⟨_, strokeOrigins_of_le hpos h, fun ⟨x, y⟩ => ?_⟩
  rw [List.mem_filterMap]
  constructor
  · rintro ⟨⟨dx, dy⟩, -, hsome⟩
    split at hsome
    case isFalse => cases hsome
    next hreached =>
    cases hsome
    simpa using hreached
  · intro hreached
    refine ⟨(x - radius, y - radius), mem_shifts_iff.2 (hreached.mem_Icc hpos), ?_⟩
    simp [hreached]

/-- With a radius from 32768 on the square of the corner has no place. -/
theorem strokeOrigin?_corner (h : 32767 < radius) :
    strokeOrigin? (checked 32) radius (radius, radius) = none := by
  have hsum : checked 32 (radius * radius + radius * radius) = none :=
    checked_of_not_fits fun hfits => by
      have hhigh := (fits_32_iff.1 hfits).2
      nlinarith
  have hzero : (radius, radius) ≠ (0, 0) := by
    rintro ⟨⟩
    omega
  cases hsquare : checked 32 (radius * radius) with
  | none => simp [strokeOrigin?, reaches, hzero, hsquare]
  | some square =>
    obtain ⟨-, rfl⟩ := checked_eq_some_iff.1 hsquare
    simp [strokeOrigin?, reaches, hzero, hsquare, hsum]

theorem strokeOrigins_of_lt (h : 32767 < radius) : strokeOrigins (checked 32) radius = none := by
  cases hleast : checked 32 (-radius) with
  | none => simp [strokeOrigins, hleast]
  | some least =>
    obtain ⟨-, rfl⟩ := checked_eq_some_iff.1 hleast
    have hcorner : (radius, radius) ∈ shifts (-radius) radius :=
      mem_shifts_iff.2 ⟨⟨by omega, le_rfl⟩, ⟨by omega, le_rfl⟩⟩
    simp [strokeOrigins, hleast, mapM_eq_none_of_mem hcorner (strokeOrigin?_corner h)]

theorem strokeOrigins_of_neg (h : radius < 0) :
    strokeOrigins (checked 32) radius = if -2 ^ 31 < radius then some [] else none := by
  have hshifts : shifts (-radius) radius = [] := by
    have hcount : (radius + 1 - -radius).toNat = 0 := by omega
    rw [shifts, hcount]
    rfl
  split
  · next hleast =>
    have hkeep : checked 32 (-radius) = some (-radius) :=
      checked_of_fits (fits_32_iff.2 ⟨by omega, by omega⟩)
    rw [strokeOrigins, hkeep]
    simp [hshifts]
  · next hleast =>
    have hnone : checked 32 (-radius) = none := checked_of_not_fits fun hfits => by
      have hopposite := (fits_32_iff.1 hfits).2
      omega
    rw [strokeOrigins, hnone]
    rfl

/-- For the least radius, whose opposite has no place, one block is drawn without checks. -/
theorem strokeOrigins_least :
    strokeOrigins (checked 32) (-2 ^ 31) = none ∧ strokeOrigins (wrapped 32) (-2 ^ 31) = [(0, 0)] :=
  ⟨strokeOrigins_of_neg (by decide), rfl⟩

/-! ## The layer of a text -/

/-- All lines of a block have a place. -/
def BlockFits (f : Font) (text : String) (style : TextStyle) (origin : ℤ × ℤ) : Prop :=
  ∀ line ∈ f.lineOffsets text style (f.blockSize text style.spacing).1,
    Fits 32 (origin.1 + line.2.1) ∧ Fits 32 (origin.2 + line.2.2)

section

variable (f : Font) (text : String) (colour fill strokeFill : Rgba) (style : TextStyle)
  (width : Float32)

theorem confirms_drawBlock (c : Canvas) (origin : ℤ × ℤ) :
    Confirms (f.drawBlock (checked 32) text colour style width c origin)
      (f.drawBlock (wrapped 32) text colour style width c origin) :=
  .foldlM (fun _ _ => (checked_confirms_wrapped (by decide) _).bind fun _ =>
    (checked_confirms_wrapped (by decide) _).bind fun _ => .pure _) _ c

theorem confirms_strokeOrigins (radius : ℤ) :
    Confirms (strokeOrigins (checked 32) radius) (strokeOrigins (wrapped 32) radius) := by
  have hkeep (z : ℤ) : Confirms (checked 32 z) (wrapped 32 z) :=
    checked_confirms_wrapped (by decide) z
  have hreaches (shift : ℤ × ℤ) :
      Confirms (reaches (checked 32) radius shift) (reaches (wrapped 32) radius shift) := by
    unfold reaches
    split
    · exact .pure false
    · exact (hkeep _).bind fun _ => (hkeep _).bind fun _ => (hkeep _).bind fun _ =>
        (hkeep _).bind fun _ => .pure _
  refine (hkeep _).bind fun least => (Confirms.mapM (fun shift => ?_) _).bind fun _ => .pure _
  refine (hreaches shift).bind fun reached => ?_
  cases reached with
  | false => exact .pure none
  | true => exact (hkeep _).bind fun _ => (hkeep _).bind fun _ => .pure _

theorem confirms_render :
    Confirms (f.renderWith (checked 32) text fill strokeFill style)
      (f.render text fill strokeFill style) := by
  refine (confirms_strokeOrigins _).bind fun origins => ?_
  exact (Confirms.foldlM (fun c origin => confirms_drawBlock f text _ style _ c origin) _ _).bind
    fun layer => confirms_drawBlock f text _ style _ layer _

theorem isSome_drawBlock_iff (c : Canvas) (origin : ℤ × ℤ) :
    (f.drawBlock (checked 32) text colour style (f.blockSize text style.spacing).1 c origin).isSome
      ↔ f.BlockFits text style origin := by
  refine isSome_foldlM_iff (fun c line => ?_) _ c
  by_cases hx : Fits 32 (origin.1 + line.2.1) <;> by_cases hy : Fits 32 (origin.2 + line.2.2) <;>
    simp [checked, hx, hy]

/-- When all numbers of a drawing have a place. -/
theorem isSome_renderWith_iff :
    (f.renderWith (checked 32) text fill strokeFill style).isSome ↔
      ∃ origins, strokeOrigins (checked 32) (strokeRadius style) = some origins ∧
        ∀ origin ∈ (strokeRadius style, strokeRadius style) :: origins,
          f.BlockFits text style origin := by
  unfold renderWith
  extract_lets radius
  have hblock (colour : Rgba) := f.isSome_drawBlock_iff text colour style
  change _ ↔ ∃ origins, strokeOrigins (checked 32) radius = some origins ∧ _
  cases strokeOrigins (checked 32) radius with
  | none => simp
  | some origins =>
    have hstroke := isSome_foldlM_iff (hblock strokeFill) origins
    simp only [Option.some.injEq, exists_eq_left', List.forall_mem_cons]
    rw [and_comm, ← hstroke]
    exact isSome_bind_iff fun layer => hblock fill layer (radius, radius)

theorem size_foldl {α : Type} {g : Canvas → α → Canvas} (hg : ∀ c a, (g c a).size = c.size)
    (items : List α) (c : Canvas) : (items.foldl g c).size = c.size := by
  induction items generalizing c with
  | nil => rfl
  | cons a rest ih => rw [List.foldl_cons, ih, hg]

theorem size_foldlM {α : Type} {g : Canvas → α → Id Canvas} (hg : ∀ c a, (g c a).run.size = c.size)
    (items : List α) (c : Canvas) : (items.foldlM g c).run.size = c.size := by
  rw [List.idRun_foldlM]
  exact size_foldl hg items c

theorem size_drawGlyph (left top : ℤ) (c : Canvas) (g : Placed) :
    (f.drawGlyph colour left top c g).size = c.size := by
  refine Array.foldl_induction (fun _ (d : Canvas × ℕ) => d.1.size = c.size) rfl fun i d hd => ?_
  rw [← hd, Canvas.size, Canvas.width_modify, Canvas.height_modify]
  rfl

theorem size_drawBlock (keep : ℤ → Id ℤ) (c : Canvas) (origin : ℤ × ℤ) :
    (f.drawBlock keep text colour style width c origin).run.size = c.size :=
  size_foldlM (fun c _ => size_foldl (size_drawGlyph f colour _ _) _ c) _ c

/-- What a text takes up: its block and the stroke on both sides. -/
def extent : Float32 × Float32 :=
  let (width, height) := f.blockSize text style.spacing
  let around := 2 * Float32.ofNat style.strokeWidth
  (width + around, height + around)

theorem size_render :
    (f.render text fill strokeFill style).size =
      ⟨pixelCount ((f.blockSize text style.spacing).1 + 2 * Float32.ofInt (strokeRadius style)),
        pixelCount
          ((f.blockSize text style.spacing).2 + 2 * Float32.ofInt (strokeRadius style))⟩ := by
  rw [render, renderWith]
  extract_lets
  simp only [Id.run_bind]
  rw [size_drawBlock, size_foldlM]
  · rfl
  · exact fun _ _ => size_drawBlock ..

end

theorem strokeRadius_of_lt {style : TextStyle} (h : style.strokeWidth < 2 ^ 31) :
    strokeRadius style = style.strokeWidth :=
  if_pos h

theorem strokeRadius_of_le {style : TextStyle} (h : 2 ^ 31 ≤ style.strokeWidth) :
    strokeRadius style = style.strokeWidth - 2 ^ 32 :=
  if_neg (Nat.not_lt.2 h)

/-- A width from `2 ^ 31` on is taken for another number. -/
theorem strokeRadius_eq_iff {style : TextStyle} :
    strokeRadius style = style.strokeWidth ↔ style.strokeWidth < 2 ^ 31 := by
  refine ⟨fun hradius => ?_, strokeRadius_of_lt⟩
  by_contra hlarge
  have hnegative := strokeRadius_of_le (Nat.not_lt.1 hlarge)
  omega

theorem strokeRadius_least {style : TextStyle} (h : style.strokeWidth = 2 ^ 31) :
    strokeRadius style = -2 ^ 31 := by
  rw [strokeRadius_of_le h.ge, h]
  rfl

/-- From 32768 on to `2 ^ 31`, no stroke is drawn with numbers that are checked. -/
theorem strokeOrigins_strokeRadius {style : TextStyle} (hlarge : 32767 < style.strokeWidth)
    (hle : style.strokeWidth ≤ 2 ^ 31) :
    strokeOrigins (checked 32) (strokeRadius style) = none := by
  rcases hle.lt_or_eq with hlt | hleast
  · rw [strokeRadius_of_lt hlt]
    exact strokeOrigins_of_lt (by omega)
  · rw [strokeRadius_least hleast]
    exact strokeOrigins_least.1

/-- The widths for which a stroke is drawn as measured are those below `2 ^ 31`: then the layer is
as large as the box. Up to 32767 all numbers that the stroke is computed with have a place, and with
them the blocks are drawn at the points within the radius; from there on a drawing that checks its
numbers fails, up to `2 ^ 31`, whose opposite has no place. A greater width is taken for a negative
one, and no stroke is drawn. A drawing that does not fail is the one that is made without checks. -/
theorem stroke_exact {scene : Scene} {params : Mapping} {s t : State} {style : TextStyle}
    (h : Expression.textStyle scene params s = .ok style t) (f : Font) (text : String)
    (position : Float × Float) (fill strokeFill : Rgba) :
    let radius := strokeRadius style
    let extent := f.extent text style
    let box := f.box text position style
    let drawing := f.renderWith (checked 32) text fill strokeFill style
    style.strokeWidth < 2 ^ 32 ∧
      (box.right = box.left + extent.1.toFloat ∧ box.bottom = box.top + extent.2.toFloat) ∧
      (radius = style.strokeWidth ↔ style.strokeWidth < 2 ^ 31) ∧
      (style.strokeWidth < 2 ^ 31 →
        (f.render text fill strokeFill style).size = ⟨pixelCount extent.1, pixelCount extent.2⟩) ∧
      (style.strokeWidth ≤ 32767 → ∃ origins, strokeOrigins (checked 32) radius = some origins ∧
        strokeOrigins (wrapped 32) radius = origins ∧
        (∀ origin, origin ∈ origins ↔ Reached radius (origin.1 - radius, origin.2 - radius)) ∧
        (drawing.isSome ↔ ∀ origin ∈ (radius, radius) :: origins, f.BlockFits text style origin)) ∧
      (32767 < style.strokeWidth → style.strokeWidth ≤ 2 ^ 31 →
        strokeOrigins (checked 32) radius = none ∧ drawing = none) ∧
      (style.strokeWidth = 2 ^ 31 → strokeOrigins (wrapped 32) radius = [(0, 0)]) ∧
      (2 ^ 31 < style.strokeWidth → radius < 0 ∧ strokeOrigins (checked 32) radius = some [] ∧
        strokeOrigins (wrapped 32) radius = []) ∧
      ∀ layer, drawing = some layer → f.render text fill strokeFill style = layer := by
  intro radius extent box drawing
  have hwidth : style.strokeWidth < 2 ^ 32 := (Expression.ends_textStyle scene params).gives h
  have hdrawing : drawing.isSome ↔ ∃ origins, strokeOrigins (checked 32) radius = some origins ∧
      ∀ origin ∈ (radius, radius) :: origins, f.BlockFits text style origin :=
    f.isSome_renderWith_iff text fill strokeFill style
  refine ⟨hwidth, ⟨rfl, rfl⟩, strokeRadius_eq_iff, fun hsmall => ?_, fun hsmall => ?_,
    fun hlarge hle => ?_, fun hleast => ?_, fun hlarge => ?_,
    confirms_render f text fill strokeFill style⟩
  · rw [size_render, strokeRadius_of_lt hsmall]
    rfl
  · have hradius : radius = style.strokeWidth := strokeRadius_of_lt (by omega)
    have hpos : 0 ≤ radius := by omega
    obtain ⟨origins, horigins, hmem⟩ := exists_strokeOrigins hpos (by omega)
    refine ⟨origins, horigins, confirms_strokeOrigins radius _ horigins, hmem, ?_⟩
    rw [hdrawing, horigins]
    simp only [Option.some.injEq, exists_eq_left']
  · have horigins : strokeOrigins (checked 32) radius = none :=
      strokeOrigins_strokeRadius hlarge hle
    refine ⟨horigins, Option.not_isSome_iff_eq_none.1 fun hsome => ?_⟩
    obtain ⟨origins, hsome, -⟩ := hdrawing.1 hsome
    rw [horigins] at hsome
    cases hsome
  · have hradius : radius = -2 ^ 31 := strokeRadius_least hleast
    rw [hradius]
    exact strokeOrigins_least.2
  · have hradius : radius = style.strokeWidth - 2 ^ 32 := strokeRadius_of_le hlarge.le
    have horigins : strokeOrigins (checked 32) radius = some [] := by
      rw [strokeOrigins_of_neg (by omega), if_pos (by omega)]
    exact ⟨by omega, horigins, confirms_strokeOrigins radius _ horigins⟩

/-- A font of four pixels, three of them above the line, without any glyphs. -/
def blankFont : Font where
  stamp := 0
  face := ⟨3, -1, 0, false, 0, .empty, .empty, .empty, .empty, .empty⟩
  size := 4

/-- The standard style but for the width of the stroke. -/
def stroked (width : ℕ) : TextStyle :=
  { TextStyle.standard with strokeWidth := width }

/-- Parameters with nothing but the width of a stroke. -/
def strokeParams (width : ℕ) : Mapping :=
  Dict.ofList [("stroke_width", .ofNat width)]

/-- A scene in which values are resolved. -/
def styleScene : Scene :=
  Generation.scene Capabilities.table.resolvers lazySetting

theorem textStyle_strokeParams {width : ℕ} (h : width < 2 ^ 32) (s : State) :
    Expression.textStyle styleScene (strokeParams width) s = .ok (stroked width) s := by
  have hread := Value.readNatural_ofNat "stroke_width" h
  refine bind_ok_iff.2 ⟨none, s, rfl, bind_ok_iff.2 ⟨none, s, rfl, ?_⟩⟩
  refine bind_ok_iff.2 ⟨none, s, rfl, bind_ok_iff.2 ⟨some (.ofNat width), s, rfl, ?_⟩⟩
  exact bind_ok_iff.2 ⟨width, s, ofExcept_ok_iff.2 ⟨hread, rfl⟩, rfl⟩

theorem blockFits_empty (f : Font) (style : TextStyle) (origin : ℤ × ℤ) :
    f.BlockFits "" style origin := by
  have hlines : Text.lines "" = [] := by cbv
  intro line hline
  rw [lineOffsets, hlines] at hline
  cases hline

theorem stroke_exact_three :
    let extent := blankFont.extent "A" (stroked 3)
    Expression.textStyle styleScene (strokeParams 3) lazyState = .ok (stroked 3) lazyState ∧
      strokeRadius (stroked 3) = 3 ∧
      (blankFont.render "A" .transparent .transparent (stroked 3)).size =
        ⟨pixelCount extent.1, pixelCount extent.2⟩ ∧
      (∃ origins, strokeOrigins (checked 32) 3 = some origins ∧
        (3, 0) ∈ origins ∧ (0, 0) ∉ origins) ∧
      blankFont.renderWith (checked 32) "" .transparent .transparent (stroked 3) =
        some (blankFont.render "" .transparent .transparent (stroked 3)) := by
  intro extent
  have hstyle := textStyle_strokeParams (show 3 < 2 ^ 32 by decide) lazyState
  obtain ⟨-, -, hradius, hsize, hsmall, -⟩ :=
    stroke_exact hstyle blankFont "A" (0, 0) .transparent .transparent
  obtain ⟨origins, horigins, -, hmem, -⟩ := hsmall (by decide)
  obtain ⟨-, -, -, -, hempty, -, -, -, hlayer⟩ :=
    stroke_exact hstyle blankFont "" (0, 0) .transparent .transparent
  obtain ⟨_, -, -, -, hsome⟩ := hempty (by decide)
  obtain ⟨layer, hdrawn⟩ :=
    Option.isSome_iff_exists.1 (hsome.2 fun origin _ => blockFits_empty blankFont _ origin)
  refine ⟨hstyle, hradius.2 (by decide), hsize (by decide), ⟨origins, horigins, ?_, ?_⟩, ?_⟩
  · exact (hmem _).2 (by decide)
  · exact fun h => absurd ((hmem _).1 h) (by decide)
  · rw [hdrawn, hlayer layer hdrawn]

/-- Widths that are accepted: the greatest one is drawn as `-1`, without a stroke, the opposite of
another one has no place, and neither have the squares of a third. -/
theorem stroke_exact_not_greatest :
    Expression.textStyle styleScene (strokeParams 4294967295) lazyState =
        .ok (stroked 4294967295) lazyState ∧
      strokeRadius (stroked 4294967295) = -1 ∧ strokeOrigins (wrapped 32) (-1) = [] ∧
      Expression.textStyle styleScene (strokeParams 2147483648) lazyState =
        .ok (stroked 2147483648) lazyState ∧
      strokeOrigins (checked 32) (strokeRadius (stroked 2147483648)) = none ∧
      Expression.textStyle styleScene (strokeParams 32768) lazyState =
        .ok (stroked 32768) lazyState ∧
      strokeOrigins (checked 32) (strokeRadius (stroked 32768)) = none :=
  ⟨textStyle_strokeParams (by decide) lazyState, rfl, rfl,
    textStyle_strokeParams (by decide) lazyState, strokeOrigins_least.1,
    textStyle_strokeParams (by decide) lazyState, strokeOrigins_of_lt (by decide)⟩

end Font

end CardPress
