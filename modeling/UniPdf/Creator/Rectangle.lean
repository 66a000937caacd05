import UniPdf.Core.Object

/-!
# The rectangle of package creator

`Rectangle` and its methods: `newRectangle` makes one with a black border of width 1, each setter
sets its fields, and `GeneratePageBlocks` draws it on a new block through `NewBlock`,
`block.setOpacity`, `drawrect.Draw` and `block.addContentsByString`, which are outside this file
(`DrawEnv`). Lengths, coordinates and opacities are Go's `float64`, here `Float`; no proof does
arithmetic on them.

`GeneratePageBlocks` writes the opacities it draws with back into the rectangle, but never sets
their flags, so what a rectangle draws after any calls is fixed by the last value each setter
was given (`generatePageBlocks_run`): the border is drawn exactly when the last width is
positive, and its color is never nil.
-/

namespace UniPdf.Creator

open UniPdf.Core

/-- `*model.PdfColorDeviceRGB`, as `model.NewPdfColorDeviceRGB(r, g, b)` makes it. -/
structure PdfColorDeviceRGB where
  r : Float
  g : Float
  b : Float

/-- `model.NewPdfColorDeviceRGB(col.ToRGB())`. -/
def newPdfColorDeviceRGB (rgb : Float × Float × Float) : PdfColorDeviceRGB :=
  ⟨rgb.1, rgb.2.1, rgb.2.2⟩

/-- `DrawContext`, the fields `GeneratePageBlocks` reads. -/
structure DrawContext where
  pageWidth : Float
  pageHeight : Float

/-- `draw.Rectangle`, the fields `GeneratePageBlocks` sets. -/
structure DrawRectangle where
  opacity : Float
  x : Float
  y : Float
  height : Float
  width : Float
  fillEnabled : Bool
  fillColor : Option PdfColorDeviceRGB
  borderEnabled : Bool
  borderColor : Option PdfColorDeviceRGB
  borderWidth : Float

/-- The calls `GeneratePageBlocks` makes outside this file: `NewBlock`; `block.setOpacity`, which
registers the two opacities in the block and names them; `drawrect.Draw(gsName)`; and
`block.addContentsByString`. -/
structure DrawEnv (Block Error : Type) where
  newBlock : Float → Float → Block
  setOpacity : Block → Float → Float → Except Error (String × Block)
  draw : DrawRectangle → String → Except Error (List UInt8)
  addContentsByString : Block → List UInt8 → Except Error Block

/-- `Rectangle`. -/
structure Rectangle where
  x : Float
  y : Float
  width : Float
  height : Float
  fillColor : Option PdfColorDeviceRGB
  fillOpacityEnabled : Bool
  fillOpacity : Float
  borderColor : Option PdfColorDeviceRGB
  borderWidth : Float
  borderOpacityEnabled : Bool
  borderOpacity : Float

/-- `newRectangle(x, y, width, height)`: `Rectangle{}` with the corner and the size, and a black
border of width 1. -/
def newRectangle (x y width height : Float) : Rectangle where
  x := x
  y := y
  width := width
  height := height
  fillColor := none
  fillOpacityEnabled := false
  fillOpacity := 0
  borderColor := some (newPdfColorDeviceRGB (0, 0, 0))
  borderWidth := 1.0
  borderOpacityEnabled := false
  borderOpacity := 0

namespace Rectangle

def getCoords (rect : Rectangle) : Float × Float := (rect.x, rect.y)

def setBorderWidth (rect : Rectangle) (bw : Float) : Rectangle := { rect with borderWidth := bw }

/-- `SetBorderColor(col)`, by `col.ToRGB()`. -/
def setBorderColor (rect : Rectangle) (rgb : Float × Float × Float) : Rectangle :=
  { rect with borderColor := some (newPdfColorDeviceRGB rgb) }

def setBorderOpacity (rect : Rectangle) (opacity : Float) : Rectangle :=
  { rect with borderOpacityEnabled := true, borderOpacity := opacity }

/-- `SetFillColor(col)`, by `col.ToRGB()`. -/
def setFillColor (rect : Rectangle) (rgb : Float × Float × Float) : Rectangle :=
  { rect with fillColor := some (newPdfColorDeviceRGB rgb) }

def setFillOpacity (rect : Rectangle) (opacity : Float) : Rectangle :=
  { rect with fillOpacityEnabled := true, fillOpacity := opacity }

/-- The `draw.Rectangle` of `GeneratePageBlocks`: in page coordinates, whose origin is at the
bottom; filled when a fill color is set; bordered when a border color is set and the width is
positive. -/
def drawRectangle (rect : Rectangle) (ctx : DrawContext) : DrawRectangle :=
  let drawrect : DrawRectangle :=
    { opacity := 1.0, x := rect.x, y := ctx.pageHeight - rect.y - rect.height,
      height := rect.height, width := rect.width, fillEnabled := false, fillColor := none,
      borderEnabled := false, borderColor := none, borderWidth := 0 }
  let drawrect :=
    if rect.fillColor.isSome then { drawrect with fillEnabled := true, fillColor := rect.fillColor }
    else drawrect
  if rect.borderColor.isSome ∧ rect.borderWidth > 0 then
    { drawrect with
      borderEnabled := true, borderColor := rect.borderColor, borderWidth := rect.borderWidth }
  else drawrect

/-- The opacities `GeneratePageBlocks` writes into the rectangle: 1 for each one not set. -/
def withOpacityDefaults (rect : Rectangle) : Rectangle :=
  let rect := if !rect.fillOpacityEnabled then { rect with fillOpacity := 1.0 } else rect
  if !rect.borderOpacityEnabled then { rect with borderOpacity := 1.0 } else rect

/-- `GeneratePageBlocks(ctx)`: one block holding the rectangle, or the first error of the calls it
makes; `ctx` comes back as it was given, and the rectangle keeps the opacities it drew with,
whether the drawing succeeds or not. -/
def generatePageBlocks {Block Error : Type} (env : DrawEnv Block Error) (rect : Rectangle)
    (ctx : DrawContext) : Except Error (List Block) × DrawContext × Rectangle :=
  let block := env.newBlock ctx.pageWidth ctx.pageHeight
  let drawrect := rect.drawRectangle ctx
  let rect := rect.withOpacityDefaults
  let blocks : Except Error (List Block) := do
    let (gsName, block) ← env.setOpacity block rect.fillOpacity rect.borderOpacity
    let contents ← env.draw drawrect gsName
    let block ← env.addContentsByString block contents
    pure [block]
  (blocks, ctx, rect)

end Rectangle

/-! ## Runs -/

/-- The calls a client makes on a rectangle. -/
inductive RectangleCall where
  | setBorderWidth (bw : Float)
  | setBorderColor (rgb : Float × Float × Float)
  | setBorderOpacity (opacity : Float)
  | setFillColor (rgb : Float × Float × Float)
  | setFillOpacity (opacity : Float)
  | generatePageBlocks (ctx : DrawContext)

namespace RectangleCall

/-! The value each setter call sets, and `none` for the other calls. -/

def borderWidth? : RectangleCall → Option Float
  | setBorderWidth bw => some bw
  | _ => none

def borderColor? : RectangleCall → Option (Float × Float × Float)
  | setBorderColor rgb => some rgb
  | _ => none

def borderOpacity? : RectangleCall → Option Float
  | setBorderOpacity opacity => some opacity
  | _ => none

def fillColor? : RectangleCall → Option (Float × Float × Float)
  | setFillColor rgb => some rgb
  | _ => none

def fillOpacity? : RectangleCall → Option Float
  | setFillOpacity opacity => some opacity
  | _ => none

end RectangleCall

namespace Rectangle

variable {Block Error : Type} (env : DrawEnv Block Error)

/-- What a call leaves in the rectangle. -/
def step (rect : Rectangle) : RectangleCall → Rectangle
  | .setBorderWidth bw => rect.setBorderWidth bw
  | .setBorderColor rgb => rect.setBorderColor rgb
  | .setBorderOpacity opacity => rect.setBorderOpacity opacity
  | .setFillColor rgb => rect.setFillColor rgb
  | .setFillOpacity opacity => rect.setFillOpacity opacity
  | .generatePageBlocks ctx => (rect.generatePageBlocks env ctx).2.2

/-- A run of calls. -/
def run (rect : Rectangle) (calls : List RectangleCall) : Rectangle :=
  calls.foldl (step env) rect

/-- The opacities a client set, if any. -/
def fillOpacity? (rect : Rectangle) : Option Float :=
  if rect.fillOpacityEnabled then some rect.fillOpacity else none

def borderOpacity? (rect : Rectangle) : Option Float :=
  if rect.borderOpacityEnabled then some rect.borderOpacity else none

theorem withOpacityDefaults_eq (rect : Rectangle) :
    rect.withOpacityDefaults =
      { rect with fillOpacity := rect.fillOpacity?.getD 1.0,
                  borderOpacity := rect.borderOpacity?.getD 1.0 } := by
  obtain ⟨_, _, _, _, _, fe, _, _, _, be, _⟩ := rect
  cases fe <;> cases be <;> rfl

theorem step_fields (rect : Rectangle) (c : RectangleCall) :
    let r := rect.step env c
    (r.x, r.y, r.width, r.height) = (rect.x, rect.y, rect.width, rect.height) ∧
    r.fillColor = (c.fillColor?.map (some ∘ newPdfColorDeviceRGB)).getD rect.fillColor ∧
    r.borderColor = (c.borderColor?.map (some ∘ newPdfColorDeviceRGB)).getD rect.borderColor ∧
    r.borderWidth = c.borderWidth?.getD rect.borderWidth ∧
    r.fillOpacity? = (c.fillOpacity?.map some).getD rect.fillOpacity? ∧
    r.borderOpacity? = (c.borderOpacity?.map some).getD rect.borderOpacity? := by
  cases c <;> simp [step, setBorderWidth, setBorderColor, setBorderOpacity, setFillColor,
    setFillOpacity, generatePageBlocks, withOpacityDefaults_eq, fillOpacity?, borderOpacity?,
    RectangleCall.fillColor?, RectangleCall.borderColor?, RectangleCall.borderWidth?,
    RectangleCall.fillOpacity?, RectangleCall.borderOpacity?]
  all_goals constructor <;> split <;> simp_all

theorem run_fields (rect : Rectangle) (calls : List RectangleCall) :
    let r := rect.run env calls
    (r.x, r.y, r.width, r.height) = (rect.x, rect.y, rect.width, rect.height) ∧
    r.fillColor =
      ((calls.filterMap RectangleCall.fillColor?).getLast?.map newPdfColorDeviceRGB).or
        rect.fillColor ∧
    r.borderColor =
      ((calls.filterMap RectangleCall.borderColor?).getLast?.map newPdfColorDeviceRGB).or
        rect.borderColor ∧
    r.borderWidth = (calls.filterMap RectangleCall.borderWidth?).getLast?.getD rect.borderWidth ∧
    r.fillOpacity? = (calls.filterMap RectangleCall.fillOpacity?).getLast?.or rect.fillOpacity? ∧
    r.borderOpacity? =
      (calls.filterMap RectangleCall.borderOpacity?).getLast?.or rect.borderOpacity? := by
  have last {α : Type} (obs : Rectangle → α) (f : RectangleCall → Option α)
      (hstep : ∀ r c, obs (r.step env c) = (f c).getD (obs r)) :
      obs (rect.run env calls) = (calls.filterMap f).getLast?.getD (obs rect) :=
    foldl_lastWrite (step env) obs f hstep rect calls
  refine ⟨?_, ?_, ?_, last _ _ fun r c => (step_fields env r c).2.2.2.1, ?_, ?_⟩
  · rw [last (fun r => (r.x, r.y, r.width, r.height)) (fun _ => none)
      fun r c => (step_fields env r c).1, List.filterMap_eq_nil_iff.mpr fun _ _ => rfl]
    rfl
  · rw [last _ _ fun r c => (step_fields env r c).2.1, ← List.map_filterMap, List.getLast?_map]
    cases (calls.filterMap RectangleCall.fillColor?).getLast? <;> rfl
  · rw [last _ _ fun r c => (step_fields env r c).2.2.1, ← List.map_filterMap, List.getLast?_map]
    cases (calls.filterMap RectangleCall.borderColor?).getLast? <;> rfl
  · rw [last _ _ fun r c => (step_fields env r c).2.2.2.2.1, ← List.map_filterMap,
      List.getLast?_map]
    cases (calls.filterMap RectangleCall.fillOpacity?).getLast? <;> rfl
  · rw [last _ _ fun r c => (step_fields env r c).2.2.2.2.2, ← List.map_filterMap,
      List.getLast?_map]
    cases (calls.filterMap RectangleCall.borderOpacity?).getLast? <;> rfl

/-- After any calls on a new rectangle, `GeneratePageBlocks` draws it at the corner and in the
size it was made with, filled with the last fill color set, if any, bordered in the last border
color set, or black, exactly when the last border width set, or 1, is positive, and with the last
opacities set, or 1: the opacities earlier draws wrote into the rectangle never show, and the
border color is never nil. -/
theorem generatePageBlocks_run (x y width height : Float) (calls : List RectangleCall)
    (ctx : DrawContext) :
    let rect := (newRectangle x y width height).run env calls
    let fill := (calls.filterMap RectangleCall.fillColor?).getLast?
    let bw := (calls.filterMap RectangleCall.borderWidth?).getLast?.getD 1.0
    let border := (calls.filterMap RectangleCall.borderColor?).getLast?.getD (0, 0, 0)
    rect.getCoords = (x, y) ∧
    rect.drawRectangle ctx =
      { opacity := 1.0, x := x, y := ctx.pageHeight - y - height, height := height,
        width := width, fillEnabled := fill.isSome, fillColor := fill.map newPdfColorDeviceRGB,
        borderEnabled := decide (bw > 0),
        borderColor := if bw > 0 then some (newPdfColorDeviceRGB border) else none,
        borderWidth := if bw > 0 then bw else 0 } ∧
    rect.withOpacityDefaults.fillOpacity =
      (calls.filterMap RectangleCall.fillOpacity?).getLast?.getD 1.0 ∧
    rect.withOpacityDefaults.borderOpacity =
      (calls.filterMap RectangleCall.borderOpacity?).getLast?.getD 1.0 := by
  dsimp only
  obtain ⟨hgeo, hfill, hborder, hbw, hfo, hbo⟩ := run_fields env (newRectangle x y width height) calls
  generalize (newRectangle x y width height).run env calls = r at *
  simp only [newRectangle, Prod.mk.injEq, Option.or_none] at hgeo hfill hborder hbw
  obtain ⟨hx, hy, hw, hh⟩ := hgeo
  refine ⟨by simp only [getCoords, hx, hy], ?_, ?_, ?_⟩
  · generalize (calls.filterMap RectangleCall.fillColor?).getLast? = fill at hfill ⊢
    generalize (calls.filterMap RectangleCall.borderColor?).getLast? = border at hborder ⊢
    generalize (calls.filterMap RectangleCall.borderWidth?).getLast?.getD 1.0 = bw at hbw ⊢
    cases fill <;> cases border <;> by_cases hpos : bw > 0 <;>
      simp [drawRectangle, hx, hy, hw, hh, hfill, hborder, hbw, hpos]
  · rw [withOpacityDefaults_eq, hfo]
    cases (calls.filterMap RectangleCall.fillOpacity?).getLast? <;> rfl
  · rw [withOpacityDefaults_eq, hbo]
    cases (calls.filterMap RectangleCall.borderOpacity?).getLast? <;> rfl

end Rectangle

end UniPdf.Creator
