import UniPdf.Model.Skeleton
import UniPdf.Core.Utf8

/-!
# Fonts: the variant dispatch

`PdfFont` is the skeleton of the font dictionary and the `context`, the variant
`newPdfFontFromPdfObject` chose by the subtype. The variants of package model are held through
pointers (`*pdfFontSimple`, `*pdfFontType0`, …): `FontContext` names the pointer and its type,
and the objects live in a `FontHeap`. The 14 standard fonts are held by value, as the value cases
of `actualFont`'s switch show.

The loaders of the variants are not in font.go: `FontEnv` holds them, with the standard fonts'
own dictionaries and the lookups the decoder calls. The Type0 loader is modelled here, since it
calls back into `newPdfFontFromPdfObject` for the descendant font with Type0 disallowed.

`newPdfFontFromPdfObjectN n` is that recursion cut at depth `n`. A call with Type0 disallowed
never calls back (`loadFont_descendant_irrelevant`), so depth 2 gives the result of every depth
(`newPdfFontFromPdfObjectN_stable`), and `newPdfFontFromPdfObject` is the recursion at depth 2.
-/

namespace UniPdf.Model

open UniPdf.Core

/-- The 14 standard fonts, by the types of `actualFont`'s switch. -/
inductive Standard14 where
  | courier | courierBold | courierBoldOblique | courierOblique
  | helvetica | helveticaBold | helveticaBoldOblique | helveticaOblique
  | timesRoman | timesBold | timesBoldItalic | timesItalic
  | symbol | zapfDingbats
  deriving DecidableEq, Repr

/-- Modelled from the spec: `fonts.Standard14Fonts`, the static table of the 14 standard fonts
(4 Courier, 4 Helvetica, 4 Times, Symbol, ZapfDingbats) by exact name. -/
def standard14Fonts : String → Option Standard14
  | "Courier" => some .courier
  | "Courier-Bold" => some .courierBold
  | "Courier-BoldOblique" => some .courierBoldOblique
  | "Courier-Oblique" => some .courierOblique
  | "Helvetica" => some .helvetica
  | "Helvetica-Bold" => some .helveticaBold
  | "Helvetica-BoldOblique" => some .helveticaBoldOblique
  | "Helvetica-Oblique" => some .helveticaOblique
  | "Times-Roman" => some .timesRoman
  | "Times-Bold" => some .timesBold
  | "Times-BoldItalic" => some .timesBoldItalic
  | "Times-Italic" => some .timesItalic
  | "Symbol" => some .symbol
  | "ZapfDingbats" => some .zapfDingbats
  | _ => none

/-- The name a standard font is listed under. -/
def Standard14.name : Standard14 → String
  | .courier => "Courier" | .courierBold => "Courier-Bold"
  | .courierBoldOblique => "Courier-BoldOblique" | .courierOblique => "Courier-Oblique"
  | .helvetica => "Helvetica" | .helveticaBold => "Helvetica-Bold"
  | .helveticaBoldOblique => "Helvetica-BoldOblique" | .helveticaOblique => "Helvetica-Oblique"
  | .timesRoman => "Times-Roman" | .timesBold => "Times-Bold"
  | .timesBoldItalic => "Times-BoldItalic" | .timesItalic => "Times-Italic"
  | .symbol => "Symbol" | .zapfDingbats => "ZapfDingbats"

theorem standard14Fonts_name (s : Standard14) : standard14Fonts s.name = some s := by
  cases s <;> rfl

/-- Modelled from the spec: what every variant of package model holds, its own skeleton and the
encoder that `Encoder()` returns and `SetEncoder` sets. -/
structure FontVariant (τ : Types) where
  skeleton : FontSkeleton τ
  encoder : Option τ.TextEncoder

/-- The dynamic type and value of `font.context`: a pointer `*pdfFontSimple`, `*pdfFontType0`,
`*pdfCIDFontType0` or `*pdfCIDFontType2`, one of `fonts.FontCourier` to `fonts.FontZapfDingbats`
held by value, or any other `fonts.Font`. -/
inductive FontContext where
  | simple (a : Nat)
  | type0 (a : Nat)
  | cidType0 (a : Nat)
  | cidType2 (a : Nat)
  | standard (font : Standard14)
  | other
  deriving DecidableEq, Repr

/-- `PdfFont`: the embedded `fontSkeleton` and the `context`, `none` for nil. -/
structure PdfFont (τ : Types) where
  skeleton : FontSkeleton τ
  context : Option FontContext

/-- What a variant pointer points at. -/
inductive FontObject (τ : Types) where
  | simple (font : FontVariant τ)
  | type0 (font : FontVariant τ) (descendantFont : PdfFont τ)
  | cidType0 (font : FontVariant τ)
  | cidType2 (font : FontVariant τ)

variable {τ : Types}

namespace FontObject

/-- The variant fields of the object. -/
def variant : FontObject τ → FontVariant τ
  | simple v | type0 v _ | cidType0 v | cidType2 v => v

/-- Modelled from the spec: the variant's `SetEncoder`, which sets its encoder in place. -/
def setEncoder (e : Option τ.TextEncoder) : FontObject τ → FontObject τ
  | simple v => simple { v with encoder := e }
  | type0 v d => type0 { v with encoder := e } d
  | cidType0 v => cidType0 { v with encoder := e }
  | cidType2 v => cidType2 { v with encoder := e }

@[simp] theorem variant_setEncoder (e : Option τ.TextEncoder) (o : FontObject τ) :
    (o.setEncoder e).variant = { o.variant with encoder := e } := by
  cases o <;> rfl

end FontObject

/-- The objects the variant pointers point at. -/
def FontHeap (τ : Types) := List (FontObject τ)

namespace FontHeap

/-- The object at `a`. -/
def read? (fh : FontHeap τ) (a : Nat) : Option (FontObject τ) := List.get? fh a

/-- `&pdfFontSimple{…}` and its kin: a fresh pointer. -/
def alloc (fh : FontHeap τ) (o : FontObject τ) : Nat × FontHeap τ :=
  (List.length fh, List.append fh [o])

/-- A write through the pointer `a`. -/
def modify (fh : FontHeap τ) (a : Nat) (f : FontObject τ → FontObject τ) : FontHeap τ :=
  List.modify f a fh

/-- The number of objects allocated. -/
def size (fh : FontHeap τ) : Nat := List.length fh

theorem read?_alloc_self (fh : FontHeap τ) (o : FontObject τ) :
    (fh.alloc o).2.read? fh.size = some o := by
  simp [alloc, read?, size]

theorem read?_alloc_of_lt {fh : FontHeap τ} {a : Nat} (o : FontObject τ) (ha : a < fh.size) :
    (fh.alloc o).2.read? a = fh.read? a := by
  simp only [alloc, read?, List.get?_eq_getElem?, List.append_eq]
  exact List.getElem?_append_left ha

theorem size_alloc (fh : FontHeap τ) (o : FontObject τ) : (fh.alloc o).2.size = fh.size + 1 := by
  simp [alloc, size]

theorem read?_modify (fh : FontHeap τ) (a b : Nat) (f : FontObject τ → FontObject τ) :
    (fh.modify a f).read? b = if a = b then (fh.read? b).map f else fh.read? b := by
  simp only [modify, read?, List.get?_eq_getElem?, List.getElem?_modify]
  split <;> simp

theorem lt_size_of_read? {fh : FontHeap τ} {a : Nat} {o : FontObject τ}
    (h : fh.read? a = some o) : a < fh.size := by
  simp only [read?, size, List.get?_eq_getElem?] at *
  exact (List.getElem?_eq_some_iff.mp h).1

/-- `fh'` holds every object of `fh`, unchanged: what loading does to the heap. -/
def Extends (fh fh' : FontHeap τ) : Prop := ∀ a o, fh.read? a = some o → fh'.read? a = some o

theorem Extends.refl (fh : FontHeap τ) : fh.Extends fh := fun _ _ => id

theorem Extends.trans {fh₁ fh₂ fh₃ : FontHeap τ} (h₁ : fh₁.Extends fh₂) (h₂ : fh₂.Extends fh₃) :
    fh₁.Extends fh₃ := fun a o h => h₂ a o (h₁ a o h)

theorem extends_alloc (fh : FontHeap τ) (o : FontObject τ) : fh.Extends (fh.alloc o).2 :=
  fun _ _ h => (read?_alloc_of_lt o (lt_size_of_read? h)).trans h

theorem Extends.size_le {fh fh' : FontHeap τ} (h : fh.Extends fh') : fh.size ≤ fh'.size := by
  rcases Nat.eq_zero_or_pos fh.size with h0 | hpos
  · omega
  obtain ⟨o, ho⟩ : ∃ o, fh.read? (fh.size - 1) = some o := by
    simp only [read?, size, List.get?_eq_getElem?] at *
    exact ⟨_, List.getElem?_eq_getElem (by omega)⟩
  have := lt_size_of_read? (h _ _ ho)
  omega

end FontHeap

/-- The collaborators of the font loader outside font.go: the standard fonts' `ToPdfObject`
dictionaries and `Encoder()`; `newSimpleFontFromPdfObject(skeleton, std14)`,
`simplefont.addEncoding()`, the encoder a Type0 font takes from its dictionary,
`newPdfCIDFontType0FromPdfObject`, `newPdfCIDFontType2FromPdfObject` and the variants'
`ToPdfObject`; and the lookups the decoder calls, `cmap.CharcodeToUnicode2`,
`encoder.CharcodeToRune`, `textencoding.RuneToString` and `cmap.MissingCodeRune`. -/
structure FontEnv (τ : Types) extends Env τ where
  stdDict : Standard14 → Dict
  stdEncoder : Standard14 → Option τ.TextEncoder
  newSimpleFontFromPdfObject : Heap → FontSkeleton τ → Bool → Except FontError (FontVariant τ)
  addEncoding : Heap → FontVariant τ → Except FontError (FontVariant τ)
  type0Encoder : FontSkeleton τ → Option τ.TextEncoder
  newPdfCIDFontType0FromPdfObject : Heap → FontSkeleton τ → Except FontError (FontVariant τ)
  newPdfCIDFontType2FromPdfObject : Heap → FontSkeleton τ → Except FontError (FontVariant τ)
  variantToPdfObject : FontObject τ → Heap → Heap × PdfObject
  charcodeToUnicode2 : τ.CMap → UInt16 → Option (List UInt8)
  charcodeToRune : τ.TextEncoder → UInt16 → Option Rune
  runeToString : Rune → List UInt8
  missingCodeRune : Rune

/-! ## Loading -/

section Load

variable (env : FontEnv τ) (h : Heap)

/-- Modelled from the spec: `newPdfFontType0FromPdfObject`. The one font of `DescendantFonts`
is loaded by `loadDescendant`, which is `newPdfFontFromPdfObject(descendant, false)`. -/
def newPdfFontType0FromPdfObject
    (loadDescendant : PdfObject → FontHeap τ → Except FontError (PdfFont τ × FontHeap τ))
    (skeleton : FontSkeleton τ) (fh : FontHeap τ) :
    Except FontError (FontVariant τ × PdfFont τ × FontHeap τ) :=
  match traceToDirectObject h (skeleton.dict.bind fun d => d.get "DescendantFonts") with
  | some (.array [df]) => do
    let (descendant, fh) ← loadDescendant df fh
    pure ({ skeleton := skeleton, encoder := env.type0Encoder skeleton }, descendant, fh)
  | _ => throw .rangeError

/-- The simple-font case: a standard font named as a Type1 font is built from the standard
font's own dictionary, `TraceToDirectObject(std.ToPdfObject())`; any other from its skeleton. -/
def loadSimpleFont (skeleton : FontSkeleton τ) : Except FontError (FontVariant τ) := do
  let simplefont ←
    match standard14Fonts skeleton.basefont, skeleton.subtype == "Type1" with
    | some std, true => do
      let stdSkeleton ← newFontSkeletonFromPdfObject env.toEnv h (.dict (env.stdDict std))
      env.newSimpleFontFromPdfObject h stdSkeleton true
    | _, _ => env.newSimpleFontFromPdfObject h skeleton false
  env.addEncoding h simplefont

/-- `newPdfFontFromPdfObject(fontObj, allowType0)`, its call back for the descendant of a
Type0 font made by `loadDescendant`. -/
def loadFont
    (loadDescendant : PdfObject → FontHeap τ → Except FontError (PdfFont τ × FontHeap τ))
    (fontObj : PdfObject) (allowType0 : Bool) (fh : FontHeap τ) :
    Except FontError (PdfFont τ × FontHeap τ) := do
  let skeleton ← newFontSkeletonFromPdfObject env.toEnv h fontObj
  match skeleton.subtype with
  | "Type0" =>
    if !allowType0 then throw .cyclicalType0
    else do
      let (type0font, descendant, fh) ←
        newPdfFontType0FromPdfObject env h loadDescendant skeleton fh
      let (a, fh) := fh.alloc (.type0 type0font descendant)
      pure ({ skeleton := skeleton, context := some (.type0 a) }, fh)
  | "Type1" | "Type3" | "MMType1" | "TrueType" => do
    let simplefont ← loadSimpleFont env h skeleton
    let (a, fh) := fh.alloc (.simple simplefont)
    pure ({ skeleton := skeleton, context := some (.simple a) }, fh)
  | "CIDFontType0" => do
    let cidfont ← env.newPdfCIDFontType0FromPdfObject h skeleton
    let (a, fh) := fh.alloc (.cidType0 cidfont)
    pure ({ skeleton := skeleton, context := some (.cidType0 a) }, fh)
  | "CIDFontType2" => do
    let cidfont ← env.newPdfCIDFontType2FromPdfObject h skeleton
    let (a, fh) := fh.alloc (.cidType2 cidfont)
    pure ({ skeleton := skeleton, context := some (.cidType2 a) }, fh)
  | _ => throw (.unsupportedFontType skeleton.subtype skeleton.basefont)

/-- `newPdfFontFromPdfObject` with its recursion cut at depth `n`; at depth 0 nothing is loaded. -/
def newPdfFontFromPdfObjectN :
    Nat → PdfObject → Bool → FontHeap τ → Except FontError (PdfFont τ × FontHeap τ)
  | 0, _, _, _ => throw (.other "recursion depth")
  | n + 1, fontObj, allowType0, fh =>
    loadFont env h (fun d fh => newPdfFontFromPdfObjectN n d false fh) fontObj allowType0 fh

/-- `newPdfFontFromPdfObject(fontObj, allowType0)`, the recursion at depth 2. -/
def newPdfFontFromPdfObject (fontObj : PdfObject) (allowType0 : Bool) (fh : FontHeap τ) :
    Except FontError (PdfFont τ × FontHeap τ) :=
  newPdfFontFromPdfObjectN env h 2 fontObj allowType0 fh

theorem loadFont_ok {L : PdfObject → FontHeap τ → Except FontError (PdfFont τ × FontHeap τ)}
    {o : PdfObject} {allow : Bool} {fh fh' : FontHeap τ} {f : PdfFont τ}
    (hf : loadFont env h L o allow fh = .ok (f, fh')) :
    newFontSkeletonFromPdfObject env.toEnv h o = .ok f.skeleton ∧
    ((f.skeleton.subtype = "Type0" ∧ allow = true ∧ ∃ v d fh1,
        newPdfFontType0FromPdfObject env h L f.skeleton fh = .ok (v, d, fh1) ∧
        f.context = some (.type0 fh1.size) ∧ fh' = (fh1.alloc (.type0 v d)).2) ∨
      ((f.skeleton.subtype = "Type1" ∨ f.skeleton.subtype = "Type3" ∨
          f.skeleton.subtype = "MMType1" ∨ f.skeleton.subtype = "TrueType") ∧
        ∃ v, loadSimpleFont env h f.skeleton = .ok v ∧ f.context = some (.simple fh.size) ∧
          fh' = (fh.alloc (.simple v)).2) ∨
      (f.skeleton.subtype = "CIDFontType0" ∧ ∃ v,
        env.newPdfCIDFontType0FromPdfObject h f.skeleton = .ok v ∧
          f.context = some (.cidType0 fh.size) ∧ fh' = (fh.alloc (.cidType0 v)).2) ∨
      (f.skeleton.subtype = "CIDFontType2" ∧ ∃ v,
        env.newPdfCIDFontType2FromPdfObject h f.skeleton = .ok v ∧
          f.context = some (.cidType2 fh.size) ∧ fh' = (fh.alloc (.cidType2 v)).2)) := by
  unfold loadFont at hf
  obtain ⟨skel, hs, hf⟩ := bind_eq_ok.mp hf
  split at hf
  · rename_i hst
    split at hf
    · cases hf
    rename_i hallow
    obtain ⟨⟨v, d, fh1⟩, ht, hf⟩ := bind_eq_ok.mp hf
    cases pure_eq_ok.mp hf
    exact ⟨hs, .inl ⟨hst, by simpa using hallow, v, d, fh1, ht, rfl, rfl⟩⟩
  all_goals rename_i hst
  all_goals first
    | cases hf
    | obtain ⟨v, hv, hf⟩ := bind_eq_ok.mp hf
      cases pure_eq_ok.mp hf
      first
        | exact ⟨hs, .inr (.inl ⟨by simp [hst], v, hv, rfl, rfl⟩)⟩
        | exact ⟨hs, .inr (.inr (.inl ⟨hst, v, hv, rfl, rfl⟩))⟩
        | exact ⟨hs, .inr (.inr (.inr ⟨hst, v, hv, rfl, rfl⟩))⟩

theorem newPdfFontType0FromPdfObject_ok
    {L : PdfObject → FontHeap τ → Except FontError (PdfFont τ × FontHeap τ)}
    {skeleton : FontSkeleton τ} {fh fh' : FontHeap τ} {v : FontVariant τ} {d : PdfFont τ}
    (hf : newPdfFontType0FromPdfObject env h L skeleton fh = .ok (v, d, fh')) :
    ∃ df, L df fh = .ok (d, fh') ∧ v = { skeleton := skeleton, encoder := env.type0Encoder skeleton } := by
  unfold newPdfFontType0FromPdfObject at hf
  split at hf
  · rename_i df _
    obtain ⟨⟨d', fh''⟩, hL, hf⟩ := bind_eq_ok.mp hf
    cases pure_eq_ok.mp hf
    exact ⟨df, hL, rfl⟩
  · cases hf

theorem loadFont_extends {L : PdfObject → FontHeap τ → Except FontError (PdfFont τ × FontHeap τ)}
    (hL : ∀ d fh fh' (f : PdfFont τ), L d fh = .ok (f, fh') → fh.Extends fh')
    {o : PdfObject} {allow : Bool} {fh fh' : FontHeap τ} {f : PdfFont τ}
    (hf : loadFont env h L o allow fh = .ok (f, fh')) : fh.Extends fh' := by
  rcases (loadFont_ok env h hf).2 with ⟨-, -, v, d, fh1, ht, -, rfl⟩ | ⟨-, v, -, -, rfl⟩ |
    ⟨-, v, -, -, rfl⟩ | ⟨-, v, -, -, rfl⟩
  · obtain ⟨df, hd, -⟩ := newPdfFontType0FromPdfObject_ok env h ht
    exact (hL _ _ _ _ hd).trans (FontHeap.extends_alloc _ _)
  all_goals exact FontHeap.extends_alloc _ _

theorem newPdfFontFromPdfObjectN_extends (n : Nat) {o : PdfObject} {allow : Bool}
    {fh fh' : FontHeap τ} {f : PdfFont τ}
    (hf : newPdfFontFromPdfObjectN env h n o allow fh = .ok (f, fh')) : fh.Extends fh' := by
  induction n generalizing o allow fh fh' f with
  | zero => cases hf
  | succ n ih => exact loadFont_extends env h (fun _ _ _ _ hd => ih hd) hf

/-- A call with Type0 disallowed never loads a descendant. -/
theorem loadFont_descendant_irrelevant
    (L L' : PdfObject → FontHeap τ → Except FontError (PdfFont τ × FontHeap τ))
    (o : PdfObject) (fh : FontHeap τ) : loadFont env h L o false fh = loadFont env h L' o false fh := by
  simp only [loadFont]
  congr 1

/-- Depth 2 is the result of every depth from 2 on. -/
theorem newPdfFontFromPdfObjectN_stable (n : Nat) (o : PdfObject) (allow : Bool)
    (fh : FontHeap τ) :
    newPdfFontFromPdfObjectN env h (n + 2) o allow fh = newPdfFontFromPdfObject env h o allow fh := by
  have hdesc : ∀ d fh, newPdfFontFromPdfObjectN env h (n + 1) d false fh =
      newPdfFontFromPdfObjectN env h 1 d false fh :=
    fun d fh => loadFont_descendant_irrelevant env h _ _ d fh
  show loadFont env h (fun d fh => newPdfFontFromPdfObjectN env h (n + 1) d false fh) o allow fh =
    loadFont env h (fun d fh => newPdfFontFromPdfObjectN env h 1 d false fh) o allow fh
  simp only [hdesc]

end Load

/-- Modelled from the spec: a small concrete instance of the collaborators, for runs on fixed
inputs. A standard font describes itself by `Type`, `Subtype` and `BaseFont`; a simple font's
encoding is the one its `Encoding` entry names (a `BaseEncoding` for a dictionary), and
`StandardEncoding` without one; a Type0 font has an encoder for `Identity-H` and `Identity-V`
only; a variant serializes its own skeleton; the encoders map every code to the rune of the same
value and the sentinel rune is `U+FFFD`. -/
def specFontEnv : FontEnv specTypes where
  toEnv := specEnv
  stdDict s := [("Type", .name "Font"), ("Subtype", .name "Type1"), ("BaseFont", .name s.name)]
  stdEncoder _ := some "StandardEncoding"
  newSimpleFontFromPdfObject _ skel _ := .ok { skeleton := skel, encoder := none }
  addEncoding h v :=
    match traceToDirectObject h (v.skeleton.dict.bind fun d => d.get "Encoding") with
    | none => .ok { v with encoder := some "StandardEncoding" }
    | some (.name n) => .ok { v with encoder := some n }
    | some (.dict e) =>
      match Dict.get e "BaseEncoding" with
      | some (.name n) => .ok { v with encoder := some n }
      | _ => .ok { v with encoder := some "StandardEncoding" }
    | _ => .error .typeError
  type0Encoder skel :=
    match skel.dict.bind fun d => d.get "Encoding" with
    | some (.name "Identity-H") => some "Identity-H"
    | some (.name "Identity-V") => some "Identity-V"
    | _ => none
  newPdfCIDFontType0FromPdfObject _ skel := .ok { skeleton := skel, encoder := none }
  newPdfCIDFontType2FromPdfObject _ skel := .ok { skeleton := skel, encoder := none }
  variantToPdfObject o h :=
    let (h, d) := o.variant.skeleton.toDict "" h
    let (a, h) := h.alloc (.dict d)
    (h, .indirect a)
  charcodeToUnicode2 _ _ := none
  charcodeToRune _ code := some code.toNat
  runeToString := encodeRune
  missingCodeRune := 0xFFFD

/-- A sample document: a Type0 font with the `Identity-H` encoding over a CIDFontType2 font
(objects 0 and 1), a Type0 font over the same descendant whose encoding names another CMap (2),
a Helvetica font that declares the MacRoman encoding and its own `ToUnicode` stream (3, 4), and
a Helvetica font that declares neither (5). -/
def sampleHeap : Heap :=
  [.dict [("Type", .name "Font"), ("Subtype", .name "Type0"), ("BaseFont", .name "Sample"),
      ("Encoding", .name "Identity-H"), ("DescendantFonts", .array [.indirect 1])],
    .dict [("Type", .name "Font"), ("Subtype", .name "CIDFontType2"), ("BaseFont", .name "Sample")],
    .dict [("Type", .name "Font"), ("Subtype", .name "Type0"), ("BaseFont", .name "Sample"),
      ("Encoding", .name "90ms-RKSJ-H"), ("DescendantFonts", .array [.indirect 1])],
    .dict [("Type", .name "Font"), ("Subtype", .name "Type1"), ("BaseFont", .name "Helvetica"),
      ("Encoding", .name "MacRomanEncoding"), ("ToUnicode", .indirect 4)],
    .stream [] [0x41],
    .dict [("Type", .name "Font"), ("Subtype", .name "Type1"), ("BaseFont", .name "Helvetica")]]

end UniPdf.Model
