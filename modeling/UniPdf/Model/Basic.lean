import UniPdf.Core.Stream

/-!
# Errors and collaborators of the font loader

`FontError` lists the errors font.go returns: its own (`ErrFontNotSupported`,
`ErrRequiredAttributeMissing`, the cyclical Type0 and unsupported font type errors) and core's
(`ErrTypeError`, `ErrRangeError`); a collaborator may return any of them, or one of its own.

font.go calls into packages that are not part of it: core's stream filters, cmap's loader, and
the parsers of embedded font programs. `Types` holds the types of what they return, which font.go
stores and never looks into, and `Env` the functions themselves. They read the heap as core
hands it over: `core.DecodeStream` traces a stream's `Filter` and `DecodeParms`, and a program
parser traces its object to a stream and decodes it. Every result is proved for every `Env`, so
it holds whatever these collaborators do; where a result needs a collaborator to read a heap
the loader wrote into as it read the original one, that is a hypothesis of the result.
-/

namespace UniPdf.Model

open UniPdf.Core

/-- The errors of font loading: `ErrFontNotSupported`, `ErrRequiredAttributeMissing`,
`core.ErrTypeError`, `core.ErrRangeError`, `errors.New("Cyclical type0 loading")`,
`fmt.Errorf("Unsupported font type: font=%s", font)` by the font's subtype and name, and an
error of a collaborator's own. -/
inductive FontError where
  | fontNotSupported
  | requiredAttributeMissing
  | typeError
  | rangeError
  | cyclicalType0
  | unsupportedFontType (subtype basefont : String)
  | other (msg : String)
  deriving DecidableEq, Repr

/-- The types of the values font.go gets from other packages and only stores: `*cmap.CMap`,
`textencoding.TextEncoder`, the Type 1 `*fontFile` and the TrueType `fonts.TtfType`. -/
structure Types where
  CMap : Type
  TextEncoder : Type
  FontFile : Type
  TtfType : Type

/-- The functions font.go calls: `core.DecodeStream` on a stream's dictionary and data,
`cmap.LoadCmapFromData(data, isSimple)`, `newFontFileFromPdfObject` and
`fonts.NewFontFile2FromPdfObject`. -/
structure Env (τ : Types) where
  decodeStream : Heap → List (String × PdfObject) → List UInt8 → Except FontError (List UInt8)
  loadCmapFromData : List UInt8 → Bool → Except FontError τ.CMap
  newFontFileFromPdfObject : Heap → PdfObject → Except FontError τ.FontFile
  newFontFile2FromPdfObject : Heap → PdfObject → Except FontError τ.TtfType

/-- Modelled from the spec: the types of a small concrete instance, for runs on fixed inputs:
CMaps and font programs kept as their bytes, encoders named by their encoding. -/
def specTypes : Types where
  CMap := List UInt8
  TextEncoder := String
  FontFile := List UInt8
  TtfType := List UInt8

/-- Modelled from the spec: a font program parser's first step, the decoded data of the stream
its object leads to. -/
def decodedProgram (h : Heap) (obj : PdfObject) : Except FontError (List UInt8) :=
  match traceToDirectObject h (some obj) with
  | some (.stream entries data) => (Core.decodeStream h entries data).mapError .other
  | _ => .error .typeError

/-- Modelled from the spec: core's stream filters, a CMap that is its decoded data, and font
programs that are the decoded data of their streams. -/
def specEnv : Env specTypes where
  decodeStream h entries data := (Core.decodeStream h entries data).mapError .other
  loadCmapFromData data _ := .ok data
  newFontFileFromPdfObject := decodedProgram
  newFontFile2FromPdfObject := decodedProgram

theorem bind_eq_ok {ε α β : Type} {x : Except ε α} {f : α → Except ε β} {b : β} :
    x >>= f = .ok b ↔ ∃ a, x = .ok a ∧ f a = .ok b := by
  cases x <;> simp [bind, Except.bind]

theorem pure_eq_ok {ε α : Type} {a b : α} : (pure a : Except ε α) = .ok b ↔ a = b := by
  simp [pure, Except.pure]

theorem map_eq_ok {ε α β : Type} {x : Except ε α} {f : α → β} {b : β} :
    f <$> x = .ok b ↔ ∃ a, x = .ok a ∧ f a = b := by
  cases x <;> simp [Functor.map, Except.map]

end UniPdf.Model
