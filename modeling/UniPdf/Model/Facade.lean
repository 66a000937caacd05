import UniPdf.Model.Font

/-!
# The font facade

`PdfFont`'s own methods: `actualFont`, which hands on the context when its type is one of the
18 of its switch; `Subtype`, `Encoder`, `SetEncoder` and `ToPdfObject`, which go through it; and
`NewStandard14Font`, the constructor beside `newPdfFontFromPdfObject`.

`FacadeInv fh font` is what both constructors promise (`facade_invariant`): the context is the
variant the subtype selects, and a variant pointer points at an object of its own type. It
survives every later load and `SetEncoder` (`FacadeInv.mono`, `FacadeInv.setEncoder`), so
it holds of every font a client holds along any run of the facade's calls (`Session.run_inv`).

A Type0 font's descendant is loaded with Type0 disallowed, so it is no Type0 font and `Subtype`
stops one step down (`type0_depth_two`). `SetEncoder` writes through the variant pointer; a
standard font is held by value and keeps its encoder.
-/

namespace UniPdf.Model

open UniPdf.Core

variable {τ : Types}

namespace FontContext

/-- The pointer of a variant context. -/
def address? : FontContext → Option Nat
  | simple a | type0 a | cidType0 a | cidType2 a => some a
  | standard _ | other => none

/-- The context is the variant the subtype `s` selects. -/
def Fits : FontContext → String → Prop
  | type0 _, s => s = "Type0"
  | cidType0 _, s => s = "CIDFontType0"
  | cidType2 _, s => s = "CIDFontType2"
  | simple _, s | standard _, s => s = "Type1" ∨ s = "MMType1" ∨ s = "TrueType"
  | other, _ => False

/-- A context of the composite variants: Type0 and the two CID fonts. -/
def isCID : FontContext → Bool
  | type0 _ | cidType0 _ | cidType2 _ => true
  | _ => false

end FontContext

/-- The context of a pointer `a` to the object. -/
def FontObject.contextAt (a : Nat) : FontObject τ → FontContext
  | .simple _ => .simple a
  | .type0 _ _ => .type0 a
  | .cidType0 _ => .cidType0 a
  | .cidType2 _ => .cidType2 a

@[simp] theorem FontObject.contextAt_setEncoder (a : Nat) (e : Option τ.TextEncoder)
    (o : FontObject τ) : (o.setEncoder e).contextAt a = o.contextAt a := by
  cases o <;> rfl

@[simp] theorem FontObject.address_contextAt (a : Nat) (o : FontObject τ) :
    (o.contextAt a).address? = some a := by
  cases o <;> rfl

/-- The subtypes of the fonts the constructors return. -/
def loadedSubtypes : List String :=
  ["Type0", "Type1", "MMType1", "TrueType", "CIDFontType0", "CIDFontType2"]

/-- `NewStandard14Font`: a Type1 skeleton with the name, and the standard font as the context. -/
def newStandard14Font (basefont : String) : Except FontError (PdfFont τ) :=
  match standard14Fonts basefont with
  | some std => pure
    { skeleton :=
        { basefont := basefont, subtype := "Type1", toUnicode := none, toUnicodeCmap := none,
          fontDescriptor := none, dict := none }
      context := some (.standard std) }
  | none => throw .fontNotSupported

namespace PdfFont

/-- `actualFont`: the context, when its type is one of the switch's. -/
def actualFont (font : PdfFont τ) : Option FontContext :=
  match font.context with
  | some .other | none => none
  | c => c

/-- `BaseFont`. -/
def baseFont (font : PdfFont τ) : String := font.skeleton.basefont

/-- `isCIDFont` of the embedded skeleton. -/
def isCIDFont (font : PdfFont τ) : Bool := font.skeleton.isCIDFont

/-- `Subtype`: a Type0 font's subtype is followed by its descendant's. The descent is cut after
`n` steps, where it answers nothing. -/
def subtypeN (fh : FontHeap τ) : Nat → PdfFont τ → Option String
  | 0, _ => none
  | n + 1, font =>
    match font.context with
    | some (.type0 a) =>
      match fh.read? a with
      | some (.type0 _ descendant) =>
        (subtypeN fh n descendant).map fun s => font.skeleton.subtype ++ ":" ++ s
      | _ => none
    | _ => some font.skeleton.subtype

/-- `t.Encoder()` of the font `actualFont` returns: a standard font's own, or the encoder field
of the object a variant pointer points at. -/
def variantEncoder (env : FontEnv τ) (fh : FontHeap τ) : FontContext → Option τ.TextEncoder
  | .standard s => env.stdEncoder s
  | .other => none
  | .simple a | .type0 a | .cidType0 a | .cidType2 a => (fh.read? a).bind fun o => o.variant.encoder

/-- `Encoder()`: nil when `actualFont` is. -/
def encoder (env : FontEnv τ) (fh : FontHeap τ) (font : PdfFont τ) : Option τ.TextEncoder :=
  font.actualFont.bind (variantEncoder env fh)

/-- The variant pointer of the actual font: none for a standard font, as without an actual
font. -/
def address? (font : PdfFont τ) : Option Nat := font.actualFont.bind FontContext.address?

/-- `SetEncoder`: through a variant pointer the object is set in place. A standard font is held by
value: it satisfies `fonts.Font` as a value, so its `SetEncoder` has a value receiver and sets
the field of a copy, and the heap is left as it was, as it is without an actual font. -/
def setEncoder (font : PdfFont τ) (e : Option τ.TextEncoder) (fh : FontHeap τ) : FontHeap τ :=
  match font.address? with
  | some a => fh.modify a (FontObject.setEncoder e)
  | none => fh

/-- `ToPdfObject`: the variant's, and the null object without an actual font. A standard font's
is a fresh indirect object holding its own dictionary. -/
def toPdfObject (env : FontEnv τ) (fh : FontHeap τ) (font : PdfFont τ) (h : Heap) :
    Heap × PdfObject :=
  match font.actualFont with
  | some (.standard s) =>
    let (a, h) := h.alloc (.dict (env.stdDict s))
    (h, .indirect a)
  | some c =>
    match c.address?.bind fh.read? with
    | some o => env.variantToPdfObject o h
    | none => (h, .null)
  | none => (h, .null)

theorem actualFont_of_fits {font : PdfFont τ} {c : FontContext} {s : String}
    (hc : font.context = some c) (hfit : c.Fits s) : font.actualFont = some c := by
  cases c <;> simp_all [actualFont, FontContext.Fits]

theorem context_of_actualFont {font : PdfFont τ} {c : FontContext} (hc : font.actualFont = some c) :
    font.context = some c := by
  unfold actualFont at hc
  split at hc <;> simp_all

theorem variantEncoder_of_address {c : FontContext} {a : Nat} (ha : c.address? = some a)
    (env : FontEnv τ) (fh : FontHeap τ) :
    variantEncoder env fh c = (fh.read? a).bind fun o => o.variant.encoder := by
  cases c <;> cases ha <;> rfl

theorem encoder_congr {env : FontEnv τ} {fh fh' : FontHeap τ} {font : PdfFont τ}
    (h : ∀ a, font.address? = some a → fh'.read? a = fh.read? a) :
    font.encoder env fh' = font.encoder env fh := by
  unfold encoder address? at *
  generalize font.actualFont = c at h ⊢
  rcases c with _ | c
  · rfl
  · cases c <;> simp_all [variantEncoder, FontContext.address?]

theorem subtypeN_of_not_type0 {font : PdfFont τ} (hc : ∀ a, font.context ≠ some (.type0 a))
    (fh : FontHeap τ) (n : Nat) : font.subtypeN fh (n + 1) = some font.skeleton.subtype := by
  unfold subtypeN
  split
  · rename_i a h
    exact absurd h (hc a)
  · rfl

end PdfFont

/-! ## The facade invariant -/

/-- The facade invariant: the context is the variant the subtype selects, and a variant pointer
points at an object of the pointer's type. -/
structure FacadeInv (fh : FontHeap τ) (font : PdfFont τ) : Prop where
  fits : ∃ c, font.context = some c ∧ c.Fits font.skeleton.subtype
  points : ∀ c a, font.context = some c → c.address? = some a →
    ∃ o, fh.read? a = some o ∧ o.contextAt a = c

namespace FacadeInv

variable {fh : FontHeap τ} {font : PdfFont τ}

theorem subtype_mem (hf : FacadeInv fh font) : font.skeleton.subtype ∈ loadedSubtypes := by
  obtain ⟨c, -, hc⟩ := hf.fits
  cases c <;> simp only [FontContext.Fits] at hc
  all_goals first
    | rw [hc]; decide
    | rcases hc with hc | hc | hc <;> rw [hc] <;> decide

theorem actualFont_isSome (hf : FacadeInv fh font) : font.actualFont.isSome := by
  obtain ⟨c, hc, hfit⟩ := hf.fits
  simp [PdfFont.actualFont_of_fits hc hfit]

theorem isCIDFont_iff (hf : FacadeInv fh font) :
    font.isCIDFont = true ↔ ∃ c, font.context = some c ∧ c.isCID = true := by
  obtain ⟨c, hc, hfit⟩ := hf.fits
  simp only [hc, Option.some.injEq, exists_eq_left', PdfFont.isCIDFont, FontSkeleton.isCIDFont]
  cases c <;> simp only [FontContext.Fits] at hfit <;> simp [hfit, FontContext.isCID] <;>
    rcases hfit with h | h | h <;> simp [h]

/-- A heap that keeps every object keeps every font's invariant. -/
theorem mono (hf : FacadeInv fh font) {fh' : FontHeap τ} (he : fh.Extends fh') :
    FacadeInv fh' font where
  fits := hf.fits
  points c a hc ha := by
    obtain ⟨o, ho, hctx⟩ := hf.points c a hc ha
    exact ⟨o, he a o ho, hctx⟩

/-- `SetEncoder` on any font keeps every font's invariant. -/
theorem setEncoder (hf : FacadeInv fh font) (g : PdfFont τ) (e : Option τ.TextEncoder) :
    FacadeInv (g.setEncoder e fh) font where
  fits := hf.fits
  points c a hc ha := by
    obtain ⟨o, ho, hctx⟩ := hf.points c a hc ha
    unfold PdfFont.setEncoder
    split
    · rename_i b _
      refine ⟨if b = a then o.setEncoder e else o, ?_, ?_⟩
      · rw [FontHeap.read?_modify, ho]; split <;> rfl
      · split <;> simp [hctx]
    · exact ⟨o, ho, hctx⟩

theorem of_alloc {o : FontObject τ} (hc : font.context = some (o.contextAt fh.size))
    (hfit : (o.contextAt fh.size).Fits font.skeleton.subtype) : FacadeInv (fh.alloc o).2 font where
  fits := ⟨_, hc, hfit⟩
  points c a hc' ha := by
    rw [hc, Option.some.injEq] at hc'
    subst hc'
    rw [FontObject.address_contextAt, Option.some.injEq] at ha
    subst ha
    exact ⟨o, FontHeap.read?_alloc_self fh o, rfl⟩

end FacadeInv

theorem FacadeInv.address_lt {fh : FontHeap τ} {font : PdfFont τ} (hf : FacadeInv fh font)
    {a : Nat} (ha : font.address? = some a) : a < fh.size := by
  obtain ⟨c, hc, ha'⟩ := Option.bind_eq_some.mp ha
  obtain ⟨o, ho, -⟩ := hf.points c a (PdfFont.context_of_actualFont hc) ha'
  exact FontHeap.lt_size_of_read? ho

/-! ## The constructors establish the invariant -/

section Load

variable (env : FontEnv τ) (h : Heap)

theorem loadFont_inv {L : PdfObject → FontHeap τ → Except FontError (PdfFont τ × FontHeap τ)}
    {o : PdfObject} {allow : Bool} {fh fh' : FontHeap τ} {font : PdfFont τ}
    (hf : loadFont env h L o allow fh = .ok (font, fh')) : FacadeInv fh' font := by
  obtain ⟨hs, hcase⟩ := loadFont_ok env h hf
  obtain ⟨-, -, hne, -⟩ := newFontSkeletonFromPdfObject_ok hs
  rcases hcase with ⟨hst, -, v, d, fh1, -, hc, rfl⟩ | ⟨hst, v, -, hc, rfl⟩ |
    ⟨hst, v, -, hc, rfl⟩ | ⟨hst, v, -, hc, rfl⟩
  · exact .of_alloc (o := .type0 v d) hc hst
  · exact .of_alloc (o := .simple v) hc (by simp only [FontObject.contextAt, FontContext.Fits]; tauto)
  · exact .of_alloc (o := .cidType0 v) hc hst
  · exact .of_alloc (o := .cidType2 v) hc hst

theorem loadFont_address_ge
    {L : PdfObject → FontHeap τ → Except FontError (PdfFont τ × FontHeap τ)}
    (hL : ∀ d fh fh' (f : PdfFont τ), L d fh = .ok (f, fh') → fh.Extends fh')
    {o : PdfObject} {allow : Bool} {fh fh' : FontHeap τ} {font : PdfFont τ} {a : Nat}
    (hf : loadFont env h L o allow fh = .ok (font, fh')) (ha : font.address? = some a) :
    fh.size ≤ a := by
  rcases (loadFont_ok env h hf).2 with ⟨-, -, v, d, fh1, ht, hc, -⟩ | ⟨-, v, -, hc, -⟩ |
    ⟨-, v, -, hc, -⟩ | ⟨-, v, -, hc, -⟩
  all_goals simp only [PdfFont.address?, PdfFont.actualFont, hc, Option.some_bind,
    FontContext.address?, Option.some.injEq] at ha
  · obtain ⟨df, hd, -⟩ := newPdfFontType0FromPdfObject_ok env h ht
    exact ha ▸ (hL _ _ _ _ hd).size_le
  all_goals omega

theorem loadFont_not_type0
    {L : PdfObject → FontHeap τ → Except FontError (PdfFont τ × FontHeap τ)}
    {o : PdfObject} {fh fh' : FontHeap τ} {font : PdfFont τ}
    (hf : loadFont env h L o false fh = .ok (font, fh')) :
    font.skeleton.subtype ≠ "Type0" ∧ ∀ a, font.context ≠ some (.type0 a) := by
  rcases (loadFont_ok env h hf).2 with ⟨-, hallow, -⟩ | ⟨hst, v, -, hc, -⟩ |
    ⟨hst, v, -, hc, -⟩ | ⟨hst, v, -, hc, -⟩
  · cases hallow
  all_goals refine ⟨?_, fun a => by simp [hc]⟩
  · rcases hst with h | h | h | h <;> rw [h] <;> decide
  all_goals rw [hst]; decide

theorem newPdfFontFromPdfObject_inv {o : PdfObject} {allow : Bool} {fh fh' : FontHeap τ}
    {font : PdfFont τ} (hf : newPdfFontFromPdfObject env h o allow fh = .ok (font, fh')) :
    FacadeInv fh' font :=
  loadFont_inv env h hf

theorem newPdfFontFromPdfObject_address_ge {o : PdfObject} {allow : Bool} {fh fh' : FontHeap τ}
    {font : PdfFont τ} {a : Nat} (hf : newPdfFontFromPdfObject env h o allow fh = .ok (font, fh'))
    (ha : font.address? = some a) : fh.size ≤ a :=
  loadFont_address_ge env h (fun _ _ _ _ hd => newPdfFontFromPdfObjectN_extends env h 1 hd) hf ha

end Load

theorem newStandard14Font_ok {name : String} {font : PdfFont τ}
    (hf : newStandard14Font name = .ok font) :
    ∃ std, font.context = some (.standard std) ∧ font.skeleton.subtype = "Type1" := by
  unfold newStandard14Font at hf
  split at hf
  · cases pure_eq_ok.mp hf
    exact ⟨_, rfl, rfl⟩
  · cases hf

theorem newStandard14Font_inv {name : String} {font : PdfFont τ}
    (hf : newStandard14Font name = .ok font) (fh : FontHeap τ) : FacadeInv fh font := by
  obtain ⟨std, hc, ht⟩ := newStandard14Font_ok hf
  refine ⟨⟨_, hc, .inl ht⟩, fun c a hc' ha => ?_⟩
  rw [hc, Option.some.injEq] at hc'
  subst hc'
  cases ha

theorem newStandard14Font_address {name : String} {font : PdfFont τ}
    (hf : newStandard14Font name = .ok font) : font.address? = none := by
  obtain ⟨std, hc, -⟩ := newStandard14Font_ok hf
  simp [PdfFont.address?, PdfFont.actualFont, hc, FontContext.address?]

/-- Every font either constructor returns satisfies the facade invariant: its subtype is one the
dispatch accepts, `isCIDFont` holds exactly of the composite variants, and `actualFont` is never
nil, so no method takes its not-implemented fallback. -/
theorem facade_invariant (env : FontEnv τ) (h : Heap) (font : PdfFont τ) (fh : FontHeap τ)
    (hf : (∃ name, newStandard14Font name = .ok font) ∨
      ∃ o allow fh₀, newPdfFontFromPdfObject env h o allow fh₀ = .ok (font, fh)) :
    FacadeInv fh font ∧ font.skeleton.subtype ∈ loadedSubtypes ∧
      (font.isCIDFont = true ↔ ∃ c, font.context = some c ∧ c.isCID = true) ∧
      font.actualFont.isSome := by
  have hi : FacadeInv fh font := by
    rcases hf with ⟨name, hf⟩ | ⟨o, allow, fh₀, hf⟩
    · exact newStandard14Font_inv hf fh
    · exact newPdfFontFromPdfObject_inv env h hf
  exact ⟨hi, hi.subtype_mem, hi.isCIDFont_iff, hi.actualFont_isSome⟩

theorem facade_invariant_sample_type0 :
    ∃ (font : PdfFont specTypes) (fh : FontHeap specTypes),
      newPdfFontFromPdfObject specFontEnv sampleHeap (.indirect 0) true [] = .ok (font, fh) ∧
      FacadeInv fh font ∧ font.skeleton.subtype ∈ loadedSubtypes ∧
      (font.isCIDFont = true ↔ ∃ c, font.context = some c ∧ c.isCID = true) ∧
      font.actualFont.isSome :=
  ⟨_, _, rfl, facade_invariant specFontEnv sampleHeap _ _ (.inr ⟨.indirect 0, true, [], rfl⟩)⟩

/-! ## Type0 fonts -/

theorem type0_descendant (env : FontEnv τ) (h : Heap) {o : PdfObject} {fh fh' : FontHeap τ}
    {font : PdfFont τ} {a : Nat} (hf : newPdfFontFromPdfObject env h o true fh = .ok (font, fh'))
    (ha : font.context = some (.type0 a)) :
    ∃ v d, fh'.read? a = some (.type0 v d) ∧
      d.skeleton.subtype ∈ loadedSubtypes.erase "Type0" ∧
      ∀ n, font.subtypeN fh' (n + 2) = some ("Type0:" ++ d.skeleton.subtype) := by
  rcases (loadFont_ok env h hf).2 with ⟨hst, -, v, d, fh1, ht, hc, rfl⟩ | ⟨-, v, -, hc, -⟩ |
    ⟨-, v, -, hc, -⟩ | ⟨-, v, -, hc, -⟩
  · rw [hc, Option.some.injEq, FontContext.type0.injEq] at ha
    subst ha
    obtain ⟨df, hd, -⟩ := newPdfFontType0FromPdfObject_ok env h ht
    have hnd := loadFont_not_type0 env h hd
    refine ⟨v, d, FontHeap.read?_alloc_self _ _,
      (List.mem_erase_of_ne hnd.1).mpr (loadFont_inv env h hd).subtype_mem, fun n => ?_⟩
    rw [PdfFont.subtypeN]
    simp only [hc, FontHeap.read?_alloc_self, PdfFont.subtypeN_of_not_type0 hnd.2,
      Option.map_some', hst]
    rfl
  all_goals simp [hc] at ha

/-- The recursion of `newPdfFontFromPdfObject` through the Type0 constructor is two deep: a call
with Type0 disallowed never reaches its descendant loader and returns no Type0 font, so depth 2
is the result of every deeper cut, and a loaded Type0 font's descendant is a font of another
subtype, which `Subtype` reaches in one step. -/
theorem type0_depth_two (env : FontEnv τ) (h : Heap) :
    (∀ L L' o fh, loadFont env h L o false fh = loadFont env h L' o false fh) ∧
    (∀ n o allow fh, newPdfFontFromPdfObjectN env h (n + 2) o allow fh =
      newPdfFontFromPdfObject env h o allow fh) ∧
    (∀ o fh (font : PdfFont τ) fh', newPdfFontFromPdfObject env h o false fh = .ok (font, fh') →
      font.skeleton.subtype ≠ "Type0" ∧ ∀ a, font.context ≠ some (.type0 a)) ∧
    (∀ o fh (font : PdfFont τ) fh' a, newPdfFontFromPdfObject env h o true fh = .ok (font, fh') →
      font.context = some (.type0 a) → ∃ v d, fh'.read? a = some (.type0 v d) ∧
        d.skeleton.subtype ∈ loadedSubtypes.erase "Type0" ∧
        ∀ n, font.subtypeN fh' (n + 2) = some ("Type0:" ++ d.skeleton.subtype)) :=
  ⟨loadFont_descendant_irrelevant env h, newPdfFontFromPdfObjectN_stable env h,
    fun _ _ _ _ hf => loadFont_not_type0 env h hf, fun _ _ _ _ _ hf ha => type0_descendant env h hf ha⟩

/-! ## `SetEncoder` -/

section SetEncoder

variable (env : FontEnv τ) {fh : FontHeap τ}

theorem encoder_setEncoder_self {font : PdfFont τ} (hf : FacadeInv fh font) {a : Nat}
    (ha : font.address? = some a) (e : Option τ.TextEncoder) :
    font.encoder env (font.setEncoder e fh) = e := by
  obtain ⟨c, hc, hca⟩ := Option.bind_eq_some.mp ha
  obtain ⟨o, ho, -⟩ := hf.points c a (PdfFont.context_of_actualFont hc) hca
  have hs : font.setEncoder e fh = fh.modify a (FontObject.setEncoder e) := by
    simp only [PdfFont.setEncoder, ha]
  rw [PdfFont.encoder, hc, Option.some_bind, PdfFont.variantEncoder_of_address hca, hs,
    FontHeap.read?_modify, if_pos rfl, ho]
  simp

theorem encoder_setEncoder_of_ne {font g : PdfFont τ} (e : Option τ.TextEncoder)
    (hne : ∀ a, font.address? = some a → g.address? ≠ some a) :
    g.encoder env (font.setEncoder e fh) = g.encoder env fh := by
  refine PdfFont.encoder_congr fun b hb => ?_
  unfold PdfFont.setEncoder
  split
  · rename_i a ha
    rw [FontHeap.read?_modify, if_neg]
    rintro rfl
    exact hne a ha hb
  · rfl

theorem setEncoder_standard14 {name : String} {font : PdfFont τ}
    (hf : newStandard14Font name = .ok font) (e : Option τ.TextEncoder) (fh : FontHeap τ) :
    font.setEncoder e fh = fh := by
  simp only [PdfFont.setEncoder, newStandard14Font_address hf]

end SetEncoder

/-- `NewStandard14Font("Helvetica")`, then `SetEncoder` with MacRomanEncoding: `Encoder()` still
returns the standard font's own encoder. -/
theorem helvetica_setEncoder_keeps_standard_encoding :
    ∃ font : PdfFont specTypes, newStandard14Font "Helvetica" = .ok font ∧
      font.encoder specFontEnv (font.setEncoder (some "MacRomanEncoding") []) =
        some "StandardEncoding" :=
  ⟨_, rfl, by rw [setEncoder_standard14 (show newStandard14Font "Helvetica" = _ from rfl)]; rfl⟩

/-! ## Runs of the facade -/

/-- The calls a client makes on the facade: load a font, make a standard font, and set the
encoder of the `i`-th font it holds. -/
inductive FacadeCall (τ : Types) where
  | load (fontObj : PdfObject) (allowType0 : Bool)
  | standard14 (basefont : String)
  | setEncoder (i : Nat) (e : Option τ.TextEncoder)

/-- The fonts a client holds, in the order it got them, and the objects of their variants. -/
structure Session (τ : Types) where
  fonts : List (PdfFont τ)
  heap : FontHeap τ

theorem getElem?_snoc {α : Type} {l : List α} {x y : α} {i : Nat} (h : (l ++ [x])[i]? = some y) :
    l[i]? = some y ∨ (i = l.length ∧ y = x) := by
  rcases Nat.lt_or_ge i l.length with hi | hi
  · exact .inl (by rwa [List.getElem?_append_left hi] at h)
  · rw [List.getElem?_append_right hi] at h
    obtain ⟨hlt, he⟩ := List.getElem?_eq_some_iff.mp h
    simp only [List.length_singleton] at hlt
    exact .inr ⟨by omega, by simpa using he.symm⟩

namespace Session

variable (env : FontEnv τ) (h : Heap)

/-- One call. A call that fails leaves the session as it was. -/
def step (s : Session τ) : FacadeCall τ → Session τ
  | .load o allow =>
    match newPdfFontFromPdfObject env h o allow s.heap with
    | .ok (font, fh) => ⟨s.fonts ++ [font], fh⟩
    | .error _ => s
  | .standard14 name =>
    match newStandard14Font name with
    | .ok font => ⟨s.fonts ++ [font], s.heap⟩
    | .error _ => s
  | .setEncoder i e =>
    match s.fonts[i]? with
    | some font => ⟨s.fonts, font.setEncoder e s.heap⟩
    | none => s

/-- A run of calls. -/
def run (s : Session τ) (calls : List (FacadeCall τ)) : Session τ :=
  calls.foldl (step env h) s

/-- Every font held satisfies the facade invariant, and no two hold one pointer. -/
structure Inv (s : Session τ) : Prop where
  facade : ∀ font ∈ s.fonts, FacadeInv s.heap font
  distinct : ∀ (i j : Nat) (f g : PdfFont τ) (a : Nat), s.fonts[i]? = some f → s.fonts[j]? = some g →
    f.address? = some a → g.address? = some a → i = j

theorem inv_empty : (⟨[], []⟩ : Session τ).Inv := ⟨by simp, by simp⟩

theorem Inv.snoc {s : Session τ} (hs : s.Inv) {font : PdfFont τ} {fh : FontHeap τ}
    (he : s.heap.Extends fh) (hf : FacadeInv fh font)
    (hfresh : ∀ a, font.address? = some a → s.heap.size ≤ a) :
    (⟨s.fonts ++ [font], fh⟩ : Session τ).Inv where
  facade g hg := by
    rcases List.mem_append.mp hg with hg | hg
    · exact (hs.facade g hg).mono he
    · rw [List.mem_singleton.mp hg]
      exact hf
  distinct i j f g a hi hj hfa hga := by
    have old {k : Nat} {f : PdfFont τ} (hk : s.fonts[k]? = some f) (ha : f.address? = some a) :
        a < s.heap.size := (hs.facade f (List.getElem?_mem hk)).address_lt ha
    rcases getElem?_snoc hi with hio | ⟨rfl, rfl⟩ <;> rcases getElem?_snoc hj with hjo | ⟨rfl, rfl⟩
    · exact hs.distinct i j f g a hio hjo hfa hga
    · exact absurd (hfresh a hga) (by have := old hio hfa; omega)
    · exact absurd (hfresh a hfa) (by have := old hjo hga; omega)
    · rfl

theorem step_inv {s : Session τ} (hs : s.Inv) (c : FacadeCall τ) : (s.step env h c).Inv := by
  cases c with
  | load o allow =>
    simp only [step]
    split
    next font fh hf =>
      exact hs.snoc (newPdfFontFromPdfObjectN_extends env h 2 hf)
        (newPdfFontFromPdfObject_inv env h hf) fun _ ha => newPdfFontFromPdfObject_address_ge env h hf ha
    next => exact hs
  | standard14 name =>
    simp only [step]
    split
    next font hf =>
      exact hs.snoc (FontHeap.Extends.refl _) (newStandard14Font_inv hf _)
        fun _ ha => by simp [newStandard14Font_address hf] at ha
    next => exact hs
  | setEncoder i e =>
    simp only [step]
    split
    next => exact ⟨fun g hg => (hs.facade g hg).setEncoder _ e, hs.distinct⟩
    next => exact hs

/-- Every run keeps the invariant. -/
theorem run_inv {s : Session τ} (hs : s.Inv) (calls : List (FacadeCall τ)) :
    (s.run env h calls).Inv := by
  induction calls generalizing s with
  | nil => exact hs
  | cons c calls ih => exact ih (step_inv env h hs c)

/-- Every session reached from none, by any calls, satisfies the invariant. -/
theorem reachable_inv (calls : List (FacadeCall τ)) : (run env h ⟨[], []⟩ calls).Inv :=
  run_inv env h inv_empty calls

/-- In every session reached from none, `SetEncoder` on the `i`-th font sets its encoder when it
has a variant pointer, and leaves the encoder of every other font held as it was. -/
theorem setEncoder_frame (calls : List (FacadeCall τ)) {i : Nat} {font : PdfFont τ}
    (hi : (run env h ⟨[], []⟩ calls).fonts[i]? = some font) (e : Option τ.TextEncoder) :
    let s := run env h ⟨[], []⟩ calls
    (font.address?.isSome → font.encoder env (s.step env h (.setEncoder i e)).heap = e) ∧
    ∀ j g, s.fonts[j]? = some g → j ≠ i →
      g.encoder env (s.step env h (.setEncoder i e)).heap = g.encoder env s.heap := by
  intro s
  have hs : s.Inv := run_inv env h inv_empty calls
  have hstep : s.step env h (.setEncoder i e) = ⟨s.fonts, font.setEncoder e s.heap⟩ := by
    simp only [step, hi]
  rw [hstep]
  refine ⟨fun ha => ?_, fun j g hj hji => ?_⟩
  · obtain ⟨a, ha⟩ := Option.isSome_iff_exists.mp ha
    exact encoder_setEncoder_self env (hs.facade font (List.getElem?_mem hi)) ha e
  · exact encoder_setEncoder_of_ne env e fun a ha hg => hji (hs.distinct j i g font a hj hi hg ha)

end Session

theorem setEncoder_frame_sample :
    ∃ font : PdfFont specTypes,
      (Session.run specFontEnv sampleHeap ⟨[], []⟩
        [.load (.indirect 0) true, .load (.indirect 3) true, .standard14 "Courier"]).fonts[1]? =
          some font ∧
      let s := Session.run specFontEnv sampleHeap ⟨[], []⟩
        [.load (.indirect 0) true, .load (.indirect 3) true, .standard14 "Courier"]
      (font.address?.isSome → font.encoder specFontEnv
          (s.step specFontEnv sampleHeap (.setEncoder 1 (some "MacRomanEncoding"))).heap =
            some "MacRomanEncoding") ∧
      ∀ j g, s.fonts[j]? = some g → j ≠ 1 →
        g.encoder specFontEnv
            (s.step specFontEnv sampleHeap (.setEncoder 1 (some "MacRomanEncoding"))).heap =
          g.encoder specFontEnv s.heap :=
  ⟨_, rfl, Session.setEncoder_frame specFontEnv sampleHeap _ rfl (some "MacRomanEncoding")⟩

end UniPdf.Model
