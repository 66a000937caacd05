import UniPdf.Model.Facade

/-!
# The standard-14 short-circuit

A Type1 font whose `BaseFont` is one of the 14 standard names is loaded from the standard font's
own dictionary, `TraceToDirectObject(std.ToPdfObject())`, and not from the document's. The
variant it loads depends on the document's dictionary through the name only
(`loadSimpleFont_standard14`), and so does what `ToPdfObject` writes for it
(`toPdfObject_standard14`): the encoding the dictionary declares is not read, and its `ToUnicode`
stream, kept in the facade's skeleton, is not written.
-/

namespace UniPdf.Model

open UniPdf.Core

variable {τ : Types}

section

variable (env : FontEnv τ) (h : Heap)

/-- Two Type1 skeletons with one standard name load the same simple font, whatever else their
dictionaries hold. -/
theorem loadSimpleFont_standard14 {skeleton skeleton' : FontSkeleton τ}
    (hname : skeleton'.basefont = skeleton.basefont)
    (hstd : (standard14Fonts skeleton.basefont).isSome) (ht : skeleton.subtype = "Type1")
    (ht' : skeleton'.subtype = "Type1") :
    loadSimpleFont env h skeleton' = loadSimpleFont env h skeleton := by
  obtain ⟨std, hs⟩ := Option.isSome_iff_exists.mp hstd
  simp only [loadSimpleFont, hname, hs, ht, ht', beq_self_eq_true]

theorem loadFont_type1 {L : PdfObject → FontHeap τ → Except FontError (PdfFont τ × FontHeap τ)}
    {o : PdfObject} {allow : Bool} {fh fh' : FontHeap τ} {font : PdfFont τ}
    (hf : loadFont env h L o allow fh = .ok (font, fh')) (ht : font.skeleton.subtype = "Type1") :
    ∃ v, loadSimpleFont env h font.skeleton = .ok v ∧ font.context = some (.simple fh.size) ∧
      fh' = (fh.alloc (.simple v)).2 := by
  rcases (loadFont_ok env h hf).2 with ⟨h0, -⟩ | ⟨-, hv⟩ | ⟨h0, -⟩ | ⟨h0, -⟩
  case inr.inl => exact hv
  all_goals exact absurd (ht.symm.trans h0) (by decide)

/-- Two Type1 fonts with one standard name, loaded into one heap, are written alike by
`ToPdfObject`, whatever else their dictionaries hold. -/
theorem toPdfObject_standard14 {o o' : PdfObject} {allow allow' : Bool}
    {fh fh₁ fh₂ : FontHeap τ} {f g : PdfFont τ}
    (hf : newPdfFontFromPdfObject env h o allow fh = .ok (f, fh₁))
    (hg : newPdfFontFromPdfObject env h o' allow' fh = .ok (g, fh₂))
    (hname : g.baseFont = f.baseFont) (hstd : (standard14Fonts f.baseFont).isSome)
    (ht : f.skeleton.subtype = "Type1") (ht' : g.skeleton.subtype = "Type1") (h' : Heap) :
    g.toPdfObject env fh₂ h' = f.toPdfObject env fh₁ h' := by
  obtain ⟨v, hv, hcf, rfl⟩ := loadFont_type1 env h hf ht
  obtain ⟨v', hv', hcg, rfl⟩ := loadFont_type1 env h hg ht'
  rw [loadSimpleFont_standard14 env h hname hstd ht ht', hv] at hv'
  cases hv'
  simp only [PdfFont.toPdfObject, PdfFont.actualFont, hcf, hcg]

end

theorem toPdfObject_standard14_sample :
    ∃ (f g : PdfFont specTypes) (fh₁ fh₂ : FontHeap specTypes),
      newPdfFontFromPdfObject specFontEnv sampleHeap (.indirect 3) true [] = .ok (f, fh₁) ∧
      newPdfFontFromPdfObject specFontEnv sampleHeap (.indirect 5) true [] = .ok (g, fh₂) ∧
      g.toPdfObject specFontEnv fh₂ sampleHeap = f.toPdfObject specFontEnv fh₁ sampleHeap :=
  ⟨_, _, _, _, rfl, rfl, toPdfObject_standard14 specFontEnv sampleHeap
    (show newPdfFontFromPdfObject specFontEnv sampleHeap (.indirect 3) true [] = _ from rfl)
    (show newPdfFontFromPdfObject specFontEnv sampleHeap (.indirect 5) true [] = _ from rfl)
    rfl rfl rfl rfl _⟩

/-- The Helvetica font of the sample document declares the MacRoman encoding, which the general
simple-font branch reads from its dictionary; the loaded font has the standard encoding. -/
theorem helvetica_encoding_ignored :
    ∃ (font : PdfFont specTypes) (fh : FontHeap specTypes),
      newPdfFontFromPdfObject specFontEnv sampleHeap (.indirect 3) true [] = .ok (font, fh) ∧
      font.encoder specFontEnv fh = some "StandardEncoding" ∧
      FontVariant.encoder <$> (do
        let simplefont ← specFontEnv.newSimpleFontFromPdfObject sampleHeap font.skeleton false
        specFontEnv.addEncoding sampleHeap simplefont) = .ok (some "MacRomanEncoding") :=
  ⟨_, _, rfl, rfl, rfl⟩

/-- The Helvetica font of the sample document has its own `ToUnicode` CMap; loading what its
`ToPdfObject` writes gives a font of the same name and subtype without one. -/
theorem helvetica_toUnicode_lost :
    ∃ (f g : PdfFont specTypes) (fh fh' : FontHeap specTypes),
      newPdfFontFromPdfObject specFontEnv sampleHeap (.indirect 3) true [] = .ok (f, fh) ∧
      newPdfFontFromPdfObject specFontEnv (f.toPdfObject specFontEnv fh sampleHeap).1
        (f.toPdfObject specFontEnv fh sampleHeap).2 true fh = .ok (g, fh') ∧
      g.baseFont = f.baseFont ∧ g.skeleton.subtype = f.skeleton.subtype ∧
      f.skeleton.toUnicodeCmap.isSome ∧ g.skeleton.toUnicodeCmap = none :=
  ⟨_, _, _, _, rfl, rfl, rfl, rfl, rfl, rfl⟩

end UniPdf.Model
