import UniPdf.Model.Basic

/-!
# Font descriptors

`PdfFontDescriptor`, `newPdfFontDescriptorFromPdfObject` and `ToPdfObject` of font.go. The
descriptor's 25 passthrough fields are one field `entry` indexed by `DescriptorField`: the
loader sets every one of them by `d.Get` of its own key, and the serializer writes each that is
set under its own key, all but one: its `Style` line writes `FontName` instead
(`get_toPdfObjectDict`).

The loader keeps the `*PdfIndirectObject` it was given as the descriptor's `container`, and the
serializer writes the new dictionary into it, or into a new object it keeps as the container, so
serializing changes the heap; serializing again changes nothing (`toPdfObject_again`).
-/

namespace UniPdf.Model

open UniPdf.Core

/-- The passthrough fields of `PdfFontDescriptor`, in the order of the struct. -/
inductive DescriptorField where
  | fontName | fontFamily | fontStretch | fontWeight | flags | fontBBox | italicAngle | ascent
  | descent | leading | capHeight | xHeight | stemV | stemH | avgWidth | maxWidth | missingWidth
  | fontFile | fontFile2 | fontFile3 | charSet | style | lang | fd | cidSet
  deriving DecidableEq, Repr

namespace DescriptorField

/-- The dictionary key of a field. -/
def key : DescriptorField → String
  | fontName => "FontName" | fontFamily => "FontFamily" | fontStretch => "FontStretch"
  | fontWeight => "FontWeight" | flags => "Flags" | fontBBox => "FontBBox"
  | italicAngle => "ItalicAngle" | ascent => "Ascent" | descent => "Descent"
  | leading => "Leading" | capHeight => "CapHeight" | xHeight => "XHeight" | stemV => "StemV"
  | stemH => "StemH" | avgWidth => "AvgWidth" | maxWidth => "MaxWidth"
  | missingWidth => "MissingWidth" | fontFile => "FontFile" | fontFile2 => "FontFile2"
  | fontFile3 => "FontFile3" | charSet => "CharSet" | style => "Style" | lang => "Lang"
  | fd => "FD" | cidSet => "CIDSet"

/-- The field of a key. -/
def ofKey : String → Option DescriptorField
  | "FontName" => some fontName | "FontFamily" => some fontFamily
  | "FontStretch" => some fontStretch | "FontWeight" => some fontWeight | "Flags" => some flags
  | "FontBBox" => some fontBBox | "ItalicAngle" => some italicAngle | "Ascent" => some ascent
  | "Descent" => some descent | "Leading" => some leading | "CapHeight" => some capHeight
  | "XHeight" => some xHeight | "StemV" => some stemV | "StemH" => some stemH
  | "AvgWidth" => some avgWidth | "MaxWidth" => some maxWidth
  | "MissingWidth" => some missingWidth | "FontFile" => some fontFile
  | "FontFile2" => some fontFile2 | "FontFile3" => some fontFile3 | "CharSet" => some charSet
  | "Style" => some style | "Lang" => some lang | "FD" => some fd | "CIDSet" => some cidSet
  | _ => none

theorem ofKey_key (k : DescriptorField) : ofKey k.key = some k := by
  cases k <;> rfl

theorem key_inj {k k' : DescriptorField} : k.key = k'.key ↔ k = k' :=
  ⟨fun h => Option.some.inj ((ofKey_key k).symm.trans (h ▸ ofKey_key k')), congrArg key⟩

end DescriptorField

/-- `PdfFontDescriptor`: the passthrough fields `FontName` to `CIDSet`, the programs read from
`FontFile` and `FontFile2`, and the indirect object it was loaded from. -/
structure PdfFontDescriptor (τ : Types) where
  entry : DescriptorField → Option PdfObject
  fontFile : Option τ.FontFile
  fontFile2 : Option τ.TtfType
  container : Option Nat

variable {τ : Types}

/-- A descriptor given through a `*PdfIndirectObject`: its place and the object inside. -/
def unwrapContainer (h : Heap) : PdfObject → Option Nat × PdfObject
  | .indirect a => (some a, h.read a)
  | obj => (none, obj)

/-- `if descriptor.X != nil { x, err := parse(descriptor.X) ... }`: the program of `field`,
parsed and stored when the entry is set. -/
def readProgram {α : Type} (field : DescriptorField) (parse : Heap → PdfObject → Except FontError α)
    (store : PdfFontDescriptor τ → α → PdfFontDescriptor τ) (h : Heap) (p : PdfFontDescriptor τ) :
    Except FontError (PdfFontDescriptor τ) :=
  match p.entry field with
  | some ff => do pure (store p (← parse h ff))
  | none => pure p

def readFontFile (env : Env τ) : Heap → PdfFontDescriptor τ → Except FontError (PdfFontDescriptor τ) :=
  readProgram .fontFile env.newFontFileFromPdfObject fun p x => { p with fontFile := some x }

def readFontFile2 (env : Env τ) : Heap → PdfFontDescriptor τ → Except FontError (PdfFontDescriptor τ) :=
  readProgram .fontFile2 env.newFontFile2FromPdfObject fun p x => { p with fontFile2 := some x }

/-- `newPdfFontDescriptorFromPdfObject`. The `Type` and `FontName` checks only log. -/
def newPdfFontDescriptorFromPdfObject (env : Env τ) (h : Heap) (obj : PdfObject) :
    Except FontError (PdfFontDescriptor τ) :=
  match unwrapContainer h obj with
  | (container, .dict d) => do
    let descriptor : PdfFontDescriptor τ :=
      { entry := fun k => Dict.get d k.key, fontFile := none, fontFile2 := none, container }
    let descriptor ← readFontFile env h descriptor
    readFontFile2 env h descriptor
  | _ => throw .typeError

section ReadProgram

variable {α : Type} {field : DescriptorField} {parse : Heap → PdfObject → Except FontError α}
  {store : PdfFontDescriptor τ → α → PdfFontDescriptor τ} {h : Heap}

theorem readProgram_entry {p p' : PdfFontDescriptor τ} (hp : readProgram field parse store h p = .ok p')
    (hstore : ∀ p x, (store p x).entry = p.entry ∧ (store p x).container = p.container) :
    p'.entry = p.entry ∧ p'.container = p.container := by
  unfold readProgram at hp
  split at hp
  · obtain ⟨x, -, hp⟩ := bind_eq_ok.mp hp
    exact pure_eq_ok.mp hp ▸ hstore p x
  · exact pure_eq_ok.mp hp ▸ ⟨rfl, rfl⟩

theorem readProgram_ok_iff {p : PdfFontDescriptor τ} :
    (∃ p', readProgram field parse store h p = .ok p') ↔
      ∀ ff, p.entry field = some ff → ∃ x, parse h ff = .ok x := by
  unfold readProgram
  split
  next ff hff =>
    cases hx : parse h ff <;> simp [hff, hx, bind, Except.bind, pure, Except.pure]
  next hnone => simp [hnone, pure_eq_ok]

end ReadProgram

theorem entry_of_load {env : Env τ} {h : Heap} {obj : PdfObject} {p : PdfFontDescriptor τ}
    (hp : newPdfFontDescriptorFromPdfObject env h obj = .ok p) :
    ∃ d, unwrapContainer h obj = (p.container, .dict d) ∧ ∀ k, p.entry k = Dict.get d k.key := by
  unfold newPdfFontDescriptorFromPdfObject at hp
  split at hp
  · rename_i container d hu
    obtain ⟨p1, h1, h2⟩ := bind_eq_ok.mp hp
    obtain ⟨he1, hc1⟩ := readProgram_entry h1 fun _ _ => ⟨rfl, rfl⟩
    obtain ⟨he2, hc2⟩ := readProgram_entry h2 fun _ _ => ⟨rfl, rfl⟩
    exact ⟨d, by rw [hu, hc2, hc1], fun k => by rw [he2, he1]⟩
  · cases hp

/-- The descriptor loader succeeds exactly on a dictionary, given directly or by one indirect
object, whose `FontFile` and `FontFile2` programs, if any, parse. -/
theorem newPdfFontDescriptorFromPdfObject_ok_iff {env : Env τ} {h : Heap} {obj : PdfObject} :
    (∃ p : PdfFontDescriptor τ, newPdfFontDescriptorFromPdfObject env h obj = .ok p) ↔
      ∃ (c : Option Nat) (d : Dict), unwrapContainer h obj = (c, .dict d) ∧
        (∀ ff, d.get "FontFile" = some ff → ∃ x, env.newFontFileFromPdfObject h ff = .ok x) ∧
        (∀ ff, d.get "FontFile2" = some ff → ∃ x, env.newFontFile2FromPdfObject h ff = .ok x) := by
  unfold newPdfFontDescriptorFromPdfObject
  split
  next c d hu =>
    constructor
    · rintro ⟨p, hp⟩
      obtain ⟨p1, h1, h2⟩ := bind_eq_ok.mp hp
      have hff2 := readProgram_ok_iff.mp ⟨p, h2⟩
      rw [(readProgram_entry h1 fun _ _ => ⟨rfl, rfl⟩).1] at hff2
      exact ⟨c, d, hu, readProgram_ok_iff.mp ⟨p1, h1⟩, hff2⟩
    · rintro ⟨c', d', hu', hff, hff2⟩
      rw [hu, Prod.mk.injEq, PdfObject.dict.injEq] at hu'
      obtain ⟨rfl, rfl⟩ := hu'
      obtain ⟨p1, h1⟩ : ∃ p1, readFontFile env h ⟨fun k => Dict.get d k.key, none, none, c⟩ = .ok p1 :=
        readProgram_ok_iff.mpr hff
      obtain ⟨p2, h2⟩ : ∃ p2, readFontFile2 env h p1 = .ok p2 := readProgram_ok_iff.mpr
        (by rw [(readProgram_entry h1 fun _ _ => ⟨rfl, rfl⟩).1]; exact hff2)
      exact ⟨p2, bind_eq_ok.mpr ⟨p1, h1, h2⟩⟩
  next hne =>
    constructor
    · rintro ⟨p, ⟨⟩⟩
    · rintro ⟨c, d, hu, -⟩
      exact absurd hu (hne c d)

theorem read_of_unwrapContainer {h : Heap} {obj : PdfObject} {a : Nat} {d : Dict}
    (hu : unwrapContainer h obj = (some a, .dict d)) : h.read a = .dict d := by
  unfold unwrapContainer at hu
  split at hu
  · simp only [Prod.mk.injEq, Option.some.injEq] at hu
    obtain ⟨rfl, hd⟩ := hu
    exact hd
  · cases hu

theorem container_lt {h : Heap} {obj : PdfObject} {a : Nat} {d : Dict}
    (hu : unwrapContainer h obj = (some a, .dict d)) : a < List.length h := by
  have hd := read_of_unwrapContainer hu
  by_contra hlt
  rw [Heap.read, List.getD_eq_getElem?_getD, List.getElem?_eq_none (by omega)] at hd
  cases hd

/-! ## `ToPdfObject` -/

namespace PdfFontDescriptor

/-- `if this.X != nil { d.Set("X", this.X) }`. -/
def setEntry (p : PdfFontDescriptor τ) (d : Dict) (k : DescriptorField) : Dict :=
  match p.entry k with
  | some v => d.set k.key (some v)
  | none => d

/-- The fields `ToPdfObject` writes before its `Style` line, in its order. -/
def fieldsBeforeStyle : List DescriptorField :=
  [.fontName, .fontFamily, .fontStretch, .fontWeight, .flags, .fontBBox, .italicAngle, .ascent,
    .descent, .leading, .capHeight, .xHeight, .stemV, .stemH, .avgWidth, .maxWidth, .missingWidth,
    .fontFile, .fontFile2, .fontFile3, .charSet]

/-- The fields `ToPdfObject` writes after its `Style` line. -/
def fieldsAfterStyle : List DescriptorField := [.lang, .fd, .cidSet]

/-- The dictionary `ToPdfObject` builds. Its `Style` line is
`if this.Style != nil { d.Set("FontName", this.FontName) }`. -/
def toPdfObjectDict (p : PdfFontDescriptor τ) : Dict :=
  let d := Dict.empty.set "Type" (some (.name "FontDescriptor"))
  let d := fieldsBeforeStyle.foldl p.setEntry d
  let d := if (p.entry .style).isSome then d.set "FontName" (p.entry .fontName) else d
  fieldsAfterStyle.foldl p.setEntry d

/-- `ToPdfObject`: the dictionary, written into the container, or into a new one. -/
def toPdfObject (p : PdfFontDescriptor τ) (h : Heap) : Heap × PdfObject :=
  match p.container with
  | some a => (h.write a (.dict p.toPdfObjectDict), .indirect a)
  | none =>
    let (a, h) := h.alloc (.dict p.toPdfObjectDict)
    (h, .indirect a)

/-- The receiver after `ToPdfObject`: a descriptor without a container keeps the
`&core.PdfIndirectObject{}` it made, the object allocated in `h`. -/
def afterToPdfObject (p : PdfFontDescriptor τ) (h : Heap) : PdfFontDescriptor τ :=
  { p with container := some (p.container.getD (List.length h)) }

theorem get_setEntry (p : PdfFontDescriptor τ) (d : Dict) (k k' : DescriptorField) :
    (p.setEntry d k').get k.key = if k = k' ∧ (p.entry k).isSome then p.entry k else d.get k.key := by
  unfold setEntry
  by_cases hk : k = k'
  · subst hk; cases p.entry k <;> simp
  · have : k.key ≠ k'.key := fun h => hk (DescriptorField.key_inj.mp h)
    cases p.entry k' <;> simp [hk, this]

theorem get_foldl_setEntry (p : PdfFontDescriptor τ) (ks : List DescriptorField) (d : Dict)
    (k : DescriptorField) :
    (ks.foldl p.setEntry d).get k.key = if k ∈ ks ∧ (p.entry k).isSome then p.entry k
      else d.get k.key := by
  induction ks generalizing d with
  | nil => simp
  | cons k' ks ih =>
    rw [List.foldl_cons, ih, get_setEntry]
    by_cases hk : k = k' <;> cases he : p.entry k <;> simp [hk, he]

theorem field_cases (k : DescriptorField) :
    k = .style ∨ (k ∈ fieldsBeforeStyle ∧ k ∉ fieldsAfterStyle) ∨
      (k ∈ fieldsAfterStyle ∧ k ∉ fieldsBeforeStyle ∧ k ≠ .fontName) := by
  cases k <;> decide

theorem key_ne_type (k : DescriptorField) : k.key ≠ "Type" := fun h => by
  have hk := DescriptorField.ofKey_key k
  rw [h, show DescriptorField.ofKey "Type" = none from rfl] at hk
  cases hk

theorem get_type_toPdfObjectDict (p : PdfFontDescriptor τ) :
    p.toPdfObjectDict.get "Type" = some (.name "FontDescriptor") := by
  have hkeep (ks : List DescriptorField) (d : Dict) :
      (ks.foldl p.setEntry d).get "Type" = d.get "Type" := by
    induction ks generalizing d with
    | nil => rfl
    | cons k ks ih =>
      rw [List.foldl_cons, ih]
      unfold setEntry
      split <;> simp [(key_ne_type k).symm]
  simp only [toPdfObjectDict, hkeep]
  split <;> simp [hkeep]

/-- What the serialized dictionary holds under each field's key: the field, but nothing under
`Style`. -/
theorem get_toPdfObjectDict (p : PdfFontDescriptor τ) (k : DescriptorField) :
    p.toPdfObjectDict.get k.key = if k = .style then none else p.entry k := by
  have hfn : k.key = "FontName" ↔ k = .fontName := @DescriptorField.key_inj k .fontName
  have hstyle : (if (p.entry .style).isSome then
      (fieldsBeforeStyle.foldl p.setEntry (Dict.empty.set "Type" (some (.name "FontDescriptor")))).set
        "FontName" (p.entry .fontName)
      else fieldsBeforeStyle.foldl p.setEntry (Dict.empty.set "Type" (some (.name "FontDescriptor")))).get
        k.key = if (p.entry .style).isSome ∧ k = .fontName then p.entry .fontName
      else if k ∈ fieldsBeforeStyle ∧ (p.entry k).isSome then p.entry k else none := by
    split_ifs <;> simp_all [get_foldl_setEntry, key_ne_type]
  simp only [toPdfObjectDict, get_foldl_setEntry, hstyle]
  rcases field_cases k with rfl | ⟨hb, ha⟩ | ⟨ha, hb, hn⟩
  · simp [fieldsBeforeStyle, fieldsAfterStyle]
  · have hs : k ≠ .style := by rintro rfl; exact absurd hb (by decide)
    rw [if_neg hs]
    cases he : p.entry k <;> by_cases hk : k = .fontName <;> simp_all
  · have hs : k ≠ .style := by rintro rfl; exact absurd ha (by decide)
    rw [if_neg hs]
    cases he : p.entry k <;> simp_all

/-- `ToPdfObject` is idempotent: called again on the descriptor it left, in the heap it wrote, it
writes the same dictionary into the same object and returns that object, and leaves the
descriptor as it is, so a writer may serialize one descriptor any number of times and get one
object. -/
theorem toPdfObject_again (p : PdfFontDescriptor τ) (h : Heap) :
    (p.afterToPdfObject h).toPdfObject (p.toPdfObject h).1 = p.toPdfObject h ∧
      (p.afterToPdfObject h).afterToPdfObject (p.toPdfObject h).1 = p.afterToPdfObject h := by
  have hd : (p.afterToPdfObject h).toPdfObjectDict = p.toPdfObjectDict := rfl
  refine ⟨?_, rfl⟩
  simp only [toPdfObject, hd]
  cases hc : p.container with
  | some a => simp [afterToPdfObject, hc, Heap.write]
  | none => simp [afterToPdfObject, hc, Heap.alloc, Heap.write]

end PdfFontDescriptor

theorem unwrapContainer_toPdfObject {h : Heap} {p : PdfFontDescriptor τ}
    (hc : ∀ a, p.container = some a → a < List.length h) :
    ∃ c, unwrapContainer (p.toPdfObject h).1 (p.toPdfObject h).2 =
      (c, .dict p.toPdfObjectDict) := by
  unfold PdfFontDescriptor.toPdfObject
  split
  next a ha =>
    exact ⟨some a, by simp only [unwrapContainer, Heap.read_write_self h a _ (hc a ha)]⟩
  next =>
    exact ⟨some (List.length h), by
      simp [unwrapContainer, Heap.alloc, Heap.read, List.getD_eq_getElem?_getD]⟩

/-- Serializing a loaded descriptor and loading what it wrote gives back every field but
`Style`, which comes back empty. -/
theorem descriptor_roundtrip_entry (env : Env τ) (h : Heap) (obj : PdfObject)
    {p p' : PdfFontDescriptor τ} (hp : newPdfFontDescriptorFromPdfObject env h obj = .ok p)
    (hp' : newPdfFontDescriptorFromPdfObject env (p.toPdfObject h).1 (p.toPdfObject h).2 = .ok p')
    (k : DescriptorField) : p'.entry k = if k = .style then none else p.entry k := by
  obtain ⟨d, hu, -⟩ := entry_of_load hp
  obtain ⟨d', hu', he'⟩ := entry_of_load hp'
  obtain ⟨c, hw⟩ := unwrapContainer_toPdfObject fun a ha => container_lt (ha ▸ hu)
  rw [hw, Prod.mk.injEq] at hu'
  cases hu'.2
  rw [he', PdfFontDescriptor.get_toPdfObjectDict]

/-- A descriptor with a `Style` entry. -/
def styledDescriptorHeap : Heap :=
  [.dict [("Type", .name "FontDescriptor"), ("FontName", .name "Sample"),
    ("Style", .dict [("Panose", .string [0x08, 0x0B])])]]

theorem descriptor_roundtrip_entry_styled :
    ∃ p p' : PdfFontDescriptor specTypes,
      newPdfFontDescriptorFromPdfObject specEnv styledDescriptorHeap (.indirect 0) = .ok p ∧
      newPdfFontDescriptorFromPdfObject specEnv (p.toPdfObject styledDescriptorHeap).1
        (p.toPdfObject styledDescriptorHeap).2 = .ok p' ∧
      p'.entry .fontName = if DescriptorField.fontName = .style then none else p.entry .fontName :=
  ⟨_, _, rfl, rfl,
    descriptor_roundtrip_entry specEnv styledDescriptorHeap (.indirect 0) rfl rfl .fontName⟩

/-- The descriptor of `styledDescriptorHeap` loses its `Style` entry in the round trip. -/
theorem descriptor_style_lost :
    ∃ p p' : PdfFontDescriptor specTypes,
      newPdfFontDescriptorFromPdfObject specEnv styledDescriptorHeap (.indirect 0) = .ok p ∧
      newPdfFontDescriptorFromPdfObject specEnv (p.toPdfObject styledDescriptorHeap).1
        (p.toPdfObject styledDescriptorHeap).2 = .ok p' ∧
      (p.entry .style).isSome ∧ p'.entry .style = none :=
  ⟨_, _, rfl, rfl, rfl, rfl⟩

/-! ## Reading back what `ToPdfObject` wrote -/

/-- A loaded descriptor loads again from what its `ToPdfObject` wrote, where its `FontFile` and
`FontFile2` programs parse in the heap that write leaves: the serializer writes both entries
back as they were. -/
theorem descriptor_reload_ok {env : Env τ} {h : Heap} {obj : PdfObject} {p : PdfFontDescriptor τ}
    (hp : newPdfFontDescriptorFromPdfObject env h obj = .ok p)
    (hff : ∀ ff, p.entry .fontFile = some ff →
      ∃ x, env.newFontFileFromPdfObject (p.toPdfObject h).1 ff = .ok x)
    (hff2 : ∀ ff, p.entry .fontFile2 = some ff →
      ∃ x, env.newFontFile2FromPdfObject (p.toPdfObject h).1 ff = .ok x) :
    ∃ p', newPdfFontDescriptorFromPdfObject env (p.toPdfObject h).1 (p.toPdfObject h).2 = .ok p' := by
  obtain ⟨d, hu, -⟩ := entry_of_load hp
  obtain ⟨c, hw⟩ := unwrapContainer_toPdfObject fun a ha => container_lt (ha ▸ hu)
  have hget (k : DescriptorField) (hk : k ≠ .style) : p.toPdfObjectDict.get k.key = p.entry k := by
    rw [PdfFontDescriptor.get_toPdfObjectDict, if_neg hk]
  exact newPdfFontDescriptorFromPdfObject_ok_iff.mpr ⟨c, _, hw,
    fun ff hf => hff ff (hget .fontFile (by decide) ▸ hf),
    fun ff hf => hff2 ff (hget .fontFile2 (by decide) ▸ hf)⟩

end UniPdf.Model
