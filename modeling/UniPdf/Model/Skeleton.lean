import UniPdf.Model.Descriptor

/-!
# The fields common to all fonts

`fontSkeleton` of font.go: its loader `newFontSkeletonFromPdfObject` with `toUnicodeToCmap`,
`isCIDFont`, and `toDict`, which writes a skeleton back as a font dictionary.

The loader hands an optional entry to its parser whenever `d.Get` gives a value, and a null
object is a value: a `FontDescriptor` or `ToUnicode` entry that is null, directly or through
indirect objects, fails the whole load (`null_entry_not_absent`).

`toDict` and the loader make a round trip (`skeleton_toDict_roundtrip`). Its two halves meet at
what `toDict` writes, read key by key (`toDict_spec`): the loader accepts a dictionary with those
entries (`newFontSkeletonFromPdfObject_dict`), and it gets back the stream and CMap of the
`ToUnicode` entry and a descriptor for the `FontDescriptor` entry. The descriptor's
`ToPdfObject` writes into the heap first, and the reload reads the `ToUnicode` stream and the
font programs in the heap it leaves. The round trip holds where they read there what they read
before. That can fail: `ToPdfObject` writes a dictionary over the descriptor's own object, which
may also be the `DecodeParms` of the `ToUnicode` stream, and the reload then decodes other
bytes and builds another CMap (`toDict_rereads_other_cmap`).

The same write goes into the object the descriptor was loaded from, in the document the font came
from: a font whose `FontDescriptor` names the font's own object loads, but once written it no
longer does (`toDict_overwrites_self_descriptor`).
-/

namespace UniPdf.Model

open UniPdf.Core

/-- `fontSkeleton`: the `ToUnicode` stream is kept for `ToPdfObject`, and the font dictionary for
the loaders of the font types. -/
structure FontSkeleton (τ : Types) where
  basefont : String
  subtype : String
  toUnicode : Option PdfObject
  toUnicodeCmap : Option τ.CMap
  fontDescriptor : Option (PdfFontDescriptor τ)
  dict : Option Dict

variable {τ : Types}

/-- `skel.isCIDFont()`. -/
def FontSkeleton.isCIDFont (skel : FontSkeleton τ) : Bool :=
  match skel.subtype with
  | "Type0" | "CIDFontType0" | "CIDFontType2" => true
  | _ => false

/-- `toUnicodeToCmap`: the stream's data, decoded in the document `h` it sits in, read as a CMap,
simple unless the font is a CID font. -/
def toUnicodeToCmap (env : Env τ) (h : Heap) (toUnicode : Option PdfObject) (font : FontSkeleton τ) :
    Except FontError τ.CMap :=
  match toUnicode with
  | some (.stream entries data) => do
    let data ← env.decodeStream h entries data
    env.loadCmapFromData data !font.isCIDFont
  | _ => throw .typeError

/-- A required name: `core.GetName(core.TraceToDirectObject(d.Get(key)))`. -/
def requiredName (h : Heap) (d : Dict) (key : String) : Except FontError String :=
  match getName (traceToDirectObject h (d.get key)) with
  | some n => pure n
  | none => throw .requiredAttributeMissing

/-- The `FontDescriptor` entry, loaded when `d.Get` gives one. -/
def loadFontDescriptor (env : Env τ) (h : Heap) (d : Dict) :
    Except FontError (Option (PdfFontDescriptor τ)) :=
  match d.get "FontDescriptor" with
  | some obj => some <$> newPdfFontDescriptorFromPdfObject env h obj
  | none => pure none

/-- The `ToUnicode` entry, traced and read as a CMap, when `d.Get` gives one. -/
def loadToUnicode (env : Env τ) (h : Heap) (d : Dict) (font : FontSkeleton τ) :
    Except FontError (FontSkeleton τ) :=
  match d.get "ToUnicode" with
  | some obj => do
    let toUnicode := traceToDirectObject h (some obj)
    let codemap ← toUnicodeToCmap env h toUnicode font
    pure { font with toUnicode := toUnicode, toUnicodeCmap := some codemap }
  | none => pure font

/-- `newFontSkeletonFromPdfObject`. -/
def newFontSkeletonFromPdfObject (env : Env τ) (h : Heap) (fontObj : PdfObject) :
    Except FontError (FontSkeleton τ) :=
  match traceToDirectObject h (some fontObj) with
  | some (.dict d) => do
    let objtype ← requiredName h d "Type"
    if objtype ≠ "Font" then throw .typeError
    else do
      let subtype ← requiredName h d "Subtype"
      if subtype = "Type3" then throw .fontNotSupported
      else do
        let basefont ← requiredName h d "BaseFont"
        let fontDescriptor ← loadFontDescriptor env h d
        loadToUnicode env h d
          { basefont := basefont, subtype := subtype, toUnicode := none, toUnicodeCmap := none,
            fontDescriptor := fontDescriptor, dict := some d }
  | _ => throw .fontNotSupported

/-- `skel.toDict(subtype)`: `subtype` stands in only for a skeleton that has none. -/
def FontSkeleton.toDict (skel : FontSkeleton τ) (subtype : String) (h : Heap) : Heap × Dict :=
  let skel :=
    if subtype ≠ "" ∧ skel.subtype ≠ "" ∧ subtype ≠ skel.subtype then skel
    else if subtype = "" ∧ skel.subtype = "" then skel
    else if skel.subtype = "" then { skel with subtype := subtype } else skel
  let d := ((Dict.empty.set "Type" (some (.name "Font"))).set "BaseFont"
    (some (.name skel.basefont))).set "Subtype" (some (.name skel.subtype))
  let (h, d) :=
    match skel.fontDescriptor with
    | some p =>
      let (h, o) := p.toPdfObject h
      (h, d.set "FontDescriptor" (some o))
    | none => (h, d)
  match skel.toUnicode with
  | some tu => (h, d.set "ToUnicode" (some tu))
  | none => (h, d)

/-! ## Loaded skeletons -/

theorem loadToUnicode_ok {env : Env τ} {h : Heap} {d : Dict} {font skel : FontSkeleton τ}
    (hs : loadToUnicode env h d font = .ok skel) :
    ∃ tu cm, skel = { font with toUnicode := tu, toUnicodeCmap := cm } := by
  unfold loadToUnicode at hs
  split at hs
  · obtain ⟨cm, -, hs⟩ := bind_eq_ok.mp hs
    exact ⟨_, _, (pure_eq_ok.mp hs).symm⟩
  · exact ⟨font.toUnicode, font.toUnicodeCmap, (pure_eq_ok.mp hs).symm⟩

theorem toUnicodeToCmap_ok {env : Env τ} {h : Heap} {tu : Option PdfObject} {font : FontSkeleton τ}
    {cm : τ.CMap} :
    toUnicodeToCmap env h tu font = .ok cm ↔ ∃ entries data data', tu = some (.stream entries data) ∧
      env.decodeStream h entries data = .ok data' ∧
      env.loadCmapFromData data' (!font.isCIDFont) = .ok cm := by
  unfold toUnicodeToCmap
  split
  next entries data => simp [bind_eq_ok, and_assoc]
  next hne =>
    constructor
    · rintro ⟨⟩
    · rintro ⟨e, d, -, rfl, -⟩
      exact (hne e d rfl).elim

theorem loadToUnicode_cases {env : Env τ} {h : Heap} {d : Dict} {font skel : FontSkeleton τ}
    (hs : loadToUnicode env h d font = .ok skel) :
    (d.get "ToUnicode" = none ∧ skel = font) ∨
      ∃ obj entries data data' cm, d.get "ToUnicode" = some obj ∧
        traceToDirectObject h (some obj) = some (.stream entries data) ∧
        env.decodeStream h entries data = .ok data' ∧
        env.loadCmapFromData data' (!font.isCIDFont) = .ok cm ∧
        skel = { font with toUnicode := some (.stream entries data), toUnicodeCmap := some cm } := by
  unfold loadToUnicode at hs
  split at hs
  next obj hobj =>
    obtain ⟨cm, hcm, hs⟩ := bind_eq_ok.mp hs
    obtain ⟨entries, data, data', htu, hdec, hload⟩ := toUnicodeToCmap_ok.mp hcm
    exact .inr ⟨obj, entries, data, data', cm, hobj, htu, hdec, hload,
      by rw [← pure_eq_ok.mp hs, htu]⟩
  next hnone => exact .inl ⟨hnone, (pure_eq_ok.mp hs).symm⟩

theorem newFontSkeletonFromPdfObject_ok {env : Env τ} {h : Heap} {fontObj : PdfObject}
    {skel : FontSkeleton τ} (hs : newFontSkeletonFromPdfObject env h fontObj = .ok skel) :
    ∃ d, traceToDirectObject h (some fontObj) = some (.dict d) ∧ skel.subtype ≠ "Type3" ∧
      requiredName h d "Subtype" = .ok skel.subtype ∧
      requiredName h d "BaseFont" = .ok skel.basefont ∧ skel.dict = some d ∧
      ∃ fd, loadFontDescriptor env h d = .ok fd ∧
        loadToUnicode env h d
          { basefont := skel.basefont, subtype := skel.subtype, toUnicode := none,
            toUnicodeCmap := none, fontDescriptor := fd, dict := some d } = .ok skel := by
  unfold newFontSkeletonFromPdfObject at hs
  split at hs
  · rename_i d hd
    obtain ⟨_, -, hs⟩ := bind_eq_ok.mp hs
    split at hs
    · cases hs
    obtain ⟨st, hst, hs⟩ := bind_eq_ok.mp hs
    split at hs
    · cases hs
    rename_i h3
    obtain ⟨bf, hbf, hs⟩ := bind_eq_ok.mp hs
    obtain ⟨fd, hfd, hs⟩ := bind_eq_ok.mp hs
    obtain ⟨tu, cm, rfl⟩ := loadToUnicode_ok hs
    exact ⟨d, hd, h3, hst, hbf, rfl, fd, hfd, hs⟩
  · cases hs

theorem toUnicode_of_load {env : Env τ} {h : Heap} {o : PdfObject} {s : FontSkeleton τ}
    (hs : newFontSkeletonFromPdfObject env h o = .ok s) :
    (s.toUnicode = none ∧ s.toUnicodeCmap = none) ∨
      ∃ entries data data' cm, s.toUnicode = some (.stream entries data) ∧
        env.decodeStream h entries data = .ok data' ∧
        env.loadCmapFromData data' (!s.isCIDFont) = .ok cm ∧ s.toUnicodeCmap = some cm := by
  obtain ⟨d, -, -, -, -, -, fd, -, htu⟩ := newFontSkeletonFromPdfObject_ok hs
  rcases loadToUnicode_cases htu with ⟨-, hs⟩ | ⟨-, entries, data, data', cm, -, -, hdec, hload, hs⟩
  · exact .inl ⟨by rw [hs], by rw [hs]⟩
  · exact .inr ⟨entries, data, data', cm, by rw [hs], hdec, hload, by rw [hs]⟩

theorem descriptor_of_load {env : Env τ} {h : Heap} {o : PdfObject} {s : FontSkeleton τ}
    (hs : newFontSkeletonFromPdfObject env h o = .ok s) {p : PdfFontDescriptor τ}
    (hp : s.fontDescriptor = some p) : ∃ obj, newPdfFontDescriptorFromPdfObject env h obj = .ok p := by
  obtain ⟨d, -, -, -, -, -, fd, hfd, htu⟩ := newFontSkeletonFromPdfObject_ok hs
  obtain ⟨tu, cm, hs'⟩ := loadToUnicode_ok htu
  have hfd' : fd = some p := by rw [← hp, hs']
  unfold loadFontDescriptor at hfd
  split at hfd
  next obj _ =>
    obtain ⟨p', hp', hsome⟩ := map_eq_ok.mp hfd
    rw [← hsome, Option.some.injEq] at hfd'
    exact ⟨obj, hfd' ▸ hp'⟩
  next => cases (pure_eq_ok.mp hfd).trans hfd'

/-! ## Null entries -/

theorem unwrapContainer_of_null {h : Heap} {v : PdfObject}
    (hv : traceToDirectObject h (some v) = some .null) (d : List (String × PdfObject)) :
    (unwrapContainer h v).2 ≠ .dict d := by
  cases v with
  | indirect a =>
    intro hd
    simp only [unwrapContainer] at hd
    rw [traceToDirectObject_indirect h a (by rw [hd]; trivial), hd] at hv
    cases hv
  | null => simp [unwrapContainer]
  | _ => exact absurd (hv.symm.trans (traceToDirectObject_direct h (by trivial))) (by simp)

theorem descriptor_of_null_fails {env : Env τ} {h : Heap} {v : PdfObject}
    (hv : traceToDirectObject h (some v) = some .null) :
    newPdfFontDescriptorFromPdfObject env h v = .error .typeError := by
  unfold newPdfFontDescriptorFromPdfObject
  split
  · rename_i d hu
    exact absurd (congrArg Prod.snd hu) (unwrapContainer_of_null hv d)
  · rfl

theorem trace_dict (h : Heap) (d : Dict) :
    traceToDirectObject h (some (.dict d)) = some (.dict d) :=
  traceToDirectObject_direct h trivial

theorem exists_error_of_not_ok {ε α : Type} {x : Except ε α} (h : ∀ a, x ≠ .ok a) :
    ∃ e, x = .error e := by
  cases x with
  | error e => exact ⟨e, rfl⟩
  | ok a => exact absurd rfl (h a)

section NullEntry

variable {env : Env τ} {h : Heap} {d : Dict} {v : PdfObject}

theorem skeleton_set_ok {key : String} {skel : FontSkeleton τ}
    (hs : newFontSkeletonFromPdfObject env h (.dict (d.set key (some v))) = .ok skel) :
    ∃ fd, loadFontDescriptor env h (d.set key (some v)) = .ok fd ∧
      loadToUnicode env h (d.set key (some v))
        { basefont := skel.basefont, subtype := skel.subtype, toUnicode := none,
          toUnicodeCmap := none, fontDescriptor := fd, dict := some (d.set key (some v)) } =
        .ok skel := by
  obtain ⟨d', hd, -, -, -, -, fd, hfd, htu⟩ := newFontSkeletonFromPdfObject_ok hs
  rw [trace_dict] at hd
  cases hd
  exact ⟨fd, hfd, htu⟩

theorem null_fontDescriptor_fails (hv : traceToDirectObject h (some v) = some .null) :
    ∃ e, newFontSkeletonFromPdfObject env h (.dict (d.set "FontDescriptor" (some v))) = .error e :=
  exists_error_of_not_ok fun skel hs => by
    obtain ⟨fd, hfd, -⟩ := skeleton_set_ok hs
    simp [loadFontDescriptor, descriptor_of_null_fails hv] at hfd

theorem null_toUnicode_fails (hv : traceToDirectObject h (some v) = some .null) :
    ∃ e, newFontSkeletonFromPdfObject env h (.dict (d.set "ToUnicode" (some v))) = .error e :=
  exists_error_of_not_ok fun skel hs => by
    obtain ⟨fd, -, htu⟩ := skeleton_set_ok hs
    unfold loadToUnicode at htu
    simp only [Dict.get_set, ite_true] at htu
    obtain ⟨cm, hcm, -⟩ := bind_eq_ok.mp htu
    rw [hv] at hcm
    cases hcm

theorem programs_parse_of_load {p : PdfFontDescriptor τ}
    (hp : newPdfFontDescriptorFromPdfObject env h (.dict d) = .ok p) :
    (∀ ff, d.get "FontFile" = some ff → ∃ x, env.newFontFileFromPdfObject h ff = .ok x) ∧
      (∀ ff, d.get "FontFile2" = some ff → ∃ x, env.newFontFile2FromPdfObject h ff = .ok x) := by
  obtain ⟨c, d', hu, hff, hff2⟩ := newPdfFontDescriptorFromPdfObject_ok_iff.mp ⟨p, hp⟩
  cases hu
  exact ⟨hff, hff2⟩

end NullEntry

/-- A font dictionary that loads, and fails once its `ToUnicode` is null. -/
def helveticaDict : Dict :=
  [("Type", .name "Font"), ("Subtype", .name "Type1"), ("BaseFont", .name "Helvetica")]

/-- What `toDict` writes, key by key: `Type`, `BaseFont`, the subtype, which is `subtype` only
where the skeleton has none, the object the descriptor's `ToPdfObject` returns, and the
`ToUnicode` stream; and the heap `ToPdfObject` wrote into. -/
theorem toDict_spec (skel : FontSkeleton τ) (subtype : String) (h : Heap) :
    let r := skel.toDict subtype h
    r.2.get "Type" = some (.name "Font") ∧
      r.2.get "Subtype" = some (.name (if skel.subtype = "" then subtype else skel.subtype)) ∧
      r.2.get "BaseFont" = some (.name skel.basefont) ∧
      r.2.get "FontDescriptor" = skel.fontDescriptor.map (fun p => (p.toPdfObject h).2) ∧
      r.2.get "ToUnicode" = skel.toUnicode ∧
      r.1 = (skel.fontDescriptor.map fun p => (p.toPdfObject h).1).getD h := by
  obtain ⟨basefont, st, tu, cm, fd, dict⟩ := skel
  unfold FontSkeleton.toDict
  by_cases hst : st = ""
  · subst hst
    by_cases ht : subtype = ""
    · subst ht; cases fd <;> cases tu <;> simp
    · cases fd <;> cases tu <;> simp [ht]
  · cases fd <;> cases tu <;> simp [hst]

/-- The loader on a dictionary whose `Type`, `Subtype` and `BaseFont` are names, the subtype not
Type3: what is left are the optional entries. -/
theorem newFontSkeletonFromPdfObject_dict {env : Env τ} {h : Heap} {d : Dict}
    {subtype basefont : String} (ht : d.get "Type" = some (.name "Font"))
    (hs : d.get "Subtype" = some (.name subtype)) (hb : d.get "BaseFont" = some (.name basefont))
    (h3 : subtype ≠ "Type3") :
    newFontSkeletonFromPdfObject env h (.dict d) = (do
      let fontDescriptor ← loadFontDescriptor env h d
      loadToUnicode env h d
        { basefont := basefont, subtype := subtype, toUnicode := none, toUnicodeCmap := none,
          fontDescriptor := fontDescriptor, dict := some d }) := by
  simp [newFontSkeletonFromPdfObject, trace_dict, requiredName, ht, hs, hb, h3,
    traceToDirectObject_direct, IsDirect, getName]

section Reload

variable {env : Env τ} {h : Heap} {o : PdfObject} {s : FontSkeleton τ}

theorem loadFontDescriptor_toDict (hs : newFontSkeletonFromPdfObject env h o = .ok s)
    (subtype : String)
    (hff : ∀ p, s.fontDescriptor = some p → ∀ ff, p.entry .fontFile = some ff →
      ∃ x, env.newFontFileFromPdfObject (s.toDict subtype h).1 ff = .ok x)
    (hff2 : ∀ p, s.fontDescriptor = some p → ∀ ff, p.entry .fontFile2 = some ff →
      ∃ x, env.newFontFile2FromPdfObject (s.toDict subtype h).1 ff = .ok x) :
    ∃ fd, loadFontDescriptor env (s.toDict subtype h).1 (s.toDict subtype h).2 = .ok fd ∧
      (fd.isSome ↔ s.fontDescriptor.isSome) := by
  obtain ⟨-, -, -, hfd, -, hheap⟩ := toDict_spec s subtype h
  unfold loadFontDescriptor
  cases hp : s.fontDescriptor with
  | none => exact ⟨none, by rw [hfd, hp]; rfl, Iff.rfl⟩
  | some p =>
    obtain ⟨obj, hobj⟩ := descriptor_of_load hs hp
    rw [hheap, hp] at hff hff2
    obtain ⟨p', hp'⟩ := descriptor_reload_ok hobj (hff p rfl) (hff2 p rfl)
    refine ⟨some p', ?_, by simp⟩
    rw [hfd, hheap, hp]
    simp only [Option.map_some', Option.getD_some, hp']
    rfl

theorem loadToUnicode_reload (hs : newFontSkeletonFromPdfObject env h o = .ok s) {h' : Heap}
    (hdec : ∀ entries data, s.toUnicode = some (.stream entries data) →
      env.decodeStream h' entries data = env.decodeStream h entries data)
    {d' : Dict} (hd' : d'.get "ToUnicode" = s.toUnicode) {font : FontSkeleton τ}
    (hcid : font.isCIDFont = s.isCIDFont) (hnone : font.toUnicode = none ∧ font.toUnicodeCmap = none) :
    loadToUnicode env h' d' font =
      .ok { font with toUnicode := s.toUnicode, toUnicodeCmap := s.toUnicodeCmap } := by
  unfold loadToUnicode
  rcases toUnicode_of_load hs with ⟨htu, hcm⟩ | ⟨entries, data, data', cm, htu, hdec0, hload, hcm⟩
  · rw [hd', htu, hcm]
    show pure font = _
    rw [← hnone.1, ← hnone.2]
    rfl
  · rw [hd', htu, hcm]
    show (do
      let codemap ← toUnicodeToCmap env h' (traceToDirectObject h' (some (.stream entries data))) font
      pure _) = _
    rw [traceToDirectObject_direct h' (show IsDirect (.stream entries data) from trivial),
      (@toUnicodeToCmap_ok _ env h' _ font cm).mpr
        ⟨entries, data, data', rfl, (hdec entries data htu).trans hdec0, hcid ▸ hload⟩]
    rfl

end Reload

/-- A loaded skeleton with a subtype loads again from what `toDict` writes, whatever subtype
`toDict` is given, where in the heap the descriptor's `ToPdfObject` leaves the `ToUnicode`
stream decodes as before and the descriptor's `FontFile` and `FontFile2` programs parse: with
its name, its own subtype, its `ToUnicode` stream and a CMap read from that stream's data in
its simple or CID mode, and with a descriptor exactly where it has one. -/
theorem skeleton_toDict_roundtrip (env : Env τ) (h : Heap) (o : PdfObject) {s : FontSkeleton τ}
    (hs : newFontSkeletonFromPdfObject env h o = .ok s) (hsub : s.subtype ≠ "") (t : String)
    (hdec : ∀ entries data, s.toUnicode = some (.stream entries data) →
      env.decodeStream (s.toDict t h).1 entries data = env.decodeStream h entries data)
    (hff : ∀ p, s.fontDescriptor = some p → ∀ ff, p.entry .fontFile = some ff →
      ∃ x, env.newFontFileFromPdfObject (s.toDict t h).1 ff = .ok x)
    (hff2 : ∀ p, s.fontDescriptor = some p → ∀ ff, p.entry .fontFile2 = some ff →
      ∃ x, env.newFontFile2FromPdfObject (s.toDict t h).1 ff = .ok x) :
    ∃ s', newFontSkeletonFromPdfObject env (s.toDict t h).1 (.dict (s.toDict t h).2) = .ok s' ∧
      s'.basefont = s.basefont ∧ s'.subtype = s.subtype ∧ s'.toUnicode = s.toUnicode ∧
      s'.toUnicodeCmap = s.toUnicodeCmap ∧
      (∀ cm, s'.toUnicodeCmap = some cm → ∃ entries data data',
        s.toUnicode = some (.stream entries data) ∧ env.decodeStream h entries data = .ok data' ∧
        env.loadCmapFromData data' (!s.isCIDFont) = .ok cm) ∧
      (s'.fontDescriptor.isSome ↔ s.fontDescriptor.isSome) := by
  obtain ⟨htype, hsubtype, hbase, -, htu, -⟩ := toDict_spec s t h
  rw [if_neg hsub] at hsubtype
  obtain ⟨-, -, h3, -⟩ := newFontSkeletonFromPdfObject_ok hs
  obtain ⟨fd, hfd, hfdiff⟩ := loadFontDescriptor_toDict hs t hff hff2
  rw [newFontSkeletonFromPdfObject_dict htype hsubtype hbase h3, hfd]
  refine ⟨_, loadToUnicode_reload hs hdec htu rfl ⟨rfl, rfl⟩, rfl, rfl, rfl, rfl, fun cm hcm => ?_,
    hfdiff⟩
  rcases toUnicode_of_load hs with ⟨-, hnone⟩ | ⟨entries, data, data', cm', htu', hdec0, hload, hcm'⟩
  · exact absurd (hcm.symm.trans hnone) (Option.some_ne_none cm)
  · rw [show cm = cm' from Option.some.inj (hcm.symm.trans hcm')]
    exact ⟨entries, data, data', htu', hdec0, hload⟩

/-- A TrueType font with a descriptor, the descriptor's embedded program, and a `ToUnicode`
stream. -/
def trueTypeHeap : Heap :=
  [.dict [("Type", .name "Font"), ("Subtype", .name "TrueType"), ("BaseFont", .name "Sample"),
      ("FontDescriptor", .indirect 1), ("ToUnicode", .indirect 2)],
    .dict [("Type", .name "FontDescriptor"), ("FontName", .name "Sample"),
      ("FontFile2", .indirect 3)],
    .stream [] [0x41],
    .stream [] [0x00, 0x01, 0x00, 0x00]]

theorem skeleton_toDict_roundtrip_trueType :
    ∃ s : FontSkeleton specTypes,
      newFontSkeletonFromPdfObject specEnv trueTypeHeap (.indirect 0) = .ok s ∧ s.subtype ≠ "" ∧
      ∃ s', newFontSkeletonFromPdfObject specEnv (s.toDict "Type0" trueTypeHeap).1
          (.dict (s.toDict "Type0" trueTypeHeap).2) = .ok s' ∧
        s'.basefont = s.basefont ∧ s'.subtype = s.subtype ∧ s'.toUnicode = s.toUnicode ∧
        s'.toUnicodeCmap = s.toUnicodeCmap ∧
        (∀ cm, s'.toUnicodeCmap = some cm → ∃ entries data data',
          s.toUnicode = some (.stream entries data) ∧
          specEnv.decodeStream trueTypeHeap entries data = .ok data' ∧
          specEnv.loadCmapFromData data' (!s.isCIDFont) = .ok cm) ∧
        (s'.fontDescriptor.isSome ↔ s.fontDescriptor.isSome) :=
  ⟨_, rfl, by decide, skeleton_toDict_roundtrip specEnv trueTypeHeap (.indirect 0) (by rfl)
    (by decide) "Type0" (fun _ _ htu => by cases htu; rfl) (fun _ hp _ hf => by cases hp; cases hf)
    (fun _ hp _ hf => by cases hp; cases hf; exact ⟨_, rfl⟩)⟩

/-- A TrueType font whose `ToUnicode` stream is flate-encoded with the font's descriptor as its
`DecodeParms`: the descriptor dictionary also holds the TIFF predictor's `Predictor` and
`Columns`, which `ToPdfObject` does not write back. -/
def sharedParmsHeap : Heap :=
  [.dict [("Type", .name "Font"), ("Subtype", .name "TrueType"), ("BaseFont", .name "Sample"),
      ("FontDescriptor", .indirect 1), ("ToUnicode", .indirect 2)],
    .dict [("Type", .name "FontDescriptor"), ("FontName", .name "Sample"),
      ("Predictor", .integer 2), ("Columns", .integer 2)],
    .stream [("Filter", .name "FlateDecode"), ("DecodeParms", .indirect 1)]
      [0x78, 0x01, 0x01, 0x02, 0x00, 0xFD, 0xFF, 0x41, 0x01, 0x00, 0x85, 0x00, 0x43]]

/-- The font of `sharedParmsHeap` loads with the CMap of the predicted bytes `41 42`, and
reloads from what `toDict` writes with the CMap of the bytes `41 01`, the predictor gone. -/
theorem toDict_rereads_other_cmap :
    ∃ s : FontSkeleton specTypes,
      newFontSkeletonFromPdfObject specEnv sharedParmsHeap (.indirect 0) = .ok s ∧
      s.subtype ≠ "" ∧ s.toUnicodeCmap = some [0x41, 0x42] ∧
      ∃ s', newFontSkeletonFromPdfObject specEnv (s.toDict "" sharedParmsHeap).1
          (.dict (s.toDict "" sharedParmsHeap).2) = .ok s' ∧
        s'.toUnicode = s.toUnicode ∧ s'.toUnicodeCmap = some [0x41, 0x01] :=
  ⟨_, rfl, by decide, rfl, _, rfl, rfl, rfl⟩

/-! ## The document `toDict` writes into -/

/-- A font whose `FontDescriptor` entry names the font's own object loads, the font dictionary
read as its own descriptor; `toDict` then writes the serialized descriptor into that object,
and the font no longer loads from it: its `Type` is now `FontDescriptor`. -/
theorem toDict_overwrites_self_descriptor (env : Env τ) {h : Heap} {a : Nat} {d : Dict}
    (hd : h.read a = .dict d) (hfd : d.get "FontDescriptor" = some (.indirect a))
    {s : FontSkeleton τ} (hs : newFontSkeletonFromPdfObject env h (.indirect a) = .ok s)
    (t : String) :
    newFontSkeletonFromPdfObject env (s.toDict t h).1 (.indirect a) = .error .typeError := by
  obtain ⟨d', htr, -, -, -, -, fd, hfd', htu⟩ := newFontSkeletonFromPdfObject_ok hs
  rw [traceToDirectObject_indirect h a (by rw [hd]; trivial), hd] at htr
  cases htr
  unfold loadFontDescriptor at hfd'
  rw [hfd] at hfd'
  obtain ⟨p, hp, rfl⟩ := map_eq_ok.mp hfd'
  obtain ⟨d'', hu, -⟩ := entry_of_load hp
  have hc : p.container = some a := (Prod.mk.inj hu).1.symm
  have hlt : a < List.length h := container_lt (hc ▸ hu)
  obtain ⟨tu, cm, hs'⟩ := loadToUnicode_ok htu
  have hsd : s.fontDescriptor = some p := by rw [hs']
  rw [(toDict_spec _ t h).2.2.2.2.2, hsd]
  simp only [Option.map_some', Option.getD_some, PdfFontDescriptor.toPdfObject, hc]
  unfold newFontSkeletonFromPdfObject
  rw [traceToDirectObject_indirect _ a (by rw [Heap.read_write_self h a _ hlt]; trivial),
    Heap.read_write_self h a _ hlt]
  simp only [requiredName, PdfFontDescriptor.get_type_toPdfObjectDict]
  rfl

/-- A TrueType font whose descriptor is its own dictionary. -/
def selfDescriptorHeap : Heap :=
  [.dict [("Type", .name "Font"), ("Subtype", .name "TrueType"), ("BaseFont", .name "Sample"),
    ("FontDescriptor", .indirect 0)]]

theorem toDict_overwrites_self_descriptor_sample :
    ∃ s : FontSkeleton specTypes,
      newFontSkeletonFromPdfObject specEnv selfDescriptorHeap (.indirect 0) = .ok s ∧
      newFontSkeletonFromPdfObject specEnv (s.toDict "" selfDescriptorHeap).1 (.indirect 0) =
        .error .typeError :=
  ⟨_, rfl, toDict_overwrites_self_descriptor specEnv (by rfl) (by rfl) (by rfl) ""⟩

end UniPdf.Model
