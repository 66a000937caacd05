import UniPdf.Model.Facade

/-!
# Decoding character codes

`CharcodeBytesToUnicode`: the bytes of a text string are cut into character codes (`charcodes`),
single bytes, or for a CID font big-endian byte pairs; each code is looked up in the `ToUnicode`
CMap, and on a miss in the font's encoding (`decodeStep`). The loop is a `foldl` over the codes,
and what it makes from any accumulator is what it makes from the empty one, appended
(`foldl_decodeStep`).

- Every miss appends the sentinel `string(MissingCodeRune)`, which decodes as one rune whatever
  the strings around it hold, so the misses never outnumber the runes (`numMisses_le_numRunes`).
- Decoding splits at code boundaries (`charcodeBytesToUnicode_append`), except before a single
  byte of a CID font: alone it is read as `[0, b]`, after other bytes as `[b, 0]`.
- A font with neither a `ToUnicode` CMap nor an encoder makes nothing of any code and counts no
  miss (`charcodeBytesToUnicode_of_no_encoder`).
-/

namespace UniPdf.Model

open UniPdf.Core

variable {τ : Types}

/-! ## Character codes -/

/-- The big-endian byte pairs of `data`; an odd last byte is left out. -/
def pairCodes : List UInt8 → List UInt16
  | b0 :: b1 :: rest => ((b0.toUInt16 <<< 8) ||| b1.toUInt16) :: pairCodes rest
  | _ => []

/-- The character codes of `data`: for a CID font its big-endian byte pairs, a single byte read as
`[0, b]` and an odd length padded with a trailing 0; otherwise its bytes. -/
def charcodes (isCID : Bool) (data : List UInt8) : List UInt16 :=
  if isCID then
    let data := if data.length = 1 then 0 :: data else data
    let data := if data.length % 2 ≠ 0 then data ++ [0] else data
    pairCodes data
  else data.map UInt8.toUInt16

theorem pairCodes_append {a : List UInt8} (ha : a.length % 2 = 0) (t : List UInt8) :
    pairCodes (a ++ t) = pairCodes a ++ pairCodes t := by
  induction a using pairCodes.induct with
  | case1 b0 b1 rest ih =>
    simp only [List.length_cons] at ha
    rw [List.cons_append, List.cons_append, pairCodes, pairCodes, ih (by omega), List.cons_append]
  | case2 a hne =>
    rcases a with _ | ⟨x, _ | ⟨y, rest⟩⟩
    · rfl
    · simp at ha
    · exact (hne x y rest rfl).elim

theorem charcodes_cid {d : List UInt8} (hd : d.length ≠ 1) :
    charcodes true d = pairCodes (if d.length % 2 ≠ 0 then d ++ [0] else d) := by
  simp only [charcodes, if_true, if_neg hd]

theorem pairCodes_length (d : List UInt8) : (pairCodes d).length = d.length / 2 := by
  induction d using pairCodes.induct with
  | case1 b0 b1 rest ih => simp only [pairCodes, List.length_cons, ih]; omega
  | case2 d hne =>
    rcases d with _ | ⟨x, _ | ⟨y, rest⟩⟩
    · rfl
    · simp [pairCodes]
    · exact (hne x y rest rfl).elim

/-- Every byte is read into exactly one code: a CID font makes a code of each pair, and of the
last byte of an odd length. -/
theorem charcodes_length (isCID : Bool) (data : List UInt8) :
    (charcodes isCID data).length = if isCID then (data.length + 1) / 2 else data.length := by
  cases isCID with
  | false => simp [charcodes]
  | true =>
    by_cases h1 : data.length = 1
    · obtain ⟨x, rfl⟩ := List.length_eq_one.mp h1
      simp [charcodes, pairCodes]
    · rw [charcodes_cid h1, pairCodes_length, if_pos rfl]
      split
      · rw [List.length_append, List.length_singleton]
      · omega

theorem charcodes_append (isCID : Bool) {a b : List UInt8}
    (hab : isCID = true → a.length % 2 = 0 ∧ (a = [] ∨ b.length ≠ 1)) :
    charcodes isCID (a ++ b) = charcodes isCID a ++ charcodes isCID b := by
  cases isCID with
  | false => simp [charcodes]
  | true =>
    obtain ⟨ha, rfl | hb⟩ := hab rfl
    · rfl
    have hab1 : (a ++ b).length ≠ 1 := by
      rcases a with _ | ⟨x, _ | ⟨y, a⟩⟩ <;> simp_all
    rw [charcodes_cid hab1, charcodes_cid (by omega), charcodes_cid hb, List.length_append,
      if_neg (show ¬(a.length % 2 ≠ 0) by omega)]
    by_cases hbe : b.length % 2 = 0
    · rw [if_neg (show ¬((a.length + b.length) % 2 ≠ 0) by omega), if_neg (not_not.mpr hbe),
        pairCodes_append ha]
    · rw [if_pos (show (a.length + b.length) % 2 ≠ 0 by omega), if_pos hbe, List.append_assoc,
        pairCodes_append ha]

/-! ## The loop -/

/-- Modelled from the spec: `cmap.MissingCodeString`, the fixed sentinel, which package cmap
defines as `string(MissingCodeRune)`. -/
def missingCodeString (env : FontEnv τ) : List UInt8 := encodeRune env.missingCodeRune

/-- One pass of the loop over the codes, on the strings and the number of misses so far: the
CMap's string, else the encoder's rune, else the sentinel and a miss; without an encoder, nothing. -/
def decodeStep (env : FontEnv τ) (cmap : Option τ.CMap) (encoder : Option τ.TextEncoder)
    (acc : List (List UInt8) × Nat) (code : UInt16) : List (List UInt8) × Nat :=
  let (charstrings, numMisses) := acc
  match cmap.bind fun m => env.charcodeToUnicode2 m code with
  | some r => (charstrings ++ [r], numMisses)
  | none =>
    match encoder with
    | some encoder =>
      match env.charcodeToRune encoder code with
      | some r => (charstrings ++ [env.runeToString r], numMisses)
      | none => (charstrings ++ [missingCodeString env], numMisses + 1)
    | none => (charstrings, numMisses)

/-- `CharcodeBytesToUnicode`: the text, its number of runes, and the number of misses.
`Encoder()` is read once here; nothing in the loop changes it. -/
def charcodeBytesToUnicode (env : FontEnv τ) (fh : FontHeap τ) (font : PdfFont τ)
    (data : List UInt8) : List UInt8 × Nat × Nat :=
  let (charstrings, numMisses) := (charcodes font.isCIDFont data).foldl
    (decodeStep env font.skeleton.toUnicodeCmap (font.encoder env fh)) ([], 0)
  let out := charstrings.flatten
  (out, (runes out).length, numMisses)

section Loop

variable (env : FontEnv τ) (cmap : Option τ.CMap) (encoder : Option τ.TextEncoder)

theorem decodeStep_eq (acc : List (List UInt8) × Nat) (code : UInt16) :
    decodeStep env cmap encoder acc code =
      (acc.1 ++ (decodeStep env cmap encoder ([], 0) code).1,
        acc.2 + (decodeStep env cmap encoder ([], 0) code).2) := by
  obtain ⟨cs, m⟩ := acc
  simp only [decodeStep]
  split
  · simp
  · split
    · split <;> simp
    · simp

/-- The loop from any accumulator appends what it makes from the empty one. -/
theorem foldl_decodeStep (codes : List UInt16) (acc : List (List UInt8) × Nat) :
    codes.foldl (decodeStep env cmap encoder) acc =
      (acc.1 ++ (codes.foldl (decodeStep env cmap encoder) ([], 0)).1,
        acc.2 + (codes.foldl (decodeStep env cmap encoder) ([], 0)).2) := by
  induction codes generalizing acc with
  | nil => simp
  | cons code codes ih =>
    rw [List.foldl_cons, List.foldl_cons, ih, ih (decodeStep env cmap encoder ([], 0) code),
      decodeStep_eq env cmap encoder acc code]
    simp [Nat.add_assoc]

theorem foldl_decodeStep_append (c d : List UInt16) :
    (c ++ d).foldl (decodeStep env cmap encoder) ([], 0) =
      ((c.foldl (decodeStep env cmap encoder) ([], 0)).1 ++
          (d.foldl (decodeStep env cmap encoder) ([], 0)).1,
        (c.foldl (decodeStep env cmap encoder) ([], 0)).2 +
          (d.foldl (decodeStep env cmap encoder) ([], 0)).2) := by
  rw [List.foldl_append, foldl_decodeStep]

end Loop

/-! ## Misses and runes -/

theorem decodeStep_misses_le (env : FontEnv τ) (cmap : Option τ.CMap)
    (encoder : Option τ.TextEncoder) {acc : List (List UInt8) × Nat}
    (h : acc.2 ≤ acc.1.count (missingCodeString env)) (code : UInt16) :
    (decodeStep env cmap encoder acc code).2 ≤
      (decodeStep env cmap encoder acc code).1.count (missingCodeString env) := by
  obtain ⟨cs, m⟩ := acc
  simp only at h
  simp only [decodeStep]
  split
  · simp only [List.count_append]; omega
  · split
    · split <;> simp only [List.count_append, List.count_singleton_self] <;> omega
    · exact h

theorem foldl_decodeStep_misses_le (env : FontEnv τ) (cmap : Option τ.CMap)
    (encoder : Option τ.TextEncoder) (codes : List UInt16) {acc : List (List UInt8) × Nat}
    (h : acc.2 ≤ acc.1.count (missingCodeString env)) :
    (codes.foldl (decodeStep env cmap encoder) acc).2 ≤
      (codes.foldl (decodeStep env cmap encoder) acc).1.count (missingCodeString env) := by
  induction codes generalizing acc with
  | nil => exact h
  | cons code codes ih => exact ih (decodeStep_misses_le env cmap encoder h code)

theorem count_le_runes (r : Rune) (cs : List (List UInt8)) (p : List UInt8) :
    cs.count (encodeRune r) ≤ (runes (p ++ cs.flatten)).length := by
  induction cs generalizing p with
  | nil => simp
  | cons c cs ih =>
    rw [List.flatten_cons]
    by_cases hc : c = encodeRune r
    · subst hc
      rw [List.count_cons_self, runes_append p (encodeRune_fresh r _), runes_encodeRune_append,
        List.length_append, List.length_cons]
      have := ih []
      simp only [List.nil_append] at this
      omega
    · rw [List.count_cons_of_ne (Ne.symm hc), ← List.append_assoc]
      exact ih (p ++ c)

/-- The misses never outnumber the runes of the text. -/
theorem numMisses_le_numRunes (env : FontEnv τ) (fh : FontHeap τ) (font : PdfFont τ)
    (data : List UInt8) :
    (charcodeBytesToUnicode env fh font data).2.2 ≤ (charcodeBytesToUnicode env fh font data).2.1 := by
  simp only [charcodeBytesToUnicode]
  exact (foldl_decodeStep_misses_le env _ _ _ (Nat.zero_le _)).trans
    (count_le_runes env.missingCodeRune _ [])

/-! ## Concatenation -/

/-- Decoding splits where the bytes do, when the first part ends on a code boundary and no single
byte of a CID font follows it: the texts are concatenated and the misses added. -/
theorem charcodeBytesToUnicode_append (env : FontEnv τ) (fh : FontHeap τ) (font : PdfFont τ)
    (a b : List UInt8) (hab : font.isCIDFont = true → a.length % 2 = 0 ∧ (a = [] ∨ b.length ≠ 1)) :
    (charcodeBytesToUnicode env fh font (a ++ b)).1 =
        (charcodeBytesToUnicode env fh font a).1 ++ (charcodeBytesToUnicode env fh font b).1 ∧
      (charcodeBytesToUnicode env fh font (a ++ b)).2.2 =
        (charcodeBytesToUnicode env fh font a).2.2 + (charcodeBytesToUnicode env fh font b).2.2 := by
  simp only [charcodeBytesToUnicode, charcodes_append font.isCIDFont hab, foldl_decodeStep_append,
    List.flatten_append, and_self]

theorem charcodeBytesToUnicode_append_sample :
    ∃ (font : PdfFont specTypes) (fh : FontHeap specTypes),
      newPdfFontFromPdfObject specFontEnv sampleHeap (.indirect 0) true [] = .ok (font, fh) ∧
      (charcodeBytesToUnicode specFontEnv fh font ([0, 0] ++ [0x41, 0x42])).1 =
          (charcodeBytesToUnicode specFontEnv fh font [0, 0]).1 ++
            (charcodeBytesToUnicode specFontEnv fh font [0x41, 0x42]).1 ∧
        (charcodeBytesToUnicode specFontEnv fh font ([0, 0] ++ [0x41, 0x42])).2.2 =
          (charcodeBytesToUnicode specFontEnv fh font [0, 0]).2.2 +
            (charcodeBytesToUnicode specFontEnv fh font [0x41, 0x42]).2.2 :=
  ⟨_, _, rfl, charcodeBytesToUnicode_append specFontEnv _ _ [0, 0] [0x41, 0x42]
    fun _ => ⟨rfl, .inr (by decide)⟩⟩

/-- A single byte after a whole code of a CID font: `00 00 41` is read as the codes `0000 4100`,
while `41` alone is read as `0041`. -/
theorem single_byte_after_code_decodes_apart :
    ∃ (font : PdfFont specTypes) (fh : FontHeap specTypes),
      newPdfFontFromPdfObject specFontEnv sampleHeap (.indirect 0) true [] = .ok (font, fh) ∧
      (charcodeBytesToUnicode specFontEnv fh font ([0, 0] ++ [0x41])).1 ≠
        (charcodeBytesToUnicode specFontEnv fh font [0, 0]).1 ++
          (charcodeBytesToUnicode specFontEnv fh font [0x41]).1 :=
  ⟨_, _, rfl, by decide⟩

/-! ## Fonts with an encoder -/

section Encoder

variable (env : FontEnv τ) (cmap : Option τ.CMap) (e : τ.TextEncoder)

/-- What one code contributes when the font has an encoder: the CMap's string, else the
encoder's rune, else the sentinel. -/
def codeString (code : UInt16) : List UInt8 :=
  match cmap.bind fun m => env.charcodeToUnicode2 m code with
  | some r => r
  | none =>
    match env.charcodeToRune e code with
    | some r => env.runeToString r
    | none => missingCodeString env

/-- The code is resolved by neither the CMap nor the encoding. -/
def codeMissed (code : UInt16) : Bool :=
  (cmap.bind fun m => env.charcodeToUnicode2 m code).isNone && (env.charcodeToRune e code).isNone

theorem decodeStep_some (code : UInt16) :
    decodeStep env cmap (some e) ([], 0) code =
      ([codeString env cmap e code], if codeMissed env cmap e code then 1 else 0) := by
  simp only [decodeStep, codeString, codeMissed]
  split
  · simp_all
  · split <;> simp_all

theorem foldl_decodeStep_some (codes : List UInt16) :
    codes.foldl (decodeStep env cmap (some e)) ([], 0) =
      (codes.map (codeString env cmap e), (codes.filter (codeMissed env cmap e)).length) := by
  induction codes with
  | nil => rfl
  | cons code codes ih =>
    rw [List.foldl_cons, foldl_decodeStep, ih, decodeStep_some]
    by_cases hm : codeMissed env cmap e code <;> simp [hm, List.filter_cons, Nat.add_comm]

end Encoder

/-- A font with an encoder decodes each code to exactly one string, in order: the CMap's, else
the encoding's rune, else the sentinel, which is counted as a miss. -/
theorem charcodeBytesToUnicode_of_encoder (env : FontEnv τ) (fh : FontHeap τ) (font : PdfFont τ)
    {e : τ.TextEncoder} (he : font.encoder env fh = some e) (data : List UInt8) :
    (charcodeBytesToUnicode env fh font data).1 =
        ((charcodes font.isCIDFont data).map (codeString env font.skeleton.toUnicodeCmap e)).flatten ∧
      (charcodeBytesToUnicode env fh font data).2.2 =
        ((charcodes font.isCIDFont data).filter (codeMissed env font.skeleton.toUnicodeCmap e)).length := by
  simp only [charcodeBytesToUnicode, he, foldl_decodeStep_some, and_self]

theorem charcodeBytesToUnicode_of_encoder_sample :
    ∃ (font : PdfFont specTypes) (fh : FontHeap specTypes),
      newPdfFontFromPdfObject specFontEnv sampleHeap (.indirect 0) true [] = .ok (font, fh) ∧
      (charcodeBytesToUnicode specFontEnv fh font [0x00, 0x41]).1 =
          ((charcodes font.isCIDFont [0x00, 0x41]).map
            (codeString specFontEnv font.skeleton.toUnicodeCmap "Identity-H")).flatten ∧
        (charcodeBytesToUnicode specFontEnv fh font [0x00, 0x41]).2.2 =
          ((charcodes font.isCIDFont [0x00, 0x41]).filter
            (codeMissed specFontEnv font.skeleton.toUnicodeCmap "Identity-H")).length :=
  ⟨_, _, rfl, charcodeBytesToUnicode_of_encoder specFontEnv _ _ (by rfl) _⟩

/-! ## Fonts without an encoder -/

theorem foldl_decodeStep_none (env : FontEnv τ) (codes : List UInt16)
    (acc : List (List UInt8) × Nat) : codes.foldl (decodeStep env none none) acc = acc := by
  induction codes generalizing acc with
  | nil => rfl
  | cons code codes ih => exact ih _

/-- A font with neither a `ToUnicode` CMap nor an encoder decodes every byte sequence to the empty
text, with no miss. -/
theorem charcodeBytesToUnicode_of_no_encoder {env : FontEnv τ} {fh : FontHeap τ}
    {font : PdfFont τ} (hc : font.skeleton.toUnicodeCmap = none) (he : font.encoder env fh = none)
    (data : List UInt8) : charcodeBytesToUnicode env fh font data = ([], 0, 0) := by
  simp only [charcodeBytesToUnicode, hc, he, foldl_decodeStep_none, List.flatten_nil, runes_nil,
    List.length_nil]

/-- The Type0 font of the sample document whose encoding is no identity CMap: the two bytes
`00 41` make one code, which decodes to nothing and counts no miss. -/
theorem type0_without_encoder_drops_code :
    ∃ (font : PdfFont specTypes) (fh : FontHeap specTypes),
      newPdfFontFromPdfObject specFontEnv sampleHeap (.indirect 2) true [] = .ok (font, fh) ∧
      charcodes font.isCIDFont [0x00, 0x41] = [0x0041] ∧
      charcodeBytesToUnicode specFontEnv fh font [0x00, 0x41] = ([], 0, 0) :=
  ⟨_, _, rfl, rfl, charcodeBytesToUnicode_of_no_encoder (by rfl) (by rfl) _⟩

end UniPdf.Model
