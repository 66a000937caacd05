import UniPdf.Core.Object

/-!
# Stream filters

Modelled from the spec: `core.DecodeStream`, which applies a stream's declared filter and
returns the decoded bytes, or fails. It reads the stream's dictionary through the heap: the
`Filter` and `DecodeParms` entries are traced with `TraceToDirectObject`, and so a stream may
decode to other bytes once an indirect object it names is written over. Nothing else of the
heap is read (`decodeStream_congr`).

Only what this development's instances need is covered: no filter, or `FlateDecode` of zlib
data made of stored deflate blocks, followed by no predictor or the TIFF predictor 2 of the
`DecodeParms`. A compressed deflate block, a filter array, another filter or another predictor
is an error here.
-/

namespace UniPdf.Core

/-- The `DecodeParms` the flate decoder uses, each 1 when absent. -/
structure FlateParams where
  predictor : Int
  columns : Int
  colors : Int
  deriving DecidableEq, Repr

/-- An integer entry of `DecodeParms`, which is not traced, or its default. -/
def intParam (p : Dict) (key : String) (default : Int) (msg : String) : Except String Int :=
  match p.get key with
  | none => .ok default
  | some (.integer i) => .ok i
  | some _ => .error msg

/-- `newFlateEncoderFromStream`: the traced `DecodeParms`; `Columns` and `Colors` are read only
for a predictor. -/
def flateParams (h : Heap) (entries : Dict) : Except String FlateParams :=
  match traceToDirectObject h (entries.get "DecodeParms") with
  | none | some .null => .ok ⟨1, 1, 1⟩
  | some (.dict p) => do
    let predictor ← intParam p "Predictor" 1 "invalid Predictor"
    if predictor > 1 then
      let columns ← intParam p "Columns" 1 "predictor column invalid"
      let colors ← intParam p "Colors" 1 "predictor colors not an integer"
      pure ⟨predictor, columns, colors⟩
    else pure ⟨predictor, 1, 1⟩
  | some _ => .error "invalid DecodeParms"

/-- At most `fuel` stored deflate blocks (RFC 1951, 3.2.4): the bytes of each, in order, up to
the block marked final. -/
def storedBlocks : Nat → List UInt8 → Except String (List UInt8)
  | fuel + 1, hdr :: l0 :: l1 :: n0 :: n1 :: rest =>
    let len := l0.toNat + 256 * l1.toNat
    if (hdr >>> 1) &&& 3 ≠ 0 then .error "compressed deflate block"
    else if n0 ≠ ~~~l0 ∨ n1 ≠ ~~~l1 then .error "flate: corrupt input"
    else if rest.length < len then .error "unexpected EOF"
    else if hdr &&& 1 = 1 then .ok (rest.take len)
    else (rest.take len ++ ·) <$> storedBlocks fuel (rest.drop len)
  | _, _ => .error "unexpected EOF"

/-- `FlateEncoder.DecodeBytes`: the zlib header (RFC 1950), then the deflate data. The adler-32
trailer is not read. -/
def inflate : List UInt8 → Except String (List UInt8)
  | [] => .ok []
  | cmf :: flg :: rest =>
    if cmf &&& 0x0f ≠ 8 ∨ cmf >>> 4 > 7 ∨ (cmf.toNat * 256 + flg.toNat) % 31 ≠ 0 then
      .error "zlib: invalid header"
    else if flg &&& 0x20 ≠ 0 then .error "zlib: invalid dictionary"
    else storedBlocks rest.length rest
  | [_] => .error "unexpected EOF"

/-- One row of the TIFF predictor: each sample plus the decoded sample `colors` places to its
left. -/
def tiffRow (colors : Nat) (row : List UInt8) : List UInt8 :=
  row.foldl (fun out x =>
    out ++ [if out.length < colors then x else x + out.getD (out.length - colors) 0]) []

/-- `rows` rows of `columns` samples each. -/
def tiffRows (columns colors : Nat) : Nat → List UInt8 → List UInt8
  | 0, _ => []
  | rows + 1, data =>
    tiffRow colors (data.take columns) ++ tiffRows columns colors rows (data.drop columns)

/-- `FlateEncoder.DecodeStream` after the inflate: the predictor of the parameters. -/
def predict (params : FlateParams) (out : List UInt8) : Except String (List UInt8) :=
  if params.predictor ≤ 1 then .ok out
  else if params.predictor = 2 then
    let columns := params.columns.toNat
    let colors := params.colors.toNat
    if columns = 0 ∨ colors = 0 ∨ out.length % columns ≠ 0 ∨ columns % colors ≠ 0 then
      .error "invalid row length"
    else .ok (tiffRows columns colors (out.length / columns) out)
  else .error "unsupported predictor"

/-- `core.DecodeStream` of a stream with dictionary `entries` and encoded `data`. -/
def decodeStream (h : Heap) (entries : Dict) (data : List UInt8) : Except String (List UInt8) :=
  match traceToDirectObject h (entries.get "Filter") with
  | none | some .null => .ok data
  | some (.name "FlateDecode") => do
    let params ← flateParams h entries
    predict params (← inflate data)
  | some (.name _) => .error "unsupported encoding method"
  | some _ => .error "unsupported filter"

/-- The decoder reads the heap only through the traced `Filter` and `DecodeParms`. -/
theorem decodeStream_congr {h h' : Heap} {entries : Dict}
    (hf : traceToDirectObject h' (entries.get "Filter") = traceToDirectObject h (entries.get "Filter"))
    (hp : traceToDirectObject h' (entries.get "DecodeParms") =
      traceToDirectObject h (entries.get "DecodeParms"))
    (data : List UInt8) : decodeStream h' entries data = decodeStream h entries data := by
  simp only [decodeStream, flateParams, hf, hp]

end UniPdf.Core
