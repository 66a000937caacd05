import Mathlib.Data.List.Basic

/-!
# PDF objects as the core package hands them over

`PdfObject` is a value of core's `PdfObject` interface, and Go's nil interface is `none` in
`Option PdfObject`. An indirect object is a pointer `indirect a` into a `Heap`: the reader
resolves references into such pointers, so the graph a font dictionary sits in may be cyclic.
`Dict.get`/`Dict.set` are `PdfObjectDictionary.Get`/`Set`: a dictionary is its entries, the one
set last for a key shadowing the others. `traceToDirectObject` is `core.TraceToDirectObject`,
which follows at most `traceMaxDepth` indirections and answers nil past them.

A setter called along a run leaves the last value it was given: `foldl_lastWrite` says so of
any state machine whose step sets an observation or leaves it.
-/

namespace UniPdf.Core

/-- A PDF object. Numbers are integers here: font.go copies them without looking. A stream is
its dictionary and its encoded data, `indirect a` a `*PdfIndirectObject` by its place in the
heap, and `reference` an unresolved `*PdfObjectReference`. -/
inductive PdfObject where
  | null
  | bool (b : Bool)
  | integer (i : Int)
  | string (s : List UInt8)
  | name (n : String)
  | array (xs : List PdfObject)
  | dict (entries : List (String × PdfObject))
  | stream (entries : List (String × PdfObject)) (data : List UInt8)
  | indirect (a : Nat)
  | reference (objectNumber : Nat)

/-- `*PdfObjectDictionary`. -/
def Dict := List (String × PdfObject)

namespace Dict

/-- `core.MakeDict()`. -/
def empty : Dict := []

/-- `d.Get(key)`: nil when `key` is not set. -/
def get (d : Dict) (key : String) : Option PdfObject := List.lookup key d

/-- `d.Set(key, val)`; a nil `val` makes `Get(key)` nil. -/
def set (d : Dict) (key : String) : Option PdfObject → Dict
  | some v => ((key, v) :: d : List _)
  | none => (List.filter (fun e => e.1 != key) d : List _)

@[simp] theorem get_empty (key : String) : empty.get key = none := rfl

theorem lookup_cons_of_ne {l : List (String × PdfObject)} {j k' : String} (v : PdfObject)
    (h : k' ≠ j) : List.lookup k' ((j, v) :: l) = List.lookup k' l := by
  have : (k' == j) = false := by simpa using h
  simp [List.lookup_cons, this]

theorem lookup_filter_ne (l : List (String × PdfObject)) (k k' : String) :
    List.lookup k' (l.filter fun e => e.1 != k) = if k' = k then none else List.lookup k' l := by
  induction l with
  | nil => split <;> rfl
  | cons e l ih =>
    obtain ⟨j, v⟩ := e
    by_cases hj : j = k
    · subst hj
      simp only [List.filter_cons, bne_self_eq_false, Bool.false_eq_true, ite_false, ih]
      by_cases hk : k' = j
      · simp [hk]
      · simp [hk, lookup_cons_of_ne v hk]
    · have hkeep : (j != k) = true := by simpa using hj
      simp only [List.filter_cons, hkeep, ite_true]
      by_cases hk : k' = j
      · subst hk; simp [hj]
      · rw [lookup_cons_of_ne v hk, ih, lookup_cons_of_ne v hk]

@[simp] theorem get_set (d : Dict) (k k' : String) (v : Option PdfObject) :
    (d.set k v).get k' = if k' = k then v else d.get k' := by
  cases v with
  | some v =>
    by_cases h : k' = k
    · subst h; simp [set, get]
    · simp only [set, get, h, ite_false]; exact lookup_cons_of_ne v h
  | none => exact lookup_filter_ne d k k'

end Dict

/-- The heap of indirect objects: `indirect a` holds `read a`. -/
def Heap := List PdfObject

namespace Heap

/-- The object a `*PdfIndirectObject` holds. -/
def read (h : Heap) (a : Nat) : PdfObject := List.getD h a .null

/-- `ind.PdfObject = v`. -/
def write (h : Heap) (a : Nat) (v : PdfObject) : Heap := List.set h a v

/-- `&core.PdfIndirectObject{PdfObject: v}`: a fresh pointer. -/
def alloc (h : Heap) (v : PdfObject) : Nat × Heap := (List.length h, List.append h [v])

theorem read_alloc (h : Heap) (v : PdfObject) : (h.alloc v).2.read (h.alloc v).1 = v := by
  simp [alloc, read]

theorem read_write_self (h : Heap) (a : Nat) (v : PdfObject) (ha : a < List.length h) :
    (h.write a v).read a = v := by
  simp [write, read, ha]

end Heap

/-- Modelled from the spec: indirection resolution follows indirect objects to their direct
target; core's `TraceMaxDepth` bounds the indirections it follows, so cyclic graphs end. -/
def traceMaxDepth : Nat := 20

/-- Follow at most `n` more indirections; nil when they run out. -/
def traceN (h : Heap) : Nat → PdfObject → Option PdfObject
  | n + 1, .indirect a => traceN h n (h.read a)
  | 0, .indirect _ => none
  | _, obj => some obj

/-- `core.TraceToDirectObject`. -/
def traceToDirectObject (h : Heap) (obj : Option PdfObject) : Option PdfObject :=
  obj.bind (traceN h traceMaxDepth)

/-- A direct object traces to itself. -/
def IsDirect : PdfObject → Prop
  | .indirect _ => False
  | _ => True

theorem traceN_direct (h : Heap) (n : Nat) {obj : PdfObject} (hd : IsDirect obj) :
    traceN h n obj = some obj := by
  cases obj <;> first | exact hd.elim | cases n <;> rfl

@[simp] theorem traceToDirectObject_none (h : Heap) : traceToDirectObject h none = none := rfl

theorem traceToDirectObject_direct (h : Heap) {obj : PdfObject} (hd : IsDirect obj) :
    traceToDirectObject h (some obj) = some obj :=
  traceN_direct h _ hd

theorem traceToDirectObject_indirect (h : Heap) (a : Nat) (hd : IsDirect (h.read a)) :
    traceToDirectObject h (some (.indirect a)) = some (h.read a) :=
  traceN_direct h _ hd

/-- `core.GetName`: the name of a name object. -/
def getName : Option PdfObject → Option String
  | some (.name n) => some n
  | _ => none

/-! ## Last writes -/

theorem getD_getLast?_filterMap_cons {α β : Type} (f : α → Option β) (c : α) (cs : List α)
    (d : β) : ((c :: cs).filterMap f).getLast?.getD d =
      (cs.filterMap f).getLast?.getD ((f c).getD d) := by
  cases hc : f c <;> simp [List.filterMap_cons, hc, List.getLast?_cons]

/-- Along a run of a state machine whose every step sets an observation to `f c` or, when `f c`
is none, leaves it, the observation is the last value set, or the first one. -/
theorem foldl_lastWrite {σ α β : Type} (step : σ → α → σ) (obs : σ → β) (f : α → Option β)
    (hstep : ∀ s c, obs (step s c) = (f c).getD (obs s)) (s : σ) (calls : List α) :
    obs (calls.foldl step s) = (calls.filterMap f).getLast?.getD (obs s) := by
  induction calls generalizing s with
  | nil => rfl
  | cons c calls ih => rw [List.foldl_cons, ih, hstep, getD_getLast?_filterMap_cons]

end UniPdf.Core
