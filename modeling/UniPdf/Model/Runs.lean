import UniPdf.Model.Facade

/-!
# What later calls do to the fonts a client holds

A client holds its fonts by value; a later call reaches them only through their variant
pointers. Along every run of the facade from the empty session, after a font is handed out:

- it keeps its place among the fonts held, and `Subtype` keeps its answer
  (`Session.subtype_kept`): loads only add objects, and `SetEncoder` rewrites an encoder, never a
  Type0 font's descendant;
- `Encoder()` answers what the last `SetEncoder` of that font set, or what it answered before the
  run where no call set it; a standard font, held by value, keeps its own encoder whatever is
  set (`Session.encoder_run`);
- every Type0 object of the heap holds a descendant that satisfies the facade invariant and is
  no Type0 font (`Session.heap_type0_descendants`), so `Subtype` and the methods of a
  descendant never reach a nested composite font.
-/

namespace UniPdf.Model

open UniPdf.Core

variable {τ : Types}

/-! ## `Subtype` across heaps -/

namespace PdfFont

theorem subtypeN_extends {fh fh' : FontHeap τ} (he : fh.Extends fh') (n : Nat) :
    ∀ {font : PdfFont τ} {s : String}, font.subtypeN fh n = some s →
      font.subtypeN fh' n = some s := by
  induction n with
  | zero => intro _ _ hs; cases hs
  | succ n ih =>
    intro font s hs
    unfold subtypeN at hs ⊢
    split at hs
    next a hc =>
      cases hr : fh.read? a with
      | none => rw [hr] at hs; cases hs
      | some o =>
        rw [hr] at hs
        rw [he a o hr]
        cases o with
        | type0 v d =>
          obtain ⟨t, ht, rfl⟩ := Option.map_eq_some'.mp hs
          simp only [ih ht, Option.map_some']
        | _ => cases hs
    next => exact hs

theorem subtypeN_modify_setEncoder (fh : FontHeap τ) (a : Nat) (e : Option τ.TextEncoder)
    (n : Nat) : ∀ font : PdfFont τ,
      font.subtypeN (fh.modify a (FontObject.setEncoder e)) n = font.subtypeN fh n := by
  induction n with
  | zero => intro _; rfl
  | succ n ih =>
    intro font
    unfold subtypeN
    split
    next b hc =>
      rw [FontHeap.read?_modify]
      by_cases hab : a = b
      · rw [if_pos hab]
        cases fh.read? b with
        | none => rfl
        | some o => cases o <;> simp [FontObject.setEncoder, ih]
      · rw [if_neg hab]
        simp only [ih]
    next => rfl

theorem subtypeN_setEncoder (g font : PdfFont τ) (e : Option τ.TextEncoder) (fh : FontHeap τ)
    (n : Nat) : font.subtypeN (g.setEncoder e fh) n = font.subtypeN fh n := by
  unfold setEncoder
  split
  · exact subtypeN_modify_setEncoder fh _ e n font
  · rfl

end PdfFont

/-! ## The heap's Type0 objects -/

namespace FontHeap

/-- Every Type0 object of the heap holds a descendant that satisfies the facade invariant in the
heap and is no Type0 font. -/
def DescendantsInv (fh : FontHeap τ) : Prop :=
  ∀ a v d, fh.read? a = some (.type0 v d) → FacadeInv fh d ∧ ∀ b, d.context ≠ some (.type0 b)

theorem DescendantsInv.alloc {fh : FontHeap τ} (hfh : fh.DescendantsInv) (o : FontObject τ)
    (ho : ∀ v d, o = .type0 v d → FacadeInv fh d ∧ ∀ b, d.context ≠ some (.type0 b)) :
    (fh.alloc o).2.DescendantsInv := by
  intro a v d hr
  have hext := extends_alloc fh o
  by_cases ha : a < fh.size
  · rw [read?_alloc_of_lt o ha] at hr
    exact ⟨(hfh a v d hr).1.mono hext, (hfh a v d hr).2⟩
  · have := lt_size_of_read? hr
    rw [size_alloc] at this
    rw [show a = fh.size by omega, read?_alloc_self, Option.some.injEq] at hr
    exact ⟨(ho v d hr).1.mono hext, (ho v d hr).2⟩

theorem read?_setEncoder_type0 {fh : FontHeap τ} {g : PdfFont τ} {e : Option τ.TextEncoder}
    {a : Nat} {v : FontVariant τ} {d : PdfFont τ}
    (hr : (g.setEncoder e fh).read? a = some (.type0 v d)) :
    ∃ v', fh.read? a = some (.type0 v' d) := by
  unfold PdfFont.setEncoder at hr
  split at hr
  · rw [read?_modify] at hr
    split at hr
    · obtain ⟨o, ho, hset⟩ := Option.map_eq_some'.mp hr
      cases o <;> simp only [FontObject.setEncoder, reduceCtorEq, FontObject.type0.injEq] at hset
      exact ⟨_, ho.trans (by rw [hset.2])⟩
    · exact ⟨v, hr⟩
  · exact ⟨v, hr⟩

theorem DescendantsInv.setEncoder {fh : FontHeap τ} (hfh : fh.DescendantsInv) (g : PdfFont τ)
    (e : Option τ.TextEncoder) : (g.setEncoder e fh).DescendantsInv := by
  intro a v d hr
  obtain ⟨v', hr'⟩ := read?_setEncoder_type0 hr
  exact ⟨(hfh a v' d hr').1.setEncoder g e, (hfh a v' d hr').2⟩

end FontHeap

section Load

variable (env : FontEnv τ) (h : Heap)

theorem loadFont_descendantsInv
    {L : PdfObject → FontHeap τ → Except FontError (PdfFont τ × FontHeap τ)}
    (hL : ∀ df fh fh' (d : PdfFont τ), L df fh = .ok (d, fh') → fh.DescendantsInv →
      fh'.DescendantsInv ∧ FacadeInv fh' d ∧ ∀ b, d.context ≠ some (.type0 b))
    {o : PdfObject} {allow : Bool} {fh fh' : FontHeap τ} {font : PdfFont τ}
    (hf : loadFont env h L o allow fh = .ok (font, fh')) (hfh : fh.DescendantsInv) :
    fh'.DescendantsInv := by
  rcases (loadFont_ok env h hf).2 with ⟨-, -, v, d, fh1, ht, -, rfl⟩ | ⟨-, v, -, -, rfl⟩ |
    ⟨-, v, -, -, rfl⟩ | ⟨-, v, -, -, rfl⟩
  · obtain ⟨df, hd, -⟩ := newPdfFontType0FromPdfObject_ok env h ht
    obtain ⟨hfh1, hdinv, hdc⟩ := hL _ _ _ _ hd hfh
    exact hfh1.alloc _ fun _ _ he => by cases he; exact ⟨hdinv, hdc⟩
  all_goals exact hfh.alloc _ fun _ _ he => by cases he

theorem newPdfFontFromPdfObjectN_descendantsInv (n : Nat) {o : PdfObject} {allow : Bool}
    {fh fh' : FontHeap τ} {font : PdfFont τ}
    (hf : newPdfFontFromPdfObjectN env h n o allow fh = .ok (font, fh'))
    (hfh : fh.DescendantsInv) : fh'.DescendantsInv := by
  induction n generalizing o allow fh fh' font with
  | zero => cases hf
  | succ n ih =>
    refine loadFont_descendantsInv env h (fun df fh1 fh2 d hd hfh1 => ?_) hf hfh
    cases n with
    | zero => cases hd
    | succ m =>
      exact ⟨ih hd hfh1, loadFont_inv env h hd, (loadFont_not_type0 env h hd).2⟩

end Load

/-! ## Runs -/

/-- The encoder a call sets for the `i`-th font held: that of a `SetEncoder` of that font. -/
def FacadeCall.encoderFor (i : Nat) : FacadeCall τ → Option (Option τ.TextEncoder)
  | .setEncoder j e => if j = i then some e else none
  | _ => none

theorem PdfFont.encoder_extends {env : FontEnv τ} {fh fh' : FontHeap τ} {font : PdfFont τ}
    (hf : FacadeInv fh font) (he : fh.Extends fh') : font.encoder env fh' = font.encoder env fh := by
  refine encoder_congr fun a ha => ?_
  obtain ⟨c, hc, hca⟩ := Option.bind_eq_some.mp ha
  obtain ⟨o, ho, -⟩ := hf.points c a (context_of_actualFont hc) hca
  rw [he a o ho, ho]

namespace Session

variable (env : FontEnv τ) (h : Heap)

theorem run_cons (s : Session τ) (c : FacadeCall τ) (calls : List (FacadeCall τ)) :
    s.run env h (c :: calls) = (s.step env h c).run env h calls := rfl

/-- What every call keeps, every run keeps. -/
theorem run_preserves {P : Session τ → Prop} (hP : ∀ s c, P s → P (s.step env h c))
    (calls : List (FacadeCall τ)) {s : Session τ} (hs : P s) : P (s.run env h calls) := by
  induction calls generalizing s with
  | nil => exact hs
  | cons c calls ih => exact ih (hP s c hs)

theorem step_cases (s : Session τ) (c : FacadeCall τ) :
    s.step env h c = s ∨
    (∃ o allow font fh, newPdfFontFromPdfObject env h o allow s.heap = .ok (font, fh) ∧
      s.step env h c = ⟨s.fonts ++ [font], fh⟩) ∨
    (∃ name font, newStandard14Font name = .ok font ∧
      s.step env h c = ⟨s.fonts ++ [font], s.heap⟩) ∨
    (∃ (i : Nat) (g : PdfFont τ) (e : Option τ.TextEncoder), s.fonts[i]? = some g ∧
      s.step env h c = ⟨s.fonts, g.setEncoder e s.heap⟩) := by
  cases c with
  | load o allow =>
    rcases hf : newPdfFontFromPdfObject env h o allow s.heap with _ | ⟨font, fh⟩
    · exact .inl (by simp only [step, hf])
    · exact .inr (.inl ⟨o, allow, font, fh, hf, by simp only [step, hf]⟩)
  | standard14 name =>
    rcases hf : newStandard14Font (τ := τ) name with _ | font
    · exact .inl (by simp only [step, hf])
    · exact .inr (.inr (.inl ⟨name, font, hf, by simp only [step, hf]⟩))
  | setEncoder i e =>
    rcases hg : s.fonts[i]? with _ | g
    · exact .inl (by simp only [step, hg])
    · exact .inr (.inr (.inr ⟨i, g, e, hg, by simp only [step, hg]⟩))

theorem getElem?_step {s : Session τ} {i : Nat} {font : PdfFont τ} (hi : s.fonts[i]? = some font)
    (c : FacadeCall τ) : (s.step env h c).fonts[i]? = some font := by
  have hlt := (List.getElem?_eq_some_iff.mp hi).1
  rcases step_cases env h s c with hs | ⟨_, _, _, _, -, hs⟩ | ⟨_, _, -, hs⟩ | ⟨_, _, _, -, hs⟩ <;>
    simp only [hs, List.getElem?_append_left hlt, hi]

theorem subtypeN_step {s : Session τ} {font : PdfFont τ} {n : Nat} {x : String}
    (hx : font.subtypeN s.heap n = some x) (c : FacadeCall τ) :
    font.subtypeN (s.step env h c).heap n = some x := by
  rcases step_cases env h s c with hs | ⟨_, _, _, _, hf, hs⟩ | ⟨_, _, -, hs⟩ | ⟨_, g, e, -, hs⟩ <;>
    rw [hs]
  · exact hx
  · exact PdfFont.subtypeN_extends (newPdfFontFromPdfObjectN_extends env h 2 hf) n hx
  · exact hx
  · exact (PdfFont.subtypeN_setEncoder g font e s.heap n).trans hx

/-- Every font held answers `Subtype` from depth 2 on. -/
def SubtypesDefined (s : Session τ) : Prop :=
  ∀ font ∈ s.fonts, ∃ x, ∀ n, font.subtypeN s.heap (n + 2) = some x

theorem subtypeN_of_load {o : PdfObject} {allow : Bool} {fh fh' : FontHeap τ} {font : PdfFont τ}
    (hf : newPdfFontFromPdfObject env h o allow fh = .ok (font, fh')) :
    ∃ x, ∀ n, font.subtypeN fh' (n + 2) = some x := by
  by_cases ht : ∃ a, font.context = some (.type0 a)
  · obtain ⟨a, ha⟩ := ht
    cases allow
    · exact absurd ha ((loadFont_not_type0 env h hf).2 a)
    · obtain ⟨v, d, -, -, hn⟩ := type0_descendant env h hf ha
      exact ⟨_, hn⟩
  · exact ⟨_, fun n => PdfFont.subtypeN_of_not_type0 (not_exists.mp ht) fh' (n + 1)⟩

theorem subtypesDefined_step {s : Session τ} (hs : s.SubtypesDefined) (c : FacadeCall τ) :
    (s.step env h c).SubtypesDefined := by
  have old : ∀ g ∈ s.fonts, ∃ x, ∀ n, g.subtypeN (s.step env h c).heap (n + 2) = some x :=
    fun g hg => (hs g hg).imp fun x hx n => subtypeN_step env h (hx n) c
  have snoc {fh : FontHeap τ} {f : PdfFont τ} (hold : ∀ g ∈ s.fonts, ∃ x, ∀ n,
      g.subtypeN fh (n + 2) = some x) (hf : ∃ x, ∀ n, f.subtypeN fh (n + 2) = some x) :
      SubtypesDefined ⟨s.fonts ++ [f], fh⟩ := fun g hg => by
    rcases List.mem_append.mp hg with hg | hg
    exacts [hold g hg, List.mem_singleton.mp hg ▸ hf]
  rcases step_cases env h s c with hc | ⟨_, _, _, _, hf, hc⟩ | ⟨_, _, hf, hc⟩ | ⟨_, _, _, -, hc⟩ <;>
    rw [hc] at old ⊢
  · exact hs
  · exact snoc old (subtypeN_of_load env h hf)
  · obtain ⟨std, hctx, -⟩ := newStandard14Font_ok hf
    exact snoc old ⟨_, fun n => PdfFont.subtypeN_of_not_type0 (by simp [hctx]) _ (n + 1)⟩
  · exact old

/-- Every font a client holds keeps its place, and `Subtype` keeps its answer, along any later
run: in the session reached by `pre`, the `i`-th font answers `Subtype`, and after any further
calls it is still the `i`-th font and answers the same. -/
theorem subtype_kept (pre calls : List (FacadeCall τ)) {i : Nat} {font : PdfFont τ}
    (hi : (run env h ⟨[], []⟩ pre).fonts[i]? = some font) :
    ∃ x, (∀ n, font.subtypeN (run env h ⟨[], []⟩ pre).heap (n + 2) = some x) ∧
      ((run env h ⟨[], []⟩ pre).run env h calls).fonts[i]? = some font ∧
      ∀ n, font.subtypeN ((run env h ⟨[], []⟩ pre).run env h calls).heap (n + 2) = some x := by
  obtain ⟨x, hx⟩ := run_preserves env h (P := SubtypesDefined)
    (fun _ c hs => subtypesDefined_step env h hs c) pre (fun _ hg => by cases hg) font
    (List.getElem?_mem hi)
  exact ⟨x, hx, run_preserves env h (P := fun s => s.fonts[i]? = some font)
      (fun _ c hs => getElem?_step env h hs c) calls hi,
    fun n => run_preserves env h (P := fun s => font.subtypeN s.heap (n + 2) = some x)
      (fun _ c hs => subtypeN_step env h hs c) calls (hx n)⟩

end Session

theorem subtype_kept_sample :
    let s := Session.run specFontEnv sampleHeap ⟨[], []⟩ [.load (.indirect 0) true]
    let calls : List (FacadeCall specTypes) :=
      [.setEncoder 0 none, .load (.indirect 2) true, .load (.indirect 3) true, .standard14 "Courier"]
    ∃ font, s.fonts[0]? = some font ∧
      ∃ x, (∀ n, font.subtypeN s.heap (n + 2) = some x) ∧
        (s.run specFontEnv sampleHeap calls).fonts[0]? = some font ∧
        ∀ n, font.subtypeN (s.run specFontEnv sampleHeap calls).heap (n + 2) = some x :=
  ⟨_, rfl, Session.subtype_kept specFontEnv sampleHeap _ _ rfl⟩

namespace Session

variable (env : FontEnv τ) (h : Heap)

theorem encoder_step {s : Session τ} (hs : s.Inv) {i : Nat} {font : PdfFont τ}
    (hi : s.fonts[i]? = some font) (c : FacadeCall τ) :
    font.encoder env (s.step env h c).heap =
      if font.address?.isSome then (c.encoderFor i).getD (font.encoder env s.heap)
      else font.encoder env s.heap := by
  have hf := hs.facade font (List.getElem?_mem hi)
  cases c with
  | load o allow =>
    simp only [step, FacadeCall.encoderFor, Option.getD_none, ite_self]
    split
    next hl => exact PdfFont.encoder_extends hf (newPdfFontFromPdfObjectN_extends env h 2 hl)
    next => rfl
  | standard14 name =>
    simp only [step, FacadeCall.encoderFor, Option.getD_none, ite_self]
    split <;> rfl
  | setEncoder j e =>
    simp only [step, FacadeCall.encoderFor]
    split
    next g hg =>
      by_cases hji : j = i
      · subst hji
        rw [hi, Option.some.injEq] at hg
        subst hg
        cases ha : font.address? with
        | none => simp [PdfFont.setEncoder, ha]
        | some a => simp [encoder_setEncoder_self env hf ha]
      · simp only [hji, ite_false, Option.getD_none, ite_self]
        exact encoder_setEncoder_of_ne env e fun a hga hfa =>
          hji (hs.distinct j i g font a hg hi hga hfa)
    next hnone =>
      have hji : j ≠ i := by rintro rfl; rw [hi] at hnone; cases hnone
      simp [hji]

theorem encoder_run_of_inv {s : Session τ} (hs : s.Inv) {i : Nat} {font : PdfFont τ}
    (hi : s.fonts[i]? = some font) (calls : List (FacadeCall τ)) :
    font.encoder env (s.run env h calls).heap =
      if font.address?.isSome then
        ((calls.filterMap (FacadeCall.encoderFor i)).getLast?).getD (font.encoder env s.heap)
      else font.encoder env s.heap := by
  induction calls generalizing s with
  | nil => split <;> rfl
  | cons c calls ih =>
    rw [run_cons, ih (step_inv env h hs c) (getElem?_step env h hi c), encoder_step env h hs hi c]
    by_cases ha : font.address?.isSome
    · simp only [ha, ite_true, getD_getLast?_filterMap_cons]
    · simp only [ha]
      rfl

/-- Along every run from the session reached by `pre`, `Encoder()` of the `i`-th font held is
what the last `SetEncoder` of that font set, or what it was before the run where no call set it;
a font without a variant pointer, a standard font among them, keeps its encoder whatever is
set. -/
theorem encoder_run (pre calls : List (FacadeCall τ)) {i : Nat} {font : PdfFont τ}
    (hi : (run env h ⟨[], []⟩ pre).fonts[i]? = some font) :
    font.encoder env ((run env h ⟨[], []⟩ pre).run env h calls).heap =
      if font.address?.isSome then
        ((calls.filterMap (FacadeCall.encoderFor i)).getLast?).getD
          (font.encoder env (run env h ⟨[], []⟩ pre).heap)
      else font.encoder env (run env h ⟨[], []⟩ pre).heap :=
  encoder_run_of_inv env h (run_inv env h inv_empty pre) hi calls

end Session

theorem encoder_run_sample :
    let s := Session.run specFontEnv sampleHeap ⟨[], []⟩
      [.load (.indirect 0) true, .load (.indirect 3) true]
    let calls : List (FacadeCall specTypes) :=
      [.setEncoder 1 (some "WinAnsiEncoding"), .load (.indirect 5) true, .setEncoder 0 none,
        .setEncoder 1 (some "MacExpertEncoding"), .standard14 "Courier", .setEncoder 2 none]
    ∃ font, s.fonts[1]? = some font ∧
      font.encoder specFontEnv (s.run specFontEnv sampleHeap calls).heap =
        if font.address?.isSome then
          ((calls.filterMap (FacadeCall.encoderFor 1)).getLast?).getD
            (font.encoder specFontEnv s.heap)
        else font.encoder specFontEnv s.heap :=
  ⟨_, rfl, Session.encoder_run specFontEnv sampleHeap _ _ rfl⟩

namespace Session

variable (env : FontEnv τ) (h : Heap)

theorem descendantsInv_step {s : Session τ} (hs : s.heap.DescendantsInv) (c : FacadeCall τ) :
    (s.step env h c).heap.DescendantsInv := by
  rcases step_cases env h s c with hc | ⟨_, _, _, _, hf, hc⟩ | ⟨_, _, -, hc⟩ | ⟨_, g, e, -, hc⟩ <;>
    rw [hc]
  · exact hs
  · exact newPdfFontFromPdfObjectN_descendantsInv env h 2 hf hs
  · exact hs
  · exact hs.setEncoder g e

/-- In every session reached from none, every Type0 object of the heap holds a descendant that
satisfies the facade invariant and is no Type0 font: `Subtype`, `Encoder()` and the other
methods of a descendant never meet a nested composite font or a dangling pointer. -/
theorem heap_type0_descendants (calls : List (FacadeCall τ)) :
    (run env h ⟨[], []⟩ calls).heap.DescendantsInv :=
  run_preserves env h (P := fun s => s.heap.DescendantsInv)
    (fun _ c hs => descendantsInv_step env h hs c) calls fun _ _ _ hr => by cases hr

end Session

end UniPdf.Model
