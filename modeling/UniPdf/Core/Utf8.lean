import Mathlib.Data.List.Basic

/-!
# Go's runes: `[]rune(s)` and `string(r)`

A Go string is its bytes, `List UInt8`. `runes s` is `[]rune(s)`: the runtime reads a byte below
`0x80` as itself and hands any other to `decodeRune`, which reads one UTF-8 sequence, or reads
`RuneError` for that one byte where there is none. `encodeRune r` is `string(r)`, the runtime's
`encoderune`. The runtime's masks and shifts are written as `%`, `*` and `/`, and its `|` of
disjoint bit fields as `+`.

Two facts carry the miss count of the decoder (`Model/Decode.lean`):
- `runes_append`: bytes that do not start with a continuation byte are decoded apart from what
  stands before them, however that ends;
- `runes_encodeRune_append`: `string(r)` decodes back to one rune, whatever follows it, and
  `encodeRune_fresh`: it starts no continuation of what precedes it.
-/

namespace UniPdf.Core

/-- Go's `rune`, an `int32`. -/
abbrev Rune := Int

/-- `utf8.RuneError`, `U+FFFD`. -/
def runeError : Nat := 0xFFFD

/-- The byte at `i` of `s` is a continuation byte `0x80`–`0xBF` (false past the end). -/
def contAt (s : List UInt8) (i : Nat) : Bool :=
  match s[i]? with
  | some c => 0x80 ≤ c.toNat && c.toNat ≤ 0xBF
  | none => false

/-- `s[i] & maskx`. -/
def low6 (s : List UInt8) (i : Nat) : Nat := (s.getD i 0).toNat % 0x40

/-- The runtime's `decoderune` at a byte `b ≥ 0x80` followed by `s`: the rune, and how many
bytes of `s` it takes with `b`. -/
def decodeRune (b : UInt8) (s : List UInt8) : Nat × Nat :=
  let b := b.toNat
  if 0xC0 ≤ b ∧ b < 0xE0 then
    if contAt s 0 then
      let r := b % 0x20 * 0x40 + low6 s 0
      if 0x7F < r then (r, 1) else (runeError, 0)
    else (runeError, 0)
  else if 0xE0 ≤ b ∧ b < 0xF0 then
    if contAt s 0 && contAt s 1 then
      let r := b % 0x10 * 0x1000 + low6 s 0 * 0x40 + low6 s 1
      if 0x7FF < r ∧ ¬(0xD800 ≤ r ∧ r ≤ 0xDFFF) then (r, 2) else (runeError, 0)
    else (runeError, 0)
  else if 0xF0 ≤ b ∧ b < 0xF8 then
    if contAt s 0 && contAt s 1 && contAt s 2 then
      let r := b % 0x08 * 0x40000 + low6 s 0 * 0x1000 + low6 s 1 * 0x40 + low6 s 2
      if 0xFFFF < r ∧ r ≤ 0x10FFFF then (r, 3) else (runeError, 0)
    else (runeError, 0)
  else (runeError, 0)

theorem lt_length_of_contAt {s : List UInt8} {i : Nat} (h : contAt s i = true) :
    i < s.length := by
  unfold contAt at h
  split at h
  · rename_i c hc
    by_contra hn
    rw [List.getElem?_eq_none (by omega)] at hc
    cases hc
  · cases h

theorem decodeRune_snd_le (b : UInt8) (s : List UInt8) : (decodeRune b s).2 ≤ s.length := by
  unfold decodeRune
  dsimp only
  repeat' split
  all_goals first
    | exact Nat.zero_le _
    | exact lt_length_of_contAt ‹contAt s 0 = true›
    | exact lt_length_of_contAt (Bool.and_eq_true_iff.mp ‹(contAt s 0 && contAt s 1) = true›).2
    | exact lt_length_of_contAt
        (Bool.and_eq_true_iff.mp ‹(contAt s 0 && contAt s 1 && contAt s 2) = true›).2

/-- `[]rune(s)`, as Unicode scalar values. -/
def runes : List UInt8 → List Nat
  | [] => []
  | b :: s =>
    if b.toNat < 0x80 then b.toNat :: runes s
    else (decodeRune b s).1 :: runes (s.drop (decodeRune b s).2)
termination_by s => s.length
decreasing_by
  all_goals simp_wf
  all_goals omega

@[simp] theorem runes_nil : runes [] = [] := by simp [runes]

/-! ## Decoding apart -/

@[simp] theorem contAt_nil (i : Nat) : contAt [] i = false := rfl

@[simp] theorem contAt_cons_succ (c : UInt8) (s : List UInt8) (i : Nat) :
    contAt (c :: s) (i + 1) = contAt s i := by
  simp [contAt]

@[simp] theorem contAt_cons_zero (c : UInt8) (s : List UInt8) :
    contAt (c :: s) 0 = (0x80 ≤ c.toNat && c.toNat ≤ 0xBF) := by
  simp [contAt]

@[simp] theorem low6_cons_succ (c : UInt8) (s : List UInt8) (i : Nat) :
    low6 (c :: s) (i + 1) = low6 s i := rfl

/-- The first byte of `t` is no continuation byte. -/
abbrev Fresh (t : List UInt8) : Prop := contAt t 0 = false

theorem decodeRune_append (b : UInt8) (s : List UInt8) {t : List UInt8} (ht : Fresh t) :
    decodeRune b (s ++ t) = decodeRune b s := by
  rcases s with _ | ⟨x, _ | ⟨y, _ | ⟨z, s⟩⟩⟩ <;> simp [decodeRune, ht] <;> rfl

theorem runes_append (p : List UInt8) {t : List UInt8} (ht : Fresh t) :
    runes (p ++ t) = runes p ++ runes t := by
  induction p using runes.induct with
  | case1 => simp
  | case2 b s hb ih =>
    rw [List.cons_append, runes, runes, if_pos hb, if_pos hb, ih, List.cons_append]
  | case3 b s hb ih =>
    rw [List.cons_append, runes, runes, if_neg hb, if_neg hb, decodeRune_append b s ht,
      List.drop_append_of_le_length (decodeRune_snd_le b s), ih, List.cons_append]

/-! ## `string(r)` -/

/-- `uint32(r)`. -/
def runeBits (r : Rune) : Nat := (r % 0x100000000).toNat

/-- The rune `string(r)` writes: `RuneError` for a surrogate or past `0x10FFFF`. -/
def scalarOf (r : Rune) : Nat :=
  if 0x10FFFF < runeBits r ∨ (0xD800 ≤ runeBits r ∧ runeBits r ≤ 0xDFFF) then runeError
  else runeBits r

/-- The three bytes of a rune from `0x800` to `0xFFFF`. -/
def encode3 (i : Nat) : List UInt8 :=
  [UInt8.ofNat (0xE0 + i / 0x1000), UInt8.ofNat (0x80 + i / 0x40 % 0x40),
    UInt8.ofNat (0x80 + i % 0x40)]

/-- The bytes of `string(r)`: the runtime's `encoderune`. -/
def encodeRune (r : Rune) : List UInt8 :=
  let i := runeBits r
  if i ≤ 0x7F then [UInt8.ofNat i]
  else if i ≤ 0x7FF then [UInt8.ofNat (0xC0 + i / 0x40), UInt8.ofNat (0x80 + i % 0x40)]
  else if 0x10FFFF < i ∨ (0xD800 ≤ i ∧ i ≤ 0xDFFF) then encode3 runeError
  else if i ≤ 0xFFFF then encode3 i
  else
    [UInt8.ofNat (0xF0 + i / 0x40000), UInt8.ofNat (0x80 + i / 0x1000 % 0x40),
      UInt8.ofNat (0x80 + i / 0x40 % 0x40), UInt8.ofNat (0x80 + i % 0x40)]

theorem toNat_ofNat {n : Nat} (h : n < 0x100) : (UInt8.ofNat n).toNat = n :=
  UInt8.toNat_ofNat_of_lt h

theorem cont_ofNat {k : Nat} (hk : k < 0x40) (s : List UInt8) :
    contAt (UInt8.ofNat (0x80 + k) :: s) 0 = true ∧ low6 (UInt8.ofNat (0x80 + k) :: s) 0 = k := by
  simp only [contAt_cons_zero, low6, List.getD_cons_zero, toNat_ofNat (show 0x80 + k < 0x100 by omega)]
  constructor
  · simp; omega
  · omega

theorem decodeRune_two {b : UInt8} {s : List UInt8} (hb : 0xC0 ≤ b.toNat ∧ b.toNat < 0xE0)
    (h0 : contAt s 0 = true) (hr : 0x7F < b.toNat % 0x20 * 0x40 + low6 s 0) :
    decodeRune b s = (b.toNat % 0x20 * 0x40 + low6 s 0, 1) := by
  simp only [decodeRune]; rw [if_pos hb, if_pos h0, if_pos hr]

theorem decodeRune_three {b : UInt8} {s : List UInt8} (hb : 0xE0 ≤ b.toNat ∧ b.toNat < 0xF0)
    (h0 : contAt s 0 = true) (h1 : contAt s 1 = true)
    (hr : 0x7FF < b.toNat % 0x10 * 0x1000 + low6 s 0 * 0x40 + low6 s 1 ∧
      ¬(0xD800 ≤ b.toNat % 0x10 * 0x1000 + low6 s 0 * 0x40 + low6 s 1 ∧
        b.toNat % 0x10 * 0x1000 + low6 s 0 * 0x40 + low6 s 1 ≤ 0xDFFF)) :
    decodeRune b s = (b.toNat % 0x10 * 0x1000 + low6 s 0 * 0x40 + low6 s 1, 2) := by
  simp only [decodeRune]; rw [if_neg (by omega), if_pos hb, if_pos (by simp [h0, h1]), if_pos hr]

theorem decodeRune_four {b : UInt8} {s : List UInt8} (hb : 0xF0 ≤ b.toNat ∧ b.toNat < 0xF8)
    (h0 : contAt s 0 = true) (h1 : contAt s 1 = true) (h2 : contAt s 2 = true)
    (hr : 0xFFFF < b.toNat % 0x08 * 0x40000 + low6 s 0 * 0x1000 + low6 s 1 * 0x40 + low6 s 2 ∧
      b.toNat % 0x08 * 0x40000 + low6 s 0 * 0x1000 + low6 s 1 * 0x40 + low6 s 2 ≤ 0x10FFFF) :
    decodeRune b s =
      (b.toNat % 0x08 * 0x40000 + low6 s 0 * 0x1000 + low6 s 1 * 0x40 + low6 s 2, 3) := by
  simp only [decodeRune]
  rw [if_neg (by omega), if_neg (by omega), if_pos hb, if_pos (by simp [h0, h1, h2]), if_pos hr]

theorem runes_of_decodeRune {b : UInt8} {s : List UInt8} {r n : Nat} (hb : ¬b.toNat < 0x80)
    (hd : decodeRune b s = (r, n)) : runes (b :: s) = r :: runes (s.drop n) := by
  rw [runes, if_neg hb, hd]

theorem runes_encode1 {i : Nat} (h : i ≤ 0x7F) (t : List UInt8) :
    runes (UInt8.ofNat i :: t) = i :: runes t := by
  rw [runes, if_pos (by rw [toNat_ofNat (by omega)]; omega), toNat_ofNat (by omega)]

theorem runes_encode2 {i : Nat} (h1 : 0x7F < i) (h2 : i ≤ 0x7FF) (t : List UInt8) :
    runes (UInt8.ofNat (0xC0 + i / 0x40) :: UInt8.ofNat (0x80 + i % 0x40) :: t) = i :: runes t := by
  have e0 : (UInt8.ofNat (0xC0 + i / 0x40)).toNat = 0xC0 + i / 0x40 := toNat_ofNat (by omega)
  obtain ⟨c0, l0⟩ := cont_ofNat (k := i % 0x40) (by omega) t
  have hr : (0xC0 + i / 0x40) % 0x20 * 0x40 + i % 0x40 = i := by omega
  have hd := decodeRune_two (b := UInt8.ofNat (0xC0 + i / 0x40)) (by omega) c0
    (by rw [l0, e0, hr]; omega)
  rw [l0, e0, hr] at hd
  rw [runes_of_decodeRune (by omega) hd]
  rfl

theorem runes_encode3 {i : Nat} (h1 : 0x7FF < i) (h2 : i ≤ 0xFFFF)
    (h3 : ¬(0xD800 ≤ i ∧ i ≤ 0xDFFF)) (t : List UInt8) :
    runes (encode3 i ++ t) = i :: runes t := by
  have e0 : (UInt8.ofNat (0xE0 + i / 0x1000)).toNat = 0xE0 + i / 0x1000 := toNat_ofNat (by omega)
  obtain ⟨c0, l0⟩ := cont_ofNat (k := i / 0x40 % 0x40) (by omega) (UInt8.ofNat (0x80 + i % 0x40) :: t)
  obtain ⟨c1, l1⟩ := cont_ofNat (k := i % 0x40) (by omega) t
  have hr : (0xE0 + i / 0x1000) % 0x10 * 0x1000 + i / 0x40 % 0x40 * 0x40 + i % 0x40 = i := by omega
  have hd := decodeRune_three (b := UInt8.ofNat (0xE0 + i / 0x1000)) (by omega) c0 (by simpa using c1)
    (by simp only [l0, low6_cons_succ, l1, e0, hr]; omega)
  simp only [l0, low6_cons_succ, l1, e0, hr] at hd
  simp only [encode3, List.cons_append, List.nil_append]
  rw [runes_of_decodeRune (by omega) hd]
  rfl

/-- `string(r)` starts with no continuation byte, so it is decoded apart from what precedes it. -/
theorem encodeRune_fresh (r : Rune) (t : List UInt8) : Fresh (encodeRune r ++ t) := by
  simp only [Fresh, encodeRune, encode3, runeError]
  generalize runeBits r = i
  split_ifs <;> simp only [List.cons_append, contAt_cons_zero, Bool.and_eq_false_iff,
    decide_eq_false_iff_not, Nat.not_le] <;> rw [toNat_ofNat (by omega)] <;> omega

theorem runes_encode4 {i : Nat} (h1 : 0xFFFF < i) (h2 : i ≤ 0x10FFFF) (t : List UInt8) :
    runes (UInt8.ofNat (0xF0 + i / 0x40000) :: UInt8.ofNat (0x80 + i / 0x1000 % 0x40) ::
      UInt8.ofNat (0x80 + i / 0x40 % 0x40) :: UInt8.ofNat (0x80 + i % 0x40) :: t) =
      i :: runes t := by
  have e0 : (UInt8.ofNat (0xF0 + i / 0x40000)).toNat = 0xF0 + i / 0x40000 := toNat_ofNat (by omega)
  obtain ⟨k0, m0⟩ := cont_ofNat (k := i / 0x1000 % 0x40) (by omega)
    (UInt8.ofNat (0x80 + i / 0x40 % 0x40) :: UInt8.ofNat (0x80 + i % 0x40) :: t)
  obtain ⟨k1, m1⟩ := cont_ofNat (k := i / 0x40 % 0x40) (by omega) (UInt8.ofNat (0x80 + i % 0x40) :: t)
  obtain ⟨k2, m2⟩ := cont_ofNat (k := i % 0x40) (by omega) t
  have hr : (0xF0 + i / 0x40000) % 0x08 * 0x40000 + i / 0x1000 % 0x40 * 0x1000 +
      i / 0x40 % 0x40 * 0x40 + i % 0x40 = i := by omega
  have hd := decodeRune_four (b := UInt8.ofNat (0xF0 + i / 0x40000)) (by omega) k0
    (by simpa using k1) (by simpa using k2) (by simp only [m0, low6_cons_succ, m1, m2, e0, hr]; omega)
  simp only [m0, low6_cons_succ, m1, m2, e0, hr] at hd
  rw [runes_of_decodeRune (by omega) hd]
  rfl

/-- `string(r)` decodes back to one rune, whatever follows it: one case per length of the
encoding. -/
theorem runes_encodeRune_append (r : Rune) (t : List UInt8) :
    runes (encodeRune r ++ t) = scalarOf r :: runes t := by
  unfold encodeRune scalarOf
  generalize runeBits r = i
  dsimp only
  by_cases c3 : 0x10FFFF < i ∨ (0xD800 ≤ i ∧ i ≤ 0xDFFF)
  · rw [if_neg (show ¬i ≤ 0x7F by omega), if_neg (show ¬i ≤ 0x7FF by omega), if_pos c3, if_pos c3]
    exact runes_encode3 (by decide) (by decide) (by decide) t
  rw [if_neg c3, if_neg c3]
  split_ifs with c1 c2 c4
  · exact runes_encode1 c1 t
  · exact runes_encode2 (by omega) c2 t
  · exact runes_encode3 (by omega) c4 (by omega) t
  · exact runes_encode4 (by omega) (by omega) t

end UniPdf.Core
