import BuildRunner.Proofs.Text.LineEnds
import BuildRunner.Text.Utf8
import Mathlib.Algebra.Group.Nat.Defs

/-! Line feeds under decoding. A line feed ends whatever a decoder has begun, and nothing else is
decoded as one, so lines may be cut before they are decoded. -/
namespace BuildRunner.Text.Utf8

/-- What is begun takes no ASCII byte, and no ASCII character comes of it. -/
structure Unfinished.Proper (u : Unfinished) : Prop where
  lacks : 0 < u.missing
  low : 0x80 ≤ u.low.toNat
  wide : 0x80 ≤ (u.bits * 64 + (u.low.toNat - 0x80)) * 64 ^ (u.missing - 1)

theorem proper_of_lead {b : UInt8} {u : Unfinished} (h : lead b = .begins u) : u.Proper := by
  unfold lead at h
  by_cases h1 : b < 0x80
  · simp [h1] at h
  by_cases h2 : b < 0xC2
  · simp [h1, h2] at h
  have htwo : 0xC2 ≤ b.toNat := by simpa [UInt8.lt_iff_toNat_lt] using h2
  by_cases h3 : b < 0xE0
  · simp only [h1, h2, h3, if_true, if_false, Lead.begins.injEq] at h
    subst h
    exact ⟨Nat.one_pos, Nat.le_refl _, by simp; omega⟩
  -- the second byte is bounded from below where the first one has no bits
  have hthree : 0xE0 ≤ b.toNat := by simpa [UInt8.lt_iff_toNat_lt] using h3
  by_cases h4 : b < 0xF0
  · simp only [h1, h2, h3, h4, if_true, if_false, Lead.begins.injEq] at h
    subst h
    by_cases he : b = 0xE0
    · subst he
      exact ⟨by decide, by decide, by decide⟩
    · have hne : b.toNat ≠ 0xE0 := fun hn => he (UInt8.toNat_inj.mp hn)
      exact ⟨Nat.two_pos, by simp [he], by simp [he]; omega⟩
  have hfour : 0xF0 ≤ b.toNat := by simpa [UInt8.lt_iff_toNat_lt] using h4
  by_cases h5 : b < 0xF5
  · simp only [h1, h2, h3, h4, h5, if_true, if_false, Lead.begins.injEq] at h
    subst h
    by_cases he : b = 0xF0
    · subst he
      exact ⟨by decide, by decide, by decide⟩
    · have hne : b.toNat ≠ 0xF0 := fun hn => he (UInt8.toNat_inj.mp hn)
      exact ⟨Nat.succ_pos 2, by simp [he], by simp [he]; omega⟩
  · simp [h1, h2, h3, h4, h5] at h

private theorem single_of_lead {b : UInt8} {c : Char} (h : lead b = .single c) :
    c = Char.ofNat b.toNat := by
  grind [lead]

namespace Unfinished.Proper
variable {u : Unfinished} {b : UInt8}

private theorem low_le_of_accepts (h : u.accepts b = true) : u.low.toNat ≤ b.toNat := by
  simp only [accepts, Bool.and_eq_true, decide_eq_true_eq, UInt8.le_iff_toNat_le] at h
  exact h.1

private theorem wide_push (hu : u.Proper) (h : u.accepts b = true) :
    0x80 ≤ (u.push b).bits * 64 ^ (u.push b).missing := by
  have hle := low_le_of_accepts h
  calc 0x80 ≤ (u.bits * 64 + (u.low.toNat - 0x80)) * 64 ^ (u.missing - 1) := hu.wide
    _ ≤ (u.bits * 64 + (b.toNat - 0x80)) * 64 ^ (u.missing - 1) :=
      Nat.mul_le_mul_right _ (by omega)

private theorem push (hu : u.Proper) (h : u.accepts b = true) (hm : (u.push b).missing ≠ 0) :
    (u.push b).Proper where
  lacks := Nat.pos_of_ne_zero hm
  low := Nat.le_refl _
  wide := by
    have hwide := hu.wide_push h
    have hlow : (u.push b).low.toNat - 0x80 = 0 := Nat.sub_self _
    obtain ⟨n, hn⟩ := Nat.exists_eq_succ_of_ne_zero hm
    rw [hn, Nat.pow_succ', ← Nat.mul_assoc] at hwide
    rwa [hlow, Nat.add_zero, hn, Nat.succ_sub_one]

private theorem bits_push (hu : u.Proper) (h : u.accepts b = true) (hm : (u.push b).missing = 0) :
    0x80 ≤ (u.push b).bits := by
  simpa [hm] using hu.wide_push h

private theorem not_accepts_lineFeed (hu : u.Proper) : u.accepts lineFeed = false := by
  rw [← Bool.not_eq_true]
  intro h
  have hle := low_le_of_accepts h
  have hlow := hu.low
  have hfeed : lineFeed.toNat = 0x0A := rfl
  omega

end Unfinished.Proper

private theorem ofNat_ne_lineFeed {n : Nat} (h : n ≠ 0x0A) : Char.ofNat n ≠ '\n' := by
  intro he
  by_cases hv : n.isValidChar
  · rw [Char.ofNat, dif_pos hv] at he
    have hn : n = 0x0A := congrArg Char.toNat he
    exact h hn
  · rw [Char.ofNat, dif_neg hv] at he
    cases he

section
variable {u : Option Unfinished} {b : UInt8} {bytes : List UInt8}

theorem proper_none : ∀ v ∈ (none : Option Unfinished), v.Proper := by simp

private theorem proper_start : ∀ v ∈ (start b).2, v.Proper := by
  intro v hv
  unfold start at hv
  split at hv
  · cases hv
  · rename_i hl
    cases hv
    exact proper_of_lead hl
  · cases hv

private theorem proper_step (hu : ∀ v ∈ u, v.Proper) : ∀ v ∈ (step u b).2, v.Proper := by
  intro v hv
  match u with
  | none => exact proper_start v hv
  | some w =>
    have hw := hu w rfl
    simp only [step] at hv
    split at hv
    · rename_i ha
      split at hv
      · cases hv
      · rename_i hm
        obtain rfl := Option.mem_some.mp hv
        exact hw.push ha hm
    · exact proper_start v hv

private theorem lineFeed_not_mem_start (hb : b ≠ lineFeed) : some '\n' ∉ (start b).1 := by
  have hn : b.toNat ≠ 0x0A := fun he => hb (UInt8.toNat_inj.mp he)
  unfold start
  split
  · rename_i c hl
    have hc := single_of_lead hl
    simpa [hc] using Ne.symm (ofNat_ne_lineFeed hn)
  · simp
  · simp

private theorem lineFeed_not_mem_step (hu : ∀ v ∈ u, v.Proper) (hb : b ≠ lineFeed) :
    some '\n' ∉ (step u b).1 := by
  match u with
  | none => exact lineFeed_not_mem_start hb
  | some v =>
    have hv := hu v rfl
    simp only [step]
    split
    · rename_i ha
      split
      · rename_i hm
        have hbits := hv.bits_push ha hm
        simpa using Ne.symm (ofNat_ne_lineFeed (by omega))
      · simp
    · simpa using lineFeed_not_mem_start hb

private theorem lineFeed_not_mem_scanFrom (hu : ∀ v ∈ u, v.Proper) (h : lineFeed ∉ bytes) :
    some '\n' ∉ scanFrom u bytes := by
  induction bytes generalizing u with
  | nil =>
    unfold scanFrom
    split <;> simp
  | cons b bytes ih =>
    rw [List.mem_cons, not_or] at h
    rw [scanFrom, List.mem_append, not_or]
    exact ⟨lineFeed_not_mem_step hu (Ne.symm h.1), ih (proper_step hu) h.2⟩

/-- A line feed parts the decoding of what stands before it from that of what follows. -/
theorem scanFrom_append_lineFeed (hu : ∀ v ∈ u, v.Proper) (first rest : List UInt8) :
    scanFrom u (first ++ lineFeed :: rest) =
      scanFrom u first ++ some '\n' :: scanFrom none rest := by
  induction first generalizing u with
  | nil =>
    have hstart : start lineFeed = ([some '\n'], none) := rfl
    match u with
    | none => rfl
    | some v =>
      have hv := (hu v rfl).not_accepts_lineFeed
      simp [scanFrom, step, hv, hstart]
  | cons b first ih => rw [List.cons_append, scanFrom, scanFrom, ih (proper_step hu), List.append_assoc]

end

theorem lineFeed_not_mem_decodeLossy {bytes : List UInt8} (h : lineFeed ∉ bytes) :
    '\n' ∉ decodeLossy bytes := by
  intro hm
  obtain ⟨c, hc, he⟩ := List.mem_map.mp hm
  cases c with
  | none => exact absurd he (by decide)
  | some c =>
    obtain rfl : c = '\n' := he
    exact lineFeed_not_mem_scanFrom proper_none h hc

theorem decodeLossy_append_lineFeed (first rest : List UInt8) :
    decodeLossy (first ++ lineFeed :: rest) = decodeLossy first ++ '\n' :: decodeLossy rest := by
  simp [decodeLossy, scan, scanFrom_append_lineFeed proper_none]

end Utf8

private theorem mem_of_mem_chomp {piece : List Char} {c : Char} (h : c ∈ chomp piece) :
    c ∈ piece := by
  have hsuffix := (List.dropWhile_suffix fun c => c == '\n' || c == '\r').subset
    (List.mem_reverse.mp h)
  exact List.mem_reverse.mp hsuffix

theorem chomp_concat_lineFeed (s : List Char) : chomp (s ++ ['\n']) = chomp s := by
  simp [chomp]

/-- A piece of bytes, decoded and without its end, has no line feed in it. -/
theorem lineFeed_not_mem_chomp_decodeLossy {bytes piece : List UInt8}
    (h : piece ∈ pieces Utf8.lineFeed bytes) : '\n' ∉ chomp (Utf8.decodeLossy piece) := by
  have hinner := separator_not_mem_dropLast h
  rcases List.eq_nil_or_concat piece with rfl | ⟨init, last, rfl⟩
  · exact List.not_mem_nil
  · rw [List.concat_eq_append, List.dropLast_concat] at hinner
    rw [List.concat_eq_append]
    by_cases hlast : last = Utf8.lineFeed
    · rw [hlast, Utf8.decodeLossy_append_lineFeed]
      have hnil : Utf8.decodeLossy [] = [] := rfl
      rw [hnil, chomp_concat_lineFeed]
      exact fun hm => Utf8.lineFeed_not_mem_decodeLossy hinner (mem_of_mem_chomp hm)
    · have hpiece : Utf8.lineFeed ∉ init ++ [last] := by
        simpa [hinner] using Ne.symm hlast
      exact fun hm => Utf8.lineFeed_not_mem_decodeLossy hpiece (mem_of_mem_chomp hm)

end BuildRunner.Text
