import BuildRunner.Proofs.Text.LossyDecoding

/-! Strict decoding. Bytes are decoded to some characters exactly if they are the encoding of these
characters, so ill-formed bytes are those that encode no text. Bytes are cut at line feeds where
their text is. -/
namespace BuildRunner.Text.Utf8

/-- The bytes of some text. -/
def IsUtf8 (bytes : List UInt8) : Prop := ∃ text : String, bytes = bytesOf text

/-- Bytes that end an unfinished character, and the character. -/
def Unfinished.Completes (u : Unfinished) : List UInt8 → Char → Prop
  | [], _ => False
  | b :: tail, c =>
    u.accepts b = true ∧
      if (u.push b).missing = 0 then tail = [] ∧ c = Char.ofNat (u.push b).bits
      else (u.push b).Completes tail c

/-- The bytes that have to follow the first byte of a character. -/
def Lead.Encodes (c : Char) (tail : List UInt8) : Lead → Prop
  | .single first => tail = [] ∧ c = first
  | .begins u => u.Completes tail c
  | .invalid => False

section
variable {bits missing : Nat} {low high b : UInt8} {tail : List UInt8} {c : Char}

theorem completes_cons {u : Unfinished} :
    u.Completes (b :: tail) c ↔
      u.accepts b = true ∧
        if (u.push b).missing = 0 then tail = [] ∧ c = Char.ofNat (u.push b).bits
        else (u.push b).Completes tail c := Iff.rfl

private theorem completes_mk_cons :
    (Unfinished.mk bits (missing + 1) low high).Completes (b :: tail) c ↔
      low.toNat ≤ b.toNat ∧ b.toNat ≤ high.toNat ∧
        if missing = 0 then tail = [] ∧ c = Char.ofNat (bits * 64 + (b.toNat - 0x80))
        else (Unfinished.mk (bits * 64 + (b.toNat - 0x80)) missing 0x80 0xBF).Completes tail c := by
  have haccepts : (Unfinished.mk bits (missing + 1) low high).accepts b = true ↔
      low.toNat ≤ b.toNat ∧ b.toNat ≤ high.toNat := by
    rw [Unfinished.accepts, Bool.and_eq_true, decide_eq_true_eq, decide_eq_true_eq,
      UInt8.le_iff_toNat_le, UInt8.le_iff_toNat_le]
  rw [← and_assoc, ← haccepts]
  rfl

private theorem completes_one_iff :
    (Unfinished.mk bits 1 low high).Completes tail c ↔
      ∃ b, tail = [b] ∧ low.toNat ≤ b.toNat ∧ b.toNat ≤ high.toNat ∧
        c = Char.ofNat (bits * 64 + (b.toNat - 0x80)) := by
  cases tail with
  | nil =>
    constructor
    · intro h
      exact h.elim
    · rintro ⟨b, h, -⟩
      cases h
  | cons b tail =>
    rw [completes_mk_cons, if_pos rfl]
    constructor
    · rintro ⟨hlow, hhigh, rfl, hc⟩
      exact ⟨b, rfl, hlow, hhigh, hc⟩
    · rintro ⟨_, ⟨rfl, rfl⟩, hlow, hhigh, hc⟩
      exact ⟨hlow, hhigh, rfl, hc⟩

private theorem completes_more_iff :
    (Unfinished.mk bits (missing + 2) low high).Completes tail c ↔
      ∃ b later, tail = b :: later ∧ low.toNat ≤ b.toNat ∧ b.toNat ≤ high.toNat ∧
        (Unfinished.mk (bits * 64 + (b.toNat - 0x80)) (missing + 1) 0x80 0xBF).Completes later
          c := by
  cases tail with
  | nil =>
    constructor
    · intro h
      exact h.elim
    · rintro ⟨b, later, h, -⟩
      cases h
  | cons b tail =>
    rw [completes_mk_cons, if_neg (Nat.succ_ne_zero missing)]
    constructor
    · rintro ⟨hlow, hhigh, hc⟩
      exact ⟨b, tail, rfl, hlow, hhigh, hc⟩
    · rintro ⟨_, _, ⟨rfl, rfl⟩, hlow, hhigh, hc⟩
      exact ⟨hlow, hhigh, hc⟩

end

/-! First bytes by their ranges, and what they ask for as numbers. -/
section
variable {b : UInt8} {tail : List UInt8} {c : Char}

private theorem eq_ofNat_iff {n : Nat} (h : n.isValidChar) : c = Char.ofNat n ↔ c.toNat = n := by
  have hn : (Char.ofNat n).toNat = n := by
    rw [Char.ofNat, dif_pos h]
    rfl
  constructor
  · rintro rfl
    exact hn
  · intro he
    rw [← he, Char.ofNat_toNat]

private theorem toNat_ite_le_iff {v low other : UInt8} {n : Nat} :
    (if b = v then low else other).toNat ≤ n ↔
      (b.toNat = v.toNat → low.toNat ≤ n) ∧ (b.toNat ≠ v.toNat → other.toNat ≤ n) := by
  rw [ne_eq, UInt8.toNat_inj]
  split <;> simp [*]

private theorem le_toNat_ite_iff {v high other : UInt8} {n : Nat} :
    n ≤ (if b = v then high else other).toNat ↔
      (b.toNat = v.toNat → n ≤ high.toNat) ∧ (b.toNat ≠ v.toNat → n ≤ other.toNat) := by
  rw [ne_eq, UInt8.toNat_inj]
  split <;> simp [*]

private theorem lead_cases (b : UInt8) :
    b.toNat < 0x80 ∨ (0xC2 ≤ b.toNat ∧ b.toNat < 0xE0) ∨ (0xE0 ≤ b.toNat ∧ b.toNat < 0xF0) ∨
      (0xF0 ≤ b.toNat ∧ b.toNat < 0xF5) ∨ lead b = .invalid := by
  by_cases h1 : b.toNat < 0x80
  · exact .inl h1
  by_cases h2 : b.toNat < 0xC2
  · simp [lead, UInt8.lt_iff_toNat_lt, h1, h2]
  by_cases h5 : b.toNat < 0xF5
  · omega
  have h3 : ¬ b.toNat < 0xE0 := by omega
  have h4 : ¬ b.toNat < 0xF0 := by omega
  simp [lead, UInt8.lt_iff_toNat_lt, h1, h2, h3, h4, h5]

private theorem encodes_one_iff (h : b.toNat < 0x80) :
    (lead b).Encodes c tail ↔ tail = [] ∧ c.toNat = b.toNat := by
  have hlead : lead b = .single (Char.ofNat b.toNat) := by simp [lead, UInt8.lt_iff_toNat_lt, h]
  rw [hlead, Lead.Encodes, eq_ofNat_iff (.inl (by omega))]

private theorem encodes_two_iff (hlow : 0xC2 ≤ b.toNat) (hhigh : b.toNat < 0xE0) :
    (lead b).Encodes c tail ↔
      ∃ x, tail = [x] ∧ 0x80 ≤ x.toNat ∧ x.toNat ≤ 0xBF ∧
        c.toNat = (b.toNat - 0xC0) * 64 + (x.toNat - 0x80) := by
  have hlead : lead b = .begins ⟨b.toNat - 0xC0, 1, 0x80, 0xBF⟩ := by
    have h1 : ¬ b.toNat < 0x80 := by omega
    have h2 : ¬ b.toNat < 0xC2 := by omega
    simp [lead, UInt8.lt_iff_toNat_lt, h1, h2, hhigh]
  rw [hlead, Lead.Encodes, completes_one_iff]
  simp only [UInt8.reduceToNat]
  constructor
  · rintro ⟨x, rfl, hx, hx', hc⟩
    exact ⟨x, rfl, hx, hx', (eq_ofNat_iff (.inl (by omega))).mp hc⟩
  · rintro ⟨x, rfl, hx, hx', hc⟩
    exact ⟨x, rfl, hx, hx', (eq_ofNat_iff (.inl (by omega))).mpr hc⟩

/-- The bounds of the second byte keep out what two bytes encode, and surrogates. -/
theorem encodes_three_iff (hlow : 0xE0 ≤ b.toNat) (hhigh : b.toNat < 0xF0) :
    (lead b).Encodes c tail ↔
      ∃ x y, tail = [x, y] ∧
        ((b.toNat = 0xE0 → 0xA0 ≤ x.toNat) ∧ (b.toNat ≠ 0xE0 → 0x80 ≤ x.toNat)) ∧
        ((b.toNat = 0xED → x.toNat ≤ 0x9F) ∧ (b.toNat ≠ 0xED → x.toNat ≤ 0xBF)) ∧
        0x80 ≤ y.toNat ∧ y.toNat ≤ 0xBF ∧
        c.toNat = ((b.toNat - 0xE0) * 64 + (x.toNat - 0x80)) * 64 + (y.toNat - 0x80) := by
  have hlead : lead b = .begins ⟨b.toNat - 0xE0, 2, if b = 0xE0 then 0xA0 else 0x80,
      if b = 0xED then 0x9F else 0xBF⟩ := by
    have h1 : ¬ b.toNat < 0x80 := by omega
    have h2 : ¬ b.toNat < 0xC2 := by omega
    have h3 : ¬ b.toNat < 0xE0 := by omega
    simp [lead, UInt8.lt_iff_toNat_lt, h1, h2, h3, hhigh]
  rw [hlead, Lead.Encodes, completes_more_iff]
  simp only [completes_one_iff, Nat.zero_add, toNat_ite_le_iff, le_toNat_ite_iff, UInt8.reduceToNat]
  constructor
  · rintro ⟨x, _, rfl, hx, hx', y, rfl, hy, hy', hc⟩
    refine ⟨x, y, rfl, hx, hx', hy, hy', (eq_ofNat_iff ?_).mp hc⟩
    unfold Nat.isValidChar
    omega
  · rintro ⟨x, y, rfl, hx, hx', hy, hy', hc⟩
    refine ⟨x, _, rfl, hx, hx', y, rfl, hy, hy', (eq_ofNat_iff ?_).mpr hc⟩
    unfold Nat.isValidChar
    omega

/-- The bounds of the second byte keep out what three bytes encode, and what is no character. -/
theorem encodes_four_iff (hlow : 0xF0 ≤ b.toNat) (hhigh : b.toNat < 0xF5) :
    (lead b).Encodes c tail ↔
      ∃ x y z, tail = [x, y, z] ∧
        ((b.toNat = 0xF0 → 0x90 ≤ x.toNat) ∧ (b.toNat ≠ 0xF0 → 0x80 ≤ x.toNat)) ∧
        ((b.toNat = 0xF4 → x.toNat ≤ 0x8F) ∧ (b.toNat ≠ 0xF4 → x.toNat ≤ 0xBF)) ∧
        0x80 ≤ y.toNat ∧ y.toNat ≤ 0xBF ∧ 0x80 ≤ z.toNat ∧ z.toNat ≤ 0xBF ∧
        c.toNat = (((b.toNat - 0xF0) * 64 + (x.toNat - 0x80)) * 64 + (y.toNat - 0x80)) * 64 +
          (z.toNat - 0x80) := by
  have hlead : lead b = .begins ⟨b.toNat - 0xF0, 3, if b = 0xF0 then 0x90 else 0x80,
      if b = 0xF4 then 0x8F else 0xBF⟩ := by
    have h1 : ¬ b.toNat < 0x80 := by omega
    have h2 : ¬ b.toNat < 0xC2 := by omega
    have h3 : ¬ b.toNat < 0xE0 := by omega
    have h4 : ¬ b.toNat < 0xF0 := by omega
    simp [lead, UInt8.lt_iff_toNat_lt, h1, h2, h3, h4, hhigh]
  rw [hlead, Lead.Encodes, completes_more_iff]
  simp only [completes_more_iff, completes_one_iff, Nat.zero_add, toNat_ite_le_iff,
    le_toNat_ite_iff, UInt8.reduceToNat]
  constructor
  · rintro ⟨x, _, rfl, hx, hx', y, _, rfl, hy, hy', z, rfl, hz, hz', hc⟩
    refine ⟨x, y, z, rfl, hx, hx', hy, hy', hz, hz', (eq_ofNat_iff ?_).mp hc⟩
    unfold Nat.isValidChar
    omega
  · rintro ⟨x, y, z, rfl, hx, hx', hy, hy', hz, hz', hc⟩
    refine ⟨x, _, rfl, hx, hx', y, _, rfl, hy, hy', z, rfl, hz, hz', (eq_ofNat_iff ?_).mpr hc⟩
    unfold Nat.isValidChar
    omega

end

/-! The encoding of a character by the size of its number. -/
section
variable {b : UInt8} {tail : List UInt8} {c : Char} {n : Nat}

private theorem toNat_bounds (c : Char) :
    c.toNat < 0xD800 ∨ (0xDFFF < c.toNat ∧ c.toNat < 0x110000) := c.valid

private theorem encodeChar_one (h : c.toNat < 0x80) :
    String.utf8EncodeChar c = [UInt8.ofNat c.toNat] :=
  if_pos (Nat.le_of_lt_succ h)

private theorem encodeChar_two (hlow : 0x80 ≤ c.toNat) (hhigh : c.toNat < 0x800) :
    String.utf8EncodeChar c =
      [UInt8.ofNat (c.toNat / 64 + 0xC0), UInt8.ofNat (c.toNat % 64 + 0x80)] := by
  have hval : c.val.toNat = c.toNat := rfl
  have hfirst : c.toNat / 64 % 32 = c.toNat / 64 := Nat.mod_eq_of_lt (by omega)
  unfold String.utf8EncodeChar
  simp only [hval, hfirst]
  rw [if_neg (by omega), if_pos (by omega)]

private theorem encodeChar_three (hlow : 0x800 ≤ c.toNat) (hhigh : c.toNat < 0x10000) :
    String.utf8EncodeChar c =
      [UInt8.ofNat (c.toNat / 4096 + 0xE0), UInt8.ofNat (c.toNat / 64 % 64 + 0x80),
        UInt8.ofNat (c.toNat % 64 + 0x80)] := by
  have hval : c.val.toNat = c.toNat := rfl
  have hfirst : c.toNat / 4096 % 16 = c.toNat / 4096 := Nat.mod_eq_of_lt (by omega)
  unfold String.utf8EncodeChar
  simp only [hval, hfirst]
  rw [if_neg (by omega), if_neg (by omega), if_pos (by omega)]

private theorem encodeChar_four (hlow : 0x10000 ≤ c.toNat) :
    String.utf8EncodeChar c =
      [UInt8.ofNat (c.toNat / 262144 + 0xF0), UInt8.ofNat (c.toNat / 4096 % 64 + 0x80),
        UInt8.ofNat (c.toNat / 64 % 64 + 0x80), UInt8.ofNat (c.toNat % 64 + 0x80)] := by
  have hval : c.val.toNat = c.toNat := rfl
  have hbounds := toNat_bounds c
  have hfirst : c.toNat / 262144 % 8 = c.toNat / 262144 := Nat.mod_eq_of_lt (by omega)
  unfold String.utf8EncodeChar
  simp only [hval, hfirst]
  rw [if_neg (by omega), if_neg (by omega), if_neg (by omega)]

private theorem toNat_byte (h : n < 0x100) : (UInt8.ofNat n).toNat = n := by
  rw [UInt8.toNat_ofNat', Nat.mod_eq_of_lt h]

private theorem byte_eq (h : b.toNat = n) : UInt8.ofNat n = b := by rw [← h, UInt8.ofNat_toNat]

/-- The encoding of a character starts with a byte that asks for the others. -/
theorem encodes_encodeChar (c : Char) :
    ∃ b tail, String.utf8EncodeChar c = b :: tail ∧ (lead b).Encodes c tail := by
  have hbounds := toNat_bounds c
  by_cases h1 : c.toNat < 0x80
  · have hb := toNat_byte (show c.toNat < 0x100 by omega)
    exact ⟨_, _, encodeChar_one h1, (encodes_one_iff (by omega)).mpr ⟨rfl, hb.symm⟩⟩
  by_cases h2 : c.toNat < 0x800
  · have hb := toNat_byte (show c.toNat / 64 + 0xC0 < 0x100 by omega)
    have hx := toNat_byte (show c.toNat % 64 + 0x80 < 0x100 by omega)
    refine ⟨_, _, encodeChar_two (by omega) h2, (encodes_two_iff (by omega) (by omega)).mpr ?_⟩
    exact ⟨_, rfl, by omega, by omega, by omega⟩
  by_cases h3 : c.toNat < 0x10000
  · have hb := toNat_byte (show c.toNat / 4096 + 0xE0 < 0x100 by omega)
    have hx := toNat_byte (show c.toNat / 64 % 64 + 0x80 < 0x100 by omega)
    have hy := toNat_byte (show c.toNat % 64 + 0x80 < 0x100 by omega)
    refine ⟨_, _, encodeChar_three (by omega) h3, (encodes_three_iff (by omega) (by omega)).mpr ?_⟩
    exact ⟨_, _, rfl, by omega, by omega, by omega, by omega, by omega⟩
  · have hb := toNat_byte (show c.toNat / 262144 + 0xF0 < 0x100 by omega)
    have hx := toNat_byte (show c.toNat / 4096 % 64 + 0x80 < 0x100 by omega)
    have hy := toNat_byte (show c.toNat / 64 % 64 + 0x80 < 0x100 by omega)
    have hz := toNat_byte (show c.toNat % 64 + 0x80 < 0x100 by omega)
    refine ⟨_, _, encodeChar_four (by omega), (encodes_four_iff (by omega) (by omega)).mpr ?_⟩
    exact ⟨_, _, _, rfl, by omega, by omega, by omega, by omega, by omega, by omega, by omega⟩

theorem encodeChar_of_encodes (h : (lead b).Encodes c tail) :
    String.utf8EncodeChar c = b :: tail := by
  rcases lead_cases b with h1 | ⟨hlow, hhigh⟩ | ⟨hlow, hhigh⟩ | ⟨hlow, hhigh⟩ | hinvalid
  · obtain ⟨rfl, hc⟩ := (encodes_one_iff h1).mp h
    rw [encodeChar_one (by omega), byte_eq hc.symm]
  · obtain ⟨x, rfl, hx, hx', hc⟩ := (encodes_two_iff hlow hhigh).mp h
    have hb : b.toNat = c.toNat / 64 + 0xC0 := by omega
    have hx : x.toNat = c.toNat % 64 + 0x80 := by omega
    rw [encodeChar_two (by omega) (by omega), byte_eq hb, byte_eq hx]
  · obtain ⟨x, y, rfl, hx, hx', hy, hy', hc⟩ := (encodes_three_iff hlow hhigh).mp h
    have hb : b.toNat = c.toNat / 4096 + 0xE0 := by omega
    have hx : x.toNat = c.toNat / 64 % 64 + 0x80 := by omega
    have hy : y.toNat = c.toNat % 64 + 0x80 := by omega
    rw [encodeChar_three (by omega) (by omega), byte_eq hb, byte_eq hx, byte_eq hy]
  · obtain ⟨x, y, z, rfl, hx, hx', hy, hy', hz, hz', hc⟩ := (encodes_four_iff hlow hhigh).mp h
    have hb : b.toNat = c.toNat / 262144 + 0xF0 := by omega
    have hx : x.toNat = c.toNat / 4096 % 64 + 0x80 := by omega
    have hy : y.toNat = c.toNat / 64 % 64 + 0x80 := by omega
    have hz : z.toNat = c.toNat % 64 + 0x80 := by omega
    rw [encodeChar_four (by omega), byte_eq hb, byte_eq hx, byte_eq hy, byte_eq hz]
  · rw [hinvalid] at h
    exact h.elim

end

section
variable {u : Unfinished} {b : UInt8} {bytes : List UInt8} {s : List Char} {c : Char}
variable {later : List (Option Char)}

theorem scanFrom_last (ha : u.accepts b = true) (hm : (u.push b).missing = 0) :
    scanFrom (some u) (b :: bytes) = some (Char.ofNat (u.push b).bits) :: scan bytes := by
  simp [scanFrom, step, ha, hm, scan]

theorem scanFrom_more (ha : u.accepts b = true) (hm : (u.push b).missing ≠ 0) :
    scanFrom (some u) (b :: bytes) = scanFrom (some (u.push b)) bytes := by
  simp [scanFrom, step, ha, hm]

theorem scanFrom_refused (ha : u.accepts b = false) :
    scanFrom (some u) (b :: bytes) = none :: scan (b :: bytes) := by
  simp [scanFrom, step, ha, scan]

private theorem scanFrom_some_eq_cons_iff :
    scanFrom (some u) bytes = some c :: later ↔
      ∃ tail rest, bytes = tail ++ rest ∧ u.Completes tail c ∧ scan rest = later := by
  induction bytes generalizing u with
  | nil =>
    refine ⟨nofun, fun ⟨tail, rest, hb, hc, _⟩ => ?_⟩
    obtain ⟨rfl, -⟩ := List.append_eq_nil_iff.mp hb.symm
    exact hc.elim
  | cons b bytes ih =>
    -- what completes the character starts with the first byte
    have hcons : (∃ tail rest, b :: bytes = tail ++ rest ∧ u.Completes tail c ∧ scan rest = later) ↔
        ∃ tail rest, bytes = tail ++ rest ∧ u.Completes (b :: tail) c ∧ scan rest = later := by
      constructor
      · rintro ⟨tail, rest, hb, hc, hl⟩
        cases tail with
        | nil => exact hc.elim
        | cons first tail =>
          obtain ⟨rfl, rfl⟩ := List.cons.inj hb
          exact ⟨tail, rest, rfl, hc, hl⟩
      · rintro ⟨tail, rest, rfl, hc, hl⟩
        exact ⟨b :: tail, rest, rfl, hc, hl⟩
    rw [hcons]
    simp only [completes_cons]
    cases ha : u.accepts b with
    | false =>
      rw [scanFrom_refused ha]
      simp
    | true =>
      by_cases hm : (u.push b).missing = 0
      · rw [scanFrom_last ha hm]
        constructor
        · intro h
          obtain ⟨hc, hl⟩ := List.cons.inj h
          refine ⟨[], bytes, rfl, ⟨rfl, ?_⟩, hl⟩
          rw [if_pos hm]
          exact ⟨rfl, (Option.some.inj hc).symm⟩
        · rintro ⟨tail, rest, rfl, ⟨-, hends⟩, rfl⟩
          rw [if_pos hm] at hends
          rw [hends.1, hends.2, List.nil_append]
      · rw [scanFrom_more ha hm, ih]
        simp [hm]

private theorem scan_cons_of_single (h : lead b = .single c) :
    scan (b :: bytes) = some c :: scan bytes := by
  simp [scan, scanFrom, step, start, h]

theorem scan_cons_of_begins (h : lead b = .begins u) :
    scan (b :: bytes) = scanFrom (some u) bytes := by simp [scan, scanFrom, step, start, h]

theorem scan_cons_of_invalid (h : lead b = .invalid) : scan (b :: bytes) = none :: scan bytes := by
  simp [scan, scanFrom, step, start, h]

private theorem scan_cons_eq_cons_iff :
    scan (b :: bytes) = some c :: later ↔
      ∃ tail rest, bytes = tail ++ rest ∧ (lead b).Encodes c tail ∧ scan rest = later := by
  cases hl : lead b with
  | single first =>
    rw [scan_cons_of_single hl]
    constructor
    · intro h
      obtain ⟨hc, hlater⟩ := List.cons.inj h
      exact ⟨[], bytes, rfl, ⟨rfl, (Option.some.inj hc).symm⟩, hlater⟩
    · rintro ⟨_, rest, rfl, ⟨rfl, rfl⟩, rfl⟩
      rfl
  | begins u =>
    rw [scan_cons_of_begins hl, scanFrom_some_eq_cons_iff]
    rfl
  | invalid =>
    rw [scan_cons_of_invalid hl]
    constructor
    · intro h
      cases h
    · rintro ⟨_, _, _, h, -⟩
      exact h.elim

/-- The first character that is read is the one whose encoding comes first. -/
theorem scan_eq_cons_iff :
    scan bytes = some c :: later ↔
      ∃ rest, bytes = String.utf8EncodeChar c ++ rest ∧ scan rest = later := by
  constructor
  · intro h
    cases bytes with
    | nil => cases h
    | cons b bytes =>
      obtain ⟨tail, rest, rfl, he, hl⟩ := scan_cons_eq_cons_iff.mp h
      exact ⟨rest, by rw [encodeChar_of_encodes he, List.cons_append], hl⟩
  · rintro ⟨rest, rfl, hl⟩
    obtain ⟨b, tail, hc, he⟩ := encodes_encodeChar c
    rw [hc, List.cons_append]
    exact scan_cons_eq_cons_iff.mpr ⟨tail, rest, rfl, he, hl⟩

private theorem scanFrom_some_ne_nil (u : Unfinished) (bytes : List UInt8) :
    scanFrom (some u) bytes ≠ [] := by
  induction bytes generalizing u with
  | nil => exact List.cons_ne_nil none []
  | cons b bytes ih =>
    cases ha : u.accepts b with
    | false =>
      rw [scanFrom_refused ha]
      exact List.cons_ne_nil _ _
    | true =>
      by_cases hm : (u.push b).missing = 0
      · rw [scanFrom_last ha hm]
        exact List.cons_ne_nil _ _
      · rw [scanFrom_more ha hm]
        exact ih (u.push b)

theorem scan_cons_ne_nil (b : UInt8) (bytes : List UInt8) : scan (b :: bytes) ≠ [] := by
  cases hl : lead b with
  | single c => simp [scan_cons_of_single hl]
  | begins u =>
    rw [scan_cons_of_begins hl]
    exact scanFrom_some_ne_nil u bytes
  | invalid => simp [scan_cons_of_invalid hl]

theorem scan_eq_map_some_iff : scan bytes = s.map some ↔ bytes = encode s := by
  induction s generalizing bytes with
  | nil =>
    cases bytes with
    | nil => exact ⟨fun _ => rfl, fun _ => rfl⟩
    | cons b bytes => exact ⟨fun h => absurd h (scan_cons_ne_nil b bytes), nofun⟩
  | cons c s ih =>
    rw [List.map_cons, scan_eq_cons_iff, encode, List.flatMap_cons, ← encode]
    constructor
    · rintro ⟨rest, rfl, hr⟩
      rw [ih.mp hr]
    · intro h
      exact ⟨encode s, h, ih.mpr rfl⟩

private theorem mapM_id_eq_some_iff {l : List (Option Char)} :
    l.mapM id = some s ↔ l = s.map some := by
  induction l generalizing s with
  | nil =>
    rw [List.mapM_nil, eq_comm, List.nil_eq, List.map_eq_nil_iff]
    exact Option.some_inj
  | cons a l ih =>
    simp only [List.mapM_cons, id, Option.bind_eq_bind, Option.bind_eq_some_iff, ih,
      Option.pure_def, Option.some.injEq]
    constructor
    · rintro ⟨c, rfl, t, rfl, rfl⟩
      rfl
    · intro h
      cases s with
      | nil => cases h
      | cons c t =>
        obtain ⟨rfl, rfl⟩ := List.cons.inj h
        exact ⟨c, rfl, t, rfl, rfl⟩

/-- Strict decoding undoes encoding and takes nothing else. -/
theorem decode?_eq_some_iff : decode? bytes = some s ↔ bytes = encode s :=
  mapM_id_eq_some_iff.trans scan_eq_map_some_iff

private theorem isUtf8_iff : IsUtf8 bytes ↔ ∃ s, decode? bytes = some s := by
  constructor
  · rintro ⟨text, rfl⟩
    exact ⟨text.toList, decode?_eq_some_iff.mpr rfl⟩
  · rintro ⟨s, h⟩
    exact ⟨String.ofList s, by rw [bytesOf, String.toList_ofList, decode?_eq_some_iff.mp h]⟩

theorem decode?_eq_none_iff : decode? bytes = none ↔ ¬ IsUtf8 bytes := by
  rw [isUtf8_iff, not_exists]
  exact Option.eq_none_iff_forall_ne_some

instance (bytes : List UInt8) : Decidable (IsUtf8 bytes) :=
  decidable_of_iff ((decode? bytes).isSome = true) (Option.isSome_iff_exists.trans isUtf8_iff.symm)

end

@[simp] theorem encode_append (s t : List Char) : encode (s ++ t) = encode s ++ encode t :=
  List.flatMap_append

/-- No byte of another character is a line feed. -/
theorem lineFeed_not_mem_encodeChar {c : Char} (h : c ≠ '\n') :
    lineFeed ∉ String.utf8EncodeChar c := by
  intro hm
  obtain ⟨first, rest, he⟩ := List.append_of_mem hm
  have hbytes : first ++ lineFeed :: rest = encode [c] := by rw [encode, List.flatMap_singleton, he]
  have hscan : scan (first ++ lineFeed :: rest) = [some c] := scan_eq_map_some_iff.mpr hbytes
  rw [scan, scanFrom_append_lineFeed proper_none] at hscan
  have hfeed : some '\n' ∈ [some c] := by simp [← hscan]
  exact h (Option.some.inj (List.mem_singleton.mp hfeed)).symm

/-- Bytes are cut into the encodings of the pieces of their text. -/
theorem pieces_encode (s : List Char) :
    pieces lineFeed (encode s) = (pieces '\n' s).map encode := by
  induction s with
  | nil => rfl
  | cons c s ih =>
    rw [encode, List.flatMap_cons, ← encode]
    by_cases hc : c = '\n'
    · subst hc
      have hfeed : String.utf8EncodeChar '\n' = [lineFeed] := rfl
      rw [hfeed, List.singleton_append, pieces, pieces, if_pos rfl, if_pos rfl, ih]
      rfl
    · obtain ⟨b, tail, he, -⟩ := encodes_encodeChar c
      have hne : String.utf8EncodeChar c ≠ [] := by simp [he]
      rw [pieces_append_of_not_mem (lineFeed_not_mem_encodeChar hc) hne, pieces, if_neg hc, ih]
      cases pieces '\n' s <;> simp [encode]

end BuildRunner.Text.Utf8
