import BuildRunner.Proofs.Text.StrictDecoding

/-! The rule of lossy decoding, without the states of a decoder. Where the encoding of a character
stands, it is that character. Elsewhere, the longest stretch that could begin one is replaced as a
whole, or a single byte if none could. -/
namespace BuildRunner.Text.Utf8

/-- The encoding of some character begins with these bytes. -/
def BeginsChar (bytes : List UInt8) : Prop := ∃ c, bytes <+: String.utf8EncodeChar c

/-- A stretch that is replaced by one character, before the rest of the bytes. -/
structure IllFormed (part rest : List UInt8) : Prop where
  nonempty : part ≠ []
  no_char : ∀ c, ¬ String.utf8EncodeChar c <+: part ++ rest
  begins : part.length = 1 ∨ BeginsChar part
  longest : ∀ longer, longer <+: part ++ rest → BeginsChar longer → longer.length ≤ part.length

/-- Bytes as characters, with U+FFFD for each ill-formed stretch. -/
inductive ReadLossily : List UInt8 → List Char → Prop
  | nil : ReadLossily [] []
  | char {c : Char} {rest : List UInt8} {s : List Char} (more : ReadLossily rest s) :
      ReadLossily (String.utf8EncodeChar c ++ rest) (c :: s)
  | illFormed {part rest : List UInt8} {s : List Char} (ill : IllFormed part rest)
      (more : ReadLossily rest s) : ReadLossily (part ++ rest) ('\uFFFD' :: s)

/-- Some byte can follow. -/
structure Unfinished.Open (u : Unfinished) : Prop where
  lacks : 0 < u.missing
  bounds : u.low ≤ u.high

section
variable {u : Unfinished} {b : UInt8} {bytes part rest tail : List UInt8} {s : List Char} {c : Char}
variable {later : List (Option Char)}

private theorem open_of_lead (h : lead b = .begins u) : u.Open := by
  refine ⟨(proper_of_lead h).lacks, ?_⟩
  grind [lead]

private theorem Unfinished.open_push (h : (u.push b).missing ≠ 0) : (u.push b).Open :=
  ⟨Nat.pos_of_ne_zero h, show (0x80 : UInt8) ≤ 0xBF by decide⟩

private theorem Unfinished.Open.exists_completes (hu : u.Open) : ∃ tail c, u.Completes tail c := by
  induction hn : u.missing generalizing u with
  | zero => exact absurd hn (Nat.ne_of_gt hu.lacks)
  | succ n ih =>
    have ha : u.accepts u.low = true := by
      simpa [accepts] using hu.bounds
    have hpush : (u.push u.low).missing = n := Nat.sub_eq_of_eq_add hn
    by_cases hm : (u.push u.low).missing = 0
    · refine ⟨[u.low], Char.ofNat (u.push u.low).bits, ha, ?_⟩
      rw [if_pos hm]
      exact ⟨rfl, rfl⟩
    · obtain ⟨tail, c, hc⟩ := ih (open_push hm) hpush
      refine ⟨u.low :: tail, c, ha, ?_⟩
      rwa [if_neg hm]

/-- If no character comes of an open beginning, all is dropped that could still complete it. -/
theorem exists_stretch_of_scanFrom (hu : u.Open) (h : scanFrom (some u) bytes = none :: later) :
    ∃ part rest, bytes = part ++ rest ∧ scan rest = later ∧
      (∃ tail c, u.Completes (part ++ tail) c) ∧
      ∀ longer tail c, longer <+: bytes → u.Completes (longer ++ tail) c →
        longer.length ≤ part.length := by
  induction bytes generalizing u with
  | nil =>
    refine ⟨[], [], rfl, (List.cons.inj h).2, hu.exists_completes, fun longer _ _ hl _ => ?_⟩
    rw [List.prefix_nil.mp hl]
  | cons b bytes ih =>
    cases ha : u.accepts b with
    | false =>
      rw [scanFrom_refused ha] at h
      refine ⟨[], b :: bytes, rfl, (List.cons.inj h).2, hu.exists_completes, ?_⟩
      intro longer tail c hl hc
      cases longer with
      | nil => exact Nat.le_refl 0
      | cons first longer =>
        obtain ⟨rfl, -⟩ := List.cons_prefix_cons.mp hl
        rw [List.cons_append, completes_cons, ha] at hc
        cases hc.1
    | true =>
      by_cases hm : (u.push b).missing = 0
      · rw [scanFrom_last ha hm] at h
        cases h
      · rw [scanFrom_more ha hm] at h
        obtain ⟨part, rest, rfl, hrest, ⟨tail, c, hc⟩, hlongest⟩ := ih (Unfinished.open_push hm) h
        refine ⟨b :: part, rest, rfl, hrest, ⟨tail, c, ha, by rwa [if_neg hm]⟩, ?_⟩
        intro longer tail' c' hlonger hcompletes
        cases longer with
        | nil => exact Nat.zero_le _
        | cons first longer =>
          obtain ⟨rfl, hmore⟩ := List.cons_prefix_cons.mp hlonger
          rw [List.cons_append, completes_cons, if_neg hm] at hcompletes
          exact Nat.succ_le_succ (hlongest longer tail' c' hmore hcompletes.2)

private theorem beginsChar_cons_iff :
    BeginsChar (b :: part) ↔ ∃ tail c, (lead b).Encodes c (part ++ tail) := by
  constructor
  · rintro ⟨c, tail, hc⟩
    obtain ⟨first, others, he, hlead⟩ := encodes_encodeChar c
    rw [he, List.cons_append] at hc
    obtain ⟨rfl, rfl⟩ := List.cons.inj hc
    exact ⟨tail, c, hlead⟩
  · rintro ⟨tail, c, hlead⟩
    exact ⟨c, tail, by rw [encodeChar_of_encodes hlead, List.cons_append]⟩

private theorem length_le_of_beginsChar {n : Nat} {longer : List UInt8}
    (h : ∀ more tail c, more <+: bytes → (lead b).Encodes c (more ++ tail) → more.length ≤ n)
    (hlonger : longer <+: b :: bytes) (hbegins : BeginsChar longer) : longer.length ≤ n + 1 := by
  cases longer with
  | nil => exact Nat.zero_le _
  | cons first more =>
    obtain ⟨rfl, hmore⟩ := List.cons_prefix_cons.mp hlonger
    obtain ⟨tail, c, he⟩ := beginsChar_cons_iff.mp hbegins
    exact Nat.succ_le_succ (h more tail c hmore he)

/-- What is not decoded to a character is an ill-formed stretch. -/
theorem exists_illFormed_of_scan (h : scan bytes = none :: later) :
    ∃ part rest, bytes = part ++ rest ∧ IllFormed part rest ∧ scan rest = later := by
  have hno : ∀ c, ¬ String.utf8EncodeChar c <+: bytes := by
    rintro c ⟨rest, rfl⟩
    rw [scan_eq_cons_iff.mpr ⟨rest, rfl, rfl⟩] at h
    cases h
  cases bytes with
  | nil => cases h
  | cons b bytes =>
    cases hl : lead b with
    | single c =>
      have he : String.utf8EncodeChar c = [b] := encodeChar_of_encodes (by rw [hl]; exact ⟨rfl, rfl⟩)
      exact absurd ⟨bytes, by rw [he]; rfl⟩ (hno c)
    | invalid =>
      rw [scan_cons_of_invalid hl] at h
      have hlongest : ∀ more tail c, more <+: bytes → (lead b).Encodes c (more ++ tail) →
          more.length ≤ 0 := by
        intro more tail c _ he
        rw [hl] at he
        exact he.elim
      exact ⟨[b], bytes, rfl, ⟨List.cons_ne_nil _ _, hno, .inl rfl,
        fun _ => length_le_of_beginsChar hlongest⟩, (List.cons.inj h).2⟩
    | begins u =>
      rw [scan_cons_of_begins hl] at h
      obtain ⟨part, rest, rfl, hrest, ⟨tail, c, hc⟩, hlongest⟩ :=
        exists_stretch_of_scanFrom (open_of_lead hl) h
      have hbegins : BeginsChar (b :: part) := beginsChar_cons_iff.mpr ⟨tail, c, by rwa [hl]⟩
      have hlongest' : ∀ more tail c, more <+: part ++ rest → (lead b).Encodes c (more ++ tail) →
          more.length ≤ part.length := by
        intro more tail c hmore he
        rw [hl] at he
        exact hlongest more tail c hmore he
      exact ⟨b :: part, rest, rfl, ⟨List.cons_ne_nil _ _, hno, .inr hbegins,
        fun _ => length_le_of_beginsChar hlongest'⟩, hrest⟩

private theorem IllFormed.unique {part' rest' : List UInt8} (h : IllFormed part rest)
    (h' : IllFormed part' rest') (he : part ++ rest = part' ++ rest') :
    part = part' ∧ rest = rest' := by
  have hle : ∀ {p r p' r' : List UInt8}, IllFormed p r → IllFormed p' r' → p ++ r = p' ++ r' →
      p.length ≤ p'.length := by
    intro p r p' r' hp hp' heq
    rcases hp.begins with hone | hbegins
    · rw [hone]
      exact List.length_pos_iff.mpr hp'.nonempty
    · exact hp'.longest p (heq ▸ List.prefix_append p r) hbegins
  exact List.append_inj he (Nat.le_antisymm (hle h h' he) (hle h' h he.symm))

private theorem decodeLossy_encodeChar_append (c : Char) (rest : List UInt8) :
    decodeLossy (String.utf8EncodeChar c ++ rest) = c :: decodeLossy rest := by
  rw [decodeLossy, scan_eq_cons_iff.mpr ⟨rest, rfl, rfl⟩]
  rfl

private theorem IllFormed.decodeLossy_append (h : IllFormed part rest) :
    decodeLossy (part ++ rest) = '\uFFFD' :: decodeLossy rest := by
  cases hscan : scan (part ++ rest) with
  | nil =>
    obtain ⟨b, tail, rfl⟩ := List.exists_cons_of_ne_nil h.nonempty
    exact absurd hscan (scan_cons_ne_nil b (tail ++ rest))
  | cons first later =>
    cases first with
    | some c =>
      obtain ⟨rest', he, -⟩ := scan_eq_cons_iff.mp hscan
      exact absurd ⟨rest', he.symm⟩ (h.no_char c)
    | none =>
      obtain ⟨part', rest', he, hill, rfl⟩ := exists_illFormed_of_scan hscan
      obtain ⟨-, rfl⟩ := h.unique hill he
      rw [decodeLossy, hscan]
      rfl

private theorem readLossily_decodeLossy (bytes : List UInt8) :
    ReadLossily bytes (decodeLossy bytes) := by
  induction hn : bytes.length using Nat.strongRecOn generalizing bytes with
  | ind n ih =>
    cases hscan : scan bytes with
    | nil =>
      cases bytes with
      | nil => exact .nil
      | cons b bytes => exact absurd hscan (scan_cons_ne_nil b bytes)
    | cons first later =>
      cases first with
      | some c =>
        obtain ⟨rest, rfl, -⟩ := scan_eq_cons_iff.mp hscan
        obtain ⟨b, tail, hc, -⟩ := encodes_encodeChar c
        have hrest : rest.length < n := by
          rw [← hn, hc, List.length_append, List.length_cons]
          omega
        rw [decodeLossy_encodeChar_append]
        exact .char (ih _ hrest rest rfl)
      | none =>
        obtain ⟨part, rest, rfl, hill, -⟩ := exists_illFormed_of_scan hscan
        have hpart := List.length_pos_iff.mpr hill.nonempty
        have hrest : rest.length < n := by
          rw [← hn, List.length_append]
          omega
        rw [hill.decodeLossy_append]
        exact .illFormed hill (ih _ hrest rest rfl)

/-- Bytes are decoded lossily by the rule and in no other way. -/
theorem decodeLossy_eq_iff : decodeLossy bytes = s ↔ ReadLossily bytes s := by
  constructor
  · rintro rfl
    exact readLossily_decodeLossy bytes
  · intro h
    induction h with
    | nil => rfl
    | char more ih => rw [decodeLossy_encodeChar_append, ih]
    | illFormed ill more ih => rw [ill.decodeLossy_append, ih]

end
end BuildRunner.Text.Utf8
