import BuildRunner.Proofs.Text.LineEnds
import BuildRunner.Proofs.Text.StrictDecoding
import BuildRunner.RuleFile.Source

/-! Rule files as bytes. The bytes of a text are read as the text. Where bytes are no text, or the
stream fails, the lines before that place can only give an error of their own, never a graph. -/
namespace BuildRunner.RuleFile
open Text Text.Utf8

/-- Lines that all have their line feed and are UTF-8, each by itself. -/
def IsUtf8Lines (bytes : List UInt8) : Prop :=
  ∀ piece ∈ pieces lineFeed bytes, piece.getLast? = some lineFeed ∧ IsUtf8 piece

private theorem IsUtf8Lines.finished {bytes : List UInt8} (h : IsUtf8Lines bytes) :
    ∀ last ∈ bytes.getLast?, last = lineFeed := by
  intro last hlast
  rw [← flatten_pieces lineFeed bytes] at hlast
  rcases List.eq_nil_or_concat (pieces lineFeed bytes) with hnil | ⟨init, piece, hconcat⟩
  · rw [hnil] at hlast
    cases hlast
  · have hpiece := (h piece (by simp [hconcat])).1
    simpa [hconcat, hpiece, eq_comm] using hlast

/-- The longest of the beginnings that have a property. -/
structure LongestPrefix {α : Type} (P : List α → Prop) (start whole : List α) : Prop where
  begins : start <+: whole
  holds : P start
  longest : ∀ other, other <+: whole → P other → other.length ≤ start.length

/-- The error of a reading that a fault ends: the fault, unless there was an error before it. -/
def endedBy (fault : IoError) : Except BuildError Graph → BuildError
  | .error error => error
  | .ok _ => .io fault

section
variable {bytes piece : List UInt8} {texts : List (List Char)} {later : List (List UInt8)}

/-- A fault after all others changes the error only where there was none. -/
theorem parse_or_fault (policy : DuplicatePolicy) (lines : List String) (earlier : Option IoError)
    (fault : IoError) :
    (parse policy ⟨lines, earlier.or (some fault)⟩).result =
      .error (endedBy fault (parse policy ⟨lines, earlier⟩).result) := by
  cases hr : (Draft.acceptAll policy 1 .empty lines).result with
  | error error => simp [parse, Logged.andThen_of_error hr, endedBy]
  | ok draft => cases earlier <;> simp [parse, Logged.andThen_of_ok hr, endedBy, Logged.fail]

private theorem ofPieces_some (fault : IoError) (parts : List (List UInt8)) :
    Delivery.ofPieces (some fault) parts =
      ⟨(Delivery.ofPieces none parts).lines,
        (Delivery.ofPieces none parts).fault.or (some fault)⟩ := by
  induction parts with
  | nil => rfl
  | cons piece parts ih =>
    simp only [Delivery.ofPieces]
    cases decode? piece with
    | none => rfl
    | some chars => simp [ih]

private theorem ofPieces_append (texts : List (List Char)) (later : List (List UInt8)) :
    Delivery.ofPieces none (texts.map encode ++ later) =
      { lines := texts.map (fun chars => String.ofList (lineOf chars)) ++
          (Delivery.ofPieces none later).lines
        fault := (Delivery.ofPieces none later).fault } := by
  induction texts with
  | nil => rfl
  | cons chars texts ih =>
    have hdecode : decode? (encode chars) = some chars := decode?_eq_some_iff.mpr rfl
    rw [List.map_cons, List.cons_append, Delivery.ofPieces, hdecode]
    simp [ih]

theorem ofBytes_bytesOf (text : String) : Delivery.ofBytes (bytesOf text) = .ofText text := by
  rw [Delivery.ofBytes, bytesOf, pieces_encode, ← List.append_nil (List.map _ _), ofPieces_append]
  simp [Delivery.ofPieces, Delivery.ofText, lines]

private theorem exists_texts (parts : List (List UInt8)) :
    (∃ texts : List (List Char), parts = texts.map encode) ∨
      ∃ (texts : List (List Char)) (piece : List UInt8) (later : List (List UInt8)),
        parts = texts.map encode ++ piece :: later ∧ ¬ IsUtf8 piece := by
  induction parts with
  | nil => exact .inl ⟨[], rfl⟩
  | cons piece parts ih =>
    by_cases hp : IsUtf8 piece
    · obtain ⟨text, rfl⟩ := hp
      obtain ⟨texts, rfl⟩ | ⟨texts, bad, later, rfl, hbad⟩ := ih
      · exact .inl ⟨text.toList :: texts, rfl⟩
      · exact .inr ⟨text.toList :: texts, bad, later, rfl, hbad⟩
    · exact .inr ⟨[], piece, parts, rfl, hp⟩

private theorem flatten_map_encode (texts : List (List Char)) :
    (texts.map encode).flatten = bytesOf (String.ofList texts.flatten) := by
  rw [bytesOf, String.toList_ofList]
  induction texts with
  | nil => rfl
  | cons chars texts ih =>
    rw [List.map_cons, List.flatten_cons, List.flatten_cons, encode_append, ih]

/-- The pieces before the first one that is no text are the most lines that can be read. -/
theorem longestPrefix_of_pieces (h : pieces lineFeed bytes = texts.map encode ++ piece :: later)
    (hp : ¬ IsUtf8 piece) : LongestPrefix IsUtf8Lines (texts.map encode).flatten bytes := by
  obtain ⟨hpieces, hends⟩ := pieces_eq_append h (List.cons_ne_nil _ _)
  refine ⟨⟨(piece :: later).flatten, ?begins⟩, ?holds, ?longest⟩
  case begins => rw [← List.flatten_append, ← h, flatten_pieces]
  case holds =>
    rw [IsUtf8Lines, hpieces]
    intro part hpart
    obtain ⟨chars, -, rfl⟩ := List.mem_map.mp hpart
    exact ⟨hends _ hpart, String.ofList chars, by rw [bytesOf, String.toList_ofList]⟩
  case longest =>
    rintro other ⟨rest, rfl⟩ hother
    -- its pieces come first, so the one that is no text cannot be one of them
    rw [pieces_append hother.finished] at h
    have hstarts : pieces lineFeed other <+: texts.map encode := by
      obtain ⟨more, hfirst, -⟩ | ⟨more, hpieces, hrest⟩ := List.append_eq_append_iff.mp h
      · exact ⟨more, hfirst.symm⟩
      · cases more with
        | nil => exact ⟨[], by rw [hpieces, List.append_nil, List.append_nil]⟩
        | cons bad more =>
          obtain ⟨rfl, -⟩ := List.cons.inj hrest
          have hmem : piece ∈ pieces lineFeed other := by simp [hpieces]
          exact absurd (hother piece hmem).2 hp
    obtain ⟨more, hmore⟩ := hstarts
    rw [← hmore, List.flatten_append, flatten_pieces, List.length_append]
    exact Nat.le_add_right _ _

/-- Bytes that are no text are read up to their first piece that is none. -/
theorem ofBytes_of_not_isUtf8 (h : ¬ IsUtf8 bytes) :
    ∃ text, LongestPrefix IsUtf8Lines (bytesOf text) bytes ∧
      Delivery.ofBytes bytes = ⟨(Delivery.ofText text).lines, some .invalidUtf8⟩ := by
  obtain ⟨texts, hpieces⟩ | ⟨texts, piece, later, hpieces, hbad⟩ :=
    exists_texts (pieces lineFeed bytes)
  · refine absurd ⟨String.ofList texts.flatten, ?_⟩ h
    rw [← flatten_map_encode, ← hpieces, flatten_pieces]
  · refine ⟨String.ofList texts.flatten, ?_, ?_⟩
    · rw [← flatten_map_encode]
      exact longestPrefix_of_pieces hpieces hbad
    · -- the text before the bad piece is cut into the same pieces
      have htexts := (pieces_eq_append hpieces (List.cons_ne_nil _ _)).1
      have hnone : decode? piece = none := decode?_eq_none_iff.mpr hbad
      have hfirst : Delivery.ofText (String.ofList texts.flatten) =
          Delivery.ofPieces none (texts.map encode ++ []) := by
        rw [← ofBytes_bytesOf, ← flatten_map_encode, Delivery.ofBytes, htexts, List.append_nil]
      rw [Delivery.ofBytes, hpieces, hfirst, ofPieces_append, ofPieces_append]
      simp [Delivery.ofPieces, hnone]

/-- The bytes of a text are read as the text, with the same warnings. Of other bytes the longest
beginning of UTF-8 lines is read, and of a stream that fails the lines that came in full; the error
is theirs if they have one, and else the bad encoding or the fault, so there is no graph. A file is
read in the same way, but what is wrong with the stream is told with the path. -/
theorem bytes_are_read_as_text (policy : DuplicatePolicy) (bytes : List UInt8) :
    (∀ text, bytes = bytesOf text →
      parse policy (.ofBytes bytes) = parseText policy text) ∧
    (¬ IsUtf8 bytes → ∃ text, LongestPrefix IsUtf8Lines (bytesOf text) bytes ∧
      (parse policy (.ofBytes bytes)).result =
        .error (endedBy .invalidUtf8 (parseText policy text).result)) ∧
    (∀ fault, (parse policy (.interrupted bytes fault)).result =
      .error (endedBy fault (parse policy (.ofBytes (throughLast lineFeed bytes))).result)) ∧
    (∀ path,
      (parseOpened policy path (.ok (.ofBytes bytes))).result =
        (match (parse policy (.ofBytes bytes)).result with
        | .error (.io cause) => .error (.unreadable path cause)
        | other => other) ∧
      ∀ cause, (parseOpened policy path (.ok (.ofBytes bytes))).result ≠ .error (.io cause)) := by
  refine ⟨?text, ?invalid, ?interrupted, ?file⟩
  case text =>
    rintro text rfl
    rw [ofBytes_bytesOf, parseText]
  case invalid =>
    intro h
    obtain ⟨text, hlongest, hdelivery⟩ := ofBytes_of_not_isUtf8 h
    refine ⟨text, hlongest, ?_⟩
    rw [hdelivery]
    exact parse_or_fault policy (Delivery.ofText text).lines none .invalidUtf8
  case interrupted =>
    intro fault
    rw [Delivery.interrupted, completePieces_eq, ofPieces_some, parse_or_fault]
    rfl
  case file =>
    intro path
    cases hr : (parse policy (.ofBytes bytes)).result with
    | ok g => simp [parseOpened, Logged.after, Logged.mapError, hr, Except.mapError]
    | error error =>
      cases error <;> simp [parseOpened, Logged.after, Logged.mapError, hr, Except.mapError, locate]

end

/-- A bad line above the bad encoding counts, and so does the encoding above a bad line. -/
example :
    (parse .reject (.ofBytes [0x78, 0x0A, 0xFF])).result = .error (.format 1 .unrecognized) ∧
      (parse .reject (.ofBytes [0xFF, 0x0A, 0x78])).result = .error (.io .invalidUtf8) := by
  exact ⟨rfl, rfl⟩

end BuildRunner.RuleFile
