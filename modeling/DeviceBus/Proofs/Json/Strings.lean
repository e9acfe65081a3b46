import Mathlib.Tactic.SplitIfs
import DeviceBus.Json.Reader
import DeviceBus.Json.Writer

/-! # Strings, written and read

A written octet is one piece of the string that is read: the octet itself, bare
or after a backslash, or a code unit if it is a control that has no letter of
its own.
-/

namespace DeviceBus.Json

variable {b : UInt8} {bs : Bytes} {piece : Piece} {pieces : List Piece}

/-! ## One octet -/

/-- How an octet may be written in a string, and the piece that it is read as. -/
inductive Stands (b : UInt8) : Bytes → Piece → Prop
  | bare (hQuote : b ≠ ascii '"') (hBackslash : b ≠ ascii '\\') (hPrinted : ¬b < 0x20) :
      Stands b [b] (.octet b)
  | letter {letter : UInt8} (hOther : letter ≠ ascii 'u') (hMeans : escaped? letter = some b) :
      Stands b [ascii '\\', letter] (.octet b)
  | unit {h i j k : UInt8} (hUnit : unit? [h, i, j, k] = some b.toUInt16) (hControl : b < 0x20) :
      Stands b [ascii '\\', ascii 'u', h, i, j, k] (.unit b.toUInt16)

theorem unit?_ofNat : ∀ n < 32,
    Utf8.encode ("\\u00" ++ Bytes.hex [UInt8.ofNat n]) =
        [ascii '\\', ascii 'u', ascii '0', ascii '0', ascii (Bytes.hexDigit (UInt8.ofNat n >>> 4)),
          ascii (Bytes.hexDigit (UInt8.ofNat n &&& 0x0F))] ∧
      unit? [ascii '0', ascii '0', ascii (Bytes.hexDigit (UInt8.ofNat n >>> 4)),
          ascii (Bytes.hexDigit (UInt8.ofNat n &&& 0x0F))] = some (UInt8.ofNat n).toUInt16 := by
  decide

theorem stands_control (hControl : b < 0x20) :
    Stands b (Utf8.encode ("\\u00" ++ Bytes.hex [b])) (.unit b.toUInt16) := by
  obtain ⟨hWritten, hUnit⟩ := unit?_ofNat b.toNat (UInt8.lt_iff_toNat_lt.mp hControl)
  rw [UInt8.ofNat_toNat] at hWritten hUnit
  rw [hWritten]
  exact .unit hUnit hControl

theorem stands_letter (letter : UInt8) {written : Bytes} (hWritten : written = [ascii '\\', letter])
    (hOther : letter ≠ ascii 'u') (hMeans : escaped? letter = some b) :
    Stands b written (.octet b) := by
  rw [hWritten]
  exact .letter hOther hMeans

theorem exists_stands (b : UInt8) : ∃ piece, Stands b (writtenOctet b) piece := by
  unfold writtenOctet
  split_ifs with hMarked hBack hTab hLine hFeed hReturn hControl
  · rcases hMarked with rfl | rfl
    · exact ⟨_, stands_letter _ rfl (by decide) (by decide)⟩
    · exact ⟨_, stands_letter _ rfl (by decide) (by decide)⟩
  · subst hBack
    exact ⟨_, stands_letter (ascii 'b') (by decide) (by decide) (by decide)⟩
  · subst hTab
    exact ⟨_, stands_letter (ascii 't') (by decide) (by decide) (by decide)⟩
  · subst hLine
    exact ⟨_, stands_letter (ascii 'n') (by decide) (by decide) (by decide)⟩
  · subst hFeed
    exact ⟨_, stands_letter (ascii 'f') (by decide) (by decide) (by decide)⟩
  · subst hReturn
    exact ⟨_, stands_letter (ascii 'r') (by decide) (by decide) (by decide)⟩
  · exact ⟨_, stands_control hControl⟩
  · exact ⟨_, .bare (fun h => hMarked (.inl h)) (fun h => hMarked (.inr h)) hControl⟩

/-- A written octet is one more piece. -/
theorem readPieces?_stands {written : Bytes} (h : Stands b written piece) (seen : List Piece)
    (rest : Bytes) : readPieces? seen (written ++ rest) = readPieces? (piece :: seen) rest := by
  cases h with
  | bare hQuote hBackslash hPrinted =>
    rw [List.singleton_append, readPieces?.eq_def]
    simp only [if_neg hQuote, if_neg hPrinted, if_neg hBackslash]
  | letter hOther hMeans =>
    have hQuote : ascii '\\' ≠ ascii '"' := by decide
    have hPrinted : ¬ascii '\\' < 0x20 := by decide
    rw [List.cons_append, List.singleton_append, readPieces?.eq_def]
    simp only [if_neg hQuote, if_neg hPrinted, if_true, if_neg hOther, hMeans]
  | unit hUnit hControl =>
    have hQuote : ascii '\\' ≠ ascii '"' := by decide
    have hPrinted : ¬ascii '\\' < 0x20 := by decide
    simp only [List.cons_append, List.nil_append]
    rw [readPieces?.eq_def]
    simp only [if_neg hQuote, if_neg hPrinted, if_true, hUnit]

theorem unit_ofNat : ∀ n < 32, isHighSurrogate (UInt8.ofNat n).toUInt16 = false ∧
    isLowSurrogate (UInt8.ofNat n).toUInt16 = false ∧
      Utf8.encode (String.singleton (Char.ofNat (UInt8.ofNat n).toUInt16.toNat)) =
        [UInt8.ofNat n] := by
  decide

/-- A piece that an octet is read as stands for this octet. -/
theorem octets?_stands {written : Bytes} (h : Stands b written piece) (pieces : List Piece) :
    octets? (piece :: pieces) = (octets? pieces).map (b :: ·) := by
  cases h with
  | bare hQuote hBackslash hPrinted => rfl
  | letter hOther hMeans => rfl
  | unit hUnit hControl =>
    have hLess : b.toNat < 32 := UInt8.lt_iff_toNat_lt.mp hControl
    obtain ⟨hHigh, hLow, hOctet⟩ := unit_ofNat b.toNat hLess
    rw [UInt8.ofNat_toNat] at hHigh hLow hOctet
    rw [octets?.eq_def]
    simp only [hHigh, hLow, hOctet, if_neg Bool.false_ne_true]
    rfl

/-! ## Strings -/

/-- The octets of a string are read as pieces that stand for them. -/
theorem exists_pieces (bs : Bytes) : ∃ pieces, octets? pieces = some bs ∧ ∀ seen rest,
    readPieces? seen (bs.flatMap writtenOctet ++ ascii '"' :: rest) =
      some (seen.reverse ++ pieces, rest) := by
  induction bs with
  | nil =>
    refine ⟨[], rfl, fun seen rest => ?_⟩
    rw [List.flatMap_nil, List.nil_append, readPieces?.eq_def]
    simp only [if_true, List.append_nil]
  | cons b bs ih =>
    obtain ⟨piece, hStands⟩ := exists_stands b
    obtain ⟨pieces, hOctets, hRead⟩ := ih
    refine ⟨piece :: pieces, ?_, fun seen rest => ?_⟩
    · rw [octets?_stands hStands, hOctets]
      rfl
    · rw [List.flatMap_cons, List.append_assoc, readPieces?_stands hStands, hRead,
        List.reverse_cons, List.append_assoc]
      rfl

theorem ofText_eq (text : String) :
    ofText text = ascii '"' :: ((Utf8.encode text).flatMap writtenOctet ++ [ascii '"']) := by
  have hQuote : Utf8.encode "\"" = [ascii '"'] := by decide
  rw [ofText, hQuote]
  rfl

/-- A written text is read as pieces that are this text. -/
theorem exists_pieces_ofText (text : String) : ∃ pieces, text? pieces = some text ∧ ∀ rest,
    readPieces? [] ((ofText text).tail ++ rest) = some (pieces, rest) := by
  obtain ⟨pieces, hOctets, hRead⟩ := exists_pieces (Utf8.encode text)
  refine ⟨pieces, ?_, fun rest => ?_⟩
  · rw [text?, hOctets]
    exact Utf8.decode?_encode text
  · rw [ofText_eq, List.tail_cons, List.append_assoc]
    exact hRead [] rest

end DeviceBus.Json
