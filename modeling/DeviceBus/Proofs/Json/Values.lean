import Mathlib.Data.List.Forall2
import DeviceBus.Proofs.Json.Strings

/-! # Values, written and read

A written value is read back whatever follows it, as long as it is what may
follow a value. The steps of the reader are enough when there are two for every
octet and one more.
-/

namespace DeviceBus.Json

variable {b : UInt8} {rest written : Bytes} {v : Value}

/-! ## Words and blanks -/

theorem strip?_append (word : String) (rest : Bytes) :
    strip? word (Utf8.encode word ++ rest) = some rest := by
  rw [strip?, if_pos (List.isPrefixOf_iff_prefix.mpr (List.prefix_append _ _)), List.drop_left]

theorem strip?_of_ne {word : String} {more : Bytes} (hWord : Utf8.encode word = b :: more)
    (hOther : b ∉ rest.head?) : strip? word rest = none := by
  rw [strip?, hWord, if_neg]
  intro hPrefix
  obtain ⟨after, rfl⟩ := List.isPrefixOf_iff_prefix.mp hPrefix
  exact hOther rfl

theorem skipBlanks_cons (hInk : isBlank b = false) (rest : Bytes) :
    skipBlanks (b :: rest) = b :: rest := by
  rw [skipBlanks, List.dropWhile_cons_of_neg (by rw [hInk]; exact Bool.false_ne_true)]

/-! ## What is read -/

/-- What may follow a value: nothing, a comma or a closing bracket. -/
def Ends (rest : Bytes) : Prop :=
  ∀ b ∈ rest.head?, b = ascii ',' ∨ b = ascii ']' ∨ b = ascii '\x7d'

/-- The octets are read as the value. -/
structure Reads (written : Bytes) (v : Value) : Prop where
  opens : ∃ b rest, written = b :: rest ∧ isBlank b = false ∧ b ≠ ascii ']'
  reads : ∀ steps rest, 2 * written.length < steps → Ends rest →
    readValue? steps (written ++ rest) = some (v, rest)

theorem Reads.ofBytes? (h : Reads written v) : Value.ofBytes? written = some v := by
  have hRead := h.reads (2 * written.length + 1) [] (Nat.lt_succ_self _) (fun b hb => by cases hb)
  rw [List.append_nil] at hRead
  rw [Value.ofBytes?, hRead]
  rfl

theorem reads_ofText (text : String) :
    ∃ pieces, text? pieces = some text ∧ Reads (ofText text) (.string pieces) := by
  obtain ⟨pieces, hText, hRead⟩ := exists_pieces_ofText text
  refine ⟨pieces, hText, ⟨_, _, ofText_eq text, by decide, by decide⟩, ?_⟩
  intro steps rest hSteps _
  cases steps with
  | zero => omega
  | succ steps =>
    have hRest := hRead rest
    rw [ofText_eq, List.tail_cons] at hRest
    rw [ofText_eq, List.cons_append, readValue?, skipBlanks_cons (by decide)]
    simp only [if_true, hRest, Option.map_some]

/-! ## Numbers -/

/-- The digits write the number, with a zero in front only if it is the number zero. -/
structure Spells (digits : Bytes) (n : Nat) : Prop where
  all : ∀ d ∈ digits, isDigit d = true
  value : ofDigits digits = n
  head : ∃ d more, digits = d :: more ∧ (d = ascii '0' → n = 0 ∧ more = [])

theorem isDigit_digitChar : ∀ n < 10, isDigit (ascii (Nat.digitChar n)) = true ∧
    (ascii (Nat.digitChar n) - ascii '0').toNat = n ∧
      (ascii (Nat.digitChar n) = ascii '0' → n = 0) := by
  decide

theorem spells_digit {n : Nat} (hLess : n < 10) : Spells [ascii (Nat.digitChar n)] n := by
  obtain ⟨hDigit, hValue, hZero⟩ := isDigit_digitChar n hLess
  refine ⟨List.forall_mem_singleton.mpr hDigit, ?_, _, [], rfl, fun h => ⟨hZero h, rfl⟩⟩
  rw [ofDigits, List.foldl_cons, List.foldl_nil, hValue]
  omega

theorem spells_snoc {digits : Bytes} {m n : Nat} (h : Spells digits m) (hSome : 0 < m)
    (hLess : n < 10) : Spells (digits ++ [ascii (Nat.digitChar n)]) (10 * m + n) := by
  obtain ⟨hDigit, hValue, -⟩ := isDigit_digitChar n hLess
  obtain ⟨d, more, hDigits, hZero⟩ := h.head
  refine ⟨List.forall_mem_append.mpr ⟨h.all, List.forall_mem_singleton.mpr hDigit⟩, ?_, d,
    more ++ [ascii (Nat.digitChar n)], by rw [hDigits]; rfl, fun h => ?_⟩
  · have hBefore := h.value
    rw [ofDigits] at hBefore ⊢
    rw [List.foldl_append, hBefore, List.foldl_cons, List.foldl_nil, hValue, Nat.mul_comm]
  · exact absurd (hZero h).1 (Nat.ne_of_gt hSome)

theorem spells_toDigits (n : Nat) : Spells ((Nat.toDigits 10 n).map ascii) n := by
  induction n using Nat.strongRecOn with
  | ind n ih =>
    rw [Nat.toDigits_eq_if (by decide)]
    split
    · rename_i hLess
      exact spells_digit hLess
    · rename_i hMore
      have hStep := spells_snoc (ih (n / 10) (by omega)) (by omega) (Nat.mod_lt n (by decide))
      rw [Nat.div_add_mod] at hStep
      rw [List.map_append]
      exact hStep

theorem utf8EncodeChar_of_isDigit {c : Char} (hDigit : c.isDigit = true) :
    String.utf8EncodeChar c = [ascii c] := by
  have hBound : c.val.toNat ≤ 127 := by
    simp only [Char.isDigit, Bool.and_eq_true, decide_eq_true_eq] at hDigit
    exact Nat.le_trans (UInt32.le_iff_toNat_le.mp hDigit.2) (by decide)
  rw [String.utf8EncodeChar, if_pos hBound]
  rfl

theorem ofInt_natCast (n : Nat) : ofInt n = (Nat.toDigits 10 n).map ascii := by
  have hEncode : Utf8.encode (String.ofList (Nat.toDigits 10 n)) =
      (Nat.toDigits 10 n).flatMap String.utf8EncodeChar := List.toList_data_toByteArray
  have hText : toString (n : Int) = String.ofList (Nat.toDigits 10 n) := Nat.repr_eq_ofList_toDigits
  rw [ofInt, hText, hEncode, List.map_eq_flatMap]
  refine List.flatMap_congr fun c hc => ?_
  exact utf8EncodeChar_of_isDigit (Nat.isDigit_of_mem_toDigits (by decide) (by decide) hc)

theorem Ends.not_mem (hEnds : Ends rest)
    (hOther : b ≠ ascii ',' ∧ b ≠ ascii ']' ∧ b ≠ ascii '\x7d') : b ∉ rest.head? := by
  intro hb
  rcases hEnds b hb with rfl | rfl | rfl
  · exact hOther.1 rfl
  · exact hOther.2.1 rfl
  · exact hOther.2.2 rfl

theorem skipFraction?_ends (hEnds : Ends rest) : skipFraction? rest = some rest := by
  have hPoint : Utf8.encode "." = [ascii '.'] := by decide
  rw [skipFraction?, strip?_of_ne hPoint (hEnds.not_mem (by decide))]

theorem skipExponent?_ends (hEnds : Ends rest) : skipExponent? rest = some rest := by
  have hSmall : Utf8.encode "e" = [ascii 'e'] := by decide
  have hLarge : Utf8.encode "E" = [ascii 'E'] := by decide
  rw [skipExponent?, strip?_of_ne hSmall (hEnds.not_mem (by decide)),
    strip?_of_ne hLarge (hEnds.not_mem (by decide))]
  rfl

theorem span_digits {digits : Bytes} (hAll : ∀ d ∈ digits, isDigit d = true) (hEnds : Ends rest) :
    (digits ++ rest).takeWhile isDigit = digits ∧ (digits ++ rest).dropWhile isDigit = rest := by
  have hStop : ∀ d ∈ rest.head?, isDigit d ≠ true := by
    intro d hd
    rcases hEnds d hd with rfl | rfl | rfl
    · decide
    · decide
    · decide
  rw [List.takeWhile_append_of_pos hAll, List.dropWhile_append_of_pos hAll]
  cases rest with
  | nil => exact ⟨List.append_nil _, rfl⟩
  | cons d more =>
    have hFirst := hStop d rfl
    rw [List.takeWhile_cons_of_neg hFirst, List.dropWhile_cons_of_neg hFirst, List.append_nil]
    exact ⟨rfl, rfl⟩

theorem ne_of_isDigit {d c : UInt8} (hDigit : isDigit d = true) (hOther : isDigit c = false) :
    d ≠ c := by
  rintro rfl
  cases hOther.symm.trans hDigit

/-- Digits are read as a number, with the sign that stands before them. -/
theorem readNumeral?_of_digits {bs digits : Bytes} {n : Nat} (h : Spells digits n)
    (hEnds : Ends rest) (hSign : (strip? "-" bs).getD bs = digits ++ rest) :
    readNumeral? bs = some (⟨(strip? "-" bs).isSome, n, true⟩, rest) := by
  obtain ⟨d, more, hDigits, hZero⟩ := h.head
  obtain ⟨hTake, hDrop⟩ := span_digits h.all hEnds
  have hForm : ¬(digits = [] ∨ digits.head? = some (ascii '0') ∧ digits ≠ [ascii '0']) := by
    rintro (hEmpty | ⟨hFirst, hLong⟩)
    · cases hDigits.symm.trans hEmpty
    · rw [hDigits, List.head?_cons, Option.some.injEq] at hFirst
      refine hLong ?_
      rw [hDigits, (hZero hFirst).2, hFirst]
  simp only [readNumeral?, hSign, hTake, hDrop, if_neg hForm, skipFraction?_ends hEnds,
    Option.bind_eq_bind, Option.bind_some, skipExponent?_ends hEnds, h.value, beq_self_eq_true]

theorem readNumeral?_spells {digits : Bytes} {n : Nat} (h : Spells digits n) (hEnds : Ends rest) :
    readNumeral? (digits ++ rest) = some (⟨false, n, true⟩, rest) := by
  obtain ⟨d, more, hDigits, -⟩ := h.head
  have hMinus : Utf8.encode "-" = [ascii '-'] := by decide
  have hNone : strip? "-" (digits ++ rest) = none := by
    refine strip?_of_ne hMinus ?_
    rw [hDigits]
    rintro ⟨⟩
    cases h.all (ascii '-') (hDigits ▸ List.mem_cons_self)
  rw [readNumeral?_of_digits h hEnds (by rw [hNone]; rfl), hNone, Option.isSome_none]

theorem readNumeral?_minus {digits : Bytes} {n : Nat} (h : Spells digits n) (hEnds : Ends rest) :
    readNumeral? (ascii '-' :: (digits ++ rest)) = some (⟨true, n, true⟩, rest) := by
  have hSign : strip? "-" (ascii '-' :: (digits ++ rest)) = some (digits ++ rest) :=
    strip?_append "-" (digits ++ rest)
  rw [readNumeral?_of_digits h hEnds (by rw [hSign]; rfl), hSign, Option.isSome_some]

/-- A number begins with a digit or a minus. -/
def Signed (b : UInt8) : Prop :=
  b = ascii '-' ∨ isDigit b = true

theorem Signed.ne {c : UInt8} (h : Signed b) (hMinus : c ≠ ascii '-')
    (hDigit : isDigit c = false) : b ≠ c := by
  rcases h with rfl | hOwn
  · exact hMinus.symm
  · exact ne_of_isDigit hOwn hDigit

theorem reads_number {n : Numeral} (hOpens : ∃ b more, written = b :: more ∧ Signed b)
    (hRead : ∀ rest, Ends rest → readNumeral? (written ++ rest) = some (n, rest)) :
    Reads written (.number n) := by
  obtain ⟨b, more, rfl, hFirst⟩ := hOpens
  have hInk : isBlank b = false := by
    simp only [isBlank, Bool.or_eq_false_iff, beq_eq_false_iff_ne]
    exact ⟨⟨⟨hFirst.ne (by decide) (by decide), hFirst.ne (by decide) (by decide)⟩,
      hFirst.ne (by decide) (by decide)⟩, hFirst.ne (by decide) (by decide)⟩
  refine ⟨⟨b, more, rfl, hInk, hFirst.ne (by decide) (by decide)⟩, ?_⟩
  intro steps rest hSteps hEnds
  cases steps with
  | zero => omega
  | succ steps =>
    have hNumeral := hRead rest hEnds
    have hNull : Utf8.encode "null" = ascii 'n' :: Utf8.encode "ull" := by decide
    have hTrue : Utf8.encode "true" = ascii 't' :: Utf8.encode "rue" := by decide
    have hFalse : Utf8.encode "false" = ascii 'f' :: Utf8.encode "alse" := by decide
    have hOther : ∀ c, c ≠ ascii '-' → isDigit c = false → c ∉ (b :: (more ++ rest)).head? := by
      rintro c hMinus hc ⟨⟩
      exact hFirst.ne hMinus hc rfl
    rw [List.cons_append] at hNumeral ⊢
    rw [readValue?, skipBlanks_cons hInk]
    simp only [if_neg (hFirst.ne (c := ascii '"') (by decide) (by decide)),
      if_neg (hFirst.ne (c := ascii '[') (by decide) (by decide)),
      if_neg (hFirst.ne (c := ascii '\x7b') (by decide) (by decide)),
      strip?_of_ne hNull (hOther _ (by decide) (by decide)),
      strip?_of_ne hTrue (hOther _ (by decide) (by decide)),
      strip?_of_ne hFalse (hOther _ (by decide) (by decide)), hNumeral, Option.map_some]

theorem reads_ofInt (n : Nat) : Reads (ofInt n) (.number ⟨false, n, true⟩) := by
  have hSpells := spells_toDigits n
  rw [← ofInt_natCast] at hSpells
  obtain ⟨d, more, hDigits, -⟩ := hSpells.head
  have hDigit : isDigit d = true := hSpells.all d (hDigits ▸ List.mem_cons_self)
  exact reads_number ⟨d, more, hDigits, .inr hDigit⟩ fun _ hEnds =>
    readNumeral?_spells hSpells hEnds

theorem ofInt_negSucc (n : Nat) : ofInt (Int.negSucc n) = ascii '-' :: ofInt (n + 1 : Nat) := by
  have hMinus : Utf8.encode "-" = [ascii '-'] := by decide
  have hText : toString (Int.negSucc n) = "-" ++ toString ((n + 1 : Nat) : Int) := rfl
  rw [ofInt, hText, Utf8.encode_append, hMinus]
  rfl

theorem reads_ofInt_negSucc (n : Nat) :
    Reads (ofInt (Int.negSucc n)) (.number ⟨true, n + 1, true⟩) := by
  have hSpells := spells_toDigits (n + 1)
  rw [← ofInt_natCast] at hSpells
  rw [ofInt_negSucc]
  exact reads_number ⟨_, _, rfl, .inl rfl⟩ fun _ hEnds => readNumeral?_minus hSpells hEnds

/-- A written integer is read as this integer. -/
theorem exists_numeral (n : Int) :
    ∃ numeral, Reads (ofInt n) (.number numeral) ∧ (Value.number numeral).int? = some n := by
  cases n with
  | ofNat n => exact ⟨_, reads_ofInt n, rfl⟩
  | negSucc n => exact ⟨_, reads_ofInt_negSucc n, rfl⟩

/-! ## Arrays -/

theorem separated_cons_cons (item next : Bytes) (more : List Bytes) :
    separated (item :: next :: more) = item ++ ascii ',' :: separated (next :: more) := by
  have hComma : Utf8.encode "," = [ascii ','] := by decide
  rw [separated, List.intercalate_cons_cons, ← separated, hComma, List.append_assoc]
  rfl

theorem separated_singleton (item : Bytes) : separated [item] = item :=
  List.append_nil item

theorem exists_separated (item : Bytes) (items : List Bytes) :
    ∃ more, separated (item :: items) = item ++ more := by
  cases items with
  | nil => exact ⟨[], rfl⟩
  | cons next more => exact ⟨_, separated_cons_cons item next more⟩

theorem ends_cons (hEnd : b = ascii ',' ∨ b = ascii ']' ∨ b = ascii '\x7d') (rest : Bytes) :
    Ends (b :: rest) := by
  rintro c ⟨⟩
  exact hEnd

theorem strip?_cons {word : String} (hWord : Utf8.encode word = [b]) (c : UInt8) (rest : Bytes) :
    strip? word (c :: rest) = if b = c then some rest else none := by
  split
  · rename_i hSame
    have hStrip := strip?_append word rest
    rwa [hWord, hSame] at hStrip
  · rename_i hOther
    refine strip?_of_ne hWord ?_
    rintro ⟨⟩
    exact hOther rfl

section

variable {items : List Bytes} {values : List Value}

theorem readItems?_separated (h : List.Forall₂ Reads items values) (hSome : items ≠ [])
    (seen : List Value) {steps : Nat} (hSteps : 2 * (separated items).length + 1 < steps)
    (rest : Bytes) : readItems? seen steps (separated items ++ ascii ']' :: rest) =
      some (.array (seen.reverse ++ values), rest) := by
  have hComma : Utf8.encode "," = [ascii ','] := by decide
  have hClose : Utf8.encode "]" = [ascii ']'] := by decide
  induction h generalizing seen steps with
  | nil => exact (hSome rfl).elim
  | @cons item v items values hFirst hRest ih =>
    cases steps with
    | zero => omega
    | succ steps =>
      cases hRest with
      | nil =>
        rw [separated_singleton] at hSteps ⊢
        rw [readItems?, hFirst.reads steps _ (by omega) (ends_cons (by decide) rest)]
        dsimp only
        rw [skipBlanks_cons (by decide), strip?_cons hComma, if_neg (by decide),
          strip?_cons hClose, if_pos rfl, List.reverse_cons]
        rfl
      | @cons next v' more values hNext hMore =>
        rw [separated_cons_cons] at hSteps ⊢
        rw [List.length_append, List.length_cons] at hSteps
        rw [List.append_assoc, List.cons_append, readItems?,
          hFirst.reads steps _ (by omega) (ends_cons (by decide) _)]
        dsimp only
        rw [skipBlanks_cons (by decide), strip?_cons hComma, if_pos rfl]
        dsimp only
        rw [ih (List.cons_ne_nil _ _) (v :: seen) (by omega), List.reverse_cons,
          List.append_assoc]
        rfl

theorem separated_opens (h : List.Forall₂ Reads items values) (hSome : items ≠ []) :
    ∃ b rest, separated items = b :: rest ∧ isBlank b = false ∧ b ≠ ascii ']' := by
  cases h with
  | nil => exact (hSome rfl).elim
  | @cons item v items values hFirst hRest =>
    obtain ⟨b, rest, rfl, hOpens⟩ := hFirst.opens
    obtain ⟨more, hMore⟩ := exists_separated (b :: rest) items
    exact ⟨b, rest ++ more, hMore, hOpens⟩

theorem reads_ofItems (h : List.Forall₂ Reads items values) :
    Reads (ofItems items) (.array values) := by
  have hOpen : Utf8.encode "[" = [ascii '['] := by decide
  have hClose : Utf8.encode "]" = [ascii ']'] := by decide
  have hItems : ofItems items = ascii '[' :: (separated items ++ [ascii ']']) := by
    rw [ofItems, hOpen, hClose]
    rfl
  refine ⟨⟨_, _, hItems, by decide, by decide⟩, fun steps rest hSteps _ => ?_⟩
  rw [hItems, List.length_cons, List.length_append, List.length_singleton] at hSteps
  cases steps with
  | zero => omega
  | succ steps =>
    rw [hItems, List.cons_append, List.append_assoc, List.singleton_append, readValue?,
      skipBlanks_cons (by decide)]
    simp only [if_neg (show ¬ascii '[' = ascii '"' by decide), if_true]
    by_cases hSome : items = []
    · subst hSome
      cases h
      have hNone : separated [] = [] := rfl
      rw [hNone, List.nil_append, skipBlanks_cons (by decide), strip?_cons hClose, if_pos rfl]
    · obtain ⟨b, more, hFirst, hInk, hOther⟩ := separated_opens h hSome
      have hEnough : 2 * (separated items).length + 1 < steps := by omega
      have hRead := readItems?_separated h hSome [] hEnough rest
      rw [hFirst, List.cons_append] at hRead ⊢
      rw [skipBlanks_cons hInk, strip?_cons hClose, if_neg hOther.symm]
      exact hRead

end

/-! ## Objects -/

/-- A member is read as a name and a value. -/
def ReadsMember (m : String × Bytes) (read : String × Value) : Prop :=
  m.1 = read.1 ∧ Reads m.2 read.2

def memberOf (m : String × Bytes) : Bytes :=
  ofText m.1 ++ Utf8.encode ":" ++ m.2

theorem memberOf_eq (m : String × Bytes) : memberOf m = ofText m.1 ++ ascii ':' :: m.2 := by
  have hColon : Utf8.encode ":" = [ascii ':'] := by decide
  rw [memberOf, hColon, List.append_assoc]
  rfl

/-- The name of a member is read before its colon. -/
theorem exists_name (name : String) : ∃ pieces, text? pieces = some name ∧ ∀ rest,
    (strip? "\"" (skipBlanks (ofText name ++ rest))).bind (readPieces? []) =
      some (pieces, rest) := by
  have hQuote : Utf8.encode "\"" = [ascii '"'] := by decide
  obtain ⟨pieces, hText, hRead⟩ := exists_pieces_ofText name
  refine ⟨pieces, hText, fun rest => ?_⟩
  have hRest := hRead rest
  rw [ofText_eq, List.tail_cons] at hRest
  rw [ofText_eq, List.cons_append, skipBlanks_cons (by decide), strip?_cons hQuote, if_pos rfl]
  exact hRest

/-- What the reader does with a written member. -/
theorem exists_member {m : String × Bytes} {r : String × Value} (h : ReadsMember m r) :
    ∃ pieces, text? pieces = some r.1 ∧ ∀ seen steps rest, 2 * (memberOf m).length < steps →
      Ends rest → readMembers? seen (steps + 1) (memberOf m ++ rest) =
        match strip? "," (skipBlanks rest) with
        | some rest => readMembers? ((pieces, r.2) :: seen) steps rest
        | none => (strip? "\x7d" (skipBlanks rest)).map
            (Value.object ((pieces, r.2) :: seen).reverse, ·) := by
  have hColon : Utf8.encode ":" = [ascii ':'] := by decide
  obtain ⟨hName, hValue⟩ := h
  obtain ⟨pieces, hText, hPieces⟩ := exists_name m.1
  refine ⟨pieces, hName ▸ hText, fun seen steps rest hSteps hEnds => ?_⟩
  rw [memberOf_eq, List.length_append, List.length_cons] at hSteps
  rw [memberOf_eq, List.append_assoc, List.cons_append, readMembers?, hPieces]
  dsimp only
  rw [skipBlanks_cons (by decide), strip?_cons hColon, if_pos rfl, Option.bind_some]
  rewrite [hValue.reads steps _ (by omega) hEnds]
  rfl

theorem named?_cons {pieces : List Piece} {name : String} {written : List (List Piece × Value)}
    {read : List (String × Value)} (hText : text? pieces = some name)
    (hNamed : Value.named? written = some read) (v : Value) :
    Value.named? ((pieces, v) :: written) = some ((name, v) :: read) := by
  rw [Value.named?] at hNamed ⊢
  rw [List.mapM_cons, hNamed]
  simp only [hText]
  rfl

section

variable {members : List (String × Bytes)} {read : List (String × Value)}

theorem exists_members (h : List.Forall₂ ReadsMember members read) (hSome : members ≠ []) :
    ∃ written, Value.named? written = some read ∧ ∀ seen steps rest,
      2 * (separated (members.map memberOf)).length + 1 < steps →
        readMembers? seen steps (separated (members.map memberOf) ++ ascii '\x7d' :: rest) =
          some (.object (seen.reverse ++ written), rest) := by
  have hComma : Utf8.encode "," = [ascii ','] := by decide
  have hClose : Utf8.encode "\x7d" = [ascii '\x7d'] := by decide
  induction h with
  | nil => exact (hSome rfl).elim
  | @cons m r members read hFirst hRest ih =>
    obtain ⟨pieces, hText, hMember⟩ := exists_member hFirst
    cases hRest with
    | nil =>
      refine ⟨[(pieces, r.2)], named?_cons hText rfl r.2, fun seen steps rest hSteps => ?_⟩
      rw [List.map_singleton, separated_singleton] at hSteps ⊢
      cases steps with
      | zero => omega
      | succ steps =>
        rw [hMember seen steps _ (by omega) (ends_cons (by decide) rest),
          skipBlanks_cons (by decide), strip?_cons hComma, if_neg (by decide),
          strip?_cons hClose, if_pos rfl, List.reverse_cons]
        rfl
    | @cons next r' more read hNext hMore =>
      obtain ⟨written, hNamed, hRead⟩ := ih (List.cons_ne_nil _ _)
      refine ⟨(pieces, r.2) :: written, named?_cons hText hNamed r.2,
        fun seen steps rest hSteps => ?_⟩
      rw [List.map_cons] at hRead hSteps ⊢
      rw [List.map_cons, separated_cons_cons] at hSteps ⊢
      rw [List.length_append, List.length_cons] at hSteps
      cases steps with
      | zero => omega
      | succ steps =>
        rw [List.append_assoc, List.cons_append,
          hMember seen steps _ (by omega) (ends_cons (by decide) _), skipBlanks_cons (by decide),
          strip?_cons hComma, if_pos rfl]
        dsimp only
        rw [hRead _ _ _ (by omega), List.reverse_cons, List.append_assoc]
        rfl

theorem reads_ofMembers (h : List.Forall₂ ReadsMember members read) (hSome : members ≠ []) :
    ∃ written, Value.named? written = some read ∧ Reads (ofMembers members) (.object written) := by
  have hOpen : Utf8.encode "\x7b" = [ascii '\x7b'] := by decide
  have hClose : Utf8.encode "\x7d" = [ascii '\x7d'] := by decide
  have hMembers : ofMembers members =
      ascii '\x7b' :: (separated (members.map memberOf) ++ [ascii '\x7d']) := by
    rw [ofMembers, hOpen, hClose]
    rfl
  obtain ⟨written, hNamed, hRead⟩ := exists_members h hSome
  refine ⟨written, hNamed, ⟨_, _, hMembers, by decide, by decide⟩, fun steps rest hSteps _ => ?_⟩
  rw [hMembers, List.length_cons, List.length_append, List.length_singleton] at hSteps
  cases steps with
  | zero => omega
  | succ steps =>
    have hBody := hRead [] steps rest (by omega)
    obtain ⟨more, hFirst⟩ : ∃ more, separated (members.map memberOf) = ascii '"' :: more := by
      obtain ⟨m, others, rfl⟩ := List.exists_cons_of_ne_nil hSome
      obtain ⟨more, hMore⟩ := exists_separated (memberOf m) (others.map memberOf)
      exact ⟨_, hMore.trans (by rw [memberOf_eq, ofText_eq]; rfl)⟩
    rw [hMembers, List.cons_append, List.append_assoc, List.singleton_append, readValue?,
      skipBlanks_cons (by decide)]
    rw [hFirst, List.cons_append] at hBody ⊢
    simp only [if_neg (show ¬ascii '\x7b' = ascii '"' by decide),
      if_neg (show ¬ascii '\x7b' = ascii '[' by decide), if_true]
    rw [skipBlanks_cons (by decide), strip?_cons hClose, if_neg (by decide)]
    exact hBody

end

end DeviceBus.Json
