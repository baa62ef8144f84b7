import Mathlib.Data.List.Basic
import Blueprint.Proofs.Text
import Blueprint.ServerCode.QuotedText
import Blueprint.Text.Quoted

namespace Blueprint.ServerCode

open Blueprint.Json (hexDigit hexDigits)
open Blueprint.Text

section Hexadecimal

private theorem isHexDigit_hexDigit {n : Nat} (small : n < 16) : isHexDigit (hexDigit n) = true := by
  revert n
  decide

private theorem digitValue_hexDigit {n : Nat} (small : n < 16) : digitValue (hexDigit n) = n := by
  revert n
  decide

@[simp] theorem length_hexDigits (count n : Nat) : (hexDigits count n).length = count := by
  induction count generalizing n with
  | zero => rfl
  | succ count ih => simp [hexDigits, ih]

theorem natOf_append_singleton (base : Nat) (digits : List Char) (c : Char) :
    natOf base (digits ++ [c]) = base * natOf base digits + digitValue c := by
  simp [natOf]

private theorem natOf_hexDigits (count n : Nat) : natOf 16 (hexDigits count n) = n % 16 ^ count := by
  induction count generalizing n with
  | zero => simp [hexDigits, natOf, Nat.mod_one]
  | succ count ih =>
    rw [hexDigits, natOf_append_singleton, ih, digitValue_hexDigit (Nat.mod_lt n (by decide)),
      Nat.pow_succ', Nat.mod_mul]
    omega

theorem all_hexDigits (count n : Nat) : (hexDigits count n).all isHexDigit = true := by
  induction count generalizing n with
  | zero => rfl
  | succ count ih => simp [hexDigits, ih, isHexDigit_hexDigit (Nat.mod_lt n (by decide : 0 < 16))]

/-- Digits that were written for a number small enough are read as that number. -/
theorem hexNumber?_hexDigits {count n : Nat} (small : n < 16 ^ count) (rest : List Char) :
    hexNumber? count (hexDigits count n ++ rest) = some (n, rest) := by
  have taken : (hexDigits count n ++ rest).take count = hexDigits count n := by
    rw [List.take_append_of_le_length (by simp), List.take_of_length_le (by simp)]
  have left : (hexDigits count n ++ rest).drop count = rest := by
    rw [List.drop_append, List.drop_of_length_le (by simp)]
    simp
  simp [hexNumber?, taken, left, natOf_hexDigits, Nat.mod_eq_of_lt small,
    all_hexDigits count n]

end Hexadecimal

/-- A character that passes between quotes as it is. -/
def PassesQuotes (quote c : Char) : Prop := c ≠ '\\' ∧ c ≠ quote ∧ c ≠ '\n'

/-- What is written stands between quotes for one number. -/
structure StandsFor (inText : Bool) (quote : Char) (written : List Char) (value : Nat) : Prop where
  opens : ∃ c more, written = c :: more ∧ c ≠ quote
  passed : ∀ rest, stringBody? quote false (written ++ rest) =
    (stringBody? quote false rest).map fun found => (written ++ found.1, found.2)
  decoded : ∀ fuel rest, decodeFrom inText (fuel + 1) (written ++ rest) =
    (decodeFrom inText fuel rest).map (value :: ·)

section Pieces

variable {inText : Bool} {quote : Char}

private theorem stringBody?_cons {c : Char} (passes : PassesQuotes quote c) (rest : List Char) :
    stringBody? quote false (c :: rest) =
      (stringBody? quote false rest).map fun found => (c :: found.1, found.2) := by
  obtain ⟨slash, other, feed⟩ := passes
  rcases rest with _ | ⟨d, _ | ⟨e, behind⟩⟩ <;> simp [stringBody?, slash, other, feed]

private theorem stringBody?_append {run : List Char} (passes : ∀ c ∈ run, PassesQuotes quote c)
    (rest : List Char) : stringBody? quote false (run ++ rest) =
      (stringBody? quote false rest).map fun found => (run ++ found.1, found.2) := by
  induction run with
  | nil => cases shape : stringBody? quote false rest <;> simp [shape]
  | cons c run ih =>
    obtain ⟨here, others⟩ := List.forall_mem_cons.mp passes
    rw [List.cons_append, stringBody?_cons here, ih others, Option.map_map]
    rfl

theorem standsFor_char {c : Char} (passes : PassesQuotes quote c) :
    StandsFor inText quote [c] c.toNat where
  opens := ⟨c, [], rfl, passes.2.1⟩
  passed := stringBody?_append (by simpa using passes)
  decoded := by
    intro fuel rest
    rw [List.singleton_append, decodeFrom]
    · cases decodeFrom inText fuel rest <;> rfl
    · exact fun same => passes.1 same

theorem standsFor_escape {c : Char} {more : List Char} {value : Nat} (apart : quote ≠ '\\')
    (passes : ∀ d ∈ more, PassesQuotes quote d)
    (read : ∀ rest, escape? inText (c :: more ++ rest) = some (some [value], rest)) :
    StandsFor inText quote ('\\' :: c :: more) value where
  opens := ⟨'\\', c :: more, rfl, apart.symm⟩
  passed := by
    intro rest
    rw [List.cons_append, List.cons_append, stringBody?, stringBody?_append passes, Option.map_map]
    rfl
  decoded := by
    intro fuel rest
    rw [List.cons_append, decodeFrom, read]
    change (decodeFrom inText fuel rest).bind (fun decoded => some (value :: decoded)) = _
    exact Option.map_eq_bind.symm

theorem passesQuotes_hexDigits (apart : isHexDigit quote = false) (count n : Nat) :
    ∀ d ∈ hexDigits count n, PassesQuotes quote d := by
  intro d listed
  have digit := List.all_eq_true.mp (all_hexDigits count n) d listed
  refine ⟨?_, ?_, ?_⟩
  · rintro rfl
    exact absurd digit (by decide)
  · rintro rfl
    exact absurd digit (by simp [apart])
  · rintro rfl
    exact absurd digit (by decide)

/-- Quotes are of two kinds. -/
def IsQuote (quote : Char) : Prop := quote = '\'' ∨ quote = '"'

theorem IsQuote.apart (kind : IsQuote quote) : quote ≠ '\\' := by
  rcases kind with rfl | rfl <;> decide

private theorem standsFor_quote (kind : IsQuote quote) :
    StandsFor inText quote ['\\', quote] quote.toNat := by
  apply standsFor_escape kind.apart (List.forall_mem_nil _)
  intro rest
  rcases kind with rfl | rfl <;> rfl

theorem standsFor_byte (kind : IsQuote quote) {n : Nat} (small : n < 0x100) :
    StandsFor inText quote ('\\' :: 'x' :: hexDigits 2 n) n := by
  apply standsFor_escape kind.apart
  · exact passesQuotes_hexDigits (by rcases kind with rfl | rfl <;> decide) 2 n
  · intro rest
    change (hexNumber? 2 (hexDigits 2 n ++ rest)).map _ = _
    rw [hexNumber?_hexDigits small]
    rfl

theorem toNat_lt (c : Char) : c.toNat < 0x110000 := by
  rcases c.valid with low | ⟨_, high⟩
  · exact Nat.lt_trans low (by decide)
  · exact high

private theorem escape?_four (rest : List Char) : escape? true ('u' :: rest) =
    (hexNumber? 4 rest).bind fun found =>
      if found.1.isValidChar then some (some [found.1], found.2) else none := rfl

private theorem escape?_eight (rest : List Char) : escape? true ('U' :: rest) =
    (hexNumber? 8 rest).bind fun found =>
      if found.1.isValidChar then some (some [found.1], found.2) else none := rfl

private theorem bind_validPoint (c : Char) (rest : List Char) :
    ((some (c.toNat, rest)).bind fun found : Nat × List Char =>
      if found.1.isValidChar then some (some [found.1], found.2) else none) =
      some (some [c.toNat], rest) := by
  have valid : c.toNat.isValidChar := c.valid
  rw [Option.bind_some, if_pos valid]

/-- The escape by the number of a character. -/
theorem standsFor_numberEscape (kind : IsQuote quote) (c : Char) :
    StandsFor true quote (numberEscape c) c.toNat := by
  have apart : isHexDigit quote = false := by rcases kind with rfl | rfl <;> decide
  unfold numberEscape
  dsimp only
  split
  · next byte => exact standsFor_byte kind byte
  · split
    · next unit =>
      apply standsFor_escape kind.apart (passesQuotes_hexDigits apart 4 _)
      intro rest
      rw [List.cons_append, escape?_four, hexNumber?_hexDigits unit]
      exact bind_validPoint c rest
    · apply standsFor_escape kind.apart (passesQuotes_hexDigits apart 8 _)
      intro rest
      have small : c.toNat < 16 ^ 8 := Nat.lt_trans (toNat_lt c) (by decide)
      rw [List.cons_append, escape?_eight, hexNumber?_hexDigits small]
      exact bind_validPoint c rest

private theorem standsFor_printable {c : Char} (shown : isPrintable c = true) (other : c ≠ quote)
    (slash : c ≠ '\\') : StandsFor inText quote [c] c.toNat := by
  apply standsFor_char
  refine ⟨slash, other, ?_⟩
  rintro rfl
  exact absurd shown (by decide)

theorem standsFor_letter (kind : IsQuote quote) {mark value : Char}
    (known : (mark, value) ∈ [('\\', '\\'), ('n', '\n'), ('r', '\r'), ('t', '\t')]) :
    StandsFor inText quote ['\\', mark] value.toNat := by
  apply standsFor_escape kind.apart (List.forall_mem_nil _)
  intro rest
  simp only [List.mem_cons, Prod.mk.injEq, List.not_mem_nil, or_false] at known
  rcases known with ⟨rfl, rfl⟩ | ⟨rfl, rfl⟩ | ⟨rfl, rfl⟩ | ⟨rfl, rfl⟩ <;> rfl

theorem standsFor_visible (kind : IsQuote quote) {c : Char} (other : c ≠ quote) :
    StandsFor true quote (visible c) c.toNat := by
  unfold visible
  split
  · exact standsFor_letter kind (by decide)
  · exact standsFor_letter kind (by decide)
  · exact standsFor_letter kind (by decide)
  · exact standsFor_letter kind (by decide)
  · next slash _ _ _ =>
    split
    · next shown => exact standsFor_printable shown other slash
    · exact standsFor_numberEscape kind c

private theorem toNat_ofNat_byte (byte : UInt8) : (Char.ofNat byte.toNat).toNat = byte.toNat := by
  have small : byte.toNat < 0x100 := byte.toNat_lt
  have valid : byte.toNat.isValidChar := Or.inl (Nat.lt_trans small (by decide))
  rw [Char.ofNat, dif_pos valid]
  rfl

theorem standsFor_visibleByte (kind : IsQuote quote) {byte : UInt8}
    (other : byte.toNat ≠ quote.toNat) : StandsFor false quote (visibleByte byte) byte.toNat := by
  have small : byte.toNat < 0x100 := byte.toNat_lt
  have number := toNat_ofNat_byte byte
  unfold visibleByte
  generalize Char.ofNat byte.toNat = c at number
  have apart : c ≠ quote := by
    rintro rfl
    exact other number.symm
  dsimp only
  split
  · split
    · exact number ▸ standsFor_letter kind (by decide)
    · exact number ▸ standsFor_letter kind (by decide)
    · exact number ▸ standsFor_letter kind (by decide)
    · exact number ▸ standsFor_letter kind (by decide)
    · next slash _ _ _ =>
      split
      · next shown => exact number ▸ standsFor_printable shown apart slash
      · exact standsFor_byte kind small
  · exact standsFor_byte kind small

end Pieces

section Rows

variable {α : Type} {inText : Bool} {quote : Char} {write : α → List Char} {value : α → Nat}

private theorem stringBody?_quote (apart : quote ≠ '\\') (rest : List Char) :
    stringBody? quote false (quote :: rest) = some ([], rest) := by
  rcases rest with _ | ⟨d, _ | ⟨e, behind⟩⟩ <;> simp [stringBody?, apart]

private theorem stringBody?_pieces (apart : quote ≠ '\\') {items : List α}
    (stands : ∀ item ∈ items, StandsFor inText quote (write item) (value item)) (rest : List Char) :
    stringBody? quote false (items.flatMap write ++ quote :: rest) =
      some (items.flatMap write, rest) := by
  induction items with
  | nil => exact stringBody?_quote apart rest
  | cons item items ih =>
    obtain ⟨here, others⟩ := List.forall_mem_cons.mp stands
    rw [List.flatMap_cons, List.append_assoc, here.passed, ih others]
    rfl

theorem decodeFrom_pieces {items : List α}
    (stands : ∀ item ∈ items, StandsFor inText quote (write item) (value item)) {fuel : Nat}
    (enough : (items.flatMap write).length < fuel) :
    decodeFrom inText fuel (items.flatMap write) = some (items.map value) := by
  induction items generalizing fuel with
  | nil =>
    obtain ⟨less, rfl⟩ := Nat.exists_eq_add_one.mpr enough
    rfl
  | cons item items ih =>
    obtain ⟨here, others⟩ := List.forall_mem_cons.mp stands
    obtain ⟨c, more, shape, _⟩ := here.opens
    obtain ⟨less, rfl⟩ := Nat.exists_eq_add_one.mpr (Nat.zero_lt_of_lt enough)
    rw [List.flatMap_cons, shape, List.length_append, List.length_cons] at enough
    rw [List.flatMap_cons, here.decoded, ih others (by omega)]
    rfl

/-- What is written between two quotes is a text up to the second one, unless the text is empty and
another quote follows. -/
theorem quotedText?_pieces (kind : quote ≠ '\\') {items : List α}
    (stands : ∀ item ∈ items, StandsFor inText quote (write item) (value item)) {rest : List Char}
    (apart : rest.head? ≠ some quote) :
    quotedText? (quote :: items.flatMap write ++ quote :: rest) =
      some (items.flatMap write, rest) := by
  have short : ∀ d e behind, items.flatMap write ++ quote :: rest = d :: e :: behind →
      (d == quote && e == quote) = false := by
    intro d e behind shape
    cases items with
    | nil =>
      cases shape
      simpa using apart
    | cons item items =>
      obtain ⟨c, more, first, other⟩ := (stands item List.mem_cons_self).opens
      rw [List.flatMap_cons, first, List.cons_append, List.cons_append] at shape
      obtain ⟨rfl, _⟩ := List.cons.inj shape
      simp [other]
  rw [← stringBody?_pieces kind stands rest, List.cons_append]
  generalize items.flatMap write ++ quote :: rest = text at short
  rcases text with _ | ⟨d, _ | ⟨e, behind⟩⟩
  · rfl
  · rfl
  · rw [quotedText?]
    exact if_neg (by simpa using short d e behind rfl)

end Rows

theorem isQuote_quoteFor (text : List Char) : IsQuote (quoteFor text) := by
  unfold quoteFor
  split
  · exact Or.inr rfl
  · exact Or.inl rfl

/-- What stands between the quotes of a text. -/
def textBody (text : List Char) : List Char :=
  text.flatMap fun c => if c == quoteFor text then ['\\', c] else visible c

theorem quotedChars_eq (text : List Char) :
    quotedChars text = quoteFor text :: textBody text ++ [quoteFor text] := rfl

private theorem standsFor_textBody (text : List Char) (c : Char) :
    StandsFor true (quoteFor text) (if c == quoteFor text then ['\\', c] else visible c) c.toNat := by
  have kind := isQuote_quoteFor text
  split
  · next same =>
    rw [eq_of_beq same]
    exact standsFor_quote kind
  · next other => exact standsFor_visible kind (by simpa using other)

/-- A quoted text is read as a text. -/
theorem string?_quotedChars (text : List Char) {rest : List Char}
    (apart : rest.head? ≠ some '\'' ∧ rest.head? ≠ some '"') :
    string? "" (quotedChars text ++ rest) =
      some (.string { kind := .text, raw := false, marked := false, body := textBody text }, rest) := by
  have kind := isQuote_quoteFor text
  have behind : rest.head? ≠ some (quoteFor text) := by
    rcases kind with same | same
    · exact same ▸ apart.1
    · exact same ▸ apart.2
  have read := quotedText?_pieces kind.apart (fun c (_ : c ∈ text) => standsFor_textBody text c) behind
  rw [quotedChars_eq, List.append_assoc, List.singleton_append, textBody]
  simp only [string?, read]
  rfl

/-- The text between the quotes stands for the text that was written. -/
theorem decodeText?_textBody (text : List Char) :
    decodeText? false (textBody text) = some (String.ofList text) := by
  have decoded := decodeFrom_pieces (fun c (_ : c ∈ text) => standsFor_textBody text c)
    (Nat.lt_succ_self _)
  have back : (text.map Char.toNat).map Char.ofNat = text := by
    rw [List.map_map]
    exact (List.map_congr_left fun c _ => Char.ofNat_toNat c).trans (List.map_id text)
  rw [textBody] at *
  rw [decodeText?, if_neg Bool.false_ne_true, decoded, Option.map_some, back]

/-- What stands between the quotes of bytes. -/
def bytesBody (bytes : List UInt8) : List Char :=
  let quote := quoteFor (bytes.map fun byte => Char.ofNat byte.toNat)
  bytes.flatMap fun byte => if byte.toNat == quote.toNat then ['\\', quote] else visibleByte byte

private theorem standsFor_bytesBody (quote : Char) (kind : IsQuote quote) (byte : UInt8) :
    StandsFor false quote (if byte.toNat == quote.toNat then ['\\', quote] else visibleByte byte)
      byte.toNat := by
  split
  · next same =>
    rw [eq_of_beq same]
    exact standsFor_quote kind
  · next other => exact standsFor_visibleByte kind (by simpa using other)

theorem toList_quotedBytes (bytes : List UInt8) :
    (quotedBytes bytes).toList =
      'b' :: quoteFor (bytes.map fun byte => Char.ofNat byte.toNat) :: bytesBody bytes ++
        [quoteFor (bytes.map fun byte => Char.ofNat byte.toNat)] :=
  String.toList_ofList

theorem wordOrString?_letters {letters : List Char} {quote : Char} (kind : IsQuote quote)
    (named : ∀ c ∈ letters, isNamePart c = true)
    (mark : (stringMark? (String.ofList letters)).isSome = true) (rest : List Char) :
    wordOrString? (letters ++ quote :: rest) = string? (String.ofList letters) (quote :: rest) := by
  have ends : ∀ d ∈ (quote :: rest).head?, isNamePart d = false := by
    rcases kind with rfl | rfl <;> simp <;> decide
  have quoted : (quote == '\'' || quote == '"') = true := by
    rcases kind with rfl | rfl <;> rfl
  rw [wordOrString?, takeWhile_append_stop named ends, dropWhile_append_stop named ends]
  simp only [quoted, mark, Bool.and_self, ↓reduceIte]

/-- Quoted bytes are read as bytes. -/
theorem wordOrString?_quotedBytes (bytes : List UInt8) {rest : List Char}
    (apart : rest.head? ≠ some '\'' ∧ rest.head? ≠ some '"') :
    wordOrString? ((quotedBytes bytes).toList ++ rest) =
      some (.string { kind := .bytes, raw := false, marked := false, body := bytesBody bytes },
        rest) := by
  set quote := quoteFor (bytes.map fun byte => Char.ofNat byte.toNat) with quote_eq
  have kind : IsQuote quote := isQuote_quoteFor _
  have behind : rest.head? ≠ some quote := by
    rcases kind with same | same
    · exact same ▸ apart.1
    · exact same ▸ apart.2
  have read := quotedText?_pieces kind.apart
    (fun byte (_ : byte ∈ bytes) => standsFor_bytesBody quote kind byte) behind
  have split : (quotedBytes bytes).toList ++ rest =
      ['b'] ++ quote :: (bytesBody bytes ++ quote :: rest) := by
    simp [toList_quotedBytes, ← quote_eq]
  have named : ∀ c ∈ ['b'], isNamePart c = true := by simp; decide
  rw [split, wordOrString?_letters kind named (by decide), bytesBody]
  simp only [string?, ← quote_eq, ← List.cons_append, read]
  rfl

section Printable

private theorem range_of_isHexDigit {c : Char} (digit : isHexDigit c = true) :
    0x20 ≤ c.toNat ∧ c.toNat < 0x7f := by
  simp only [isHexDigit, Char.isDigit, Bool.or_eq_true, Bool.and_eq_true, decide_eq_true_eq,
    Char.le_def, UInt32.le_iff_toNat_le] at digit
  have same : c.toNat = c.val.toNat := rfl
  simp at digit
  omega

private theorem isPrintable_of_range {c : Char} (range : 0x20 ≤ c.toNat ∧ c.toNat < 0x7f) :
    isPrintable c = true := by
  unfold isPrintable
  rw [if_pos (by omega)]
  simpa using range

private theorem range_hexDigits (count n : Nat) :
    ∀ c ∈ hexDigits count n, 0x20 ≤ c.toNat ∧ c.toNat < 0x7f := fun c listed =>
  range_of_isHexDigit (List.all_eq_true.mp (all_hexDigits count n) c listed)

theorem isPrintable_numberEscape (d : Char) : ∀ c ∈ numberEscape d, isPrintable c = true := by
  have digits (count n : Nat) : ∀ c ∈ hexDigits count n, isPrintable c = true := fun c listed =>
    isPrintable_of_range (range_hexDigits count n c listed)
  unfold numberEscape
  dsimp only
  split
  · exact List.forall_mem_cons.mpr ⟨by decide, List.forall_mem_cons.mpr ⟨by decide, digits 2 _⟩⟩
  · split
    · exact List.forall_mem_cons.mpr ⟨by decide, List.forall_mem_cons.mpr ⟨by decide, digits 4 _⟩⟩
    · exact List.forall_mem_cons.mpr ⟨by decide, List.forall_mem_cons.mpr ⟨by decide, digits 8 _⟩⟩

theorem isPrintable_visible (d : Char) : ∀ c ∈ visible d, isPrintable c = true := by
  unfold visible
  split
  · decide
  · decide
  · decide
  · decide
  · split
    · simpa
    · exact isPrintable_numberEscape d

theorem isPrintable_quote {quote : Char} (kind : IsQuote quote) : isPrintable quote = true := by
  rcases kind with rfl | rfl <;> decide

/-- A quoted text holds nothing but characters that are shown as they are. -/
theorem isPrintable_quotedChars (text : List Char) :
    ∀ c ∈ quotedChars text, isPrintable c = true := by
  have quote := isPrintable_quote (isQuote_quoteFor text)
  rw [quotedChars_eq, List.cons_append, List.forall_mem_cons, List.forall_mem_append,
    List.forall_mem_singleton]
  refine ⟨quote, ?_, quote⟩
  intro c listed
  obtain ⟨d, _, listed⟩ := List.mem_flatMap.mp listed
  split at listed
  · next same =>
    rw [eq_of_beq same] at listed
    have both : ∀ c ∈ ['\\', quoteFor text], isPrintable c = true :=
      List.forall_mem_cons.mpr ⟨by decide, List.forall_mem_singleton.mpr quote⟩
    exact both c listed
  · exact isPrintable_visible d c listed

theorem range_visibleByte (byte : UInt8) :
    ∀ c ∈ visibleByte byte, 0x20 ≤ c.toNat ∧ c.toNat < 0x7f := by
  have number := toNat_ofNat_byte byte
  have escape : ∀ c ∈ '\\' :: 'x' :: hexDigits 2 byte.toNat, 0x20 ≤ c.toNat ∧ c.toNat < 0x7f :=
    List.forall_mem_cons.mpr ⟨by decide, List.forall_mem_cons.mpr ⟨by decide, range_hexDigits 2 _⟩⟩
  unfold visibleByte
  generalize Char.ofNat byte.toNat = c at number
  dsimp only
  split
  · next small =>
    split
    · decide
    · decide
    · decide
    · decide
    · split
      · next shown =>
        have ascii : c.toNat < 0x80 := by
          rw [number]
          exact UInt8.lt_iff_toNat_lt.mp small
        rw [isPrintable, if_pos ascii] at shown
        simpa using shown
      · exact escape
  · exact escape

private theorem range_bytesBody (bytes : List UInt8) :
    ∀ c ∈ bytesBody bytes, 0x20 ≤ c.toNat ∧ c.toNat < 0x7f := by
  intro c listed
  obtain ⟨byte, _, listed⟩ := List.mem_flatMap.mp listed
  split at listed
  · have both : ∀ quote, IsQuote quote → ∀ c ∈ ['\\', quote], 0x20 ≤ c.toNat ∧ c.toNat < 0x7f := by
      rintro quote (rfl | rfl) <;> decide
    exact both _ (isQuote_quoteFor _) c listed
  · exact range_visibleByte byte c listed

theorem isPrintable_quotedBytes (bytes : List UInt8) :
    ∀ c ∈ (quotedBytes bytes).toList, isPrintable c = true := by
  have quote := isPrintable_quote (isQuote_quoteFor (bytes.map fun byte => Char.ofNat byte.toNat))
  rw [toList_quotedBytes, List.cons_append, List.forall_mem_cons, List.cons_append,
    List.forall_mem_cons, List.forall_mem_append, List.forall_mem_singleton]
  exact ⟨by decide, quote, fun c listed => isPrintable_of_range (range_bytesBody bytes c listed), quote⟩

end Printable

/-- The bytes between the quotes are the bytes that were written. -/
theorem decodeBytes?_bytesBody (bytes : List UInt8) :
    decodeBytes? false (bytesBody bytes) = some bytes := by
  have ascii : (bytesBody bytes).any (fun c => decide (0x80 ≤ c.toNat)) = false := by
    rw [List.any_eq_false]
    intro c listed
    have := range_bytesBody bytes c listed
    simp
    omega
  have kind := isQuote_quoteFor (bytes.map fun byte => Char.ofNat byte.toNat)
  have decoded := decodeFrom_pieces
    (fun byte (_ : byte ∈ bytes) => standsFor_bytesBody _ kind byte) (Nat.lt_succ_self _)
  have back : (bytes.map UInt8.toNat).map UInt8.ofNat = bytes := by
    rw [List.map_map]
    exact (List.map_congr_left fun byte _ => UInt8.ofNat_toNat).trans (List.map_id bytes)
  rw [decodeBytes?, ascii]
  simp only [Bool.false_eq_true, ↓reduceIte]
  rw [bytesBody, decoded, Option.map_some, back]

end Blueprint.ServerCode
