import TableQuery.Coercion
import TableQuery.Proofs.Number.Bits
import TableQuery.Proofs.Number.Shape

/-! What a text stands for: what its quotes hold, the number nearest to the decimal it matches, or
itself. -/

namespace TableQuery

namespace Number

def Denotes (s : List Char) (n : Float) : Prop :=
  ∃ numeral : Numeral, numeral.text = s ∧ isNegative n = numeral.isNegative ∧
    Nearest numeral.value (magnitudeIndex n)

theorem Decimal.index_le_infinity (d : Decimal) : d.index ≤ infinityIndex :=
  d.nearest_index.le_infinity

theorem Numeral.nearest_index (numeral : Numeral) :
    Nearest numeral.value numeral.decimal.index := by
  rw [← numeral.value_decimal]
  exact numeral.decimal.nearest_index

theorem denotes_iff {s : List Char} {n : Float} :
    Denotes s n ↔ (Decimal.read? s).map Decimal.toFloat = some n := by
  rw [Option.map_eq_some_iff]
  constructor
  · rintro ⟨numeral, rfl, sign, nearest⟩
    refine ⟨numeral.decimal, numeral.read?_text, ?_⟩
    have index := numeral.nearest_index.unique nearest
    rw [Decimal.toFloat, index, Numeral.decimal, ← sign, ofIndex_magnitudeIndex]
  · rintro ⟨d, read, rfl⟩
    obtain ⟨numeral, rfl⟩ := exists_numeral read
    obtain rfl : numeral.decimal = d := Option.some.inj (numeral.read?_text.symm.trans read)
    have inside := numeral.decimal.index_le_infinity
    refine ⟨numeral, rfl, isNegative_ofIndex inside _, ?_⟩
    rw [Decimal.toFloat, magnitudeIndex_ofIndex inside]
    exact numeral.nearest_index

theorem Denotes.unique {s : List Char} {m n : Float} (first : Denotes s m) (second : Denotes s n) :
    m = n :=
  Option.some.inj ((denotes_iff.1 first).symm.trans (denotes_iff.1 second))

theorem exists_denotes {s : List Char} (shape : s ∈ decimalShape.matches') : ∃ n, Denotes s n := by
  obtain ⟨numeral, rfl⟩ := mem_decimalShape_iff.1 shape
  exact ⟨numeral.decimal.toFloat, denotes_iff.2 (by rw [numeral.read?_text]; rfl)⟩

theorem Denotes.mem_decimalShape {s : List Char} {n : Float} (denotes : Denotes s n) :
    s ∈ decimalShape.matches' := by
  obtain ⟨numeral, rfl, -⟩ := denotes
  exact mem_decimalShape_iff.2 ⟨numeral, rfl⟩

theorem Numeral.text_ne_nil (numeral : Numeral) : numeral.text ≠ [] := by
  intro empty
  have read := numeral.read?_text
  rw [empty] at read
  contradiction

/-- All characters of a decimal pass, and nothing else that is read as a number does. -/
theorem all_isDecimalChar {s : List Char} (shape : s ∈ decimalShape.matches') :
    s ≠ [] ∧ s.all isDecimalChar := by
  obtain ⟨numeral, rfl⟩ := mem_decimalShape_iff.1 shape
  exact ⟨numeral.text_ne_nil, List.all_eq_true.2 numeral.isDecimalChar_of_mem_text⟩

end Number

open Number Text

theorem decimalNumber?_eq_some_iff {s : List Char} {n : Float} :
    decimalNumber? s = some n ↔ Denotes (trim s) n ∧ isFinite n := by
  rw [decimalNumber?]
  constructor
  · intro read
    split at read
    next shape =>
      rw [Number.read?, readName?_eq_none shape.2, Option.or_none, Option.filter_eq_some_iff] at read
      exact ⟨denotes_iff.2 read.1, read.2⟩
    next => contradiction
  · rintro ⟨denotes, finite⟩
    have shape := all_isDecimalChar denotes.mem_decimalShape
    rw [if_pos shape, Number.read?, readName?_eq_none shape.2, Option.or_none, denotes_iff.1 denotes,
      Option.filter_some_pos finite]

/-! ### Quotes -/

def Quoted (s : List Char) : Prop :=
  let bytes := s.flatMap String.utf8EncodeChar
  2 ≤ bytes.length ∧
    ∃ quote : UInt8, (quote = 0x27 ∨ quote = 0x22) ∧ bytes.head? = some quote ∧
      bytes.getLast? = some quote

theorem toNat_eq_of_mem_utf8EncodeChar {b : UInt8} {c : Char} (member : b ∈ String.utf8EncodeChar c)
    (ascii : b.toNat < 0x80) : c.toNat = b.toNat := by
  simp only [String.utf8EncodeChar, Char.toNat] at member ⊢
  split_ifs at member
  · rw [List.mem_singleton.1 member, UInt8.toNat_ofNat']
    omega
  all_goals
    simp only [List.mem_cons, List.not_mem_nil, or_false, ← UInt8.toNat_inj, UInt8.toNat_ofNat'] at member
    omega

theorem utf8EncodeChar_quote {quote : Char} (isQuote : quote = '\'' ∨ quote = '"') :
    String.utf8EncodeChar quote = [UInt8.ofNat quote.toNat] := by
  rcases isQuote with rfl | rfl <;> rfl

theorem eq_of_quote_mem_utf8EncodeChar {b : UInt8} {c quote : Char}
    (member : b ∈ String.utf8EncodeChar c) (isQuote : quote = '\'' ∨ quote = '"')
    (own : b.toNat = quote.toNat) : c = quote := by
  have ascii : b.toNat < 0x80 := by
    rw [own]
    rcases isQuote with rfl | rfl <;> decide
  exact Char.toNat_inj.1 ((toNat_eq_of_mem_utf8EncodeChar member ascii).trans own)

theorem mem_utf8EncodeChar_of_head? {b : UInt8} {c : Char} {rest : List Char}
    (first : ((c :: rest).flatMap String.utf8EncodeChar).head? = some b) :
    b ∈ String.utf8EncodeChar c := by
  rw [List.flatMap_cons, List.head?_append_of_ne_nil _ String.utf8EncodeChar_ne_nil] at first
  exact List.mem_of_mem_head? first

theorem mem_utf8EncodeChar_of_getLast? {b : UInt8} {c : Char} {before : List Char}
    (last : ((before ++ [c]).flatMap String.utf8EncodeChar).getLast? = some b) :
    b ∈ String.utf8EncodeChar c := by
  rw [List.flatMap_append, List.flatMap_singleton,
    List.getLast?_append_of_ne_nil _ String.utf8EncodeChar_ne_nil] at last
  exact List.mem_of_mem_getLast? last

theorem quoted_iff {s : List Char} : Quoted s ↔
    ∃ quote inner, (quote = '\'' ∨ quote = '"') ∧ s = quote :: inner ++ [quote] := by
  constructor
  · rintro ⟨length, b, isQuote, first, last⟩
    obtain ⟨quote, isQuote, own⟩ : ∃ quote : Char, (quote = '\'' ∨ quote = '"') ∧
        b.toNat = quote.toNat := by
      rcases isQuote with rfl | rfl
      · exact ⟨'\'', .inl rfl, rfl⟩
      · exact ⟨'"', .inr rfl, rfl⟩
    cases s with
    | nil => contradiction
    | cons c rest =>
      obtain rfl := eq_of_quote_mem_utf8EncodeChar (mem_utf8EncodeChar_of_head? first) isQuote own
      rcases List.eq_nil_or_concat rest with rfl | ⟨inner, d, rfl⟩
      · simp [utf8EncodeChar_quote isQuote] at length
      · rw [List.concat_eq_append, ← List.cons_append] at last
        obtain rfl := eq_of_quote_mem_utf8EncodeChar (mem_utf8EncodeChar_of_getLast? last) isQuote own
        exact ⟨d, inner, isQuote, by simp⟩
  · rintro ⟨quote, inner, isQuote, rfl⟩
    have single := utf8EncodeChar_quote isQuote
    refine ⟨by simp [single], UInt8.ofNat quote.toNat, ?_, by simp [single], ?_⟩
    · rcases isQuote with rfl | rfl
      · exact .inl rfl
      · exact .inr rfl
    · rw [List.flatMap_append, List.flatMap_singleton, single, List.getLast?_concat]

theorem stripQuotes?_eq_some_iff {s inner : List Char} : stripQuotes? s = some inner ↔
    ∃ quote, (quote = '\'' ∨ quote = '"') ∧ s = quote :: inner ++ [quote] := by
  constructor
  · intro stripped
    cases s with
    | nil => contradiction
    | cons quote rest =>
      rw [stripQuotes?] at stripped
      split at stripped
      next quotes =>
        obtain ⟨isQuote, last⟩ := quotes
        obtain ⟨inside, rfl⟩ := List.getLast?_eq_some_iff.1 last
        obtain rfl : inside = inner := by simpa using stripped
        exact ⟨quote, isQuote, rfl⟩
      next => contradiction
  · rintro ⟨quote, isQuote, rfl⟩
    simp [stripQuotes?, isQuote]

theorem stripQuotes?_eq_none_iff {s : List Char} : stripQuotes? s = none ↔ ¬ Quoted s := by
  rw [← Option.not_isSome_iff_eq_none, Option.isSome_iff_exists, quoted_iff]
  simp only [stripQuotes?_eq_some_iff]
  rw [exists_comm]

theorem coerceText_of_quoted {s : String} (quoted : Quoted s.toList) :
    coerceText s = .text (String.ofList s.toList.tail.dropLast) := by
  obtain ⟨quote, inner, isQuote, parts⟩ := quoted_iff.1 quoted
  rw [coerceText, stripQuotes?_eq_some_iff.2 ⟨quote, isQuote, parts⟩, parts]
  simp

theorem coerceText_eq_number_iff {s : String} {n : Float} : coerceText s = .number n ↔
    ¬ Quoted s.toList ∧ Denotes (trim s.toList) n ∧ isFinite n := by
  rw [← stripQuotes?_eq_none_iff, ← decimalNumber?_eq_some_iff, coerceText]
  split
  next inner stripped => simp [stripped]
  next bare =>
    rw [bare]
    cases decimalNumber? s.toList <;> simp

theorem numeric?_text_eq_some_iff {s : String} {n : Float} :
    Value.numeric? (.text s) = some n ↔ coerceText s = .number n := by
  rw [Value.numeric?, Value.coerce_text]
  cases coerceText s <;> simp

theorem numeric?_text_eq_none {s t : String} (text : coerceText s = .text t) :
    Value.numeric? (.text s) = none := by
  rw [Value.numeric?, Value.coerce_text, text]

/-- A text in quotes is what they hold. Another text whose trimmed form is a decimal is the number
nearest to it, if that is finite, and all else is itself. The aggregates take the second kind for
numbers. The characters that are looked at first let every decimal pass, and no name. -/
theorem coerceText_cases (s : String) :
    ((Quoted s.toList ∧ coerceText s = .text (String.ofList s.toList.tail.dropLast) ∧
        Value.numeric? (.text s) = none) ∨
      (¬ Quoted s.toList ∧ ∃ n, trim s.toList ∈ decimalShape.matches' ∧
        (∀ m, Denotes (trim s.toList) m ↔ m = n) ∧ isFinite n ∧ coerceText s = .number n ∧
        Value.numeric? (.text s) = some n) ∨
      (¬ Quoted s.toList ∧ (trim s.toList ∉ decimalShape.matches' ∨
          ∃ n, Denotes (trim s.toList) n ∧ ¬ isFinite n) ∧
        coerceText s = .text s ∧ Value.numeric? (.text s) = none)) ∧
    (∀ written ∈ decimalShape.matches', written ≠ [] ∧ written.all isDecimalChar) ∧
    ∀ written, written.all isDecimalChar → readName? written = none := by
  refine ⟨?_, fun written => all_isDecimalChar, fun written => readName?_eq_none⟩
  by_cases quoted : Quoted s.toList
  · have inside := coerceText_of_quoted quoted
    exact .inl ⟨quoted, inside, numeric?_text_eq_none inside⟩
  by_cases spelled : ∃ n, Denotes (trim s.toList) n ∧ isFinite n
  · obtain ⟨n, denotes, finite⟩ := spelled
    have number := coerceText_eq_number_iff.2 ⟨quoted, denotes, finite⟩
    refine .inr (.inl ⟨quoted, n, denotes.mem_decimalShape, fun m => ⟨fun other => ?_, ?_⟩, finite,
      number, numeric?_text_eq_some_iff.2 number⟩)
    · exact other.unique denotes
    · rintro rfl
      exact denotes
  · have itself : coerceText s = .text s := by
      have unread : decimalNumber? s.toList = none := by
        refine Option.eq_none_iff_forall_ne_some.2 fun n read => spelled ?_
        exact ⟨n, decimalNumber?_eq_some_iff.1 read⟩
      rw [coerceText, stripQuotes?_eq_none_iff.2 quoted, unread]
    refine .inr (.inr ⟨quoted, ?_, itself, numeric?_text_eq_none itself⟩)
    by_cases shape : trim s.toList ∈ decimalShape.matches'
    · obtain ⟨n, denotes⟩ := exists_denotes shape
      exact .inr ⟨n, denotes, fun finite => spelled ⟨n, denotes, finite⟩⟩
    · exact .inl shape

example : coerceText "'5'" = .text "5" ∧ coerceText " +1.5e3\t" = .number 1500 ∧
    coerceText "1e400" = .text "1e400" ∧ coerceText "-inf" = .text "-inf" := by decide +kernel

end TableQuery
