import ScanCheck.Json.Skip
import ScanCheck.Proofs.Json.Numbers

namespace ScanCheck.Json

theorem exists_of_bind {ε α β : Type} {first : Except ε α} {next : α → Except ε β} {result : β}
    (done : first >>= next = .ok result) : ∃ value, first = .ok value ∧ next value = .ok result := by
  cases first with
  | error fault => cases done
  | ok value => exact ⟨value, rfl, done⟩

def Blank (gap : Bytes) : Prop := ∀ byte ∈ gap, isBlank byte = true

theorem blank_nil : Blank [] := fun _ member => absurd member List.not_mem_nil

theorem Blank.append {first second : Bytes} (blank : Blank first) (other : Blank second) : Blank (first ++ second) :=
  fun byte member => (List.mem_append.mp member).elim (blank byte) (other byte)

theorem skipBlanks_append {gap : Bytes} (blank : Blank gap) (rest : Bytes) :
    skipBlanks (gap ++ rest) = skipBlanks rest :=
  List.dropWhile_append_of_pos blank

theorem skipBlanks_gap {gap : Bytes} (blank : Blank gap) {byte : UInt8} (visible : isBlank byte = false)
    (rest : Bytes) : skipBlanks (gap ++ byte :: rest) = byte :: rest := by
  rw [skipBlanks_append blank, skipBlanks_cons byte visible]

theorem exists_gap (bytes : Bytes) : ∃ gap, Blank gap ∧ bytes = gap ++ skipBlanks bytes := by
  have blank : (bytes.takeWhile isBlank).all isBlank = true := List.all_takeWhile
  exact ⟨bytes.takeWhile isBlank, List.all_eq_true.mp blank, List.takeWhile_append_dropWhile.symm⟩

theorem expectWord_append (word rest : Bytes) : expectWord word (word ++ rest) = .ok rest := by
  induction word with
  | nil => rfl
  | cons byte word ih =>
      rw [List.cons_append, expectWord, if_pos rfl]
      exact ih

theorem expectWord_sound {word bytes rest : Bytes} (read : expectWord word bytes = .ok rest) :
    bytes = word ++ rest := by
  induction word generalizing bytes with
  | nil =>
      cases read
      rfl
  | cons expected word ih =>
      cases bytes with
      | nil => cases read
      | cons byte bytes =>
          rw [expectWord] at read
          split at read
          · rename_i same
            rw [same, ih read, List.cons_append]
          · cases read

def Digits (row : Bytes) : Prop := row ≠ [] ∧ ∀ byte ∈ row, isDigit byte = true

/-- The digits before the point. A zero leads only if it stands alone. -/
inductive WholeText : Bytes → List Nat → Prop
  | zero : WholeText [48] [0]
  | row {first : UInt8} {others : Bytes} (leads : first ≠ 48) (digits : ∀ byte ∈ first :: others, isDigit byte = true) :
      WholeText (first :: others) (rowDigits (first :: others))

inductive FractionText : Bytes → Option (List Nat) → Prop
  | absent : FractionText [] none
  | places {row : Bytes} (digits : Digits row) : FractionText (46 :: row) (some (rowDigits row))

inductive SignText : Bytes → Bool → Prop
  | absent : SignText [] false
  | plus : SignText [43] false
  | minus : SignText [45] true

def signedPower (negative : Bool) (row : List Nat) : Int :=
  let magnitude : Int := (row.foldl (fun total digit => total * 10 + digit) 0 : Nat)
  if negative then -magnitude else magnitude

inductive ExponentText : Bytes → Option Int → Prop
  | absent : ExponentText [] none
  | power {letter : UInt8} {sign row : Bytes} {negative : Bool} (power : letter = 101 ∨ letter = 69)
      (signed : SignText sign negative) (digits : Digits row) :
      ExponentText (letter :: (sign ++ row)) (some (signedPower negative (rowDigits row)))

/-- A number behind its sign. One that is too large for a double has no text. -/
inductive NumberText (negative : Bool) : Bytes → Number → Prop
  | parts {wholeText fractionText exponentText : Bytes} {whole : List Nat} {fraction : Option (List Nat)}
      {exponent : Option Int} {number : Number} (wholeWritten : WholeText wholeText whole)
      (fractionWritten : FractionText fractionText fraction) (exponentWritten : ExponentText exponentText exponent)
      (value : Numeral.value? { negative, whole, fraction, exponent } = some number) :
      NumberText negative (wholeText ++ (fractionText ++ exponentText)) number

theorem wholeText_digits (number : Nat) :
    WholeText (Utf8.encode (Decimal.digits number)) (digitValues (Decimal.digits number)) := by
  have values := rowDigits_encode (Decimal.isDigit_digits number)
  have digits := isDigit_encode (Decimal.isDigit_digits number)
  obtain ⟨byte, tail, encoded, -, zero⟩ := encode_digits number
  rw [encoded] at values digits ⊢
  rw [← values]
  by_cases lead : byte = 48
  · obtain ⟨-, rfl⟩ := zero lead
    subst lead
    exact .zero
  · exact .row lead digits

section Delimited

variable {rest : Bytes} (delimited : Delimited rest)

include delimited

theorem Delimited.noDigit : ∀ byte ∈ rest.head?, isDigit byte = false := by
  intro byte first
  have mark := delimited byte first
  simp only [continuesNumber, Bool.or_eq_false_iff] at mark
  exact mark.1.1.1

theorem Delimited.noPoint : ∀ byte ∈ rest.head?, byte ≠ 46 := by
  intro byte first
  have mark := delimited byte first
  simp only [continuesNumber, Bool.or_eq_false_iff, beq_eq_false_iff_ne] at mark
  exact mark.1.1.2

theorem Delimited.noPower : ∀ byte ∈ rest.head?, ¬ (byte = 101 ∨ byte = 69) := by
  intro byte first
  have mark := delimited byte first
  simp only [continuesNumber, Bool.or_eq_false_iff, beq_eq_false_iff_ne] at mark
  exact fun letter => letter.elim mark.1.2 mark.2

end Delimited

theorem exists_row (bytes : Bytes) : ∃ row, (∀ byte ∈ row, isDigit byte = true) ∧
    bytes = row ++ afterDigits bytes ∧ leadingDigits bytes = rowDigits row :=
  ⟨bytes.takeWhile isDigit, List.all_eq_true.mp List.all_takeWhile, List.takeWhile_append_dropWhile.symm, rfl⟩

theorem ne_of_isDigit {byte : UInt8} (other : UInt8) (digit : isDigit byte = true) (mark : isDigit other = false) :
    byte ≠ other := by
  rintro rfl
  rw [digit] at mark
  cases mark

theorem wholePart_append {text rest : Bytes} {whole : List Nat} (written : WholeText text whole)
    (ends : ∀ byte ∈ rest.head?, isDigit byte = false) : wholePart (text ++ rest) = .ok (whole, rest) := by
  cases written with
  | zero =>
      cases rest with
      | nil => rfl
      | cons next rest =>
          change (if isDigit next then _ else _) = _
          rw [if_neg (by simp [ends next rfl])]
          rfl
  | row leads digits =>
      have row := leadingDigits_append digits ends
      have behind := afterDigits_append digits ends
      rw [List.cons_append] at row behind ⊢
      simp only [wholePart, if_neg leads, digits _ List.mem_cons_self, if_true, row, behind]

theorem wholePart_sound {bytes rest : Bytes} {whole : List Nat} (read : wholePart bytes = .ok (whole, rest)) :
    ∃ text, bytes = text ++ rest ∧ WholeText text whole := by
  unfold wholePart at read
  split at read
  · cases read
  · rename_i first others
    split at read
    · rename_i zero
      subst zero
      split at read
      · cases read
        exact ⟨[48], rfl, .zero⟩
      · split at read
        · cases read
        · cases read
          exact ⟨[48], rfl, .zero⟩
    · rename_i leads
      split at read
      · rename_i digit
        cases read
        obtain ⟨row, digits, split, value⟩ := exists_row others
        have behind : afterDigits (first :: others) = afterDigits others := by simp [afterDigits, digit]
        have values : leadingDigits (first :: others) = rowDigits (first :: row) := by
          rw [rowDigits, List.map_cons, ← rowDigits, ← value]
          simp [leadingDigits, digit]
        refine ⟨first :: row, by rw [behind, List.cons_append, ← split], values ▸ .row leads ?_⟩
        exact List.forall_mem_cons.mpr ⟨digit, digits⟩
      · cases read

theorem leadingDigits_ne_nil {row rest : Bytes} (digits : Digits row)
    (ends : ∀ byte ∈ rest.head?, isDigit byte = false) : leadingDigits (row ++ rest) ≠ [] := by
  rw [leadingDigits_append digits.2 ends]
  exact fun empty => digits.1 (List.map_eq_nil_iff.mp empty)

theorem fractionPart_append {text rest : Bytes} {fraction : Option (List Nat)}
    (written : FractionText text fraction) (ends : ∀ byte ∈ rest.head?, isDigit byte = false)
    (point : ∀ byte ∈ rest.head?, byte ≠ 46) : fractionPart (text ++ rest) = .ok (fraction, rest) := by
  cases written with
  | absent =>
      rw [List.nil_append]
      unfold fractionPart
      split
      · exact absurd rfl (point 46 rfl)
      · rfl
  | @places row digits =>
      have values := leadingDigits_append digits.2 ends
      have some := leadingDigits_ne_nil digits ends
      rw [List.cons_append]
      unfold fractionPart
      split
      · rename_i same
        cases same
        split
        · exact absurd ‹_› some
        · exact absurd ‹_› some
        · rw [afterDigits_append digits.2 ends, values]
      · rename_i other
        exact absurd rfl (other _)

theorem WholeText.leads {text : Bytes} {whole : List Nat} (written : WholeText text whole) (rest : Bytes) :
    ∃ byte tail, text ++ rest = byte :: tail ∧ isDigit byte = true := by
  cases written with
  | zero => exact ⟨48, rest, rfl, rfl⟩
  | row leads digits => exact ⟨_, _, rfl, digits _ List.mem_cons_self⟩

/-- What is left of the three ways in which a row of digits can turn out: there is a digit in front. -/
theorem exists_digits {bytes : Bytes} (notEnded : leadingDigits bytes = [] → bytes = [] → False)
    (notMalformed : ∀ head tail, leadingDigits bytes = [] → bytes = head :: tail → False) :
    ∃ row, Digits row ∧ bytes = row ++ afterDigits bytes ∧ leadingDigits bytes = rowDigits row := by
  obtain ⟨row, digits, split, value⟩ := exists_row bytes
  refine ⟨row, ⟨?_, digits⟩, split, value⟩
  rintro rfl
  cases bytes with
  | nil => exact notEnded value rfl
  | cons head tail => exact notMalformed head tail value rfl

theorem fractionPart_sound {bytes rest : Bytes} {fraction : Option (List Nat)}
    (read : fractionPart bytes = .ok (fraction, rest)) :
    ∃ text, bytes = text ++ rest ∧ FractionText text fraction := by
  unfold fractionPart at read
  split at read
  · split at read
    · cases read
    · cases read
    · rename_i notEnded notMalformed
      obtain ⟨row, digits, split, value⟩ := exists_digits notEnded notMalformed
      cases read
      exact ⟨46 :: row, by rw [List.cons_append, ← split], value ▸ .places digits⟩
  · cases read
    exact ⟨[], rfl, .absent⟩

theorem exponentSign_append {sign row rest : Bytes} {negative : Bool} (signed : SignText sign negative)
    (digits : Digits row) : exponentSign (sign ++ (row ++ rest)) = (negative, row ++ rest) := by
  cases signed with
  | absent =>
      obtain ⟨first, others, rfl⟩ := List.exists_cons_of_ne_nil digits.1
      have digit := digits.2 first List.mem_cons_self
      rw [List.nil_append, List.cons_append]
      unfold exponentSign
      split
      · rename_i same
        cases same
        cases digit
      · rename_i same
        cases same
        cases digit
      · rfl
  | plus => rfl
  | minus => rfl

theorem exponentSign_sound (bytes : Bytes) :
    ∃ sign, bytes = sign ++ (exponentSign bytes).2 ∧ SignText sign (exponentSign bytes).1 := by
  unfold exponentSign
  split
  · exact ⟨[43], rfl, .plus⟩
  · exact ⟨[45], rfl, .minus⟩
  · exact ⟨[], rfl, .absent⟩

theorem exponentPart_append {text rest : Bytes} {exponent : Option Int} (written : ExponentText text exponent)
    (ends : ∀ byte ∈ rest.head?, isDigit byte = false)
    (letter : ∀ byte ∈ rest.head?, ¬ (byte = 101 ∨ byte = 69)) :
    exponentPart (text ++ rest) = .ok (exponent, rest) := by
  cases written with
  | absent =>
      rw [List.nil_append]
      cases rest with
      | nil => rfl
      | cons byte rest => rw [exponentPart, if_neg (letter byte rfl)]
  | @power mark sign row negative power signed digits =>
      have some := leadingDigits_ne_nil digits ends
      rw [List.cons_append, List.append_assoc, exponentPart, if_pos power, exponentSign_append signed digits]
      dsimp only
      split
      · exact absurd ‹_› some
      · exact absurd ‹_› some
      · rw [afterDigits_append digits.2 ends, leadingDigits_append digits.2 ends, signedPower]

theorem exponentPart_sound {bytes rest : Bytes} {exponent : Option Int}
    (read : exponentPart bytes = .ok (exponent, rest)) :
    ∃ text, bytes = text ++ rest ∧ ExponentText text exponent := by
  unfold exponentPart at read
  split at read
  · cases read
    exact ⟨[], rfl, .absent⟩
  · rename_i letter others
    split at read
    · rename_i power
      obtain ⟨sign, signSplit, signed⟩ := exponentSign_sound others
      split at read
      rename_i negative behind same
      rw [same] at signSplit signed
      split at read
      · cases read
      · cases read
      · rename_i notEnded notMalformed
        obtain ⟨row, digits, split, value⟩ := exists_digits notEnded notMalformed
        cases read
        refine ⟨letter :: (sign ++ row), ?_, ?_⟩
        · rw [List.cons_append, List.append_assoc, ← split]
          exact congrArg _ signSplit
        · rw [value]
          exact .power power signed digits
    · cases read
      exact ⟨[], rfl, .absent⟩

/-- Neither an exponent nor what follows a number goes on with the digits in front of it. -/
theorem ExponentText.separates {text rest : Bytes} {exponent : Option Int} (written : ExponentText text exponent)
    (delimited : Delimited rest) : ∀ byte ∈ (text ++ rest).head?, isDigit byte = false ∧ byte ≠ 46 := by
  intro byte first
  cases written with
  | absent => exact ⟨delimited.noDigit byte first, delimited.noPoint byte first⟩
  | power power signed digits =>
      cases first
      rcases power with rfl | rfl <;> decide

theorem FractionText.separates {text rest : Bytes} {fraction : Option (List Nat)}
    (written : FractionText text fraction) (ends : ∀ byte ∈ rest.head?, isDigit byte = false) :
    ∀ byte ∈ (text ++ rest).head?, isDigit byte = false := by
  intro byte first
  cases written with
  | absent => exact ends byte first
  | places digits =>
      cases first
      rfl

theorem numberTail_append {negative : Bool} {text rest : Bytes} {number : Number}
    (written : NumberText negative text number) (delimited : Delimited rest) :
    numberTail negative (text ++ rest) = .ok (number, rest) := by
  obtain ⟨wholeWritten, fractionWritten, exponentWritten, value⟩ := written
  have behind := exponentWritten.separates delimited
  have noDigit := fun byte first => (behind byte first).1
  have whole := wholePart_append wholeWritten (fractionWritten.separates noDigit)
  have fraction := fractionPart_append fractionWritten noDigit fun byte first => (behind byte first).2
  have exponent := exponentPart_append exponentWritten delimited.noDigit delimited.noPower
  simp only [numberTail, List.append_assoc, whole, fraction, exponent, bind, Except.bind, value]

/-- The digits of a natural number are the text of the number, or of its negative. -/
theorem numberText_digits {negative : Bool} {number : Nat} (nonzero : negative = true → number ≠ 0)
    (integral : Number.IsIntegral (if negative then -(number : Int) else number)) :
    NumberText negative (Utf8.encode (Decimal.digits number))
      (.integer (if negative then -(number : Int) else number)) := by
  have value : Nat.ofDigitChars 10 (Decimal.digits number) 0 = number := Nat.ofDigitChars_ten_toDigits
  have fits : number < 0x10000000000000000 := by
    unfold Number.IsIntegral at integral
    cases negative <;> simp at integral <;> omega
  have whole := accumulate_digitValues (value.symm ▸ fits)
  rw [value] at whole
  have one : Number.IsIntegral (if negative then -(number : Int) else number) ∧ ¬ (negative = true ∧ number = 0) :=
    ⟨integral, fun zero => nonzero zero.1 zero.2⟩
  rw [← List.append_nil (Utf8.encode _)]
  refine .parts (wholeText_digits number) .absent .absent ?_
  simp only [Numeral.value?, whole, if_true, if_pos one]

theorem numberTail_digits (number : Nat) {rest : Bytes} (delimited : Delimited rest)
    (fits : number < 0x10000000000000000) :
    numberTail false (Utf8.encode (Decimal.digits number) ++ rest) = .ok (.integer number, rest) :=
  numberTail_append (numberText_digits (by simp) ⟨by simp, Int.ofNat_lt.mpr fits⟩) delimited

theorem numberTail_sound {negative : Bool} {bytes rest : Bytes} {number : Number}
    (read : numberTail negative bytes = .ok (number, rest)) :
    ∃ text, bytes = text ++ rest ∧ NumberText negative text number := by
  unfold numberTail at read
  obtain ⟨⟨whole, behindWhole⟩, wholeRead, afterWhole⟩ := exists_of_bind read
  obtain ⟨⟨fraction, behindFraction⟩, fractionRead, afterFraction⟩ := exists_of_bind afterWhole
  obtain ⟨⟨exponent, behind⟩, exponentRead, afterExponent⟩ := exists_of_bind afterFraction
  obtain ⟨wholeText, rfl, wholeWritten⟩ := wholePart_sound wholeRead
  obtain ⟨fractionText, rfl, fractionWritten⟩ := fractionPart_sound fractionRead
  obtain ⟨exponentText, rfl, exponentWritten⟩ := exponentPart_sound exponentRead
  dsimp only at afterExponent
  split at afterExponent
  · rename_i value
    cases afterExponent
    refine ⟨_, ?_, .parts wholeWritten fractionWritten exponentWritten value⟩
    rw [List.append_assoc, List.append_assoc]
  · cases afterExponent

/-- What may stand between two quotes, and the bytes that it stands for. -/
inductive Characters : Bytes → Bytes → Prop
  | nil : Characters [] []
  | plain {byte : UInt8} {text contents : Bytes} (plain : IsPlain byte) (others : Characters text contents) :
      Characters (byte :: text) (byte :: contents)
  | short {letter meant : UInt8} {text contents : Bytes} (short : shortEscape letter = some meant)
      (others : Characters text contents) : Characters (92 :: letter :: text) (meant :: contents)
  | unit {first second third fourth : UInt8} {text contents : Bytes} {unit : Nat}
      (digits : hexUnit first second third fourth = some unit) (notLow : isLowSurrogate unit = false)
      (notHigh : isHighSurrogate unit = false) (others : Characters text contents) :
      Characters (92 :: 117 :: first :: second :: third :: fourth :: text)
        (Utf8.encode [Char.ofNat unit] ++ contents)
  | pair {first second third fourth fifth sixth seventh eighth : UInt8} {text contents : Bytes} {high low : Nat}
      (digits : hexUnit first second third fourth = some high) (isHigh : isHighSurrogate high = true)
      (others : hexUnit fifth sixth seventh eighth = some low) (isLow : isLowSurrogate low = true)
      (behind : Characters text contents) :
      Characters (92 :: 117 :: first :: second :: third :: fourth :: 92 :: 117 :: fifth :: sixth :: seventh ::
        eighth :: text) (Utf8.encode [Char.ofNat (pairCode high low)] ++ contents)

theorem isLowSurrogate_of_high {unit : Nat} (high : isHighSurrogate unit = true) : isLowSurrogate unit = false := by
  simp only [isHighSurrogate, isLowSurrogate, Bool.and_eq_true, decide_eq_true_eq, Bool.and_eq_false_iff,
    decide_eq_false_iff_not] at *
  omega

theorem stringContents_append {text contents : Bytes} (written : Characters text contents) (rest : Bytes) :
    stringContents (text ++ 34 :: rest) = .ok (contents, rest) := by
  induction written with
  | nil => rw [List.nil_append, stringContents.eq_def]; rfl
  | plain plain others ih =>
      have read := stringContents_plain (List.forall_mem_singleton.mpr plain)
      rw [List.cons_append, ← List.singleton_append, read, ih]
      rfl
  | short short others ih =>
      rw [List.cons_append, List.cons_append, stringContents_short _ short, ih]
      rfl
  | unit digits notLow notHigh others ih =>
      simp only [List.cons_append]
      rw [stringContents.eq_def]
      simp [digits, notLow, notHigh, ih, prependBytes]
  | pair digits isHigh others isLow behind ih =>
      have notLow := isLowSurrogate_of_high isHigh
      simp only [List.cons_append]
      rw [stringContents.eq_def]
      simp [digits, notLow, isHigh, others, isLow, ih, prependBytes]

theorem prependBytes_ok {front contents rest : Bytes} {read : Except Fault (Bytes × Bytes)}
    (done : prependBytes front read = .ok (contents, rest)) :
    ∃ others, read = .ok (others, rest) ∧ contents = front ++ others := by
  cases read with
  | error fault => cases done
  | ok read =>
      cases done
      exact ⟨read.1, rfl, rfl⟩

/-- The cases are those of the reader; all but five of them find a fault. -/
theorem stringContents_sound {bytes contents rest : Bytes} (read : stringContents bytes = .ok (contents, rest)) :
    ∃ text, bytes = text ++ 34 :: rest ∧ Characters text contents := by
  fun_induction stringContents bytes generalizing contents with
  | case2 =>
      cases read
      exact ⟨[], rfl, .nil⟩
  | case11 first second third fourth high digits notLow isHigh backslash isBackslash letter isLetter fifth sixth
      seventh eighth others low more isLow _ ih =>
      obtain ⟨contents, behind, whole⟩ := prependBytes_ok read
      obtain ⟨text, rfl, written⟩ := ih behind
      rw [whole, Decidable.not_not.mp isBackslash, Decidable.not_not.mp isLetter]
      exact ⟨_, rfl, .pair digits isHigh more isLow written⟩
  | case14 first second third fourth others unit digits notLow notHigh _ ih =>
      obtain ⟨contents, behind, rfl⟩ := prependBytes_ok read
      obtain ⟨text, rfl, written⟩ := ih behind
      exact ⟨_, rfl, .unit digits (Bool.eq_false_iff.mpr notLow) (Bool.eq_false_iff.mpr notHigh) written⟩
  | case16 letter others notUnit meant short _ ih =>
      obtain ⟨contents, behind, rfl⟩ := prependBytes_ok read
      obtain ⟨text, rfl, written⟩ := ih behind
      exact ⟨_, rfl, .short short written⟩
  | case19 byte others quote backslash control ih =>
      obtain ⟨contents, behind, rfl⟩ := prependBytes_ok read
      obtain ⟨text, rfl, written⟩ := ih behind
      exact ⟨_, rfl, .plain ⟨quote, backslash, control⟩ written⟩
  | _ => cases read

/-- What stands between the quotes of a string. Its contents are UTF-8. -/
def Quotes (text : Bytes) (value : String) : Prop :=
  ∃ contents, Characters text contents ∧ contents.text? = some value

theorem stringTail_append {text : Bytes} {value : String} (quotes : Quotes text value) (rest : Bytes) :
    stringTail (text ++ 34 :: rest) = .ok (value, rest) := by
  obtain ⟨contents, written, decoded⟩ := quotes
  simp only [stringTail, stringContents_append written, decoded]

theorem stringTail_sound {bytes rest : Bytes} {value : String} (read : stringTail bytes = .ok (value, rest)) :
    ∃ text, bytes = text ++ 34 :: rest ∧ Quotes text value := by
  unfold stringTail at read
  split at read
  · cases read
  · rename_i contents behind inside
    obtain ⟨text, rfl, written⟩ := stringContents_sound inside
    split at read
    · rename_i decoded
      cases read
      exact ⟨text, rfl, contents, written, decoded⟩
    · cases read

theorem quotes_quoted (text : String) : Quotes (Utf8.encode (text.toList.flatMap quoteChar)) text := by
  obtain ⟨inner, split, quotes⟩ := stringTail_sound (stringTail_quoted text [])
  exact (List.append_inj_left' split rfl).symm ▸ quotes

end ScanCheck.Json
