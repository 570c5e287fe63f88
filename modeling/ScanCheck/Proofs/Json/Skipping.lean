import ScanCheck.Json.Skip
import ScanCheck.Proofs.Json.WellFormed

namespace ScanCheck.Json

theorem skipString_unit {first second third fourth : UInt8} {unit : Nat}
    (digits : hexUnit first second third fourth = some unit) (rest : Bytes) :
    skipString (92 :: 117 :: first :: second :: third :: fourth :: rest) = skipString rest := by
  rw [skipString.eq_def]
  simp [digits]

theorem skipString_append {text : Bytes} (escaped : Escaped text) (rest : Bytes) :
    skipString (text ++ 34 :: rest) = .ok rest := by
  induction escaped with
  | nil =>
      rw [List.nil_append, skipString.eq_def]
      rfl
  | plain plain others ih =>
      obtain ⟨quote, backslash, control⟩ := plain
      rw [List.cons_append, skipString.eq_def]
      simp only [if_neg quote, if_neg backslash, if_neg control, ih]
  | @short letter meant text short others ih =>
      have other : letter ≠ 117 := by
        rintro rfl
        cases short
      rw [List.cons_append, List.cons_append, skipString.eq_def]
      simp [other, short, ih]
  | unit digits others ih =>
      simp only [List.cons_append]
      rw [skipString_unit digits, ih]

theorem skipDigits_append {row rest : Bytes} (digits : Digits row) (ends : ∀ byte ∈ rest.head?, isDigit byte = false) :
    skipDigits (row ++ rest) = .ok rest := by
  obtain ⟨first, others, rfl⟩ := List.exists_cons_of_ne_nil digits.1
  obtain ⟨digit, behind⟩ := List.forall_mem_cons.mp digits.2
  rw [List.cons_append, skipDigits, if_pos digit, afterDigits_append behind ends]

theorem skipExponent_append {text rest : Bytes} {exponent : Option Int} (written : ExponentText text exponent)
    (delimited : Delimited rest) : skipExponent (text ++ rest) = .ok rest := by
  cases written with
  | absent =>
      cases rest with
      | nil => rfl
      | cons byte rest => rw [List.nil_append, skipExponent, if_neg (delimited.noPower byte rfl)]
  | power power signed digits =>
      rw [List.cons_append, List.append_assoc, skipExponent, if_pos power, exponentSign_append signed digits]
      exact skipDigits_append digits delimited.noDigit

theorem skipFraction_append {fractionText exponentText rest : Bytes} {fraction : Option (List Nat)}
    {exponent : Option Int} (fractionWritten : FractionText fractionText fraction)
    (exponentWritten : ExponentText exponentText exponent) (delimited : Delimited rest) :
    skipFraction (fractionText ++ (exponentText ++ rest)) = .ok rest := by
  have behind := skipExponent_append exponentWritten delimited
  have marks := exponentWritten.separates delimited
  cases fractionWritten with
  | absent =>
      rw [List.nil_append]
      generalize exponentText ++ rest = bytes at behind marks
      cases bytes with
      | nil => exact behind
      | cons byte bytes => rw [skipFraction, if_neg (marks byte rfl).2, behind]
  | places digits =>
      rw [List.cons_append, skipFraction, if_pos rfl]
      rw [skipDigits_append digits fun byte first => (marks byte first).1]
      exact behind

theorem skipNumber_append {text rest : Bytes} (numeric : Numeric text) (delimited : Delimited rest) :
    skipNumber (text ++ rest) = .ok rest := by
  obtain @⟨wholeText, fractionText, exponentText, _, _, _, wholeWritten, fractionWritten, exponentWritten⟩ := numeric
  have behind := skipFraction_append fractionWritten exponentWritten delimited
  have ends := fractionWritten.separates fun byte first => (exponentWritten.separates delimited byte first).1
  rw [List.append_assoc, List.append_assoc]
  generalize fractionText ++ (exponentText ++ rest) = tail at behind ends
  cases wholeWritten with
  | zero =>
      cases tail with
      | nil => exact behind
      | cons next tail =>
          change (if isDigit next then _ else skipFraction (next :: tail)) = _
          rw [if_neg (by simp [ends next rfl]), behind]
  | row leads digits =>
      obtain ⟨digit, others⟩ := List.forall_mem_cons.mp digits
      rw [List.cons_append, skipNumber.eq_def]
      simp only [if_neg leads, digit, if_true, afterDigits_append others ends, behind]

/-- A text is passed over by so many rounds at most, whatever stands around it. -/
def Skips (text : Bytes) : Prop :=
  ∃ cost ≤ 2 * text.length, ∀ rounds frames gap rest, Blank gap → Delimited rest →
    skipFrom (rounds + cost) .before frames (gap ++ (text ++ rest)) = skipFrom rounds .behind frames rest

/-- The text of an item or a member is passed over in its collection. -/
structure Passes (frame : Frame) (text : Bytes) : Prop where
  begins : ∃ byte tail, text = byte :: tail ∧ isBlank byte = false ∧ byte ≠ frame.closing
  passes : ∃ cost ≤ 2 * text.length, ∀ rounds frames gap rest, Blank gap → Delimited rest →
    (frame.next (gap ++ (text ++ rest)) >>= skipFrom (rounds + cost) .before frames) =
      skipFrom rounds .behind frames rest

theorem Skips.item {text : Bytes} (skips : Skips text) (begins : Begins text) : Passes .array text := ⟨begins, skips⟩

theorem NamedText.passes {value text : Bytes} (named : NamedText value text) (skips : Skips value) :
    Passes .object text := by
  obtain ⟨escaped, blank, innerBlank⟩ := named
  obtain ⟨cost, bound, passes⟩ := skips
  refine ⟨⟨34, _, rfl, rfl, by decide⟩, cost, ?_, ?_⟩
  · simp only [List.length_cons, List.length_append]
    omega
  · intro rounds frames outer rest outerBlank delimited
    simp only [List.cons_append, List.append_assoc, Frame.next,
      skipBlanks_gap outerBlank (show isBlank 34 = false from rfl),
      skipString_append escaped, bind, Except.bind, skipBlanks_gap blank (show isBlank 58 = false from rfl), if_true]
    exact passes rounds frames _ rest innerBlank delimited

section Collections

variable {α : Type} {frame : Frame} {entry : α → Bytes → Prop} {values : List α} {text : Bytes}
  (passes : ∀ value ∈ values, ∀ text, entry value text → Passes frame text)

include passes

theorem skipFrom_listed (listed : Listed entry frame.closing values text) :
    ∃ cost ≤ 2 * text.length, ∀ rounds frames rest,
      skipFrom (rounds + cost) .behind (frame :: frames) (text ++ rest) = skipFrom rounds .behind frames rest := by
  have visible : isBlank frame.closing = false := by cases frame <;> rfl
  have mark : continuesNumber frame.closing = false := by cases frame <;> rfl
  induction listed with
  | @close gap blank =>
      refine ⟨1, ?_, fun rounds frames rest => ?_⟩
      · simp
        omega
      · rw [List.append_assoc, List.singleton_append, skipFrom, skipBlanks_gap blank visible]
        simp
  | @next value values gap inner text others blank innerBlank written listed ih =>
      obtain ⟨-, cost, bound, passed⟩ := passes value List.mem_cons_self _ written
      obtain ⟨more, moreBound, behind⟩ := ih fun other member => passes other (List.mem_cons_of_mem _ member)
      have comma : (44 : UInt8) ≠ frame.closing := by cases frame <;> decide
      refine ⟨more + cost + 1, ?_, fun rounds frames rest => ?_⟩
      · simp only [List.length_append, List.length_cons]
        omega
      · have step := passed (rounds + more) (frame :: frames) inner (others ++ rest) innerBlank
          (listed.delimited mark rest)
        rw [← Nat.add_assoc, List.append_assoc, List.cons_append, skipFrom, skipBlanks_gap blank (by rfl)]
        simp only [if_neg comma, if_true, List.append_assoc]
        rw [← Nat.add_assoc, step, behind]

theorem skipFrom_enclosed (enclosed : Enclosed entry frame.closing values text) :
    ∃ cost ≤ 2 * text.length + 1, ∀ rounds frames rest,
      skipFrom (rounds + cost) .inside (frame :: frames) (text ++ rest) = skipFrom rounds .behind frames rest := by
  have visible : isBlank frame.closing = false := by cases frame <;> rfl
  have mark : continuesNumber frame.closing = false := by cases frame <;> rfl
  cases enclosed with
  | empty blank =>
      refine ⟨1, ?_, fun rounds frames rest => ?_⟩
      · simp
      · rw [List.append_assoc, List.singleton_append, skipFrom, skipBlanks_gap blank visible]
        simp
  | @filled value values gap text others blank written listed =>
      obtain ⟨⟨byte, tail, opened, shown, other⟩, cost, bound, passed⟩ := passes value List.mem_cons_self _ written
      obtain ⟨more, moreBound, behind⟩ := skipFrom_listed
        (fun other member => passes other (List.mem_cons_of_mem _ member)) listed
      refine ⟨more + cost + 1, ?_, fun rounds frames rest => ?_⟩
      · simp only [opened, List.length_append, List.length_cons] at bound ⊢
        omega
      · have step := passed (rounds + more) (frame :: frames) [] (others ++ rest) blank_nil (listed.delimited mark rest)
        rw [List.nil_append, opened, List.cons_append] at step
        rw [← Nat.add_assoc, List.append_assoc, List.append_assoc, opened, List.cons_append, skipFrom,
          skipBlanks_gap blank shown]
        simp only [if_neg other]
        rw [← Nat.add_assoc, step, behind]

end Collections

/-- A scalar takes one round. -/
theorem skips_scalar {text : Bytes} {byte : UInt8} {tail : Bytes} (opened : text = byte :: tail)
    (passed : ∀ rounds frames gap rest, Blank gap → Delimited rest →
      skipFrom (rounds + 1) .before frames (gap ++ (text ++ rest)) = skipFrom rounds .behind frames rest) :
    Skips text := by
  refine ⟨1, ?_, passed⟩
  simp only [opened, List.length_cons]
  omega

theorem WellFormed.skips {text : Bytes} (wellFormed : WellFormed text) : Skips text := by
  induction wellFormed with
  | null | yes | no =>
      refine skips_scalar rfl fun rounds frames gap rest blank delimited => ?_
      rw [List.cons_append, skipFrom, skipBlanks_gap blank rfl]
      simp [expectWord_append, bind, Except.bind]
  | negative numeric =>
      refine skips_scalar rfl fun rounds frames gap rest blank delimited => ?_
      rw [List.cons_append, skipFrom, skipBlanks_gap blank rfl]
      simp [skipNumber_append numeric delimited, bind, Except.bind]
  | positive numeric =>
      obtain ⟨byte, tail, opened, digit⟩ := numeric.leads
      obtain ⟨visible, -, -⟩ := isDigit_visible digit
      refine skips_scalar opened fun rounds frames gap rest blank delimited => ?_
      have passed := skipNumber_append numeric delimited
      rw [opened, List.cons_append] at passed
      rw [opened, List.cons_append, skipFrom, skipBlanks_gap blank visible]
      simp [ne_of_isDigit 110 digit rfl, ne_of_isDigit 116 digit rfl, ne_of_isDigit 102 digit rfl,
        ne_of_isDigit 45 digit rfl, digit, passed, bind, Except.bind]
  | text escaped =>
      refine skips_scalar rfl fun rounds frames gap rest blank delimited => ?_
      rw [List.cons_append, skipFrom, skipBlanks_gap blank rfl, List.append_assoc, List.singleton_append]
      simp [isDigit, skipString_append escaped, bind, Except.bind]
  | @array items inner enclosed each ih =>
      have passes : ∀ item ∈ items, ∀ text, item = text → Passes .array text := by
        intro item member text same
        exact same ▸ (ih item member).item (each item member).begins
      obtain ⟨cost, bound, passed⟩ := skipFrom_enclosed passes enclosed
      refine ⟨cost + 1, by rw [List.length_cons]; omega, fun rounds frames gap rest blank delimited => ?_⟩
      rw [← Nat.add_assoc, List.cons_append, skipFrom, skipBlanks_gap blank rfl]
      simp [isDigit, passed]
  | @object values inner enclosed each ih =>
      have passes : ∀ value ∈ values, ∀ text, NamedText value text → Passes .object text := by
        intro value member text named
        exact named.passes (ih value member)
      obtain ⟨cost, bound, passed⟩ := skipFrom_enclosed passes enclosed
      refine ⟨cost + 1, by rw [List.length_cons]; omega, fun rounds frames gap rest blank delimited => ?_⟩
      rw [← Nat.add_assoc, List.cons_append, skipFrom, skipBlanks_gap blank rfl]
      simp [isDigit, passed]

/-- A value that nobody asks for is passed over, and what follows it stays. -/
theorem skipValue_append {text : Bytes} (wellFormed : WellFormed text) {gap rest : Bytes} (blank : Blank gap)
    (delimited : Delimited rest) : skipValue (gap ++ (text ++ rest)) = .ok rest := by
  obtain ⟨cost, bound, skipped⟩ := wellFormed.skips
  obtain ⟨rounds, enough⟩ : ∃ rounds, 2 * (gap ++ (text ++ rest)).length + 2 = rounds + 1 + cost := by
    refine ⟨2 * (gap ++ (text ++ rest)).length + 1 - cost, ?_⟩
    simp only [List.length_append]
    omega
  rw [skipValue, enough, skipped _ _ _ _ blank delimited, skipFrom]

end ScanCheck.Json
