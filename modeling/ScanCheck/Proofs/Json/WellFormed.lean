import ScanCheck.Proofs.Json.Trees

namespace ScanCheck.Json

/-- What may stand between two quotes. -/
inductive Escaped : Bytes → Prop
  | nil : Escaped []
  | plain {byte : UInt8} {text : Bytes} (plain : IsPlain byte) (others : Escaped text) : Escaped (byte :: text)
  | short {letter meant : UInt8} {text : Bytes} (short : shortEscape letter = some meant) (others : Escaped text) :
      Escaped (92 :: letter :: text)
  | unit {first second third fourth : UInt8} {text : Bytes} {unit : Nat}
      (digits : hexUnit first second third fourth = some unit) (others : Escaped text) :
      Escaped (92 :: 117 :: first :: second :: third :: fourth :: text)

/-- A number behind its sign. -/
inductive Numeric : Bytes → Prop
  | parts {wholeText fractionText exponentText : Bytes} {whole : List Nat} {fraction : Option (List Nat)}
      {exponent : Option Int} (wholeWritten : WholeText wholeText whole)
      (fractionWritten : FractionText fractionText fraction) (exponentWritten : ExponentText exponentText exponent) :
      Numeric (wholeText ++ (fractionText ++ exponentText))

/-- A member under some name, and the text of its value. -/
inductive NamedText : Bytes → Bytes → Prop
  | named {nameText gap inner value : Bytes} (escaped : Escaped nameText) (blank : Blank gap)
      (innerBlank : Blank inner) : NamedText value (34 :: (nameText ++ 34 :: (gap ++ 58 :: (inner ++ value))))

inductive WellFormed : Bytes → Prop
  | null : WellFormed (110 :: nullTail)
  | yes : WellFormed (116 :: trueTail)
  | no : WellFormed (102 :: falseTail)
  | negative {text : Bytes} (numeric : Numeric text) : WellFormed (45 :: text)
  | positive {text : Bytes} (numeric : Numeric text) : WellFormed text
  | text {text : Bytes} (escaped : Escaped text) : WellFormed (34 :: (text ++ [34]))
  | array {items : List Bytes} {inner : Bytes} (enclosed : Enclosed Eq 93 items inner)
      (each : ∀ item ∈ items, WellFormed item) : WellFormed (91 :: inner)
  | object {values : List Bytes} {inner : Bytes} (enclosed : Enclosed NamedText 125 values inner)
      (each : ∀ value ∈ values, WellFormed value) : WellFormed (123 :: inner)

theorem Numeric.leads {text : Bytes} (numeric : Numeric text) :
    ∃ byte tail, text = byte :: tail ∧ isDigit byte = true := by
  obtain ⟨whole, -, -⟩ := numeric
  exact whole.leads _

theorem WellFormed.begins {text : Bytes} (wellFormed : WellFormed text) : Begins text := by
  cases wellFormed with
  | null | yes | no | negative | text | array | object => exact ⟨_, _, rfl, rfl, by decide⟩
  | positive numeric =>
      obtain ⟨byte, tail, opened, digit⟩ := numeric.leads
      obtain ⟨visible, inside, -⟩ := isDigit_visible digit
      exact ⟨byte, tail, opened, visible, inside⟩

theorem Characters.escaped {text contents : Bytes} (written : Characters text contents) : Escaped text := by
  induction written with
  | nil => exact .nil
  | plain plain others ih => exact .plain plain ih
  | short short others ih => exact .short short ih
  | unit digits notLow notHigh others ih => exact .unit digits ih
  | pair digits isHigh others isLow behind ih => exact .unit digits (.unit others ih)

theorem Quotes.escaped {text : Bytes} {value : String} (quotes : Quotes text value) : Escaped text := by
  obtain ⟨contents, written, -⟩ := quotes
  exact written.escaped

theorem NumberText.numeric {negative : Bool} {text : Bytes} {number : Number}
    (written : NumberText negative text number) : Numeric text := by
  obtain ⟨wholeWritten, fractionWritten, exponentWritten, -⟩ := written
  exact .parts wholeWritten fractionWritten exponentWritten

theorem MemberText.namedText {α : Type} {entry : α → Bytes → Prop} {member : String × α} {text : Bytes}
    (written : MemberText entry member text) : ∃ value, NamedText value text ∧ entry member.2 value := by
  obtain ⟨quotes, blank, innerBlank, written⟩ := written
  exact ⟨_, .named quotes.escaped blank innerBlank, written⟩

theorem SpellsWith.wellFormed {nested : Option (Json → Bytes → Prop)}
    (within : ∀ entry, nested = some entry → ∀ tree text, entry tree text → WellFormed text) {tree : Json}
    {text : Bytes} (spells : SpellsWith nested tree text) : WellFormed text := by
  cases spells with
  | null => exact .null
  | yes => exact .yes
  | no => exact .no
  | negative written => exact .negative written.numeric
  | positive written => exact .positive written.numeric
  | text quotes => exact .text quotes.escaped
  | array known enclosed =>
      obtain ⟨items, itemsEnclosed, each⟩ := enclosed.restate fun tree text spells =>
        ⟨text, rfl, within _ known tree text spells⟩
      exact .array itemsEnclosed each
  | object known enclosed =>
      obtain ⟨values, valuesEnclosed, each⟩ := enclosed.restate fun member text written => by
        obtain ⟨value, named, spells⟩ := written.namedText
        exact ⟨value, named, within _ known member.2 value spells⟩
      exact .object valuesEnclosed each

theorem Spells.wellFormed {depth : Nat} {tree : Json} {text : Bytes} (spells : Spells depth tree text) :
    WellFormed text := by
  induction depth generalizing tree text with
  | zero => exact SpellsWith.wellFormed (fun entry known => by cases known) spells
  | succ depth ih =>
      refine SpellsWith.wellFormed (fun entry known tree text spells => ?_) spells
      cases known
      exact ih spells

end ScanCheck.Json
