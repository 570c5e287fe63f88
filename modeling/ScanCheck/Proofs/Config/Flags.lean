import ScanCheck.Proofs.Config.Delays
import ScanCheck.Proofs.Config.Reach
import ScanCheck.Proofs.Text.AsciiCase

namespace ScanCheck

open Text (SameLetters Trimmed WhiteSpace)

namespace Overrides

/-- The words that tell to leave certificates unverified, and those that tell to verify them. -/
def spellings : Bool → List String
  | true => ["1", "true", "yes", "on"]
  | false => ["0", "false", "no", "off", ""]

/-- What is left of a text without the white space at its ends has the letters of a word for the flag. -/
def Spelled (given : String) (flag : Bool) : Prop :=
  ∃ inner, Trimmed given.toList inner ∧ ∃ word ∈ spellings flag, SameLetters inner word.toList

theorem folded_spellings : ∀ flag, ∀ word ∈ spellings flag, word.toList.map Text.foldAscii = word.toList := by
  decide +kernel

theorem visible_spellings {flag : Bool} {word : String} (member : word ∈ spellings flag) :
    ∀ char ∈ word.toList, Text.isBlank char = false ∧ char.toNat < 128 := by
  have shown : ∀ flag, ∀ word ∈ spellings flag,
      (word.toList.all fun char => !Text.isBlank char && decide (char.toNat < 128)) = true := by
    decide +kernel
  intro char inside
  simpa using List.all_eq_true.mp (shown flag word member) char inside

theorem ofList_mem_spellings_iff {inner : List Char} {flag : Bool} :
    String.ofList (inner.map Text.foldAscii) ∈ spellings flag ↔
      ∃ word ∈ spellings flag, SameLetters inner word.toList := by
  constructor
  · intro member
    refine ⟨_, member, ?_⟩
    have folded := folded_spellings flag _ member
    rw [String.toList_ofList] at folded ⊢
    exact Text.map_foldAscii_eq_iff.mp folded.symm
  · intro spelled
    obtain ⟨word, member, same⟩ := spelled
    have folded := Text.map_foldAscii_eq_iff.mpr same
    rw [folded_spellings flag word member] at folded
    rwa [folded, String.ofList_toList]

theorem spelled_iff {given : String} {flag : Bool} : Spelled given flag ↔ WritesFlag given flag := by
  have words : flagWords flag = spellings flag := by cases flag <;> rfl
  simp only [Spelled, WritesFlag, words, ofList_mem_spellings_iff]

section Spelled

variable {given other : String} {flag : Bool}

theorem Spelled.unique {another : Bool} (first : Spelled given flag) (second : Spelled given another) :
    flag = another := by
  have read := readFlag?_eq_some_iff.mpr (spelled_iff.mp first)
  rw [readFlag?_eq_some_iff.mpr (spelled_iff.mp second)] at read
  exact (Option.some.inj read).symm

theorem spelled_iff_trim : Spelled given flag ↔
    ∃ word ∈ spellings flag, SameLetters (Text.trim given.toList) word.toList := by
  simp only [Spelled, ← Text.trim_eq_iff, exists_eq_left']

theorem spelled_padded {before after : List Char} (blankBefore : ∀ char ∈ before, WhiteSpace char)
    (blankAfter : ∀ char ∈ after, WhiteSpace char) :
    Spelled (String.ofList (before ++ given.toList ++ after)) flag ↔ Spelled given flag := by
  have trimmed := Text.trim_padded
    (fun char member => Text.isBlank_iff_whiteSpace.mpr (blankBefore char member))
    (fun char member => Text.isBlank_iff_whiteSpace.mpr (blankAfter char member)) given.toList
  rw [spelled_iff_trim, spelled_iff_trim, String.toList_ofList, trimmed]

theorem spelled_recased (same : SameLetters given.toList other.toList) : Spelled other flag ↔ Spelled given flag := by
  simp only [spelled_iff_trim, same.trim.congr_left]

/-- What is left of a word for a flag holds neither white space nor characters outside ASCII. -/
theorem Spelled.visible (spelled : Spelled given flag) :
    ∀ char ∈ Text.trim given.toList, Text.isBlank char = false ∧ char.toNat < 128 := by
  intro char member
  obtain ⟨word, listed, same⟩ := spelled_iff_trim.mp spelled
  obtain ⟨letter, inside, variant⟩ := same.exists_of_mem member
  obtain ⟨visible, ascii⟩ := visible_spellings listed letter inside
  refine ⟨variant.isBlank_eq.trans visible, Nat.lt_of_not_le fun wide => ?_⟩
  rw [variant.eq_of_wide (.inl wide)] at wide
  omega

theorem not_spelled_of_inside {front back : List Char} {char left right : Char}
    (whole : given.toList = front ++ char :: back) (blank : WhiteSpace char) (inFront : left ∈ front)
    (leftVisible : ¬WhiteSpace left) (behind : right ∈ back) (rightVisible : ¬WhiteSpace right) :
    ¬Spelled given flag := by
  intro spelled
  have kept : char ∈ Text.trim given.toList := by
    rw [whole]
    apply Text.mem_trim_of_between inFront _ behind
    · exact Bool.eq_false_iff.mpr (mt Text.isBlank_iff_whiteSpace.mp rightVisible)
    · exact Bool.eq_false_iff.mpr (mt Text.isBlank_iff_whiteSpace.mp leftVisible)
  have visible := (spelled.visible char kept).1
  rw [Text.isBlank_iff_whiteSpace.mpr blank] at visible
  cases visible

theorem not_spelled_of_wide {char : Char} (member : char ∈ given.toList) (wide : 128 ≤ char.toNat)
    (visible : ¬WhiteSpace char) : ¬Spelled given flag := by
  intro spelled
  have shown : Text.isBlank char = false := Bool.eq_false_iff.mpr (mt Text.isBlank_iff_whiteSpace.mp visible)
  have narrow := (spelled.visible char (Text.mem_trim_of_visible member shown)).2
  omega

end Spelled

end Overrides

/-- The texts of a lookup, and a text for the flag. -/
def Lookup.flagged (lookup : Lookup) (given : String) : Lookup :=
  (Lookup.only "SCAN_HARNESS_INSECURE" given).over lookup

/-- Both are accepted or both refused, and both leave the same. -/
structure Overridden.Alike (left right : Overridden) : Prop where
  config : left.config = right.config
  accepted : left.verdict = .ok () ↔ right.verdict = .ok ()

namespace HarnessConfig

open Overrides

variable (config : HarnessConfig) (lookup : Lookup)

/-- What a text for the flag adds to what the other overrides come to. -/
inductive FlagCourse (others : Overridden) (given : String) : Overridden → Prop
  | unread (refused : others.verdict ≠ .ok ()) : FlagCourse others given others
  | refused (accepted : others.verdict = .ok ()) (senseless : ∀ flag, ¬Spelled given flag) :
      FlagCourse others given ⟨others.config, .error (.invalid (.notAFlag given))⟩
  | accepted {flag : Bool} (accepted : others.verdict = .ok ()) (spelled : Spelled given flag) :
      FlagCourse others given ⟨{ others.config with insecureSkipVerify := flag }, .ok ()⟩

theorem flagged_other (given : String) {name : String} (other : name ≠ "SCAN_HARNESS_INSECURE") :
    lookup.flagged given name = lookup.without "SCAN_HARNESS_INSECURE" name := by
  simp only [Lookup.flagged, Lookup.over, Lookup.only, Lookup.without, if_neg other, Option.none_or]

theorem flagged_insecure (given : String) : lookup.flagged given insecureName = some given := rfl

/-- The flag is read behind everything else, so a refusal of the others comes first. -/
theorem flagCourse (given : String) :
    FlagCourse (config.applyOverrides (lookup.without "SCAN_HARNESS_INSECURE")) given
      (config.applyOverrides (lookup.flagged given)) := by
  have names : config.overrideNames (lookup.flagged given) =
      config.overrideNames (lookup.without "SCAN_HARNESS_INSECURE") := by
    rw [overrideNames, flagged_other lookup given (by decide), flagged_other lookup given (by decide)]
    rfl
  have delay : lookup.flagged given delayName = lookup.without "SCAN_HARNESS_INSECURE" delayName :=
    flagged_other lookup given (by decide)
  have course := config.applyOverrides_course (lookup.without "SCAN_HARNESS_INSECURE")
  generalize config.applyOverrides (lookup.without "SCAN_HARNESS_INSECURE") = others at course
  cases course with
  | delayRefused found senseless =>
      rw [applyOverrides_of_course (.delayRefused (delay.trans found) senseless), names]
      apply FlagCourse.unread
      intro accepted
      cases accepted
  | flagRefused delays found senseless => cases found
  | @accepted milliseconds flag delays flags =>
      rw [← delay] at delays
      obtain rfl : config.insecureSkipVerify = flag := by cases flags; rfl
      by_cases sense : ∃ flag, Spelled given flag
      · obtain ⟨flag, spelled⟩ := sense
        have flags : Adopted WritesFlag config.insecureSkipVerify (lookup.flagged given insecureName) flag :=
          .read (spelled_iff.mp spelled)
        rw [applyOverrides_of_course (.accepted delays flags), names]
        exact .accepted rfl spelled
      · have senseless := not_exists.mp sense
        have unwritten : ∀ flag, ¬WritesFlag given flag := fun flag => mt spelled_iff.mpr (senseless flag)
        rw [applyOverrides_of_course (.flagRefused delays (flagged_insecure lookup given) unwritten), names]
        exact .refused rfl senseless

theorem flagged_congr {given other : String} (same : ∀ flag, Spelled other flag ↔ Spelled given flag) :
    (config.applyOverrides (lookup.flagged other)).Alike (config.applyOverrides (lookup.flagged given)) := by
  have first := config.flagCourse lookup other
  have second := config.flagCourse lookup given
  generalize config.applyOverrides (lookup.without "SCAN_HARNESS_INSECURE") = others at first second
  generalize config.applyOverrides (lookup.flagged given) = left at second
  generalize config.applyOverrides (lookup.flagged other) = right at first
  cases second with
  | unread refused =>
      cases first with
      | unread => exact ⟨rfl, Iff.rfl⟩
      | refused accepted => exact absurd accepted refused
      | accepted accepted => exact absurd accepted refused
  | refused accepted senseless =>
      cases first with
      | unread refused => exact absurd accepted refused
      | refused => exact ⟨rfl, iff_of_false nofun nofun⟩
      | accepted _ spelled => exact absurd ((same _).mp spelled) (senseless _)
  | accepted accepted spelled =>
      cases first with
      | unread refused => exact absurd accepted refused
      | refused _ senseless => exact absurd ((same _).mpr spelled) (senseless _)
      | accepted _ again =>
          obtain rfl := spelled.unique ((same _).mp again)
          exact ⟨rfl, Iff.rfl⟩

/-- What a text for the flag comes to, next to what the other overrides of a lookup come to. -/
structure Flags (config : HarnessConfig) (lookup : Lookup) (given : String) (others left : Overridden) : Prop where
  /-- The other overrides do not reach the flag, and if one of them is refused, nobody reads the text. -/
  stored : others.config.insecureSkipVerify = config.insecureSkipVerify
  unread : others.verdict ≠ .ok () → left = others
  accepted_iff : others.verdict = .ok () → ∀ flag,
    left = ⟨{ others.config with insecureSkipVerify := flag }, .ok ()⟩ ↔ Spelled given flag
  refused : others.verdict = .ok () → (∀ flag, ¬Spelled given flag) →
    left.config = others.config ∧ ∃ error, left.verdict = .error error ∧ error.message =
      "invalid configuration: SCAN_HARNESS_INSECURE: not a boolean: " ++ Text.quoted given
  once : ¬(Spelled given true ∧ Spelled given false)
  disabled : left.config.insecureSkipVerify = true → config.insecureSkipVerify = true ∨ Spelled given true
  padded : ∀ before after, (∀ char ∈ before, WhiteSpace char) → (∀ char ∈ after, WhiteSpace char) →
    (config.applyOverrides (lookup.flagged (String.ofList (before ++ given.toList ++ after)))).Alike left
  recased : ∀ other : String, SameLetters given.toList other.toList →
    (config.applyOverrides (lookup.flagged other)).Alike left
  inside : ∀ front char back, given.toList = front ++ char :: back → WhiteSpace char →
    (∃ left ∈ front, ¬WhiteSpace left) → (∃ right ∈ back, ¬WhiteSpace right) → ∀ flag, ¬Spelled given flag
  wide : ∀ char ∈ given.toList, 128 ≤ char.toNat → ¬WhiteSpace char → ∀ flag, ¬Spelled given flag

/-- A text for the flag is accepted exactly if it is a word for the flag, up to the case of ASCII letters and the
white space at its ends, and then for the flag of that word; any other text is refused and leaves the flag alone. No
text is a word for both, and only a word for unverified certificates takes the verification away. -/
theorem flags_settle (config : HarnessConfig) (lookup : Lookup) (given : String) :
    Flags config lookup given (config.applyOverrides (lookup.without "SCAN_HARNESS_INSECURE"))
      (config.applyOverrides (lookup.flagged given)) := by
  have course := config.flagCourse lookup given
  have stored : (config.applyOverrides (lookup.without "SCAN_HARNESS_INSECURE")).config.insecureSkipVerify =
      config.insecureSkipVerify := by
    have others := config.applyOverrides_course (lookup.without "SCAN_HARNESS_INSECURE")
    generalize config.applyOverrides (lookup.without "SCAN_HARNESS_INSECURE") = left at others
    cases others with
    | delayRefused => rfl
    | flagRefused => rfl
    | accepted delays flags => cases flags; rfl
  refine { stored, unread := ?unread, accepted_iff := ?accepted_iff, refused := ?refused, once := ?once,
           disabled := ?disabled, padded := ?padded, recased := ?recased, inside := ?inside, wide := ?wide }
  case unread =>
    intro refused
    generalize config.applyOverrides (lookup.flagged given) = left at course
    cases course with
    | unread => rfl
    | refused accepted => exact absurd accepted refused
    | accepted accepted => exact absurd accepted refused
  case accepted_iff =>
    intro accepted flag
    generalize config.applyOverrides (lookup.flagged given) = left at course
    cases course with
    | unread refused => exact absurd accepted refused
    | refused _ senseless =>
        refine iff_of_false ?_ (senseless flag)
        intro same
        cases congrArg Overridden.verdict same
    | @accepted read _ spelled =>
        constructor
        · intro same
          have flags := congrArg (fun left : Overridden => left.config.insecureSkipVerify) same
          obtain rfl : read = flag := flags
          exact spelled
        · intro again
          rw [spelled.unique again]
  case refused =>
    intro accepted senseless
    generalize config.applyOverrides (lookup.flagged given) = left at course
    cases course with
    | unread refused => exact absurd accepted refused
    | refused => exact ⟨rfl, _, rfl, notAFlag_message given⟩
    | accepted _ spelled => exact absurd spelled (senseless _)
  case once =>
    intro both
    cases both.1.unique both.2
  case disabled =>
    intro disabled
    generalize config.applyOverrides (lookup.flagged given) = left at course disabled
    cases course with
    | unread => exact .inl (stored.symm.trans disabled)
    | refused => exact .inl (stored.symm.trans disabled)
    | @accepted flag _ spelled =>
        obtain rfl : flag = true := disabled
        exact .inr spelled
  case padded =>
    intro before after blankBefore blankAfter
    apply config.flagged_congr lookup
    exact fun flag => spelled_padded blankBefore blankAfter
  case recased =>
    intro other same
    apply config.flagged_congr lookup
    exact fun flag => spelled_recased same
  case inside =>
    intro front char back whole blank first last flag
    obtain ⟨left, inFront, leftVisible⟩ := first
    obtain ⟨right, behind, rightVisible⟩ := last
    exact not_spelled_of_inside whole blank inFront leftVisible behind rightVisible
  case wide => exact fun char member wide visible flag => not_spelled_of_wide member wide visible

end HarnessConfig

end ScanCheck
