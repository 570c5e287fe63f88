import ScanCheck.Proofs.Json.Grammar

namespace ScanCheck.Json

variable {α β σ : Type}

/-- What stands behind an entry. A comma is followed by another entry. -/
inductive Listed (entry : α → Bytes → Prop) (closing : UInt8) : List α → Bytes → Prop
  | close {gap : Bytes} (blank : Blank gap) : Listed entry closing [] (gap ++ [closing])
  | next {value : α} {values : List α} {gap inner text rest : Bytes} (blank : Blank gap) (innerBlank : Blank inner)
      (written : entry value text) (others : Listed entry closing values rest) :
      Listed entry closing (value :: values) (gap ++ 44 :: (inner ++ (text ++ rest)))

/-- What stands behind an opening mark. -/
inductive Enclosed (entry : α → Bytes → Prop) (closing : UInt8) : List α → Bytes → Prop
  | empty {gap : Bytes} (blank : Blank gap) : Enclosed entry closing [] (gap ++ [closing])
  | filled {value : α} {values : List α} {gap text rest : Bytes} (blank : Blank gap) (written : entry value text)
      (others : Listed entry closing values rest) : Enclosed entry closing (value :: values) (gap ++ (text ++ rest))

inductive MemberText (entry : α → Bytes → Prop) : String × α → Bytes → Prop
  | named {name : String} {value : α} {nameText gap inner text : Bytes} (quotes : Quotes nameText name)
      (blank : Blank gap) (innerBlank : Blank inner) (written : entry value text) :
      MemberText entry (name, value) (34 :: (nameText ++ 34 :: (gap ++ 58 :: (inner ++ text))))

theorem MemberText.mono {entry other : α → Bytes → Prop} (weaker : ∀ value text, entry value text → other value text)
    (member : String × α) (text : Bytes) (written : MemberText entry member text) : MemberText other member text := by
  obtain ⟨quotes, blank, innerBlank, written⟩ := written
  exact .named quotes blank innerBlank (weaker _ _ written)

/-- A text that can neither be passed over as a blank nor end an array. -/
def Begins (text : Bytes) : Prop := ∃ byte tail, text = byte :: tail ∧ isBlank byte = false ∧ byte ≠ 93

theorem MemberText.begins {entry : α → Bytes → Prop} {member : String × α} {text : Bytes}
    (written : MemberText entry member text) : Begins text := by
  cases written
  exact ⟨34, _, rfl, rfl, by decide⟩

theorem continuesNumber_of_isBlank {byte : UInt8} (blank : isBlank byte = true) : continuesNumber byte = false := by
  simp only [isBlank, Bool.or_eq_true, beq_iff_eq] at blank
  obtain ((rfl | rfl) | rfl) | rfl := blank <;> rfl

theorem Blank.delimited {gap : Bytes} (blank : Blank gap) : Delimited gap :=
  fun byte first => continuesNumber_of_isBlank (blank byte (List.mem_of_mem_head? first))

theorem Blank.delimited_append {gap : Bytes} (blank : Blank gap) {byte : UInt8} (mark : continuesNumber byte = false)
    (rest : Bytes) : Delimited (gap ++ byte :: rest) := by
  cases gap with
  | nil => exact delimited_cons mark rest
  | cons first gap => exact delimited_cons (continuesNumber_of_isBlank (blank first List.mem_cons_self)) _

section Listed

variable {entry : α → Bytes → Prop} {closing : UInt8} {values : List α} {text : Bytes}

theorem Listed.delimited (listed : Listed entry closing values text) (mark : continuesNumber closing = false)
    (rest : Bytes) : Delimited (text ++ rest) := by
  cases listed with
  | close blank =>
      rw [List.append_assoc]
      exact blank.delimited_append mark rest
  | next blank innerBlank written others =>
      rw [List.append_assoc]
      exact blank.delimited_append rfl _

theorem Listed.mono (listed : Listed entry closing values text) {other : α → Bytes → Prop}
    (weaker : ∀ value text, entry value text → other value text) : Listed other closing values text := by
  induction listed with
  | close blank => exact .close blank
  | next blank innerBlank written others ih => exact .next blank innerBlank (weaker _ _ written) ih

theorem Enclosed.mono (enclosed : Enclosed entry closing values text) {other : α → Bytes → Prop}
    (weaker : ∀ value text, entry value text → other value text) : Enclosed other closing values text := by
  cases enclosed with
  | empty blank => exact .empty blank
  | filled blank written others => exact .filled blank (weaker _ _ written) (others.mono weaker)

theorem Listed.restate (listed : Listed entry closing values text) {other : β → Bytes → Prop} {good : β → Prop}
    (each : ∀ value text, entry value text → ∃ changed, other changed text ∧ good changed) :
    ∃ changed, Listed other closing changed text ∧ ∀ value ∈ changed, good value := by
  induction listed with
  | close blank => exact ⟨[], .close blank, fun value member => absurd member List.not_mem_nil⟩
  | next blank innerBlank written others ih =>
      obtain ⟨changed, own, ownGood⟩ := each _ _ written
      obtain ⟨behind, listed, good⟩ := ih
      exact ⟨changed :: behind, .next blank innerBlank own listed, List.forall_mem_cons.mpr ⟨ownGood, good⟩⟩

/-- The same text, with its entries taken for something else. -/
theorem Enclosed.restate (enclosed : Enclosed entry closing values text) {other : β → Bytes → Prop} {good : β → Prop}
    (each : ∀ value text, entry value text → ∃ changed, other changed text ∧ good changed) :
    ∃ changed, Enclosed other closing changed text ∧ ∀ value ∈ changed, good value := by
  cases enclosed with
  | empty blank => exact ⟨[], .empty blank, fun value member => absurd member List.not_mem_nil⟩
  | filled blank written others =>
      obtain ⟨changed, own, ownGood⟩ := each _ _ written
      obtain ⟨behind, listed, good⟩ := others.restate each
      exact ⟨changed :: behind, .filled blank own listed, List.forall_mem_cons.mpr ⟨ownGood, good⟩⟩

theorem Listed.map {items : List β} {change : β → α}
    (listed : Listed (fun item => entry (change item)) closing items text) :
    Listed entry closing (items.map change) text := by
  induction listed with
  | close blank => exact .close blank
  | next blank innerBlank written others ih => exact .next blank innerBlank written ih

theorem Enclosed.map {items : List β} {change : β → α}
    (enclosed : Enclosed (fun item => entry (change item)) closing items text) :
    Enclosed entry closing (items.map change) text := by
  cases enclosed with
  | empty blank => exact .empty blank
  | filled blank written others => exact .filled blank written others.map

/-- Every entry behind the first one has its comma, and there is the closing mark. -/
theorem Listed.length_lt (listed : Listed entry closing values text) : values.length < text.length := by
  induction listed with
  | close blank => simp
  | next blank innerBlank written others ih =>
      simp only [List.length_append, List.length_cons]
      omega

end Listed

/-- The text that is printed for a value, and no other. -/
def Prints (print : α → List Char) (value : α) (text : Bytes) : Prop := text = Utf8.encode (print value)

section Separated

variable {entry : α → Bytes → Prop} {values : List α} {print : α → List Char}
  (written : ∀ value ∈ values, entry value (Utf8.encode (print value)))

include written

theorem listed_separated {closing : UInt8} :
    Listed entry closing values (Utf8.encode (separated (values.map print)) ++ [closing]) := by
  induction values with
  | nil => exact .close blank_nil
  | cons value values ih =>
      obtain ⟨own, others⟩ := List.forall_mem_cons.mp written
      rw [List.map_cons, encode_separated_cons, List.cons_append, List.append_assoc]
      exact @Listed.next _ _ _ value values [] [] _ _ blank_nil blank_nil own (ih others)

theorem enclosed_commas {closing : UInt8} :
    Enclosed entry closing values (Utf8.encode (commas (values.map print)) ++ [closing]) := by
  cases values with
  | nil => exact .empty blank_nil
  | cons value values =>
      obtain ⟨own, others⟩ := List.forall_mem_cons.mp written
      rw [List.map_cons, commas_cons, Utf8.encode_append, List.append_assoc]
      exact @Enclosed.filled _ _ _ value values [] _ _ blank_nil own (listed_separated others)

end Separated

theorem memberText_encode {entry : α → Bytes → Prop} {value : α} {text : List Char}
    (written : entry value (Utf8.encode text)) (name : String) :
    MemberText entry (name, value) (Utf8.encode (memberText (name, text))) := by
  rw [encode_memberText]
  exact .named (quotes_quoted name) blank_nil blank_nil written

/-- Whatever stands around a text, a reader makes the same of it. -/
def Yields (reader : Reader β) (text : Bytes) (outcome : Except Fault β) : Prop :=
  ∀ gap rest, Blank gap → Delimited rest → reader (gap ++ (text ++ rest)) = outcome.map (·, rest)

/-- Whatever a reader accepts is a text of something, blanks in front of it aside. -/
def Sound (reader : Reader β) (entry : α → Bytes → Prop) (meaning : α → β) : Prop :=
  ∀ bytes value rest, reader bytes = .ok (value, rest) →
    ∃ gap tree text, bytes = gap ++ (text ++ rest) ∧ Blank gap ∧ entry tree text ∧ value = meaning tree

theorem Yields.front {reader : Reader β} {text : Bytes} {outcome : Except Fault β}
    (yields : Yields reader text outcome) {rest : Bytes} (delimited : Delimited rest) :
    reader (text ++ rest) = outcome.map (·, rest) :=
  yields [] rest blank_nil delimited

theorem Yields.map {reader : Reader α} {text : Bytes} {outcome : Except Fault α} (yields : Yields reader text outcome)
    (change : α → β) : Yields (reader.map change) text (outcome.map change) := by
  intro gap rest blank delimited
  rw [Reader.map, yields gap rest blank delimited]
  cases outcome <;> rfl

theorem readAll_yields {reader : Reader α} {text before after : Bytes} {outcome : Except Fault α}
    (yields : Yields reader text outcome) (blank : Blank before) (behind : Blank after) :
    readAll reader (before ++ (text ++ after)) = outcome := by
  have ends : skipBlanks after = [] := by
    rw [← List.append_nil after, skipBlanks_append behind]
    rfl
  rw [readAll, yields before after blank behind.delimited]
  cases outcome with
  | error fault => rfl
  | ok result => simp [Except.map, bind, Except.bind, ends]

section Items

variable {item : Reader β} {entry : α → Bytes → Prop} {outcome : α → Except Fault β} {values : List α} {text : Bytes}
  (begins : ∀ value text, entry value text → Begins text)
  (yields : ∀ value ∈ values, ∀ text, entry value text → Yields item text (outcome value))

include begins yields

theorem itemsAfter_listed (listed : Listed entry 93 values text) {rounds : Nat} (enough : values.length < rounds)
    (rest : Bytes) : itemsAfter item rounds (text ++ rest) = (values.mapM outcome).map (·, rest) := by
  induction listed generalizing rounds with
  | close blank =>
      obtain ⟨rounds, rfl⟩ : ∃ fewer, rounds = fewer + 1 := ⟨rounds - 1, by omega⟩
      rw [List.append_assoc, itemsAfter, List.singleton_append, skipBlanks_gap blank rfl]
      rfl
  | @next value values gap inner text others blank innerBlank written listed ih =>
      obtain ⟨rounds, rfl⟩ : ∃ fewer, rounds = fewer + 1 := ⟨rounds - 1, by omega⟩
      obtain ⟨byte, tail, front, visible, inside⟩ := begins _ _ written
      have first := (yields value List.mem_cons_self _ written).front (listed.delimited rfl rest)
      have behind := ih (fun other member => yields other (List.mem_cons_of_mem _ member))
        (show values.length < rounds by rw [List.length_cons] at enough; omega)
      rw [front, List.cons_append] at first
      simp only [List.append_assoc, List.cons_append, itemsAfter,
        skipBlanks_gap blank (show isBlank 44 = false from rfl), front, skipBlanks_gap innerBlank visible,
        if_neg inside, first, List.mapM_cons]
      cases outcome value with
      | error fault => rfl
      | ok result =>
          simp only [Except.map, bind, Except.bind, behind]
          cases values.mapM outcome <;> rfl

theorem items_enclosed (enclosed : Enclosed entry 93 values text) (rest : Bytes) :
    items item (text ++ rest) = (values.mapM outcome).map (·, rest) := by
  cases enclosed with
  | empty blank =>
      rw [List.append_assoc, items, List.singleton_append, skipBlanks_gap blank rfl]
      rfl
  | @filled value values gap text others blank written listed =>
      obtain ⟨byte, tail, front, visible, inside⟩ := begins _ _ written
      have first := (yields value List.mem_cons_self _ written).front (listed.delimited rfl rest)
      have enough : values.length < (others ++ rest).length := by
        have shorter := listed.length_lt
        rw [List.length_append]
        omega
      have behind := itemsAfter_listed begins
        (fun other member => yields other (List.mem_cons_of_mem _ member)) listed enough rest
      rw [front, List.cons_append] at first
      simp only [List.append_assoc, items, front, List.cons_append, skipBlanks_gap blank visible, if_neg inside, first,
        List.mapM_cons]
      cases outcome value with
      | error fault => rfl
      | ok result =>
          simp only [Except.map, bind, Except.bind, behind]
          cases values.mapM outcome <;> rfl

end Items

/-- Printed values are read one by one if each of them is. -/
theorem items_commas {item : Reader β} {print : α → List Char} {meaning : α → β}
    (begins : ∀ value, Begins (Utf8.encode (print value)))
    (reads : ∀ value, Yields item (Utf8.encode (print value)) (.ok (meaning value))) (values : List α) (rest : Bytes) :
    items item (Utf8.encode (commas (values.map print)) ++ [93] ++ rest) = .ok (values.map meaning, rest) := by
  have enclosed : Enclosed (Prints print) 93 values (Utf8.encode (commas (values.map print)) ++ [93]) := by
    refine enclosed_commas fun value _ => ?_
    rfl
  have all : values.mapM (fun value => (.ok (meaning value) : Except Fault β)) = .ok (values.map meaning) :=
    List.mapM_pure
  rw [items_enclosed ?begins ?reads enclosed rest, all]
  · rfl
  case begins =>
    rintro value _ rfl
    exact begins value
  case reads =>
    rintro value _ _ rfl
    exact reads value

section ItemsSound

variable {item : Reader β} {entry : α → Bytes → Prop} {meaning : α → β} (sound : Sound item entry meaning)

include sound

theorem itemsAfter_sound {rounds : Nat} {bytes rest : Bytes} {values : List β}
    (read : itemsAfter item rounds bytes = .ok (values, rest)) :
    ∃ trees text, bytes = text ++ rest ∧ Listed entry 93 trees text ∧ values = trees.map meaning := by
  induction rounds generalizing bytes values with
  | zero => cases read
  | succ rounds ih =>
      obtain ⟨gap, blank, split⟩ := exists_gap bytes
      rw [itemsAfter] at read
      split at read
      · cases read
      · rename_i byte tail shown
        rw [shown] at split
        split at read
        · rename_i closes
          cases read
          refine ⟨[], gap ++ [93], ?_, .close blank, rfl⟩
          rw [split, closes, List.append_assoc]
          rfl
        split at read
        · rename_i comma
          obtain ⟨inner, innerBlank, innerSplit⟩ := exists_gap tail
          split at read
          · cases read
          · rename_i next tail shown
            rw [shown] at innerSplit
            split at read
            · cases read
            · obtain ⟨⟨value, behind⟩, first, next⟩ := exists_of_bind read
              obtain ⟨⟨others, behind⟩, following, done⟩ := exists_of_bind next
              cases done
              obtain ⟨more, tree, text, front, moreBlank, written, rfl⟩ := sound _ _ _ first
              obtain ⟨trees, others, rfl, listed, rfl⟩ := ih following
              refine ⟨tree :: trees, _, ?_, .next blank (innerBlank.append moreBlank) written listed, rfl⟩
              rw [split, comma, innerSplit, front]
              simp only [List.append_assoc, List.cons_append]
        · cases read

theorem items_sound {bytes rest : Bytes} {values : List β} (read : items item bytes = .ok (values, rest)) :
    ∃ trees text, bytes = text ++ rest ∧ Enclosed entry 93 trees text ∧ values = trees.map meaning := by
  obtain ⟨gap, blank, split⟩ := exists_gap bytes
  rw [items] at read
  split at read
  · cases read
  · rename_i byte tail shown
    rw [shown] at split
    split at read
    · rename_i closes
      cases read
      refine ⟨[], gap ++ [93], ?_, .empty blank, rfl⟩
      rw [split, closes, List.append_assoc]
      rfl
    · obtain ⟨⟨value, behind⟩, first, next⟩ := exists_of_bind read
      obtain ⟨⟨others, behind⟩, following, done⟩ := exists_of_bind next
      cases done
      obtain ⟨more, tree, text, front, moreBlank, written, rfl⟩ := sound _ _ _ first
      obtain ⟨trees, others, rfl, listed, rfl⟩ := itemsAfter_sound sound following
      refine ⟨tree :: trees, _, ?_, .filled (blank.append moreBlank) written listed, rfl⟩
      rw [split, front]
      simp only [List.append_assoc]

end ItemsSound

/-- What an object makes of the value of a member, whatever stands around the text of the value. -/
def Acts (onMember : OnMember σ) (state : σ) (name : String) (text : Bytes) (outcome : Except Fault σ) : Prop :=
  ∀ gap rest, Blank gap → Delimited rest →
    (onMember state name >>= fun reader => reader (gap ++ (text ++ rest))) = outcome.map (·, rest)

/-- Whatever an object accepts behind the colon of a member is the text of a value, blanks in front of it
aside. -/
def SoundMembers (onMember : OnMember σ) (entry : α → Bytes → Prop) (put : σ → String × α → σ) : Prop :=
  ∀ state name bytes after rest, (onMember state name >>= fun reader => reader bytes) = .ok (after, rest) →
    ∃ gap tree text, bytes = gap ++ (text ++ rest) ∧ Blank gap ∧ entry tree text ∧ after = put state (name, tree)

/-- A reader that is known for a name reads the value whatever the name was. -/
theorem Yields.acts {reader : Reader σ} {text : Bytes} {outcome : Except Fault σ} (yields : Yields reader text outcome)
    {onMember : OnMember σ} {state : σ} {name : String} (known : onMember state name = .ok reader) :
    Acts onMember state name text outcome := by
  intro gap rest blank delimited
  rw [known]
  exact yields gap rest blank delimited

/-- What an object makes of its members one after another, up to the first that it refuses. -/
inductive Takes (onMember : OnMember σ) (entry : α → Bytes → Prop) : σ → List (String × α) → Except Fault σ → Prop
  | done {state : σ} : Takes onMember entry state [] (.ok state)
  | refused {state : σ} {named : String × α} {entries : List (String × α)} {fault : Fault}
      (acts : ∀ text, entry named.2 text → Acts onMember state named.1 text (.error fault)) :
      Takes onMember entry state (named :: entries) (.error fault)
  | taken {state between : σ} {named : String × α} {entries : List (String × α)} {outcome : Except Fault σ}
      (acts : ∀ text, entry named.2 text → Acts onMember state named.1 text (.ok between))
      (others : Takes onMember entry between entries outcome) : Takes onMember entry state (named :: entries) outcome

theorem takes_foldlM {onMember : OnMember σ} {entry : α → Bytes → Prop} {effect : σ → String × α → Except Fault σ}
    {entries : List (String × α)} (acts : ∀ named ∈ entries, ∀ state text, entry named.2 text →
      Acts onMember state named.1 text (effect state named)) (state : σ) :
    Takes onMember entry state entries (entries.foldlM effect state) := by
  induction entries generalizing state with
  | nil => exact .done
  | cons named entries ih =>
      obtain ⟨own, others⟩ := List.forall_mem_cons.mp acts
      have first := own state
      rw [List.foldlM_cons]
      cases result : effect state named with
      | error fault =>
          rw [result] at first
          exact .refused first
      | ok between =>
          rw [result] at first
          exact .taken first (ih others between)

section Members

variable {onMember : OnMember σ} {entry : α → Bytes → Prop} {state : σ} {entries : List (String × α)}
  {outcome : Except Fault σ} {text : Bytes}

theorem MemberText.read {named : String × α} (written : MemberText entry named text)
    (acts : ∀ text, entry named.2 text → Acts onMember state named.1 text outcome) {rest : Bytes}
    (delimited : Delimited rest) :
    ∃ tail, text = 34 :: tail ∧ member onMember state (tail ++ rest) = outcome.map (·, rest) := by
  obtain ⟨quotes, blank, innerBlank, written⟩ := written
  refine ⟨_, rfl, ?_⟩
  have value := acts _ written _ rest innerBlank delimited
  simp only [member, List.append_assoc, List.cons_append, stringTail_append quotes]
  rw [← value]
  simp only [bind, Except.bind, skipBlanks_gap blank (show isBlank 58 = false from rfl), if_true]

theorem membersAfter_listed (takes : Takes onMember entry state entries outcome)
    (listed : Listed (MemberText entry) 125 entries text) {rounds : Nat} (enough : entries.length < rounds)
    (rest : Bytes) : membersAfter onMember rounds state (text ++ rest) = outcome.map (·, rest) := by
  induction listed generalizing rounds state with
  | close blank =>
      cases takes
      obtain ⟨rounds, rfl⟩ : ∃ fewer, rounds = fewer + 1 := ⟨rounds - 1, by omega⟩
      rw [List.append_assoc, membersAfter, List.singleton_append, skipBlanks_gap blank rfl]
      rfl
  | @next named entries gap inner text others blank innerBlank written listed ih =>
      obtain ⟨rounds, rfl⟩ : ∃ fewer, rounds = fewer + 1 := ⟨rounds - 1, by omega⟩
      have delimited := listed.delimited rfl rest
      cases takes with
      | refused acts =>
          obtain ⟨tail, rfl, first⟩ := written.read acts delimited
          simp only [List.append_assoc, List.cons_append, membersAfter,
            skipBlanks_gap blank (show isBlank 44 = false from rfl),
            skipBlanks_gap innerBlank (show isBlank 34 = false from rfl), first]
          rfl
      | taken acts behind =>
          obtain ⟨tail, rfl, first⟩ := written.read acts delimited
          simp only [List.append_assoc, List.cons_append, membersAfter,
            skipBlanks_gap blank (show isBlank 44 = false from rfl),
            skipBlanks_gap innerBlank (show isBlank 34 = false from rfl), first]
          exact ih behind (by rw [List.length_cons] at enough; omega)

theorem members_enclosed (takes : Takes onMember entry state entries outcome)
    (enclosed : Enclosed (MemberText entry) 125 entries text) (rest : Bytes) :
    members onMember state (text ++ rest) = outcome.map (·, rest) := by
  cases enclosed with
  | empty blank =>
      cases takes
      rw [List.append_assoc, members, List.singleton_append, skipBlanks_gap blank rfl]
      rfl
  | @filled named entries gap text others blank written listed =>
      have delimited := listed.delimited rfl rest
      have enough : entries.length < (others ++ rest).length := by
        have shorter := listed.length_lt
        rw [List.length_append]
        omega
      cases takes with
      | refused acts =>
          obtain ⟨tail, rfl, first⟩ := written.read acts delimited
          simp only [List.append_assoc, List.cons_append, members,
            skipBlanks_gap blank (show isBlank 34 = false from rfl), first]
          rfl
      | taken acts behind =>
          obtain ⟨tail, rfl, first⟩ := written.read acts delimited
          simp only [List.append_assoc, List.cons_append, members,
            skipBlanks_gap blank (show isBlank 34 = false from rfl), first]
          exact membersAfter_listed behind listed enough rest

end Members

theorem members_commas {onMember : OnMember σ} {state : σ} {entries : List (String × List Char)}
    {outcome : Except Fault σ} (takes : Takes onMember (Prints id) state entries outcome) (rest : Bytes) :
    members onMember state (Utf8.encode (commas (entries.map memberText)) ++ [125] ++ rest) =
      outcome.map (·, rest) := by
  refine members_enclosed takes (enclosed_commas fun entry _ => ?_) rest
  exact @memberText_encode _ (Prints id) _ _ rfl entry.1

section MembersSound

variable {onMember : OnMember σ} {entry : α → Bytes → Prop} {put : σ → String × α → σ}
  (sound : SoundMembers onMember entry put)

include sound

theorem member_sound {state after : σ} {bytes rest : Bytes} (read : member onMember state bytes = .ok (after, rest)) :
    ∃ named text, 34 :: bytes = text ++ rest ∧ MemberText entry named text ∧ after = put state named := by
  obtain ⟨⟨name, behind⟩, nameRead, afterName⟩ := exists_of_bind read
  obtain ⟨reader, known, afterKnown⟩ := exists_of_bind afterName
  obtain ⟨nameText, rfl, quotes⟩ := stringTail_sound nameRead
  obtain ⟨gap, blank, split⟩ := exists_gap behind
  split at afterKnown
  · cases afterKnown
  · rename_i byte tail shown
    rw [shown] at split
    split at afterKnown
    · rename_i colon
      have value : (onMember state name >>= fun reader => reader tail) = .ok (after, rest) := by
        rw [known]
        exact afterKnown
      obtain ⟨inner, tree, text, rfl, innerBlank, written, rfl⟩ := sound _ _ _ _ _ value
      refine ⟨(name, tree), _, ?_, .named quotes blank innerBlank written, rfl⟩
      rw [split, colon]
      simp only [List.append_assoc, List.cons_append]
    · cases afterKnown

theorem membersAfter_sound {rounds : Nat} {state after : σ} {bytes rest : Bytes}
    (read : membersAfter onMember rounds state bytes = .ok (after, rest)) :
    ∃ entries text, bytes = text ++ rest ∧ Listed (MemberText entry) 125 entries text ∧
      after = entries.foldl put state := by
  induction rounds generalizing bytes state with
  | zero => cases read
  | succ rounds ih =>
      obtain ⟨gap, blank, split⟩ := exists_gap bytes
      rw [membersAfter] at read
      split at read
      · cases read
      · rename_i byte tail shown
        rw [shown] at split
        split at read
        · rename_i closes
          cases read
          refine ⟨[], gap ++ [125], ?_, .close blank, rfl⟩
          rw [split, closes, List.append_assoc]
          rfl
        split at read
        · rename_i comma
          obtain ⟨inner, innerBlank, innerSplit⟩ := exists_gap tail
          split at read
          · cases read
          · rename_i next tail shown
            rw [shown] at innerSplit
            split at read
            · rename_i quote
              obtain ⟨⟨between, behind⟩, first, following⟩ := exists_of_bind read
              obtain ⟨named, text, front, written, rfl⟩ := member_sound sound first
              obtain ⟨entries, others, rfl, listed, rfl⟩ := ih following
              refine ⟨named :: entries, _, ?_, .next blank innerBlank written listed, rfl⟩
              rw [split, comma, innerSplit, quote, front]
              simp only [List.append_assoc, List.cons_append]
            · cases read
        · cases read

theorem members_sound {state after : σ} {bytes rest : Bytes}
    (read : members onMember state bytes = .ok (after, rest)) :
    ∃ entries text, bytes = text ++ rest ∧ Enclosed (MemberText entry) 125 entries text ∧
      after = entries.foldl put state := by
  obtain ⟨gap, blank, split⟩ := exists_gap bytes
  rw [members] at read
  split at read
  · cases read
  · rename_i byte tail shown
    rw [shown] at split
    split at read
    · rename_i closes
      cases read
      refine ⟨[], gap ++ [125], ?_, .empty blank, rfl⟩
      rw [split, closes, List.append_assoc]
      rfl
    split at read
    · rename_i quote
      obtain ⟨⟨between, behind⟩, first, following⟩ := exists_of_bind read
      obtain ⟨named, text, front, written, rfl⟩ := member_sound sound first
      obtain ⟨entries, others, rfl, listed, rfl⟩ := membersAfter_sound sound following
      refine ⟨named :: entries, _, ?_, .filled blank written listed, rfl⟩
      rw [split, quote, front]
      simp only [List.append_assoc]
    · cases read

end MembersSound

end ScanCheck.Json
