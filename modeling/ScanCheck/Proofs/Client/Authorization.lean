import ScanCheck.Client
import ScanCheck.Proofs.Text.Base64
import ScanCheck.Proofs.Text.Utf8

namespace ScanCheck

namespace Text

/-- The texts before and behind the first occurrence of a character. -/
def splitFirst? (mark : Char) : List Char → Option (List Char × List Char)
  | [] => none
  | char :: rest =>
    if char = mark then some ([], rest)
    else (splitFirst? mark rest).map fun (before, after) => (char :: before, after)

variable {mark : Char} {text before after : List Char}

theorem splitFirst?_joined (absent : mark ∉ before) :
    splitFirst? mark (before ++ mark :: after) = some (before, after) := by
  induction before with
  | nil => simp [splitFirst?]
  | cons char before ih =>
      rw [List.mem_cons, not_or] at absent
      simp [splitFirst?, Ne.symm absent.1, ih absent.2]

theorem notMem_of_splitFirst? (split : splitFirst? mark text = some (before, after)) : mark ∉ before := by
  induction text generalizing before with
  | nil => cases split
  | cons char rest ih =>
      rw [splitFirst?] at split
      split at split
      · cases split
        exact List.not_mem_nil
      · rename_i other
        obtain ⟨⟨front, back⟩, found, same⟩ := Option.map_eq_some_iff.mp split
        cases same
        rw [List.mem_cons, not_or]
        exact ⟨Ne.symm other, ih found⟩

end Text

/-- The fields with the name of an authorization, in whatever case. -/
def authorizations (headers : List Header) : List Header :=
  headers.filter fun field => Text.sameAscii field.1.toList "authorization".toList

namespace ClientConfig

variable {config other : ClientConfig}

theorem authorization?_eq_none_iff : config.authorization? = none ↔ config.username = "" := by
  unfold authorization?
  split <;> simp_all

theorem authorization?_named (named : config.username ≠ "") :
    config.authorization? = some ("Basic " ++
      String.ofList (Base64.encode (utf8 (config.username ++ ":" ++ config.password)))) := by
  rw [authorization?, if_neg named]

theorem authorizations_headers :
    authorizations config.headers = config.authorization?.toList.map fun value => ("authorization", value) := by
  have other : Text.sameAscii "content-type".toList "authorization".toList = false := by decide +kernel
  have same : Text.sameAscii "authorization".toList "authorization".toList = true := by decide +kernel
  rw [authorizations, headers, List.filter_cons, if_neg (ne_true_of_eq_false other), List.filter_eq_self]
  intro field member
  obtain ⟨value, -, rfl⟩ := List.mem_map.mp member
  exact same

theorem header?_authorization : header? config.headers "authorization" = config.authorization? := by
  have first : header? config.headers "authorization" = (authorizations config.headers).head?.map (·.2) := by
    rw [authorizations, List.head?_filter]
    rfl
  rw [first, authorizations_headers]
  cases config.authorization? <;> rfl

theorem headers_congr (username : config.username = other.username) (password : config.password = other.password) :
    config.headers = other.headers := by
  obtain ⟨_, _, _, _⟩ := config
  obtain ⟨_, _, _, _⟩ := other
  cases username
  cases password
  rfl

theorem authorization?_of_headers (same : config.headers = other.headers) :
    config.authorization? = other.authorization? := by
  rw [← header?_authorization, same, header?_authorization]

theorem buildPost_headers_eq (config : ClientConfig) (endpoint : String) (payload : Serialized) :
    (config.buildPost endpoint payload).map Request.headers = payload.map fun _ => config.headers := by
  cases payload <;> rfl

theorem splitFirst?_pair_iff (username password : String) :
    Text.splitFirst? ':' (username ++ ":" ++ password).toList = some (username.toList, password.toList) ↔
      ':' ∉ username.toList := by
  have joined : (username ++ ":" ++ password).toList = username.toList ++ ':' :: password.toList := by simp
  rw [joined]
  exact ⟨Text.notMem_of_splitFirst?, Text.splitFirst?_joined⟩

/-- Fields that are equal hold the same pair, as long as it can be told where the user name ends. -/
theorem pair_eq_of_authorization? (named : config.username ≠ "") (plain : ':' ∉ config.username.toList)
    (otherNamed : other.username ≠ "") (otherPlain : ':' ∉ other.username.toList)
    (same : config.authorization? = other.authorization?) :
    config.username = other.username ∧ config.password = other.password := by
  rw [authorization?_named named, authorization?_named otherNamed, Option.some.injEq] at same
  have tokens := congrArg String.toList same
  simp only [String.toList_append, String.toList_ofList, List.append_cancel_left_eq] at tokens
  have bytes := congrArg Base64.decode? tokens
  rw [Base64.decode?_encode, Base64.decode?_encode, Option.some.injEq] at bytes
  have texts := congrArg Bytes.text bytes
  rw [Bytes.text_utf8, Bytes.text_utf8] at texts
  have pairs := (splitFirst?_pair_iff config.username config.password).mpr plain
  rw [texts, (splitFirst?_pair_iff other.username other.password).mpr otherPlain] at pairs
  simp only [Option.some.injEq, Prod.mk.injEq, String.toList_inj] at pairs
  exact ⟨pairs.1.symm, pairs.2.symm⟩

end ClientConfig

/-- A GET and a POST request of a client have the same fields. Among them is an authorization exactly if the
client has a user name, and then one only. It is a scheme and a padded row of symbols, and these decode to the
bytes of the user name, a colon and the password. The first colon of that text is where the password begins
exactly if the user name has none, and then the pair can be told from the fields. -/
theorem requests_carry_credentials (config : ClientConfig) (endpoint : String) :
    let headers := (config.buildGet endpoint).headers
    (∀ payload, (config.buildPost endpoint payload).map Request.headers = payload.map fun _ => headers) ∧
      (authorizations headers ≠ [] ↔ config.username ≠ "") ∧
      (config.username ≠ "" → ∃ token text,
        authorizations headers = [("authorization", "Basic " ++ String.ofList token)] ∧
          Base64.Padded token ∧ Base64.decode? token = some (utf8 text) ∧
          text = config.username ++ ":" ++ config.password ∧
          (Text.splitFirst? ':' text.toList = some (config.username.toList, config.password.toList) ↔
            ':' ∉ config.username.toList)) ∧
      ∀ (other : ClientConfig) (elsewhere : String), config.username ≠ "" → ':' ∉ config.username.toList →
        other.username ≠ "" → ':' ∉ other.username.toList → headers = (other.buildGet elsewhere).headers →
          config.username = other.username ∧ config.password = other.password := by
  intro headers
  have fields : authorizations headers = config.authorization?.toList.map fun value => ("authorization", value) :=
    ClientConfig.authorizations_headers
  refine ⟨config.buildPost_headers_eq endpoint, ?present, ?token, ?told⟩
  case present =>
    rw [fields, Ne, Ne, ← ClientConfig.authorization?_eq_none_iff]
    cases config.authorization? <;> simp
  case token =>
    intro named
    rw [fields, ClientConfig.authorization?_named named]
    exact ⟨_, _, rfl, Base64.padded_encode _, Base64.decode?_encode _, rfl,
      ClientConfig.splitFirst?_pair_iff config.username config.password⟩
  case told =>
    intro other elsewhere named plain otherNamed otherPlain same
    exact ClientConfig.pair_eq_of_authorization? named plain otherNamed otherPlain
      (ClientConfig.authorization?_of_headers same)

end ScanCheck
