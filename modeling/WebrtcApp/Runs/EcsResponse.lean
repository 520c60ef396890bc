import WebrtcApp.Lib.RoseTree
import WebrtcApp.Runs.EcsRefresh

/-!
# The tokens of an ECS response

`jsmn_parse` writes the values of a response down in preorder, a key before its value.  The loop of
`parseEcsResponse` walks that list, takes every string that is one of the four names for a key, and
the token behind it for its value.  An empty value is passed on with the length 0, which for
`createAwsCredentials` is that of a `NUL`-terminated string.

    ecsMembersWalk_found      the walk is the loop of App/EcsCredentials
    ecsResponseWalk_result    and ends as `ecsResponse` does
    parse_exact_iff           it is exact when a name comes up only as a key, or as the value of one,
                              a response with the other three members has an expiration, and no
                              value of the new credentials is empty
-/

namespace WebrtcApp

/-! ## What `jsmn_parse` returns -/

def quotationMark : Char := Char.ofNat 34

def nul : Char := Char.ofNat 0

/-- A token of the response.  A string stands between two quotation marks and ends at the first that
is not escaped, and nothing else is empty. -/
structure JsmnSpan (response : List Char) where
  type : JsmnType
  start : Nat
  stop : Nat
  start_le : start ≤ stop
  stop_le : stop ≤ response.length
  unquoted : start < stop → response[start]? ≠ some quotationMark
  quoted : type = .string → response[stop]? = some quotationMark
  nonempty : type ≠ .string → start < stop

namespace JsmnSpan

variable {response : List Char}

def token (s : JsmnSpan response) : JsmnToken :=
  ⟨s.type, (response.drop s.start).take (s.stop - s.start),
    (response.drop s.stop).takeWhile (· != nul)⟩

theorem text_of_response (s : JsmnSpan response) : s.token.text <:+: response :=
  ((List.take_prefix _ _).isInfix).trans (List.drop_suffix _ _).isInfix

theorem text_head (s : JsmnSpan response) : s.token.text.head? ≠ some quotationMark := by
  show ((response.drop s.start).take (s.stop - s.start)).head? ≠ _
  rw [List.head?_take, List.head?_drop]
  split_ifs with h
  · exact Option.some_ne_none _ |>.symm
  · exact s.unquoted (by omega)

/-- What follows an empty token is its closing quotation mark. -/
theorem behind_head (s : JsmnSpan response) (h : s.token.text = []) :
    s.token.behind.head? = some quotationMark := by
  have hlen : (response.drop s.start).length = 0 ∨ s.stop - s.start = 0 := by
    rcases List.take_eq_nil_iff.mp h with h | h
    · exact Or.inr h
    · exact Or.inl (List.length_eq_zero_iff.mpr h)
  rw [List.length_drop] at hlen
  have hle := s.start_le
  have hbound := s.stop_le
  have hstring : s.type = .string := by
    by_contra hne
    have hlt := s.nonempty hne
    omega
  show ((response.drop s.stop).takeWhile (· != nul)).head? = _
  have hhead : (response.drop s.stop).head? = some quotationMark := by
    rw [List.head?_drop]
    exact s.quoted hstring
  cases hdrop : response.drop s.stop with
  | nil =>
    rw [hdrop] at hhead
    cases hhead
  | cons c cs =>
    rw [hdrop] at hhead
    obtain rfl := Option.some.inj hhead
    rfl

/-- The credential that an empty token makes is the text of no token. -/
theorem credential_ne (s t : JsmnSpan response) (h : s.token.text = []) :
    s.token.credential ≠ t.token.text := by
  intro he
  rw [JsmnToken.credential, if_pos h] at he
  exact t.text_head (he ▸ s.behind_head h)

end JsmnSpan

/-- The tokens in a tree: below a container its keys or elements, below a key its value; `beyond` is
what the rest of the array holds. -/
inductive JsmnParse (response : List Char)
  | failed (code : Nat) (tokens : Nat → JsmnToken)
  | parsed (trees : List (RoseTree (JsmnSpan response))) (beyond : Nat → JsmnToken)

namespace JsmnParse

variable {response : List Char}

def trees : JsmnParse response → List (RoseTree (JsmnSpan response))
  | .failed .. => []
  | .parsed trees _ => trees

/-- The tokens as they stand in the array. -/
def spans (parse : JsmnParse response) : List (JsmnSpan response) :=
  RoseTree.preorderAll parse.trees

/-- The error codes are negative. -/
def tokenCount : JsmnParse response → Int
  | .failed code _ => -(code + 1)
  | .parsed trees _ => (RoseTree.preorderAll trees).length

def tokens : JsmnParse response → Nat → JsmnToken
  | .failed _ tokens, i => tokens i
  | .parsed trees beyond, i =>
    match (RoseTree.preorderAll trees)[i]? with
    | some s => s.token
    | none => beyond i

def callInfo (parse : JsmnParse response) : CallInfo :=
  ⟨response.length, parse.tokenCount, parse.tokens⟩

end JsmnParse

/-! ## The code, with what it reads -/

/-- The tokens that are read, the tokens that are taken for a key, and the values found. -/
structure EcsWalk where
  reads : List Nat
  keys : List (EcsMember × Nat)
  found : Option EcsMembers

/-- `ecsMembersLoop`. -/
def ecsMembersWalk (sdk : EcsSdk) (tokens : Nat → JsmnToken) (tokenCount : Nat) :
    Nat → Nat → EcsMembers → EcsWalk
  | 0, _, found => ⟨[], [], some found⟩
  | left + 1, i, found =>
    if i < tokenCount then
      match EcsMember.ofToken (tokens i) with
      | none =>
        let w := ecsMembersWalk sdk tokens tokenCount left (i + 1) found
        { w with reads := i :: w.reads }
      | some m =>
        let value := tokens (i + 1)
        if value.text.length ≤ m.maxLen sdk then
          let w := ecsMembersWalk sdk tokens tokenCount left (i + 2)
            (Function.update found m (some value))
          { w with reads := i :: (i + 1) :: w.reads, keys := (m, i) :: w.keys }
        else ⟨[i, i + 1], [(m, i)], none⟩
    else ⟨[], [], some found⟩

theorem ecsMembersWalk_found (sdk : EcsSdk) (tokens : Nat → JsmnToken) (tokenCount left i : Nat)
    (found : EcsMembers) : (ecsMembersWalk sdk tokens tokenCount left i found).found =
      ecsMembersLoop sdk tokens tokenCount left i found := by
  induction left generalizing i found with
  | zero => rfl
  | succ left ih =>
    unfold ecsMembersWalk ecsMembersLoop
    by_cases hi : i < tokenCount
    · rw [if_pos hi, if_pos hi]
      cases EcsMember.ofToken (tokens i) with
      | none => exact ih (i + 1) found
      | some m =>
        simp only
        split_ifs
        · exact ih (i + 2) _
        · rfl
    · rw [if_neg hi, if_neg hi]

/-- `converted` is the string that `convertTimestampToEpoch` gets. -/
structure EcsParse where
  reads : List Nat
  keys : List (EcsMember × Nat)
  converted : Option (List Char)
  result : Except EcsStatus AwsCredentials

/-- What follows the loop, up to the new credentials. -/
def EcsWalk.finish (sdk : EcsSdk) (call : EcsCall) (w : EcsWalk) : EcsParse :=
  match w.found with
  | none => ⟨0 :: w.reads, w.keys, none, .error .invalidApiCallReturnJson⟩
  | some found =>
    match found .accessKeyId, found .secretAccessKey, found .token with
    | some accessKeyId, some secretKey, some sessionToken =>
      ⟨0 :: w.reads, w.keys, some (((found .expiration).map JsmnToken.text).getD call.uninitialized),
        match ecsExpiration sdk call found with
        | .error code => .error (.sdk code)
        | .ok expiration =>
          .ok ⟨accessKeyId.credential, secretKey.credential, sessionToken.credential, expiration⟩⟩
    | _, _, _ => ⟨0 :: w.reads, w.keys, none, .error .ecsAuthRspFailed⟩

/-- `parseEcsResponse` up to the new credentials. -/
def ecsResponseWalk (sdk : EcsSdk) (call : EcsCall) : EcsParse :=
  let info := call.callInfo
  if info.responseDataLen = 0 then ⟨[], [], none, .error .ecsAuthFailed⟩
  else if info.tokenCount ≤ 1 then ⟨[], [], none, .error .invalidApiCallReturnJson⟩
  else if (info.tokens 0).type ≠ .object then ⟨[0], [], none, .error .invalidApiCallReturnJson⟩
  else
    (ecsMembersWalk sdk info.tokens info.tokenCount.toNat info.tokenCount.toNat 1
      fun _ => none).finish sdk call

theorem ecsResponseWalk_result (sdk : EcsSdk) (call : EcsCall) :
    (ecsResponseWalk sdk call).result = ecsResponse sdk call := by
  unfold ecsResponseWalk ecsResponse
  simp only
  split_ifs
  · rfl
  · rfl
  · rfl
  · unfold EcsWalk.finish ecsMembers
    rw [ecsMembersWalk_found]
    cases ecsMembersLoop sdk call.callInfo.tokens call.callInfo.tokenCount.toNat
        call.callInfo.tokenCount.toNat 1 fun _ => none with
    | none => rfl
    | some found =>
      simp only
      cases found .accessKeyId with
      | none => rfl
      | some accessKeyId =>
        cases found .secretAccessKey with
        | none => rfl
        | some secretKey =>
          cases found .token with
          | none => rfl
          | some sessionToken => rfl

/-! ## The specification -/

/-- The response is an object, and it is walked. -/
def JsmnParse.Walked {response : List Char} (parse : JsmnParse response) : Prop :=
  response ≠ [] ∧ 1 < parse.tokenCount ∧ (parse.tokens 0).type = .object

/-- Token `i` is a key of the top-level object with the name of `m`, and `value` is its value. -/
def JsmnParse.Member {response : List Char} (parse : JsmnParse response) (m : EcsMember) (i : Nat)
    (value : List Char) : Prop :=
  (parse.tokens 0).type = .object ∧ ∃ key v, RoseTree.IsEntry parse.trees i key v ∧
    compareJsonString key.token m.name = true ∧ v.token.text = value

/-- No member of the top-level object is longer than its limit. -/
def JsmnParse.WithinLimits {response : List Char} (sdk : EcsSdk) (parse : JsmnParse response) : Prop :=
  ∀ m i v, parse.Member m i v → v.length ≤ m.maxLen sdk

/-- The tokens read are tokens of the response, the keys taken are the members of the top-level
object, and the credentials are their values; a member that is missing or too long is a failure. -/
structure ParsedExactly (sdk : EcsSdk) {response : List Char} (parse : JsmnParse response)
    (r : EcsParse) : Prop where
  inBounds : ∀ i ∈ r.reads, (i : Int) < parse.tokenCount
  isKey : ∀ m i, (m, i) ∈ r.keys → ∃ v, parse.Member m i v
  fromResponse : ∀ m i, (m, i) ∈ r.keys → (parse.tokens (i + 1)).text <:+: response
  everyKey : parse.WithinLimits sdk → ∀ m i v, parse.Member m i v → (m, i) ∈ r.keys
  converted : ∀ s, r.converted = some s → ∃ i, parse.Member .expiration i s
  complete : ∀ c, r.result = .ok c → (∀ m, ∃ i v, parse.Member m i v) ∧ parse.WithinLimits sdk
  credentials : ∀ c, r.result = .ok c → (∃ i, parse.Member .accessKeyId i c.accessKeyId) ∧
    (∃ i, parse.Member .secretAccessKey i c.secretKey) ∧ ∃ i, parse.Member .token i c.sessionToken

/-- Up to a member that is too long, a string with one of the four names is a key of the top-level
object that has a value, or the value of one. -/
def JsmnParse.NamesAreKeys {response : List Char} (sdk : EcsSdk) (parse : JsmnParse response) : Prop :=
  ∀ (i : Nat) m, 0 < i → i < parse.tokenCount → EcsMember.ofToken (parse.tokens i) = some m →
    (∃ v, parse.Member m i v) ∨ (∃ m' j v, parse.Member m' j v ∧ i = j + 1) ∨
      ∃ m' j v, parse.Member m' j v ∧ j < i ∧ m'.maxLen sdk < v.length

/-- The expiration is not the only member that is missing. -/
def JsmnParse.HasExpiration {response : List Char} (parse : JsmnParse response) : Prop :=
  (∀ m, m ≠ .expiration → ∃ i v, parse.Member m i v) → ∃ i v, parse.Member .expiration i v

/-- Of the members with the name of `m`, the last, which is the one that counts. -/
def JsmnParse.LastMember {response : List Char} (parse : JsmnParse response) (m : EcsMember) (i : Nat)
    (value : List Char) : Prop :=
  parse.Member m i value ∧ ∀ j v, parse.Member m j v → j ≤ i

/-- If every member is there and the timestamp is converted, no value of the new credentials is
empty. -/
def JsmnParse.NoneEmpty {response : List Char} (sdk : EcsSdk) (responseTime : Nat)
    (parse : JsmnParse response) : Prop :=
  (∀ m, ∃ i v, parse.Member m i v) → ∀ i s expiration, parse.LastMember .expiration i s →
    sdk.convertTimestampToEpoch s (responseTime / ecsHundredsOfNanosInASecond) = .ok expiration →
    ∀ m, m ≠ .expiration → ∀ j, ¬ parse.LastMember m j []

/-- What the loop relies on, and the call of `createAwsCredentials`. -/
def JsmnParse.Regular {response : List Char} (sdk : EcsSdk) (responseTime : Nat)
    (parse : JsmnParse response) : Prop :=
  parse.NamesAreKeys sdk ∧
    (parse.WithinLimits sdk → parse.HasExpiration ∧ parse.NoneEmpty sdk responseTime)

/-! ## The members of the response -/

theorem EcsMember.ofToken_eq_some {t : JsmnToken} {m : EcsMember} :
    EcsMember.ofToken t = some m ↔ compareJsonString t m.name = true := by
  constructor
  · intro h
    unfold EcsMember.ofToken at h
    exact List.find?_some (p := fun m : EcsMember => compareJsonString t m.name) h
  · intro h
    obtain ⟨htype, htext⟩ := Bool.and_eq_true_iff.mp h
    obtain ⟨type, text, behind⟩ := t
    obtain rfl := beq_iff_eq.mp htype
    obtain rfl := beq_iff_eq.mp htext
    cases m <;> rfl

namespace JsmnParse

variable {response : List Char} {parse : JsmnParse response} {m m' : EcsMember} {i j : Nat}
  {v v' : List Char}

theorem tokenCount_toNat (parse : JsmnParse response) :
    parse.tokenCount.toNat = parse.spans.length := by
  cases parse with
  | failed code tokens => exact Int.toNat_of_nonpos (Int.neg_nonpos_of_nonneg (by omega))
  | parsed trees beyond => exact Int.toNat_natCast _

theorem tokens_eq {s : JsmnSpan response} (h : parse.spans[i]? = some s) :
    parse.tokens i = s.token := by
  cases parse with
  | failed code tokens => cases h
  | parsed trees beyond =>
    unfold JsmnParse.tokens
    simp only
    rw [show (RoseTree.preorderAll trees)[i]? = some s from h]

namespace Member

theorem ofToken (h : parse.Member m i v) : EcsMember.ofToken (parse.tokens i) = some m := by
  obtain ⟨-, key, value, hentry, hname, -⟩ := h
  rw [tokens_eq hentry.getElem_key]
  exact EcsMember.ofToken_eq_some.mpr hname

theorem text (h : parse.Member m i v) : (parse.tokens (i + 1)).text = v := by
  obtain ⟨-, key, value, hentry, -, htext⟩ := h
  rw [tokens_eq hentry.getElem_value]
  exact htext

theorem credential (h : parse.Member m i v) (hv : v ≠ []) : (parse.tokens (i + 1)).credential = v := by
  rw [JsmnToken.credential, h.text, if_neg hv]

/-- An empty member does not make a credential that is the value of a member. -/
theorem credential_ne (h : parse.Member m i []) (h' : parse.Member m' j v') :
    (parse.tokens (i + 1)).credential ≠ v' := by
  obtain ⟨-, key, value, hentry, -, htext⟩ := h
  obtain ⟨-, key', value', -, -, rfl⟩ := h'
  rw [tokens_eq hentry.getElem_value]
  exact value.credential_ne value' htext

theorem pos (h : parse.Member m i v) : 0 < i := by
  obtain ⟨-, key, value, hentry, -⟩ := h
  exact hentry.pos

theorem succ_lt (h : parse.Member m i v) : i + 1 < parse.tokenCount.toNat := by
  obtain ⟨-, key, value, hentry, -⟩ := h
  rw [tokenCount_toNat]
  exact hentry.succ_lt

/-- The value of a member is no member. -/
theorem not_succ (h : parse.Member m i v) : ¬ parse.Member m' (i + 1) v' := by
  rintro ⟨-, key', value', hentry', -⟩
  obtain ⟨-, key, value, hentry, -⟩ := h
  exact hentry.not_succ hentry'

theorem of_response (h : parse.Member m i v) : v <:+: response := by
  obtain ⟨-, key, value, -, -, rfl⟩ := h
  exact value.text_of_response

theorem walked (h : parse.Member m i v) : parse.Walked := by
  refine ⟨?_, ?_, h.1⟩
  · obtain ⟨-, key, value, -, hname, -⟩ := h
    intro hnil
    obtain ⟨-, htext⟩ := Bool.and_eq_true_iff.mp hname
    have hempty : m.name <:+: [] := by
      rw [← beq_iff_eq.mp htext, ← hnil]
      exact key.text_of_response
    have hlen : m.name.length ≤ 0 := hempty.length_le
    cases m <;> exact absurd hlen (by decide)
  · have hlt := h.succ_lt
    omega

end Member

theorem LastMember.unique (h : parse.LastMember m i v) (h' : parse.LastMember m j v') :
    i = j ∧ v = v' := by
  obtain rfl : i = j := Nat.le_antisymm (h'.2 i v h.1) (h.2 j v' h'.1)
  exact ⟨rfl, h.1.text.symm.trans h'.1.text⟩

end JsmnParse

/-! ## The walk -/

section Walk

variable {sdk : EcsSdk} {response : List Char} {parse : JsmnParse response}

/-- Every key that is taken is a member. -/
def EcsWalk.KeysAreMembers (parse : JsmnParse response) (w : EcsWalk) : Prop :=
  ∀ m i, (m, i) ∈ w.keys → ∃ v, parse.Member m i v

/-- A token with a name that is reached is a key, as neither the value of a member nor anything
behind a member that is too long is reached. -/
theorem walk_of_namesAreKeys (hnames : parse.NamesAreKeys sdk) (left i : Nat) (found : EcsMembers)
    (hi : 0 < i) (hbefore : ∀ m j v, parse.Member m j v → j < i → v.length ≤ m.maxLen sdk)
    (hvalue : ∀ m j v, parse.Member m j v → i ≠ j + 1) :
    let w := ecsMembersWalk sdk parse.tokens parse.tokenCount.toNat left i found
    w.KeysAreMembers parse ∧ ∀ j ∈ w.reads, j < parse.tokenCount.toNat := by
  have hmember : ∀ {i : Nat} {m : EcsMember}, 0 < i →
      (∀ m j v, parse.Member m j v → j < i → v.length ≤ m.maxLen sdk) →
      (∀ m j v, parse.Member m j v → i ≠ j + 1) → i < parse.tokenCount.toNat →
      EcsMember.ofToken (parse.tokens i) = some m → ∃ v, parse.Member m i v := by
    intro i m hi hbefore hvalue hlt hname
    rcases hnames i m hi (by omega) hname with h | ⟨m', j, v, hj, hij⟩ | ⟨m', j, v, hj, hlt, hlong⟩
    · exact h
    · exact absurd hij (hvalue m' j v hj)
    · exact absurd (hbefore m' j v hj hlt) (Nat.not_le.mpr hlong)
  fun_induction ecsMembersWalk sdk parse.tokens parse.tokenCount.toNat left i found with
  | case1 i found => simp [EcsWalk.KeysAreMembers]
  | case2 left i found hlt hname w ih =>
    obtain ⟨hkeys, hreads⟩ := ih (Nat.succ_pos i)
      (fun m j v hj hji => by
        rcases Nat.lt_succ_iff_lt_or_eq.mp hji with hji | rfl
        · exact hbefore m j v hj hji
        · rw [hj.ofToken] at hname
          cases hname)
      (fun m j v hj hij => by
        obtain rfl := Nat.succ.inj hij
        rw [hj.ofToken] at hname
        cases hname)
    exact ⟨hkeys, List.forall_mem_cons.mpr ⟨hlt, hreads⟩⟩
  | case3 left i found hlt m hname value hlen w ih =>
    obtain ⟨v, hv⟩ := hmember hi hbefore hvalue hlt hname
    obtain ⟨hkeys, hreads⟩ := ih (by omega)
      (fun m' j v' hj hji => by
        rcases Nat.lt_succ_iff_lt_or_eq.mp hji with hji | rfl
        · rcases Nat.lt_succ_iff_lt_or_eq.mp hji with hji | rfl
          · exact hbefore m' j v' hj hji
          · obtain rfl : m = m' := Option.some.inj (hname.symm.trans hj.ofToken)
            rw [← hj.text]
            exact hlen
        · exact absurd hj hv.not_succ)
      (fun m' j v' hj hij => by
        obtain rfl := Nat.succ.inj hij
        exact hv.not_succ hj)
    refine ⟨fun m' j hj => ?_,
      List.forall_mem_cons.mpr ⟨hlt, List.forall_mem_cons.mpr ⟨hv.succ_lt, hreads⟩⟩⟩
    rcases List.mem_cons.mp hj with he | hj
    · obtain ⟨rfl, rfl⟩ := Prod.mk.inj he
      exact ⟨v, hv⟩
    · exact hkeys m' j hj
  | case4 left i found hlt m hname value hlen =>
    obtain ⟨v, hv⟩ := hmember hi hbefore hvalue hlt hname
    refine ⟨fun m' j hj => ?_, fun j hj => ?_⟩
    · obtain ⟨rfl, rfl⟩ := Prod.mk.inj (List.mem_singleton.mp hj)
      exact ⟨v, hv⟩
    · rcases List.mem_cons.mp hj with rfl | hj
      · exact hlt
      · obtain rfl := List.mem_singleton.mp hj
        exact hv.succ_lt
  | case5 left i found hlt => simp [EcsWalk.KeysAreMembers]

/-- A walk that takes only members for keys has met no other token with a name. -/
theorem names_of_keysAreMembers (left i : Nat) (found : EcsMembers)
    (hleft : parse.tokenCount.toNat ≤ left + i)
    (hkeys : (ecsMembersWalk sdk parse.tokens parse.tokenCount.toNat left i found).KeysAreMembers
      parse) (k : Nat) (n : EcsMember) (hik : i ≤ k) (hk : k < parse.tokenCount.toNat)
    (hn : EcsMember.ofToken (parse.tokens k) = some n) :
    (∃ v, parse.Member n k v) ∨ (∃ m' j v, parse.Member m' j v ∧ k = j + 1) ∨
      ∃ m' j v, parse.Member m' j v ∧ j < k ∧ m'.maxLen sdk < v.length := by
  fun_induction ecsMembersWalk sdk parse.tokens parse.tokenCount.toNat left i found with
  | case1 i found => omega
  | case2 left i found hlt hname w ih =>
    rcases Nat.eq_or_lt_of_le hik with rfl | hik
    · rw [hn] at hname
      cases hname
    · exact ih (by omega) hkeys hik
  | case3 left i found hlt m hname value hlen w ih =>
    obtain ⟨v, hv⟩ := hkeys m i List.mem_cons_self
    rcases Nat.eq_or_lt_of_le hik with rfl | hik
    · obtain rfl : m = n := Option.some.inj (hname.symm.trans hn)
      exact Or.inl ⟨v, hv⟩
    rcases Nat.eq_or_lt_of_le hik with rfl | hik
    · exact Or.inr (Or.inl ⟨m, i, v, hv, rfl⟩)
    · exact ih (by omega) (fun m' j hj => hkeys m' j (List.mem_cons_of_mem _ hj)) hik
  | case4 left i found hlt m hname value hlen =>
    obtain ⟨v, hv⟩ := hkeys m i List.mem_cons_self
    rcases Nat.eq_or_lt_of_le hik with rfl | hik
    · obtain rfl : m = n := Option.some.inj (hname.symm.trans hn)
      exact Or.inl ⟨v, hv⟩
    · refine Or.inr (Or.inr ⟨m, i, v, hv, hik, ?_⟩)
      rw [← hv.text]
      exact Nat.lt_of_not_le hlen
  | case5 left i found hlt => omega

/-- A walk that takes only members for keys, and comes to its end, takes every member. -/
theorem members_of_keysAreMembers (left i : Nat) (found : EcsMembers)
    (hleft : parse.tokenCount.toNat ≤ left + i)
    (hkeys : (ecsMembersWalk sdk parse.tokens parse.tokenCount.toNat left i found).KeysAreMembers
      parse)
    (hfound : (ecsMembersWalk sdk parse.tokens parse.tokenCount.toNat left i found).found ≠ none)
    {n : EcsMember} {k : Nat} {v : List Char} (hv : parse.Member n k v) (hik : i ≤ k) :
    (n, k) ∈ (ecsMembersWalk sdk parse.tokens parse.tokenCount.toNat left i found).keys ∧
      v.length ≤ n.maxLen sdk := by
  have hk := hv.succ_lt
  fun_induction ecsMembersWalk sdk parse.tokens parse.tokenCount.toNat left i found with
  | case1 i found => omega
  | case2 left i found hlt hname w ih =>
    rcases Nat.eq_or_lt_of_le hik with rfl | hik
    · rw [hv.ofToken] at hname
      cases hname
    · exact ih (by omega) hkeys hfound hik
  | case3 left i found hlt m hname value hlen w ih =>
    obtain ⟨v', hv'⟩ := hkeys m i List.mem_cons_self
    rcases Nat.eq_or_lt_of_le hik with rfl | hik
    · obtain rfl : m = n := Option.some.inj (hname.symm.trans hv.ofToken)
      rw [← hv.text]
      exact ⟨List.mem_cons_self, hlen⟩
    rcases Nat.eq_or_lt_of_le hik with rfl | hik
    · exact absurd hv hv'.not_succ
    · obtain ⟨hmem, hlimit⟩ :=
        ih (by omega) (fun m' j hj => hkeys m' j (List.mem_cons_of_mem _ hj)) hfound hik
      exact ⟨List.mem_cons_of_mem _ hmem, hlimit⟩
  | case4 left i found hlt m hname value hlen => exact absurd rfl hfound
  | case5 left i found hlt => omega

/-- The walk goes forward. -/
theorem le_of_mem_keys (tokens : Nat → JsmnToken) (tokenCount left i : Nat) (found : EcsMembers)
    {n : EcsMember} {k : Nat} (hk : (n, k) ∈ (ecsMembersWalk sdk tokens tokenCount left i found).keys) :
    i ≤ k := by
  fun_induction ecsMembersWalk sdk tokens tokenCount left i found with
  | case1 i found => cases hk
  | case2 left i found hlt hname w ih => exact Nat.le_of_succ_le (ih hk)
  | case3 left i found hlt m hname value hlen w ih =>
    rcases List.mem_cons.mp hk with he | hk
    · exact (Prod.mk.inj he).2.ge
    · exact Nat.le_of_add_right_le (ih hk)
  | case4 left i found hlt m hname value hlen =>
    exact (Prod.mk.inj (List.mem_singleton.mp hk)).2.ge
  | case5 left i found hlt => cases hk

/-- The values found are those behind the last keys. -/
theorem found_of_walk (tokens : Nat → JsmnToken) (tokenCount left i : Nat) (found : EcsMembers)
    {f : EcsMembers} (hf : (ecsMembersWalk sdk tokens tokenCount left i found).found = some f)
    (n : EcsMember) :
    (∃ k, (n, k) ∈ (ecsMembersWalk sdk tokens tokenCount left i found).keys ∧
        (∀ k', (n, k') ∈ (ecsMembersWalk sdk tokens tokenCount left i found).keys → k' ≤ k) ∧
        f n = some (tokens (k + 1))) ∨
      (f n = found n ∧ ∀ k, (n, k) ∉ (ecsMembersWalk sdk tokens tokenCount left i found).keys) := by
  fun_induction ecsMembersWalk sdk tokens tokenCount left i found with
  | case1 i found =>
    obtain rfl := Option.some.inj hf
    exact Or.inr ⟨rfl, fun k hk => List.not_mem_nil hk⟩
  | case2 left i found hlt hname w ih => exact ih hf
  | case3 left i found hlt m hname value hlen w ih =>
    rcases ih hf with ⟨k, hk, hlast, hvalue⟩ | ⟨hvalue, hnone⟩
    · refine Or.inl ⟨k, List.mem_cons_of_mem _ hk, fun k' hk' => ?_, hvalue⟩
      rcases List.mem_cons.mp hk' with he | hk'
      · have hge := le_of_mem_keys _ _ _ _ _ hk
        have hi := (Prod.mk.inj he).2
        omega
      · exact hlast k' hk'
    · by_cases hnm : n = m
      · subst hnm
        rw [Function.update_self] at hvalue
        refine Or.inl ⟨i, List.mem_cons_self, fun k' hk' => ?_, hvalue⟩
        rcases List.mem_cons.mp hk' with he | hk'
        · exact (Prod.mk.inj he).2.le
        · exact absurd hk' (hnone k')
      · rw [Function.update_of_ne hnm] at hvalue
        refine Or.inr ⟨hvalue, fun k hk => ?_⟩
        rcases List.mem_cons.mp hk with he | hk
        · exact hnm (Prod.mk.inj he).1
        · exact hnone k hk
  | case4 left i found hlt m hname value hlen => cases hf
  | case5 left i found hlt =>
    obtain rfl := Option.some.inj hf
    exact Or.inr ⟨rfl, fun k hk => List.not_mem_nil hk⟩

/-- A walk fails at the value of a key that is too long. -/
theorem long_of_walk (tokens : Nat → JsmnToken) (tokenCount left i : Nat) (found : EcsMembers)
    (hf : (ecsMembersWalk sdk tokens tokenCount left i found).found = none) :
    ∃ n k, (n, k) ∈ (ecsMembersWalk sdk tokens tokenCount left i found).keys ∧
      n.maxLen sdk < (tokens (k + 1)).text.length := by
  fun_induction ecsMembersWalk sdk tokens tokenCount left i found with
  | case1 i found => cases hf
  | case2 left i found hlt hname w ih => exact ih hf
  | case3 left i found hlt m hname value hlen w ih =>
    obtain ⟨n, k, hk, hlong⟩ := ih hf
    exact ⟨n, k, List.mem_cons_of_mem _ hk, hlong⟩
  | case4 left i found hlt m hname value hlen =>
    exact ⟨m, i, List.mem_cons_self, Nat.lt_of_not_le hlen⟩
  | case5 left i found hlt => cases hf

end Walk

/-! ## The response -/

section Response

variable {sdk : EcsSdk} {call : EcsCall} {response : List Char} {parse : JsmnParse response}
  {w : EcsWalk}

namespace EcsWalk

@[simp] theorem finish_reads : (w.finish sdk call).reads = 0 :: w.reads := by
  unfold finish
  cases w.found with
  | none => rfl
  | some found =>
    simp only
    split <;> rfl

@[simp] theorem finish_keys : (w.finish sdk call).keys = w.keys := by
  unfold finish
  cases w.found with
  | none => rfl
  | some found =>
    simp only
    split <;> rfl

/-- The timestamp is converted when the other three values are there. -/
theorem finish_cases (sdk : EcsSdk) (call : EcsCall) (w : EcsWalk) :
    ((w.finish sdk call).converted = none ∧ (∀ c, (w.finish sdk call).result ≠ .ok c) ∧
        ∀ f, w.found = some f → ∃ m, m ≠ .expiration ∧ f m = none) ∨
      ∃ f accessKeyId secretKey sessionToken, w.found = some f ∧
        f .accessKeyId = some accessKeyId ∧ f .secretAccessKey = some secretKey ∧
        f .token = some sessionToken ∧
        (w.finish sdk call).converted =
          some (((f .expiration).map JsmnToken.text).getD call.uninitialized) ∧
        ∀ c, (w.finish sdk call).result = .ok c ↔ ∃ expiration,
          ecsExpiration sdk call f = .ok expiration ∧ c =
            ⟨accessKeyId.credential, secretKey.credential, sessionToken.credential, expiration⟩ := by
  unfold finish
  cases w.found with
  | none => exact Or.inl ⟨rfl, fun _ => nofun, nofun⟩
  | some found =>
    have hmissing : ∀ m, m ≠ .expiration → found m = none →
        ∀ f, some found = some f → ∃ m, m ≠ EcsMember.expiration ∧ f m = none := by
      rintro m hm hnone f hf
      obtain rfl := Option.some.inj hf
      exact ⟨m, hm, hnone⟩
    simp only
    split
    · next accessKeyId secretKey sessionToken ha hs ht =>
      refine Or.inr ⟨found, accessKeyId, secretKey, sessionToken, rfl, ha, hs, ht, rfl, fun c => ?_⟩
      cases he : ecsExpiration sdk call found with
      | error code =>
        refine iff_of_false nofun ?_
        rintro ⟨expiration, hexpiration, -⟩
        cases hexpiration
      | ok expiration =>
        constructor
        · intro hc
          exact ⟨expiration, rfl, (Except.ok.inj hc).symm⟩
        · rintro ⟨expiration', hexpiration, rfl⟩
          obtain rfl := Except.ok.inj hexpiration
          rfl
    · next hnot =>
      refine Or.inl ⟨rfl, fun _ => nofun, ?_⟩
      cases ha : found .accessKeyId with
      | none => exact hmissing _ (by decide) ha
      | some accessKeyId =>
        cases hs : found .secretAccessKey with
        | none => exact hmissing _ (by decide) hs
        | some secretKey =>
          cases ht : found .token with
          | none => exact hmissing _ (by decide) ht
          | some sessionToken => exact absurd ht (hnot _ _ _ ha hs)

end EcsWalk

/-- The walk over the whole response. -/
def JsmnParse.walk (sdk : EcsSdk) (parse : JsmnParse response) : EcsWalk :=
  ecsMembersWalk sdk parse.tokens parse.tokenCount.toNat parse.tokenCount.toNat 1 fun _ => none

theorem ecsResponseWalk_walked (hw : parse.Walked) (sdk : EcsSdk) (call : EcsCall) :
    ecsResponseWalk sdk { call with callInfo := parse.callInfo } =
      (parse.walk sdk).finish sdk { call with callInfo := parse.callInfo } := by
  have hlen : ¬ parse.callInfo.responseDataLen = 0 := fun h => hw.1 (List.length_eq_zero_iff.mp h)
  have hcount : ¬ parse.callInfo.tokenCount ≤ 1 := not_le.mpr hw.2.1
  have hobject : ¬ (parse.callInfo.tokens 0).type ≠ .object := not_not.mpr hw.2.2
  unfold ecsResponseWalk
  simp only [hlen, hcount, hobject, if_false]
  rfl

/-- A response that is no object is a failure before the first key. -/
theorem ecsResponseWalk_not_walked (hw : ¬ parse.Walked) (sdk : EcsSdk) (call : EcsCall) :
    let r := ecsResponseWalk sdk { call with callInfo := parse.callInfo }
    r.keys = [] ∧ r.converted = none ∧ (∀ c, r.result ≠ .ok c) ∧
      ∀ i ∈ r.reads, (i : Int) < parse.tokenCount := by
  unfold ecsResponseWalk
  simp only
  split_ifs with hlen hcount hobject
  · exact ⟨rfl, rfl, fun _ => nofun, fun i hi => absurd hi List.not_mem_nil⟩
  · exact ⟨rfl, rfl, fun _ => nofun, fun i hi => absurd hi List.not_mem_nil⟩
  · refine ⟨rfl, rfl, fun _ => nofun, fun i hi => ?_⟩
    obtain rfl := List.mem_singleton.mp hi
    have hpos : 1 < parse.tokenCount := not_le.mp hcount
    exact lt_trans (by decide) hpos
  · refine absurd ⟨fun h => hlen ?_, not_le.mp hcount, not_not.mp hobject⟩ hw
    exact List.length_eq_zero_iff.mpr h

/-- What a walk that takes only members finds: the last of each name. -/
structure FoundMembers (sdk : EcsSdk) (parse : JsmnParse response) (f : EcsMembers) : Prop where
  limits : parse.WithinLimits sdk
  last : ∀ m u, f m = some u → ∃ k, parse.tokens (k + 1) = u ∧ parse.LastMember m k u.text
  all : ∀ m k v, parse.Member m k v → ∃ u, f m = some u

theorem foundMembers_of_walk (hkeys : (parse.walk sdk).KeysAreMembers parse) {f : EcsMembers}
    (hf : (parse.walk sdk).found = some f) : FoundMembers sdk parse f := by
  have htaken : ∀ {m k v}, parse.Member m k v →
      (m, k) ∈ (parse.walk sdk).keys ∧ v.length ≤ m.maxLen sdk := by
    intro m k v hv
    refine members_of_keysAreMembers _ _ _ (Nat.le_succ _) hkeys (fun hnone => ?_) hv hv.pos
    rw [JsmnParse.walk] at hf
    rw [hf] at hnone
    cases hnone
  refine ⟨fun m k v hv => (htaken hv).2, fun m u hu => ?_, fun m k v hv => ?_⟩
  · rcases found_of_walk _ _ _ _ _ hf m with ⟨k, hk, hlast, hvalue⟩ | ⟨hvalue, -⟩
    · obtain ⟨v, hv⟩ := hkeys m k hk
      obtain rfl := Option.some.inj (hu.symm.trans hvalue)
      refine ⟨k, rfl, ?_, fun j v' hv' => hlast j (htaken hv').1⟩
      rw [hv.text]
      exact hv
    · rw [hu] at hvalue
      cases hvalue
  · rcases found_of_walk _ _ _ _ _ hf m with ⟨k', -, -, hvalue⟩ | ⟨-, hnone⟩
    · exact ⟨_, hvalue⟩
    · exact absurd (htaken hv).1 (hnone k)

/-- A value that is not empty is passed on as it is. -/
theorem FoundMembers.credential {f : EcsMembers} (h : FoundMembers sdk parse f) {m : EcsMember}
    {u : JsmnToken} (hu : f m = some u) (hempty : ∀ j, ¬ parse.LastMember m j []) :
    ∃ i, parse.Member m i u.credential := by
  obtain ⟨j, htoken, hj⟩ := h.last m u hu
  have hne : u.text ≠ [] := by
    intro hnil
    rw [hnil] at hj
    exact hempty j hj
  refine ⟨j, ?_⟩
  rw [← htoken, hj.1.credential hne]
  exact hj.1

/-- An empty one is not. -/
theorem FoundMembers.not_credential {f : EcsMembers} (h : FoundMembers sdk parse f) {m : EcsMember}
    {u : JsmnToken} (hu : f m = some u) {i j : Nat} (hempty : parse.LastMember m j []) :
    ¬ parse.Member m i u.credential := by
  intro hmember
  obtain ⟨k, htoken, hk⟩ := h.last m u hu
  obtain ⟨rfl, -⟩ := hempty.unique hk
  exact hempty.1.credential_ne hmember (congrArg JsmnToken.credential htoken)

/-- It comes to its end when no member is too long. -/
theorem found_ne_none (hkeys : (parse.walk sdk).KeysAreMembers parse)
    (hlimits : parse.WithinLimits sdk) : (parse.walk sdk).found ≠ none := by
  intro hnone
  obtain ⟨n, k, hk, hlong⟩ := long_of_walk _ _ _ _ _ hnone
  obtain ⟨v, hv⟩ := hkeys n k hk
  rw [hv.text] at hlong
  exact absurd (hlimits n k v hv) (Nat.not_le.mpr hlong)

theorem parsedExactly_of_not_walked (hw : ¬ parse.Walked) (sdk : EcsSdk) (call : EcsCall) :
    ParsedExactly sdk parse (ecsResponseWalk sdk { call with callInfo := parse.callInfo }) := by
  obtain ⟨hkeys, hconverted, hresult, hreads⟩ := ecsResponseWalk_not_walked hw sdk call
  refine ⟨hreads, ?_, ?_, ?_, ?_, ?_, ?_⟩
  · intro m i hi
    rw [hkeys] at hi
    cases hi
  · intro m i hi
    rw [hkeys] at hi
    cases hi
  · exact fun _ m i v hv => absurd hv.walked hw
  · intro s hs
    rw [hconverted] at hs
    cases hs
  · exact fun c hc => absurd hc (hresult c)
  · exact fun c hc => absurd hc (hresult c)

theorem regular_of_parsedExactly
    (h : ParsedExactly sdk parse ((parse.walk sdk).finish sdk call)) :
    parse.Regular sdk call.responseTime := by
  have hkeys : (parse.walk sdk).KeysAreMembers parse := by
    intro m i hi
    apply h.isKey m i
    rw [EcsWalk.finish_keys]
    exact hi
  refine ⟨fun i m hi hlt hname => ?_, fun hlimits => ?_⟩
  · exact names_of_keysAreMembers _ 1 _ (Nat.le_succ _) hkeys i m hi (by omega) hname
  obtain ⟨f, hf⟩ := Option.ne_none_iff_exists'.mp (found_ne_none hkeys hlimits)
  have hfound := foundMembers_of_walk hkeys hf
  rcases EcsWalk.finish_cases sdk call (parse.walk sdk) with
    ⟨-, -, hmissing⟩ | ⟨f', a, s, t, hf', ha, hs, ht, hconverted, hresult⟩
  · -- one of the other three is not there
    obtain ⟨m, hm, hnone⟩ := hmissing f hf
    have hno : ¬ ∃ i v, parse.Member m i v := by
      rintro ⟨i, v, hv⟩
      obtain ⟨u, hu⟩ := hfound.all m i v hv
      rw [hnone] at hu
      cases hu
    exact ⟨fun hthree => absurd (hthree m hm) hno, fun hall => absurd (hall m) hno⟩
  · obtain rfl := Option.some.inj (hf.symm.trans hf')
    obtain ⟨i, hi⟩ := h.converted _ hconverted
    refine ⟨fun _ => ⟨i, _, hi⟩, fun _ k timestamp expiration hlast hconvert m hm j hempty => ?_⟩
    obtain ⟨u, hu⟩ := hfound.all _ _ _ hlast.1
    obtain ⟨k', -, hlast'⟩ := hfound.last _ _ hu
    have hexpiration : ecsExpiration sdk call f =
        .ok (min expiration (call.responseTime + sdk.maxEnforcedTokenExpirationDuration)) := by
      unfold ecsExpiration
      rw [hu, Option.map_some, Option.getD_some, ← (hlast.unique hlast').2, hconvert]
      rfl
    obtain ⟨⟨ia, hia⟩, ⟨is, his⟩, it, hit⟩ := h.credentials _ ((hresult _).mpr ⟨_, hexpiration, rfl⟩)
    cases m with
    | accessKeyId => exact hfound.not_credential ha hempty hia
    | secretAccessKey => exact hfound.not_credential hs hempty his
    | token => exact hfound.not_credential ht hempty hit
    | expiration => exact hm rfl

/-- With the other three members, the expiration is there as well, and its value is converted. -/
theorem finish_members (hregular : parse.Regular sdk call.responseTime)
    (hkeys : (parse.walk sdk).KeysAreMembers parse) :
    ((parse.walk sdk).finish sdk call).converted = none ∧
        (∀ c, ((parse.walk sdk).finish sdk call).result ≠ .ok c) ∨
      parse.WithinLimits sdk ∧ (∀ m, ∃ i v, parse.Member m i v) ∧
        (∃ i s, ((parse.walk sdk).finish sdk call).converted = some s ∧
          parse.Member .expiration i s) ∧
        ∀ c, ((parse.walk sdk).finish sdk call).result = .ok c →
          (∃ i, parse.Member .accessKeyId i c.accessKeyId) ∧
            (∃ i, parse.Member .secretAccessKey i c.secretKey) ∧
            ∃ i, parse.Member .token i c.sessionToken := by
  rcases EcsWalk.finish_cases sdk call (parse.walk sdk) with
    ⟨hnone, hresult, -⟩ | ⟨f, a, s, t, hf, ha, hs, ht, hconverted, hresult⟩
  · exact Or.inl ⟨hnone, hresult⟩
  have hfound := foundMembers_of_walk hkeys hf
  obtain ⟨hexpiration, hnonempty⟩ := hregular.2 hfound.limits
  have hsome : ∀ {m u}, f m = some u → ∃ i v, parse.Member m i v := by
    intro m u hu
    obtain ⟨k, -, hk⟩ := hfound.last m u hu
    exact ⟨k, _, hk.1⟩
  have hthree : ∀ m, m ≠ .expiration → ∃ i v, parse.Member m i v := by
    intro m hm
    cases m with
    | accessKeyId => exact hsome ha
    | secretAccessKey => exact hsome hs
    | token => exact hsome ht
    | expiration => exact absurd rfl hm
  obtain ⟨i, v, hv⟩ := hexpiration hthree
  obtain ⟨u, hu⟩ := hfound.all _ _ _ hv
  obtain ⟨k, -, hlast⟩ := hfound.last _ _ hu
  have hall : ∀ m, ∃ i v, parse.Member m i v := by
    intro m
    by_cases hm : m = .expiration
    · subst hm
      exact ⟨i, v, hv⟩
    · exact hthree m hm
  refine Or.inr ⟨hfound.limits, hall, ⟨k, u.text, ?_, hlast.1⟩, fun c hc => ?_⟩
  · rw [hconverted, hu]
    rfl
  · obtain ⟨expiration, he, rfl⟩ := (hresult c).mp hc
    unfold ecsExpiration at he
    rw [hu, Option.map_some, Option.getD_some] at he
    cases hconvert : sdk.convertTimestampToEpoch u.text
        (call.responseTime / ecsHundredsOfNanosInASecond) with
    | error code =>
      rw [hconvert] at he
      cases he
    | ok converted =>
      -- none of the three is empty, so each is passed on with its length
      have hempty := hnonempty hall _ _ _ hlast hconvert
      exact ⟨hfound.credential ha (hempty _ (by decide)), hfound.credential hs (hempty _ (by decide)),
        hfound.credential ht (hempty _ (by decide))⟩

theorem parsedExactly_of_regular (hw : parse.Walked) (hregular : parse.Regular sdk call.responseTime) :
    ParsedExactly sdk parse ((parse.walk sdk).finish sdk call) := by
  obtain ⟨hkeys, hreads⟩ : (parse.walk sdk).KeysAreMembers parse ∧
      ∀ j ∈ (parse.walk sdk).reads, j < parse.tokenCount.toNat :=
    walk_of_namesAreKeys hregular.1 _ 1 _ Nat.one_pos
      (fun m j v hv hj => absurd hv.pos (by omega))
      (fun m j v hv hj => absurd hv.pos (by omega))
  have hcount := hw.2.1
  have hfinish := finish_members hregular hkeys
  refine ⟨fun i hi => ?_, fun m i hi => ?_, fun m i hi => ?_, fun hlimits m i v hv => ?_,
    fun s hs => ?_, fun c hc => ?_, fun c hc => ?_⟩
  · rw [EcsWalk.finish_reads] at hi
    rcases List.mem_cons.mp hi with rfl | hi
    · exact lt_trans (by decide) hcount
    · have hlt := hreads i hi
      omega
  · rw [EcsWalk.finish_keys] at hi
    exact hkeys m i hi
  · rw [EcsWalk.finish_keys] at hi
    obtain ⟨v, hv⟩ := hkeys m i hi
    rw [hv.text]
    exact hv.of_response
  · rw [EcsWalk.finish_keys]
    exact (members_of_keysAreMembers _ _ _ (Nat.le_succ _) hkeys (found_ne_none hkeys hlimits) hv
      hv.pos).1
  · rcases hfinish with ⟨hnone, -⟩ | ⟨-, -, ⟨i, v, hv, hmember⟩, -⟩
    · rw [hnone] at hs
      cases hs
    · rw [hv] at hs
      obtain rfl := Option.some.inj hs
      exact ⟨i, hmember⟩
  · rcases hfinish with ⟨-, hresult⟩ | ⟨hlimits, hall, -, -⟩
    · exact absurd hc (hresult c)
    · exact ⟨hall, hlimits⟩
  · rcases hfinish with ⟨-, hresult⟩ | ⟨-, -, -, hcredentials⟩
    · exact absurd hc (hresult c)
    · exact hcredentials c hc

/-- The response is parsed exactly when the names come up only as keys of the top-level object that
have a value, or as such a value, the expiration is not the only member that is missing, and the new
credentials have no empty value. -/
theorem parse_exact_iff (sdk : EcsSdk) {response : List Char} (parse : JsmnParse response)
    (call : EcsCall) :
    ParsedExactly sdk parse (ecsResponseWalk sdk { call with callInfo := parse.callInfo }) ↔
      (parse.Walked → parse.Regular sdk call.responseTime) := by
  by_cases hw : parse.Walked
  · rw [ecsResponseWalk_walked hw]
    constructor
    · exact fun h _ => regular_of_parsedExactly h
    · exact fun h => parsedExactly_of_regular hw (h hw)
  · exact iff_of_true (parsedExactly_of_not_walked hw sdk call) fun h => absurd h hw

end Response

/-! ## Four responses -/

section

variable {response : List Char}

/-- A string of the response, with what stands below it. -/
def stringAt (start stop : Nat) (h : start ≤ stop ∧ stop ≤ response.length ∧
      (start < stop → response[start]? ≠ some quotationMark) ∧ response[stop]? = some quotationMark)
    (below : List (RoseTree (JsmnSpan response))) : RoseTree (JsmnSpan response) :=
  .node ⟨.string, start, stop, h.1, h.2.1, h.2.2.1, fun _ => h.2.2.2, fun e => absurd rfl e⟩ below

def objectAt (start stop : Nat) (h : start < stop ∧ stop ≤ response.length ∧
      response[start]? ≠ some quotationMark)
    (below : List (RoseTree (JsmnSpan response))) : RoseTree (JsmnSpan response) :=
  .node ⟨.object, start, stop, h.1.le, h.2.1, fun _ => h.2.2, JsmnType.noConfusion, fun _ => h.1⟩ below

end

/-- What the array holds behind the tokens. -/
def noToken (_ : Nat) : JsmnToken := ⟨.primitive, [], []⟩

/-- The value of a member is a name, and stands last. -/
def lastValue : JsmnParse "\x7b\"x\":\"Token\"\x7d".toList :=
  .parsed [objectAt 0 13 (by decide) [stringAt 2 3 (by decide) [stringAt 6 11 (by decide) []]]]
    noToken

/-- A name is the key of an object that is a value. -/
def nestedKey : JsmnParse "\x7b\"a\":\x7b\"Token\":\"t\"\x7d\x7d".toList :=
  .parsed [objectAt 0 19 (by decide) [stringAt 2 3 (by decide) [objectAt 5 18 (by decide)
    [stringAt 7 12 (by decide) [stringAt 15 16 (by decide) []]]]]] noToken

/-- There is no expiration. -/
def noExpiration :
    JsmnParse "\x7b\"AccessKeyId\":\"A\",\"SecretAccessKey\":\"S\",\"Token\":\"T\"\x7d".toList :=
  .parsed [objectAt 0 53 (by decide) [stringAt 2 13 (by decide) [stringAt 16 17 (by decide) []],
    stringAt 20 35 (by decide) [stringAt 38 39 (by decide) []],
    stringAt 42 47 (by decide) [stringAt 50 51 (by decide) []]]] noToken

def emptyResponse : List Char := ("\x7b\"AccessKeyId\":\"\",\"SecretAccessKey\":\"S\",\"Token\":\"T\"," ++
  "\"Expiration\":\"2030-01-01T00:00:00Z\"\x7d").toList

/-- The access key is empty. -/
def emptyValue : JsmnParse emptyResponse :=
  .parsed [objectAt 0 88 (by decide) [stringAt 2 13 (by decide) [stringAt 16 16 (by decide) []],
    stringAt 19 34 (by decide) [stringAt 37 38 (by decide) []],
    stringAt 41 46 (by decide) [stringAt 49 50 (by decide) []],
    stringAt 53 63 (by decide) [stringAt 66 86 (by decide) []]]] noToken

/-- A call whose `expirationTimestampStr` holds the timestamp of an earlier one. -/
def ecsCallWith {response : List Char} (parse : JsmnParse response) : EcsCall :=
  { ecsCallAt 1891728000 with
    callInfo := parse.callInfo
    uninitialized := "2030-01-01T00:00:00Z".toList }

/-- A token behind the last is read, a nested key is taken, credentials are created from a response
that lacks their expiration, and the rest of a response is taken for an empty access key. -/
theorem parse_inexact :
    (3 ∈ (ecsResponseWalk sdk2030 (ecsCallWith lastValue)).reads ∧ lastValue.tokenCount = 3 ∧
      ¬ ParsedExactly sdk2030 lastValue (ecsResponseWalk sdk2030 (ecsCallWith lastValue))) ∧
    ((.token, 3) ∈ (ecsResponseWalk sdk2030 (ecsCallWith nestedKey)).keys ∧
      ¬ ParsedExactly sdk2030 nestedKey (ecsResponseWalk sdk2030 (ecsCallWith nestedKey))) ∧
    ((ecsResponseWalk sdk2030 (ecsCallWith noExpiration)).result =
        .ok ⟨"A".toList, "S".toList, "T".toList,
          1891728000 * ecsHundredsOfNanosInASecond + 1 + 2400 * ecsHundredsOfNanosInASecond⟩ ∧
      ¬ ParsedExactly sdk2030 noExpiration (ecsResponseWalk sdk2030 (ecsCallWith noExpiration))) ∧
    (ecsResponseWalk sdk2030 (ecsCallWith emptyValue)).result =
        .ok ⟨emptyResponse.drop 16, "S".toList, "T".toList,
          1891728000 * ecsHundredsOfNanosInASecond + 1 + 2400 * ecsHundredsOfNanosInASecond⟩ ∧
      ¬ ParsedExactly sdk2030 emptyValue (ecsResponseWalk sdk2030 (ecsCallWith emptyValue)) := by
  have hread : 3 ∈ (ecsResponseWalk sdk2030 (ecsCallWith lastValue)).reads := by decide
  have hkey : (.token, 3) ∈ (ecsResponseWalk sdk2030 (ecsCallWith nestedKey)).keys := by decide
  have hresult : (ecsResponseWalk sdk2030 (ecsCallWith noExpiration)).result =
      .ok ⟨"A".toList, "S".toList, "T".toList,
        1891728000 * ecsHundredsOfNanosInASecond + 1 + 2400 * ecsHundredsOfNanosInASecond⟩ := by
    rfl
  have hempty : (ecsResponseWalk sdk2030 (ecsCallWith emptyValue)).result =
      .ok ⟨emptyResponse.drop 16, "S".toList, "T".toList,
        1891728000 * ecsHundredsOfNanosInASecond + 1 + 2400 * ecsHundredsOfNanosInASecond⟩ := by
    rfl
  refine ⟨⟨hread, rfl, fun h => ?_⟩, ⟨hkey, fun h => ?_⟩, ⟨hresult, fun h => ?_⟩, hempty, fun h => ?_⟩
  · exact absurd (h.inBounds 3 hread) (by decide)
  · -- the only key of the top-level object stands at 1
    obtain ⟨v, -, _, _, ⟨_, before, _, _, _, _, htree, hi⟩, -⟩ := h.isKey .token 3 hkey
    injection htree with htree _
    injection htree with _ hchildren
    cases before with
    | nil => exact absurd hi (by decide)
    | cons t before =>
      injection hchildren with _ hrest
      cases before <;> cases hrest
  · obtain ⟨i, v, hv⟩ := (h.complete _ hresult).1 .expiration
    have hname : ∀ i < 7, EcsMember.ofToken (noExpiration.tokens i) ≠ some .expiration := by decide
    have hlt : i + 1 < 7 := hv.succ_lt
    exact hname i (by omega) hv.ofToken
  · -- the value of the only member with that name is empty
    obtain ⟨i, hi⟩ := (h.credentials _ hempty).1
    have hname : ∀ i < 9, EcsMember.ofToken (emptyValue.tokens i) = some .accessKeyId → i = 1 := by
      decide
    have hlt : i + 1 < 9 := hi.succ_lt
    obtain rfl := hname i (by omega) hi.ofToken
    exact absurd hi.text (by decide)

end WebrtcApp
