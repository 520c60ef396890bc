import WebrtcApp.Runs.Answers

/-!
# Outgoing messages

`respondWithAnswer` and `onIceCandidateHandler` build a message on the stack, in the buffers of a
`SignalingMessage` that nobody has cleared, and hand it to `sendAppSignalingMessage`.  The receiver's
id is copied up to `MAX_SIGNALING_CLIENT_ID_LEN`, without the terminator of an id of that length, and
a candidate up to `MAX_SIGNALING_MESSAGE_LEN`, without what goes beyond it.

    answer_reads_back_iff       an id that is shorter, or a NUL after it already
    gathering_reads_back_iff    the same for the answer at the end of the gathering
    candidate_reads_back_iff    and a candidate that fits
-/

namespace WebrtcApp

/-- `MAX_SIGNALING_MESSAGE_LEN` of the SDK. -/
def maxSignalingMessageLen : Nat := 10 * 1024

/-- `MAX_CORRELATION_ID_LEN` of the SDK. -/
def maxCorrelationIdLen : Nat := 256

/-- `SIGNALING_MESSAGE_CURRENT_VERSION` of the SDK. -/
def signalingMessageCurrentVersion : UInt32 := 0

/-- `SIGNALING_MESSAGE_TYPE_ANSWER`. -/
def signalingMessageTypeAnswer : SignalingMessageType := .other 1

/-- A `SignalingMessage` as its sender sees it. -/
structure OutgoingMessage where
  version : UInt32
  messageType : SignalingMessageType
  correlationId : Buffer (maxCorrelationIdLen + 1)
  peerClientId : Buffer (maxSignalingClientIdLen + 1)
  payloadLen : UInt32
  payload : Buffer (maxSignalingMessageLen + 1)

/-- `serializeSessionDescriptionInit`, for a description, the buffer before the call and its size. -/
abbrev Serializer (D : Type) :=
  D → Buffer (maxSignalingMessageLen + 1) → Nat → Status × Buffer (maxSignalingMessageLen + 1)

/-- A serialization that succeeds is whole, with its terminator. -/
def SerializesWhole {D : Type} (json : D → Chars) (serialize : Serializer D) : Prop :=
  ∀ d buf n, (serialize d buf n).1 = .success → (serialize d buf n).2.Holds (json d).bytes

namespace Outgoing

variable {D : Type} (serialize : Serializer D) (env : Env) (answer : D)

/-- The status, and the message that is handed over.  `message` is what the stack holds. -/
def respondWithAnswer (s : StreamingSession) (message : OutgoingMessage) :
    Status × Option OutgoingMessage :=
  match serialize answer message.payload maxSignalingMessageLen with
  | (st, payload) =>
    if st.failed then (st, none)
    else
      let message := { message with
        version := signalingMessageCurrentVersion
        messageType := signalingMessageTypeAnswer
        peerClientId := message.peerClientId.strncpy s.peerId.chars maxSignalingClientIdLen (by omega)
        payloadLen := UInt32.ofNat payload.text.length
        payload := payload
        correlationId := message.correlationId.strncpy [] 1 (by omega) }
      (env.status .sendAppSignalingMessage, some message)

/-- The session tests its peer, and the test for a candidate. -/
def sendsCandidate (s : StreamingSession) : Bool := s.remoteCanTrickleIce && s.peerIdReceived

/-- The end of the gathering is answered. -/
def sendsAnswer (role : SignalingChannelRoleType) (s : StreamingSession) : Bool :=
  role == .master && !s.remoteCanTrickleIce

/-- `candidateJson` is `none` for `NULL`; `answer` is what `createAnswer` writes. -/
def onIceCandidateHandler (role : SignalingChannelRoleType) (p : Option StreamingSession)
    (candidateJson : Option Chars) (message : OutgoingMessage) : Status × Option OutgoingMessage :=
  match p with
  | none => (.appCommonNullArg, none)
  | some s =>
    match candidateJson with
    | none =>
      if !sendsAnswer role s then (.success, none)
      else if !env.ok .createAnswer then (env.status .createAnswer, none)
      else respondWithAnswer serialize env answer s message
    | some candidate =>
      if !sendsCandidate s then (.success, none)
      else
        let payloadLen := CString.strnlen candidate.bytes maxSignalingMessageLen
        let message := { message with
          version := signalingMessageCurrentVersion
          messageType := .iceCandidate
          peerClientId :=
            message.peerClientId.strncpy s.peerId.chars maxSignalingClientIdLen (by omega)
          payloadLen := UInt32.ofNat payloadLen
          payload := message.payload.strncpy candidate.bytes payloadLen
            (Nat.le_succ_of_le CString.strnlen_le)
          correlationId := message.correlationId.strncpy [] 1 (by omega) }
        (env.status .sendAppSignalingMessage, some message)

end Outgoing

/-! ## What the receiver reads -/

/-- The message is one to `peerId`, with the text as its payload. -/
def OutgoingMessage.ReadsBack (m : OutgoingMessage) (peerId text : List UInt8) : Prop :=
  m.peerClientId.Holds peerId ∧ m.payload.bytes.take m.payloadLen.toNat = text

instance (m : OutgoingMessage) (peerId text : List UInt8) : Decidable (m.ReadsBack peerId text) :=
  inferInstanceAs (Decidable (_ ∧ _))

/-- The id is shorter than the bound of the copy, or a NUL is behind it already. -/
def OutgoingMessage.Terminates (m : OutgoingMessage) (peerId : ClientId) : Prop :=
  peerId.chars.length < maxSignalingClientIdLen ∨
    m.peerClientId.bytes[maxSignalingClientIdLen]? = some 0

namespace Outgoing

variable {D : Type} {json : D → Chars} {serialize : Serializer D} {env : Env} {answer : D}
  {s : StreamingSession} {message : OutgoingMessage}

theorem holds_peerClientId_iff :
    (message.peerClientId.strncpy s.peerId.chars maxSignalingClientIdLen (by omega)).Holds
      s.peerId.chars ↔ message.Terminates s.peerId :=
  Buffer.holds_strncpy_of_length_le s.peerId.nul_free s.peerId.length_le

theorem toNat_payloadLen {n : Nat} (hn : n ≤ maxSignalingMessageLen) :
    (UInt32.ofNat n).toNat = n := by
  unfold maxSignalingMessageLen at hn
  exact UInt32.toNat_ofNat_of_lt (by rw [UInt32.size]; omega)

/-- The bytes of a buffer up to the length of its string. -/
theorem take_payload {buf : Buffer (maxSignalingMessageLen + 1)} {text : List UInt8}
    (h : buf.Holds text) : buf.bytes.take (UInt32.ofNat buf.text.length).toNat = text := by
  have hlen : text.length ≤ maxSignalingMessageLen := Nat.lt_succ_iff.mp h.length_lt
  rw [h.text_eq, toNat_payloadLen hlen, h.take_eq]

/-- The bytes of a copy bounded by `STRNLEN` are the string where it fits. -/
theorem take_candidate_iff {buf : Buffer (maxSignalingMessageLen + 1)} {text : List UInt8} {n : Nat}
    (hn : n = CString.strnlen text maxSignalingMessageLen) (hk : n ≤ maxSignalingMessageLen + 1) :
    (buf.strncpy text n hk).bytes.take (UInt32.ofNat n).toNat = text ↔
      text.length ≤ maxSignalingMessageLen := by
  have hmax : n ≤ maxSignalingMessageLen := hn ▸ CString.strnlen_le
  have hle : n ≤ text.length := hn ▸ Nat.min_le_left ..
  have hbytes : (buf.strncpy text n hk).bytes.take n = text.take n := CString.take_strncpy hle
  rw [toNat_payloadLen hmax, hbytes, List.take_eq_self_iff, hn]
  unfold CString.strnlen
  omega

/-- What is handed over by `respondWithAnswer`. -/
theorem handed_respondWithAnswer :
    (∃ m, (respondWithAnswer serialize env answer s message).2 = some m) ↔
      (serialize answer message.payload maxSignalingMessageLen).1 = .success := by
  unfold respondWithAnswer
  simp only
  split_ifs with h
  · refine iff_of_false ?_ (Status.failed_eq_true.mp h)
    rintro ⟨m, hm⟩
    cases hm
  · exact iff_of_true ⟨_, rfl⟩ (Status.failed_eq_false.mp (Bool.eq_false_iff.mpr h))

/-- An answer that is handed over reads back where its id is terminated. -/
theorem respondWithAnswer_readsBack (hs : SerializesWhole json serialize) {m : OutgoingMessage}
    (hm : (respondWithAnswer serialize env answer s message).2 = some m) :
    m.ReadsBack s.peerId.chars (json answer).bytes ↔ message.Terminates s.peerId := by
  have hok := handed_respondWithAnswer.mp ⟨m, hm⟩
  have hwhole := hs _ _ _ hok
  unfold respondWithAnswer at hm
  simp only [hok, Status.failed, bne_self_eq_false, Bool.false_eq_true, if_false] at hm
  obtain rfl := Option.some.inj hm
  unfold OutgoingMessage.ReadsBack
  rw [holds_peerClientId_iff]
  exact and_iff_left (take_payload hwhole)

theorem answer_reads_back_iff (hs : SerializesWhole json serialize) :
    (∀ m, (respondWithAnswer serialize env answer s message).2 = some m →
        m.ReadsBack s.peerId.chars (json answer).bytes) ↔
      ((serialize answer message.payload maxSignalingMessageLen).1 = .success →
        message.Terminates s.peerId) := by
  constructor
  · intro h hok
    obtain ⟨m, hm⟩ : ∃ m, (respondWithAnswer serialize env answer s message).2 = some m :=
      handed_respondWithAnswer.mpr hok
    exact (respondWithAnswer_readsBack hs hm).mp (h m hm)
  · intro h m hm
    exact (respondWithAnswer_readsBack hs hm).mpr (h (handed_respondWithAnswer.mp ⟨m, hm⟩))

/-- The callback without a candidate. -/
theorem gathering_reads_back_iff (hs : SerializesWhole json serialize)
    {role : SignalingChannelRoleType} :
    (∀ m, (onIceCandidateHandler serialize env answer role (some s) none message).2 = some m →
        m.ReadsBack s.peerId.chars (json answer).bytes) ↔
      (sendsAnswer role s = true → env.ok .createAnswer = true →
        (serialize answer message.payload maxSignalingMessageLen).1 = .success →
        message.Terminates s.peerId) := by
  unfold onIceCandidateHandler
  simp only
  by_cases hsend : sendsAnswer role s = true
  · by_cases hcreate : env.ok .createAnswer = true
    · simp only [hsend, hcreate, Bool.not_true, Bool.false_eq_true, if_false, true_imp_iff]
      exact answer_reads_back_iff hs
    · simp [hsend, hcreate]
  · simp [hsend]

/-- A candidate that is handed over reads back where its id is terminated and it fits. -/
theorem candidate_readsBack {role : SignalingChannelRoleType} {candidate : Chars}
    {m : OutgoingMessage}
    (hm : (onIceCandidateHandler serialize env answer role (some s) (some candidate) message).2 =
      some m) :
    m.ReadsBack s.peerId.chars candidate.bytes ↔
      message.Terminates s.peerId ∧ candidate.bytes.length ≤ maxSignalingMessageLen := by
  unfold onIceCandidateHandler at hm
  by_cases h : sendsCandidate s = true
  · simp only [h, Bool.not_true, Bool.false_eq_true, if_false] at hm
    obtain rfl := Option.some.inj hm
    exact and_congr holds_peerClientId_iff
      (take_candidate_iff rfl (Nat.le_succ_of_le CString.strnlen_le))
  · simp only [Bool.eq_false_iff.mpr h, Bool.not_false, if_true] at hm
    cases hm

/-- A candidate is handed over wherever the session trickles and knows its peer. -/
theorem handed_candidate {role : SignalingChannelRoleType} {candidate : Chars} :
    (∃ m, (onIceCandidateHandler serialize env answer role (some s) (some candidate) message).2 =
      some m) ↔ sendsCandidate s = true := by
  unfold onIceCandidateHandler
  by_cases h : sendsCandidate s = true
  · simp only [h, Bool.not_true, Bool.false_eq_true, if_false]
    exact iff_of_true ⟨_, rfl⟩ trivial
  · simp only [Bool.eq_false_iff.mpr h, Bool.not_false, if_true]
    refine iff_of_false ?_ Bool.false_ne_true
    rintro ⟨m, hm⟩
    cases hm

/-- A candidate that is handed over, but not as it should be. -/
theorem candidate_misread {role : SignalingChannelRoleType} {candidate : Chars}
    (hsend : sendsCandidate s = true)
    (h : ¬(message.Terminates s.peerId ∧ candidate.bytes.length ≤ maxSignalingMessageLen)) :
    ∃ m, (onIceCandidateHandler serialize env answer role (some s) (some candidate) message).2 =
      some m ∧ ¬ m.ReadsBack s.peerId.chars candidate.bytes := by
  obtain ⟨m, hm⟩ : ∃ m, (onIceCandidateHandler serialize env answer role (some s) (some candidate)
      message).2 = some m := handed_candidate.mpr hsend
  exact ⟨m, hm, fun hread => h ((candidate_readsBack hm).mp hread)⟩

theorem candidate_reads_back_iff {role : SignalingChannelRoleType} (candidate : Chars) :
    (∀ m, (onIceCandidateHandler serialize env answer role (some s) (some candidate) message).2 =
        some m → m.ReadsBack s.peerId.chars candidate.bytes) ∧
      (maxSignalingMessageLen < candidate.bytes.length →
        (onIceCandidateHandler serialize env answer role (some s) (some candidate) message).2 = none) ↔
      (sendsCandidate s = true →
        message.Terminates s.peerId ∧ candidate.bytes.length ≤ maxSignalingMessageLen) := by
  constructor
  · rintro ⟨h, -⟩ hsend
    by_contra hnot
    obtain ⟨m, hm, hmis⟩ := candidate_misread hsend hnot
    exact hmis (h m hm)
  · intro h
    constructor
    · intro m hm
      exact (candidate_readsBack hm).mpr (h (handed_candidate.mp ⟨m, hm⟩))
    · intro hlong
      rw [Option.eq_none_iff_forall_ne_some]
      intro m hm
      have := (h (handed_candidate.mp ⟨m, hm⟩)).2
      omega

/-- What is handed over reads back exactly where the id is terminated and a candidate fits. -/
theorem outgoing_messages_read_back_iff (hs : SerializesWhole json serialize) (env : Env)
    (answer : D) (role : SignalingChannelRoleType) (s : StreamingSession)
    (message : OutgoingMessage) :
    ((∀ m, (respondWithAnswer serialize env answer s message).2 = some m →
        m.ReadsBack s.peerId.chars (json answer).bytes) ↔
      ((serialize answer message.payload maxSignalingMessageLen).1 = .success →
        message.Terminates s.peerId)) ∧
    ((∀ m, (onIceCandidateHandler serialize env answer role (some s) none message).2 = some m →
        m.ReadsBack s.peerId.chars (json answer).bytes) ↔
      (sendsAnswer role s = true → env.ok .createAnswer = true →
        (serialize answer message.payload maxSignalingMessageLen).1 = .success →
        message.Terminates s.peerId)) ∧
    ∀ candidate : Chars,
      ((∀ m, (onIceCandidateHandler serialize env answer role (some s) (some candidate) message).2 =
          some m → m.ReadsBack s.peerId.chars candidate.bytes) ∧
        (maxSignalingMessageLen < candidate.bytes.length →
          (onIceCandidateHandler serialize env answer role (some s) (some candidate) message).2 =
            none) ↔
        (sendsCandidate s = true →
          message.Terminates s.peerId ∧ candidate.bytes.length ≤ maxSignalingMessageLen)) :=
  ⟨answer_reads_back_iff hs, gathering_reads_back_iff hs, candidate_reads_back_iff⟩

/-! ### Concrete messages -/

/-- The string and its terminator are written where they fit. -/
def serializeWith (json : D → Chars) : Serializer D := fun d buf n =>
  if h : (json d).bytes.length < n ∧ n ≤ maxSignalingMessageLen + 1 then
    (.success, buf.strncpy (json d).bytes ((json d).bytes.length + 1) (by omega))
  else (.sdk 0x4000000A, buf)

theorem serializeWith_whole (json : D → Chars) : SerializesWhole json (serializeWith json) := by
  intro d buf n h
  unfold serializeWith at h ⊢
  split_ifs at h ⊢
  exact (CString.holds_strncpy_iff (json d).nul_free).mpr (Or.inl (Nat.lt_succ_self _))

/-- The text `{}`. -/
def emptyObject : Chars := ⟨[123, 125], by decide⟩

/-- A candidate of one byte too many. -/
def longCandidate : Chars := .repeated (maxSignalingMessageLen + 1) 97 (by decide)

/-- A client id of `MAX_SIGNALING_CLIENT_ID_LEN` characters. -/
def longClientId : ClientId where
  chars := List.replicate maxSignalingClientIdLen 65
  nul_free := by simp
  length_le := by simp

/-- A stack of `B`s. -/
def uncleared : OutgoingMessage where
  version := 0
  messageType := .offer
  correlationId := .filled _ 66
  peerClientId := .filled _ 66
  payloadLen := 0
  payload := .filled _ 66

def sessionOf (peerId : ClientId) : StreamingSession :=
  { (default : StreamingSession) with
    pAppConfiguration := true, peerIdReceived := true, peerId := peerId, remoteCanTrickleIce := true }

theorem outgoing_messages_read_back_short :
    ((∀ m, (respondWithAnswer (serializeWith fun _ : Unit => emptyObject) Env.allOk ()
          (sessionOf clientA) uncleared).2 = some m →
        m.ReadsBack clientA.chars emptyObject.bytes) ∧
      ∀ m, (onIceCandidateHandler (serializeWith fun _ : Unit => emptyObject) Env.allOk () .master
          (some (sessionOf clientA)) (some emptyObject) uncleared).2 = some m →
        m.ReadsBack clientA.chars emptyObject.bytes) := by
  have hterm : uncleared.Terminates (sessionOf clientA).peerId := Or.inl (by decide)
  have h := outgoing_messages_read_back_iff (serializeWith_whole fun _ : Unit => emptyObject)
    Env.allOk () .master (sessionOf clientA) uncleared
  exact ⟨h.1.mpr fun _ => hterm, ((h.2.2 emptyObject).mpr fun _ => ⟨hterm, by decide⟩).1⟩

/-- The byte behind the id is read as well, and the candidate is cut off. -/
theorem long_messages_misread :
    (∃ m, (onIceCandidateHandler (serializeWith fun _ : Unit => emptyObject) Env.allOk () .master
        (some (sessionOf longClientId)) (some emptyObject) uncleared).2 = some m ∧
      ¬ m.ReadsBack longClientId.chars emptyObject.bytes) ∧
    ∃ m, (onIceCandidateHandler (serializeWith fun _ : Unit => emptyObject) Env.allOk () .master
        (some (sessionOf clientA)) (some longCandidate) uncleared).2 = some m ∧
      ¬ m.ReadsBack clientA.chars longCandidate.bytes := by
  constructor
  · refine candidate_misread rfl fun h => ?_
    rcases h.1 with hlt | hnul
    · simp [sessionOf, longClientId] at hlt
    · simp [uncleared, Buffer.filled] at hnul
  · refine candidate_misread rfl fun h => ?_
    exact absurd (Chars.length_repeated ▸ h.2) (by decide)

end Outgoing

/-! ## The messages of a session -/

/-- What the machine of a session records of a message is what is read from the one handed over. -/
theorem AnswerState.sendMessage_of_handed {D : Type} {serialize : Serializer D} {env : Env}
    {d : D} {s : AnswerState} {message m : OutgoingMessage}
    (hm : (Outgoing.respondWithAnswer serialize env d s.session message).2 = some m)
    (sender : MessageSender) :
    s.sendMessage true sender message.peerClientId.bytes =
      { s with sent := s.sent ++ [⟨true, m.peerClientId.text, sender⟩] } := by
  have hok := Outgoing.handed_respondWithAnswer.mp ⟨m, hm⟩
  unfold Outgoing.respondWithAnswer at hm
  simp only [hok, Status.failed, bne_self_eq_false, Bool.false_eq_true, if_false] at hm
  obtain rfl := Option.some.inj hm
  rfl

end WebrtcApp
