import WebrtcApp.App.Signaling
import WebrtcApp.Lib.CString
import WebrtcApp.Lib.Run

/-!
# One answer per session

`handleOffer` and the ICE callbacks of one session, one step at a time.  The callbacks run on
threads of the SDK: any number of `onIceCandidateHandler` calls with a candidate, and one
without, once `setLocalDescription` has been called.  Any call can fail.

`remoteCanTrickleIce` decides in `handleOffer` and in the last callback who sends the answer.
It is written before `setLocalDescription` is called, so both read the same value
(`AnswersOk.settled`), and one answer is sent (`one_answer`).

    AnswersOk.step      the invariant, for every step and callback
    offer_done          with every call succeeding `handleOffer` comes to its end
    gathering_done      and so does the callback without a candidate
-/

namespace WebrtcApp

open CString

/-! ## The machine -/

inductive SignalingChannelRoleType
  | master
  | viewer
  deriving DecidableEq

/-- The next step of `handleOffer`; in `settingLocal` it has called `setLocalDescription`. -/
inductive OfferPhase
  | deserialize
  | setRemote
  | canTrickle
  | setLocal
  | settingLocal
  | test
  | createAnswer
  | serialize
  | send
  | startMedia
  | done
  | failed
  deriving DecidableEq

/-- The callback without a candidate: not called yet, or its next step. -/
inductive GatheringPhase
  | running
  | test
  | createAnswer
  | serialize
  | send
  | done
  | failed
  deriving DecidableEq

inductive MessageSender
  | handleOffer
  | gatheringFinished
  | localCandidate
  deriving DecidableEq

/-- A message given to `sendAppSignalingMessage`, with the address that is read from it. -/
structure SentMessage where
  answer : Bool
  peerClientId : List UInt8
  sender : MessageSender
  deriving DecidableEq

/-- `peerTrickles` is what `canTrickleIceCandidates` finds in the offer, `localDescription` that
`setLocalDescription` has been called.  `candidates` callbacks have passed the test for a
candidate and have not sent it. -/
structure AnswerState where
  session : StreamingSession
  channelRoleType : SignalingChannelRoleType
  peerTrickles : Bool
  offer : OfferPhase
  localDescription : Bool
  gathering : GatheringPhase
  candidates : Nat
  sent : List SentMessage

/-- `ok` is the result of the call of the step, `stack` what `message.peerClientId` holds before
it is written. -/
inductive AnswerAction
  | offer (ok : Bool) (stack : List UInt8)
  | gatheringFinished
  | gathering (ok : Bool) (stack : List UInt8)
  | localCandidate
  | candidateSend (stack : List UInt8)

namespace AnswerState

/-- A session after `createStreamingSession`. -/
def start (peerId : ClientId) (peerTrickles : Bool) : AnswerState where
  session := { (default : StreamingSession) with
    peerIdReceived := true, pAppConfiguration := true, peerId := peerId }
  channelRoleType := .master
  peerTrickles := peerTrickles
  offer := .deserialize
  localDescription := false
  gathering := .running
  candidates := 0
  sent := []

/-- The message is built and sent; the send itself can fail. -/
def sendMessage (answer : Bool) (sender : MessageSender) (stack : List UInt8) (s : AnswerState) :
    AnswerState :=
  { s with sent := s.sent ++
    [⟨answer, cString (strncpy stack s.session.peerId.chars maxSignalingClientIdLen), sender⟩] }

def offerStep (ok : Bool) (stack : List UInt8) (s : AnswerState) : AnswerState :=
  let chk (next : OfferPhase) (s : AnswerState) : AnswerState :=
    { s with offer := if ok then next else .failed }
  match s.offer with
  | .deserialize => chk .setRemote s
  | .setRemote => chk .canTrickle s
  | .canTrickle =>
    { s with session := { s.session with remoteCanTrickleIce := s.peerTrickles }, offer := .setLocal }
  | .setLocal => { s with localDescription := true, offer := .settingLocal }
  | .settingLocal => chk .test s
  | .test =>
    { s with offer := if s.session.remoteCanTrickleIce then .createAnswer else .startMedia }
  | .createAnswer => chk .serialize s
  | .serialize => chk .send s
  | .send => chk .startMedia (s.sendMessage true .handleOffer stack)
  | .startMedia => { s with offer := .done }
  | .done | .failed => s

/-- The callback that reports the end of the gathering, once. -/
def gatheringStep (ok : Bool) (stack : List UInt8) (s : AnswerState) : AnswerState :=
  let chk (next : GatheringPhase) (s : AnswerState) : AnswerState :=
    { s with gathering := if ok then next else .failed }
  match s.gathering with
  | .test =>
    { s with gathering :=
        if s.channelRoleType = .master ∧ s.session.remoteCanTrickleIce = false then .createAnswer
        else .done }
  | .createAnswer => chk .serialize s
  | .serialize => chk .send s
  | .send => chk .done (s.sendMessage true .gatheringFinished stack)
  | .running | .done | .failed => s

def step (s : AnswerState) : AnswerAction → AnswerState
  | .offer ok stack => s.offerStep ok stack
  | .gatheringFinished =>
    if s.gathering = .running ∧ s.localDescription = true then { s with gathering := .test } else s
  | .gathering ok stack => s.gatheringStep ok stack
  | .localCandidate =>
    if s.session.remoteCanTrickleIce && s.session.peerIdReceived then
      { s with candidates := s.candidates + 1 }
    else s
  | .candidateSend stack =>
    if s.candidates = 0 then s
    else { s.sendMessage false .localCandidate stack with candidates := s.candidates - 1 }

/-- Who sent the answers. -/
def answers (s : AnswerState) : List MessageSender := (s.sent.filter (·.answer)).map (·.sender)

end AnswerState

/-! ## The invariant -/

namespace OfferPhase

/-- `remoteCanTrickleIce` is not written yet. -/
def early : OfferPhase → Bool
  | .deserialize | .setRemote | .canTrickle => true
  | _ => false

/-- `setLocalDescription` has been called, and no call of `handleOffer` has failed. -/
def pastLocal : OfferPhase → Bool
  | .settingLocal | .test | .createAnswer | .serialize | .send | .startMedia | .done => true
  | _ => false

/-- `handleOffer` is about to answer. -/
def answering : OfferPhase → Bool
  | .createAnswer | .serialize | .send => true
  | _ => false

/-- A peer that trickles has its answer. -/
def answered : OfferPhase → Bool
  | .startMedia | .done => true
  | _ => false

end OfferPhase

/-- The callback is about to answer. -/
def GatheringPhase.answering : GatheringPhase → Bool
  | .createAnswer | .serialize | .send => true
  | _ => false

structure AnswersOk (s : AnswerState) : Prop where
  role : s.channelRoleType = .master
  early : s.offer.early = true → s.localDescription = false
  past : s.offer.pastLocal = true → s.localDescription = true
  trickles : s.session.remoteCanTrickleIce = true → s.peerTrickles = true
  written : s.offer = .setLocal → s.session.remoteCanTrickleIce = s.peerTrickles
  settled : s.localDescription = true → s.session.remoteCanTrickleIce = s.peerTrickles
  finished : s.gathering ≠ .running → s.localDescription = true
  offerAnswering : s.offer.answering = true → s.peerTrickles = true
  gatheringAnswering : s.gathering.answering = true → s.peerTrickles = false
  candidates : s.candidates ≠ 0 → s.peerTrickles = true
  offerAnswers : s.peerTrickles = true →
    (s.answers = [] ∧ s.offer.answered = false) ∨
      (s.answers = [.handleOffer] ∧ (s.offer.answered = true ∨ s.offer = .failed))
  gatheringAnswers : s.peerTrickles = false →
    (s.answers = [] ∧ s.gathering ≠ .done) ∨
      (s.answers = [.gatheringFinished] ∧ (s.gathering = .done ∨ s.gathering = .failed))
  sentCandidates : s.peerTrickles = false → ∀ m ∈ s.sent, m.answer = true
  addressed : s.session.peerId.chars.length < maxSignalingClientIdLen →
    ∀ m ∈ s.sent, m.peerClientId = s.session.peerId.chars

namespace AnswersOk

variable {s : AnswerState}

theorem start (peerId : ClientId) (peerTrickles : Bool) :
    AnswersOk (AnswerState.start peerId peerTrickles) where
  role := rfl
  early _ := rfl
  past h := absurd h Bool.noConfusion
  trickles h := absurd h Bool.noConfusion
  written h := absurd h OfferPhase.noConfusion
  settled h := absurd h Bool.noConfusion
  finished h := absurd rfl h
  offerAnswering h := absurd h Bool.noConfusion
  gatheringAnswering h := absurd h Bool.noConfusion
  candidates h := absurd rfl h
  offerAnswers _ := Or.inl ⟨rfl, rfl⟩
  gatheringAnswers _ := Or.inl ⟨rfl, GatheringPhase.noConfusion⟩
  sentCandidates _ _ hm := absurd hm List.not_mem_nil
  addressed _ _ hm := absurd hm List.not_mem_nil

/-! ### What is sent -/

theorem answers_sendMessage {sender : MessageSender} {stack : List UInt8} :
    (s.sendMessage true sender stack).answers = s.answers ++ [sender] := by
  simp [AnswerState.answers, AnswerState.sendMessage]

theorem answers_sendCandidate {sender : MessageSender} {stack : List UInt8} :
    (s.sendMessage false sender stack).answers = s.answers := by
  simp [AnswerState.answers, AnswerState.sendMessage]

theorem addressed_sendMessage (h : AnswersOk s) {answer : Bool} {sender : MessageSender}
    {stack : List UInt8} (hlen : s.session.peerId.chars.length < maxSignalingClientIdLen) :
    ∀ m ∈ (s.sendMessage answer sender stack).sent, m.peerClientId = s.session.peerId.chars := by
  intro m hm
  rcases List.mem_append.mp hm with hm | hm
  · exact h.addressed hlen m hm
  · rw [List.mem_singleton.mp hm]
    exact cString_strncpy s.session.peerId.nul_free hlen

theorem answer_sendMessage (h : AnswersOk s) {sender : MessageSender} {stack : List UInt8}
    (ht : s.peerTrickles = false) : ∀ m ∈ (s.sendMessage true sender stack).sent, m.answer = true := by
  intro m hm
  rcases List.mem_append.mp hm with hm | hm
  · exact h.sentCandidates ht m hm
  · rw [List.mem_singleton.mp hm]

/-! ### handleOffer -/

/-- `handleOffer` goes on, without a message. -/
theorem setOffer (h : AnswersOk s) {o : OfferPhase} (he : o.early = true → s.offer.early = true)
    (hp : o.pastLocal = true → s.offer.pastLocal = true) (hw : o ≠ .setLocal)
    (ha : o.answering = true → s.peerTrickles = true)
    (hd : s.peerTrickles = true → o.answered = s.offer.answered)
    (hf : s.offer ≠ .failed) : AnswersOk { s with offer := o } := by
  refine { h with
    early := fun e => h.early (he e)
    past := fun e => h.past (hp e)
    written := fun e => absurd e hw
    offerAnswering := ha
    offerAnswers := fun ht => ?_ }
  rcases h.offerAnswers ht with ⟨hnone, hans⟩ | ⟨hone, hans⟩
  · exact Or.inl ⟨hnone, (hd ht).trans hans⟩
  · exact Or.inr ⟨hone, Or.inl ((hd ht).trans (hans.resolve_right hf))⟩

/-- A call of `handleOffer` with its `CHK_STATUS`. -/
theorem chkOffer (h : AnswersOk s) (ok : Bool) {o : OfferPhase}
    (he : o.early = true → s.offer.early = true)
    (hp : o.pastLocal = true → s.offer.pastLocal = true) (hw : o ≠ .setLocal)
    (ha : o.answering = true → s.peerTrickles = true) (ho : o.answered = false)
    (hs : s.offer.answered = false) (hf : s.offer ≠ .failed) :
    AnswersOk { s with offer := if ok then o else .failed } := by
  cases ok with
  | true => exact h.setOffer he hp hw ha (fun _ => ho.trans hs.symm) hf
  | false =>
    exact h.setOffer (fun e => absurd e Bool.noConfusion) (fun e => absurd e Bool.noConfusion)
      OfferPhase.noConfusion (fun e => absurd e Bool.noConfusion) (fun _ => hs.symm) hf

/-- Before `handleOffer` has sent its answer there is none. -/
theorem no_answer (h : AnswersOk s) (ht : s.peerTrickles = true)
    (hans : s.offer.answered = false) (hf : s.offer ≠ .failed) : s.answers = [] := by
  rcases h.offerAnswers ht with ⟨hnone, -⟩ | ⟨-, hans' | hfailed⟩
  · exact hnone
  · exact absurd (hans.symm.trans hans') Bool.noConfusion
  · exact absurd hfailed hf

/-- `handleOffer` sends its answer. -/
theorem offerSend (h : AnswersOk s) (ok : Bool) (stack : List UInt8) (hs : s.offer = .send) :
    AnswersOk { s.sendMessage true .handleOffer stack with
      offer := if ok then .startMedia else .failed } := by
  have ht : s.peerTrickles = true := h.offerAnswering (by rw [hs]; rfl)
  have hnone : s.answers = [] := h.no_answer ht (by rw [hs]; rfl) (by rw [hs]; decide)
  have hld : s.localDescription = true := h.past (by rw [hs]; rfl)
  have hno : ∀ {P : Prop}, s.peerTrickles = false → P :=
    fun e => absurd (ht.symm.trans e) Bool.noConfusion
  refine { h with
    early := fun e => by cases ok <;> cases e
    past := fun _ => hld
    written := fun e => by cases ok <;> cases e
    offerAnswering := fun _ => ht
    offerAnswers := fun _ => Or.inr ⟨?_, ?_⟩
    gatheringAnswers := fun e => hno e
    sentCandidates := fun e => hno e
    addressed := fun hlen => h.addressed_sendMessage hlen }
  · show (s.sendMessage true .handleOffer stack).answers = _
    rw [answers_sendMessage, hnone]
    rfl
  · cases ok
    · exact Or.inr rfl
    · exact Or.inl rfl

theorem offerStep (h : AnswersOk s) (ok : Bool) (stack : List UInt8) :
    AnswersOk (s.offerStep ok stack) := by
  have hbefore : ∀ {o : OfferPhase}, s.offer = o → o.answered = false → s.offer.answered = false :=
    fun e ho => e ▸ ho
  unfold AnswerState.offerStep
  cases ho : s.offer with
  | deserialize =>
    exact h.chkOffer ok (fun _ => by rw [ho]; rfl) (fun e => absurd e Bool.noConfusion)
      OfferPhase.noConfusion (fun e => absurd e Bool.noConfusion) rfl (hbefore ho rfl) (by rw [ho]; decide)
  | setRemote =>
    exact h.chkOffer ok (fun _ => by rw [ho]; rfl) (fun e => absurd e Bool.noConfusion)
      OfferPhase.noConfusion (fun e => absurd e Bool.noConfusion) rfl (hbefore ho rfl) (by rw [ho]; decide)
  | canTrickle =>
    -- the only write of remoteCanTrickleIce: no callback has read it for an answer yet
    have hld : s.localDescription = false := h.early (by rw [ho]; rfl)
    refine { h with
      early := fun e => absurd e Bool.noConfusion
      past := fun e => absurd e Bool.noConfusion
      trickles := id
      written := fun _ => rfl
      settled := fun _ => rfl
      offerAnswering := fun e => absurd e Bool.noConfusion
      offerAnswers := fun ht => Or.inl ⟨?_, rfl⟩ }
    exact h.no_answer ht (by rw [ho]; rfl) (by rw [ho]; decide)
  | setLocal =>
    have hwritten := h.written ho
    refine { h with
      early := fun e => absurd e Bool.noConfusion
      past := fun _ => rfl
      written := fun e => absurd e OfferPhase.noConfusion
      settled := fun _ => hwritten
      finished := fun _ => rfl
      offerAnswering := fun e => absurd e Bool.noConfusion
      offerAnswers := fun ht => Or.inl ⟨?_, rfl⟩ }
    exact h.no_answer ht (by rw [ho]; rfl) (by rw [ho]; decide)
  | settingLocal =>
    exact h.chkOffer ok (fun e => absurd e Bool.noConfusion) (fun _ => by rw [ho]; rfl)
      OfferPhase.noConfusion (fun e => absurd e Bool.noConfusion) rfl (hbefore ho rfl) (by rw [ho]; decide)
  | test =>
    have hsettled := h.settled (h.past (by rw [ho]; rfl))
    have hf : s.offer ≠ .failed := by rw [ho]; decide
    cases ht : s.session.remoteCanTrickleIce with
    | true =>
      exact h.setOffer (fun e => absurd e Bool.noConfusion) (fun _ => by rw [ho]; rfl)
        OfferPhase.noConfusion (fun _ => h.trickles ht) (fun _ => (hbefore ho rfl).symm) hf
    | false =>
      refine h.setOffer (fun e => absurd e Bool.noConfusion) (fun _ => by rw [ho]; rfl)
        OfferPhase.noConfusion (fun e => absurd e Bool.noConfusion) (fun e => ?_) hf
      exact absurd (e.symm.trans (hsettled.symm.trans ht)) Bool.noConfusion
  | createAnswer =>
    exact h.chkOffer ok (fun e => absurd e Bool.noConfusion) (fun _ => by rw [ho]; rfl)
      OfferPhase.noConfusion (fun _ => h.offerAnswering (by rw [ho]; rfl)) rfl (hbefore ho rfl)
      (by rw [ho]; decide)
  | serialize =>
    exact h.chkOffer ok (fun e => absurd e Bool.noConfusion) (fun _ => by rw [ho]; rfl)
      OfferPhase.noConfusion (fun _ => h.offerAnswering (by rw [ho]; rfl)) rfl (hbefore ho rfl)
      (by rw [ho]; decide)
  | send => exact h.offerSend ok stack ho
  | startMedia =>
    exact h.setOffer (fun e => absurd e Bool.noConfusion) (fun _ => by rw [ho]; rfl)
      OfferPhase.noConfusion (fun e => absurd e Bool.noConfusion) (fun _ => by rw [ho]; rfl)
      (by rw [ho]; decide)
  | done => exact h
  | failed => exact h

/-! ### The callbacks -/

/-- The callback without a candidate goes on, without a message. -/
theorem setGathering (h : AnswersOk s) {g : GatheringPhase} (hld : s.localDescription = true)
    (ha : g.answering = true → s.peerTrickles = false)
    (hdone : s.peerTrickles = false → g ≠ .done)
    (hs : s.gathering ≠ .done ∧ s.gathering ≠ .failed) : AnswersOk { s with gathering := g } := by
  refine { h with
    finished := fun _ => hld
    gatheringAnswering := ha
    gatheringAnswers := fun ht => ?_ }
  rcases h.gatheringAnswers ht with ⟨hnone, -⟩ | ⟨-, hans | hans⟩
  · exact Or.inl ⟨hnone, hdone ht⟩
  · exact absurd hans hs.1
  · exact absurd hans hs.2

/-- A call of the callback with its `CHK_STATUS`, after it has decided to answer. -/
theorem chkGathering (h : AnswersOk s) (ok : Bool) {g g' : GatheringPhase} (hg : s.gathering = g)
    (ha : g.answering = true) (hrunning : g ≠ .running) (hs : g ≠ .done ∧ g ≠ .failed)
    (hdone : g' ≠ .done) : AnswersOk { s with gathering := if ok then g' else .failed } := by
  subst hg
  refine h.setGathering (h.finished hrunning) (fun _ => h.gatheringAnswering ha) (fun _ => ?_) hs
  cases ok
  · exact GatheringPhase.noConfusion
  · exact hdone

theorem gatheringSend (h : AnswersOk s) (ok : Bool) (stack : List UInt8) (hs : s.gathering = .send) :
    AnswersOk { s.sendMessage true .gatheringFinished stack with
      gathering := if ok then .done else .failed } := by
  have ht : s.peerTrickles = false := h.gatheringAnswering (by rw [hs]; rfl)
  have hnone : s.answers = [] := by
    rcases h.gatheringAnswers ht with ⟨hnone, -⟩ | ⟨-, hans | hans⟩
    · exact hnone
    · rw [hs] at hans
      cases hans
    · rw [hs] at hans
      cases hans
  have hld : s.localDescription = true := h.finished (by rw [hs]; decide)
  refine { h with
    finished := fun _ => hld
    gatheringAnswering := fun _ => ht
    offerAnswers := fun e => absurd (e.symm.trans ht) Bool.noConfusion
    gatheringAnswers := fun _ => Or.inr ⟨?_, ?_⟩
    sentCandidates := fun _ => h.answer_sendMessage ht
    addressed := fun hlen => h.addressed_sendMessage hlen }
  · show (s.sendMessage true .gatheringFinished stack).answers = _
    rw [answers_sendMessage, hnone]
    rfl
  · cases ok
    · exact Or.inr rfl
    · exact Or.inl rfl

theorem gatheringStep (h : AnswersOk s) (ok : Bool) (stack : List UInt8) :
    AnswersOk (s.gatheringStep ok stack) := by
  unfold AnswerState.gatheringStep
  have hld : s.gathering ≠ .running → s.localDescription = true := h.finished
  cases hg : s.gathering with
  | running => exact h
  | test =>
    have hld := hld (by rw [hg]; decide)
    have hs : s.gathering ≠ .done ∧ s.gathering ≠ .failed := by
      rw [hg]
      decide
    have hsettled := h.settled hld
    cases ht : s.session.remoteCanTrickleIce with
    | true =>
      refine h.setGathering hld (fun e => ?_) (fun e => ?_) hs
      · simp [h.role] at e
        cases e
      · exact absurd (h.trickles ht) (by rw [e]; decide)
    | false =>
      refine h.setGathering hld (fun _ => hsettled.symm.trans ht) (fun _ => ?_) hs
      simp [h.role]
  | createAnswer => exact h.chkGathering ok hg rfl (by decide) (by decide) (by decide)
  | serialize => exact h.chkGathering ok hg rfl (by decide) (by decide) (by decide)
  | send => exact h.gatheringSend ok stack hg
  | done => exact h
  | failed => exact h

theorem candidateSend (h : AnswersOk s) (stack : List UInt8) (hs : s.candidates ≠ 0) :
    AnswersOk { s.sendMessage false .localCandidate stack with candidates := s.candidates - 1 } := by
  have ht : s.peerTrickles = true := h.candidates hs
  refine { h with
    candidates := fun _ => ht
    offerAnswers := fun e => ?_
    gatheringAnswers := fun e => absurd (ht.symm.trans e) Bool.noConfusion
    sentCandidates := fun e => absurd (ht.symm.trans e) Bool.noConfusion
    addressed := fun hlen => h.addressed_sendMessage hlen }
  show (s.sendMessage false .localCandidate stack).answers = [] ∧ _ ∨ _
  exact answers_sendCandidate (s := s) ▸ h.offerAnswers e

theorem step (h : AnswersOk s) (a : AnswerAction) : AnswersOk (s.step a) := by
  cases a with
  | offer ok stack => exact h.offerStep ok stack
  | gathering ok stack => exact h.gatheringStep ok stack
  | gatheringFinished =>
    simp only [AnswerState.step]
    split
    · next hg =>
      refine h.setGathering hg.2 (fun e => absurd e Bool.noConfusion) (fun _ => GatheringPhase.noConfusion) ?_
      rw [hg.1]
      decide
    · exact h
  | localCandidate =>
    simp only [AnswerState.step]
    split
    · next hc => exact { h with candidates := fun _ => h.trickles (Bool.and_eq_true_iff.mp hc).1 }
    · exact h
  | candidateSend stack =>
    simp only [AnswerState.step]
    split
    · exact h
    · next hc => exact h.candidateSend stack hc

/-- What the offer says and whose session it is stay. -/
theorem step_peer (s : AnswerState) (a : AnswerAction) :
    (s.step a).peerTrickles = s.peerTrickles ∧ (s.step a).session.peerId = s.session.peerId := by
  cases a with
  | offer ok stack =>
    simp only [AnswerState.step, AnswerState.offerStep]
    split <;> exact ⟨rfl, rfl⟩
  | gathering ok stack =>
    simp only [AnswerState.step, AnswerState.gatheringStep]
    split <;> exact ⟨rfl, rfl⟩
  | gatheringFinished =>
    simp only [AnswerState.step]
    split <;> exact ⟨rfl, rfl⟩
  | localCandidate =>
    simp only [AnswerState.step]
    split <;> exact ⟨rfl, rfl⟩
  | candidateSend stack =>
    simp only [AnswerState.step]
    split <;> exact ⟨rfl, rfl⟩

end AnswersOk

/-! ## The steps of `handleOffer` with nothing in between -/

/-- The results of the calls of `handleOffer`, in the order of its phases. -/
def Env.offerResults (env : Env) : List Bool :=
  [env.ok .deserializeSessionDescriptionInit, env.ok .setRemoteDescription, true, true,
    env.ok .setLocalDescription, true, env.ok .createAnswer, env.ok .serializeSessionDescriptionInit,
    env.ok .sendAppSignalingMessage, true]

/-- They succeed exactly where `handleOffer` does. -/
theorem offerResults_done (env : Env) (peerId : ClientId) (stack : List UInt8) :
    (Run.exec AnswerState.step (AnswerState.start peerId env.canTrickle)
      (env.offerResults.map (AnswerAction.offer · stack))).offer = .done ↔ env.OfferAnswered := by
  unfold Env.offerResults Env.OfferAnswered
  generalize env.ok .deserializeSessionDescriptionInit = deserialized
  generalize env.ok .setRemoteDescription = remote
  generalize env.ok .setLocalDescription = locally
  generalize env.ok .createAnswer = created
  generalize env.ok .serializeSessionDescriptionInit = serialized
  generalize env.ok .sendAppSignalingMessage = sent
  generalize env.canTrickle = trickles
  cases deserialized
  · simp [AnswerState.step, AnswerState.offerStep, AnswerState.start]
  cases remote
  · simp [AnswerState.step, AnswerState.offerStep, AnswerState.start]
  cases locally
  · simp [AnswerState.step, AnswerState.offerStep, AnswerState.start]
  cases trickles
  · simp [AnswerState.step, AnswerState.offerStep, AnswerState.start]
  cases created
  · simp [AnswerState.step, AnswerState.offerStep, AnswerState.start]
  cases serialized
  · simp [AnswerState.step, AnswerState.offerStep, AnswerState.start]
  cases sent <;>
    simp [AnswerState.step, AnswerState.offerStep, AnswerState.start, AnswerState.sendMessage]

/-! ## Runs in which every call succeeds -/

namespace AnswerAction

/-- The call of the step succeeds. -/
def Succeeds : AnswerAction → Prop
  | .offer ok _ | .gathering ok _ => ok = true
  | .gatheringFinished | .localCandidate | .candidateSend _ => True

def isOffer : AnswerAction → Bool
  | .offer .. => true
  | _ => false

def isGathering : AnswerAction → Bool
  | .gathering .. => true
  | _ => false

end AnswerAction

/-- The steps that `handleOffer` has left, at most; a failed one has no end. -/
def OfferPhase.left : OfferPhase → Nat
  | .deserialize => 10
  | .setRemote => 9
  | .canTrickle => 8
  | .setLocal => 7
  | .settingLocal => 6
  | .test => 5
  | .createAnswer => 4
  | .serialize => 3
  | .send => 2
  | .startMedia => 1
  | .done => 0
  | .failed => 11

/-- The steps that the callback has left, at most, once it has been called. -/
def GatheringPhase.left : GatheringPhase → Nat
  | .test => 4
  | .createAnswer => 3
  | .serialize => 2
  | .send => 1
  | .done => 0
  | .running | .failed => 5

/-- `handleOffer` gets as many steps as it can need. -/
def OfferRuns (as : List AnswerAction) : Prop := 10 ≤ as.countP AnswerAction.isOffer

/-- The callback is called once `setLocalDescription` has been, the fourth step of `handleOffer`, and
gets as many steps as it can need. -/
def GatheringRuns (as : List AnswerAction) : Prop :=
  ∃ before after, as = before ++ .gatheringFinished :: after ∧
    4 ≤ before.countP AnswerAction.isOffer ∧ 4 ≤ after.countP AnswerAction.isGathering

section
variable {s : AnswerState} {peerId : ClientId} {peerTrickles : Bool} {as : List AnswerAction}

theorem offer_gatheringStep (ok : Bool) (stack : List UInt8) :
    (s.gatheringStep ok stack).offer = s.offer := by
  unfold AnswerState.gatheringStep
  cases s.gathering <;> rfl

theorem gathering_offerStep (ok : Bool) (stack : List UInt8) :
    (s.offerStep ok stack).gathering = s.gathering := by
  unfold AnswerState.offerStep
  cases s.offer <;> rfl

/-- Only its own steps lower what `handleOffer` has left. -/
theorem offer_left_step {a : AnswerAction} (ha : a.Succeeds) (hs : s.offer.left ≤ 10) :
    (s.step a).offer.left ≤ s.offer.left - a.isOffer.toNat := by
  cases a with
  | offer ok stack =>
    obtain rfl : ok = true := ha
    show (s.offerStep true stack).offer.left ≤ s.offer.left - 1
    unfold AnswerState.offerStep
    cases ho : s.offer with
    | test => cases s.session.remoteCanTrickleIce <;> simp [OfferPhase.left]
    | failed =>
      rw [ho] at hs
      exact absurd hs (by decide)
    | done =>
      simp only [ho]
      exact Nat.le_refl _
    | _ => exact Nat.le_refl _
  | gathering ok stack =>
    show (s.gatheringStep ok stack).offer.left ≤ s.offer.left
    rw [offer_gatheringStep]
  | gatheringFinished =>
    simp only [AnswerState.step]
    split <;> exact Nat.le_refl _
  | localCandidate =>
    simp only [AnswerState.step]
    split <;> exact Nat.le_refl _
  | candidateSend stack =>
    simp only [AnswerState.step]
    split <;> exact Nat.le_refl _

/-- Once the callback is called, only its own steps lower what it has left. -/
theorem gathering_left_step {a : AnswerAction} (ha : a.Succeeds) (hs : s.gathering.left ≤ 4) :
    (s.step a).gathering.left ≤ s.gathering.left - a.isGathering.toNat := by
  cases a with
  | offer ok stack =>
    show (s.offerStep ok stack).gathering.left ≤ s.gathering.left
    rw [gathering_offerStep]
  | gathering ok stack =>
    obtain rfl : ok = true := ha
    show (s.gatheringStep true stack).gathering.left ≤ s.gathering.left - 1
    unfold AnswerState.gatheringStep
    cases hg : s.gathering with
    | test =>
      simp only
      split <;> simp [GatheringPhase.left]
    | running =>
      rw [hg] at hs
      exact absurd hs (by decide)
    | failed =>
      rw [hg] at hs
      exact absurd hs (by decide)
    | done =>
      simp only [hg]
      exact Nat.le_refl _
    | _ => exact Nat.le_refl _
  | gatheringFinished =>
    simp only [AnswerState.step]
    split
    · next hrunning =>
      rw [hrunning.1] at hs
      exact absurd hs (by decide)
    · exact Nat.le_refl _
  | localCandidate =>
    simp only [AnswerState.step]
    split <;> exact Nat.le_refl _
  | candidateSend stack =>
    simp only [AnswerState.step]
    split <;> exact Nat.le_refl _

/-- The callback fails at a call that fails only. -/
theorem gathering_ne_failed {a : AnswerAction} (ha : a.Succeeds) (hs : s.gathering ≠ .failed) :
    (s.step a).gathering ≠ .failed := by
  cases a with
  | offer ok stack =>
    show (s.offerStep ok stack).gathering ≠ .failed
    rwa [gathering_offerStep]
  | gathering ok stack =>
    obtain rfl : ok = true := ha
    show (s.gatheringStep true stack).gathering ≠ .failed
    unfold AnswerState.gatheringStep
    cases hg : s.gathering with
    | test =>
      simp only
      split <;> exact GatheringPhase.noConfusion
    | failed => exact absurd hg hs
    | running | done =>
      simp only [hg]
      exact GatheringPhase.noConfusion
    | _ => exact GatheringPhase.noConfusion
  | gatheringFinished =>
    simp only [AnswerState.step]
    split
    · exact GatheringPhase.noConfusion
    · exact hs
  | localCandidate =>
    simp only [AnswerState.step]
    split <;> exact hs
  | candidateSend stack =>
    simp only [AnswerState.step]
    split <;> exact hs

theorem offer_left (has : ∀ a ∈ as, a.Succeeds) :
    (Run.exec AnswerState.step (AnswerState.start peerId peerTrickles) as).offer.left ≤
      10 - as.countP AnswerAction.isOffer := by
  have hstart : (AnswerState.start peerId peerTrickles).offer.left ≤ 10 := Nat.le_refl 10
  exact Run.exec_rank (fun s : AnswerState => s.offer.left) AnswerAction.isOffer
    (fun _ _ ha hs => offer_left_step ha hs) hstart has

theorem offer_done (has : ∀ a ∈ as, a.Succeeds) (hruns : OfferRuns as) :
    (Run.exec AnswerState.step (AnswerState.start peerId peerTrickles) as).offer = .done := by
  have hleft := @offer_left peerId peerTrickles as has
  rw [Nat.sub_eq_zero_of_le hruns, Nat.le_zero] at hleft
  generalize Run.exec AnswerState.step (AnswerState.start peerId peerTrickles) as = s at hleft ⊢
  cases ho : s.offer <;> rw [ho] at hleft <;> cases hleft

theorem gathering_done (has : ∀ a ∈ as, a.Succeeds) (hruns : GatheringRuns as) :
    (Run.exec AnswerState.step (AnswerState.start peerId peerTrickles) as).gathering = .done := by
  obtain ⟨before, after, rfl, hbefore, hafter⟩ := hruns
  obtain ⟨hasBefore, hasAfter⟩ := List.forall_mem_append.mp has
  have hinv : AnswersOk (Run.exec AnswerState.step (AnswerState.start peerId peerTrickles) before) :=
    Run.exec_invariant (fun _ a h => h.step a) (AnswersOk.start peerId peerTrickles) before
  have hleft := @offer_left peerId peerTrickles before hasBefore
  have hfailed : (Run.exec AnswerState.step (AnswerState.start peerId peerTrickles)
      before).gathering ≠ .failed :=
    Run.Along.invariant (I := fun s : AnswerState => s.gathering ≠ .failed)
      GatheringPhase.noConfusion (fun _ _ hs ha => gathering_ne_failed ha hs)
      (Run.Along.of_mem hasBefore _)
  rw [Run.exec_append, Run.exec_cons]
  generalize Run.exec AnswerState.step (AnswerState.start peerId peerTrickles) before = s at *
  -- setLocalDescription has been called, so the callback can be
  have hlocal : s.localDescription = true := by
    apply hinv.past
    have hsix : s.offer.left ≤ 6 := by omega
    cases ho : s.offer <;> rw [ho] at hsix <;> first | rfl | exact absurd hsix (by decide)
  have hcalled : (s.step .gatheringFinished).gathering.left ≤ 4 := by
    simp only [AnswerState.step]
    split
    · exact Nat.le_refl _
    · next hnot =>
      cases hg : s.gathering with
      | running => exact absurd ⟨hg, hlocal⟩ hnot
      | failed => exact absurd hg hfailed
      | _ => decide
  have hend := Run.exec_rank (fun s : AnswerState => s.gathering.left) AnswerAction.isGathering
    (fun _ _ ha hs => gathering_left_step ha hs) hcalled (List.forall_mem_cons.mp hasAfter).2
  generalize Run.exec AnswerState.step (s.step .gatheringFinished) after = s' at hend ⊢
  have hzero : s'.gathering.left = 0 := by omega
  cases hg : s'.gathering <;> rw [hg] at hzero <;> cases hzero

end

/-! ## One answer -/

/-- What has to hold of the messages of a session after the steps `as`. -/
structure OneAnswer (peerId : ClientId) (peerTrickles : Bool) (as : List AnswerAction)
    (s : AnswerState) : Prop where
  atMostOne : s.answers.length ≤ 1
  /-- Whoever has come to its end has answered, if it is the one that has to. -/
  byOffer : peerTrickles = true → s.offer = .done → s.answers = [.handleOffer]
  byGathering : peerTrickles = false → s.gathering = .done → s.answers = [.gatheringFinished]
  /-- With every call succeeding they come to their ends. -/
  offerEnds : (∀ a ∈ as, a.Succeeds) → OfferRuns as → s.offer = .done
  gatheringEnds : (∀ a ∈ as, a.Succeeds) → GatheringRuns as → s.gathering = .done
  exactlyOne : (∀ a ∈ as, a.Succeeds) → OfferRuns as → GatheringRuns as →
    s.answers = [if peerTrickles then .handleOffer else .gatheringFinished]
  noCandidate : peerTrickles = false → ∀ m ∈ s.sent, m.answer = true
  addressed : ∀ m ∈ s.sent, m.peerClientId = peerId.chars

/-- For every order of the steps and callbacks of a session, with any of them failing. -/
theorem one_answer (peerId : ClientId) (hlen : peerId.chars.length < maxSignalingClientIdLen)
    (peerTrickles : Bool) (as : List AnswerAction) : OneAnswer peerId peerTrickles as
      (Run.exec AnswerState.step (AnswerState.start peerId peerTrickles) as) := by
  obtain ⟨h, ht, hp⟩ := Run.Reachable.invariant
    (I := fun s => AnswersOk s ∧ s.peerTrickles = peerTrickles ∧ s.session.peerId = peerId)
    ⟨AnswersOk.start peerId peerTrickles, rfl, rfl⟩
    (fun s a hs => ⟨hs.1.step a, (AnswersOk.step_peer s a).1.trans hs.2.1,
      (AnswersOk.step_peer s a).2.trans hs.2.2⟩)
    ⟨as, rfl⟩
  have hoffer := @offer_done peerId peerTrickles as
  have hgathering := @gathering_done peerId peerTrickles as
  generalize Run.exec AnswerState.step (AnswerState.start peerId peerTrickles) as = s
    at h ht hp hoffer hgathering
  obtain rfl := ht
  obtain rfl := hp
  have hbyOffer : s.peerTrickles = true → s.offer = .done → s.answers = [.handleOffer] := by
    intro ht ho
    rcases h.offerAnswers ht with ⟨-, hno⟩ | ⟨hans, -⟩
    · rw [ho] at hno
      cases hno
    · exact hans
  have hbyGathering : s.peerTrickles = false → s.gathering = .done →
      s.answers = [.gatheringFinished] := by
    intro ht hg
    rcases h.gatheringAnswers ht with ⟨-, hno⟩ | ⟨hans, -⟩
    · exact absurd hg hno
    · exact hans
  refine ⟨?_, hbyOffer, hbyGathering, hoffer, hgathering, fun has ho hg => ?_, h.sentCandidates,
    h.addressed hlen⟩
  · cases ht : s.peerTrickles with
    | true =>
      rcases h.offerAnswers ht with ⟨hans, -⟩ | ⟨hans, -⟩ <;> rw [hans] <;> decide
    | false =>
      rcases h.gatheringAnswers ht with ⟨hans, -⟩ | ⟨hans, -⟩ <;> rw [hans] <;> decide
  · cases ht : s.peerTrickles with
    | true => exact hbyOffer ht (hoffer has ho)
    | false => exact hbyGathering ht (hgathering has hg)

/-- A peer that does not trickle: the gathering ends while `setLocalDescription` has not returned,
and the callback answers before `handleOffer` has ended. -/
theorem one_answer_clientA :
    let as : List AnswerAction := List.replicate 4 (.offer true []) ++
      [.localCandidate, .gatheringFinished] ++ List.replicate 4 (.gathering true [1, 2, 3]) ++
        List.replicate 6 (.offer true [])
    OneAnswer clientA false as
        (Run.exec AnswerState.step (AnswerState.start clientA false) as) ∧
      (Run.exec AnswerState.step (AnswerState.start clientA false) as).answers =
        [.gatheringFinished] := by
  intro as
  have hone := one_answer clientA (by decide) false as
  have hsucceed : ∀ a ∈ as, a.Succeeds := by
    simp [as, AnswerAction.Succeeds]
  exact ⟨hone, hone.exactlyOne hsucceed (by unfold OfferRuns; decide)
    ⟨List.replicate 4 (.offer true []) ++ [.localCandidate], _, rfl, by decide, by decide⟩⟩

end WebrtcApp
