import WebrtcApp.App.Types

/-!
# The pending message store (`AppMessageQueue.c`)

`ConnectionMsgQ` holds one `PendingMessageQueue` for each client whose candidates came
before its offer.  The queues and the message copies are heap objects with a lifetime
(`Arena`); a `stackQueue` is the list of the pointers in it, first in first out.

The functions are the source's, error exits and `CleanUp` blocks included.  In
particular `getPendingMsgQByHashVal` returns its loop variable: where no queue has the
key, the result is the last queue of the store, and not `NULL`.
-/

namespace WebrtcApp

abbrev PPendingMessageQueue := Nat
abbrev PReceivedSignalingMessage := Nat

/-- `messageQueue` is `NULL` until `appQueueCreate` has succeeded. -/
structure PendingMessageQueue where
  hashValue : UInt64
  createTime : UInt64
  messageQueue : Option (List PReceivedSignalingMessage)
  deriving DecidableEq

instance : Inhabited PendingMessageQueue := ⟨⟨0, 0, none⟩⟩

/-- The messages in the queue, none where the stackQueue does not exist. -/
def PendingMessageQueue.items (q : PendingMessageQueue) : List PReceivedSignalingMessage :=
  q.messageQueue.getD []

/-- The store and the heap behind it. -/
structure ConnectionMsgQ where
  queues : Arena PendingMessageQueue
  messages : Arena ReceivedSignalingMessage
  pMsqQueue : List PPendingMessageQueue
  deriving DecidableEq

/-- The store as `createConnectionMsqQ` leaves it. -/
def createConnectionMsqQ : ConnectionMsgQ := ⟨Arena.empty, Arena.empty, []⟩

/-- The messages of the queue at `p`. -/
def ConnectionMsgQ.items (s : ConnectionMsgQ) (p : PPendingMessageQueue) :
    List PReceivedSignalingMessage :=
  (s.queues.read p).items

/-- The key of the queue at `p`. -/
def ConnectionMsgQ.key (s : ConnectionMsgQ) (p : PPendingMessageQueue) : UInt64 :=
  (s.queues.read p).hashValue

def freePendingMsgQ (p : Option PPendingMessageQueue) (s : ConnectionMsgQ) :
    Status × ConnectionMsgQ :=
  match p with
  | none => (.appMsgqNullArg, s)
  | some p =>
    (.success, { s with
      queues := (s.queues.touch p).free p
      messages := s.messages.freeAll (s.items p) })

def createPendingMsgQ (env : Env) (hashValue : UInt64) (s : ConnectionMsgQ) :
    Status × Option PPendingMessageQueue × ConnectionMsgQ :=
  if !env.ok .pendingMsgQCalloc then (.appMsgqNotEnoughMemory, none, s)
  else
    let p := s.queues.next
    let s := { s with queues := s.queues.alloc ⟨hashValue, env.now, none⟩ }
    if !env.ok .pendingMsgQQueueCreate then
      (.appMsgqCreatePendingMsq, none, (freePendingMsgQ (some p) s).2)
    else
      let s := { s with queues := s.queues.modify p fun q => { q with messageQueue := some [] } }
      if !env.ok .pendingMsgQEnqueue then
        (.appMsgqPushConnMsq, none, (freePendingMsgQ (some p) s).2)
      else (.success, some p, { s with pMsqQueue := s.pMsqQueue ++ [p] })

def pushMsqIntoPendingMsgQ (env : Env) (p : Option PPendingMessageQueue)
    (msg : ReceivedSignalingMessage) (s : ConnectionMsgQ) : Status × ConnectionMsgQ :=
  match p with
  | none => (.appMsgqNullArg, s)
  | some p =>
    if !env.ok .messageCalloc then (.appMsgqNotEnoughMemory, s)
    else
      let m := s.messages.next
      let s := { s with messages := s.messages.alloc msg }
      if !env.ok .messageEnqueue then
        (.appMsgqPushPendingMsq,
          { s with queues := s.queues.touch p, messages := s.messages.free m })
      else
        (.success, { s with
          queues := s.queues.modify p fun q => { q with messageQueue := some (q.items ++ [m]) } })

section
variable {η : Type}

/-- A `MsgHandleHook` with the state it works on; the number is the number of the call. -/
abbrev MsgHandleHook (η : Type) := Nat → SignalingMessage → η → Status × η

/-- The hook, which may be `NULL`. -/
def callHook (hook : Option (MsgHandleHook η)) (n : Nat) (m : SignalingMessage) (u : η) :
    Status × η :=
  match hook with
  | none => (.success, u)
  | some hook => hook n m u

/-- The loop of `handlePendingMsgQ` over the messages still in the queue at `p`.  The second
component is `pReceivedSignalingMessage` at `CleanUp`. -/
def handleLoop (env : Env) (p : PPendingMessageQueue) (hook : Option (MsgHandleHook η)) :
    Nat → List PReceivedSignalingMessage → ConnectionMsgQ → η →
      Status × Option PReceivedSignalingMessage × ConnectionMsgQ × η
  | n, [], s, u =>
    if !env.ok (.handleIsEmpty n) then (.appMsgqEmptyPendingMsq, none, s, u)
    else (.success, none, s, u)
  | n, m :: ms, s, u =>
    if !env.ok (.handleIsEmpty n) then (.appMsgqEmptyPendingMsq, none, s, u)
    else if !env.ok (.handleDequeue n) then (.appMsgqPopPendingMsq, none, s, u)
    else
      let s := { s with
        queues := s.queues.modify p fun q => { q with messageQueue := some ms }
        messages := s.messages.touch m }
      match callHook hook n (s.messages.read m).signalingMessage u with
      | (.success, u) =>
        handleLoop env p hook (n + 1) ms { s with messages := s.messages.free m } u
      | (_, u) => (.appMsgqHandlePendingMsq, some m, s, u)

def handlePendingMsgQ (env : Env) (p : Option PPendingMessageQueue)
    (hook : Option (MsgHandleHook η)) (s : ConnectionMsgQ) (u : η) :
    Status × ConnectionMsgQ × η :=
  match p with
  | none => (.appMsgqNullArg, (freePendingMsgQ none s).2, u)
  | some p =>
    let s := { s with queues := s.queues.touch p }
    match handleLoop env p hook 0 (s.items p) s u with
    | (st, current, s, u) =>
      let s := (freePendingMsgQ (some p) s).2
      (st, { s with messages := s.messages.freeAll current.toList }, u)

end

/-- The loop of `getPendingMsgQByHashVal` over the rest of the store; `cur` is
`pPendingMsgQ`, which `CleanUp` writes to `*ppPendingMsgQ` on every path. -/
def lookupLoop (env : Env) (clientHash : UInt64) (remove : Bool) :
    Nat → List PPendingMessageQueue → Option PPendingMessageQueue → ConnectionMsgQ →
      Status × Option PPendingMessageQueue × ConnectionMsgQ
  | _, [], cur, s => (.success, cur, s)
  | n, p :: ps, cur, s =>
    if !env.ok (.lookupGetItem n) then (env.status (.lookupGetItem n), cur, s)
    else if !env.ok (.lookupNext n) then (env.status (.lookupNext n), cur, s)
    else
      let s := { s with queues := s.queues.touch p }
      if clientHash == s.key p then
        if remove then
          if !env.ok .lookupRemoveItem then (env.status .lookupRemoveItem, some p, s)
          else (.success, some p, { s with pMsqQueue := s.pMsqQueue.erase p })
        else (.success, some p, s)
      else lookupLoop env clientHash remove (n + 1) ps (some p) s

def getPendingMsgQByHashVal (env : Env) (clientHash : UInt64) (remove : Bool)
    (s : ConnectionMsgQ) : Status × Option PPendingMessageQueue × ConnectionMsgQ :=
  if !env.ok .lookupGetIterator then (env.status .lookupGetIterator, none, s)
  else lookupLoop env clientHash remove 0 s.pMsqQueue none s

/-- The loop of `removeExpiredPendingMsgQ`, with the number of rounds left. -/
def expireLoop (env : Env) (interval curTime : UInt64) :
    Nat → Nat → ConnectionMsgQ → Status × ConnectionMsgQ
  | 0, _, s => (.success, s)
  | left + 1, i, s =>
    if !env.ok (.expireDequeue i) then (env.status (.expireDequeue i), s)
    else
      match s.pMsqQueue with
      | [] => (.notFound, s)
      | p :: rest =>
        let s := { s with pMsqQueue := rest, queues := s.queues.touch p }
        if (s.queues.read p).createTime + interval < curTime then
          expireLoop env interval curTime left (i + 1) (freePendingMsgQ (some p) s).2
        else if !env.ok (.expireEnqueue i) then (env.status (.expireEnqueue i), s)
        else
          expireLoop env interval curTime left (i + 1) { s with pMsqQueue := s.pMsqQueue ++ [p] }

def removeExpiredPendingMsgQ (env : Env) (interval : UInt64) (s : ConnectionMsgQ) :
    Status × ConnectionMsgQ :=
  if !env.ok .expireGetCount then (env.status .expireGetCount, s)
  else expireLoop env interval env.now s.pMsqQueue.length 0 s

/-- Every queue of the store is freed with its messages, then the store. -/
def freeConnectionMsgQ (s : ConnectionMsgQ) : ConnectionMsgQ :=
  let s := s.pMsqQueue.foldl (fun s p => (freePendingMsgQ (some p) s).2) s
  { s with pMsqQueue := [] }

end WebrtcApp
