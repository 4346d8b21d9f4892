import Mathlib.Data.Finset.Card
import SmppGateway.Foundation.Run
import SmppGateway.Smpp.Pdu

/-!
# The sessions of an external client

`sgw_external_client` answers the bind requests of its sessions and keeps the set of those that are bound.

## The model

A session is named by a number. What a bind looks at of the configuration are members of the client; the
schema keeps `max_session` a number from 0 on.

## What is proved

* `checkPermision_eq_rok_iff` — when a bind is permitted.
* `limit_run` — in a run in which `max_session` is never set below the number of bound sessions, a bind is
  answered `rok` only when fewer sessions are bound than `max_session_` says.
* `checkPermision_of_lowered` — once it is set below that number it limits nothing.
-/

namespace SmppGateway.Gateway

open Foundation Smpp

/-- The members of `sgw_external_client` that concern binds. -/
structure SgwExternalClient where
  system_type_ : Bytes
  password_ : Bytes
  require_password_checking_ : Bool
  permitted_bind_types_ : List BindType
  ip_addresses_ : List Bytes
  require_ip_checking_ : Bool
  max_session_ : ℕ
  binded_sessions_ : Finset ℕ

namespace SgwExternalClient

/-- `check_permision`. -/
def checkPermision (c : SgwExternalClient) (system_type password ip : Bytes) (bind_type : BindType) :
    CommandStatus :=
  if c.max_session_ = c.binded_sessions_.card then CommandStatus.rbindfail
  else if c.system_type_ ≠ system_type then CommandStatus.rinvsystyp
  else if c.require_password_checking_ ∧ c.password_ ≠ password then CommandStatus.rinvpaswd
  else if bind_type ∉ c.permitted_bind_types_ then CommandStatus.rinvbndsts
  else if c.require_ip_checking_ ∧ ip ∉ c.ip_addresses_ then CommandStatus.rinvip
  else CommandStatus.rok

/-- `set_session`. -/
def setSession (c : SgwExternalClient) (session : ℕ) : SgwExternalClient :=
  { c with binded_sessions_ := insert session c.binded_sessions_ }

/-- `on_session_close`, as far as it concerns the set of sessions. -/
def onSessionClose (c : SgwExternalClient) (session : ℕ) : SgwExternalClient :=
  { c with binded_sessions_ := c.binded_sessions_.erase session }

/-- What a client demands of a bind, apart from the number of sessions. -/
structure Permits (c : SgwExternalClient) (request : BindRequest) (ip : Bytes) : Prop where
  system_type : c.system_type_ = request.systemType
  password : c.require_password_checking_ = true → c.password_ = request.password
  bind_type : request.bindType ∈ c.permitted_bind_types_
  ip : c.require_ip_checking_ = true → ip ∈ c.ip_addresses_

variable {c : SgwExternalClient} {request : BindRequest} {ip : Bytes}

/-- **A bind is permitted** when all checks pass and the number of sessions is not the limit. -/
theorem checkPermision_eq_rok_iff :
    c.checkPermision request.systemType request.password ip request.bindType = CommandStatus.rok ↔
      c.max_session_ ≠ c.binded_sessions_.card ∧ c.Permits request ip := by
  rw [checkPermision]
  constructor
  · intro h
    split at h
    · exact absurd h (by decide)
    rename_i hlimit
    split at h
    · exact absurd h (by decide)
    rename_i htype
    split at h
    · exact absurd h (by decide)
    rename_i hpassword
    split at h
    · exact absurd h (by decide)
    rename_i hbind
    split at h
    · exact absurd h (by decide)
    rename_i hip
    exact ⟨hlimit, not_not.mp htype, fun hreq => by_contra fun hne => hpassword ⟨hreq, hne⟩, not_not.mp hbind,
      fun hreq => by_contra fun hne => hip ⟨hreq, hne⟩⟩
  · rintro ⟨hlimit, htype, hpassword, hbind, hip⟩
    rw [if_neg hlimit, if_neg (not_not.mpr htype), if_neg fun h => h.2 (hpassword h.1),
      if_neg (not_not.mpr hbind), if_neg fun h => h.2 (hip h.1)]

end SgwExternalClient

/-! ### Runs -/

/-- The answer to a bind: how many sessions were bound, what the limit was, and the status. -/
structure LimitAnswer where
  bound : ℕ
  limit : ℕ
  status : CommandStatus

/-- A client and the answers to the binds that named it. -/
structure BindHistory where
  client : SgwExternalClient
  answers : List LimitAnswer

/-- What concerns the sessions of a client. -/
inductive BindEvent where
  /-- A `bind_request` on a session that names it: `on_authenticate_request`, and `on_bind` if the status is
  `rok`. -/
  | bind (session : ℕ) (request : BindRequest) (ip : Bytes)
  /-- A session has closed. -/
  | close (session : ℕ)
  /-- `set_max_session`. -/
  | setMaxSession (value : ℕ)
  /-- `set_system_type`. -/
  | setSystemType (value : Bytes)
  /-- `set_require_password_checking`. -/
  | setRequirePasswordChecking (value : Bool)

/-- One of these events. -/
def BindHistory.step (h : BindHistory) : BindEvent → BindHistory
  | .bind session request ip =>
    let status := h.client.checkPermision request.systemType request.password ip request.bindType
    { client := if status = CommandStatus.rok then h.client.setSession session else h.client
      answers := h.answers ++ [⟨h.client.binded_sessions_.card, h.client.max_session_, status⟩] }
  | .close session => { h with client := h.client.onSessionClose session }
  | .setMaxSession value => { h with client := { h.client with max_session_ := value } }
  | .setSystemType value => { h with client := { h.client with system_type_ := value } }
  | .setRequirePasswordChecking value =>
    { h with client := { h.client with require_password_checking_ := value } }

/-- A bind is answered `rok` only below the limit. -/
def LimitAnswer.Kept (a : LimitAnswer) : Prop := a.status = CommandStatus.rok → a.bound < a.limit

/-- `max_session` is not set below the number of bound sessions. -/
def BindHistory.Covers (h : BindHistory) : BindEvent → Prop
  | .setMaxSession value => h.client.binded_sessions_.card ≤ value
  | _ => True

/-- No more sessions are bound than the limit says, and it was kept. -/
structure BindHistory.Limited (h : BindHistory) : Prop where
  bound : h.client.binded_sessions_.card ≤ h.client.max_session_
  kept : ∀ a ∈ h.answers, a.Kept

theorem BindHistory.limited_step {h : BindHistory} (hl : h.Limited) {e : BindEvent} (he : h.Covers e) :
    (h.step e).Limited := by
  cases e with
  | bind session request ip =>
    have hbelow (hrok : h.client.checkPermision request.systemType request.password ip request.bindType =
        CommandStatus.rok) : h.client.binded_sessions_.card < h.client.max_session_ :=
      Nat.lt_of_le_of_ne hl.bound (SgwExternalClient.checkPermision_eq_rok_iff.mp hrok).1.symm
    constructor
    · simp only [step]
      split
      · rename_i hrok
        exact Nat.le_trans (Finset.card_insert_le _ _) (hbelow hrok)
      · exact hl.bound
    · intro a ha
      rcases List.mem_append.mp ha with ha | ha
      · exact hl.kept a ha
      · rw [List.mem_singleton.mp ha]
        exact hbelow
  | close session => exact ⟨Nat.le_trans (Finset.card_erase_le) hl.bound, hl.kept⟩
  | setMaxSession value => exact ⟨he, hl.kept⟩
  | setSystemType value => exact ⟨hl.bound, hl.kept⟩
  | setRequirePasswordChecking value => exact ⟨hl.bound, hl.kept⟩

/-- **The session limit is kept** in every run that does not set it below the number of bound sessions. -/
theorem BindHistory.limit_run (client : SgwExternalClient) (hnew : client.binded_sessions_ = ∅)
    (events : List BindEvent) (h : Along BindHistory.step BindHistory.Covers ⟨client, []⟩ events) :
    ∀ a ∈ (run BindHistory.step ⟨client, []⟩ events).answers,
      a.status = CommandStatus.rok → a.bound < a.limit := by
  refine (h.invariant (I := Limited) (fun s e hs he => limited_step hs he) ⟨?_, fun a ha => nomatch ha⟩).kept
  simp only [hnew, Finset.card_empty]
  exact Nat.zero_le _

/-- Once the limit is below the number of bound sessions, it does not keep a bind from being permitted. -/
theorem SgwExternalClient.checkPermision_of_lowered {c : SgwExternalClient} {request : BindRequest} {ip : Bytes}
    (hlow : c.max_session_ < c.binded_sessions_.card) (hpermits : c.Permits request ip) :
    c.checkPermision request.systemType request.password ip request.bindType = CommandStatus.rok :=
  checkPermision_eq_rok_iff.mpr ⟨Nat.ne_of_lt hlow, hpermits⟩

/-- A client that asks for nothing but a receiver. -/
def openClient : SgwExternalClient := ⟨[], [], false, [.receiver], [], false, 2, ∅⟩

/-- A bind that it permits. -/
def receiverBind (session : ℕ) : BindEvent := .bind session ⟨.receiver, [97], [], [], 0x34, 0, 0, []⟩ []

/-- The limit is lowered to the one session that is bound, a second one is refused, and it binds when the limit
is raised. -/
def limitChanges : List BindEvent :=
  [receiverBind 1, .setMaxSession 1, receiverBind 2, .setMaxSession 3, receiverBind 2]

/-- The last of the answers. -/
def lastAnswer : LimitAnswer := ⟨1, 3, CommandStatus.rok⟩

theorem BindHistory.limit_run_limitChanges :
    lastAnswer ∈ (run BindHistory.step ⟨openClient, []⟩ limitChanges).answers ∧
      lastAnswer.bound < lastAnswer.limit := by
  have hanswer : lastAnswer ∈ (run BindHistory.step ⟨openClient, []⟩ limitChanges).answers :=
    List.mem_of_getElem? (i := 2) rfl
  have hcovers : Along BindHistory.step BindHistory.Covers ⟨openClient, []⟩ limitChanges :=
    ⟨trivial, (by decide : 1 ≤ 1), trivial, (by decide : 1 ≤ 3), trivial, trivial⟩
  exact ⟨hanswer, limit_run openClient rfl limitChanges hcovers lastAnswer hanswer rfl⟩

/-- Two sessions are bound when the limit is lowered to one, and a third one binds. -/
theorem BindHistory.not_limit_run : ¬ ∀ (client : SgwExternalClient) (events : List BindEvent),
    client.binded_sessions_ = ∅ → ∀ a ∈ (run BindHistory.step ⟨client, []⟩ events).answers,
      a.status = CommandStatus.rok → a.bound < a.limit := by
  intro h
  have hlast := h openClient [receiverBind 1, receiverBind 2, .setMaxSession 1, receiverBind 3] rfl
    ⟨2, 1, CommandStatus.rok⟩ (List.mem_of_getElem? (i := 2) rfl) rfl
  exact absurd hlast (by decide)

end SmppGateway.Gateway
