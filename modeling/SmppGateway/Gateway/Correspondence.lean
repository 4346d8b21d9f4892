import SmppGateway.Foundation.Ledger
import SmppGateway.Gateway.Stranded

/-!
# Requests to the servers and their responses

`pinex::send` and `paper_client::check_policies` send the request of a submit on the bound session of a
`p_client` and keep the `submit_info` in `user_data_`, under the number and the name of the server. The
`stream_response` with this number, or the timeout, takes it out.

## The model

The functions are those of the path of a submit, as far as `client_list_` and `user_data_` are concerned; what is
then done with the submit does not touch them. An event is a whole handler. The sessions of a `p_client` are
numbered in the order in which they are bound, all of them to servers with the same `system_id`.

`history` says what was sent and what has come; a `submit_info` is known by the place of its request in it.
`applied` lists what the submits were taken out for.

## What is proved

* `Correspondence.corresponds_run` — a submit whose request was sent is taken out once, for what its request has
  come to, and it is kept until then, in every run in which the entries under the numbers that are used are
  those of the session at hand.
* `Correspondence.Shows.pinexSend` and its companions — the functions of the path do the same to `client_list_`
  and to `user_data_`.
-/

namespace SmppGateway.Gateway

open Foundation Net
open Pinex (PClient PClientList)

namespace Stage

/-- What is sent for a submit. -/
def message : Stage → Bytes → Bytes
  | .paper, encoded => encoded
  | .pinex, encoded => msgTypeBytes aoReqType ++ encoded

/-- The client that `send_request` is called for, if it is called for one. -/
def destination : Stage → Bytes → Option Bytes
  | .paper, _ => none
  | .pinex, id => some id

/-- What `receive_response` says of a body. -/
def acceptsResponse (X : Externals) : Stage → Bytes → Except Fault Bool
  | .paper, msg_body => .ok (X.response msg_body).isSome
  | .pinex, msg_body => (msgType msg_body).map fun msg_type => decide (msg_type = aoRespType)

/-- What `timeout_request` says of a body. -/
def acceptsTimeout : Stage → Bytes → Except Fault Bool
  | .paper, _ => .ok true
  | .pinex, msg_body => (msgType msg_body).map fun msg_type => decide (msg_type = aoReqType)

theorem acceptsTimeout_message (stage : Stage) (encoded : Bytes) :
    stage.acceptsTimeout (stage.message encoded) = .ok true := by
  cases stage with
  | paper => rfl
  | pinex => rfl

end Stage

/-- What `pinex` and `paper_client` have, and what has happened. -/
structure Correspondence where
  client_list_ : PClientList
  /-- `user_data_`, with the places of the requests in the history. -/
  user_data_ : Table Bytes (ℕ × SubmitInfo)
  /-- How many sessions have been bound. -/
  bound : ℕ → ℕ
  history : List (Happening (ℕ × ℕ) UInt32 Bytes ℕ)
  applied : List (ℕ × Outcome Bytes)
  terminated : Bool

/-- What may happen. -/
inductive CorrespondenceEvent where
  /-- A submit is to be sent; `destination` is what the router has found. -/
  | request (user_data : SubmitInfo) (encoded destination : Bytes)
  /-- `on_session_response`, by a session of a `p_client`. -/
  | response (k session : ℕ) (resp_packet : Pinex.Pdu) (sequence_number : UInt32)
  /-- `on_timer` of the `packet_expirator_` of a `p_client`. -/
  | timer (k : ℕ)
  /-- `on_bind`. -/
  | bind (k : ℕ) (session : Session Pinex.CommandId Pinex.CommandStatus Pinex.Pdu)
  /-- `on_session_close`, by a session of a `p_client`. -/
  | close (k session : ℕ)
  /-- A change of the bound session. -/
  | serve (k : ℕ) (session : Session Pinex.CommandId Pinex.CommandStatus Pinex.Pdu)

namespace Correspondence

/-- A `p_client`. -/
def client (c : Correspondence) (k : ℕ) : PClient := c.client_list_.p_client_list_ k

/-- The session that a request is sent on. -/
def channel (c : Correspondence) (destination : Option Bytes) : ℕ × ℕ :=
  match c.client_list_.chosen destination with
  | none => (0, 0)
  | some (_, k) => (k, c.bound k - 1)

/-- `pinex::send` and `paper_client::check_policies`. -/
def send (c : Correspondence) (stage : Stage) (user_data : SubmitInfo) (encoded destination : Bytes) :
    Correspondence :=
  match c.client_list_.request (stage.message encoded) (stage.destination destination) with
  | (list, .error .outOfBounds) => { c with client_list_ := list, terminated := true }
  | (list, .error (.exception _)) => { c with client_list_ := list }
  | (list, .ok (seq_no, id)) =>
    if seq_no = 0 then { c with client_list_ := list }
    else
      { c with
        client_list_ := list
        user_data_ := c.user_data_.insertNew (requestKey seq_no id) (c.history.length, user_data)
        history := c.history ++ [.sent (c.channel (stage.destination destination)) seq_no] }

/-- A submit is taken out of `user_data_`. -/
def resolve (c : Correspondence) (client_id : Bytes) (seq_no : UInt32) (accepted : Except Fault Bool)
    (o : Outcome Bytes) : Correspondence :=
  let key := requestKey seq_no client_id
  match c.user_data_.lookup key with
  | none => c
  | some x =>
    let c := { c with user_data_ := c.user_data_.erase key }
    match accepted with
    | .error _ => { c with terminated := true }
    | .ok false => c
    | .ok true => { c with applied := c.applied ++ [(x.1, o)] }

/-- `receive_response`. -/
def receiveResponse (X : Externals) (c : Correspondence) (stage : Stage) (client_id : Bytes) (seq_no : UInt32)
    (msg_body : Bytes) : Correspondence :=
  match stage with
  | .paper =>
    match X.response msg_body with
    | none => c
    | some _ => c.resolve client_id seq_no (.ok true) (.answered msg_body)
  | .pinex => c.resolve client_id seq_no (Stage.pinex.acceptsResponse X msg_body) (.answered msg_body)

/-- `timeout_request`. -/
def timeoutRequest (c : Correspondence) (stage : Stage) (client_id : Bytes) (seq_no : UInt32)
    (msg_body : Bytes) : Correspondence :=
  c.resolve client_id seq_no (stage.acceptsTimeout msg_body) .timedOut

/-- `on_session_response`. -/
def onSessionResponse (X : Externals) (server_id : ℕ → Bytes) (c : Correspondence) (stage : Stage) (k : ℕ)
    (resp_packet : Pinex.Pdu) (sequence_number : UInt32) : Correspondence :=
  match (c.client k).onSessionResponse resp_packet sequence_number with
  | (clnt, none) => { c with client_list_ := c.client_list_.update k clnt }
  | (clnt, some body) =>
    { c with client_list_ := c.client_list_.update k clnt }.receiveResponse X stage (server_id k)
      sequence_number body

/-- The calls of `on_session_timeout`, one for each request whose time is over. -/
def timeouts (c : Correspondence) (stage : Stage) (server_id : Bytes) (calls : List (UInt32 × Pinex.Stream)) :
    Correspondence :=
  calls.foldl (fun c x => if c.terminated then c else c.timeoutRequest stage server_id x.1 x.2.messageBody) c

/-- `on_timer` of the `packet_expirator_` of a `p_client`. -/
def onTimer (c : Correspondence) (stage : Stage) (k : ℕ) : Correspondence :=
  let c := c.timeouts stage (c.client k).server_id_ (c.client k).packet_expirator_.expiring
  if c.terminated then c else { c with client_list_ := c.client_list_.update k (c.client k).onTimer }

/-- Something has come. -/
def observe (c : Correspondence) (happening : Happening (ℕ × ℕ) UInt32 Bytes ℕ) : Correspondence :=
  { c with history := c.history ++ [happening] }

/-- What an event makes of the requests. -/
def step (stage : Stage) (X : Externals) (server_id : ℕ → Bytes) (c : Correspondence)
    (e : CorrespondenceEvent) : Correspondence :=
  if c.terminated then c
  else
    match e with
    | .request user_data encoded destination => c.send stage user_data encoded destination
    | .response k session resp_packet sequence_number =>
      if session < c.bound k then
        let c :=
          match resp_packet with
          | .streamResponse sm => c.observe (.answered (k, session) sequence_number sm.messageBody)
          | _ => c
        c.onSessionResponse X server_id stage k resp_packet sequence_number
      else c
    | .timer k => (c.observe (.ticked k)).onTimer stage k
    | .bind k session =>
      { c with
        client_list_ := c.client_list_.onBind k (server_id k) session
        bound := Function.update c.bound k (c.bound k + 1) }
    | .close k session =>
      if session < c.bound k then { c with client_list_ := c.client_list_.onSessionClose k (server_id k) }
      else c
    | .serve k session =>
      let clnt := { c.client k with binded_session_ := (c.client k).binded_session_.map fun _ => session }
      { c with client_list_ := c.client_list_.update k clnt }

/-- Nothing has been bound yet. -/
def start (timeout_sec : ℕ) : Correspondence where
  client_list_ := ⟨fun _ => ⟨none, [], timeout_sec, .create (10 ^ 6)⟩, [], 0⟩
  user_data_ := ∅
  bound := fun _ => 0
  history := []
  applied := []
  terminated := false

/-! ### The keys -/

theorem toList_of_digits {s : String} (h : ∀ c ∈ s.toList, c.isDigit = true) :
    (ascii s).map (fun b => Char.ofNat b.toNat) = s.toList ∧ (0x40 : UInt8) ∉ ascii s := by
  have hrange (c : Char) (hc : c ∈ s.toList) : 48 ≤ c.toNat ∧ c.toNat ≤ 57 := by
    have hdigit := h c hc
    simp only [Char.isDigit, Bool.and_eq_true, decide_eq_true_eq] at hdigit
    exact hdigit
  constructor
  · rw [ascii, List.map_map]
    refine (List.map_congr_left ?_).trans (List.map_id _)
    intro c hc
    have hlt : c.toNat % 256 = c.toNat := by
      have := hrange c hc
      omega
    simp [hlt]
  · intro hmem
    obtain ⟨c, hc, heq⟩ := List.mem_map.mp hmem
    have hnat := congrArg UInt8.toNat heq
    have := hrange c hc
    simp at hnat
    omega

theorem requestKey_inj {n n' : UInt32} {id id' : Bytes} (h : requestKey n id = requestKey n' id') :
    n = n' ∧ id = id' := by
  have hdigits (m : ℕ) : ∀ c ∈ (toString m).toList, c.isDigit = true := by
    intro c hc
    rw [show toString m = m.repr from rfl, Nat.toList_repr] at hc
    exact Nat.isDigit_of_mem_toDigits (by decide) (by decide) hc
  have hnumber (m : UInt32) (i : Bytes) :
      (requestKey m i).takeWhile (fun b => b != 0x40) = ascii (toString m.toNat) ∧
        (requestKey m i).dropWhile (fun b => b != 0x40) = 0x40 :: i := by
    obtain ⟨-, hat⟩ := toList_of_digits (hdigits m.toNat)
    have hall : ∀ b ∈ ascii (toString m.toNat), (b != 0x40) = true := by
      intro b hb
      exact bne_iff_ne.mpr fun heq => hat (heq ▸ hb)
    have hkey : requestKey m i = ascii (toString m.toNat) ++ 0x40 :: i := by
      rw [requestKey, List.append_assoc]
      rfl
    rw [hkey, List.takeWhile_append_of_pos hall, List.dropWhile_append_of_pos hall]
    exact ⟨by simp, rfl⟩
  obtain ⟨htext, hname⟩ := hnumber n id
  obtain ⟨htext', hname'⟩ := hnumber n' id'
  rw [h] at htext hname
  have hread : (toString n.toNat).toList = (toString n'.toNat).toList := by
    rw [← (toList_of_digits (hdigits n.toNat)).1, ← (toList_of_digits (hdigits n'.toNat)).1, ← htext, ← htext']
  have hvalue := congrArg (Nat.ofDigitChars 10 · 0) hread
  simp only [show ∀ m : ℕ, toString m = m.repr from fun _ => rfl, Nat.toList_repr,
    Nat.ofDigitChars_ten_toDigits] at hvalue
  exact ⟨UInt32.toNat_inj.mp hvalue, (List.cons.inj (hname.symm.trans hname')).2⟩

/-! ### The condition -/

/-- A number that a session gives out is neither in `user_data_` nor armed; what a response takes out was sent
on its session under its number, and its body is one of a response. -/
def Apart (stage : Stage) (X : Externals) (server_id : ℕ → Bytes) (c : Correspondence) :
    CorrespondenceEvent → Prop
  | .request _ _ destination => ∀ id k session,
      c.client_list_.chosen (stage.destination destination) = some (id, k) →
      (c.client k).binded_session_ = some session → session.state_ = .opened →
      Pinex.nextSequenceNumber session.sequence_number_ ≠ 0 →
        c.user_data_.lookup (requestKey (Pinex.nextSequenceNumber session.sequence_number_) id) = none ∧
          (c.client k).packet_expirator_.getInfo (Pinex.nextSequenceNumber session.sequence_number_) = none
  | .response k session (.streamResponse sm) sequence_number => ∀ x,
      c.user_data_.lookup (requestKey sequence_number (server_id k)) = some x →
        c.history[x.1]? = some (.sent (k, session) sequence_number) ∧
          stage.acceptsResponse X sm.messageBody = .ok true
  | _ => True

/-! ### The books -/

/-- The ledger of what has happened. -/
def books (c : Correspondence) (timeout_sec : ℕ) : Ledger (ℕ × ℕ) UInt32 Bytes :=
  ledger Prod.fst (fun _ => timeout_sec * 1000) c.history

/-- The key of a request that waits. -/
def keyOf (server_id : ℕ → Bytes) (w : Waiting (ℕ × ℕ) UInt32) : Bytes :=
  requestKey w.number (server_id w.channel.1)

/-- The clients are bound to their servers. -/
structure Configured (server_id : ℕ → Bytes) (timeout_sec : ℕ) (list : PClientList) (bound : ℕ → ℕ) : Prop where
  timeout : ∀ k, (list.p_client_list_ k).timeout_sec_ = timeout_sec
  server : ∀ k, bound k ≠ 0 → (list.p_client_list_ k).server_id_ = server_id k
  binded : ∀ x ∈ list.binded_clients_, x.1 = server_id x.2 ∧ bound x.2 ≠ 0

/-- A `packet_expirator_` has armed the requests that wait. -/
def Arms (stage : Stage) (e : Expirator UInt32 Pinex.Stream) (ws : List (Waiting (ℕ × ℕ) UInt32)) : Prop :=
  e.period_ = 10 ^ 6 ∧ e.Tracks (fun n => decide (n ≠ 0)) (fun pdu => stage.acceptsTimeout pdu.messageBody)
    Waiting.number (fun _ => .ok true) ws

/-- `user_data_` has the submits of the requests that wait. -/
def Stores (server_id : ℕ → Bytes) (user_data : Table Bytes (ℕ × SubmitInfo))
    (ws : List (Waiting (ℕ × ℕ) UInt32)) : Prop :=
  user_data.Holds (fun _ => true) Prod.fst (keyOf server_id) Waiting.request ws

/-- The expirators, `user_data_` and what has been applied are what the ledger says. -/
structure Kept (stage : Stage) (server_id : ℕ → Bytes) (timeout_sec : ℕ) (c : Correspondence) : Prop where
  configured : Configured server_id timeout_sec c.client_list_ c.bound
  timeout : timeout_sec * 1000 < 2 ^ 32
  arms : ∀ k, Arms stage (c.client k).packet_expirator_
    ((c.books timeout_sec).waiting.filter fun w => w.channel.1 = k)
  stores : Stores server_id c.user_data_ (c.books timeout_sec).waiting
  applied : c.applied.Perm (c.books timeout_sec).settled
  waiting : ∀ w ∈ (c.books timeout_sec).waiting, w.number ≠ 0 ∧ w.channel.2 < c.bound w.channel.1

variable {stage : Stage} {X : Externals} {server_id : ℕ → Bytes} {timeout_sec : ℕ} {c : Correspondence}

theorem kept_start (stage : Stage) (server_id : ℕ → Bytes) (h : timeout_sec * 1000 < 2 ^ 32) :
    (start timeout_sec).Kept stage server_id timeout_sec where
  configured := ⟨fun _ => rfl, fun _ hk => absurd rfl hk, fun _ hx => nomatch hx⟩
  timeout := h
  arms _ := ⟨rfl, Expirator.tracks_create _⟩
  stores := .nil
  applied := .nil
  waiting _ hw := nomatch hw

omit stage X in
theorem keyOf_pass (clock : ℕ × ℕ → ℕ) (w : Waiting (ℕ × ℕ) UInt32)
    (happening : Happening (ℕ × ℕ) UInt32 Bytes ℕ) :
    keyOf server_id (w.pass clock happening) = keyOf server_id w := by
  rw [keyOf, number_pass, channel_pass]
  rfl

theorem Kept.connected (h : c.Kept stage server_id timeout_sec) {list : PClientList} {bound : ℕ → ℕ}
    (hconfigured : Configured server_id timeout_sec list bound) (hbound : ∀ k, c.bound k ≤ bound k)
    (harms : ∀ k, Arms stage (list.p_client_list_ k).packet_expirator_
      ((c.books timeout_sec).waiting.filter fun w => w.channel.1 = k)) (terminated : Bool) :
    Kept stage server_id timeout_sec
      { c with client_list_ := list, bound := bound, terminated := terminated } where
  configured := hconfigured
  timeout := h.timeout
  arms := harms
  stores := h.stores
  applied := h.applied
  waiting w hw := ⟨(h.waiting w hw).1, Nat.lt_of_lt_of_le (h.waiting w hw).2 (hbound _)⟩

/-- What was sent, or has come, is booked. -/
theorem Kept.after (h : c.Kept stage server_id timeout_sec) {c' : Correspondence}
    {happening : Happening (ℕ × ℕ) UInt32 Bytes ℕ} (hhistory : c'.history = c.history ++ [happening])
    (hbound : c'.bound = c.bound) (hconfigured : Configured server_id timeout_sec c'.client_list_ c.bound)
    {ends : Waiting (ℕ × ℕ) UInt32 → Bool} {o : Outcome Bytes}
    (hfate : ∀ w ∈ (c.books timeout_sec).waiting,
      fate Prod.fst w happening = if ends w then some o else none)
    (harms : ∀ k, Arms stage (c'.client k).packet_expirator_
      (((c.books timeout_sec).entered (fun _ => timeout_sec * 1000) happening ++
        ((c.books timeout_sec).waiting.filter fun w => !ends w).map fun w => w.pass Prod.fst happening).filter
          fun w => w.channel.1 = k))
    (hstores : Stores server_id c'.user_data_
      ((c.books timeout_sec).entered (fun _ => timeout_sec * 1000) happening ++
        (c.books timeout_sec).waiting.filter fun w => !ends w))
    (happlied : c'.applied.Perm
      (c.applied ++ ((c.books timeout_sec).waiting.filter ends).map fun w => (w.request, o)))
    (hentered : ∀ w ∈ (c.books timeout_sec).entered (fun _ => timeout_sec * 1000) happening,
      w.number ≠ 0 ∧ w.channel.2 < c.bound w.channel.1) : c'.Kept stage server_id timeout_sec := by
  have hbooks : c'.books timeout_sec =
      (c.books timeout_sec).record Prod.fst (fun _ => timeout_sec * 1000) happening := by
    rw [books, hhistory]
    exact ledger_concat _ _
  obtain ⟨hwaiting, hsettled⟩ :=
    (c.books timeout_sec).record_eq Prod.fst (fun _ => timeout_sec * 1000) happening ends o hfate
  refine ⟨hbound ▸ hconfigured, h.timeout, ?_, ?_, ?_, ?_⟩
  · intro k
    rw [hbooks, hwaiting]
    exact harms k
  · rw [hbooks, hwaiting]
    simp only [Stores, Table.Holds, List.map_append, List.map_map, Function.comp_def, keyOf_pass,
      request_pass] at hstores ⊢
    exact hstores
  · rw [hbooks, hsettled]
    exact happlied.trans (h.applied.append_right _)
  · rw [hbooks, hwaiting, hbound]
    intro w hw
    rcases List.mem_append.mp hw with hnew | hpassed
    · exact hentered w hnew
    · obtain ⟨v, hv, rfl⟩ := List.mem_map.mp hpassed
      rw [number_pass, channel_pass]
      exact h.waiting v (List.mem_filter.mp hv).1

/-! ### Requests -/

theorem Configured.sameTimeouts {list list' : PClientList} {bound : ℕ → ℕ}
    (h : Configured server_id timeout_sec list bound) (hsame : list.SameTimeouts list') :
    Configured server_id timeout_sec list' bound := by
  obtain ⟨hbinded, hclients⟩ := hsame
  refine ⟨?_, ?_, hbinded ▸ h.binded⟩
  · intro k
    obtain ⟨binded_session, hk⟩ := hclients k
    rw [hk]
    exact h.timeout k
  · intro k hk
    obtain ⟨binded_session, hclient⟩ := hclients k
    rw [hclient]
    exact h.server k hk

theorem Configured.update {list list' : PClientList} {bound : ℕ → ℕ}
    (h : Configured server_id timeout_sec list bound) {k : ℕ} {clnt : PClient}
    (hclients : list'.p_client_list_ = Function.update list.p_client_list_ k clnt)
    (hbinded : list'.binded_clients_ = list.binded_clients_)
    (htimeout : clnt.timeout_sec_ = (list.p_client_list_ k).timeout_sec_)
    (hserver : clnt.server_id_ = (list.p_client_list_ k).server_id_) :
    Configured server_id timeout_sec list' bound := by
  refine ⟨?_, ?_, hbinded ▸ h.binded⟩
  · intro i
    rw [hclients]
    by_cases heq : i = k
    · rw [heq, Function.update_self, htimeout]
      exact h.timeout k
    · rw [Function.update_of_ne heq]
      exact h.timeout i
  · intro i hi
    rw [hclients]
    by_cases heq : i = k
    · rw [heq, Function.update_self, hserver]
      exact h.server k (heq ▸ hi)
    · rw [Function.update_of_ne heq]
      exact h.server i hi

/-- A request that gets no number leaves the books as they are. -/
theorem Kept.sameTimeouts (h : c.Kept stage server_id timeout_sec) {list : PClientList}
    (hsame : c.client_list_.SameTimeouts list) (terminated : Bool) :
    Kept stage server_id timeout_sec { c with client_list_ := list, terminated := terminated } := by
  refine h.connected (h.configured.sameTimeouts hsame) (fun _ => Nat.le_refl _) ?_ terminated
  intro k
  obtain ⟨binded_session, hk⟩ := hsame.2 k
  rw [hk]
  exact h.arms k

theorem arms_update {clients : ℕ → PClient} {k : ℕ} {clnt : PClient} {ws : List (Waiting (ℕ × ℕ) UInt32)}
    (hclnt : Arms stage clnt.packet_expirator_ (ws.filter fun w => w.channel.1 = k))
    (hother : ∀ i, i ≠ k → Arms stage (clients i).packet_expirator_ (ws.filter fun w => w.channel.1 = i))
    (i : ℕ) :
    Arms stage (Function.update clients k clnt i).packet_expirator_ (ws.filter fun w => w.channel.1 = i) := by
  by_cases heq : i = k
  · rw [heq, Function.update_self]
    exact hclnt
  · rw [Function.update_of_ne heq]
    exact hother i heq

/-- A request that gets a number begins to wait. -/
theorem kept_send (h : c.Kept stage server_id timeout_sec) {user_data : SubmitInfo} {encoded destination : Bytes}
    (hapart : c.Apart stage X server_id (.request user_data encoded destination)) :
    (c.send stage user_data encoded destination).Kept stage server_id timeout_sec := by
  unfold send
  rcases c.client_list_.request_cases (stage.message encoded) (stage.destination destination) with
    ⟨hsame, hzero⟩ | ⟨seqNo, id, hresult, k, session, binded_session, hchosen, hsession, hopen, hnumber, hbinded,
      hclients⟩
  · split
    · rename_i list heq
      rw [heq] at hsame
      exact h.sameTimeouts hsame true
    · rename_i list what heq
      rw [heq] at hsame
      exact h.sameTimeouts hsame c.terminated
    · rename_i list seqNo id heq
      rw [heq] at hsame hzero
      rw [if_pos (hzero seqNo id rfl)]
      exact h.sameTimeouts hsame c.terminated
  · have hpair : c.client_list_.request (stage.message encoded) (stage.destination destination) =
        ((c.client_list_.request (stage.message encoded) (stage.destination destination)).1,
          .ok (seqNo, id)) := Prod.ext rfl hresult
    generalize (c.client_list_.request (stage.message encoded) (stage.destination destination)).1 = list
      at hpair hbinded hclients
    simp only [hpair]
    have hconfigured := h.configured.update hclients hbinded rfl rfl
    obtain ⟨hid, hbound⟩ : id = server_id k ∧ c.bound k ≠ 0 :=
      h.configured.binded _ (PClientList.mem_of_chosen hchosen)
    obtain ⟨hperiod, htracks⟩ := h.arms k
    by_cases hzero : seqNo = 0
    · rw [if_pos hzero]
      refine h.connected hconfigured (fun _ => Nat.le_refl _) ?_ c.terminated
      rw [hclients]
      refine arms_update ⟨hperiod, ?_⟩ fun i _ => h.arms i
      exact htracks.add_irrelevant (by simp [hzero]) _ _
    · rw [if_neg hzero]
      obtain ⟨hlookup, hinfo⟩ := hapart id k session hchosen hsession hopen (hnumber ▸ hzero)
      rw [← hnumber] at hlookup hinfo
      have hchannel : c.channel (stage.destination destination) = (k, c.bound k - 1) := by
        rw [channel, hchosen]
      have hrecorded : (c.books timeout_sec).recorded = c.history.length := (ledger_sound _ _ c.history).recorded
      have hfate (w : Waiting (ℕ × ℕ) UInt32) (_ : w ∈ (c.books timeout_sec).waiting) :
          fate Prod.fst w (.sent (k, c.bound k - 1) seqNo : Happening (ℕ × ℕ) UInt32 Bytes ℕ) =
            if false then some .closed else none := rfl
      rw [hchannel]
      refine h.after rfl rfl hconfigured hfate ?_ ?_ ?_ ?_
      all_goals
        simp only [Ledger.entered, hrecorded, Waiting.pass, Bool.not_false, List.filter_true, List.map_id',
          List.filter_false, List.map_nil, List.append_nil, List.singleton_append]
      · change ∀ i, Arms stage (list.p_client_list_ i).packet_expirator_ _
        rw [hclients]
        refine arms_update ⟨hperiod, ?_⟩ fun i hi => ?_
        · have hticks : timeout_sec * 10 ^ 9 / 10 ^ 6 = timeout_sec * 1000 := by omega
          rw [List.filter_cons_of_pos (by simp)]
          refine htracks.add (w := ⟨c.history.length, (k, c.bound k - 1), seqNo, timeout_sec * 1000⟩)
            (by simpa using hzero) hinfo ?_ h.timeout ?_
          · rw [h.configured.timeout, hperiod, hticks]
          · exact stage.acceptsTimeout_message encoded
        · rw [List.filter_cons_of_neg (by simpa using fun heq => hi heq.symm)]
          exact h.arms i
      · rw [hid]
        rw [hid] at hlookup
        exact h.stores.insertNew (w := ⟨c.history.length, (k, c.bound k - 1), seqNo, timeout_sec * 1000⟩) rfl
          hlookup rfl
      · exact .refl _
      · exact List.forall_mem_singleton.mpr ⟨hzero, Nat.sub_one_lt hbound⟩

/-! ### Responses and timeouts -/

/-- What is taken out is the submit of the request that waits under the key. -/
theorem resolve_eq {ws : List (Waiting (ℕ × ℕ) UInt32)} (h : Stores server_id c.user_data_ ws)
    {client_id : Bytes} {seq_no : UInt32} {accepted : Except Fault Bool} (o : Outcome Bytes)
    (haccepted : ∀ w ∈ ws, keyOf server_id w = requestKey seq_no client_id → accepted = .ok true) :
    c.resolve client_id seq_no accepted o =
      { c with
        user_data_ := c.user_data_.erase (requestKey seq_no client_id)
        applied := c.applied ++
          (ws.filter fun w => keyOf server_id w = requestKey seq_no client_id).map fun w => (w.request, o) } := by
  unfold resolve
  simp only
  split
  · rename_i hlookup
    rw [h.of_lookup_none rfl hlookup, Table.erase_of_notMem (AList.lookup_eq_none.mp hlookup)]
    simp
  · rename_i x hlookup
    obtain ⟨w, hw, hrequest⟩ := h.of_lookup rfl hlookup
    obtain ⟨hmem, hkey⟩ := List.mem_filter.mp (hw ▸ List.mem_singleton_self w)
    rw [haccepted w hmem (of_decide_eq_true hkey), hw, List.map_singleton, ← hrequest]

theorem receiveResponse_eq {ws : List (Waiting (ℕ × ℕ) UInt32)} (h : Stores server_id c.user_data_ ws)
    {client_id : Bytes} {seq_no : UInt32} {msg_body : Bytes}
    (haccepted : ∀ w ∈ ws, keyOf server_id w = requestKey seq_no client_id →
      stage.acceptsResponse X msg_body = .ok true) :
    c.receiveResponse X stage client_id seq_no msg_body =
      { c with
        user_data_ := c.user_data_.erase (requestKey seq_no client_id)
        applied := c.applied ++ (ws.filter fun w => keyOf server_id w = requestKey seq_no client_id).map
          fun w => (w.request, .answered msg_body) } := by
  cases stage with
  | pinex => exact resolve_eq h (.answered msg_body) haccepted
  | paper =>
    simp only [receiveResponse]
    cases hresponse : X.response msg_body with
    | some status => exact resolve_eq h (.answered msg_body) fun _ _ _ => rfl
    | none =>
      have hnobody : ∀ w ∈ ws, keyOf server_id w ≠ requestKey seq_no client_id := by
        intro w hw hkey
        have hfalse := haccepted w hw hkey
        rw [Stage.acceptsResponse, hresponse] at hfalse
        cases hfalse
      have hfilter : (ws.filter fun w => keyOf server_id w = requestKey seq_no client_id) = [] :=
        List.filter_eq_nil_iff.mpr fun w hw => by simpa using hnobody w hw
      have hmem : requestKey seq_no client_id ∉ c.user_data_ := by
        intro hmem
        obtain ⟨w, hw, hkey⟩ := (h.mem_iff rfl).mp hmem
        exact hnobody w hw hkey
      rw [hfilter, Table.erase_of_notMem hmem, List.map_nil, List.append_nil]

theorem sent_of_mem {w : Waiting (ℕ × ℕ) UInt32} (hw : w ∈ (c.books timeout_sec).waiting)
    {channel : ℕ × ℕ} {number : UInt32} (h : c.history[w.request]? = some (.sent channel number)) :
    w.channel = channel ∧ w.number = number := by
  have hlisted := ((ledger_sound Prod.fst (fun _ => timeout_sec * 1000) c.history).waiting w hw).1
  exact Happening.sent.inj (Option.some.inj (hlisted.symm.trans h))

/-- A response takes out the submit that waits for it. -/
theorem kept_response (h : c.Kept stage server_id timeout_sec) {k session : ℕ} {sm : Pinex.Stream}
    {sequence_number : UInt32} (hapart : c.Apart stage X server_id (.response k session (.streamResponse sm)
      sequence_number)) :
    ((c.observe (.answered (k, session) sequence_number sm.messageBody)).onSessionResponse X server_id stage k
      (.streamResponse sm) sequence_number).Kept stage server_id timeout_sec := by
  have htaken (w : Waiting (ℕ × ℕ) UInt32) (hw : w ∈ (c.books timeout_sec).waiting)
      (hkey : keyOf server_id w = requestKey sequence_number (server_id k)) :
      (w.channel = (k, session) ∧ w.number = sequence_number) ∧
        stage.acceptsResponse X sm.messageBody = .ok true := by
    obtain ⟨x, hlookup, hrequest, -⟩ := h.stores.lookup_of_mem hw rfl
    rw [hkey] at hlookup
    obtain ⟨hsent, haccepted⟩ := hapart x hlookup
    rw [hrequest] at hsent
    exact ⟨sent_of_mem hw hsent, haccepted⟩
  have hkeyed (w : Waiting (ℕ × ℕ) UInt32) (hw : w ∈ (c.books timeout_sec).waiting) :
      keyOf server_id w = requestKey sequence_number (server_id k) ↔
        w.channel.1 = k ∧ w.number = sequence_number := by
    constructor
    · intro hkey
      obtain ⟨⟨hchannel, hnumber⟩, -⟩ := htaken w hw hkey
      exact ⟨congrArg Prod.fst hchannel, hnumber⟩
    · rintro ⟨hchannel, hnumber⟩
      rw [keyOf, hchannel, hnumber]
  have hfate (w : Waiting (ℕ × ℕ) UInt32) (hw : w ∈ (c.books timeout_sec).waiting) :
      fate Prod.fst w (.answered (k, session) sequence_number sm.messageBody : Happening (ℕ × ℕ) UInt32 Bytes ℕ) =
        if decide (keyOf server_id w = requestKey sequence_number (server_id k)) then
          some (.answered sm.messageBody) else none := by
    by_cases hkey : keyOf server_id w = requestKey sequence_number (server_id k)
    · obtain ⟨hsent, -⟩ := htaken w hw hkey
      rw [fate, if_pos hsent, if_pos (decide_eq_true hkey)]
    · have hother : ¬ (w.channel = (k, session) ∧ w.number = sequence_number) := by
        rintro ⟨hchannel, hnumber⟩
        exact hkey ((hkeyed w hw).mpr ⟨congrArg Prod.fst hchannel, hnumber⟩)
      rw [fate, if_neg hother, if_neg (by simpa using hkey)]
  obtain ⟨hperiod, htracks⟩ := h.arms k
  let clnt : PClient :=
    { c.client k with packet_expirator_ := (c.client k).packet_expirator_.remove sequence_number }
  let c' : Correspondence :=
    { c.observe (.answered (k, session) sequence_number sm.messageBody) with
      client_list_ := c.client_list_.update k clnt }
  have hstores : Stores server_id c'.user_data_ (c.books timeout_sec).waiting := h.stores
  change (c'.receiveResponse X stage (server_id k) sequence_number sm.messageBody).Kept stage server_id timeout_sec
  rw [receiveResponse_eq hstores fun w hw hkey => (htaken w hw hkey).2]
  refine h.after rfl rfl (h.configured.update rfl rfl rfl rfl) hfate ?_ ?_ ?_ ?_
  all_goals simp only [Ledger.entered, Waiting.pass, List.map_id', List.nil_append, ← decide_not]
  · refine arms_update ⟨hperiod, ?_⟩ fun i hi => ?_
    · have hremoved := htracks.remove sequence_number
      rw [List.filter_filter] at hremoved ⊢
      refine List.filter_congr ?_ ▸ hremoved
      intro w hw
      by_cases hchannel : w.channel.1 = k <;> simp [hkeyed w hw, hchannel]
    · rw [List.filter_filter]
      refine List.filter_congr ?_ ▸ h.arms i
      intro w hw
      by_cases hchannel : w.channel.1 = i <;> simp [hkeyed w hw, hchannel, hi]
  · exact h.stores.erase _
  · exact .refl _
  · exact List.forall_mem_nil _

/-- A request that waits is called for. -/
def called (server_id : ℕ → Bytes) (client_id : Bytes) (calls : List (UInt32 × Pinex.Stream))
    (w : Waiting (ℕ × ℕ) UInt32) : Bool :=
  calls.any fun x => decide (keyOf server_id w = requestKey x.1 client_id)

/-- The calls of `on_session_timeout` take out the submits of the requests that are called for. -/
theorem timeouts_eq {ws : List (Waiting (ℕ × ℕ) UInt32)} (h : Stores server_id c.user_data_ ws)
    (hterminated : c.terminated = false) {client_id : Bytes} {calls : List (UInt32 × Pinex.Stream)}
    (haccepted : ∀ x ∈ calls, ∀ w ∈ ws, keyOf server_id w = requestKey x.1 client_id →
      stage.acceptsTimeout x.2.messageBody = .ok true) :
    ∃ user_data applied, c.timeouts stage client_id calls = { c with user_data_ := user_data, applied := applied } ∧
      Stores server_id user_data (ws.filter fun w => !called server_id client_id calls w) ∧
      applied.Perm (c.applied ++ (ws.filter (called server_id client_id calls)).map
        fun w => (w.request, .timedOut)) := by
  induction calls generalizing c ws with
  | nil =>
    have hnone : called server_id client_id [] = fun _ => false := rfl
    exact ⟨c.user_data_, c.applied, rfl, by simpa [hnone] using h, by simp [hnone]⟩
  | cons x calls ih =>
    obtain ⟨hx, hcalls⟩ := List.forall_mem_cons.mp haccepted
    let key := requestKey x.1 client_id
    have hfirst := resolve_eq h .timedOut hx
    have hcalled (w : Waiting (ℕ × ℕ) UInt32) : called server_id client_id (x :: calls) w =
        (decide (keyOf server_id w = key) || called server_id client_id calls w) := List.any_cons
    obtain ⟨user_data, applied, hrest, hstores, happlied⟩ := ih
      (c := { c with
        user_data_ := c.user_data_.erase key
        applied := c.applied ++ (ws.filter fun w => keyOf server_id w = key).map fun w => (w.request, .timedOut) })
      (h.erase key) hterminated fun y hy w hw => hcalls y hy w (List.mem_filter.mp hw).1
    refine ⟨user_data, applied, ?_, ?_, ?_⟩
    · have hrunning : ¬ c.terminated = true := by simp [hterminated]
      rw [timeouts, List.foldl_cons, if_neg hrunning, timeoutRequest, hfirst]
      exact hrest
    · rw [List.filter_filter] at hstores
      simpa only [hcalled, Bool.not_or, ← decide_not, Bool.and_comm] using hstores
    · have hsplit := List.filter_append_perm (fun w => decide (keyOf server_id w = key))
        (ws.filter (called server_id client_id (x :: calls)))
      have hmine : ws.filter (fun w => decide (keyOf server_id w = key) && called server_id client_id (x :: calls) w) =
          ws.filter fun w => decide (keyOf server_id w = key) :=
        List.filter_congr fun w _ => by
          rw [hcalled]
          cases decide (keyOf server_id w = key) <;> simp
      have hothers : ws.filter (fun w => !decide (keyOf server_id w = key) &&
            called server_id client_id (x :: calls) w) =
          ws.filter fun w => called server_id client_id calls w && decide (keyOf server_id w ≠ key) :=
        List.filter_congr fun w _ => by
          rw [hcalled, decide_not]
          cases decide (keyOf server_id w = key) <;> simp
      rw [List.filter_filter, List.filter_filter, hmine, hothers] at hsplit
      rw [List.filter_filter, List.append_assoc, ← List.map_append] at happlied
      exact happlied.trans ((hsplit.map _).append_left _)

theorem called_iff (h : c.Kept stage server_id timeout_sec) (k : ℕ) {w : Waiting (ℕ × ℕ) UInt32}
    (hw : w ∈ (c.books timeout_sec).waiting) :
    (called server_id (c.client k).server_id_ (c.client k).packet_expirator_.expiring w =
        decide (w.channel.1 = k ∧ w.left = 0)) ∧
      ∀ x ∈ (c.client k).packet_expirator_.expiring,
        keyOf server_id w = requestKey x.1 (c.client k).server_id_ →
          stage.acceptsTimeout x.2.messageBody = .ok true := by
  obtain ⟨hcalls, -⟩ := (h.arms k).2.onTimer (fun w => { w with left := w.left - 1 }) fun _ _ _ => ⟨rfl, rfl, rfl⟩
  have hserver {v : Waiting (ℕ × ℕ) UInt32} (hv : v ∈ (c.books timeout_sec).waiting) (hchannel : v.channel.1 = k) :
      (c.client k).server_id_ = server_id v.channel.1 := by
    rw [hchannel]
    have hlt := (h.waiting v hv).2
    rw [hchannel] at hlt
    exact h.configured.server k (Nat.ne_of_gt (Nat.lt_of_le_of_lt (Nat.zero_le _) hlt))
  have hdue (x : UInt32 × Pinex.Stream) (hx : x ∈ (c.client k).packet_expirator_.expiring)
      (hkey : keyOf server_id w = requestKey x.1 (c.client k).server_id_) :
      stage.acceptsTimeout x.2.messageBody = .ok true ∧ w.channel.1 = k ∧ w.left = 0 := by
    obtain ⟨hnumber, -⟩ := requestKey_inj hkey
    have hrelevant : decide (x.1 ≠ 0) = true := decide_eq_true (hnumber ▸ (h.waiting w hw).1)
    obtain ⟨v, hv, heq⟩ := List.mem_map.mp (hcalls.mem_iff.mp
      (List.mem_map_of_mem (List.mem_filter.mpr ⟨hx, hrelevant⟩)))
    obtain ⟨hvmine, hvleft⟩ := List.mem_filter.mp hv
    obtain ⟨hvmem, hvchannel⟩ := List.mem_filter.mp hvmine
    have hvkey : keyOf server_id v = keyOf server_id w := by
      rw [hkey, hserver hvmem (of_decide_eq_true hvchannel), ← congrArg Prod.fst heq]
      rfl
    obtain ⟨-, -, -, hsame⟩ := h.stores.lookup_of_mem hw rfl
    have hmem : v ∈ (c.books timeout_sec).waiting.filter fun u => keyOf server_id u = keyOf server_id w :=
      List.mem_filter.mpr ⟨hvmem, decide_eq_true hvkey⟩
    rw [hsame] at hmem
    obtain rfl := List.mem_singleton.mp hmem
    exact ⟨(congrArg Prod.snd heq).symm, of_decide_eq_true hvchannel, of_decide_eq_true hvleft⟩
  refine ⟨?_, fun x hx hkey => (hdue x hx hkey).1⟩
  rw [Bool.eq_iff_iff, decide_eq_true_eq]
  constructor
  · intro hcalled
    obtain ⟨x, hx, hkey⟩ := List.any_eq_true.mp hcalled
    exact (hdue x hx (of_decide_eq_true hkey)).2
  · rintro ⟨hchannel, hleft⟩
    have hmem : w ∈ ((c.books timeout_sec).waiting.filter fun w => w.channel.1 = k).filter fun w => w.left = 0 :=
      List.mem_filter.mpr ⟨List.mem_filter.mpr ⟨hw, decide_eq_true hchannel⟩, decide_eq_true hleft⟩
    obtain ⟨x, hx, heq⟩ := List.mem_map.mp (hcalls.mem_iff.mpr (List.mem_map_of_mem hmem))
    refine List.any_eq_true.mpr ⟨x, (List.mem_filter.mp hx).1, decide_eq_true ?_⟩
    have hnumber : x.1 = w.number := congrArg Prod.fst heq
    rw [hserver hw hchannel, hnumber]
    rfl

/-- A tick takes out the submits of the requests whose time is over. -/
theorem kept_onTimer (h : c.Kept stage server_id timeout_sec) (hterminated : c.terminated = false) (k : ℕ) :
    ((c.observe (.ticked k)).onTimer stage k).Kept stage server_id timeout_sec := by
  have hdue (w : Waiting (ℕ × ℕ) UInt32) (hw : w ∈ (c.books timeout_sec).waiting) := (called_iff h k hw).1
  have hstores : Stores server_id (c.observe (.ticked k)).user_data_ (c.books timeout_sec).waiting := h.stores
  obtain ⟨user_data, applied, htimeouts, hleft, happlied⟩ := timeouts_eq hstores hterminated
    fun x hx w hw => (called_iff h k hw).2 x hx
  rw [List.filter_congr fun w hw => congrArg not (hdue w hw)] at hleft
  rw [List.filter_congr hdue] at happlied
  have hfate (w : Waiting (ℕ × ℕ) UInt32) (_ : w ∈ (c.books timeout_sec).waiting) :
      fate Prod.fst w (.ticked k : Happening (ℕ × ℕ) UInt32 Bytes ℕ) =
        if decide (w.channel.1 = k ∧ w.left = 0) then some .timedOut else none := by
    simp [fate]
  have hrunning : ¬ (c.observe (.ticked k)).terminated = true := by simp [observe, hterminated]
  obtain ⟨hperiod, htracks⟩ := h.arms k
  have hmine (w : Waiting (ℕ × ℕ) UInt32)
      (hw : w ∈ (c.books timeout_sec).waiting.filter fun w => w.channel.1 = k) :
      w.pass Prod.fst (.ticked k : Happening (ℕ × ℕ) UInt32 Bytes ℕ) = { w with left := w.left - 1 } := by
    have hchannel : w.channel.1 = k := of_decide_eq_true (List.mem_filter.mp hw).2
    rw [Waiting.pass, if_pos hchannel]
  have hothers (i : ℕ) (hi : i ≠ k) (w : Waiting (ℕ × ℕ) UInt32)
      (hw : w ∈ (c.books timeout_sec).waiting.filter fun w => w.channel.1 = i) :
      w.pass Prod.fst (.ticked k : Happening (ℕ × ℕ) UInt32 Bytes ℕ) = w := by
    have hchannel : w.channel.1 = i := of_decide_eq_true (List.mem_filter.mp hw).2
    rw [Waiting.pass, if_neg (hchannel ▸ hi)]
  obtain ⟨-, hticked⟩ := htracks.onTimer (fun w => w.pass Prod.fst (.ticked k : Happening (ℕ × ℕ) UInt32 Bytes ℕ))
    fun w hw _ => by rw [hmine w hw]; exact ⟨rfl, rfl, rfl⟩
  unfold onTimer
  simp only
  rw [show (c.observe (.ticked k)).client k = c.client k from rfl, htimeouts, if_neg hrunning]
  refine h.after rfl rfl (h.configured.update rfl rfl rfl rfl) hfate ?_ hleft happlied (List.forall_mem_nil _)
  have hpassed (i : ℕ) (p : Waiting (ℕ × ℕ) UInt32 → Bool) :
      (((c.books timeout_sec).waiting.filter p).map fun w => w.pass Prod.fst
          (.ticked k : Happening (ℕ × ℕ) UInt32 Bytes ℕ)).filter (fun w => w.channel.1 = i) =
        (((c.books timeout_sec).waiting.filter fun w => w.channel.1 = i).filter p).map fun w => w.pass Prod.fst
          (.ticked k : Happening (ℕ × ℕ) UInt32 Bytes ℕ) := by
    rw [filter_map_pass Prod.fst _ fun channel => decide (channel.1 = i), List.filter_filter, List.filter_filter]
    simp only [Bool.and_comm]
  refine arms_update ⟨hperiod, ?_⟩ fun i hi => ?_
  all_goals
    simp only [Ledger.entered, List.nil_append]
    rw [hpassed]
  · have hsame : ((c.books timeout_sec).waiting.filter fun w => w.channel.1 = k).filter
          (fun w => !decide (w.channel.1 = k ∧ w.left = 0)) =
        ((c.books timeout_sec).waiting.filter fun w => w.channel.1 = k).filter fun w => w.left ≠ 0 :=
      List.filter_congr fun w hw => by simp [of_decide_eq_true (List.mem_filter.mp hw).2]
    rw [hsame]
    exact hticked
  · have hsame : ((c.books timeout_sec).waiting.filter fun w => w.channel.1 = i).filter
          (fun w => !decide (w.channel.1 = k ∧ w.left = 0)) =
        (c.books timeout_sec).waiting.filter fun w => w.channel.1 = i :=
      List.filter_eq_self.mpr fun w hw => by simp [of_decide_eq_true (List.mem_filter.mp hw).2, hi]
    rw [hsame, List.map_congr_left (hothers i hi), List.map_id']
    exact h.arms i

/-! ### The path of a submit -/

section Path

/-- `paper_client` or `pinex` of the path have the same. -/
structure Shows (r : Requests) (c : Correspondence) : Prop where
  list : r.client_list_ = some c.client_list_
  data : ∀ key, r.user_data_.lookup key = (c.user_data_.lookup key).map Prod.snd

variable {s : SubmitPath} {r : Requests}

theorem Shows.insertNew (h : Shows r c) (seqKey : Bytes) (user_data : SubmitInfo) (request : ℕ) (key : Bytes) :
    (r.user_data_.insertNew seqKey user_data).lookup key =
      ((c.user_data_.insertNew seqKey (request, user_data)).lookup key).map Prod.snd := by
  have hsome : (r.user_data_.lookup seqKey).isSome = (c.user_data_.lookup seqKey).isSome := by
    rw [h.data, Option.isSome_map]
  by_cases hmem : seqKey ∈ c.user_data_
  · have hmem' : seqKey ∈ r.user_data_ := AList.lookup_isSome.mp (hsome.trans (AList.lookup_isSome.mpr hmem))
    rw [Table.insertNew_of_mem hmem, Table.insertNew_of_mem hmem']
    exact h.data key
  · have hmem' : seqKey ∉ r.user_data_ := fun hmem' =>
      hmem (AList.lookup_isSome.mp (hsome.symm.trans (AList.lookup_isSome.mpr hmem')))
    rw [Table.insertNew_of_notMem hmem, Table.insertNew_of_notMem hmem']
    by_cases heq : key = seqKey
    · rw [heq, AList.lookup_insert, AList.lookup_insert]
      rfl
    · rw [AList.lookup_insert_ne heq, AList.lookup_insert_ne heq]
      exact h.data key

theorem Shows.erase (h : Shows r c) (seqKey key : Bytes) :
    (r.user_data_.erase seqKey).lookup key = ((c.user_data_.erase seqKey).lookup key).map Prod.snd := by
  by_cases heq : key = seqKey
  · rw [heq, AList.lookup_erase, AList.lookup_erase]
    rfl
  · rw [AList.lookup_erase_ne heq, AList.lookup_erase_ne heq]
    exact h.data key

/-- `pinex::send`, once the submit is encoded and has a route. -/
theorem Shows.pinexSend (h : Shows s.pinex_ c) {user_data : SubmitInfo} {encoded destination : Bytes}
    {others : List Bytes}
    (hencoded : X.encodeToProtobuf (s.ext_clients user_data.originating_ext_client_) user_data = .ok encoded)
    (hroute : s.router_ aoReqType user_data.international_dest_address_ = .ok (destination :: others)) :
    Shows (s.pinexSend X aoReqType user_data).1.pinex_ (c.send .pinex user_data encoded destination) := by
  simp only [SubmitPath.pinexSend, hencoded, hroute, h.list, send, Stage.destination, Stage.message,
    PClientList.request]
  cases hsend : c.client_list_.sendRequestTo (msgTypeBytes aoReqType ++ encoded) destination with
  | mk list result =>
    cases result with
    | error e =>
      cases e with
      | outOfBounds => exact ⟨rfl, h.data⟩
      | exception what => exact ⟨rfl, h.data⟩
    | ok seq_no =>
      simp only [Except.map]
      by_cases hzero : seq_no = 0
      · rw [if_pos hzero, if_pos hzero]
        exact ⟨rfl, h.data⟩
      · rw [if_neg hzero, if_neg hzero]
        exact ⟨rfl, h.insertNew _ user_data _⟩

/-- `paper_client::check_policies`, once the request is made. -/
theorem Shows.checkPolicies (h : Shows s.paper_client_ c) {system_id message : Bytes} {user_data : SubmitInfo}
    {commands : List ℕ} (hmessage : X.policyRequest system_id user_data commands = .ok message)
    (destination : Bytes) :
    Shows (s.checkPolicies X system_id user_data commands).1.paper_client_
      (c.send .paper user_data message destination) := by
  simp only [SubmitPath.checkPolicies, hmessage, h.list, send, Stage.destination, Stage.message,
    PClientList.request]
  cases hsend : c.client_list_.sendRequest message with
  | mk list result =>
    cases result with
    | error e =>
      cases e with
      | outOfBounds => exact ⟨rfl, h.data⟩
      | exception what => exact ⟨rfl, h.data⟩
    | ok x =>
      by_cases hzero : x.1 = 0
      · simp only [if_pos hzero]
        exact ⟨rfl, h.data⟩
      · simp only [if_neg hzero]
        exact ⟨rfl, h.insertNew _ user_data _⟩

theorem resolve_fields (c : Correspondence) (client_id : Bytes) (seq_no : UInt32) (accepted : Except Fault Bool)
    (o : Outcome Bytes) :
    (c.resolve client_id seq_no accepted o).client_list_ = c.client_list_ ∧
      (c.resolve client_id seq_no accepted o).user_data_ = c.user_data_.erase (requestKey seq_no client_id) := by
  unfold resolve
  simp only
  split
  · rename_i hlookup
    exact ⟨rfl, (Table.erase_of_notMem (AList.lookup_eq_none.mp hlookup)).symm⟩
  · split <;> exact ⟨rfl, rfl⟩

theorem Shows.resolve (h : Shows r c) {r' : Requests} (client_id : Bytes) (seq_no : UInt32)
    (accepted : Except Fault Bool) (o : Outcome Bytes) (hlist : r'.client_list_ = r.client_list_)
    (hdata : r'.user_data_ = r.user_data_.erase (requestKey seq_no client_id)) :
    Shows r' (c.resolve client_id seq_no accepted o) := by
  obtain ⟨hsame, herased⟩ := c.resolve_fields client_id seq_no accepted o
  refine ⟨by rw [hlist, hsame, h.list], ?_⟩
  intro key
  rw [hdata, herased]
  exact h.erase _ key

theorem pinexResolve_fields (s : SubmitPath) (client_id : Bytes) (seq_no : UInt32) (msg_body : Bytes)
    (type : UInt32) (response : Bytes → SubmitSmRespMessage) :
    let t := (s.pinexResolve client_id seq_no msg_body type response).1
    t.pinex_.client_list_ = s.pinex_.client_list_ ∧
      t.pinex_.user_data_ = s.pinex_.user_data_.erase (requestKey seq_no client_id) := by
  simp only [SubmitPath.pinexResolve]
  split
  · rename_i hlookup
    exact ⟨rfl, (Table.erase_of_notMem (AList.lookup_eq_none.mp hlookup)).symm⟩
  · split
    · exact ⟨rfl, rfl⟩
    · split
      · rename_i user_data _ _ _ _ _
        let t := s.setUserData .pinex (s.pinex_.user_data_.erase (requestKey seq_no client_id))
        have hsame := SubmitPath.requests_sendResp (s := t)
          (x := { user_data with
            message_id_ := (response (msg_body.drop 4)).mdMessageId
            error_ := (response (msg_body.drop 4)).errorCode.toUInt32 }) .pinex
        have hlist := congrArg Requests.client_list_ hsame
        have hdata := congrArg Requests.user_data_ hsame
        exact ⟨hlist, hdata⟩
      · exact ⟨rfl, rfl⟩

theorem paperProcessResp_fields (s : SubmitPath) (client_id : Bytes) (seq_no : UInt32) (status : ℤ) :
    let t := (s.paperProcessResp X client_id seq_no status).1
    t.paper_client_.client_list_ = s.paper_client_.client_list_ ∧
      t.paper_client_.user_data_ = s.paper_client_.user_data_.erase (requestKey seq_no client_id) := by
  simp only [SubmitPath.paperProcessResp]
  split
  · rename_i hlookup
    exact ⟨rfl, (Table.erase_of_notMem (AList.lookup_eq_none.mp hlookup)).symm⟩
  · rename_i user_data _
    let t := s.setUserData .paper (s.paper_client_.user_data_.erase (requestKey seq_no client_id))
    have hsame := SubmitPath.paper_client_onCheckPoliciesResponce (X := X) (s := t)
      (x := { user_data with error_ := policyStatus status })
    have hlist := congrArg Requests.client_list_ hsame
    have hdata := congrArg Requests.user_data_ hsame
    exact ⟨hlist, hdata⟩

theorem Shows.receiveResponse (h : Shows (s.requests stage) c) (client_id : Bytes) (seq_no : UInt32)
    (msg_body : Bytes) :
    Shows ((s.receiveResponse X stage client_id seq_no msg_body).1.requests stage)
      (c.receiveResponse X stage client_id seq_no msg_body) := by
  cases stage with
  | pinex =>
    obtain ⟨hlist, hdata⟩ := pinexResolve_fields s client_id seq_no msg_body aoRespType X.submitSmResp
    exact h.resolve client_id seq_no _ _ hlist hdata
  | paper =>
    simp only [SubmitPath.receiveResponse, SubmitPath.paperReceiveResponse, Correspondence.receiveResponse]
    cases X.response msg_body with
    | none => exact h
    | some status =>
      obtain ⟨hlist, hdata⟩ := paperProcessResp_fields (X := X) s client_id seq_no status
      exact h.resolve client_id seq_no _ _ hlist hdata

theorem Shows.setList (h : Shows (s.requests stage) c) (k : ℕ) (clnt : PClient) :
    Shows ((s.setList stage (some (c.client_list_.update k clnt))).requests stage)
      { c with client_list_ := c.client_list_.update k clnt } := by
  cases stage with
  | paper => exact ⟨rfl, h.data⟩
  | pinex => exact ⟨rfl, h.data⟩

theorem Shows.onSessionResponse (h : Shows (s.requests stage) c) (k : ℕ) (resp_packet : Pinex.Pdu)
    (sequence_number : UInt32) :
    Shows ((s.onSessionResponse X stage c.client_list_ k (server_id k) resp_packet sequence_number).1.requests
        stage) (c.onSessionResponse X server_id stage k resp_packet sequence_number) := by
  cases resp_packet with
  | streamResponse sm => exact (h.setList k _).receiveResponse (server_id k) sequence_number sm.messageBody
  | bindRequest pdu => exact h.setList k _
  | bindResponse pdu => exact h.setList k _
  | streamRequest pdu => exact h.setList k _

/-- The timeout of one request, of which the handler has returned. -/
theorem Shows.timeoutRequest (h : Shows (s.requests stage) c) (hrunning : c.terminated = false) {client_id : Bytes}
    {seq_no : UInt32} {msg_body : Bytes} {t : SubmitPath}
    (hreturned : s.timeoutRequest X stage client_id seq_no msg_body = (t, .ok ())) :
    Shows (t.requests stage) (c.timeoutRequest stage client_id seq_no msg_body) ∧
      (c.timeoutRequest stage client_id seq_no msg_body).terminated = false := by
  cases stage with
  | paper =>
    obtain ⟨hlist, hdata⟩ := paperProcessResp_fields (X := X) s client_id seq_no paperTimeout
    change s.paperProcessResp X client_id seq_no paperTimeout = _ at hreturned
    rw [hreturned] at hlist hdata
    refine ⟨h.resolve client_id seq_no _ _ hlist hdata, ?_⟩
    simp only [Correspondence.timeoutRequest, Correspondence.resolve, Stage.acceptsTimeout]
    split <;> exact hrunning
  | pinex =>
    obtain ⟨hlist, hdata⟩ := pinexResolve_fields s client_id seq_no msg_body aoReqType
      fun _ => ⟨[], ⟨Smpp.CommandStatus.rtimeout⟩⟩
    simp only [SubmitPath.timeoutRequest, SubmitPath.pinexTimeoutRequest] at hreturned
    rw [hreturned] at hlist hdata
    refine ⟨h.resolve client_id seq_no _ _ hlist hdata, ?_⟩
    simp only [Correspondence.timeoutRequest, Correspondence.resolve, Stage.acceptsTimeout]
    have hlookup := h.data (requestKey seq_no client_id)
    cases hfound : c.user_data_.lookup (requestKey seq_no client_id) with
    | none => exact hrunning
    | some x =>
      rw [hfound, Option.map_some] at hlookup
      change s.pinex_.user_data_.lookup _ = _ at hlookup
      simp only [SubmitPath.pinexResolve, hlookup] at hreturned
      cases hkind : msgType msg_body with
      | error e =>
        rw [hkind] at hreturned
        cases congrArg Prod.snd hreturned
      | ok msg_type =>
        by_cases htype : msg_type = aoReqType
        · simpa only [Except.map, htype, decide_true] using hrunning
        · simpa only [Except.map, htype, decide_false] using hrunning

theorem Shows.timeouts (h : Shows (s.requests stage) c) (hrunning : c.terminated = false) {client_id : Bytes}
    {calls : List (UInt32 × Pinex.Stream)} {t : SubmitPath}
    (hreturned : s.timeouts X stage client_id calls = (t, .ok ())) :
    Shows (t.requests stage) (c.timeouts stage client_id calls) ∧
      (c.timeouts stage client_id calls).terminated = false := by
  induction calls generalizing s c with
  | nil =>
    obtain rfl := congrArg Prod.fst hreturned
    exact ⟨h, hrunning⟩
  | cons x calls ih =>
    have hnot : ¬ c.terminated = true := by simp [hrunning]
    rw [SubmitPath.timeouts] at hreturned
    split at hreturned
    · rename_i u hfirst
      obtain ⟨hshows, hgoes⟩ := h.timeoutRequest hrunning hfirst
      rw [Correspondence.timeouts, List.foldl_cons, if_neg hnot]
      exact ih hshows hgoes hreturned
    · cases congrArg Prod.snd hreturned

/-- `on_timer`, when it has returned. -/
theorem Shows.onTimer (h : Shows (s.requests stage) c) (hrunning : c.terminated = false) {k : ℕ} {t : SubmitPath}
    (hreturned : s.onTimer X stage c.client_list_ k = (t, .ok ())) :
    Shows (t.requests stage) (c.onTimer stage k) := by
  unfold SubmitPath.onTimer at hreturned
  simp only at hreturned
  split at hreturned
  · cases congrArg Prod.snd hreturned
  · rename_i u htimeouts
    obtain ⟨hshows, hgoes⟩ := h.timeouts hrunning htimeouts
    let d := c.timeouts stage (c.client k).server_id_ (c.client k).packet_expirator_.expiring
    have hshows : Shows (u.requests stage) d := hshows
    have hnot : ¬ d.terminated = true := by
      change d.terminated = false at hgoes
      simp [hgoes]
    have ht : u.setList stage ((u.requests stage).client_list_.map fun list =>
        list.update k (list.p_client_list_ k).onTimer) = t := congrArg Prod.fst hreturned
    rw [hshows.list] at ht
    change Shows (t.requests stage)
      (if d.terminated then d else { d with client_list_ := d.client_list_.update k (d.client k).onTimer })
    rw [if_neg hnot, ← ht]
    exact hshows.setList k _

end Path

/-! ### Runs -/

theorem kept_bind (h : c.Kept stage server_id timeout_sec) (k : ℕ)
    (session : Session Pinex.CommandId Pinex.CommandStatus Pinex.Pdu) :
    Kept stage server_id timeout_sec
      { c with
        client_list_ := c.client_list_.onBind k (server_id k) session
        bound := Function.update c.bound k (c.bound k + 1) } := by
  have hbound (i : ℕ) : c.bound i ≤ Function.update c.bound k (c.bound k + 1) i := by
    by_cases heq : i = k
    · rw [heq, Function.update_self]
      exact Nat.le_succ _
    · rw [Function.update_of_ne heq]
  have hclients : (c.client_list_.onBind k (server_id k) session).p_client_list_ =
      Function.update c.client_list_.p_client_list_ k ((c.client k).onBind (server_id k) session) := rfl
  refine h.connected ⟨?_, ?_, ?_⟩ hbound ?_ c.terminated
  · intro i
    rw [hclients]
    by_cases heq : i = k
    · rw [heq, Function.update_self]
      exact h.configured.timeout k
    · rw [Function.update_of_ne heq]
      exact h.configured.timeout i
  · intro i hi
    rw [hclients]
    by_cases heq : i = k
    · rw [heq, Function.update_self]
      rfl
    · rw [Function.update_of_ne heq] at hi ⊢
      exact h.configured.server i hi
  · intro x hx
    rcases PClientList.mem_insertClient hx with rfl | hold
    · exact ⟨rfl, by simp⟩
    · obtain ⟨hid, hpos⟩ := h.configured.binded x hold
      exact ⟨hid, fun hzero => hpos (Nat.le_zero.mp (hzero ▸ hbound x.2))⟩
  · rw [hclients]
    refine arms_update ?_ fun i _ => h.arms i
    exact h.arms k

theorem kept_close (h : c.Kept stage server_id timeout_sec) (k : ℕ) :
    Kept stage server_id timeout_sec
      { c with client_list_ := c.client_list_.onSessionClose k (server_id k) } := by
  have hsame := h.configured.sameTimeouts (c.client_list_.sameTimeouts_update k none)
  have hconfigured : Configured server_id timeout_sec (c.client_list_.onSessionClose k (server_id k)) c.bound :=
    ⟨hsame.timeout, hsame.server, fun x hx => h.configured.binded x (List.mem_filter.mp hx).1⟩
  have hclients : (c.client_list_.onSessionClose k (server_id k)).p_client_list_ =
      Function.update c.client_list_.p_client_list_ k (c.client k).onSessionClose := rfl
  refine h.connected hconfigured (fun _ => Nat.le_refl _) ?_ c.terminated
  rw [hclients]
  refine arms_update ?_ fun i _ => h.arms i
  exact h.arms k

/-- **Every event that keeps the sessions apart** keeps the books right. -/
theorem kept_step (h : c.Kept stage server_id timeout_sec) {e : CorrespondenceEvent}
    (hapart : c.Apart stage X server_id e) :
    (c.step stage X server_id e).Kept stage server_id timeout_sec := by
  unfold step
  split
  · exact h
  rename_i hrunning
  cases e with
  | request user_data encoded destination => exact kept_send h hapart
  | response k session resp_packet sequence_number =>
    simp only
    split
    · cases resp_packet with
      | streamResponse sm => exact kept_response h hapart
      | bindRequest pdu => exact h.sameTimeouts (c.client_list_.sameTimeouts_update k _) c.terminated
      | bindResponse pdu => exact h.sameTimeouts (c.client_list_.sameTimeouts_update k _) c.terminated
      | streamRequest pdu => exact h.sameTimeouts (c.client_list_.sameTimeouts_update k _) c.terminated
    · exact h
  | timer k => exact kept_onTimer h (Bool.eq_false_iff.mpr hrunning) k
  | bind k session => exact kept_bind h k session
  | close k session =>
    simp only
    split
    · exact kept_close h k
    · exact h
  | serve k session => exact h.sameTimeouts (c.client_list_.sameTimeouts_update k _) c.terminated

/-- **Each submit is taken out once, for what its request has come to**: for the response to this request on the
session that it was sent on, or for the end of its time, whichever comes first; until then it is in `user_data_`,
and its number is armed. -/
def Correlated (server_id : ℕ → Bytes) (timeout_sec : ℕ) (c : Correspondence) : Prop :=
  (∀ request k session sequence_number, c.history[request]? = some (.sent (k, session) sequence_number) →
    let o := outcome Prod.fst ⟨request, (k, session), sequence_number, timeout_sec * 1000⟩
      (c.history.drop (request + 1))
    c.applied.filter (fun x => x.1 = request) = (o.map fun o => (request, o)).toList ∧
      (o = none →
        (∃ user_data, c.user_data_.lookup (requestKey sequence_number (server_id k)) = some (request, user_data)) ∧
          (c.client k).packet_expirator_.getInfo sequence_number ≠ none)) ∧
  ∀ x ∈ c.applied, ∃ channel sequence_number, c.history[x.1]? = some (.sent channel sequence_number)

theorem Kept.correlated (h : c.Kept stage server_id timeout_sec) : c.Correlated server_id timeout_sec := by
  constructor
  · intro request k session sequence_number hsent o
    obtain ⟨hsettled, hwaits⟩ := ledger_of_sent Prod.fst (fun _ => timeout_sec * 1000) hsent
    constructor
    · have hperm := h.applied.filter fun x => x.1 = request
      change (c.applied.filter fun x => x.1 = request).Perm ((c.books timeout_sec).settledOf request) at hperm
      rw [books, hsettled] at hperm
      cases ho : o with
      | none =>
        rw [show outcome _ _ _ = o from rfl, ho] at hperm
        exact hperm.eq_nil
      | some a =>
        rw [show outcome _ _ _ = o from rfl, ho] at hperm
        exact hperm.eq_singleton
    · intro hnone
      obtain ⟨w, hw, hchannel, hnumber⟩ := hwaits hnone
      obtain ⟨hmem, hrequest⟩ := List.mem_filter.mp (hw ▸ List.mem_singleton_self w)
      have hchannel1 : w.channel.1 = k := congrArg Prod.fst hchannel
      constructor
      · obtain ⟨x, hlookup, hview, -⟩ := h.stores.lookup_of_mem hmem rfl
        rw [keyOf, hnumber, hchannel1] at hlookup
        rw [of_decide_eq_true hrequest] at hview
        exact ⟨x.2, hview ▸ hlookup⟩
      · intro hinfo
        have hpos : decide (sequence_number ≠ 0) = true := decide_eq_true (hnumber ▸ (h.waiting w hmem).1)
        have hnobody := (h.arms k).2.of_getInfo_none hpos hinfo
        have hmine : w ∈ ((c.books timeout_sec).waiting.filter fun w => w.channel.1 = k).filter
            fun w => w.number = sequence_number :=
          List.mem_filter.mpr ⟨List.mem_filter.mpr ⟨hmem, decide_eq_true hchannel1⟩, decide_eq_true hnumber⟩
        rw [hnobody] at hmine
        cases hmine
  · intro x hx
    exact (ledger_sound Prod.fst (fun _ => timeout_sec * 1000) c.history).settled x (h.applied.mem_iff.mp hx)

/-- **Requests and their responses**, in every run that keeps the sessions apart. -/
theorem corresponds_run (stage : Stage) (X : Externals) (server_id : ℕ → Bytes) {timeout_sec : ℕ}
    (htimeout : timeout_sec * 1000 < 2 ^ 32) (events : List CorrespondenceEvent)
    (h : Along (step stage X server_id) (Apart stage X server_id) (start timeout_sec) events) :
    (run (step stage X server_id) (start timeout_sec) events).Correlated server_id timeout_sec :=
  (h.invariant (fun _ _ hc he => kept_step hc he) (kept_start stage server_id htimeout)).correlated

/-- A session to the backend is bound and a submit is sent on it. -/
def firstExchange : List CorrespondenceEvent :=
  [.bind 0 (.fresh fun _ => true), .request SubmitPath.seventhSubmit [] (ascii "md")]

/-- The response of a session to its first request. -/
def firstResponse (session : ℕ) : CorrespondenceEvent :=
  .response 0 session (.streamResponse ⟨msgTypeBytes aoRespType⟩) 1

/-- The session is closed once its request is answered, and the one that is bound then gives the number out
again. -/
def secondSession : List CorrespondenceEvent :=
  firstExchange ++ firstResponse 0 :: .close 0 0 :: firstExchange ++ [.timer 0, firstResponse 1]

theorem corresponds_run_secondSession :
    let applied := (run (step .pinex SubmitPath.emptyMessages fun _ => ascii "md") (start 10) secondSession).applied
    applied.filter (fun x => x.1 = 0) = [(0, .answered (msgTypeBytes aoRespType))] ∧
      applied.filter (fun x => x.1 = 2) = [(2, .answered (msgTypeBytes aoRespType))] := by
  have hapart : Along (step .pinex SubmitPath.emptyMessages fun _ => ascii "md")
      (Apart .pinex SubmitPath.emptyMessages fun _ => ascii "md") (start 10) secondSession := by
    refine ⟨trivial, ?request, ?response, trivial, trivial, ?request', trivial, ?response', trivial⟩
    case request | request' =>
      intro id k session hchosen _ _ _
      have heq : some (ascii "md", 0) = some (id, k) := hchosen
      obtain rfl : 0 = k := congrArg Prod.snd (Option.some.inj heq)
      exact ⟨rfl, rfl⟩
    case response | response' =>
      intro x hx
      obtain rfl := Option.some.inj hx
      exact ⟨rfl, rfl⟩
  have hcorrelated := corresponds_run .pinex SubmitPath.emptyMessages (fun _ => ascii "md") (by decide) _ hapart
  exact ⟨(hcorrelated.1 0 0 0 1 rfl).1, (hcorrelated.1 2 0 1 1 rfl).1⟩

/-- A request waits, its session is closed, and the session that is bound then gives its number to another request:
the response to the second request is applied to the first submit. -/
theorem not_corresponds_run : ¬ ∀ (stage : Stage) (X : Externals) (server_id : ℕ → Bytes) (timeout_sec : ℕ)
    (events : List CorrespondenceEvent),
    (run (step stage X server_id) (start timeout_sec) events).Correlated server_id timeout_sec := by
  intro h
  have hcorrelated := h .pinex SubmitPath.emptyMessages (fun _ => ascii "md") 10
    (firstExchange ++ .close 0 0 :: firstExchange ++ [firstResponse 1])
  have happlied := (hcorrelated.1 0 0 0 1 rfl).1
  have hfirst : [(0, Outcome.answered (msgTypeBytes aoRespType))] = ([] : List (ℕ × Outcome Bytes)) := happlied
  cases hfirst

end Correspondence

end SmppGateway.Gateway
