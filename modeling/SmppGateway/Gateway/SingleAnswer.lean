import Mathlib.Algebra.Order.Group.Multiset
import Mathlib.Tactic.Abel
import SmppGateway.Foundation.Custody
import SmppGateway.Gateway.SubmitPath

/-!
# One answer for a submit

A `submit_info` is in hand of the function that works on it, or in one of the two `user_data_`, or it has been
answered, and an answer goes to the session that the submit came from.

## What is proved

* `SubmitPath.answers_run` — in every run: at most one answer is passed to the session of a submit, and a
  submit is not in both maps, nor in one of them after its answer.
-/

namespace SmppGateway.Gateway

open Foundation Net Smpp

/-- The numbers of the submits in a map. -/
def ids (userData : Table Bytes SubmitInfo) : Multiset ℕ := Multiset.ofList (userData.entries.map fun x => x.2.id)

theorem mem_ids {userData : Table Bytes SubmitInfo} {x : Σ _ : Bytes, SubmitInfo} (h : x ∈ userData.entries) :
    x.2.id ∈ ids userData :=
  Multiset.mem_coe.mpr (List.mem_map.mpr ⟨x, h, rfl⟩)

/-- A submit is the one that arrived in its place. -/
def SubmitInfo.Genuine (x : SubmitInfo) (received : List Received) : Prop :=
  received[x.id]? =
    some ⟨x.originating_ext_client_, x.originating_session_, x.originating_sequence_number_⟩

/-- An answer is for the session and the number of the submit that arrived in its place. -/
def Passed.Genuine (a : Passed) (received : List Received) : Prop :=
  ∃ r, received[a.submit]? = some r ∧ a.session = r.session ∧ a.sequenceNumber = r.sequenceNumber

namespace SubmitPath

/-- The numbers of the submits that wait for the policy server or for the backend, or are answered. -/
def whereabouts (s : SubmitPath) : Multiset ℕ :=
  ids s.paper_client_.user_data_ + ids s.pinex_.user_data_ + Multiset.ofList (s.passed.map Passed.submit)

/-- What waits is what arrived, and the answers are for what arrived. -/
structure Genuine (s : SubmitPath) : Prop where
  waiting (stage : Stage) : ∀ x ∈ (s.requests stage).user_data_.entries, x.2.Genuine s.received
  passed : ∀ a ∈ s.passed, a.Genuine s.received

/-- What is said of the submits is as it was. -/
structure Keeps (s t : SubmitPath) : Prop where
  received : t.received = s.received
  user_data (stage : Stage) : (t.requests stage).user_data_ = (s.requests stage).user_data_
  passed : t.passed = s.passed

/-- Of the submits nothing was made, and none of those at hand is in a second place. -/
structure Moves (hand : Multiset ℕ) (s t : SubmitPath) : Prop where
  received : t.received = s.received
  whereabouts_le : t.whereabouts ≤ hand + s.whereabouts
  genuine : s.Genuine → t.Genuine

section Rules

variable {hand hand' : Multiset ℕ} {s t u : SubmitPath} {x : SubmitInfo}

theorem Keeps.whereabouts_eq (h : Keeps s t) : t.whereabouts = s.whereabouts := by
  have hpaper := h.user_data .paper
  have hpinex := h.user_data .pinex
  simp only [requests] at hpaper hpinex
  rw [whereabouts, whereabouts, hpaper, hpinex, h.passed]

theorem Keeps.genuine (h : Keeps s t) (hs : s.Genuine) : t.Genuine := by
  refine ⟨fun stage x hx => ?_, fun a ha => ?_⟩
  · rw [h.user_data stage] at hx
    rw [h.received]
    exact hs.waiting stage x hx
  · rw [h.passed] at ha
    rw [h.received]
    exact hs.passed a ha

theorem Keeps.trans (h : Keeps s t) (h' : Keeps t u) : Keeps s u :=
  ⟨h'.received.trans h.received, fun stage => (h'.user_data stage).trans (h.user_data stage),
    h'.passed.trans h.passed⟩

/-- What keeps the submits moves none. -/
theorem Keeps.moves (h : Keeps s t) (hand : Multiset ℕ) : Moves hand s t :=
  ⟨h.received, h.whereabouts_eq ▸ Multiset.le_add_left _ _, h.genuine⟩

theorem Keeps.trans_moves (h : Keeps s t) (h' : Moves hand t u) : Moves hand s u :=
  ⟨h'.received.trans h.received, h.whereabouts_eq ▸ h'.whereabouts_le, fun hs => h'.genuine (h.genuine hs)⟩

theorem Moves.trans (h : Moves hand s t) (h' : Moves hand' t u) : Moves (hand' + hand) s u := by
  refine ⟨h'.received.trans h.received, h'.whereabouts_le.trans ?_, fun hs => h'.genuine (h.genuine hs)⟩
  rw [add_assoc]
  exact add_le_add_right h.whereabouts_le hand'

theorem Moves.trans_keeps (h : Moves hand s t) (h' : Keeps t u) : Moves hand s u :=
  ⟨h'.received.trans h.received, h'.whereabouts_eq ▸ h.whereabouts_le, fun hs => h'.genuine (h.genuine hs)⟩

theorem keeps_forwarded (s : SubmitPath) (forwarded : List ℕ) :
    Keeps s { s with forwarded := forwarded } := by
  refine ⟨rfl, ?_, rfl⟩
  intro stage
  cases stage <;> rfl

theorem keeps_setList (s : SubmitPath) (stage : Stage) (list : Option Pinex.PClientList) :
    Keeps s (s.setList stage list) := by
  refine ⟨?_, fun other => ?_, ?_⟩
  · cases stage <;> rfl
  · cases stage <;> cases other <;> rfl
  · cases stage <;> rfl

theorem requests_setUserData (s : SubmitPath) (stage other : Stage) (userData : Table Bytes SubmitInfo) :
    ((s.setUserData stage userData).requests other).user_data_ =
      if other = stage then userData else (s.requests other).user_data_ := by
  cases stage <;> cases other <;> rfl

theorem received_setUserData (s : SubmitPath) (stage : Stage) (userData : Table Bytes SubmitInfo) :
    (s.setUserData stage userData).received = s.received := by
  cases stage <;> rfl

theorem passed_setUserData (s : SubmitPath) (stage : Stage) (userData : Table Bytes SubmitInfo) :
    (s.setUserData stage userData).passed = s.passed := by
  cases stage <;> rfl

/-- What a change of a map does to the whereabouts. -/
theorem whereabouts_setUserData (s : SubmitPath) (stage : Stage) (userData : Table Bytes SubmitInfo) :
    (s.setUserData stage userData).whereabouts + ids (s.requests stage).user_data_ =
      ids userData + s.whereabouts := by
  cases stage <;> simp only [whereabouts, setUserData, setRequests, requests] <;> abel

/-- A change of a map to what is genuine. -/
theorem Genuine.setUserData (h : s.Genuine) {stage : Stage} {userData : Table Bytes SubmitInfo}
    (hdata : ∀ x ∈ userData.entries, x.2.Genuine s.received) : (s.setUserData stage userData).Genuine := by
  refine ⟨fun other x hx => ?_, fun a ha => ?_⟩
  · rw [requests_setUserData] at hx
    rw [received_setUserData]
    split at hx
    · exact hdata x hx
    · exact h.waiting other x hx
  · rw [passed_setUserData] at ha
    rw [received_setUserData]
    exact h.passed a ha

theorem ids_insertNew_le (userData : Table Bytes SubmitInfo) (key : Bytes) (x : SubmitInfo) :
    ids (userData.insertNew key x) ≤ {x.id} + ids userData := by
  by_cases hkey : key ∈ userData
  · rw [Table.insertNew_of_mem hkey]
    exact Multiset.le_add_left _ _
  · rw [ids, Table.entries_insertNew hkey]
    exact le_of_eq rfl

theorem ids_erase {userData : Table Bytes SubmitInfo} {key : Bytes} (h : userData.lookup key = some x) :
    ids userData = {x.id} + ids (userData.erase key) := by
  obtain ⟨l1, l2, hentries, herase, -⟩ := Table.exists_entries_eq h
  rw [ids, ids, hentries, herase]
  simp only [List.map_append, List.map_cons, ← Multiset.coe_add, ← Multiset.cons_coe, ← Multiset.singleton_add]
  abel

/-- **A submit is put** into a map. -/
theorem moves_insertNew (hx : x.Genuine s.received) (stage : Stage) (key : Bytes) :
    Moves {x.id} s (s.setUserData stage ((s.requests stage).user_data_.insertNew key x)) := by
  refine ⟨received_setUserData _ _ _, ?_, fun hs => hs.setUserData fun y hy => ?_⟩
  · have hplaced := whereabouts_setUserData s stage ((s.requests stage).user_data_.insertNew key x)
    have hle := ids_insertNew_le (s.requests stage).user_data_ key x
    have hsum : (s.setUserData stage ((s.requests stage).user_data_.insertNew key x)).whereabouts +
        ids (s.requests stage).user_data_ ≤ {x.id} + s.whereabouts + ids (s.requests stage).user_data_ := by
      rw [hplaced, add_right_comm]
      exact add_le_add_left hle _
    exact le_of_add_le_add_right hsum
  · by_cases hkey : key ∈ (s.requests stage).user_data_
    · rw [Table.insertNew_of_mem hkey] at hy
      exact hs.waiting stage y hy
    · rw [Table.entries_insertNew hkey] at hy
      rcases List.mem_cons.mp hy with rfl | hold
      · exact hx
      · exact hs.waiting stage y hold

/-- **A submit is taken** out of a map. -/
theorem taken_erase {stage : Stage} {key : Bytes} (h : (s.requests stage).user_data_.lookup key = some x) :
    {x.id} + (s.setUserData stage ((s.requests stage).user_data_.erase key)).whereabouts = s.whereabouts := by
  have htaken := whereabouts_setUserData s stage ((s.requests stage).user_data_.erase key)
  rw [ids_erase h] at htaken
  have hsum : {x.id} + (s.setUserData stage ((s.requests stage).user_data_.erase key)).whereabouts +
      ids ((s.requests stage).user_data_.erase key) =
        s.whereabouts + ids ((s.requests stage).user_data_.erase key) := by
    rw [add_comm s.whereabouts, ← htaken]
    abel
  exact add_right_cancel hsum

theorem Genuine.erase (h : s.Genuine) (stage : Stage) (key : Bytes) :
    (s.setUserData stage ((s.requests stage).user_data_.erase key)).Genuine := by
  refine h.setUserData fun y hy => ?_
  rw [Table.entries_erase] at hy
  exact h.waiting stage y (List.mem_of_mem_filter hy)

theorem Genuine.of_lookup (h : s.Genuine) {stage : Stage} {key : Bytes}
    (hkey : (s.requests stage).user_data_.lookup key = some x) : x.Genuine s.received :=
  h.waiting stage _ (Table.mem_entries_iff.mpr hkey)

/-- What `send_resp` does. -/
theorem sendResp_cases (s : SubmitPath) (x : SubmitInfo) :
    s.sendResp x = s ∨ ∃ sessions a, s.sendResp x = { s with sessions := sessions, passed := s.passed ++ [a] } ∧
      a.submit = x.id ∧ a.session = x.originating_session_ ∧
        a.sequenceNumber = x.originating_sequence_number_ := by
  unfold sendResp sendSubmitResp
  split
  · exact .inl rfl
  · exact .inr ⟨_, _, rfl, rfl, rfl, rfl⟩

/-- **A submit is answered**, or lost where its client has no session. -/
theorem moves_sendResp (hx : x.Genuine s.received) : Moves {x.id} s (s.sendResp x) := by
  obtain hkept | ⟨sessions, a, hanswered, hsubmit, hsession, hnumber⟩ := sendResp_cases s x
  · rw [hkept]
    exact Keeps.moves ⟨rfl, fun _ => rfl, rfl⟩ _
  · rw [hanswered]
    refine ⟨rfl, ?_, fun hs => ⟨fun stage => ?_, fun b hb => ?_⟩⟩
    · simp only [whereabouts, List.map_append, List.map_cons, List.map_nil, ← Multiset.coe_add,
        Multiset.coe_singleton, hsubmit]
      refine le_of_eq ?_
      abel
    · have hwaiting := hs.waiting stage
      cases stage <;> exact hwaiting
    · rcases List.mem_append.mp hb with hold | hnew
      · exact hs.passed b hold
      · rw [List.mem_singleton.mp hnew, Passed.Genuine, hsubmit, hsession, hnumber]
        exact ⟨_, hx, rfl, rfl⟩

/-- A submit is answered with another status. -/
theorem moves_answer (hx : x.Genuine s.received) (status : CommandStatus) :
    Moves {x.id} s (s.sendResp { x with error_ := status }) :=
  moves_sendResp (x := { x with error_ := status }) hx

theorem moves_processResp (hx : x.Genuine s.received) (response : SubmitSmRespMessage) :
    Moves {x.id} s (s.processResp x response) :=
  moves_sendResp
    (x := { x with message_id_ := response.mdMessageId, error_ := response.errorCode.toUInt32 }) hx

end Rules

/-! ### The functions -/

/-- A function that had a submit in hand has put it somewhere, or has it still, when it does not say
`done`. -/
structure Tries {α : Type} (done : α) (x : SubmitInfo) (s : SubmitPath) (r : SubmitPath × Except Fault α) :
    Prop where
  moves : Moves {x.id} s r.1
  kept : r.2 ≠ .ok done → Keeps s r.1

section Functions

variable {X : Externals} {s t : SubmitPath} {x : SubmitInfo} {α : Type} {done : α}

theorem tries_of_keeps (h : Keeps s t) (result : Except Fault α) : Tries done x s (t, result) :=
  ⟨h.moves _, fun _ => h⟩

theorem tries_of_moves (h : Moves {x.id} s t) : Tries done x s (t, .ok done) :=
  ⟨h, fun hne => absurd rfl hne⟩

/-- Only the number of a submit counts. -/
theorem Tries.of_id {y : SubmitInfo} {r : SubmitPath × Except Fault α} (h : Tries done y s r)
    (hid : y.id = x.id) : Tries done x s r :=
  ⟨hid ▸ h.moves, h.kept⟩

theorem keeps_refl (s : SubmitPath) : Keeps s s := ⟨rfl, fun _ => rfl, rfl⟩

theorem tries_pinexSend (hx : x.Genuine s.received) (msg_type : UInt32) :
    Tries true x s (s.pinexSend X msg_type x) := by
  unfold pinexSend
  split
  · exact tries_of_keeps (keeps_refl s) _
  simp only
  split
  · exact tries_of_keeps (keeps_refl s) _
  · exact tries_of_keeps (keeps_refl s) _
  split
  · exact tries_of_keeps (keeps_refl s) _
  split
  · exact tries_of_keeps (keeps_setList s .pinex _) _
  · exact tries_of_keeps (keeps_setList s .pinex _) _
  rename_i list seq_no _
  split
  · exact tries_of_keeps (keeps_setList s .pinex _) _
  · have hkept := keeps_setList s .pinex (some list)
    have hplaced (key : Bytes) := moves_insertNew (s := s.setList .pinex (some list)) (x := x)
      (hkept.received ▸ hx) .pinex key
    exact tries_of_moves ((hkept.trans_moves (hplaced _)).trans_keeps (keeps_forwarded _ _))

theorem tries_onCheckPoliciesResponce (hx : x.Genuine s.received) :
    Tries () x s (s.onCheckPoliciesResponce X x) := by
  unfold onCheckPoliciesResponce
  split
  · exact tries_of_keeps (keeps_refl s) _
  split
  · have hsend := tries_pinexSend (X := X) hx aoReqType
    split
    · rename_i heq
      rw [heq] at hsend
      exact tries_of_keeps (hsend.kept (by simp)) _
    · rename_i heq
      rw [heq] at hsend
      exact tries_of_moves hsend.moves
    · rename_i heq
      rw [heq] at hsend
      have hkept : Keeps s _ := hsend.kept (by simp)
      exact tries_of_moves (hkept.trans_moves (moves_answer (hkept.received ▸ hx) _))
  · exact tries_of_moves (moves_sendResp hx)

theorem tries_checkPolicies (hx : x.Genuine s.received) (system_id : Bytes) (commands : List ℕ) :
    Tries true x s (s.checkPolicies X system_id x commands) := by
  unfold checkPolicies
  split
  · exact tries_of_keeps (keeps_refl s) _
  split
  · exact tries_of_keeps (keeps_refl s) _
  split
  · exact tries_of_keeps (keeps_setList s .paper _) _
  · exact tries_of_keeps (keeps_setList s .paper _) _
  rename_i list seq_no id _
  simp only
  split
  · exact tries_of_keeps (keeps_setList s .paper _) _
  · have hkept := keeps_setList s .paper (some list)
    have hplaced := moves_insertNew (s := s.setList .paper (some list)) (x := x) (hkept.received ▸ hx) .paper
      (requestKey seq_no id)
    exact tries_of_moves (hkept.trans_moves hplaced)

/-- **What is taken out of a map** and then moved is in no second place. -/
theorem moves_taken (hs : s.Genuine) (stage : Stage) {key : Bytes}
    (hkey : (s.requests stage).user_data_.lookup key = some x)
    (h : x.Genuine (s.setUserData stage ((s.requests stage).user_data_.erase key)).received →
      Moves {x.id} (s.setUserData stage ((s.requests stage).user_data_.erase key)) t) : Moves 0 s t := by
  have hreceived := received_setUserData s stage ((s.requests stage).user_data_.erase key)
  have hmoves := h (hreceived ▸ hs.of_lookup hkey)
  refine ⟨hmoves.received.trans hreceived, ?_, fun _ => hmoves.genuine (hs.erase stage key)⟩
  rw [zero_add, ← taken_erase hkey]
  exact hmoves.whereabouts_le

theorem moves_paperProcessResp (hs : s.Genuine) (client_id : Bytes) (seq_no : UInt32) (status : ℤ) :
    Moves 0 s (s.paperProcessResp X client_id seq_no status).1 := by
  unfold paperProcessResp
  simp only
  split
  · exact (keeps_refl s).moves 0
  · rename_i submit_data hkey
    refine moves_taken hs .paper hkey fun hx => ?_
    exact (tries_onCheckPoliciesResponce (x := { submit_data with error_ := policyStatus status }) hx).moves

theorem moves_pinexResolve (hs : s.Genuine) (client_id : Bytes) (seq_no : UInt32) (msg_body : Bytes)
    (type : UInt32) (response : Bytes → SubmitSmRespMessage) :
    Moves 0 s (s.pinexResolve client_id seq_no msg_body type response).1 := by
  unfold pinexResolve
  simp only
  split
  · exact (keeps_refl s).moves 0
  · rename_i orig_submit_info hkey
    refine moves_taken hs .pinex hkey fun hx => ?_
    split
    · exact (keeps_refl _).moves _
    split
    · exact moves_processResp hx _
    · exact (keeps_refl _).moves _

theorem moves_receiveResponse (hs : s.Genuine) (stage : Stage) (client_id : Bytes) (seq_no : UInt32)
    (msg_body : Bytes) : Moves 0 s (s.receiveResponse X stage client_id seq_no msg_body).1 := by
  cases stage with
  | paper =>
    change Moves 0 s (s.paperReceiveResponse X client_id seq_no msg_body).1
    unfold paperReceiveResponse
    split
    · exact (keeps_refl s).moves 0
    · exact moves_paperProcessResp hs _ _ _
  | pinex => exact moves_pinexResolve hs _ _ _ _ _

theorem moves_timeoutRequest (hs : s.Genuine) (stage : Stage) (client_id : Bytes) (seq_no : UInt32)
    (msg_body : Bytes) : Moves 0 s (s.timeoutRequest X stage client_id seq_no msg_body).1 := by
  cases stage with
  | paper => exact moves_paperProcessResp hs _ _ _
  | pinex =>
    rw [timeoutRequest, pinexTimeoutRequest]
    exact moves_pinexResolve hs _ _ _ _ _

theorem moves_timeouts (hs : s.Genuine) (stage : Stage) (server_id : Bytes)
    (expired : List (UInt32 × Pinex.Stream)) : Moves 0 s (s.timeouts X stage server_id expired).1 := by
  induction expired generalizing s with
  | nil => exact (keeps_refl s).moves 0
  | cons request rest ih =>
    obtain ⟨sequence_number, sm⟩ := request
    have hmoves := moves_timeoutRequest (X := X) hs stage server_id sequence_number sm.messageBody
    unfold timeouts
    split
    · rename_i heq
      rw [heq] at hmoves
      exact hmoves.trans (ih (hmoves.genuine hs))
    · rename_i heq
      rw [heq] at hmoves
      exact hmoves

theorem moves_onSessionResponse (hs : s.Genuine) (stage : Stage) (list : Pinex.PClientList) (k : ℕ)
    (server_id : Bytes) (resp_packet : Pinex.Pdu) (sequence_number : UInt32) :
    Moves 0 s (s.onSessionResponse X stage list k server_id resp_packet sequence_number).1 := by
  unfold onSessionResponse
  split
  · exact (keeps_setList s stage _).moves 0
  · rename_i clnt body _
    have hkept := keeps_setList s stage (some (list.update k clnt))
    exact hkept.trans_moves (moves_receiveResponse (hkept.genuine hs) _ _ _ _)

theorem moves_onTimer (hs : s.Genuine) (stage : Stage) (list : Pinex.PClientList) (k : ℕ) :
    Moves 0 s (s.onTimer X stage list k).1 := by
  unfold onTimer
  simp only
  have hmoves := moves_timeouts (X := X) hs stage (list.p_client_list_ k).server_id_
    (list.p_client_list_ k).packet_expirator_.expiring
  split
  · rename_i heq
    rw [heq] at hmoves
    exact hmoves
  · rename_i heq
    rw [heq] at hmoves
    exact hmoves.trans_keeps (keeps_setList _ _ _)

theorem tries_judge (hx : x.Genuine s.received) (ext_client : Submitter) :
    Tries () x s (s.judge X ext_client x) := by
  unfold judge
  split
  · have htries := tries_onCheckPoliciesResponce (X := X) (x := { x with error_ := CommandStatus.rok }) hx
    exact htries.of_id rfl
  · have hcheck := tries_checkPolicies (X := X) hx ext_client.system_id_ ext_client.policy_commands_
    split
    · rename_i heq
      rw [heq] at hcheck
      exact tries_of_keeps (hcheck.kept (by simp)) _
    · rename_i heq
      rw [heq] at hcheck
      exact tries_of_moves hcheck.moves
    · rename_i heq
      rw [heq] at hcheck
      have hkept : Keeps s _ := hcheck.kept (by simp)
      exact tries_of_moves (hkept.trans_moves (moves_answer (hkept.received ▸ hx) _))

/-- What is filled in is not what tells the submits from each other. -/
theorem prepare_eq_ok {ext_client : Submitter} {a : Arrival} {y : SubmitInfo}
    (h : prepare X ext_client a x = .ok y) :
    y.id = x.id ∧ y.originating_ext_client_ = x.originating_ext_client_ ∧
      y.originating_session_ = x.originating_session_ ∧
        y.originating_sequence_number_ = x.originating_sequence_number_ := by
  unfold prepare at h
  split at h
  · cases h
  simp only at h
  split at h
  · cases h
  split at h
  · cases h
  · cases h
    exact ⟨rfl, rfl, rfl, rfl⟩

theorem tries_tryProcess (hx : x.Genuine s.received) (a : Arrival) : Tries () x s (s.tryProcess X a x) := by
  unfold tryProcess
  simp only
  split
  · exact tries_of_keeps (keeps_refl s) _
  · rename_i y heq
    obtain ⟨hid, hclient, hsession, hnumber⟩ := prepare_eq_ok heq
    have hy : y.Genuine s.received := by rwa [SubmitInfo.Genuine, hid, hclient, hsession, hnumber]
    exact (tries_judge hy _).of_id hid

/-! ### Runs -/

/-- The submits so far stay in their places. -/
theorem Genuine.receive (h : s.Genuine) (r : Received) :
    Genuine { s with received := s.received ++ [r] } := by
  have hplace {i : ℕ} {old : Received} (hi : s.received[i]? = some old) :
      (s.received ++ [r])[i]? = some old := by
    rw [List.getElem?_append_left (List.getElem?_eq_some_iff.mp hi).1, hi]
  refine ⟨fun stage x hx => ?_, fun a ha => ?_⟩
  · have hwaiting := h.waiting stage
    cases stage <;> exact hplace (hwaiting x hx)
  · obtain ⟨old, hold, hgenuine⟩ := h.passed a ha
    exact ⟨old, hplace hold, hgenuine⟩

theorem keeps_surroundings (s : SubmitPath) (sessions : ℕ → Session CommandId CommandStatus Pdu)
    (ext_clients : ℕ → Submitter) (router : UInt32 → Bytes → Except Fault (List Bytes)) :
    Keeps s { s with sessions := sessions, ext_clients := ext_clients, router_ := router } := by
  refine ⟨rfl, ?_, rfl⟩
  intro stage
  cases stage <;> rfl

theorem keeps_pauseReceiving (s : SubmitPath) (client : ℕ) : Keeps s (s.pauseReceiving client) :=
  keeps_surroundings s _ _ _

/-- **An arrival** makes the next submit, and puts it into one place. -/
theorem moves_processSubmitReq (s : SubmitPath) (a : Arrival) :
    Moves {s.received.length}
      { s with received := s.received ++ [Received.mk a.client a.session a.sequenceNumber] }
      (s.processSubmitReq X a).1 := by
  have hx : (s.submitInfo a).Genuine
      (s.received ++ [Received.mk a.client a.session a.sequenceNumber]) := by
    simp [SubmitInfo.Genuine, submitInfo]
  unfold processSubmitReq
  simp only
  split
  · exact moves_answer (x := s.submitInfo a) hx _
  generalize hreceive : { s with received := s.received ++ [Received.mk a.client a.session a.sequenceNumber] } = t
  have hreceived : t.received = s.received ++ [Received.mk a.client a.session a.sequenceNumber] := by
    rw [← hreceive]
  have hpaused : Keeps t (if a.waitTime ≠ 0 then t.pauseReceiving a.client else t) := by
    split
    · exact keeps_pauseReceiving t a.client
    · exact keeps_refl t
  generalize (if a.waitTime ≠ 0 then t.pauseReceiving a.client else t) = u at hpaused ⊢
  have hxu : (s.submitInfo a).Genuine u.received := by rwa [hpaused.received, hreceived]
  have htries := tries_tryProcess (X := X) hxu a
  split
  · rename_i heq
    rw [heq] at htries
    exact hpaused.trans_moves htries.moves
  · rename_i heq
    rw [heq] at htries
    exact hpaused.trans_moves htries.moves
  · rename_i v _ heq
    rw [heq] at htries
    have hkept : Keeps u v := htries.kept (by simp)
    exact (hpaused.trans hkept).trans_moves (moves_answer (x := s.submitInfo a) (hkept.received ▸ hxu) _)

theorem keeps_returned (r : SubmitPath × Except Fault Unit) : Keeps r.1 (returned r) := by
  obtain ⟨t, result⟩ := r
  refine ⟨?_, fun stage => ?_, ?_⟩
  · cases result <;> rfl
  · cases result <;> cases stage <;> rfl
  · cases result <;> rfl

/-- What an event does to the submits: it moves them, and makes at most the next one. -/
theorem step_spec (hs : s.Genuine) (e : SubmitEvent) :
    Moves 0 s (s.step X e) ∨
      ∃ r, Moves {s.received.length} { s with received := s.received ++ [r] } (s.step X e) := by
  unfold step
  split
  · exact .inl ((keeps_refl s).moves 0)
  cases e with
  | submit a => exact .inr ⟨_, (moves_processSubmitReq s a).trans_keeps (keeps_returned _)⟩
  | response stage k server_id resp_packet sequence_number =>
    simp only
    split
    · exact .inl ((keeps_refl s).moves 0)
    · exact .inl ((moves_onSessionResponse hs stage _ k _ _ _).trans_keeps (keeps_returned _))
  | timer stage k =>
    simp only
    split
    · exact .inl ((keeps_refl s).moves 0)
    · exact .inl ((moves_onTimer hs stage _ k).trans_keeps (keeps_returned _))
  | connect stage list => exact .inl ((keeps_setList s stage list).moves 0)
  | serve sessions => exact .inl ((keeps_surroundings s sessions _ _).moves 0)
  | configure ext_clients => exact .inl ((keeps_surroundings s _ ext_clients _).moves 0)
  | route router => exact .inl ((keeps_surroundings s _ _ router).moves 0)

/-- The submits are in custody. -/
def custody (X : Externals) : Custody (step X) where
  made s := s.received.length
  held := whereabouts
  Good := Genuine
  good_step s e hs := by
    rcases step_spec (X := X) hs e with hmoves | ⟨r, hmoves⟩
    · exact hmoves.genuine hs
    · exact hmoves.genuine (hs.receive r)
  step_le s e hs := by
    rcases step_spec (X := X) hs e with hmoves | ⟨r, hmoves⟩
    · refine .inl ⟨by rw [hmoves.received], ?_⟩
      simpa using hmoves.whereabouts_le
    · exact .inr ⟨by rw [hmoves.received, List.length_append, List.length_singleton], hmoves.whereabouts_le⟩

theorem genuine_start (run : Bool) (ext_clients : ℕ → Submitter)
    (sessions : ℕ → Session CommandId CommandStatus Pdu) (router : UInt32 → Bytes → Except Fault (List Bytes))
    (paper pinex : Option Pinex.PClientList) : (start run ext_clients sessions router paper pinex).Genuine := by
  refine ⟨?_, fun a ha => (nomatch ha)⟩
  intro stage x hx
  cases stage <;> exact nomatch hx

/-- **One answer for a submit, in every run** from the start of the gateway: no two answers are for one submit,
and an answer goes to the session and has the number that the submit came with; no submit is in both maps or
twice in one of them, and none that is in a map has been answered. -/
theorem answers_run (X : Externals) (running : Bool) (ext_clients : ℕ → Submitter)
    (sessions : ℕ → Session CommandId CommandStatus Pdu) (router : UInt32 → Bytes → Except Fault (List Bytes))
    (paper pinex : Option Pinex.PClientList) (events : List SubmitEvent) :
    let s := run (step X) (start running ext_clients sessions router paper pinex) events
    (s.passed.map Passed.submit).Nodup ∧
    (∀ a ∈ s.passed, ∃ r, s.received[a.submit]? = some r ∧ a.session = r.session ∧
      a.sequenceNumber = r.sequenceNumber) ∧
    (∀ stage, ((s.requests stage).user_data_.entries.map fun x => x.2.id).Nodup) ∧
    (∀ x ∈ s.paper_client_.user_data_.entries, ∀ y ∈ s.pinex_.user_data_.entries, x.2.id ≠ y.2.id) ∧
    ∀ stage, ∀ x ∈ (s.requests stage).user_data_.entries, ∀ a ∈ s.passed, a.submit ≠ x.2.id := by
  intro s
  have hsound : (custody X).Sound s :=
    Custody.nodup_run (custody X) (genuine_start running ext_clients sessions router paper pinex) rfl events
  obtain ⟨hwaiting, hpassed, hanswered⟩ := Multiset.nodup_add.mp hsound.nodup
  obtain ⟨hpaper, hpinex, hapart⟩ := Multiset.nodup_add.mp hwaiting
  refine ⟨hpassed, hsound.good.passed, fun stage => ?_, fun x hx y hy heq => ?_, fun stage x hx a ha heq => ?_⟩
  · cases stage with
    | paper => exact hpaper
    | pinex => exact hpinex
  · exact Multiset.disjoint_left.mp hapart (mem_ids hx) (heq ▸ mem_ids hy)
  · have hmem : x.2.id ∈ ids s.paper_client_.user_data_ + ids s.pinex_.user_data_ := by
      cases stage with
      | paper => exact Multiset.mem_add.mpr (.inl (mem_ids hx))
      | pinex => exact Multiset.mem_add.mpr (.inr (mem_ids hx))
    exact Multiset.disjoint_left.mp hanswered hmem (Multiset.mem_coe.mpr (List.mem_map.mpr ⟨a, ha, heq⟩))

end Functions

end SubmitPath

end SmppGateway.Gateway
