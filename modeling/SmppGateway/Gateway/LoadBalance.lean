import SmppGateway.Gateway.SubmitPath
import SmppGateway.Routing.Selection

/-!
# Load balancing by the number

With the method `load_balance` a submit goes to the backend that the last five characters of its
international destination address select (`MyHash` and `route_by_load_balance` of
`src/routing/pinex/router.cpp`). `pinex::send` calls `find` outside of its `try`, and `MyHash` is `noexcept`.

## What is proved

* `hashable_iff_of_le` — as long as an `int` counts the targets, only the digits matter.
* `routeByLoadBalance_iff` — for any list of targets and any address of a submit, exactly one target is
  selected if the address is `Hashable`, and otherwise the call does not return.
-/

namespace SmppGateway.Gateway

open SmppGateway.Foundation SmppGateway.Routing SmppGateway.Smpp

/-- An address that selects one of `n` targets: it has five last characters, which begin with a number behind
white space and a sign, and the number, as a `size_t`, leaves a remainder that is not negative as an `int`. -/
def Hashable (n : ℕ) (address : Bytes) : Prop :=
  5 ≤ address.length ∧ (scan (address.drop (address.length - 5))).digits ≠ [] ∧
    ((scan (address.drop (address.length - 5))).value % 2 ^ 64).toNat % n % 2 ^ 32 < 2 ^ 31

instance (n : ℕ) (address : Bytes) : Decidable (Hashable n address) := inferInstanceAs (Decidable (_ ∧ _))

theorem hashable_iff_of_le {n : ℕ} (hpos : 0 < n) (hn : n ≤ 2 ^ 31) (address : Bytes) :
    Hashable n address ↔ 5 ≤ address.length ∧ (scan (address.drop (address.length - 5))).digits ≠ [] := by
  have hint : ((scan (address.drop (address.length - 5))).value % 2 ^ 64).toNat % n % 2 ^ 32 < 2 ^ 31 :=
    Nat.lt_of_le_of_lt (Nat.mod_le _ _) (Nat.lt_of_lt_of_le (Nat.mod_lt _ hpos) hn)
  rw [Hashable, and_iff_left hint]

/-- `MyHash` returns for an address with a number at its end. -/
theorem myHash_eq {address : Bytes} (hlen : 5 ≤ address.length) : myHash address =
    if (scan (address.drop (address.length - 5))).digits ≠ [] then
      .ok (scan (address.drop (address.length - 5))).value
    else .error .terminated := by
  have hshort : (address.drop (address.length - 5)).length ≤ 9 := by
    rw [List.length_drop]
    omega
  rw [myHash, if_neg (by omega), stoi_eq hshort]
  split_ifs <;> rfl

/-- **Load balancing** appends one target for exactly the hashable addresses. -/
theorem routeByLoadBalance_iff (r : Router) (hne : r.targets_list_ ≠ []) (ton : Ton) (addr : Bytes) :
    (∃ target ∈ r.targets_list_, r.routeByLoadBalance (convertToInternational ton addr) = .ok [target]) ↔
      Hashable r.targets_list_.length (convertToInternational ton addr) := by
  have hpos : 0 < r.targets_list_.length := List.length_pos_of_ne_nil hne
  generalize convertToInternational ton addr = address
  rw [Router.routeByLoadBalance, if_pos hpos, Hashable]
  by_cases hlen : 5 ≤ address.length
  · rw [myHash_eq hlen]
    by_cases hdigits : (scan (address.drop (address.length - 5))).digits ≠ []
    · have hindex : ((scan (address.drop (address.length - 5))).value % 2 ^ 64).toNat %
          r.targets_list_.length % 2 ^ 32 < r.targets_list_.length :=
        Nat.lt_of_le_of_lt (Nat.mod_le _ _) (Nat.mod_lt _ hpos)
      rw [if_pos hdigits]
      simp only [List.getElem?_eq_getElem hindex]
      by_cases hint : ((scan (address.drop (address.length - 5))).value % 2 ^ 64).toNat %
          r.targets_list_.length % 2 ^ 32 < 2 ^ 31
      · exact iff_of_true ⟨_, List.getElem_mem hindex, if_pos hint⟩ ⟨hlen, hdigits, hint⟩
      · rw [if_neg hint]
        refine iff_of_false ?_ fun h => hint h.2.2
        rintro ⟨target, -, h⟩
        cases h
    · rw [if_neg hdigits]
      refine iff_of_false ?_ fun h => hdigits h.2.1
      rintro ⟨target, -, h⟩
      cases h
  · rw [myHash, if_pos (by omega)]
    refine iff_of_false ?_ fun h => hlen h.1
    rintro ⟨target, -, h⟩
    cases h

theorem routeByLoadBalance_iff_national : [ascii "a", ascii "b"] ≠ [] ∧
    ∃ target ∈ [ascii "a", ascii "b"],
      (Router.mk [ascii "a", ascii "b"] 0).routeByLoadBalance
        (convertToInternational 0x02 (ascii "9121234567")) = .ok [target] :=
  ⟨by decide, (routeByLoadBalance_iff ⟨[ascii "a", ascii "b"], 0⟩ (by decide) 0x02
    (ascii "9121234567")).mpr (by decide)⟩

/-- An international number of three digits ends the process. -/
theorem not_routeByLoadBalance : ¬ ∀ (r : Router) (ton : Ton) (addr : Bytes), r.targets_list_ ≠ [] →
    r.targets_list_.Pairwise (· < ·) → addr.length ≤ 20 →
      ∃ target ∈ r.targets_list_, r.routeByLoadBalance (convertToInternational ton addr) = .ok [target] := by
  intro h
  obtain ⟨target, -, hok⟩ := h ⟨[ascii "a"], 0⟩ 0x01 (ascii "123") (by decide)
    (List.pairwise_singleton _ _) (by decide)
  have hend : (Router.mk [ascii "a"] 0).routeByLoadBalance (convertToInternational 0x01 (ascii "123")) =
      .error .terminated := by decide
  rw [hend] at hok
  cases hok

end SmppGateway.Gateway
