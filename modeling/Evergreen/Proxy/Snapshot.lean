import Evergreen.Machine.Run
import Evergreen.Proxy.Balancer

namespace Evergreen.Proxy

/-! # The addresses that the TCP proxy starts with

`start_tcp_proxy` captures the list of addresses once.  `select_backend_static`
looks whether that list is empty before it looks at the backends there are.
-/

/-- What can happen to the backends and to `rr_index`. -/
inductive BackendCall where
  | registerBackend (addr : String) (weight : Nat) (healthy : Bool)
  | setBackendHealth (addr : String) (healthy : Bool)
  | selectBackend
deriving DecidableEq, Repr

/-- A selection that panics leaves the state as it is. -/
def Balancer.call (checks : Bool) (balancer : Balancer) : BackendCall → Balancer
  | .registerBackend addr weight healthy => balancer.registerBackend addr weight healthy
  | .setBackendHealth addr healthy => balancer.setBackendHealth addr healthy
  | .selectBackend => ((balancer.selectBackend checks).map Prod.snd).getD balancer

def BackendCall.registers : BackendCall → Bool
  | .registerBackend _ _ _ => true
  | _ => false

/-- The running proxy, with the addresses that it started with. -/
structure TcpProxy where
  balancer : Balancer
  backends : List String

def tcpProxy (checks : Bool) : Machine TcpProxy BackendCall :=
  .ofFunction fun proxy call => { proxy with balancer := proxy.balancer.call checks call }

/-- `start_tcp_proxy` after some calls. -/
def startTcpProxy (checks : Bool) (before : List BackendCall) : TcpProxy :=
  let balancer := before.foldl (Balancer.call checks) Balancer.new
  ⟨balancer, balancer.addresses⟩

/-- What a caller sees of a selection: the backend and `rr_index`. -/
def Balancer.seen (balancer : Balancer) (selected : Option (Choice × Balancer)) :
    Option (Option String × Nat) :=
  selected.map fun (choice, next) => (balancer.address choice, next.rrIndex)

def TcpProxy.Agrees (checks : Bool) (proxy : TcpProxy) : Prop :=
  proxy.balancer.seen (proxy.balancer.selectBackendStatic checks proxy.backends) =
    proxy.balancer.seen (proxy.balancer.selectBackend checks)

instance (checks : Bool) (proxy : TcpProxy) : Decidable (proxy.Agrees checks) := inferInstanceAs (Decidable (_ = _))

/-- There is no backend to select: none is healthy, or the weights come to zero. -/
def Balancer.Idle (checks : Bool) (balancer : Balancer) : Prop :=
  balancer.healthy = [] ∨
    ∃ total, sumU32 checks (balancer.healthy.map Prod.snd) = some total ∧ total.val = 0

variable {balancer : Balancer} {checks : Bool} {proxy : TcpProxy} {before : List BackendCall}

/-! ## The selection that is skipped -/

theorem choose_idle (idle : balancer.Idle checks) :
    balancer.choose checks = some (.nothing, balancer) := by
  unfold Balancer.choose
  cases listed : balancer.healthy with
  | nil => rfl
  | cons entry rest =>
      obtain ⟨first, weight⟩ := entry
      obtain ⟨total, summed, zero⟩ := idle.resolve_left (by simp [listed])
      rw [listed] at summed
      dsimp only
      rw [summed, Option.map_some, dif_pos (Fin.ext zero)]

theorem address_isSome {index weight : Nat} (listed : (index, weight) ∈ balancer.healthy) :
    (balancer.backends[index]?).map (·.addr) ≠ none := by
  obtain ⟨entry, present, _⟩ := Balancer.mem_healthy.mp listed
  simp [present]

/-- Otherwise the function panics or returns a backend. -/
theorem seen_choose_of_not_idle (busy : ¬ balancer.Idle checks) (rrIndex : Nat) :
    balancer.seen (balancer.choose checks) ≠ some (none, rrIndex) := by
  intro seen
  unfold Balancer.choose Balancer.seen at seen
  cases listed : balancer.healthy with
  | nil => exact busy (.inl listed)
  | cons entry rest =>
      obtain ⟨first, weight⟩ := entry
      rw [listed] at seen
      dsimp only at seen
      obtain ⟨⟨choice, next⟩, chosen, unseen⟩ := Option.map_eq_some_iff.mp seen
      obtain ⟨total, summed, chosen⟩ := Option.map_eq_some_iff.mp chosen
      by_cases zero : total = 0
      · exact busy (.inr ⟨total, by rw [listed, summed], congrArg Fin.val zero⟩)
      · rw [dif_neg zero] at chosen
        cases chosen
        have nowhere := congrArg Prod.fst unseen
        cases picked : Search.pick ((first, weight) :: rest) (balancer.rrIndex % 2 ^ 32 % total) with
        | some index =>
            rw [picked] at nowhere
            obtain ⟨other, member⟩ := Search.pick_mem picked
            exact address_isSome (listed ▸ member) nowhere
        | none =>
            rw [picked] at nowhere
            exact address_isSome (listed ▸ List.mem_cons_self) nowhere

theorem TcpProxy.agrees_iff (proxy : TcpProxy) :
    proxy.Agrees checks ↔ proxy.backends ≠ [] ∨ proxy.balancer.Idle checks := by
  unfold TcpProxy.Agrees Balancer.selectBackendStatic Balancer.selectBackend
  by_cases started : proxy.backends = []
  · rw [started, List.isEmpty_nil, if_pos rfl]
    constructor
    · intro agrees
      refine .inr (by_contra fun busy => ?_)
      exact seen_choose_of_not_idle busy proxy.balancer.rrIndex agrees.symm
    · intro idle
      rw [choose_idle (idle.resolve_left (not_not.mpr rfl))]
  · have nonempty : ¬ proxy.backends.isEmpty = true := by simpa using started
    rw [if_neg nonempty]
    exact ⟨fun _ => .inl started, fun _ => rfl⟩

/-! ## Runs -/

theorem length_setHealth (addr : String) (healthy : Bool) (entries : List BackendEntry) :
    (Balancer.setHealth addr healthy entries).length = entries.length := by
  induction entries with
  | nil => rfl
  | cons entry entries ih =>
      unfold Balancer.setHealth
      split
      · rfl
      · exact congrArg Nat.succ ih

theorem choose_backends {selected : Choice × Balancer}
    (chosen : balancer.choose checks = some selected) :
    selected.2.backends = balancer.backends := by
  unfold Balancer.choose at chosen
  split at chosen
  · cases chosen
    rfl
  · obtain ⟨total, _, rfl⟩ := Option.map_eq_some_iff.mp chosen
    split <;> rfl

theorem length_call (call : BackendCall) : (balancer.call checks call).backends.length =
    balancer.backends.length + call.registers.toNat := by
  cases call with
  | registerBackend addr weight healthy =>
      simp [Balancer.call, Balancer.registerBackend, BackendCall.registers]
  | setBackendHealth addr healthy => exact length_setHealth addr healthy balancer.backends
  | selectBackend =>
      simp only [Balancer.call, Balancer.selectBackend]
      cases chosen : balancer.choose checks with
      | none => rfl
      | some selected => exact congrArg List.length (choose_backends chosen)

theorem length_calls (checks : Bool) (balancer : Balancer) (calls : List BackendCall) :
    (calls.foldl (Balancer.call checks) balancer).backends.length =
      balancer.backends.length + calls.countP (·.registers) := by
  induction calls generalizing balancer with
  | nil => rfl
  | cons call calls ih =>
      rw [List.foldl_cons, ih, length_call, List.countP_cons]
      cases call.registers with
      | false => simp
      | true =>
          simp only [Bool.toNat_true, if_true]
          omega

theorem started_empty_iff : (startTcpProxy checks before).backends = [] ↔
    ∀ call ∈ before, call.registers = false := by
  have length := length_calls checks Balancer.new before
  rw [← List.length_eq_zero_iff]
  simp only [startTcpProxy, Balancer.addresses, List.length_map, length]
  simp [Balancer.new, List.countP_eq_zero]

theorem always_backends (checks : Bool) (proxy : TcpProxy) (calls : List BackendCall) :
    (tcpProxy checks).Always (fun other => other.backends = proxy.backends) proxy calls :=
  Machine.always_ofFunction (fun other : TcpProxy => other.backends = proxy.backends)
    (fun _ _ kept => kept) rfl

/-- The two selections agree in every state of a run of the proxy exactly when a
backend was registered before it started, or there never is one to select. -/
theorem selections_agree_iff (checks : Bool) (before after : List BackendCall) :
    (tcpProxy checks).Always (TcpProxy.Agrees checks) (startTcpProxy checks before) after ↔
      (∃ call ∈ before, call.registers = true) ∨
        (tcpProxy checks).Always (fun proxy => proxy.balancer.Idle checks)
          (startTcpProxy checks before) after := by
  have captured := always_backends checks (startTcpProxy checks before) after
  by_cases empty : (startTcpProxy checks before).backends = []
  · have unregistered : ¬ ∃ call ∈ before, call.registers = true := by
      rintro ⟨call, member, registers⟩
      exact Bool.noConfusion ((started_empty_iff.mp empty call member).symm.trans registers)
    constructor
    · intro agrees
      refine .inr ((captured.and agrees).imp fun proxy both => ?_)
      exact (proxy.agrees_iff.mp both.2).resolve_left fun some => some (both.1.trans empty)
    · intro idle
      refine (idle.resolve_left unregistered).imp fun proxy idle => ?_
      exact proxy.agrees_iff.mpr (.inr idle)
  · have registered : ∃ call ∈ before, call.registers = true := by
      by_contra none
      refine empty (started_empty_iff.mpr fun call member => ?_)
      exact Bool.eq_false_iff.mpr fun registers => none ⟨call, member, registers⟩
    refine ⟨fun _ => .inl registered, fun _ => captured.imp fun proxy same => ?_⟩
    exact proxy.agrees_iff.mpr (.inl (same ▸ empty))

/-- A proxy that starts before its first backend is registered turns every
connection away. -/
theorem early_start_selects_nothing :
    ¬ (tcpProxy false).Always (TcpProxy.Agrees false) (startTcpProxy false [])
      [.registerBackend "10.0.0.1:5432" 1 true] := by
  intro agrees
  have registered := agrees.last rfl
  exact absurd registered (by decide)

end Evergreen.Proxy
